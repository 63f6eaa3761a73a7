import CloudCredit.Accounting.Heartbeats
import CloudCredit.Gateway.Dedup

/-!
# In-order traffic through both layers of deduplication

The gateway knows no number of a cluster before its first heartbeat; the workflow
records the number zero when the cluster is registered. Apart from that the two
layers compare in the same way: heartbeats with increasing numbers that pass the
gateway in order pass the workflow too, wherever the flushes fall, and each of
them is in one successful batch.
-/
namespace CloudCredit.Accounting

open Library TigerBeetle Domain Ledger

namespace Execution

variable {h : Blake3} {ev : Event} {e e' : Execution} {c : String}

/-- The numbers of a cluster are positive and increase, the newest heartbeat first. -/
def Increasing (c : String) (hbs : List HeartbeatSignal) : Prop :=
  (∀ hb ∈ hbs, hb.clusterID = c → 0 < hb.sequenceNumber) ∧
    hbs.Pairwise fun x y => x.clusterID = c → y.clusterID = c → y.sequenceNumber < x.sequenceNumber

/-- The heartbeats of a cluster that are not submitted yet, in their order. -/
def waiting (e : Execution) : List HeartbeatSignal := e.state.curBatch ++ e.hbCh

/-- The heartbeats of a cluster wait in the order of their numbers, all of them
above the recorded one, and none was skipped or lost. -/
structure InLine (c : String) (e : Execution) : Prop where
  arrived : ∀ x ∈ e.waiting, x ∈ e.history.delivered
  recorded : ∀ q, e.state.processedSeqs c = some q → q = 0 ∨
    ∃ x ∈ e.history.delivered, x.clusterID = c ∧ x.sequenceNumber = q
  ahead : ∀ q, e.state.processedSeqs c = some q → ∀ x ∈ e.waiting, x.clusterID = c →
    q < x.sequenceNumber
  ordered : e.waiting.Pairwise fun x y =>
    x.clusterID = c → y.clusterID = c → x.sequenceNumber < y.sequenceNumber
  kept : ∀ x ∈ e.history.dropped ++ e.history.lost, x.clusterID ≠ c

/-- A heartbeat with the next number joins the line. -/
theorem InLine.arrive (hl : InLine c e) {sig : HeartbeatSignal}
    (hinc : Increasing c (sig :: e.history.delivered)) :
    InLine c { e with
      hbCh := e.hbCh ++ [sig]
      history := { e.history with delivered := sig :: e.history.delivered } } := by
  have hnext := (List.pairwise_cons.mp hinc.2).1
  have hwaiting : ∀ x, x ∈ e.state.curBatch ++ (e.hbCh ++ [sig]) → x ∈ e.waiting ∨ x = sig := by
    intro x hx
    rw [← List.append_assoc] at hx
    exact (List.mem_append.mp hx).imp id List.mem_singleton.mp
  refine ⟨fun x hx => ?_, fun q hq => ?_, fun q hq x hx hcluster => ?_, ?_, hl.kept⟩
  · rcases hwaiting x hx with hx | rfl
    · exact List.mem_cons_of_mem _ (hl.arrived x hx)
    · exact List.mem_cons_self
  · rcases hl.recorded q hq with h0 | ⟨x, hx, hxq⟩
    · exact .inl h0
    · exact .inr ⟨x, List.mem_cons_of_mem _ hx, hxq⟩
  · rcases hwaiting x hx with hx | rfl
    · exact hl.ahead q hq x hx hcluster
    · rcases hl.recorded q hq with rfl | ⟨y, hy, hyc, rfl⟩
      · exact hinc.1 x List.mem_cons_self hcluster
      · exact hnext y hy hcluster hyc
  · rw [waiting, ← List.append_assoc, List.pairwise_append]
    refine ⟨hl.ordered, List.pairwise_singleton _ _, fun x hx y hy hxc hyc => ?_⟩
    rw [List.mem_singleton.mp hy] at hyc ⊢
    exact hnext x (hl.arrived x hx) hyc hxc

/-- A line with the same heartbeats in it, after the recorded number has changed. -/
theorem InLine.update (hl : InLine c e) (hwaiting : e'.waiting = e.waiting)
    (hdelivered : e'.history.delivered = e.history.delivered)
    (hkept : ∀ x ∈ e'.history.dropped ++ e'.history.lost, x.clusterID ≠ c)
    (hseqs : ∀ q, e'.state.processedSeqs c = some q → e.state.processedSeqs c = some q ∨
      q = 0 ∧ ∀ x ∈ e.waiting, x.clusterID = c → 0 < x.sequenceNumber) : InLine c e' := by
  refine ⟨?_, fun q hq => ?_, fun q hq => ?_, ?_, hkept⟩
  · rw [hwaiting, hdelivered]
    exact hl.arrived
  · rw [hdelivered]
    rcases hseqs q hq with hq | ⟨rfl, -⟩
    · exact hl.recorded q hq
    · exact .inl rfl
  · rw [hwaiting]
    rcases hseqs q hq with hq | ⟨rfl, hpos⟩
    · exact hl.ahead q hq
    · exact hpos
  · rw [hwaiting]
    exact hl.ordered

/-- The batch at the head of the line is submitted. -/
theorem InLine.submitted (hl : InLine c e) (site : FlushSite) (input : TBBatchInput)
    (result : TBBatchResult) : InLine c (e.batchSubmitted site input result) := by
  have hsplit := List.pairwise_append.mp hl.ordered
  have hrest : ∀ x ∈ e.hbCh, x ∈ e.waiting := fun x hx => List.mem_append_right _ hx
  refine ⟨fun x hx => hl.arrived x (hrest x hx), fun q hq => ?_, fun q hq x hx hcluster => ?_,
    hsplit.2.1, hl.kept⟩
  · rcases foldl_markProcessed_cases hq with hq | ⟨y, hy, hyc, hyq⟩
    · exact hl.recorded q hq
    · exact .inr ⟨y, hl.arrived y (List.mem_append_left _ hy), hyc, hyq⟩
  · rcases foldl_markProcessed_cases hq with hq | ⟨y, hy, hyc, rfl⟩
    · exact hl.ahead q hq x (hrest x hx) hcluster
    · exact hsplit.2.2 y hy x hx hyc hcluster

/-- A skipped heartbeat is none of the cluster. -/
theorem InLine.skip (hl : InLine c e) {sig : HeartbeatSignal} {rest : List HeartbeatSignal}
    (hch : e.hbCh = sig :: rest) (hseen : e.state.alreadyProcessed sig = true) :
    InLine c { e with
      hbCh := rest
      history := { e.history with dropped := sig :: e.history.dropped } } := by
  have hhead : sig ∈ e.waiting := List.mem_append_right _ (by rw [hch]; exact List.mem_cons_self)
  have hother : sig.clusterID ≠ c := by
    intro hcluster
    unfold TenantAccountingState.alreadyProcessed at hseen
    rw [hcluster] at hseen
    cases hq : e.state.processedSeqs c with
    | none =>
      rw [hq] at hseen
      cases hseen
    | some q =>
      rw [hq] at hseen
      exact UInt64.not_lt.mpr (by simpa using hseen) (hl.ahead q hq sig hhead hcluster)
  have hsub : (e.state.curBatch ++ rest).Sublist e.waiting := by
    rw [waiting, hch]
    exact (List.Sublist.refl _).append (List.sublist_cons_self _ _)
  refine ⟨fun x hx => hl.arrived x (hsub.subset hx), hl.recorded,
    fun q hq x hx => hl.ahead q hq x (hsub.subset hx), hl.ordered.sublist hsub, fun x hx => ?_⟩
  rcases List.mem_cons.mp hx with rfl | hx
  · exact hother
  · exact hl.kept x hx

theorem Increasing.tail {x : HeartbeatSignal} {xs : List HeartbeatSignal}
    (hi : Increasing c (x :: xs)) : Increasing c xs :=
  ⟨fun hb hmem => hi.1 hb (List.mem_cons_of_mem _ hmem), (List.pairwise_cons.mp hi.2).2⟩

theorem move_inLine (hm : Move h ev e e') (hl : Increasing c e.history.delivered → InLine c e)
    (hinc : Increasing c e'.history.delivered) : InLine c e' := by
  cases hm with
  | quiet same =>
    rw [same.delivered] at hinc
    have hline := hl hinc
    refine hline.update ?_ same.delivered ?_ fun q hq => ?_
    · rw [waiting, same.curBatch, same.hbCh, waiting]
    · rw [same.dropped, same.lost]
      exact hline.kept
    · rw [same.processedSeqs] at hq
      exact .inl hq
  | arrive sig => exact (hl hinc.tail).arrive hinc
  | skip hch hseen => exact (hl hinc).skip hch hseen
  | @take sig rest hch hnew hidle =>
    refine (hl hinc).update ?_ rfl (hl hinc).kept fun q hq => .inl hq
    simp only [waiting, TenantAccountingState.appendHeartbeat, hch, List.append_assoc,
      List.singleton_append]
  | register sig =>
    have hline := hl hinc
    refine hline.update ?_ rfl hline.kept fun q hq => ?_
    · simp only [waiting, TenantAccountingState.registerCluster_curBatch]
    · rcases e.state.registerCluster_processedSeqs sig with he | ⟨-, he⟩
      · rw [he] at hq
        exact .inl hq
      · rw [he] at hq
        rcases Table.set_eq_some.mp hq with ⟨-, rfl⟩ | ⟨-, hq⟩
        · exact .inr ⟨rfl, fun x hx => hinc.1 x (hline.arrived x hx)⟩
        · exact .inl hq
  | succeed hev hmain hout => exact (hl hinc).submitted _ _ _
  | _ => exact (hl hinc).update rfl rfl (hl hinc).kept fun q hq => .inl hq

theorem InLine.restarted (hl : InLine c e) (hempty : e.hbCh = [] ∧ e.state.curBatch = []) :
    InLine c e.restarted := by
  have hnone : e.waiting = [] := by
    rw [waiting, hempty.1, hempty.2]
    rfl
  refine hl.update ?_ rfl ?_ fun q hq => .inl hq
  · rw [hnone]
    rfl
  · simp only [Execution.restarted, hempty.1, hempty.2, List.nil_append]
    exact hl.kept

theorem step_inLine (hs : e.step h ev = some e') (hcont : ContinuesEmpty e ev)
    (hl : Increasing c e.history.delivered → InLine c e) :
    Increasing c e'.history.delivered → InLine c e' :=
  step_keeps (P := fun e => Increasing c e.history.delivered → InLine c e)
    (fun _ _ hm _ hl => move_inLine hm hl)
    (fun hev _ hl hinc => (hl hinc).restarted (hcont hev)) hs hl

theorem endIteration_history (continuing : Bool) : (e.endIteration h continuing).history = e.history := by
  unfold endIteration
  split_ifs <;> rfl

theorem afterFlush_history (site : FlushSite) (continuing : Bool) :
    (e.afterFlush h site continuing).history = e.history := by
  unfold afterFlush
  split
  · exact endIteration_history continuing
  · exact endIteration_history continuing
  · rfl

theorem step_arrived (hs : e.step h ev = some e') (hev : ∀ sig, ev ≠ .heartbeat sig) :
    e'.history.delivered = e.history.delivered := by
  cases ev with
  | heartbeat sig => exact absurd rfl (hev sig)
  | register sig =>
    cases hs
    rfl
  | update sig => cases update_cases hs <;> rfl
  | receiveHeartbeat continuing =>
    cases receiveHeartbeat_cases hs with
    | skipped hm hch hseen => rw [endIteration_history]
    | filled hm hch hseen hfull => rfl
    | appended hm hch hseen hroom => rw [endIteration_history]
  | receiveRegistration continuing =>
    obtain ⟨timer, sig, rest, hm, hch, rfl⟩ := receiveRegistration_cases hs
    rw [endIteration_history]
  | timerFires timer =>
    simp only [step] at hs
    split_ifs at hs
    cases hs
    rfl
  | timerBranch continuing =>
    cases timerBranch_cases hs with
    | idle hm hres hb =>
      rw [endIteration_history]
      rfl
    | flushed hm hres hb => rfl
  | attempt reached reply => cases attempt_cases hs <;> rfl
  | deliver continuing =>
    cases deliver_cases hs with
    | submitted hm hout => rfl
    | failed hm hout => rw [afterFlush_history]
    | lookedUp hm hout => rfl
    | notFound hm hout => rw [afterFlush_history]
    | snapshotted hm hout => rfl
    | checked hm hout => rw [afterFlush_history]
  | creditAttempt i reached reply =>
    obtain ⟨cr, -, hs⟩ := Option.bind_eq_some_iff.mp hs
    obtain ⟨run, -, rfl⟩ := Option.map_eq_some_iff.mp hs
    rfl
  | creditDeliver i => cases creditDeliver_cases hs <;> rfl
  | refreshAttempt i reply =>
    obtain ⟨f, -, hs⟩ := Option.bind_eq_some_iff.mp hs
    obtain ⟨phase, -, rfl⟩ := Option.map_eq_some_iff.mp hs
    rfl
  | refreshDeliver i => cases refreshDeliver_cases hs <;> rfl
  | continueAsNew =>
    obtain ⟨-, rfl⟩ := continueAsNew_some hs
    rfl

end Execution
end CloudCredit.Accounting

namespace CloudCredit.Gateway

open Library TigerBeetle Accounting

/-- The gateway in front of the workflow of one tenant, and the heartbeats its
clusters sent, newest first. -/
structure Ingestion where
  dedup : Deduplicator
  exec : Execution
  sent : List HeartbeatSignal := []

/-- Signals reach the workflow through the gateway only. -/
inductive IngestionEvent
  | heartbeat (sig : HeartbeatSignal) (now : ℕ) (valkey : Fate)
  | evict (clusterID : String) (now : ℕ)
  | workflow (ev : Accounting.Event)

namespace Ingestion

variable (h : Ledger.Blake3) (g : Ingestion)

def step : IngestionEvent → Option Ingestion
  | .heartbeat sig now valkey =>
    let check := g.dedup.isDuplicate sig.clusterID sig.sequenceNumber now valkey
    let g' := { g with dedup := check.2, sent := sig :: g.sent }
    if check.1 then some g' else (g.exec.step h (.heartbeat sig)).map fun e => { g' with exec := e }
  | .evict clusterID now => some { g with dedup := g.dedup.evict clusterID now }
  | .workflow (.heartbeat _) => none
  | .workflow ev => (g.exec.step h ev).map fun e => { g with exec := e }

def start (dedup : Deduplicator) (input : TenantAccountingInput) : Ingestion where
  dedup := dedup
  exec := .start input

/-- The heartbeats that passed the gateway. -/
def admitted : List HeartbeatSignal := g.exec.history.delivered

/-- The numbers the cluster sends are positive and increase, and an execution is
continued with nothing left in the batch or the channel. -/
def SendsInOrder (c : String) (g : Ingestion) : IngestionEvent → Prop
  | .heartbeat sig _ _ => sig.clusterID = c → 0 < sig.sequenceNumber ∧
      ∀ x ∈ g.sent, x.clusterID = c → x.sequenceNumber < sig.sequenceNumber
  | .evict _ _ => True
  | .workflow ev => Execution.ContinuesEmpty g.exec ev

instance (c : String) (g : Ingestion) : (ev : IngestionEvent) → Decidable (g.SendsInOrder c ev)
  | .heartbeat sig _ _ => inferInstanceAs (Decidable (sig.clusterID = c → 0 < sig.sequenceNumber ∧
      ∀ x ∈ g.sent, x.clusterID = c → x.sequenceNumber < sig.sequenceNumber))
  | .evict _ _ => inferInstanceAs (Decidable True)
  | .workflow ev => inferInstanceAs (Decidable (Execution.ContinuesEmpty g.exec ev))

variable {h g} {g' : Ingestion} {c : String}

theorem step_cases {ev : IngestionEvent} (hs : g.step h ev = some g') :
    (∃ sig now valkey, ev = .heartbeat sig now valkey ∧ g'.sent = sig :: g.sent ∧
      (g'.exec = g.exec ∨ g.exec.step h (.heartbeat sig) = some g'.exec)) ∨
    (g'.exec = g.exec ∧ g'.sent = g.sent) ∨
    ∃ w, ev = .workflow w ∧ (∀ sig, w ≠ .heartbeat sig) ∧ g.exec.step h w = some g'.exec ∧
      g'.sent = g.sent := by
  cases ev with
  | heartbeat sig now valkey =>
    refine .inl ⟨sig, now, valkey, rfl, ?_⟩
    simp only [step] at hs
    split_ifs at hs
    · cases hs
      exact ⟨rfl, .inl rfl⟩
    · obtain ⟨e, he, rfl⟩ := Option.map_eq_some_iff.mp hs
      exact ⟨rfl, .inr he⟩
  | evict clusterID now =>
    cases hs
    exact .inr (.inl ⟨rfl, rfl⟩)
  | workflow w =>
    refine .inr (.inr ⟨w, rfl, ?_⟩)
    cases w with
    | heartbeat sig => cases hs
    | _ =>
      simp only [step] at hs
      obtain ⟨e, he, rfl⟩ := Option.map_eq_some_iff.mp hs
      exact ⟨fun sig hw => (by cases hw), he, rfl⟩

/-- What is in front of the workflow and in it: the admitted heartbeats are among
the sent ones, in their order, and wait in line. -/
structure Flows (c : String) (g : Ingestion) : Prop where
  increasing : Execution.Increasing c g.sent
  admitted : g.admitted.Sublist g.sent
  inLine : Execution.Increasing c g.admitted → Execution.InLine c g.exec
  dedup : Execution.Dedup g.exec
  balanced : Execution.Balanced g.exec

theorem Flows.line (hf : g.Flows c) : Execution.InLine c g.exec :=
  hf.inLine ⟨fun hb hmem => hf.increasing.1 hb (hf.admitted.subset hmem),
    hf.increasing.2.sublist hf.admitted⟩

theorem Flows.workflow (hf : g.Flows c) {w : Accounting.Event} (hw : g.exec.step h w = some g'.exec)
    (hcont : Execution.ContinuesEmpty g.exec w) (hinc : Execution.Increasing c g'.sent)
    (hsub : g'.admitted.Sublist g'.sent) : g'.Flows c := by
  have hkept := Execution.step_keeps (P := fun e => Execution.Dedup e ∧ Execution.Balanced e)
    (fun _ _ hm _ hp => ⟨Execution.move_dedup hm hp.1, Execution.move_balanced hm hp.1 hp.2⟩)
    (fun _ _ hp => ⟨Execution.restarted_dedup hp.1, Execution.restarted_balanced hp.2⟩)
    hw ⟨hf.dedup, hf.balanced⟩
  exact ⟨hinc, hsub, Execution.step_inLine hw hcont hf.inLine, hkept.1, hkept.2⟩

theorem step_flows {ev : IngestionEvent} (hf : g.Flows c) (hC : g.SendsInOrder c ev)
    (hs : g.step h ev = some g') : g'.Flows c := by
  rcases step_cases hs with ⟨sig, now, valkey, rfl, hsent, hexec⟩ | ⟨hexec, hsent⟩ |
    ⟨w, rfl, hother, hw, hsent⟩
  · have hinc : Execution.Increasing c g'.sent := by
      rw [hsent]
      refine ⟨fun hb hmem hcluster => ?_, List.pairwise_cons.mpr ⟨fun x hx hsig hxc =>
        (hC hsig).2 x hx hxc, hf.increasing.2⟩⟩
      rcases List.mem_cons.mp hmem with rfl | hmem
      · exact (hC hcluster).1
      · exact hf.increasing.1 hb hmem hcluster
    rcases hexec with hexec | hw
    · refine ⟨hinc, ?_, ?_, ?_, ?_⟩
      · rw [admitted, hexec, hsent]
        exact hf.admitted.cons _
      · rw [admitted, hexec]
        exact hf.inLine
      · rw [hexec]
        exact hf.dedup
      · rw [hexec]
        exact hf.balanced
    · refine hf.workflow hw (fun hcon => by cases hcon) hinc ?_
      have harrived : g'.admitted = sig :: g.admitted := by
        rw [admitted, ← Option.some.inj hw]
        rfl
      rw [harrived, hsent]
      exact hf.admitted.cons_cons _
  · refine ⟨?_, ?_, ?_, ?_, ?_⟩
    · rw [hsent]
      exact hf.increasing
    · rw [admitted, hexec, hsent]
      exact hf.admitted
    · rw [admitted, hexec]
      exact hf.inLine
    · rw [hexec]
      exact hf.dedup
    · rw [hexec]
      exact hf.balanced
  · refine hf.workflow hw hC ?_ ?_
    · rw [hsent]
      exact hf.increasing
    · rw [admitted, Execution.step_arrived hw hother, hsent]
      exact hf.admitted

theorem start_flows (dedup : Deduplicator) {input : TenantAccountingInput} {c : String}
    (hinput : input.carryProcessedSeqs c = none) : (start dedup input).Flows c where
  increasing := ⟨fun hb hmem => (by cases hmem), List.Pairwise.nil⟩
  admitted := List.Sublist.refl _
  inLine := fun _ => by
    have hnone : ∀ q, (Execution.start input).state.processedSeqs c ≠ some q := by
      intro q hq
      cases hinput.symm.trans hq
    exact ⟨fun x hx => (by cases hx), fun q hq => absurd hq (hnone q),
      fun q hq => absurd hq (hnone q), List.Pairwise.nil, fun x hx => (by cases hx)⟩
  dedup := Execution.start_dedup input
  balanced := fun _ => rfl

theorem count_of_increasing {hbs : List HeartbeatSignal} (hinc : Execution.Increasing c hbs)
    {hb : HeartbeatSignal} (hmem : hb ∈ hbs) (hcluster : hb.clusterID = c) : hbs.count hb = 1 := by
  have hpos := List.count_pos_iff.mpr hmem
  have hnodup : (hbs.filter (·.clusterID = c)).Nodup := by
    refine List.Pairwise.imp_of_mem (fun hx hy hlt => ?_)
      (hinc.2.sublist List.filter_sublist)
    rintro rfl
    have hxc := of_decide_eq_true (List.mem_filter.mp hx).2
    exact absurd (hlt hxc hxc) (UInt64.lt_irrefl _)
  have hcount := List.nodup_iff_count_le_one.mp hnodup hb
  rw [List.count_filter (by simpa using hcluster)] at hcount
  omega

end Ingestion

/-- Every heartbeat of the cluster that passes the gateway passes the workflow as
well, while the numbers the cluster sends are positive and increase and an
execution is continued only when nothing is left unread: none is skipped or lost,
each waits for its batch or is in the successful ones exactly once. -/
theorem Ingestion.in_order_heartbeats_pass_both {h : Ledger.Blake3} {g : Ingestion}
    (dedup : Deduplicator) {input : TenantAccountingInput} {c : String}
    (hinput : input.carryProcessedSeqs c = none) (es : List IngestionEvent)
    (hr : runSteps (step h) (start dedup input) es = some g)
    (hC : Along (step h) (SendsInOrder c) (start dedup input) es) :
    ∀ hb ∈ g.admitted, hb.clusterID = c →
      hb ∉ g.exec.history.dropped ∧ hb ∉ g.exec.history.lost ∧
      (g.exec.hbCh ++ g.exec.state.curBatch ++ g.exec.history.succeeded).count hb = 1 ∧
      (hb ∉ g.exec.hbCh → hb ∉ g.exec.state.curBatch → g.exec.history.succeeded.count hb = 1) := by
  have hf : g.Flows c := invariant_along (step h)
    (fun _ _ _ hf hC hs => step_flows hf hC hs) (start_flows dedup hinput) hC hr
  intro hb hmem hcluster
  have hkept : ∀ x ∈ g.exec.history.dropped ++ g.exec.history.lost, x ≠ hb := by
    rintro x hx rfl
    exact hf.line.kept x hx hcluster
  have hdropped : hb ∉ g.exec.history.dropped := fun hx => hkept hb (List.mem_append_left _ hx) rfl
  have hlost : hb ∉ g.exec.history.lost := fun hx => hkept hb (List.mem_append_right _ hx) rfl
  have hinc : Execution.Increasing c g.admitted :=
    ⟨fun hb hmem => hf.increasing.1 hb (hf.admitted.subset hmem),
      hf.increasing.2.sublist hf.admitted⟩
  have hcount : g.exec.history.delivered.count hb = 1 := count_of_increasing hinc hmem hcluster
  rw [hf.balanced hb, List.count_eq_zero.mpr hlost] at hcount
  simp only [Execution.accounted, List.count_append, List.count_eq_zero.mpr hdropped] at hcount
  refine ⟨hdropped, hlost, ?_, fun hch hbatch => ?_⟩
  · simp only [List.count_append]
    omega
  · rw [List.count_eq_zero.mpr hch, List.count_eq_zero.mpr hbatch] at hcount
    omega

/-- A cluster is registered and sends heartbeats with the given numbers, which are
flushed by the timer after they were received. -/
def sampleTraffic (seqs : List UInt64) : List IngestionEvent :=
  [.workflow (.register ⟨"c"⟩), .workflow (.receiveRegistration false)] ++
    seqs.flatMap (fun seq => [.heartbeat (sampleHeartbeat seq) 0 .answered,
      .workflow (.receiveHeartbeat false)]) ++
    [.workflow (.timerFires 0), .workflow (.timerBranch false),
      .workflow (.attempt true (.batch (.ok {}))), .workflow (.deliver false)]

theorem Ingestion.sampleTraffic_passes_both :
    ∃ g, runSteps (step .positional) (start (.mem { ttl := 600 }) sampleInput)
        (sampleTraffic [1, 2]) = some g ∧ g.admitted = [sampleHeartbeat 2, sampleHeartbeat 1] ∧
      ∀ hb ∈ g.admitted, hb.clusterID = "c" →
        hb ∉ g.exec.history.dropped ∧ hb ∉ g.exec.history.lost ∧
        (g.exec.hbCh ++ g.exec.state.curBatch ++ g.exec.history.succeeded).count hb = 1 ∧
        (hb ∉ g.exec.hbCh → hb ∉ g.exec.state.curBatch →
          g.exec.history.succeeded.count hb = 1) := by
  obtain ⟨g, hr, hadmitted⟩ := runSteps_any (step .positional)
    (start (.mem { ttl := 600 }) sampleInput) (sampleTraffic [1, 2])
    (fun g => g.admitted = [sampleHeartbeat 2, sampleHeartbeat 1]) (by decide +kernel)
  exact ⟨g, hr, by simpa using hadmitted, in_order_heartbeats_pass_both (.mem { ttl := 600 }) rfl
    (sampleTraffic [1, 2]) hr (along_of_alongTest (step .positional) (by decide +kernel))⟩

/-- The number zero passes the gateway and is skipped by the workflow. -/
theorem Ingestion.zero_passes_the_gateway_only :
    ∃ g, runSteps (step .positional) (start (.mem { ttl := 600 }) sampleInput)
        ([.workflow (.register ⟨"c"⟩), .workflow (.receiveRegistration false),
          .heartbeat (sampleHeartbeat 0) 0 .answered, .workflow (.receiveHeartbeat false)]) = some g ∧
      g.admitted = [sampleHeartbeat 0] ∧ g.exec.history.dropped = [sampleHeartbeat 0] := by
  obtain ⟨g, hr, hg⟩ := runSteps_any (step .positional)
    (start (.mem { ttl := 600 }) sampleInput)
    ([.workflow (.register ⟨"c"⟩), .workflow (.receiveRegistration false),
      .heartbeat (sampleHeartbeat 0) 0 .answered, .workflow (.receiveHeartbeat false)])
    (fun g => g.admitted = [sampleHeartbeat 0] && g.exec.history.dropped = [sampleHeartbeat 0])
    (by decide +kernel)
  simp only [Bool.and_eq_true, decide_eq_true_eq] at hg
  exact ⟨g, hr, hg.1, hg.2⟩

end CloudCredit.Gateway
