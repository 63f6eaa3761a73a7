import CloudCredit.Accounting.Moves

/-!
# What becomes of a heartbeat

Two facts about every run of an execution, whatever its activities answer. A
heartbeat that was in a successful batch is never submitted again, and the
recorded sequence numbers only grow. And the delivered heartbeats are exactly
the skipped, the submitted, the held and the lost ones; only Continue-As-New
loses any.
-/
namespace CloudCredit.Accounting

open Library TigerBeetle Domain Ledger

/-- Every recorded number of `m` is recorded in `m'`, possibly increased. -/
def SeqsGrow (m m' : Table String UInt64) : Prop :=
  ∀ c q, m c = some q → ∃ q', m' c = some q' ∧ q ≤ q'

theorem SeqsGrow.refl (m : Table String UInt64) : SeqsGrow m m :=
  fun _ q hq => ⟨q, hq, UInt64.le_refl q⟩

theorem SeqsGrow.trans {m m' m'' : Table String UInt64} (h : SeqsGrow m m')
    (h' : SeqsGrow m' m'') : SeqsGrow m m'' := by
  intro c q hq
  obtain ⟨q', hq', hle⟩ := h c q hq
  obtain ⟨q'', hq'', hle'⟩ := h' c q' hq'
  exact ⟨q'', hq'', UInt64.le_trans hle hle'⟩

/-- The heartbeat's number, or a higher one, is recorded for its cluster. -/
def Processed (m : Table String UInt64) (hb : HeartbeatSignal) : Prop :=
  ∃ q, m hb.clusterID = some q ∧ hb.sequenceNumber ≤ q

theorem Processed.grow {m m' : Table String UInt64} (hm : SeqsGrow m m') {hb : HeartbeatSignal}
    (h : Processed m hb) : Processed m' hb := by
  obtain ⟨q, hq, hle⟩ := h
  obtain ⟨q', hq', hle'⟩ := hm _ _ hq
  exact ⟨q', hq', UInt64.le_trans hle hle'⟩

theorem SeqsGrow.set {m : Table String UInt64} {c : String} {q : UInt64}
    (h : ∀ prev, m c = some prev → prev ≤ q) : SeqsGrow m (m.set c q) := by
  intro c' q' hq'
  by_cases hc : c' = c
  · subst hc
    exact ⟨q, Table.set_same _ _ _, h q' hq'⟩
  · exact ⟨q', by rw [Table.set_other _ hc, hq'], UInt64.le_refl q'⟩

theorem SeqsGrow.set_new {m : Table String UInt64} {c : String} (h : m c = none) (q : UInt64) :
    SeqsGrow m (m.set c q) := by
  refine .set fun prev hprev => ?_
  rw [h] at hprev
  cases hprev

theorem markProcessed_grow (m : Table String UInt64) (hb : HeartbeatSignal) :
    SeqsGrow m (markProcessed m hb) := by
  unfold markProcessed
  split
  · rename_i prev hprev
    split_ifs with hlt
    · refine .set fun prev' hprev' => ?_
      cases hprev.symm.trans hprev'
      exact UInt64.le_of_lt hlt
    · exact .refl m
  · rename_i hnone
    exact .set_new hnone _

theorem markProcessed_recorded (m : Table String UInt64) (hb : HeartbeatSignal) :
    Processed (markProcessed m hb) hb := by
  unfold markProcessed
  split
  · rename_i prev hprev
    split_ifs with hlt
    · exact ⟨_, Table.set_same _ _ _, UInt64.le_refl _⟩
    · exact ⟨prev, hprev, UInt64.not_lt.mp hlt⟩
  · exact ⟨_, Table.set_same _ _ _, UInt64.le_refl _⟩

theorem foldl_markProcessed_grow (hbs : List HeartbeatSignal) (m : Table String UInt64) :
    SeqsGrow m (hbs.foldl markProcessed m) := by
  induction hbs generalizing m with
  | nil => exact .refl m
  | cons hb hbs ih => exact (markProcessed_grow m hb).trans (ih _)

theorem foldl_markProcessed_recorded {hbs : List HeartbeatSignal} {hb : HeartbeatSignal}
    (hmem : hb ∈ hbs) (m : Table String UInt64) : Processed (hbs.foldl markProcessed m) hb := by
  induction hbs generalizing m with
  | nil => simp at hmem
  | cons x xs ih =>
    rcases List.mem_cons.mp hmem with rfl | hmem
    · exact (markProcessed_recorded m hb).grow (foldl_markProcessed_grow xs _)
    · exact ih hmem _

theorem markProcessed_eq (m : Table String UInt64) (hb : HeartbeatSignal) :
    markProcessed m hb = m ∨ markProcessed m hb = m.set hb.clusterID hb.sequenceNumber := by
  unfold markProcessed
  split
  · split_ifs
    · exact .inr rfl
    · exact .inl rfl
  · exact .inr rfl

theorem markProcessed_bound {m : Table String UInt64} {hb : HeartbeatSignal} {c : String} {n : UInt64}
    (hm : ∀ q, m c = some q → q ≤ n) (hle : hb.clusterID = c → hb.sequenceNumber ≤ n) :
    ∀ q, markProcessed m hb c = some q → q ≤ n := by
  intro q hq
  rcases markProcessed_eq m hb with he | he
  · rw [he] at hq
    exact hm q hq
  · rw [he] at hq
    by_cases hc : c = hb.clusterID
    · subst hc
      rw [Table.set_same] at hq
      cases hq
      exact hle rfl
    · rw [Table.set_other _ hc] at hq
      exact hm q hq

theorem foldl_markProcessed_bound {hbs : List HeartbeatSignal} {m : Table String UInt64}
    {c : String} {n : UInt64} (hm : ∀ q, m c = some q → q ≤ n)
    (hle : ∀ hb ∈ hbs, hb.clusterID = c → hb.sequenceNumber ≤ n) :
    ∀ q, hbs.foldl markProcessed m c = some q → q ≤ n := by
  induction hbs generalizing m with
  | nil => exact hm
  | cons hb hbs ih =>
    simp only [List.forall_mem_cons] at hle
    exact ih (markProcessed_bound hm hle.1) hle.2

theorem foldl_markProcessed_highest {hbs : List HeartbeatSignal} {hb : HeartbeatSignal}
    (hmem : hb ∈ hbs) {m : Table String UInt64}
    (hm : ∀ q, m hb.clusterID = some q → q ≤ hb.sequenceNumber)
    (hle : ∀ x ∈ hbs, x.clusterID = hb.clusterID → x.sequenceNumber ≤ hb.sequenceNumber) :
    hbs.foldl markProcessed m hb.clusterID = some hb.sequenceNumber := by
  obtain ⟨q, hq, hge⟩ := foldl_markProcessed_recorded hmem m
  rw [hq, UInt64.le_antisymm (foldl_markProcessed_bound hm hle q hq) hge]

/-- A recorded number was recorded before or is in the batch. -/
theorem foldl_markProcessed_cases {hbs : List HeartbeatSignal} {m : Table String UInt64} {c : String}
    {q : UInt64} (hq : hbs.foldl markProcessed m c = some q) :
    m c = some q ∨ ∃ hb ∈ hbs, hb.clusterID = c ∧ hb.sequenceNumber = q := by
  induction hbs generalizing m with
  | nil => exact .inl hq
  | cons hb hbs ih =>
    rcases ih hq with hm | ⟨x, hx, hcluster, hseq⟩
    · rcases markProcessed_eq m hb with he | he
      · rw [he] at hm
        exact .inl hm
      · rw [he] at hm
        rcases Table.set_eq_some.mp hm with ⟨rfl, rfl⟩ | ⟨-, hm⟩
        · exact .inr ⟨hb, List.mem_cons_self, rfl, rfl⟩
        · exact .inl hm
    · exact .inr ⟨x, List.mem_cons_of_mem _ hx, hcluster, hseq⟩

theorem registerCluster_grow (s : TenantAccountingState) (sig : RegisterClusterSignal) :
    SeqsGrow s.processedSeqs (s.registerCluster sig).processedSeqs := by
  rcases s.registerCluster_processedSeqs sig with he | ⟨hnone, he⟩
  · rw [he]
    exact .refl _
  · rw [he]
    exact .set_new hnone _

theorem alreadyProcessed_of_recorded {s : TenantAccountingState} {hb : HeartbeatSignal}
    (h : Processed s.processedSeqs hb) : s.alreadyProcessed hb = true := by
  obtain ⟨q, hq, hle⟩ := h
  simpa [TenantAccountingState.alreadyProcessed, hq] using hle

namespace SameCore

variable {e e' : Execution} (same : SameCore e e')

include same

theorem processedSeqs : e'.state.processedSeqs = e.state.processedSeqs := by rw [same.state]

theorem curBatch : e'.state.curBatch = e.state.curBatch := by rw [same.state]

theorem delivered : e'.history.delivered = e.history.delivered := by rw [← same.history]

theorem dropped : e'.history.dropped = e.history.dropped := by rw [← same.history]

theorem succeeded : e'.history.succeeded = e.history.succeeded := by rw [← same.history]

theorem lost : e'.history.lost = e.history.lost := by rw [← same.history]

end SameCore

namespace Execution

variable {h : Blake3} {ev : Event} {e e' : Execution}

/-- The same sequence number of the same cluster. -/
def SamePair (g hb : HeartbeatSignal) : Prop :=
  g.clusterID = hb.clusterID ∧ g.sequenceNumber = hb.sequenceNumber

/-- What ties the batch to the recorded sequence numbers: the batch in flight is
the current one, everything that succeeded is recorded, and nothing in the
batch has succeeded. -/
structure Dedup (e : Execution) : Prop where
  flight : ∀ f, e.main.flight = some f → f.input.heartbeats = e.state.curBatch
  recorded : ∀ hb ∈ e.history.succeeded, Processed e.state.processedSeqs hb
  fresh : ∀ g ∈ e.state.curBatch, ∀ hb ∈ e.history.succeeded, ¬SamePair g hb

theorem move_processedSeqs (hm : Move h ev e e') :
    SeqsGrow e.state.processedSeqs e'.state.processedSeqs := by
  cases hm with
  | quiet same =>
    rw [same.processedSeqs]
    exact .refl _
  | register sig => exact registerCluster_grow _ _
  | succeed => exact foldl_markProcessed_grow _ _
  | _ => exact .refl _

theorem move_dedup (hm : Move h ev e e') (hd : Dedup e) : Dedup e' := by
  cases hm with
  | quiet same =>
    refine ⟨?_, ?_, ?_⟩
    · rw [same.flight, same.curBatch]
      exact hd.flight
    · rw [same.succeeded, same.processedSeqs]
      exact hd.recorded
    · rw [same.curBatch, same.succeeded]
      exact hd.fresh
  | arrive sig => exact ⟨hd.flight, hd.recorded, hd.fresh⟩
  | skip hch hseen => exact ⟨hd.flight, hd.recorded, hd.fresh⟩
  | @take sig rest hch hnew hidle =>
    refine ⟨fun f hf => ?_, hd.recorded, ?_⟩
    · rw [hidle] at hf
      cases hf
    · intro g hg hb hsucc hpair
      rcases List.mem_append.mp hg with hg | hg
      · exact hd.fresh g hg hb hsucc hpair
      · rw [List.mem_singleton.mp hg] at hpair
        have hrec : Processed e.state.processedSeqs sig := by
          obtain ⟨q, hq, hle⟩ := hd.recorded hb hsucc
          exact ⟨q, by rw [hpair.1, hq], by rw [hpair.2]; exact hle⟩
        rw [alreadyProcessed_of_recorded hrec] at hnew
        cases hnew
  | register sig =>
    refine ⟨?_, fun hb hsucc => (hd.recorded hb hsucc).grow (registerCluster_grow _ _), ?_⟩
    · rw [TenantAccountingState.registerCluster_curBatch]
      exact hd.flight
    · rw [TenantAccountingState.registerCluster_curBatch]
      exact hd.fresh
  | flush site hbatch hidle =>
    refine ⟨fun f hf => ?_, hd.recorded, hd.fresh⟩
    cases hf
    rfl
  | @attempt site flight run reached reply hev hmain hrun =>
    refine ⟨fun f hf => ?_, hd.recorded, hd.fresh⟩
    cases hf
    exact hd.flight flight (by rw [hmain]; rfl)
  | @succeed site flight result continuing hev hmain hout =>
    have hbatch := hd.flight flight (by rw [hmain]; rfl)
    refine ⟨fun f hf => (by cases hf), ?_, fun g hg => (by cases hg)⟩
    intro hb hsucc
    rcases List.mem_append.mp hsucc with hnow | hbefore
    · rw [hbatch] at hnow
      exact foldl_markProcessed_recorded hnow _
    · exact (hd.recorded hb hbefore).grow (foldl_markProcessed_grow _ _)
  | fail hev hmain hout hidle =>
    refine ⟨fun f hf => ?_, hd.recorded, hd.fresh⟩
    rw [hidle] at hf
    cases hf
  | accept hev hvalid hissue => exact ⟨hd.flight, hd.recorded, hd.fresh⟩
  | creditAttempt hev hi hrun => exact ⟨hd.flight, hd.recorded, hd.fresh⟩
  | creditEnds hev hi hout hend => exact ⟨hd.flight, hd.recorded, hd.fresh⟩
  | confirm hev hi hout hown => exact ⟨hd.flight, hd.recorded, hd.fresh⟩

theorem restarted_dedup (hd : Dedup e) : Dedup e.restarted :=
  ⟨fun _ hf => (by cases hf), hd.recorded, fun _ hg => (by cases hg)⟩

theorem start_dedup (input : TenantAccountingInput) : Dedup (start input) :=
  ⟨fun _ hf => (by cases hf), fun _ hb => (by cases hb), fun _ hg => (by cases hg)⟩

/-- No number of the batch is below the one recorded for its cluster. -/
def Ahead (e : Execution) : Prop :=
  ∀ hb ∈ e.state.curBatch, ∀ q, e.state.processedSeqs hb.clusterID = some q → q ≤ hb.sequenceNumber

theorem move_ahead (hm : Move h ev e e') (ha : Ahead e) : Ahead e' := by
  cases hm with
  | quiet same =>
    unfold Ahead
    rw [same.curBatch, same.processedSeqs]
    exact ha
  | @take sig rest hch hnew hidle =>
    intro hb hmem q hq
    rcases List.mem_append.mp hmem with hmem | hmem
    · exact ha hb hmem q hq
    · obtain rfl := List.mem_singleton.mp hmem
      have hq' : e.state.processedSeqs hb.clusterID = some q := hq
      rw [TenantAccountingState.alreadyProcessed, hq'] at hnew
      exact UInt64.le_of_lt (UInt64.not_le.mp (by simpa using hnew))
  | register sig =>
    intro hb hmem q hq
    rw [e.state.registerCluster_curBatch sig] at hmem
    rcases e.state.registerCluster_processedSeqs sig with he | ⟨-, he⟩
    · rw [he] at hq
      exact ha hb hmem q hq
    · rw [he] at hq
      by_cases hc : hb.clusterID = sig.clusterID
      · rw [hc, Table.set_same] at hq
        cases hq
        exact UInt64.zero_le
      · rw [Table.set_other _ hc] at hq
        exact ha hb hmem q hq
  | succeed hev hmain hout => exact fun hb hmem => by cases hmem
  | _ => exact ha

theorem restarted_ahead (e : Execution) : Ahead e.restarted := fun _ hmem => by cases hmem

theorem run_processedSeqs {es : List Event} (hr : runSteps (step h) e es = some e') :
    SeqsGrow e.state.processedSeqs e'.state.processedSeqs :=
  relation_of_moves (R := fun e e' => SeqsGrow e.state.processedSeqs e'.state.processedSeqs)
    (fun _ => .refl _) (fun _ _ _ hst htu => hst.trans htu) (fun _ _ _ hm => move_processedSeqs hm)
    (fun _ => .refl _) hr

theorem move_succeeded (hm : Move h ev e e') : e.history.succeeded ⊆ e'.history.succeeded := by
  cases hm with
  | quiet same =>
    rw [same.succeeded]
    exact fun _ hx => hx
  | succeed => exact fun _ hx => List.mem_append_right _ hx
  | _ => exact fun _ hx => hx

theorem run_succeeded {es : List Event} (hr : runSteps (step h) e es = some e') :
    e.history.succeeded ⊆ e'.history.succeeded :=
  relation_of_moves (R := fun e e' => e.history.succeeded ⊆ e'.history.succeeded)
    (fun _ _ hx => hx) (fun _ _ _ hst htu _ hx => htu (hst hx)) (fun _ _ _ hm => move_succeeded hm)
    (fun _ _ hx => hx) hr

theorem run_dedup {es : List Event} (hd : Dedup e) (hr : runSteps (step h) e es = some e') :
    Dedup e' :=
  invariant_of_moves (fun _ _ _ hm hd => move_dedup hm hd) (fun _ _ hd => restarted_dedup hd) hd hr

/-- Deduplication across flushes. Take any two points of a run: a heartbeat that
was in a successful batch at the earlier one is not in the batch submitted at
the later one, and no recorded sequence number has decreased or disappeared. -/
theorem processed_heartbeats_are_not_resubmitted (input : TenantAccountingInput)
    (before after : List Event) (hbefore : runSteps (step h) (start input) before = some e)
    (hafter : runSteps (step h) e after = some e') :
    (∀ hb ∈ e.history.succeeded, ∀ site flight, e'.main = .submitting site flight →
      ∀ g ∈ flight.input.heartbeats, ¬SamePair g hb) ∧
    SeqsGrow e.state.processedSeqs e'.state.processedSeqs := by
  have hall := run_dedup (run_dedup (start_dedup input) hbefore) hafter
  refine ⟨?_, run_processedSeqs hafter⟩
  intro hb hsucc site flight hmain g hg
  have hbatch := hall.flight flight (by rw [hmain]; rfl)
  rw [hbatch] at hg
  exact hall.fresh g hg hb (run_succeeded hafter hsucc)

/-! A tenant with one account for each role and resource, and a cluster of it. -/

/-- The first heartbeat is received, flushed by the timer and confirmed. -/
def sampleFlush : List Event :=
  [.heartbeat (sampleHeartbeat 1), .receiveHeartbeat false, .timerFires 0, .timerBranch false,
    .attempt true (.batch (.ok {})), .deliver false]

/-- The flush is finished; the first heartbeat comes again, then the second. -/
def sampleRepeat : List Event :=
  [.attempt false (.balances (.ok Table.empty)), .deliver false, .attempt false (.done (.ok ())),
    .deliver false, .attempt false (.done (.ok ())), .deliver false,
    .heartbeat (sampleHeartbeat 1), .receiveHeartbeat false, .heartbeat (sampleHeartbeat 2),
    .receiveHeartbeat false, .timerFires 1, .timerBranch false]

theorem sampleRepeat_is_not_resubmitted :
    ∃ e e', runSteps (step .positional) (start sampleInput) sampleFlush = some e ∧
      runSteps (step .positional) e sampleRepeat = some e' ∧
      e.history.succeeded = [sampleHeartbeat 1] ∧
      (∀ hb ∈ e.history.succeeded, ∀ site flight, e'.main = .submitting site flight →
        ∀ g ∈ flight.input.heartbeats, ¬SamePair g hb) ∧
      SeqsGrow e.state.processedSeqs e'.state.processedSeqs := by
  obtain ⟨e, he, hsucc⟩ := runSteps_any (step .positional) (start sampleInput) sampleFlush
    (fun e => e.history.succeeded = [sampleHeartbeat 1] &&
      (runSteps (step .positional) e sampleRepeat).isSome) (by decide)
  simp only [Bool.and_eq_true, decide_eq_true_eq] at hsucc
  obtain ⟨e', he'⟩ := Option.isSome_iff_exists.mp hsucc.2
  exact ⟨e, e', he, he', hsucc.1,
    processed_heartbeats_are_not_resubmitted sampleInput sampleFlush sampleRepeat he he'⟩

/-- The heartbeats that are accounted for: skipped on receipt, submitted in a
successful batch, or still held by the current execution. -/
def accounted (e : Execution) : List HeartbeatSignal :=
  e.history.dropped ++ e.history.succeeded ++ e.state.curBatch ++ e.hbCh

/-- Every delivered heartbeat, as often as it was delivered, is accounted for. -/
def NoneLost (e : Execution) : Prop :=
  ∀ hb, e.history.delivered.count hb ≤ e.accounted.count hb

/-- The delivered heartbeats are the accounted ones and the lost ones. -/
def Balanced (e : Execution) : Prop :=
  ∀ hb, e.history.delivered.count hb = e.accounted.count hb + e.history.lost.count hb

theorem move_balanced (hm : Move h ev e e') (hd : Dedup e) (hb : Balanced e) : Balanced e' := by
  intro x
  have hx := hb x
  simp only [accounted, List.count_append] at hx ⊢
  cases hm with
  | quiet same =>
    rw [same.delivered, same.dropped, same.succeeded, same.curBatch, same.hbCh, same.lost]
    exact hx
  | arrive sig =>
    simp only [List.count_cons, List.count_append, List.count_nil]
    omega
  | skip hch hseen =>
    simp only [hch, List.count_cons] at hx ⊢
    omega
  | take hch hnew hidle =>
    simp only [hch, List.count_cons, TenantAccountingState.appendHeartbeat, List.count_append,
      List.count_nil] at hx ⊢
    omega
  | register sig =>
    simp only [TenantAccountingState.registerCluster_curBatch]
    exact hx
  | @succeed site flight result continuing hev hmain hout =>
    have hbatch := hd.flight flight (by rw [hmain]; rfl)
    simp only [batchSubmitted, TenantAccountingState.applyBatchResult, hbatch, List.count_append,
      List.count_nil]
    omega
  | _ => exact hx

theorem restarted_balanced (hb : Balanced e) : Balanced e.restarted := by
  intro x
  have hx := hb x
  simp only [restarted, accounted, TenantAccountingInput.initialState, List.count_append,
    List.count_nil] at hx ⊢
  omega

theorem run_balanced {input : TenantAccountingInput} {es : List Event}
    (hr : runSteps (step h) (start input) es = some e) : Balanced e :=
  (invariant_of_moves (P := fun e => Dedup e ∧ Balanced e)
    (fun _ _ _ hm hp => ⟨move_dedup hm hp.1, move_balanced hm hp.1 hp.2⟩)
    (fun _ _ hp => ⟨restarted_dedup hp.1, restarted_balanced hp.2⟩)
    ⟨start_dedup input, fun _ => rfl⟩ hr).2

theorem Balanced.noneLost_iff (hb : Balanced e) : NoneLost e ↔ e.history.lost = [] := by
  constructor
  · intro hn
    rw [List.eq_nil_iff_forall_not_mem]
    intro x hx
    have hpos := List.count_pos_iff.mpr hx
    have := hn x
    have := hb x
    omega
  · intro hl x
    have := hb x
    rw [hl, List.count_nil] at this
    omega

/-- An execution is continued with nothing left in the batch or the channel. -/
def ContinuesEmpty (e : Execution) (ev : Event) : Prop :=
  ev = .continueAsNew → e.hbCh = [] ∧ e.state.curBatch = []

theorem move_lost (hm : Move h ev e e') : e'.history.lost = e.history.lost := by
  cases hm with
  | quiet same => exact same.lost
  | _ => rfl

theorem step_keeps_lost (hs : e.step h ev = some e') (hev : ev ≠ .continueAsNew) :
    e'.history.lost = e.history.lost :=
  Moves.keeps (P := fun t => t.history.lost = e.history.lost)
    (fun _ _ hm _ ht => (move_lost hm).trans ht) (step_moves hs hev) rfl rfl

theorem step_lost (hs : e.step h ev = some e') :
    e'.history.lost = [] ↔ ContinuesEmpty e ev ∧ e.history.lost = [] := by
  by_cases hev : ev = .continueAsNew
  · subst hev
    obtain ⟨-, rfl⟩ := continueAsNew_some hs
    simp [restarted, ContinuesEmpty, and_assoc]
  · simp [step_keeps_lost hs hev, ContinuesEmpty, hev]

theorem run_lost {es : List Event} (hr : runSteps (step h) e es = some e') :
    e'.history.lost = [] ↔ Along (step h) ContinuesEmpty e es ∧ e.history.lost = [] := by
  induction es generalizing e with
  | nil =>
    cases hr
    simp [Along]
  | cons ev es ih =>
    obtain ⟨m, hm, hr⟩ := runSteps_cons (step h) hr
    rw [ih hr, step_lost hm]
    simp only [Along, hm, Option.some.injEq, forall_eq']
    tauto

/-- No heartbeat is lost by a run exactly when each of its Continue-As-New steps
finds the batch and the signal channel empty. -/
theorem no_heartbeat_lost_iff (input : TenantAccountingInput) (es : List Event)
    (hr : runSteps (step h) (start input) es = some e) :
    NoneLost e ↔ Along (step h) ContinuesEmpty (start input) es := by
  rw [(run_balanced hr).noneLost_iff, run_lost hr]
  exact and_iff_left rfl

instance (e : Execution) (ev : Event) : Decidable (ContinuesEmpty e ev) :=
  match ev with
  | .continueAsNew => decidable_of_iff (e.hbCh = [] ∧ e.state.curBatch = []) (by simp [ContinuesEmpty])
  | .heartbeat _ | .register _ | .update _ | .receiveHeartbeat _ | .receiveRegistration _
  | .timerFires _ | .timerBranch _ | .attempt _ _ | .deliver _ | .creditAttempt _ _ _
  | .creditDeliver _ | .refreshAttempt _ _ | .refreshDeliver _ => .isTrue (by simp [ContinuesEmpty])

/-- The workflow is asked to continue as new after its only heartbeat. -/
def sampleContinuation : List Event :=
  [.heartbeat (sampleHeartbeat 1), .receiveHeartbeat true, .attempt true (.batch (.ok {})),
    .deliver false, .attempt false (.balances (.ok Table.empty)), .deliver false,
    .attempt false (.done (.ok ())), .deliver false, .attempt false (.done (.ok ())),
    .deliver false, .continueAsNew]

theorem sampleContinuation_loses_nothing :
    ∃ e, runSteps (step .positional) (start sampleInput) sampleContinuation = some e ∧
      NoneLost e := by
  obtain ⟨e, he⟩ := Option.isSome_iff_exists.mp
    (show (runSteps (step .positional) (start sampleInput) sampleContinuation).isSome = true by
      decide)
  exact ⟨e, he, (no_heartbeat_lost_iff sampleInput sampleContinuation he).mpr
    (along_of_alongTest (step .positional) (by decide))⟩

/-- The flush before the continuation fails, and a signal arrives meanwhile. -/
def lossyContinuation : List Event :=
  [.heartbeat (sampleHeartbeat 1), .receiveHeartbeat true, .heartbeat (sampleHeartbeat 2)] ++
    List.replicate 5 (.attempt false (.batch (.error .timeout))) ++ [.deliver false, .continueAsNew]

theorem lossyContinuation_loses_heartbeats :
    ∃ e, runSteps (step .positional) (start sampleInput) lossyContinuation = some e ∧
      ¬NoneLost e := by
  obtain ⟨e, he, hcount⟩ := runSteps_any (step .positional) (start sampleInput) lossyContinuation
    (fun e => e.accounted.count (sampleHeartbeat 2) < e.history.delivered.count (sampleHeartbeat 2))
    (by decide)
  refine ⟨e, he, fun hn => ?_⟩
  have := hn (sampleHeartbeat 2)
  simp only [decide_eq_true_eq] at hcount
  omega

end Execution
end CloudCredit.Accounting
