import CloudCredit.Accounting.Heartbeats
import CloudCredit.System.Decisions
import CloudCredit.TigerBeetle.Reference

/-!
# What a flush acknowledges

`flushBatch` hands its batch to the ledger activity and waits. Until the outcome
is delivered only the update handlers write to the state, and they delete flags.
A failed activity leaves it at that. A successful one has the service's verdict on
every usage transfer of the batch, given during this flush, and the numbers that
are acknowledged are the highest of the batch.
-/
namespace CloudCredit.Accounting

open Library TigerBeetle Domain Ledger

/-- The highest of some numbers. -/
def Highest (ns : List UInt64) (n : UInt64) : Prop := n ∈ ns ∧ ∀ m ∈ ns, m ≤ n

theorem Highest.unique {ns : List UInt64} {m n : UInt64} (hm : Highest ns m) (hn : Highest ns n) :
    m = n :=
  UInt64.le_antisymm (hn.2 m hm.1) (hm.2 n hn.1)

/-- What is recorded for a cluster, and its numbers in the batch. -/
def clusterSeqs (recorded : Table String UInt64) (hbs : List HeartbeatSignal) (c : String) :
    List UInt64 :=
  (recorded c).toList ++ (hbs.filter (·.clusterID = c)).map (·.sequenceNumber)

theorem mem_clusterSeqs {m : Table String UInt64} {hbs : List HeartbeatSignal} {c : String}
    {n : UInt64} : n ∈ clusterSeqs m hbs c ↔
      m c = some n ∨ ∃ hb ∈ hbs, hb.clusterID = c ∧ hb.sequenceNumber = n := by
  simp [clusterSeqs, and_assoc]

theorem foldl_markProcessed_above {hbs : List HeartbeatSignal} {m : Table String UInt64}
    {c : String} {n : UInt64} (hn : n ∈ clusterSeqs m hbs c) :
    ∃ q, hbs.foldl markProcessed m c = some q ∧ n ≤ q := by
  rcases mem_clusterSeqs.mp hn with hm | ⟨hb, hmem, rfl, rfl⟩
  · exact foldl_markProcessed_grow hbs m c n hm
  · exact foldl_markProcessed_recorded hmem m

theorem foldl_markProcessed_iff {hbs : List HeartbeatSignal} {m : Table String UInt64} {c : String}
    {n : UInt64} :
    hbs.foldl markProcessed m c = some n ↔ Highest (clusterSeqs m hbs c) n := by
  have hhighest : ∀ q, hbs.foldl markProcessed m c = some q → Highest (clusterSeqs m hbs c) q := by
    intro q hq
    refine ⟨mem_clusterSeqs.mpr (foldl_markProcessed_cases hq), fun n hn => ?_⟩
    obtain ⟨q', hq', hle⟩ := foldl_markProcessed_above hn
    cases hq.symm.trans hq'
    exact hle
  refine ⟨hhighest n, fun hn => ?_⟩
  obtain ⟨q, hq, -⟩ := foldl_markProcessed_above hn.1
  rw [hq, (hhighest q hq).unique hn]

theorem foldl_ackHeartbeat_highest (hbs : List HeartbeatSignal) (ack : UInt64) :
    Highest (ack :: hbs.map (·.sequenceNumber)) (hbs.foldl ackHeartbeat ack) := by
  induction hbs generalizing ack with
  | nil => simp [Highest]
  | cons hb hbs ih =>
    obtain ⟨hmem, hle⟩ := ih (ackHeartbeat ack hb)
    simp only [List.foldl_cons, List.map_cons, Highest, List.mem_cons, forall_eq_or_imp] at *
    unfold ackHeartbeat at *
    split_ifs at * with hlt
    · exact ⟨.inr hmem, UInt64.le_trans (UInt64.le_of_lt hlt) hle.1, hle.1, hle.2⟩
    · refine ⟨hmem.imp id .inr, hle.1, UInt64.le_trans (UInt64.not_lt.mp hlt) hle.1, hle.2⟩

namespace TenantAccountingState

/-- The account and the global accounts of every resource are known. -/
def AccountsKnown (s : TenantAccountingState) : Prop :=
  ∀ r, (s.accountMap r).isSome = true ∧ (s.globalOperatorIDs r).isSome = true ∧
    (s.globalSinkIDs r).isSome = true

/-- What a flush may write is as before, but for flags that handlers deleted if one
of them was `told` of its allocation. -/
structure Spared (told : Prop) (s s' : TenantAccountingState) : Prop where
  curBatch : s'.curBatch = s.curBatch
  processedSeqs : s'.processedSeqs = s.processedSeqs
  lastAck : s'.lastAck = s.lastAck
  pendingGaugeIDs : s'.pendingGaugeIDs = s.pendingGaugeIDs
  exceededResources : ∀ r, s'.exceededResources r = s.exceededResources r ∨
    told ∧ s'.exceededResources r = none

namespace Spared

variable {told : Prop} {s s' s'' : TenantAccountingState}

theorem refl (told : Prop) (s : TenantAccountingState) : Spared told s s :=
  ⟨rfl, rfl, rfl, rfl, fun _ => .inl rfl⟩

theorem trans (hs : Spared told s s') (hs' : Spared told s' s'') : Spared told s s'' where
  curBatch := hs'.curBatch.trans hs.curBatch
  processedSeqs := hs'.processedSeqs.trans hs.processedSeqs
  lastAck := hs'.lastAck.trans hs.lastAck
  pendingGaugeIDs := hs'.pendingGaugeIDs.trans hs.pendingGaugeIDs
  exceededResources := fun r => by
    rcases hs'.exceededResources r with he | he
    · rw [he]
      exact hs.exceededResources r
    · exact .inr he

theorem countFlush (told : Prop) (s : TenantAccountingState) : Spared told s s.countFlush :=
  ⟨rfl, rfl, rfl, rfl, fun _ => .inl rfl⟩

theorem interval (told : Prop) (s : TenantAccountingState) (n : ℕ) :
    Spared told s { s with currentFlushInterval := n } :=
  ⟨rfl, rfl, rfl, rfl, fun _ => .inl rfl⟩

theorem clearExceeded {r : ResourceType} (s : TenantAccountingState) :
    Spared True s (s.clearExceeded r) where
  curBatch := rfl
  processedSeqs := rfl
  lastAck := rfl
  pendingGaugeIDs := rfl
  exceededResources := fun q => by
    by_cases hq : q = r
    · exact .inr ⟨trivial, by simp [TenantAccountingState.clearExceeded, hq]⟩
    · exact .inl (Table.erase_other _ hq)

theorem mono {told' : Prop} (hs : Spared told s s') (himp : told → told') : Spared told' s s' :=
  { hs with exceededResources := fun r => (hs.exceededResources r).imp id (And.imp_left himp) }

end Spared
end TenantAccountingState

theorem Main.submitting_of_flight {main : Main} {flight : Flight} (hf : main.flight = some flight) :
    ∃ site, main = .submitting site flight := by
  cases main with
  | submitting site f =>
    cases hf
    exact ⟨site, rfl⟩
  | _ => cases hf

namespace Execution

open TenantAccountingState

variable {h : Blake3} {ev : Event} {e e' : Execution} {flight : Flight}

/-- While the main loop waits for its batch, no step but the delivery of the outcome
touches the batch in flight or what the flush will write. -/
theorem step_spared (hflight : e.main.flight = some flight) (hask : ev.asksLedger = false)
    (hev : ∀ continuing, ev ≠ .deliver continuing) (hs : e.step h ev = some e') :
    e'.main.flight = some flight ∧ e.state.Spared (∃ i, ev = .creditDeliver i) e'.state := by
  obtain ⟨site, hm⟩ := Main.submitting_of_flight hflight
  cases ev with
  | heartbeat sig =>
    cases hs
    exact ⟨hflight, .refl _ _⟩
  | register sig =>
    cases hs
    exact ⟨hflight, .refl _ _⟩
  | update sig =>
    cases update_cases hs with
    | refused hm hvalid => exact ⟨hflight, .refl _ _⟩
    | accepted hm hvalid => exact ⟨hflight, .countFlush _ _⟩
  | receiveHeartbeat continuing =>
    simp only [step, receiveHeartbeat, hm] at hs
    cases hs
  | receiveRegistration continuing =>
    simp only [step, receiveRegistration, hm] at hs
    cases hs
  | timerFires timer =>
    simp only [step] at hs
    split_ifs at hs
    cases hs
    exact ⟨hflight, .refl _ _⟩
  | timerBranch continuing =>
    simp only [step, timerBranch, hm] at hs
    cases hs
  | attempt reached reply =>
    cases reply with
    | batch reply => cases hask
    | balances reply => cases hask
    | done reply =>
      simp only [step, attempt, hm] at hs
      cases hs
  | deliver continuing => exact absurd rfl (hev continuing)
  | creditAttempt i reached reply => cases hask
  | creditDeliver i =>
    cases creditDeliver_cases hs with
    | abandoned hi hout hgone => exact ⟨hflight, .refl _ _⟩
    | failed hi hout hown => exact ⟨hflight, .interval _ _ _⟩
    | confirmed hi hout hown =>
      exact ⟨hflight, (Spared.clearExceeded _).mono fun _ => ⟨i, rfl⟩⟩
  | refreshAttempt i reply =>
    obtain ⟨f, -, hs⟩ := Option.bind_eq_some_iff.mp hs
    obtain ⟨phase, -, rfl⟩ := Option.map_eq_some_iff.mp hs
    exact ⟨hflight, .refl _ _⟩
  | refreshDeliver i =>
    cases refreshDeliver_cases hs with
    | lookedUp hi hphase hout => exact ⟨hflight, .refl _ _⟩
    | notFound hi hphase hout => exact ⟨hflight, .interval _ _ _⟩
    | snapshotted hi hphase hout => exact ⟨hflight, .refl _ _⟩
    | reset hi hphase hout => exact ⟨hflight, .interval _ _ _⟩
  | continueAsNew =>
    simp only [step, continueAsNew, hm] at hs
    cases hs

theorem endIteration_spared (e : Execution) (continuing : Bool) (told : Prop) :
    e.state.Spared told (e.endIteration h continuing).state := by
  unfold endIteration
  split_ifs
  · exact .refl _ _
  · exact .countFlush _ _
  · exact .refl _ _

theorem afterFlush_spared (e : Execution) (site : FlushSite) (continuing : Bool) (told : Prop) :
    e.state.Spared told (e.afterFlush h site continuing).state := by
  cases site with
  | threshold =>
    exact (Spared.interval told e.state baseFlushInterval).trans
      ((e.setInterval baseFlushInterval).resetTimer.endIteration_spared continuing told)
  | timer =>
    exact (Spared.interval told e.state baseFlushInterval).trans
      ((e.setInterval baseFlushInterval).resetTimer.endIteration_spared continuing told)
  | continueAsNew => exact .refl _ _

end Execution
end CloudCredit.Accounting

namespace CloudCredit.System

open Library TigerBeetle Domain Ledger Accounting

/-- The service holds the transfer, or it has called it too high for the credits in
a decision that is not among the `earlier` ones. -/
def Judged (earlier : List (Entry Source)) (L : Books) (J : List (Entry Source)) (id : Uint128) :
    Prop :=
  (∃ c ∈ L.transfers, c.id = id) ∨
    ∃ new, J = new ++ earlier ∧ ∃ x ∈ new, x.transfer.id = id ∧ x.answer = .exceedsCredits

namespace Judged

variable {earlier J J' : List (Entry Source)} {L L' : Books} {id : Uint128}

theorem mono (hj : Judged earlier L J id) (hg : L.Grows L') (hJ : J <:+ J') :
    Judged earlier L' J' id := by
  rcases hj with ⟨c, hc, hid⟩ | ⟨new, rfl, x, hx, hid, ha⟩
  · exact .inl ⟨c, hg.transfers.subset hc, hid⟩
  · obtain ⟨more, rfl⟩ := hJ
    exact .inr ⟨more ++ new, by simp, x, List.mem_append_right _ hx, hid, ha⟩

theorem since (hj : Judged J L J' id) (hJ : earlier <:+ J) : Judged earlier L J' id := by
  rcases hj with hc | ⟨new, rfl, x, hx, hid, ha⟩
  · exact .inl hc
  · obtain ⟨more, rfl⟩ := hJ
    exact .inr ⟨new ++ more, by simp, x, List.mem_append_left _ hx, hid, ha⟩

theorem of_classified {t : Transfer} {r : CreateTransferResult} (ha : Answers L t r L')
    (hr : classified r = true) : (∃ c ∈ L'.transfers, c.id = t.id) ∨ r = .exceedsCredits := by
  by_cases hx : r = .exceedsCredits
  · exact .inr hx
  refine .inl ?_
  by_cases hok : r = .ok
  · refine ⟨L.stored t, ?_, stored_id L t⟩
    rw [ha.transfers_eq, if_pos hok]
    exact List.mem_cons_self
  · obtain ⟨c, hc⟩ := found_committed ha (by cases r <;> simp_all [classified,
      CreateTransferResult.found])
    obtain ⟨hmem, hid⟩ := Books.transfer?_some hc
    exact ⟨c, ha.grows.transfers.subset hmem, hid⟩

/-- A request whose answers all have a case leaves every transfer judged. -/
theorem record (tb : Service) {xs : List (Source × Transfer)}
    (hclass : ∀ r ∈ (tb.createTransfers L (xs.map Prod.snd)).1, classified r = true) :
    ∀ x ∈ xs, Judged J (tb.record (L, J) xs).1 (tb.record (L, J) xs).2 x.2.id := by
  induction xs generalizing L J with
  | nil => simp
  | cons y ys ih =>
    have hdoc := tb.transfer_documented L y.2
    simp only [List.map_cons, Service.createTransfers, List.mem_cons, forall_eq_or_imp] at hclass
    have hgrows : (tb.createTransfer L y.2).2.Grows (tb.record (L, J) (y :: ys)).1 := by
      rw [tb.record_books]
      exact tb.createTransfers_grows _ _
    intro x hx
    rcases List.mem_cons.mp hx with rfl | hx
    · have hhead : Judged J (tb.createTransfer L x.2).2
          (⟨x.1, x.2, (tb.createTransfer L x.2).1⟩ :: J) x.2.id := by
        refine (of_classified hdoc hclass.1).imp id fun hx => ?_
        exact ⟨[⟨x.1, x.2, (tb.createTransfer L x.2).1⟩], rfl, _, List.mem_singleton_self _, rfl, hx⟩
      exact hhead.mono hgrows (tb.record_suffix ((tb.createTransfer L x.2).2,
        ⟨x.1, x.2, (tb.createTransfer L x.2).1⟩ :: J) ys)
    · exact (ih hclass.2 x hx).since (List.suffix_cons _ _)

end Judged

namespace State

variable {h : Blake3} {tb : Service} {s s' : State} {u : Uint128}

theorem step_judged {earlier : List (Entry Source)} {id : Uint128} {ev : SystemEvent}
    (hj : Judged earlier s.books s.journal id) (hstep : s.step h tb ev = some s') :
    Judged earlier s'.books s'.journal id :=
  hj.mono (step_grows hstep) (step_journal hstep)

/-- The tenant waits for the batch it had `before`, and once its first request got
through every usage transfer of the batch is judged. -/
structure Awaits (h : Blake3) (told : Prop) (before : TenantAccountingState)
    (earlier : List (Entry Source)) (L : Books) (J : List (Entry Source)) (t : Tenant)
    (e : Execution) (flight : Flight) : Prop where
  completed : t.provisioning.phase = .completed
  accounting : t.accounting = some e
  waiting : e.main.flight = some flight
  input : flight.input = before.countFlush.batchInput h
  spared : before.Spared told e.state
  judged : (t.halfway.isSome = true ∨ ∃ result, flight.run.outcome = some (.ok result)) →
    ∀ y ∈ usageEntries h flight.input, Judged earlier L J y.2.id

namespace Awaits

variable {told : Prop} {before : TenantAccountingState} {earlier J J' : List (Entry Source)}
  {L L' : Books} {t : Tenant} {e : Execution} {flight : Flight}

theorem mono (ha : Awaits h told before earlier L J t e flight) (hg : L.Grows L')
    (hJ : J <:+ J') : Awaits h told before earlier L' J' t e flight :=
  { ha with judged := fun hhalf y hy => (ha.judged hhalf y hy).mono hg hJ }

theorem submitUsage_judged {input : TBBatchInput} {att : BatchAttempt}
    {per : Table ResourceType ResourceBatchResult} (hJ : earlier <:+ J)
    (hok : (submitUsage h input tb att L).1 = .ok per) :
    ∀ y ∈ usageEntries h input, Judged earlier (submitUsage h input tb att L).2
      (tb.record (L, J) (reachedEntries att.usageFate (usageEntries h input))).2 y.2.id := by
  obtain ⟨hanswered, hclass, -⟩ := (submitUsage_ok_iff h input tb att L per).mp hok
  intro y hy
  rcases hanswered with hnil | hanswered
  · simp [usageEntries, hnil] at hy
  · have hsent : reachedEntries att.usageFate (usageEntries h input) = usageEntries h input := by
      simp [reachedEntries, hanswered, Fate.reached]
    rw [classifies_regular tb (usageRequest_regular h input) L, ← usageEntries_transfers] at hclass
    rw [submitUsage_sent, hsent, ← tb.record_books (L, J)]
    exact (Judged.record tb hclass y hy).since hJ

/-- The tenant goes on waiting, unless the outcome is delivered. -/
theorem act (ha : Awaits h told before earlier L J t e flight) {ev : TenantEvent} {o : Outcome}
    (ho : t.act h tb L ev = some o) (hev : ∀ continuing, ev ≠ .workflow (.deliver continuing))
    (htold : (∃ i, ev = .workflow (.creditDeliver i)) → told) (hJ : earlier <:+ J) :
    ∃ e' flight', Awaits h told before earlier o.books (tb.record (L, J) o.sent).2 o.tenant e'
      flight' := by
  have hgrows := Tenant.act_grows ho
  have hsuffix := tb.record_suffix (L, J) o.sent
  have hacts := Tenant.act_acts (fun hphase => absurd ha.completed hphase) ho
  cases hacts with
  | provisioning hnone hxs => simp [ha.accounting] at hnone
  | start hnone => simp [ha.accounting] at hnone
  | @workflow ev e₁ e' he hask hstep =>
    cases ha.accounting.symm.trans he
    obtain ⟨hwait, hspared⟩ := Execution.step_spared ha.waiting hask
      (fun c hc => hev c (by rw [hc])) hstep
    refine ⟨e', flight, ha.completed, rfl, hwait, ha.input, ha.spared.trans (hspared.mono ?_),
      (ha.mono hgrows hsuffix).judged⟩
    rintro ⟨i, rfl⟩
    exact htold ⟨i, rfl⟩
  | @lookup ev e₁ e' he same =>
    cases ha.accounting.symm.trans he
    refine ⟨e', flight, ha.completed, rfl, same.flight.trans ha.waiting, ha.input,
      ha.spared.trans ?_, (ha.mono hgrows hsuffix).judged⟩
    rw [same.state]
    exact .interval _ _ _
  | @usage att reported e₁ site f per he hhalf hmain hout hper =>
    cases ha.accounting.symm.trans he
    obtain rfl : f = flight := by simpa [hmain, Main.flight] using ha.waiting
    exact ⟨e, f, ha.completed, ha.accounting, ha.waiting, ha.input, ha.spared,
      fun _ => submitUsage_judged hJ (Tenant.heard_ok hper).2⟩
  | @usageFails att reported e₁ site f err run he hhalf hmain herr hrun =>
    cases ha.accounting.symm.trans he
    obtain rfl : f = flight := by simpa [hmain, Main.flight] using ha.waiting
    refine ⟨_, { f with run := run }, ha.completed, rfl, rfl, ha.input, ha.spared, ?_⟩
    obtain ⟨-, rfl⟩ := ActivityRun.attempt_some hrun
    rintro (hsome | ⟨result, hok⟩)
    · simp [hhalf] at hsome
    · dsimp only at hok
      cases ActivityRun.decided_ok hok
  | @gauges reported e₁ site f att per run he hhalf hmain hrun =>
    cases ha.accounting.symm.trans he
    obtain rfl : f = flight := by simpa [hmain, Main.flight] using ha.waiting
    exact ⟨_, { f with run := run }, ha.completed, rfl, rfl, ha.input, ha.spared,
      fun _ => (ha.mono hgrows hsuffix).judged (.inl (by simp [hhalf]))⟩
  | @credit i att reported e₁ c run he hc hrun =>
    cases ha.accounting.symm.trans he
    exact ⟨_, flight, ha.completed, rfl, ha.waiting, ha.input, ha.spared,
      (ha.mono hgrows hsuffix).judged⟩

end Awaits

def Flushing (h : Blake3) (u : Uint128) (told : Prop) (before : TenantAccountingState)
    (earlier : List (Entry Source)) (s : State) : Prop :=
  earlier <:+ s.journal ∧ ∃ t e flight, s.tenants u = some t ∧
    Awaits h told before earlier s.books s.journal t e flight

theorem step_flushing {told : Prop} {before : TenantAccountingState}
    {earlier : List (Entry Source)} {ev : SystemEvent} (hf : Flushing h u told before earlier s)
    (hev : ∀ continuing, ev ≠ .tenant u (.workflow (.deliver continuing)))
    (htold : (∃ i, ev = .tenant u (.workflow (.creditDeliver i))) → told)
    (hstep : s.step h tb ev = some s') : Flushing h u told before earlier s' := by
  obtain ⟨hJ, t, e, flight, hu, ha⟩ := hf
  refine ⟨hJ.trans (step_journal hstep), ?_⟩
  have hsame : s'.tenants u = some t → ∃ t e flight, s'.tenants u = some t ∧
      Awaits h told before earlier s'.books s'.journal t e flight := fun hu' =>
    ⟨t, e, flight, hu', ha.mono (step_grows hstep) (step_journal hstep)⟩
  cases stepped_of_step hstep with
  | started => exact hsame hu
  | registered _ hnone => exact hsame (Table.set_fresh hnone hu _)
  | @acted v ev t' o hv ho =>
    by_cases huv : u = v
    · subst huv
      cases hu.symm.trans hv
      obtain ⟨e', flight', ha'⟩ := ha.act ho (fun c hc => hev c (by rw [hc]))
        (fun hi => htold (hi.imp fun i hi => by rw [hi])) hJ
      exact ⟨o.tenant, e', flight', Table.set_same _ _ _, ha'⟩
    · exact hsame ((Table.set_other _ huv _).trans hu)

theorem run_flushing {told : Prop} {before : TenantAccountingState}
    {earlier : List (Entry Source)} {es : List SystemEvent}
    (hev : ∀ continuing, .tenant u (.workflow (.deliver continuing)) ∉ es)
    (htold : (∃ i, .tenant u (.workflow (.creditDeliver i)) ∈ es) → told)
    (hr : runSteps (step h tb) s es = some s') (hf : Flushing h u told before earlier s) :
    Flushing h u told before earlier s' := by
  refine invariant_along (step h tb) (C := fun _ ev => ev ∈ es)
    (fun s ev s' hf hmem hstep => step_flushing hf (fun c hc => hev c (hc ▸ hmem)) ?_ hstep) hf
    (along_of_forall (step h tb) fun ev hmem => hmem) hr
  rintro ⟨i, rfl⟩
  exact htold ⟨i, hmem⟩

theorem mem_usageEntries_of_complete {before : TenantAccountingState} (hmaps : before.AccountsKnown)
    {hb : HeartbeatSignal} (hmem : hb ∈ before.curBatch) {r : ResourceType}
    (hg : r.isGauge = false) (hamount : heartbeatAmount hb r ≠ 0) :
    ∃ y ∈ usageEntries h (before.countFlush.batchInput h),
      y.2.id = h.deriveTransferID hb.clusterUUID hb.sequenceNumber r.ledgerID := by
  obtain ⟨hq, ho, hs⟩ := hmaps r
  obtain ⟨quota, hq⟩ := Option.isSome_iff_exists.mp hq
  obtain ⟨operator, ho⟩ := Option.isSome_iff_exists.mp ho
  obtain ⟨sink, hs⟩ := Option.isSome_iff_exists.mp hs
  have hsome : ∃ x, usageTransfer? h (before.countFlush.batchInput h) hb r = some x ∧
      x.resource = r ∧
      x.transferID = h.deriveTransferID hb.clusterUUID hb.sequenceNumber r.ledgerID := by
    simp [usageTransfer?, hg, hamount, TenantAccountingState.batchInput,
      TenantAccountingState.countFlush, hq, ho, hs]
  obtain ⟨x, hx, rfl, hid⟩ := hsome
  refine ⟨_, List.mem_map.mpr ⟨(hb, x), mem_usageTransfers.mpr ⟨hmem, hx⟩, rfl⟩, ?_⟩
  exact hid

/-- From the call of `flushBatch` with a batch until its outcome is delivered. If
the activity failed, what the flush writes is as before, apart from flags deleted by
handlers that were told of their allocation meanwhile. If the batch is cleared, every
usage transfer of it is held or was called too high during this flush, and exactly the
highest numbers are recorded and acknowledged. -/
theorem flush_acknowledges_decisions (s₀ : State) {t₀ : Tenant} {e₀ : Execution} {site : FlushSite}
    (hu : s₀.tenants u = some t₀) (hdone : t₀.provisioning.phase = .completed)
    (hhalf : t₀.halfway = none) (he : t₀.accounting = some (e₀.beginFlush h site))
    (hbatch : e₀.state.curBatch ≠ []) (hmaps : e₀.state.AccountsKnown) (es : List SystemEvent)
    (hwaiting : ∀ continuing, .tenant u (.workflow (.deliver continuing)) ∉ es)
    (hr : runSteps (step h tb) s₀ es = some s) {continuing : Bool}
    (hstep : s.step h tb (.tenant u (.workflow (.deliver continuing))) = some s') :
    ∃ t e calledAt flight t' e', s.tenants u = some t ∧ t.accounting = some e ∧
      e.main = .submitting calledAt flight ∧ s'.tenants u = some t' ∧ t'.accounting = some e' ∧
      (∀ err, flight.run.outcome = some (.error err) → e' = e.afterFlush h calledAt continuing ∧
        e₀.state.Spared (∃ i, .tenant u (.workflow (.creditDeliver i)) ∈ es) e'.state) ∧
      (e'.state.curBatch = [] →
        (∀ hb ∈ e₀.state.curBatch, ∀ r, r.isGauge = false → heartbeatAmount hb r ≠ 0 →
          Judged s₀.journal s'.books s'.journal
            (h.deriveTransferID hb.clusterUUID hb.sequenceNumber r.ledgerID)) ∧
        (∀ c n, e'.state.processedSeqs c = some n ↔
          Highest (clusterSeqs e₀.state.processedSeqs e₀.state.curBatch c) n) ∧
        Highest (e₀.state.lastAck :: e₀.state.curBatch.map (·.sequenceNumber)) e'.state.lastAck) := by
  have hstart : Flushing h u (∃ i, .tenant u (.workflow (.creditDeliver i)) ∈ es) e₀.state
      s₀.journal s₀ :=
    ⟨List.suffix_rfl, t₀, _, _, hu, hdone, he, rfl, rfl, .countFlush _ _,
      by simp [hhalf]⟩
  obtain ⟨-, t, e, flight, hu, ha⟩ := run_flushing hwaiting id hr hstart
  obtain ⟨calledAt, hmain⟩ := Main.submitting_of_flight ha.waiting
  obtain ⟨t', o, hu', ho, rfl⟩ := step_tenant hstep
  cases hu.symm.trans hu'
  obtain ⟨e₁, e', he₁, hdeliver, rfl⟩ := Tenant.advance_some ho
  cases ha.accounting.symm.trans he₁
  refine ⟨t, e, calledAt, flight, _, e', hu, ha.accounting, hmain, Table.set_same _ _ _, rfl, ?_⟩
  simp only [Execution.step, Execution.deliver, hmain] at hdeliver
  split at hdeliver
  · rename_i result hout
    cases hdeliver
    refine ⟨fun err herr => by simp [hout] at herr, fun _ => ⟨?_, ?_, ?_⟩⟩
    · intro hb hmem r hg hamount
      obtain ⟨y, hy, hid⟩ := mem_usageEntries_of_complete hmaps hmem hg hamount
      rw [← ha.input] at hy
      rw [← hid]
      exact step_judged (ha.judged (.inr ⟨result, hout⟩) y hy) hstep
    · intro c n
      rw [← foldl_markProcessed_iff, ← ha.spared.processedSeqs, ← ha.spared.curBatch]
      rfl
    · rw [← ha.spared.lastAck, ← ha.spared.curBatch]
      exact foldl_ackHeartbeat_highest _ _
  · rename_i err hout
    cases hdeliver
    have hspared := ha.spared.trans (e.afterFlush_spared (h := h) calledAt continuing _)
    refine ⟨fun _ _ => ⟨rfl, hspared⟩, fun hnil => ?_⟩
    rw [hspared.curBatch] at hnil
    exact absurd hnil hbatch
  · cases hdeliver

/-- A workflow that has just called `flushBatch` with one heartbeat, on books with
credits for its memory only. -/
def calledFlush : State where
  books := {
    accounts := allResources.flatMap fun r =>
      [quotaAccount (sampleID 1) r ((sampleIDs 10 r).getD 0),
        globalAccount (r, .sink) ((sampleIDs 30 r).getD 0)]
    balance := fun i => if i = sampleID 11 then { creditsPosted := 10 } else {} }
  tenants := Table.empty.set sampleTenant {
    provisioning := {
      input := ⟨sampleTenant, "free", Table.empty, sampleIDs 20, sampleIDs 30, 0⟩
      phase := .completed }
    accounting := some (({ state := sampleInput.initialState.appendHeartbeat (sampleHeartbeat 1) } :
      Execution).beginFlush .positional .timer) }

theorem calledFlush_acknowledged :
    ∃ s s' t' e', runSteps (step .positional Reference.service) calledFlush
        ([.submitUsage {} true, .submitGauges true].map (.tenant sampleTenant)) = some s ∧
      s.step .positional Reference.service (.tenant sampleTenant (.workflow (.deliver false))) =
        some s' ∧ s'.tenants sampleTenant = some t' ∧ t'.accounting = some e' ∧
      e'.state.curBatch = [] ∧
      Judged [] s'.books s'.journal (Blake3.positional.deriveTransferID (sampleID 2) 1
        ResourceType.cpuHours.ledgerID) ∧
      Highest [0, 1] e'.state.lastAck := by
  obtain ⟨s, hr, hp⟩ := runSteps_any (step .positional Reference.service) calledFlush
    ([.submitUsage {} true, .submitGauges true].map (.tenant sampleTenant))
    (fun s => (s.step .positional Reference.service
      (.tenant sampleTenant (.workflow (.deliver false)))).any fun s' =>
        (s'.tenants sampleTenant).all fun t => t.accounting.all fun e => e.state.curBatch = [])
    (by decide +kernel)
  simp only [Option.any_eq_true, Option.all_eq_true, decide_eq_true_eq] at hp
  obtain ⟨s', hstep, hclear⟩ := hp
  obtain ⟨t, e, calledAt, flight, t', e', -, -, -, hu', he', -, hcleared⟩ :=
    flush_acknowledges_decisions calledFlush rfl rfl rfl rfl (by decide)
      (fun r => by cases r <;> exact ⟨rfl, rfl, rfl⟩) _ (by simp) hr hstep
  have hnil := hclear t' hu' e' he'
  obtain ⟨hjudged, -, hack⟩ := hcleared hnil
  exact ⟨s, s', t', e', hr, hstep, hu', he', hnil,
    hjudged (sampleHeartbeat 1) (List.mem_singleton_self _) .cpuHours rfl (by decide), hack⟩

end State
end CloudCredit.System
