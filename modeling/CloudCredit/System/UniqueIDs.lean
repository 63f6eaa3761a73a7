import CloudCredit.System.FailedCredits

/-!
# One identifier for every event

The identifier of a transfer is derived from what it stands for. Two submissions
have the same one exactly if they are about the same event, and the events are
told apart by the run itself, not by the numbers in them: an update by its place
among the accepted updates, a flush by its place among the flushes begun.
-/
namespace CloudCredit.System

open Library TigerBeetle Domain Ledger Accounting

/-- What a transfer of a tenant is submitted for. -/
inductive TransferEvent
  | usage (cluster : Uint128) (seq : UInt64) (r : ResourceType)
  | provision (r : ResourceType)
  | credit (update : ℕ)
  | gaugeNew (flush : ℕ) (cluster : Uint128) (r : ResourceType)
  | gaugeVoid (flush : ℕ) (cluster : Uint128) (r : ResourceType)
  deriving DecidableEq

namespace Source

/-- The event of a source that was submitted after `flushes` flushes had begun. -/
def event (flushes : ℕ) : Source → TransferEvent
  | usage _ cluster seq r => .usage cluster seq r
  | gaugeNew _ _ cluster r => .gaugeNew flushes cluster r
  | gaugeVoid _ _ cluster r => .gaugeVoid flushes cluster r
  | provision _ _ r _ => .provision r
  | credit _ issue => .credit issue.update

/-- The number of the flush in a gauge's source. -/
def flushNumber : Source → Option UInt64
  | gaugeNew _ seqNo _ _ | gaugeVoid _ seqNo _ _ => some seqNo
  | _ => none

end Source

namespace State

/-- The number of the tenant's flush in flight. -/
def flushNumber (s : State) (u : Uint128) : Option UInt64 :=
  ((s.tenants u).bind (·.accounting)).bind (·.flushNumber)

/-- The tenant begins a flush with the step from `s` to `s'`. -/
def beginsFlush (u : Uint128) (s : State) (ev : SystemEvent) (s' : State) : Bool :=
  (s'.flushNumber u).isSome && ((s.flushNumber u).isNone ||
    match ev with
    | .tenant v (.workflow (.deliver _)) => v = u
    | _ => false)

end State

/-- A run of the system with the flushes the tenant began, and every submission
with their number at that time, newest first. -/
structure Trace where
  state : State := .initial
  flushes : ℕ := 0
  submitted : List (ℕ × Entry Source) := []

namespace Trace

variable (h : Blake3) (tb : Service) (u : Uint128)

def step (T : Trace) (ev : SystemEvent) : Option Trace :=
  (T.state.step h tb ev).map fun s =>
    { state := s
      flushes := if T.state.beginsFlush u ev s then T.flushes + 1 else T.flushes
      submitted := (s.journal.take (s.journal.length - T.state.journal.length)).map
        (fun x => (T.flushes, x)) ++ T.submitted }

variable {h tb u} {T T' : Trace} {ev : SystemEvent}

theorem step_some (hs : step h tb u T ev = some T') :
    T.state.step h tb ev = some T'.state ∧
      T'.flushes = (if T.state.beginsFlush u ev T'.state then T.flushes + 1 else T.flushes) ∧
      ∃ new, T'.state.journal = new ++ T.state.journal ∧
        T'.submitted = new.map (fun x => (T.flushes, x)) ++ T.submitted := by
  obtain ⟨s, hstep, rfl⟩ := Option.map_eq_some_iff.mp hs
  obtain ⟨new, hnew⟩ := State.step_journal hstep
  refine ⟨hstep, rfl, new, hnew.symm, ?_⟩
  simp [← hnew]

theorem exists_of_run {es : List SystemEvent} {s : State}
    (hr : runSteps (State.step h tb) T.state es = some s)
    (hT : T.submitted.map Prod.snd = T.state.journal) :
    ∃ T', runSteps (step h tb u) T es = some T' ∧ T'.state = s ∧
      T'.submitted.map Prod.snd = s.journal := by
  induction es generalizing T with
  | nil =>
    cases hr
    exact ⟨T, rfl, rfl, hT⟩
  | cons ev es ih =>
    obtain ⟨m, hm, hr⟩ := runSteps_cons (State.step h tb) hr
    obtain ⟨M, hM, hstate⟩ : ∃ M, step h tb u T ev = some M ∧ M.state = m := by
      simp [step, hm]
    obtain ⟨-, -, new, hjournal, hsub⟩ := step_some hM
    subst hstate
    obtain ⟨T', hT', hstate, hsub'⟩ := ih hr (by
      rw [hsub, hjournal, List.map_append, hT, List.map_map]
      simp [Function.comp_def])
    exact ⟨T', by simp [runSteps, hM, hT'], hstate, hsub'⟩

/-- The numbers of the tenant's flushes in the order in which they began. They
increase, and every gauge transfer has the number of its own flush. -/
structure Numbered (u : Uint128) (T : Trace) (ns : List UInt64) : Prop where
  count : ns.length = T.flushes
  increasing : ns.Pairwise (· < ·)
  started : ∀ t, T.state.tenants u = some t → t.accounting = none → ns = []
  registered : T.state.tenants u = none → ns = []
  bound : ∀ t e, T.state.tenants u = some t → t.accounting = some e →
    ∀ n ∈ ns, n ≤ e.state.flushSeqNo
  flight : ∀ n, T.state.flushNumber u = some n → ns.getLast? = some n
  submitted : ∀ y ∈ T.submitted, y.2.origin.tenant = u → ∀ n, y.2.origin.flushNumber = some n →
    ∃ j, y.1 = j + 1 ∧ ns[j]? = some n

end Trace

theorem gaugeEntries_flushNumber {seqNo : UInt64} {input : TBBatchInput} {att : BatchAttempt}
    {x : Source × Transfer} (hx : x ∈ gaugeEntries seqNo input att) :
    x.1.flushNumber = some seqNo := by
  obtain ⟨k, y, -, ⟨old, -, rfl⟩ | ⟨-, rfl⟩⟩ := mem_gaugeEntriesFrom hx <;> rfl

theorem usageEntries_flushNumber {h : Blake3} {input : TBBatchInput} {x : Source × Transfer}
    (hx : x ∈ usageEntries h input) : x.1.flushNumber = none := by
  obtain ⟨y, -, rfl⟩ := List.mem_map.mp hx
  rfl

theorem Acts.gauge_number {h : Blake3} {tb : Service} {t : Tenant} {L : Books} {ev : TenantEvent}
    {o : Outcome} (hacts : Acts h tb t L ev o) {x : Source × Transfer} (hx : x ∈ o.sent) {n : UInt64}
    (hn : x.1.flushNumber = some n) :
    ∃ e, t.accounting = some e ∧ e.flushNumber = some n := by
  cases hacts with
  | provisioning hnone hxs =>
    obtain ⟨_, _, _, hp⟩ := hxs _ hx
    rw [hp] at hn
    cases hn
  | start => simp [Tenant.alone] at hx
  | workflow => simp [Tenant.alone] at hx
  | lookup => simp [Tenant.alone] at hx
  | usage =>
    rw [usageEntries_flushNumber (mem_reachedEntries hx).1] at hn
    cases hn
  | usageFails =>
    rw [usageEntries_flushNumber (mem_reachedEntries hx).1] at hn
    cases hn
  | gauges he hhalf hmain hrun =>
    have hseq := gaugeEntries_flushNumber (mem_reachedEntries hx).1
    refine ⟨_, he, ?_⟩
    rw [Execution.flushNumber, hmain, ← hn, hseq]
    rfl
  | credit he hc hrun =>
    obtain ⟨k, a, -, heq⟩ := mem_allocationEntriesFrom (mem_reachedEntries hx).1
    rw [heq] at hn
    cases hn

namespace Trace

variable {h : Blake3} {tb : Service} {u : Uint128} {T T' : Trace} {ev : SystemEvent}
  {ns : List UInt64} {t : Tenant} {e : Execution}

theorem flushNumber_eq {s : State} (hu : s.tenants u = some t) (he : t.accounting = some e) :
    s.flushNumber u = e.flushNumber := by
  simp [State.flushNumber, hu, he]

/-- The submissions of a step carry the number of the flush in flight. -/
theorem Numbered.submit (hN : Numbered u T ns) (hs : T.state.Sound h)
    (hstep : T.step h tb u ev = some T') (rest : List UInt64) :
    ∀ y ∈ T'.submitted, y.2.origin.tenant = u → ∀ n, y.2.origin.flushNumber = some n →
      ∃ j, y.1 = j + 1 ∧ (ns ++ rest)[j]? = some n := by
  intro y hy hu n hn
  suffices ∃ j, y.1 = j + 1 ∧ ns[j]? = some n by
    obtain ⟨j, hj, hget⟩ := this
    refine ⟨j, hj, ?_⟩
    rw [List.getElem?_append_left (List.getElem?_eq_some_iff.mp hget).1, hget]
  obtain ⟨hstate, -, new, hjournal, hsub⟩ := step_some hstep
  rw [hsub] at hy
  rcases List.mem_append.mp hy with hy | hy
  · obtain ⟨x, hx, rfl⟩ := List.mem_map.mp hy
    obtain ⟨w, t, o, -, ht, hacts, hsent⟩ := State.step_new hs hstate hjournal hx
    dsimp only at hu hn
    rw [hu] at ht
    obtain ⟨e, he, hnumber⟩ := hacts.gauge_number hsent hn
    have hlast := hN.flight n ((flushNumber_eq ht he).trans hnumber)
    rw [List.getLast?_eq_getElem?] at hlast
    have hlt := (List.getElem?_eq_some_iff.mp hlast).1
    exact ⟨ns.length - 1, by rw [← hN.count]; omega, hlast⟩
  · exact hN.submitted y hy hu n hn

theorem not_beginsFlush {s s' : State} (hnone : s'.flushNumber u = none) :
    s.beginsFlush u ev s' = false := by
  simp [State.beginsFlush, hnone]

theorem advances_flush {e e' : Execution} (hadv : Advances h u ev e e') :
    ∃ w, FlushStep w e e' ∧ (∀ c, w = .deliver c → ev = .tenant u (.workflow (.deliver c))) ∧
      ∀ c, ev = .tenant u (.workflow (.deliver c)) → e.step h (.deliver c) = some e' := by
  rcases hadv with ⟨hother, rfl⟩ | ⟨w, hw, hstep⟩
  · exact ⟨.continueAsNew, .stays rfl (.inl rfl), by simp, fun c hc => absurd hc (hother _)⟩
  · refine ⟨w, Execution.step_flush hstep, fun c hc => ?_, fun c hc => ?_⟩
    · subst hc
      cases hw
      rfl
    · subst hc
      cases hw
      exact hstep

theorem not_beginsFlush_of_same {s s' : State} {e e' : Execution}
    (hnumber : s.flushNumber u = e.flushNumber) (hnumber' : s'.flushNumber u = e'.flushNumber)
    (hsame : e'.flushNumber = e.flushNumber)
    (hnext : e.flushNumber ≠ some (e.state.flushSeqNo + 1))
    (hown : ∀ c, ev = .tenant u (.workflow (.deliver c)) → e.step h (.deliver c) = some e') :
    s.beginsFlush u ev s' = false := by
  cases hn : e'.flushNumber with
  | none => exact not_beginsFlush (hnumber'.trans hn)
  | some n =>
    have hold := hsame.symm.trans hn
    simp only [State.beginsFlush, hnumber, hnumber', hn, hold, Option.isSome_some,
      Option.isNone_some, Bool.true_and, Bool.false_or]
    split
    · rename_i v c
      refine decide_eq_false fun hv => ?_
      subst hv
      rcases Execution.deliver_flush (hown c rfl) hold with hd | hd
      · cases hn.symm.trans hd
      · exact hnext (hsame.symm.trans hd)
    · rfl

theorem beginsFlush_of_begins {s s' : State} {e e' : Execution} {w : Event} {n : UInt64}
    (hnumber : s.flushNumber u = e.flushNumber) (hnumber' : s'.flushNumber u = e'.flushNumber)
    (hnew : e'.flushNumber = some n) (hidle : e.flushNumber = none ∨ ∃ c, w = .deliver c)
    (hdeliver : ∀ c, w = .deliver c → ev = .tenant u (.workflow (.deliver c))) :
    s.beginsFlush u ev s' = true := by
  simp only [State.beginsFlush, hnumber, hnumber', hnew, Option.isSome_some, Bool.true_and,
    Bool.or_eq_true]
  rcases hidle with hidle | ⟨c, hc⟩
  · exact .inl (by rw [hidle]; rfl)
  · exact .inr (by rw [hdeliver c hc]; simp)

theorem Numbered.extend (hN : Numbered u T ns) (hs : T.state.Sound h)
    (hstep : T.step h tb u ev = some T') (hu' : T'.state.tenants u = some t)
    (he' : t.accounting = some e) {rest : List UInt64}
    (hcount : (ns ++ rest).length = T'.flushes) (hinc : (ns ++ rest).Pairwise (· < ·))
    (hbound : ∀ n ∈ ns ++ rest, n ≤ e.state.flushSeqNo)
    (hflight : ∀ n, e.flushNumber = some n → (ns ++ rest).getLast? = some n) :
    Numbered u T' (ns ++ rest) where
  count := hcount
  increasing := hinc
  started := fun t₁ ht₁ hnone => by
    cases hu'.symm.trans ht₁
    cases he'.symm.trans hnone
  registered := fun hnone => by cases hu'.symm.trans hnone
  bound := fun t₁ e₁ ht₁ he₁ => by
    cases hu'.symm.trans ht₁
    cases he'.symm.trans he₁
    exact hbound
  flight := fun n hn => hflight n ((flushNumber_eq hu' he').symm.trans hn)
  submitted := hN.submit hs hstep rest

theorem Numbered.running (hN : Numbered u T ns) (hs : T.state.Sound h) (hb : T.state.BelowPeriod u)
    (hstep : T.step h tb u ev = some T') (hu : T.state.tenants u = some t)
    (he : t.accounting = some e) : ∃ rest, Numbered u T' (ns ++ rest) := by
  obtain ⟨hstate, hflushes, -⟩ := step_some hstep
  obtain ⟨t', e', hu', he', hadv⟩ := State.step_execution hs hstate hu he
  obtain ⟨w, hflush, hdeliver, hown⟩ := advances_flush hadv
  have hwrap : e.state.flushSeqNo < e.state.flushSeqNo + 1 := counter_lt_succ (hb t e hu he)
  have hbound := hN.bound t e hu he
  have hnumber := flushNumber_eq hu he
  have hnumber' := flushNumber_eq hu' he'
  have hnext : ∀ n ∈ ns, n < e.state.flushSeqNo + 1 := fun n hn =>
    UInt64.lt_of_le_of_lt (hbound n hn) hwrap
  cases hflush with
  | stays hsame hseq =>
    have hstay := not_beginsFlush_of_same hnumber hnumber' hsame (fun hn => UInt64.lt_irrefl _
      (hnext _ (List.mem_of_getLast? (hN.flight _ (hnumber.trans hn))))) hown
    refine ⟨[], hN.extend hs hstep hu' he' ?_ ?_ ?_ fun n hn => ?_⟩
    · simp [hflushes, hstay, hN.count]
    · simpa using hN.increasing
    · intro n hn
      have hn : n ∈ ns := by simpa using hn
      rcases hseq with hseq | hseq
      · rw [hseq]
        exact hbound n hn
      · rw [hseq]
        exact UInt64.le_of_lt (hnext n hn)
    · simpa using hN.flight n (hnumber.trans (hsame.symm.trans hn))
  | ends hnone hev hseq =>
    refine ⟨[], hN.extend hs hstep hu' he' ?_ ?_ ?_ fun n hn => ?_⟩
    · simp [hflushes, not_beginsFlush (hnumber'.trans hnone), hN.count]
    · simpa using hN.increasing
    · rw [hseq]
      simpa using hbound
    · cases hnone.symm.trans hn
  | begins hnew hidle hseq =>
    have hbegin := beginsFlush_of_begins hnumber hnumber' hnew hidle hdeliver
    refine ⟨[e.state.flushSeqNo + 1], hN.extend hs hstep hu' he' ?_ ?_ ?_ fun n hn => ?_⟩
    · simp [hflushes, hbegin, hN.count]
    · refine List.pairwise_append.mpr ⟨hN.increasing, List.pairwise_singleton _ _, ?_⟩
      intro a ha b hb
      rw [List.mem_singleton.mp hb]
      exact hnext a ha
    · intro n hn
      rw [hseq]
      rcases List.mem_append.mp hn with hn | hn
      · exact UInt64.le_of_lt (hnext n hn)
      · rw [List.mem_singleton.mp hn]
        exact UInt64.le_refl _
    · rw [List.getLast?_concat, ← hn, hnew]

theorem Numbered.starting (hN : Numbered u T ns) (hs : T.state.Sound h)
    (hstep : T.step h tb u ev = some T')
    (hnone : ∀ t e, T.state.tenants u = some t → t.accounting ≠ some e) : Numbered u T' ns := by
  obtain ⟨hstate, hflushes, -⟩ := step_some hstep
  have hnil : ns = [] := by
    cases hu : T.state.tenants u with
    | none => exact hN.registered hu
    | some t =>
      cases he : t.accounting with
      | none => exact hN.started t hu he
      | some e => exact absurd he (hnone t e hu)
  have hidle : T'.state.flushNumber u = none := by
    cases hn : T'.state.flushNumber u with
    | none => rfl
    | some n =>
      obtain ⟨e', he', hnumber⟩ := Option.bind_eq_some_iff.mp hn
      obtain ⟨t', hu', he'⟩ := Option.bind_eq_some_iff.mp he'
      obtain ⟨t, hu, ⟨e, he⟩ | rfl⟩ := State.step_started hs hstate hu' he'
      · exact absurd he (hnone t e hu)
      · cases hnumber
  have hsub := hN.submit hs hstep []
  subst hnil
  refine ⟨?_, .nil, fun _ _ _ => rfl, fun _ => rfl, by simp, fun n hn => ?_, hsub⟩
  · rw [hflushes, not_beginsFlush hidle]
    exact hN.count
  · cases hidle.symm.trans hn

theorem step_numbered (hN : Numbered u T ns) (hs : T.state.Sound h) (hb : T.state.BelowPeriod u)
    (hstep : T.step h tb u ev = some T') : ∃ ns', Numbered u T' ns' := by
  by_cases hrun : ∃ t e, T.state.tenants u = some t ∧ t.accounting = some e
  · obtain ⟨t, e, hu, he⟩ := hrun
    obtain ⟨rest, hN'⟩ := hN.running hs hb hstep hu he
    exact ⟨_, hN'⟩
  · exact ⟨ns, hN.starting hs hstep fun t e hu he => hrun ⟨t, e, hu, he⟩⟩

theorem run_numbered {es : List SystemEvent} (hN : Numbered u T ns) (hs : T.state.Sound h)
    (hb : Throughout (State.step h tb) (State.BelowPeriod u) T.state es)
    (hr : runSteps (step h tb u) T es = some T') : ∃ ns', Numbered u T' ns' := by
  induction es generalizing T ns with
  | nil =>
    cases hr
    exact ⟨ns, hN⟩
  | cons ev es ih =>
    obtain ⟨M, hM, hr⟩ := runSteps_cons (step h tb u) hr
    obtain ⟨hstate, -⟩ := step_some hM
    obtain ⟨ns', hN'⟩ := step_numbered hN hs hb.1 hM
    exact ih hN' (State.step_sound hs hstate) (hb.2 _ hstate) hr

theorem initial_numbered (u : Uint128) : Numbered u {} [] where
  count := rfl
  increasing := .nil
  started := fun _ _ _ => rfl
  registered := fun _ => rfl
  bound := by simp
  flight := fun n hn => by cases hn
  submitted := by simp

theorem Numbered.flush_eq_iff (hN : Numbered u T ns) {y z : ℕ × Entry Source}
    (hy : y ∈ T.submitted) (hz : z ∈ T.submitted) (hyu : y.2.origin.tenant = u)
    (hzu : z.2.origin.tenant = u) {m n : UInt64} (hm : y.2.origin.flushNumber = some m)
    (hn : z.2.origin.flushNumber = some n) : m = n ↔ y.1 = z.1 := by
  obtain ⟨i, hi, hgeti⟩ := hN.submitted y hy hyu m hm
  obtain ⟨j, hj, hgetj⟩ := hN.submitted z hz hzu n hn
  rw [hi, hj]
  constructor
  · rintro rfl
    have hnodup : ns.Nodup := hN.increasing.imp fun hlt => UInt64.ne_of_lt hlt
    have hlt := (List.getElem?_eq_some_iff.mp hgeti).1
    rw [(List.getElem?_inj hlt hnodup).mp (hgeti.trans hgetj.symm)]
  · intro hij
    rw [Nat.succ.inj hij] at hgeti
    exact Option.some.inj (hgeti.symm.trans hgetj)

end Trace

theorem Source.preimage_eq_iff {u : Uint128} {a b : Source} {m n : ℕ} (ha : a.tenant = u)
    (hb : b.tenant = u)
    (hflush : ∀ k l, a.flushNumber = some k → b.flushNumber = some l → (k = l ↔ m = n))
    (hissue : ∀ i j, a = .credit u i → b = .credit u j →
      (i.seqNo = j.seqNo → i = j) ∧ (i.update = j.update → i = j))
    (hperiod : ∀ p q r r' c c', a = .provision u p r c → b = .provision u q r' c' → p = q)
    (hleft : ∀ p r c i, a = .provision u p r c → b = .credit u i → p.toUInt64 ≠ i.seqNo)
    (hright : ∀ p r c i, a = .credit u i → b = .provision u p r c → p.toUInt64 ≠ i.seqNo) :
    a.preimage = b.preimage ↔ a.event m = b.event n := by
  have hledger : ∀ r r' : ResourceType, r.ledgerID = r'.ledgerID ↔ r = r' := fun r r' =>
    ⟨ResourceType.ledgerID_injective, congrArg _⟩
  cases a with
  | usage t cluster seq r =>
    cases b with
    | usage => simp [preimage, event, hledger]
    | _ => simp [preimage, event]
  | gaugeNew t seqNo cluster r =>
    cases b with
    | gaugeNew t' seqNo' =>
      cases ha.trans hb.symm
      simp [preimage, event, hledger, hflush seqNo seqNo' rfl rfl]
    | _ => simp [preimage, event]
  | gaugeVoid t seqNo cluster r =>
    cases b with
    | gaugeVoid t' seqNo' =>
      cases ha.trans hb.symm
      simp [preimage, event, hledger, hflush seqNo seqNo' rfl rfl]
    | _ => simp [preimage, event]
  | provision t p r c =>
    cases ha
    cases b with
    | provision t' q r' c' =>
      cases hb
      cases hperiod p q r r' c c' rfl rfl
      simp [preimage, event, hledger]
    | credit t' i =>
      cases hb
      simp [preimage, event, hleft p r c i rfl rfl]
    | _ => simp [preimage, event]
  | credit t i =>
    cases ha
    cases b with
    | provision t' q r' c' =>
      cases hb
      simp [preimage, event, Ne.symm (hright q r' c' i rfl rfl)]
    | credit t' j =>
      cases hb
      obtain ⟨hseq, hupdate⟩ := hissue i j rfl rfl
      simp only [preimage, event, Preimage.allocation.injEq, hledger, true_and,
        TransferEvent.credit.injEq]
      constructor
      · rintro ⟨heq, -⟩
        rw [hseq heq]
      · intro heq
        rw [hupdate heq]
        exact ⟨rfl, rfl⟩
    | _ => simp [preimage, event]

namespace State

variable {h : Blake3} {tb : Service} {s : State} {u : Uint128}

theorem Sound.id_eq_iff (hs : s.Sound h) (hfree : h.CollisionFree (preimages s.journal))
    {x y : Entry Source} (hx : x ∈ s.journal) (hy : y ∈ s.journal) :
    x.transfer.id = y.transfer.id ↔ x.origin.preimage = y.origin.preimage := by
  refine ⟨hs.preimage_eq hfree hx hy, fun heq => ?_⟩
  obtain ⟨tx, -, hox⟩ := hs.journal x hx
  obtain ⟨ty, -, hoy⟩ := hs.journal y hy
  rw [hox.id_eq (hfree.derive_ne_zero ⟨x, hx, rfl⟩), hoy.id_eq (hfree.derive_ne_zero ⟨y, hy, rfl⟩),
    heq]

/-- Two submissions of a tenant carry the same identifier exactly if they are
about the same event. The trace of the run submits what the journal has. -/
theorem same_id_iff_same_event (es : List SystemEvent)
    (hr : runSteps (step h tb) initial es = some s)
    (hfree : h.CollisionFree (preimages s.journal))
    (hbelow : Throughout (step h tb) (BelowPeriod u) initial es) :
    ∃ T, runSteps (Trace.step h tb u) {} es = some T ∧ T.submitted.map Prod.snd = s.journal ∧
      ∀ y ∈ T.submitted, ∀ z ∈ T.submitted, y.2.origin.tenant = u → z.2.origin.tenant = u →
        (y.2.transfer.id = z.2.transfer.id ↔ y.2.origin.event y.1 = z.2.origin.event z.1) := by
  have hs := run_sound hr
  obtain ⟨T, hT, hstate, hsub⟩ := Trace.exists_of_run (u := u) (T := {}) hr rfl
  obtain ⟨ns, hN⟩ := Trace.run_numbered (Trace.initial_numbered u) initial_sound hbelow hT
  refine ⟨T, hT, hsub, fun y hy z hz hyu hzu => ?_⟩
  have hmem : ∀ w ∈ T.submitted, w.2 ∈ s.journal := fun w hw => hsub ▸ List.mem_map_of_mem hw
  rw [hs.id_eq_iff hfree (hmem y hy) (hmem z hz)]
  obtain ⟨t, hu, -⟩ := hs.journal _ (hmem y hy)
  rw [hyu] at hu
  have hissued : ∀ w ∈ T.submitted, ∀ i, w.2.origin = .credit u i →
      ∃ e, t.accounting = some e ∧ Counted e ∧ i ∈ e.history.issued := by
    intro w hw i ho
    obtain ⟨hrunning, hidle⟩ := run_credited hr hbelow hfree t hu
    cases he : t.accounting with
    | none => exact absurd ho (hidle he _ (hmem w hw) i)
    | some e =>
      exact ⟨e, rfl, (hrunning e he).counted, (hrunning e he).issued _ (hmem w hw) i ho⟩
  have hmixed : ∀ w ∈ T.submitted, ∀ v ∈ T.submitted, ∀ p r c i, w.2.origin = .provision u p r c →
      v.2.origin = .credit u i → p.toUInt64 ≠ i.seqNo := by
    intro w hw v hv p r c i hp hi heq
    obtain ⟨e, he, hcounted, hmem'⟩ := hissued v hv i hi
    have hlt := UInt64.lt_of_le_of_lt (hcounted.bound i hmem') (hbelow.last _ hr t e hu he)
    rw [← heq, hs.period (hmem w hw) hu hp] at hlt
    exact UInt64.lt_irrefl _ hlt
  refine Source.preimage_eq_iff hyu hzu
    (fun k l hk hl => hN.flush_eq_iff hy hz hyu hzu hk hl) (fun i j hi hj => ?_)
    (fun p q r r' c c' hp hq => ?_) (hmixed y hy z hz)
    (fun p r c i hi hp => hmixed z hz y hy p r c i hp hi)
  · obtain ⟨e, he, hcounted, hi⟩ := hissued y hy i hi
    obtain ⟨e', he', -, hj⟩ := hissued z hz j hj
    cases he.symm.trans he'
    exact ⟨hcounted.issue_eq hi hj, fun heq =>
      List.inj_on_of_nodup_map hcounted.updates_nodup hi hj heq⟩
  · rw [hs.period (hmem y hy) hu hp, hs.period (hmem z hz) hu hq]

/-- After a submitted batch: the balances are read and written, and the main loop
is back at its selector. -/
def sampleProjection : List TenantEvent :=
  [.lookup {}, .workflow (.deliver false), .workflow (.attempt false (.done (.ok ()))),
    .workflow (.deliver false), .workflow (.attempt false (.done (.ok ()))),
    .workflow (.deliver false)]

/-- Two flushes of one cluster, the first with a lost reply. -/
def twoFlushes : List SystemEvent :=
  sampleProvisioning 100 20 ++ (sampleBatchOf [sampleHeartbeat 1] 0 ++
    TenantEvent.submitUsage { usageFate := .lostReply "reset" } true :: sampleSubmission ++
    sampleProjection ++ sampleBatchOf [sampleHeartbeat 2] 1 ++ sampleSubmission).map
      (.tenant sampleTenant)

theorem twoFlushes_ids :
    ∃ T, runSteps (Trace.step .positional Reference.service sampleTenant) {} twoFlushes = some T ∧
      T.flushes = 2 ∧ T.submitted.length = 12 ∧
      ∀ y ∈ T.submitted, ∀ z ∈ T.submitted, y.2.origin.tenant = sampleTenant →
        z.2.origin.tenant = sampleTenant →
        (y.2.transfer.id = z.2.transfer.id ↔ y.2.origin.event y.1 = z.2.origin.event z.1) := by
  obtain ⟨T, hT, hp⟩ := runSteps_any (Trace.step .positional Reference.service sampleTenant) {}
    twoFlushes (fun T => T.flushes = 2 && T.submitted.length = 12) (by decide +kernel)
  simp only [Bool.and_eq_true, decide_eq_true_eq] at hp
  obtain ⟨s, hr, hfree⟩ := runSteps_any (step .positional Reference.service) initial twoFlushes
    (fun s => collisionTest .positional s.journal) (by decide +kernel)
  obtain ⟨T', hT', -, hids⟩ := same_id_iff_same_event twoFlushes hr
    (collisionFree_of_collisionTest hfree)
    (throughout_of_throughoutTest _ (by decide +kernel) : Throughout _ (BelowPeriod sampleTenant) _ _)
  cases hT.symm.trans hT'
  exact ⟨T, hT, hp.1, hp.2, hids⟩

end State
end CloudCredit.System
