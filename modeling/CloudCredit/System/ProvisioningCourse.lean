import CloudCredit.System.FirstLoads

/-!
# The course of a provisioning

The activities of a provisioning workflow are attempted one after the other. Each may
lose replies, with or without an effect, before an attempt is answered. The list of the
events still to come is the measure of progress: every step of the workflow takes the
head off its list, and what others do leaves the list alone.
-/
namespace CloudCredit.System

open Library TigerBeetle Domain Ledger Accounting

/-- The event is a step of a provisioning workflow. -/
def TenantEvent.provisions : TenantEvent → Bool
  | .rowAttempt _ | .createAccounts _ _ | .allocate _ _ | .deliverProvisioning
  | .startAccounting _ => true
  | _ => false

def StoredEvent.provisions (u : Uint128) : StoredEvent → Bool
  | .insertTenant v _ | .insertTBAccountMapping v _ => v = u
  | .system (.tenant v ev) => v = u && ev.provisions
  | _ => false

section Course

variable (u : Uint128)

/-- The attempts of each activity: those whose reply is lost, with or without an
effect, and those that reach their service and are answered. -/
def TenantLost (ev : StoredEvent) : Prop :=
  ∃ att, ev = .insertTenant u att ∧ (att.executed = 0 ∨ att.reported = false)

def TenantAnswered (ev : StoredEvent) : Prop :=
  ∃ att, ev = .insertTenant u att ∧ att.executed ≠ 0 ∧ att.reported = true

def AccountsLost (ev : StoredEvent) : Prop :=
  ∃ att reported, ev = .system (.tenant u (.createAccounts att reported)) ∧
    (att.fate ≠ .answered ∨ reported = false)

def AccountsAnswered (ev : StoredEvent) : Prop :=
  ∃ att, ev = .system (.tenant u (.createAccounts att true)) ∧ att.fate = .answered

def MappingLost (ev : StoredEvent) : Prop :=
  ∃ att, ev = .insertTBAccountMapping u att ∧ att.reported = false

def MappingAnswered (ev : StoredEvent) : Prop :=
  ∃ att, ev = .insertTBAccountMapping u att ∧ 3 ≤ att.executed ∧ att.reported = true

def LoadLost (ev : StoredEvent) : Prop :=
  ∃ att reported, ev = .system (.tenant u (.allocate att reported)) ∧
    (att.fate ≠ .answered ∨ reported = false)

def LoadAnswered (ev : StoredEvent) : Prop :=
  ∃ att, ev = .system (.tenant u (.allocate att true)) ∧ att.fate = .answered

/-- The outcome is delivered, and the next activity takes its course. -/
def ThenDeliver (course : List StoredEvent → Prop) (es : List StoredEvent) : Prop :=
  ∃ ds, es = .system (.tenant u .deliverProvisioning) :: ds ∧ course ds

def LoadCourse (run : Run Unit) : List StoredEvent → Prop :=
  run.Pending maximumAttempts (LoadLost u) (LoadAnswered u) (ThenDeliver u (· = []))

def MappingCourse (run : Run Unit) : List StoredEvent → Prop :=
  run.Pending maximumAttempts (MappingLost u) (MappingAnswered u) (ThenDeliver u (LoadCourse u {}))

def AccountsCourse (run : Run (Table ResourceType Uint128)) : List StoredEvent → Prop :=
  run.Pending maximumAttempts (AccountsLost u) (AccountsAnswered u)
    (ThenDeliver u (MappingCourse u {}))

/-- Each activity has at most four attempts with a lost reply and then one that is
answered, within its five attempts. -/
def TenantCourse (run : Run Unit) : List StoredEvent → Prop :=
  run.Pending maximumAttempts (TenantLost u) (TenantAnswered u)
    (ThenDeliver u (AccountsCourse u {}))

/-- What is to come in a phase, with the row of the tenant there or not. -/
def PhaseCourse (rows : List Uint128) (phase : ProvisioningPhase) (ds : List StoredEvent) : Prop :=
  match phase with
  | .insertingTenant run => (u ∈ rows ↔ run.outcome.isSome = true) ∧ TenantCourse u run ds
  | .creatingAccounts run => u ∈ rows ∧ AccountsCourse u run ds
  | .insertingMapping run => u ∈ rows ∧ MappingCourse u run ds
  | .allocating run => u ∈ rows ∧ LoadCourse u run ds
  | .startingAccounting => u ∈ rows ∧ ds = []
  | .completed | .failed _ => False

/-- What is to come of a provisioning that has the events `ds` left. -/
def OnCourse (ds : List StoredEvent) (S : Stored) : Prop :=
  match S.state.tenants u with
  | none => u ∉ S.db.tenants ∧ TenantCourse u {} ds
  | some t => knownTier t.provisioning.input.billingTier = true ∧
      PhaseCourse u S.db.tenants t.provisioning.phase ds

end Course

namespace OnCourse

variable {u : Uint128} {S : Stored}

theorem nil (hc : OnCourse u [] S) : ∃ t, S.state.tenants u = some t ∧
    t.provisioning.phase = .startingAccounting ∧ u ∈ S.db.tenants := by
  have hdeliver : ∀ course, ¬ThenDeliver u course [] := by
    rintro course ⟨ds, hds, -⟩
    cases hds
  unfold OnCourse at hc
  split at hc
  · exact absurd hc.2.later_of_nil (hdeliver _)
  · rename_i t ht
    refine ⟨t, ht, ?_⟩
    obtain ⟨-, hc⟩ := hc
    unfold PhaseCourse at hc
    split at hc
    · exact absurd hc.2.later_of_nil (hdeliver _)
    · exact absurd hc.2.later_of_nil (hdeliver _)
    · exact absurd hc.2.later_of_nil (hdeliver _)
    · exact absurd hc.2.later_of_nil (hdeliver _)
    · rename_i hphase
      exact ⟨hphase, hc.1⟩
    · cases hc
    · cases hc

end OnCourse

theorem heard_lost {α : Type} {reported : Bool} {reply : Except ActivityError α}
    (hlost : reported = true → ∀ a, reply ≠ .ok a) : ∃ e, heard reported reply = .error e := by
  cases hh : heard reported reply with
  | error e => exact ⟨e, rfl⟩
  | ok a => exact absurd (Tenant.heard_ok hh).2 (hlost (Tenant.heard_ok hh).1 a)

theorem ThenDeliver.tail {u : Uint128} {course : List StoredEvent → Prop} {d : StoredEvent}
    {ds : List StoredEvent} (hd : ThenDeliver u course (d :: ds)) : course ds := by
  obtain ⟨_, heq, hcourse⟩ := hd
  cases heq
  exact hcourse

/-- The tenant is registered with a tier the table knows, its insert is reported if it
took effect, and its accounts are opened under new identifiers. -/
def StoredEvent.Reported (u : Uint128) (S : Stored) : StoredEvent → Prop
  | .system (.registerTenant v req _) => v = u → knownTier req.billingTier = true
  | .insertTenant v att => v = u → att.executed ≠ 0 → att.reported = true
  | .system (.tenant v (.createAccounts att _)) => v = u → NewIDs S.state.books att.rand 3
  | _ => True

theorem Tenant.act_aside {h : Blake3} {tb : Service} {t : Tenant} {L : Books} {o : Outcome}
    {ev : TenantEvent} (hev : ev.provisions = false) (hs : t.act h tb L ev = some o) :
    o.tenant.provisioning = t.provisioning := by
  cases ev with
  | workflow ev =>
    simp only [act, workflow] at hs
    split_ifs at hs
    obtain ⟨e, e', -, -, rfl⟩ := advance_some hs
    rfl
  | submitUsage att reported =>
    obtain ⟨e, site, flight, -, -, -, -, -, ⟨per, -, -, ht⟩ | ⟨err, e', -, -, ht⟩⟩ :=
      submitUsage_some hs
    · rw [ht]
    · rw [ht]
  | submitGauges reported =>
    obtain ⟨e, site, flight, att, per, e', -, -, -, -, rfl⟩ := submitGauges_some hs
    rfl
  | credit i att reported =>
    obtain ⟨e, c, e', -, -, -, rfl⟩ := credit_some hs
    rfl
  | lookup att =>
    obtain ⟨_, -, hs⟩ := Option.bind_eq_some_iff.mp hs
    obtain ⟨e, e', -, -, rfl⟩ := advance_some hs
    rfl
  | refreshLookup i att =>
    obtain ⟨_, -, hs⟩ := Option.bind_eq_some_iff.mp hs
    obtain ⟨e, e', -, -, rfl⟩ := advance_some hs
    rfl
  | _ => cases hev

/-- A provisioning is untouched, or just registered. -/
def Aside (u : Uint128) (s s' : State) : Prop :=
  (s.tenants u = none ∧ (s'.tenants u = none ∨
      ∃ t, s'.tenants u = some t ∧ t.provisioning.phase = .insertingTenant {} ∧
        knownTier t.provisioning.input.billingTier = true)) ∨
    ∃ t t', s.tenants u = some t ∧ s'.tenants u = some t' ∧ t'.provisioning = t.provisioning

namespace State

variable {h : Blake3} {tb : Service} {s s' : State} {u : Uint128}

theorem aside_of_tenants (htenants : s'.tenants u = s.tenants u) : Aside u s s' := by
  cases hu : s.tenants u with
  | none => exact .inl ⟨hu, .inl (htenants.trans hu)⟩
  | some t => exact .inr ⟨t, t, hu, htenants.trans hu, rfl⟩

theorem step_aside {ev : SystemEvent} (hev : ∀ w, ev = .tenant u w → w.provisions = false)
    (htier : ∀ req now, ev = .registerTenant u req now → knownTier req.billingTier = true)
    (hstep : s.step h tb ev = some s') : Aside u s s' := by
  cases stepped_of_step hstep with
  | started => exact aside_of_tenants rfl
  | @registered v req now _ _ hnone =>
    by_cases huv : u = v
    · subst huv
      exact .inl ⟨hnone, .inr ⟨_, Table.set_same _ _ _, rfl, htier req now rfl⟩⟩
    · exact aside_of_tenants (Table.set_other _ huv _)
  | @acted v w t o hv ho =>
    by_cases huv : u = v
    · subst huv
      exact .inr ⟨t, o.tenant, hv, Table.set_same _ _ _, Tenant.act_aside (hev w rfl) ho⟩
    · exact aside_of_tenants (Table.set_other _ huv _)

end State

theorem Database.insertTenant_other (db : Database) (att : RowsAttempt) {u v : Uint128}
    (huv : u ≠ v) (tier : String) : u ∈ (db.insertTenant att v tier).2.tenants ↔ u ∈ db.tenants := by
  unfold insertTenant
  split_ifs <;> simp [huv]

namespace Stored

variable {h : Blake3} {tb : Service} {S S' : Stored} {u : Uint128}

theorem step_tenants {ev : StoredEvent} (hs : S.step h tb ev = some S') (hrow : u ∈ S.db.tenants) :
    u ∈ S'.db.tenants := by
  cases step_writes hs with
  | tenant =>
    unfold Database.insertTenant
    split_ifs
    · exact hrow
    · exact hrow
    · exact hrow
    · exact List.mem_cons_of_mem _ hrow
  | _ => exact hrow

theorem step_aside {ev : StoredEvent} (hev : ev.provisions u = false) (hrep : ev.Reported u S)
    (hs : S.step h tb ev = some S') :
    Aside u S.state S'.state ∧ (u ∈ S'.db.tenants ↔ u ∈ S.db.tenants) := by
  cases step_writes hs with
  | @tenant v att t run s' hu hphase hstep =>
    have huv : u ≠ v := by
      rintro rfl
      simp [StoredEvent.provisions] at hev
    refine ⟨State.step_aside (fun w hw => ?_) (by simp) hstep, S.db.insertTenant_other att huv _⟩
    cases hw
    exact absurd rfl huv
  | @mapping v att t run s' hu hphase hstep =>
    have huv : u ≠ v := by
      rintro rfl
      simp [StoredEvent.provisions] at hev
    refine ⟨State.step_aside (fun w hw => ?_) (by simp) hstep, Iff.rfl⟩
    cases hw
    exact absurd rfl huv
  | snapshots hb hstep =>
    refine ⟨State.step_aside (fun w hw => ?_) (by simp) hstep, Iff.rfl⟩
    cases hw
    rfl
  | refresh hb hstep =>
    refine ⟨State.step_aside (fun w hw => ?_) (by simp) hstep, Iff.rfl⟩
    cases hw
    rfl
  | @system ev s' hrows hstep =>
    refine ⟨State.step_aside (fun w hw => ?_) (fun req now hreg => ?_) hstep, Iff.rfl⟩
    · subst hw
      simpa [StoredEvent.provisions] using hev
    · subst hreg
      exact hrep rfl

end Stored

namespace OnCourse

variable {h : Blake3} {tb : Service} {u : Uint128} {S S' : Stored} {ds : List StoredEvent}

/-- What happens aside changes nothing of what is to come. -/
theorem aside (hc : OnCourse u ds S) (ha : Aside u S.state S'.state)
    (hrow : u ∈ S'.db.tenants ↔ u ∈ S.db.tenants) : OnCourse u ds S' := by
  unfold OnCourse at hc ⊢
  rcases ha with ⟨hu, hu' | ⟨t, hu', hphase, htier⟩⟩ | ⟨t, t', hu, hu', hp⟩
  · rw [hu] at hc
    rw [hu']
    exact ⟨fun hmem => hc.1 (hrow.mp hmem), hc.2⟩
  · rw [hu] at hc
    simp only [hu', hphase, PhaseCourse]
    exact ⟨htier, by simpa using fun hmem => hc.1 (hrow.mp hmem), hc.2⟩
  · simp only [hu, hu', hp] at hc ⊢
    refine ⟨hc.1, ?_⟩
    obtain ⟨-, hc⟩ := hc
    unfold PhaseCourse at hc ⊢
    split <;> rename_i hphase <;> simp only [hphase] at hc
    · exact ⟨hrow.trans hc.1, hc.2⟩
    · exact ⟨hrow.mpr hc.1, hc.2⟩
    · exact ⟨hrow.mpr hc.1, hc.2⟩
    · exact ⟨hrow.mpr hc.1, hc.2⟩
    · exact ⟨hrow.mpr hc.1, hc.2⟩

theorem tenantRow {att : RowsAttempt} {t : Tenant} {run : Run Unit} {s' : State}
    (hc : OnCourse u (.insertTenant u att :: ds) S) (hu : S.state.tenants u = some t)
    (hphase : t.provisioning.phase = .insertingTenant run)
    (hreported : att.executed ≠ 0 → att.reported = true)
    (hstep : S.state.step h tb (.tenant u (.rowAttempt (heard att.reported
      (S.db.insertTenant att u t.provisioning.input.billingTier).1))) = some s') :
    OnCourse u ds ⟨s', (S.db.insertTenant att u t.provisioning.input.billingTier).2⟩ := by
  obtain ⟨t', o, hu', ho, rfl⟩ := State.step_tenant hstep
  cases hu.symm.trans hu'
  obtain ⟨p, hp, rfl⟩ := Option.map_eq_some_iff.mp ho
  simp only [Provisioning.rowAttempt, hphase] at hp
  obtain ⟨run', hrun, rfl⟩ := Option.map_eq_some_iff.mp hp
  simp only [OnCourse, hu, hphase, PhaseCourse] at hc
  obtain ⟨htier, hrow, hcourse⟩ := hc
  have habsent : u ∉ S.db.tenants := by simp [hrow, (ActivityRun.attempt_some hrun).1]
  simp only [OnCourse, State.commit, Tenant.alone, Table.set_same, PhaseCourse]
  refine ⟨htier, ?_⟩
  by_cases hzero : att.executed = 0
  · obtain ⟨err, herr⟩ : ∃ e, heard att.reported
        (.error (.postgres "connection closed") : Except ActivityError Unit) = .error e :=
      heard_lost fun _ _ => by simp
    simp only [Database.insertTenant, hzero, if_true, herr] at hrun ⊢
    have hnext : TenantCourse u run' ds := by
      refine hcourse.attempt hrun (fun _ => ⟨err, rfl⟩) ?_
      rintro ⟨_, heq, hne, -⟩
      cases heq
      exact absurd hzero hne
    exact ⟨by simp [habsent, hnext.outcome_isSome hrun, Except.toBool], hnext⟩
  · simp only [Database.insertTenant, hzero, if_false, htier, Bool.true_eq_false, habsent, heard,
      hreported hzero, if_true] at hrun ⊢
    have hnext : TenantCourse u run' ds := by
      refine hcourse.attempt hrun ?_ fun _ => ⟨(), rfl⟩
      rintro ⟨_, heq, hlost⟩
      cases heq
      simp [hzero, hreported hzero] at hlost
    exact ⟨by simp [hnext.outcome_isSome hrun, Except.toBool], hnext⟩

/-- New accounts are created by the attempt that is answered. -/
theorem accounts {att : RequestAttempt} {reported : Bool} {s' : State}
    (hc : OnCourse u (.system (.tenant u (.createAccounts att reported)) :: ds) S)
    (hnew : NewIDs S.state.books att.rand 3)
    (hstep : S.state.step h tb (.tenant u (.createAccounts att reported)) = some s') :
    OnCourse u ds ⟨s', S.db⟩ := by
  obtain ⟨t, o, hu, ho, rfl⟩ := State.step_tenant hstep
  obtain ⟨p, hp, rfl⟩ := Option.map_eq_some_iff.mp ho
  unfold Provisioning.accountsAttempt at hp
  split at hp
  · rename_i run hphase
    obtain ⟨run', hrun, rfl⟩ := Option.map_eq_some_iff.mp hp
    simp only [OnCourse, hu, hphase, PhaseCourse] at hc
    simp only [OnCourse, State.commit, Table.set_same, PhaseCourse]
    refine ⟨hc.1, hc.2.1, hc.2.2.attempt hrun ?_ ?_⟩
    · rintro ⟨_, _, heq, hlost⟩
      cases heq
      refine heard_lost fun hrep ids hok => ?_
      simp [hrep, createTenantTBAccounts_answered tb att S.state.books hok] at hlost
    · rintro ⟨_, heq, hfate⟩
      cases heq
      exact createTenantTBAccounts_new tb att S.state.books _ hfate hnew
  · cases hp

/-- The mapping is recorded by the attempt that is answered. -/
theorem mapping {att : RowsAttempt} {t : Tenant} {run : Run Unit} {s' : State} {db : Database}
    (hc : OnCourse u (.insertTBAccountMapping u att :: ds) S) (hu : S.state.tenants u = some t)
    (hphase : t.provisioning.phase = .insertingMapping run) (hdb : db.tenants = S.db.tenants)
    (hstep : S.state.step h tb (.tenant u (.rowAttempt (heard att.reported
      (S.db.insertTBAccountMapping att u t.provisioning.accountIDs).1))) = some s') :
    OnCourse u ds ⟨s', db⟩ := by
  obtain ⟨t', o, hu', ho, rfl⟩ := State.step_tenant hstep
  cases hu.symm.trans hu'
  obtain ⟨p, hp, rfl⟩ := Option.map_eq_some_iff.mp ho
  simp only [Provisioning.rowAttempt, hphase] at hp
  obtain ⟨run', hrun, rfl⟩ := Option.map_eq_some_iff.mp hp
  simp only [OnCourse, hu, hphase, PhaseCourse] at hc
  simp only [OnCourse, State.commit, Tenant.alone, Table.set_same, PhaseCourse, hdb]
  refine ⟨hc.1, hc.2.1, hc.2.2.attempt hrun ?_ ?_⟩
  · rintro ⟨_, heq, hlost⟩
    cases heq
    exact heard_lost fun hrep => by simp [hrep] at hlost
  · rintro ⟨_, heq, hexecuted, hrep⟩
    cases heq
    refine ⟨(), ?_⟩
    have hrows : (att.rows u t.provisioning.accountIDs).length ≤ 3 :=
      (List.length_filterMap_le _ _).trans (att.resources.perm _).length_eq.le
    simp [heard, hrep, Database.insertTBAccountMapping, RowsAttempt.result, hrows.trans hexecuted]

/-- The wallet is loaded by the attempt that is answered. -/
theorem load {T : Set Preimage} {att : RequestAttempt} {reported : Bool} {s' : State}
    (hc : OnCourse u (.system (.tenant u (.allocate att reported)) :: ds) S)
    (hp : State.Planned h u S.state) (hrefused : Refused S.state.books S.state.journal)
    (hfree : h.CollisionFree T) (hknown : preimages s'.journal ⊆ T)
    (hroom : S.state.books.transfers.length + 3 ≤ 2 ^ 63)
    (hstep : S.state.step h tb (.tenant u (.allocate att reported)) = some s') :
    OnCourse u ds ⟨s', S.db⟩ := by
  have hJ := (State.step_journal hstep).subset
  obtain ⟨t, o, hu, ho, rfl⟩ := State.step_tenant hstep
  have hjournal := State.Planned.step_allocate hu hstep
  obtain ⟨p, hal, rfl⟩ := Option.map_eq_some_iff.mp ho
  unfold Provisioning.allocationAttempt at hal
  split at hal
  · rename_i run hphase
    obtain ⟨run', hrun, rfl⟩ := Option.map_eq_some_iff.mp hal
    simp only [OnCourse, hu, hphase, PhaseCourse] at hc
    simp only [OnCourse, State.commit, Table.set_same, PhaseCourse]
    have hlate : t.provisioning.phase.late = true := by rw [hphase]; rfl
    obtain ⟨req, g, now, hinput⟩ := hp.input t hu
    have hcredits : ∀ r, (t.provisioning.input.credits r).isSome := fun r => by rw [hinput]; rfl
    refine ⟨hc.1, hc.2.1, hc.2.2.attempt hrun ?_ ?_⟩
    · rintro ⟨_, _, heq, hlost⟩
      cases heq
      refine heard_lost fun hrep ids hok => ?_
      obtain ⟨a, ha, -⟩ := allocations_mem h att.resources
        (hp.sound.tenants u t hu).known hlate hcredits .cpuHours
      have hfate := ((submitAllocationTransfers_ok_iff tb att _ S.state.books
        (List.ne_nil_of_mem ha)).mp hok).1
      simp [hrep, hfate] at hlost
    · rintro ⟨_, heq, hfate⟩
      cases heq
      have hl : State.Loading h u T S.state := by
        refine ⟨hp.sound, hp.decided, hrefused, ?_, (preimages_mono hJ).trans hknown⟩
        exact hp.uncredited t hu ((hp.sound.tenants u t hu).unstarted (by rw [hphase]; simp))
      refine ⟨(), hl.submit_ok hfree hu hlate hcredits hfate hroom fun x hx => ?_⟩
      obtain ⟨answer, -, hmem⟩ := tb.record_answer (S.state.books, S.state.journal) hx
      refine hknown ⟨⟨x.1, x.2, answer⟩, ?_, rfl⟩
      rw [hjournal]
      simp only [reachedEntries, hfate, Fate.reached, if_true]
      exact hmem
  · cases hal

theorem not_started {s' : State} {reply : Except ActivityError Unit}
    (hc : OnCourse u (.system (.tenant u (.startAccounting reply)) :: ds) S)
    (hstep : S.state.step h tb (.tenant u (.startAccounting reply)) = some s') : False := by
  obtain ⟨t, o, hu, ho, -⟩ := State.step_tenant hstep
  obtain ⟨p, hp, -⟩ := Option.map_eq_some_iff.mp ho
  unfold Provisioning.accountingStarted at hp
  split at hp
  · rename_i hphase
    simp only [OnCourse, hu, hphase, PhaseCourse] at hc
    cases hc.2.2
  · cases hp

/-- What is delivered is a success. -/
theorem deliver {s' : State}
    (hc : OnCourse u (.system (.tenant u .deliverProvisioning) :: ds) S)
    (hstep : S.state.step h tb (.tenant u .deliverProvisioning) = some s') :
    OnCourse u ds ⟨s', S.db⟩ := by
  obtain ⟨t, o, hu, ho, rfl⟩ := State.step_tenant hstep
  obtain ⟨p, hp, rfl⟩ := Option.map_eq_some_iff.mp ho
  simp only [OnCourse, hu] at hc
  simp only [OnCourse, State.commit, Tenant.alone, Table.set_same]
  unfold Provisioning.deliver at hp
  obtain ⟨htier, hc⟩ := hc
  unfold PhaseCourse at hc
  split at hp
  · rename_i run hphase
    obtain ⟨outcome, hout, rfl⟩ := Option.map_eq_some_iff.mp hp
    simp only [hphase] at hc
    obtain ⟨hlater, _, rfl⟩ := hc.2.deliver hout
    exact ⟨htier, hc.1.mpr (by simp [hout]), hlater.tail⟩
  · rename_i run hphase
    obtain ⟨outcome, hout, rfl⟩ := Option.map_eq_some_iff.mp hp
    simp only [hphase] at hc
    obtain ⟨hlater, _, rfl⟩ := hc.2.deliver hout
    exact ⟨htier, hc.1, hlater.tail⟩
  · rename_i run hphase
    obtain ⟨outcome, hout, rfl⟩ := Option.map_eq_some_iff.mp hp
    simp only [hphase] at hc
    obtain ⟨hlater, _, rfl⟩ := hc.2.deliver hout
    exact ⟨htier, hc.1, hlater.tail⟩
  · rename_i run hphase
    obtain ⟨outcome, hout, rfl⟩ := Option.map_eq_some_iff.mp hp
    simp only [hphase] at hc
    obtain ⟨hlater, _, rfl⟩ := hc.2.deliver hout
    exact ⟨htier, hc.1, hlater.tail⟩
  · cases hp

end OnCourse

/-- What is known of a state of a run that ends with the preimages `T`. -/
structure Within (h : Blake3) (u : Uint128) (T : Set Preimage) (s : State) : Prop where
  planned : State.Planned h u s
  refused : Refused s.books s.journal
  known : preimages s.journal ⊆ T
  room : s.books.transfers.length + 3 ≤ 2 ^ 63

/-- A step of the provisioning is the next one of its course. -/
theorem OnCourse.own {h : Blake3} {tb : Service} {u : Uint128} {S S' : Stored}
    {ds : List StoredEvent} {T : Set Preimage} {ev : StoredEvent} (hc : OnCourse u (ev :: ds) S)
    (hfree : h.CollisionFree T) (hw : Within h u T S.state) (hw' : Within h u T S'.state)
    (hev : ev.provisions u = true) (hrep : ev.Reported u S) (hs : S.step h tb ev = some S') :
    OnCourse u ds S' := by
  cases Stored.step_writes hs with
  | @tenant v att t run s' hu hphase hstep =>
    obtain rfl : v = u := by simpa [StoredEvent.provisions] using hev
    exact hc.tenantRow hu hphase (hrep rfl) hstep
  | @mapping v att t run s' hu hphase hstep =>
    obtain rfl : v = u := by simpa [StoredEvent.provisions] using hev
    exact hc.mapping hu hphase rfl hstep
  | snapshots => cases hev
  | refresh => cases hev
  | @system ev s' hrows hstep =>
    cases ev with
    | startServer => cases hev
    | registerTenant => cases hev
    | tenant v w =>
      simp only [StoredEvent.provisions, Bool.and_eq_true, decide_eq_true_eq] at hev
      obtain ⟨rfl, hprov⟩ := hev
      cases w with
      | rowAttempt => cases hrows
      | createAccounts att reported => exact hc.accounts (hrep rfl) hstep
      | allocate att reported =>
        exact hc.load hw.planned hw.refused hfree hw'.known hw.room hstep
      | deliverProvisioning => exact hc.deliver hstep
      | startAccounting reply => exact (hc.not_started hstep).elim
      | _ => cases hprov

end CloudCredit.System
