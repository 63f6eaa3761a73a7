import CloudCredit.System.Credits
import CloudCredit.System.Database

/-!
# Provisioning loads exactly the plan

When the provisioning of a tenant succeeds, every account it returns has the
credits of the plan, whatever attempts failed before or after they had their
effect. The identifiers of the accounts change from attempt to attempt, but only
the last attempt's are handed on, to the table and to the wallet's first load;
the transfers of that load have one identifier in all attempts.
-/
namespace CloudCredit.System

open Library TigerBeetle Domain Ledger Accounting

/-- What a step of a tenant on the books `L` does to its provisioning workflow. -/
inductive Provisions (h : Blake3) (tb : Service) (L : Books) (p : Provisioning) :
    TenantEvent → Provisioning → Prop
  | tenantRow {reply : Except ActivityError Unit} {run run' : Run Unit}
      (hphase : p.phase = .insertingTenant run) :
      Provisions h tb L p (.rowAttempt reply) { p with phase := .insertingTenant run' }
  | mappingRows {reply : Except ActivityError Unit} {run run' : Run Unit}
      (hphase : p.phase = .insertingMapping run)
      (hrun : run.attempt maximumAttempts false reply = some run') :
      Provisions h tb L p (.rowAttempt reply) { p with phase := .insertingMapping run' }
  | accounts {att : RequestAttempt} {reported : Bool} {run run' : Run (Table ResourceType Uint128)}
      (hphase : p.phase = .creatingAccounts run) :
      Provisions h tb L p (.createAccounts att reported) { p with phase := .creatingAccounts run' }
  | allocation {att : RequestAttempt} {reported : Bool} {run run' : Run Unit}
      (hphase : p.phase = .allocating run)
      (hrun : run.attempt maximumAttempts att.fate.reached (heard reported
        (submitAllocationTransfers tb att (p.allocationInput h) L).1) = some run') :
      Provisions h tb L p (.allocate att reported) { p with phase := .allocating run' }
  | fails {ev : TenantEvent} {error : ActivityError} :
      Provisions h tb L p ev { p with phase := .failed error }
  | tenantInserted {run : Run Unit} (hphase : p.phase = .insertingTenant run) :
      Provisions h tb L p .deliverProvisioning { p with phase := .creatingAccounts {} }
  | accountsCreated {run : Run (Table ResourceType Uint128)} {ids : Table ResourceType Uint128}
      (hphase : p.phase = .creatingAccounts run) :
      Provisions h tb L p .deliverProvisioning
        { p with accountIDs := ids, phase := .insertingMapping {} }
  | mapped {run : Run Unit} (hphase : p.phase = .insertingMapping run)
      (hout : run.outcome = some (.ok ())) :
      Provisions h tb L p .deliverProvisioning { p with phase := .allocating {} }
  | loaded {run : Run Unit} (hphase : p.phase = .allocating run)
      (hout : run.outcome = some (.ok ())) :
      Provisions h tb L p .deliverProvisioning { p with phase := .startingAccounting }
  | completes (hphase : p.phase = .startingAccounting) :
      Provisions h tb L p (.startAccounting (.ok ())) { p with phase := .completed }

namespace Provisions

variable {h : Blake3} {tb : Service} {L : Books} {p p' : Provisioning}

theorem input {ev : TenantEvent} (hp : Provisions h tb L p ev p') : p'.input = p.input := by
  cases hp <;> rfl

theorem rowAttempt {reply : Except ActivityError Unit} (hs : p.rowAttempt reply = some p') :
    Provisions h tb L p (.rowAttempt reply) p' := by
  unfold Provisioning.rowAttempt at hs
  split at hs
  · rename_i run hphase
    obtain ⟨run', -, rfl⟩ := Option.map_eq_some_iff.mp hs
    exact .tenantRow hphase
  · rename_i run hphase
    obtain ⟨run', hrun, rfl⟩ := Option.map_eq_some_iff.mp hs
    exact .mappingRows hphase hrun
  · cases hs

theorem deliver (hs : p.deliver = some p') : Provisions h tb L p .deliverProvisioning p' := by
  unfold Provisioning.deliver at hs
  split at hs
  · rename_i run hphase
    obtain ⟨reply, -, rfl⟩ := Option.map_eq_some_iff.mp hs
    cases reply with
    | ok v => exact .tenantInserted hphase
    | error err => exact .fails
  · rename_i run hphase
    obtain ⟨reply, -, rfl⟩ := Option.map_eq_some_iff.mp hs
    cases reply with
    | ok ids => exact .accountsCreated hphase
    | error err => exact .fails
  · rename_i run hphase
    obtain ⟨reply, hout, rfl⟩ := Option.map_eq_some_iff.mp hs
    cases reply with
    | ok v => exact .mapped hphase hout
    | error err => exact .fails
  · rename_i run hphase
    obtain ⟨reply, hout, rfl⟩ := Option.map_eq_some_iff.mp hs
    cases reply with
    | ok v => exact .loaded hphase hout
    | error err => exact .fails
  · cases hs

theorem accountingStarted {reply : Except ActivityError Unit}
    (hs : p.accountingStarted reply = some p') :
    Provisions h tb L p (.startAccounting reply) p' := by
  unfold Provisioning.accountingStarted at hs
  split at hs
  · rename_i hphase
    cases hs
    cases reply with
    | ok v => exact .completes hphase
    | error err => exact .fails
  · cases hs

end Provisions

theorem Tenant.act_provisions {h : Blake3} {tb : Service} {t : Tenant} {L : Books} {o : Outcome}
    {ev : TenantEvent} (hs : t.act h tb L ev = some o) :
    o.tenant.provisioning = t.provisioning ∨
      Provisions h tb L t.provisioning ev o.tenant.provisioning := by
  cases ev with
  | rowAttempt reply =>
    obtain ⟨p, hp, rfl⟩ := Option.map_eq_some_iff.mp hs
    exact .inr (.rowAttempt hp)
  | createAccounts att reported =>
    obtain ⟨p, hp, rfl⟩ := Option.map_eq_some_iff.mp hs
    unfold Provisioning.accountsAttempt at hp
    split at hp
    · rename_i run hphase
      obtain ⟨run', -, rfl⟩ := Option.map_eq_some_iff.mp hp
      exact .inr (.accounts hphase)
    · cases hp
  | allocate att reported =>
    obtain ⟨p, hp, rfl⟩ := Option.map_eq_some_iff.mp hs
    unfold Provisioning.allocationAttempt at hp
    split at hp
    · rename_i run hphase
      obtain ⟨run', hrun, rfl⟩ := Option.map_eq_some_iff.mp hp
      exact .inr (.allocation hphase hrun)
    · cases hp
  | deliverProvisioning =>
    obtain ⟨p, hp, rfl⟩ := Option.map_eq_some_iff.mp hs
    exact .inr (.deliver hp)
  | startAccounting reply =>
    obtain ⟨p, hp, rfl⟩ := Option.map_eq_some_iff.mp hs
    exact .inr (.accountingStarted hp)
  | workflow ev =>
    simp only [act, workflow] at hs
    split_ifs at hs
    obtain ⟨e, e', -, -, rfl⟩ := advance_some hs
    exact .inl rfl
  | submitUsage att reported =>
    obtain ⟨e, site, flight, -, -, -, -, -, ⟨per, -, -, ho⟩ | ⟨err, e', -, -, ho⟩⟩ :=
      submitUsage_some hs
    · exact .inl (by rw [ho])
    · exact .inl (by rw [ho])
  | submitGauges reported =>
    obtain ⟨e, site, flight, att, per, e', -, -, -, -, rfl⟩ := submitGauges_some hs
    exact .inl rfl
  | credit i att reported =>
    obtain ⟨e, c, e', -, -, -, rfl⟩ := credit_some hs
    exact .inl rfl
  | lookup att =>
    obtain ⟨_, -, hs⟩ := Option.bind_eq_some_iff.mp hs
    obtain ⟨e, e', -, -, rfl⟩ := advance_some hs
    exact .inl rfl
  | refreshLookup i att =>
    obtain ⟨_, -, hs⟩ := Option.bind_eq_some_iff.mp hs
    obtain ⟨e, e', -, -, rfl⟩ := advance_some hs
    exact .inl rfl

namespace State

variable {h : Blake3} {tb : Service} {s s' : State} {u : Uint128}

theorem step_provisioning {ev : SystemEvent} (hstep : s.step h tb ev = some s') {t' : Tenant}
    (hu' : s'.tenants u = some t') :
    (s.tenants u = none ∧ ∃ req g now,
      t'.provisioning = { input := Accounting.registerTenant req u g now }) ∨
    ∃ t, s.tenants u = some t ∧ (t'.provisioning = t.provisioning ∨
      ∃ w, ev = .tenant u w ∧ Provisions h tb s.books t.provisioning w t'.provisioning) := by
  cases stepped_of_step hstep with
  | started => exact .inr ⟨t', hu', .inl rfl⟩
  | @registered _ req now g _ hnone =>
    rcases Table.set_eq_some.mp hu' with ⟨rfl, rfl⟩ | ⟨-, hu⟩
    · exact .inl ⟨hnone, req, g, now, rfl⟩
    · exact .inr ⟨t', hu, .inl rfl⟩
  | @acted v w t o hv ho =>
    rcases Table.set_eq_some.mp hu' with ⟨rfl, rfl⟩ | ⟨-, hu⟩
    · exact .inr ⟨t, hv, (Tenant.act_provisions ho).imp id fun hp => ⟨w, rfl, hp⟩⟩
    · exact .inr ⟨t', hu, .inl rfl⟩

theorem step_registered {ev : SystemEvent} (hstep : s.step h tb ev = some s') {t : Tenant}
    (hu : s.tenants u = some t) : ∃ t', s'.tenants u = some t' := by
  have hset : ∀ v t₁, ∃ t', s.tenants.set v t₁ u = some t' := by
    intro v t₁
    by_cases huv : u = v
    · exact ⟨t₁, by rw [huv]; exact Table.set_same _ _ _⟩
    · exact ⟨t, by rw [← hu]; exact Table.set_other _ huv _⟩
  cases stepped_of_step hstep with
  | started => exact ⟨t, hu⟩
  | @registered v => exact hset v _
  | @acted v => exact hset v _

end State

/-- The first load of every resource is in the books. -/
def Loads (u : Uint128) (J : List (Entry Source)) : Prop :=
  ∀ r, ∃ x ∈ J, accepted x = true ∧ ∃ period credits, x.origin = .provision u period r credits

theorem Loads.mono {u : Uint128} {J J' : List (Entry Source)} (hl : Loads u J) (hJ : J ⊆ J') :
    Loads u J' := by
  intro r
  obtain ⟨x, hx, hok, ho⟩ := hl r
  exact ⟨x, hJ hx, hok, ho⟩

theorem allocationEntriesFrom_mem (source : ResourceType → Source) (rand : ℕ → Uint128) (n : ℕ)
    {as : List AllocationTransfer} {a : AllocationTransfer} (ha : a ∈ as) :
    ∃ k, (source a.resource, a.toTransfer (rand k)) ∈ allocationEntriesFrom source rand n as := by
  induction as generalizing n with
  | nil => cases ha
  | cons b bs ih =>
    rcases List.mem_cons.mp ha with rfl | ha
    · exact ⟨n, List.mem_cons_self⟩
    · obtain ⟨k, hk⟩ := ih (n + 1) ha
      exact ⟨k, List.mem_cons_of_mem _ hk⟩

theorem allocations_mem {L : Books} {p : Provisioning} (h : Blake3) (o : IterationOrder ResourceType)
    (hk : KnowsAccounts L p) (hlate : p.phase.late = true) (hcredits : ∀ r, (p.input.credits r).isSome)
    (r : ResourceType) : ∃ a ∈ allocations o (p.allocationInput h), a.resource = r := by
  obtain ⟨credits, hc⟩ := Option.isSome_iff_exists.mp (hcredits r)
  obtain ⟨operator, hoperator, -⟩ := hk.operators r
  obtain ⟨quota, hquota, -⟩ := hk.late hlate r
  have ha : ∃ a, allocation? (p.allocationInput h) r = some a ∧ a.resource = r := by
    simp only [allocation?, Provisioning.allocationInput, hc, hoperator, hquota]
    exact ⟨_, rfl, rfl⟩
  obtain ⟨a, ha, hr⟩ := ha
  refine ⟨a, List.mem_filterMap.mpr ⟨r, o.mem_order.mpr (List.mem_filter.mpr ⟨by simp, ?_⟩), ha⟩, hr⟩
  exact hcredits r

theorem provision_of_preimage {x : Source} {u : Uint128} {period : Int64} {r : ResourceType}
    {credits : Int64} (hx : x.preimage = (Source.provision u period r credits).preimage) :
    (∃ period' credits', x = .provision u period' r credits') ∨ ∃ issue, x = .credit u issue := by
  rcases allocation_source hx with ⟨period', q, credits', rfl, -⟩ | ⟨issue, rfl, -⟩
  · simp only [Source.preimage, Preimage.allocation.injEq] at hx
    rw [ResourceType.ledgerID_injective hx.2.2]
    exact .inl ⟨_, _, rfl⟩
  · exact .inr ⟨issue, rfl⟩

namespace State

variable {h : Blake3} {tb : Service} {s s' : State} {u : Uint128} {t : Tenant}

theorem Sound.provision_unlimited (hs : s.Sound h) (hd : Decided s.books s.journal)
    {x : Entry Source} (hx : x ∈ s.journal) {period : Int64} {r : ResourceType} {credits : Int64}
    (ho : x.origin = .provision u period r credits) : x.answer ≠ .exceedsCredits := by
  intro hanswer
  obtain ⟨t, ht, hown⟩ := hs.journal x hx
  obtain ⟨origin, transfer, answer⟩ := x
  dsimp only at ho hown ht
  subst ho
  cases hown with
  | provision hid hcredits hquota hoperator =>
    obtain ⟨a, hacc, hflag⟩ := hd.limited _ hx rfl hanswer
    cases hacc.symm.trans (hs.operator_open ht hoperator)
    cases hflag

theorem Sound.loads_of_ok (hs : s.Sound h) (hs' : s'.Sound h) (hd' : Decided s'.books s'.journal)
    (hcredit : ∀ x ∈ s'.journal, ∀ issue, x.origin ≠ .credit u issue)
    (hfree : h.CollisionFree (preimages s'.journal)) (hu : s.tenants u = some t)
    (hlate : t.provisioning.phase.late = true)
    (hcredits : ∀ r, (t.provisioning.input.credits r).isSome) {att : RequestAttempt}
    (hj : s'.journal = (tb.record (s.books, s.journal) (reachedEntries att.fate (allocationEntries
      (fun r => .provision t.provisioning.input.tenantUUID t.provisioning.input.periodStartNs r
        ((t.provisioning.input.credits r).getD 0)) (t.provisioning.allocationInput h) att))).2)
    (hok : (submitAllocationTransfers tb att (t.provisioning.allocationInput h) s.books).1 = .ok ()) :
    Loads u s'.journal := by
  intro r
  obtain ⟨a, ha, rfl⟩ :=
    allocations_mem h att.resources (hs.tenants u t hu).known hlate hcredits r
  obtain ⟨hfate, hclass⟩ :=
    (submitAllocationTransfers_ok_iff tb att _ s.books (List.ne_nil_of_mem ha)).mp hok
  obtain ⟨k, hk⟩ := allocationEntriesFrom_mem (fun r =>
    .provision t.provisioning.input.tenantUUID t.provisioning.input.periodStartNs r
      ((t.provisioning.input.credits r).getD 0)) att.rand 0 ha
  obtain ⟨answer, hanswer, hmem⟩ := tb.record_answer (s.books, s.journal) hk
  simp only [reachedEntries, hfate, Fate.reached, if_true, allocationEntries] at hj
  rw [← hj, hs.uuid u t hu] at hmem
  rw [allocationEntriesFrom_transfers] at hanswer
  have hrejected := hs'.provision_unlimited hd' hmem rfl
  have hknown : answer = .ok ∨ answer.found = true := by
    rcases classified_cases (hclass answer hanswer) with hr | hr | hr
    · exact .inl hr
    · exact absurd hr hrejected
    · exact .inr hr
  obtain ⟨y, hy, hyok, hid⟩ := hs'.accepted_of_decided hd' hmem hknown
  rcases provision_of_preimage (hs'.preimage_eq hfree hy hmem hid) with ⟨period, c, ho⟩ | ⟨issue, ho⟩
  · exact ⟨y, hy, hyok, period, c, ho⟩
  · exact absurd ho (hcredit y hy issue)

/-- What holds of a tenant's provisioning and its wallet. -/
structure Planned (h : Blake3) (u : Uint128) (s : State) : Prop where
  sound : s.Sound h
  decided : Decided s.books s.journal
  input : ∀ t, s.tenants u = some t → ∃ req g now,
    t.provisioning.input = Accounting.registerTenant req u g now
  uncredited : ∀ t, s.tenants u = some t → t.accounting = none →
    ∀ x ∈ s.journal, ∀ issue, x.origin ≠ .credit u issue
  allocated : h.CollisionFree (preimages s.journal) → ∀ t run, s.tenants u = some t →
    t.provisioning.phase = .allocating run → run.outcome = some (.ok ()) → Loads u s.journal
  loaded : h.CollisionFree (preimages s.journal) → ∀ t, s.tenants u = some t →
    t.provisioning.phase = .startingAccounting → Loads u s.journal

theorem Planned.initial (h : Blake3) (u : Uint128) : Planned h u initial := by
  refine ⟨initial_sound, ⟨?_, ?_⟩, ?_, ?_, ?_, ?_⟩ <;> simp [State.initial]

namespace Planned

variable {ev : SystemEvent}

theorem step_input (hp : Planned h u s) (hstep : s.step h tb ev = some s') {t' : Tenant}
    (hu' : s'.tenants u = some t') :
    ∃ req g now, t'.provisioning.input = Accounting.registerTenant req u g now := by
  rcases step_provisioning hstep hu' with ⟨-, req, g, now, he⟩ | ⟨t, hu, he | ⟨w, -, hmove⟩⟩
  · exact ⟨req, g, now, by rw [he]⟩
  · rw [he]
    exact hp.input t hu
  · rw [hmove.input]
    exact hp.input t hu

theorem step_uncredited (hp : Planned h u s) (hstep : s.step h tb ev = some s') {t' : Tenant}
    (hu' : s'.tenants u = some t') (hnone : t'.accounting = none) :
    ∀ x ∈ s'.journal, ∀ issue, x.origin ≠ .credit u issue := by
  intro x hx issue ho
  have hstopped : ∀ t e, s.tenants u = some t → t.accounting ≠ some e := by
    intro t e hu he
    obtain ⟨t'', e', hu'', he', -⟩ := step_execution hp.sound hstep hu he
    cases hu'.symm.trans hu''
    rw [hnone] at he'
    cases he'
  obtain ⟨new, hnew⟩ := step_journal hstep
  rw [← hnew] at hx
  rcases List.mem_append.mp hx with hx | hx
  · obtain ⟨w, t, o, -, hu, hacts, hsent⟩ := step_new hp.sound hstep hnew.symm hx
    rw [ho] at hsent hu
    obtain ⟨i, att, reported, e, c, run, -, he, -⟩ := Tenant.sends_credit hacts hsent
    exact hstopped t e hu he
  · obtain ⟨t, hu, -⟩ := hp.sound.journal x hx
    rw [ho] at hu
    exact hp.uncredited t hu (Option.eq_none_iff_forall_ne_some.mpr (hstopped t · hu)) x hx issue ho

theorem step_allocate {att : RequestAttempt} {reported : Bool} (hu : s.tenants u = some t)
    (hstep : s.step h tb (.tenant u (.allocate att reported)) = some s') :
    s'.journal = (tb.record (s.books, s.journal) (reachedEntries att.fate (allocationEntries
      (fun r => .provision t.provisioning.input.tenantUUID t.provisioning.input.periodStartNs r
        ((t.provisioning.input.credits r).getD 0)) (t.provisioning.allocationInput h) att))).2 := by
  obtain ⟨t', o, hu', ho, rfl⟩ := step_tenant hstep
  cases hu.symm.trans hu'
  obtain ⟨p, -, rfl⟩ := Option.map_eq_some_iff.mp ho
  rfl

theorem step_allocated (hp : Planned h u s) (hstep : s.step h tb ev = some s')
    (hs' : s'.Sound h) (hd' : Decided s'.books s'.journal)
    (hfree : h.CollisionFree (preimages s'.journal)) {t' : Tenant} {run : Run Unit}
    (hu' : s'.tenants u = some t') (hphase' : t'.provisioning.phase = .allocating run)
    (hout : run.outcome = some (.ok ())) : Loads u s'.journal := by
  have hJ := (step_journal hstep).subset
  rcases step_provisioning hstep hu' with ⟨-, req, g, now, he⟩ | ⟨t, hu, he | ⟨w, rfl, hmove⟩⟩
  · rw [he] at hphase'
    cases hphase'
  · rw [he] at hphase'
    exact (hp.allocated (hfree.mono (preimages_mono hJ)) t run hu hphase' hout).mono hJ
  · have hnone := (hs'.tenants u t' hu').unstarted (by rw [hphase']; simp)
    have hcredit := hp.step_uncredited hstep hu' hnone
    generalize t'.provisioning = p' at hmove hphase'
    cases hmove with
    | allocation hphase hrun =>
      cases hphase'
      obtain ⟨-, rfl⟩ := ActivityRun.attempt_some hrun
      obtain ⟨req, g, now, hinput⟩ := hp.input t hu
      exact hp.sound.loads_of_ok hs' hd' hcredit hfree hu (by rw [hphase]; rfl)
        (fun r => by rw [hinput]; rfl) (step_allocate hu hstep)
        (Tenant.heard_ok (ActivityRun.decided_ok hout)).2
    | mapped hphase houtcome =>
      cases hphase'
      cases hout
    | _ => cases hphase'

theorem step_loaded (hp : Planned h u s) (hstep : s.step h tb ev = some s')
    (hfree : h.CollisionFree (preimages s'.journal)) {t' : Tenant} (hu' : s'.tenants u = some t')
    (hphase' : t'.provisioning.phase = .startingAccounting) : Loads u s'.journal := by
  have hJ := (step_journal hstep).subset
  have hfree := hfree.mono (preimages_mono hJ)
  rcases step_provisioning hstep hu' with ⟨-, req, g, now, he⟩ | ⟨t, hu, he | ⟨w, rfl, hmove⟩⟩
  · rw [he] at hphase'
    cases hphase'
  · rw [he] at hphase'
    exact (hp.loaded hfree t hu hphase').mono hJ
  · generalize t'.provisioning = p' at hmove hphase'
    cases hmove with
    | loaded hphase hout => exact (hp.allocated hfree t _ hu hphase hout).mono hJ
    | _ => cases hphase'

theorem step (hp : Planned h u s) (hstep : s.step h tb ev = some s') : Planned h u s' := by
  have hs' := step_sound hp.sound hstep
  have hd' := step_decided hp.decided hstep
  exact ⟨hs', hd', fun t' hu' => hp.step_input hstep hu',
    fun t' hu' hnone => hp.step_uncredited hstep hu' hnone,
    fun hfree t' run hu' hphase hout => hp.step_allocated hstep hs' hd' hfree hu' hphase hout,
    fun hfree t' hu' hphase => hp.step_loaded hstep hfree hu' hphase⟩

end Planned

theorem run_planned (u : Uint128) {es : List SystemEvent}
    (hr : runSteps (step h tb) initial es = some s) : Planned h u s :=
  invariant_of_steps (step h tb) (fun _ _ _ hp hstep => hp.step hstep) (.initial h u) hr

theorem Sound.provisionedCredits_eq (hs : s.Sound h)
    (hfree : h.CollisionFree (preimages s.journal)) (hl : Loads u s.journal)
    (hu : s.tenants u = some t) {r : ResourceType} {credits : Int64}
    (hc : t.provisioning.input.credits r = some credits) :
    s.provisionedCredits u r = credits.toUInt64.toNat := by
  obtain ⟨x, hx, hok, period, c, ho⟩ := hl r
  have hcommitted : x ∈ s.committed := List.mem_filter.mpr ⟨hx, hok⟩
  have hid : ∀ y ∈ s.journal, ∀ period c, y.origin = .provision u period r c →
      y.transfer.id = h.derive (.allocation u t.provisioning.input.periodStartNs.toUInt64 r.ledgerID) ∧
        c = credits := by
    intro y hy period c hoy
    obtain ⟨t', ht', hown⟩ := hs.journal y hy
    have hidy := hown.id_eq (hfree.derive_ne_zero ⟨y, hy, rfl⟩)
    rw [hidy, hoy, Source.preimage, hs.period hy hu hoy]
    refine ⟨rfl, ?_⟩
    rw [hoy] at ht' hown
    cases hu.symm.trans ht'
    generalize y.transfer = tr at hown
    cases hown with
    | provision hid hcredits => exact Option.some.inj (hcredits.symm.trans hc)
  obtain ⟨hidx, rfl⟩ := hid x hx period c ho
  rw [provisionedCredits, sum_of_single hs.committed_ids hcommitted, ho]
  · simp [Source.provisions]
  · intro y hy hne
    cases hoy : y.origin with
    | provision v p q c' =>
      refine if_neg ?_
      rintro ⟨rfl, rfl⟩
      exact hne ((hid y (List.mem_of_mem_filter hy) p c' hoy).1.trans hidx.symm)
    | _ => rfl

end State

/-- The quota accounts of a tenant in the table. -/
def Database.quotaRows (db : Database) (u : Uint128) : Table ResourceType Uint128 :=
  fun r => db.tbAccountIDs (u, r)

/-- What the table has of a tenant in each phase of its provisioning. -/
def Mapped (rows : Table ResourceType Uint128) (p : Provisioning) : Prop :=
  match p.phase with
  | .insertingTenant _ | .creatingAccounts _ => rows = Table.empty
  | .insertingMapping run => (∀ r, rows r = none ∨ rows r = p.accountIDs r) ∧
      (run.outcome = some (.ok ()) → rows = p.accountIDs)
  | .allocating _ | .startingAccounting | .completed => rows = p.accountIDs
  | .failed _ => True

theorem insertTBAccountMapping_other (db : Database) (att : RowsAttempt) {u v : Uint128} (hv : v ≠ u)
    (ids : Table ResourceType Uint128) :
    (db.insertTBAccountMapping att u ids).2.quotaRows v = db.quotaRows v := by
  funext r
  simp only [Database.quotaRows, Database.insertTBAccountMapping, Table.insertAll_apply]
  rw [List.find?_eq_none.mpr, Option.map_none, Option.or_none]
  intro x hx
  obtain ⟨q, -, hq⟩ := List.mem_filterMap.mp (List.mem_of_mem_take hx)
  obtain ⟨i, -, rfl⟩ := Option.map_eq_some_iff.mp hq
  simpa using fun he => absurd he.symm hv

theorem insertTBAccountMapping_rows (db : Database) (att : RowsAttempt) (u : Uint128)
    (ids : Table ResourceType Uint128) (r : ResourceType) :
    (∃ new, (db.insertTBAccountMapping att u ids).2.quotaRows u r = (db.quotaRows u r).or new ∧
      (new = none ∨ new = ids r)) ∧
    ((db.insertTBAccountMapping att u ids).1 = .ok () →
      (db.insertTBAccountMapping att u ids).2.quotaRows u r = (db.quotaRows u r).or (ids r)) := by
  simp only [Database.quotaRows, Database.insertTBAccountMapping, Table.insertAll_apply]
  have hrow : ∀ x ∈ att.rows u ids, x.1 = (u, r) → some x.2 = ids r := by
    intro x hx hkey
    obtain ⟨q, -, hq⟩ := List.mem_filterMap.mp hx
    obtain ⟨i, hi, rfl⟩ := Option.map_eq_some_iff.mp hq
    cases hkey
    exact hi.symm
  refine ⟨⟨_, rfl, ?_⟩, fun hok => ?_⟩
  · cases hf : ((att.rows u ids).take att.executed).find? (·.1 = (u, r)) with
    | none => exact .inl rfl
    | some x =>
      refine .inr (hrow x (List.mem_of_mem_take (List.mem_of_find?_eq_some hf)) ?_)
      simpa using List.find?_some hf
  · have hall : (att.rows u ids).take att.executed = att.rows u ids := by
      refine List.take_of_length_le ?_
      by_contra hlt
      simp [RowsAttempt.result, Nat.lt_of_not_le hlt] at hok
    rw [hall]
    congr 1
    cases hf : (att.rows u ids).find? (·.1 = (u, r)) with
    | some x =>
      exact hrow x (List.mem_of_find?_eq_some hf) (by simpa using List.find?_some hf)
    | none =>
      cases hi : ids r with
      | none => rfl
      | some i =>
        have hmem : ((u, r), i) ∈ att.rows u ids := by
          refine List.mem_filterMap.mpr ⟨r, att.resources.mem_order.mpr (by simp), ?_⟩
          rw [hi]
          rfl
        simpa using List.find?_eq_none.mp hf _ hmem

/-- Provisioning moves on while the table stays as it is. -/
theorem Mapped.provisions {h : Blake3} {tb : Service} {L : Books} {p p' : Provisioning}
    {w : TenantEvent} {rows : Table ResourceType Uint128} (hm : Mapped rows p)
    (hmove : Provisions h tb L p w p')
    (hrow : ∀ reply run, w = .rowAttempt reply → p.phase ≠ .insertingMapping run) :
    Mapped rows p' := by
  unfold Mapped at hm
  cases hmove with
  | mappingRows hphase => exact absurd hphase (hrow _ _ rfl)
  | accountsCreated hphase =>
    rw [hphase] at hm
    refine ⟨fun r => .inl ?_, fun hout => by cases hout⟩
    rw [show rows = Table.empty from hm]
    rfl
  | mapped hphase hout =>
    rw [hphase] at hm
    exact hm.2 hout
  | fails => trivial
  | _ hphase =>
    rw [hphase] at hm
    exact hm

namespace Stored

variable {h : Blake3} {tb : Service} {S S' : Stored} {u : Uint128}

/-- The rows of a tenant are those its provisioning has come to. -/
def RowsMapped (u : Uint128) (S : Stored) : Prop :=
  (S.state.tenants u = none → S.db.quotaRows u = Table.empty) ∧
    ∀ t, S.state.tenants u = some t → Mapped (S.db.quotaRows u) t.provisioning

/-- A step that leaves the rows of the tenant alone. -/
theorem RowsMapped.elsewhere (hm : S.RowsMapped u) {ev : SystemEvent} {s' : State} {db : Database}
    (hstep : S.state.step h tb ev = some s') (hdb : db.quotaRows u = S.db.quotaRows u)
    (hrow : ∀ t run reply, S.state.tenants u = some t → ev = .tenant u (.rowAttempt reply) →
      t.provisioning.phase ≠ .insertingMapping run) :
    RowsMapped u ⟨s', db⟩ := by
  refine ⟨fun hnone => ?_, fun t' hu' => ?_⟩
  · rw [hdb]
    refine hm.1 (Option.eq_none_iff_forall_ne_some.mpr fun t hu => ?_)
    obtain ⟨t', hu'⟩ := State.step_registered hstep hu
    rw [hnone] at hu'
    cases hu'
  · rw [hdb]
    rcases State.step_provisioning hstep hu' with
      ⟨hnone, req, g, now, he⟩ | ⟨t, hu, he | ⟨w, rfl, hmove⟩⟩
    · rw [he]
      exact hm.1 hnone
    · rw [he]
      exact hm.2 t hu
    · exact (hm.2 t hu).provisions hmove fun reply run hw => hrow t run reply hu (by rw [hw])

/-- An attempt to record the accounts of the tenant. -/
theorem RowsMapped.mapping (hm : S.RowsMapped u) {att : RowsAttempt} {t : Tenant} {run : Run Unit}
    {s' : State} (hu : S.state.tenants u = some t)
    (hphase : t.provisioning.phase = .insertingMapping run)
    (hstep : S.state.step h tb (.tenant u (.rowAttempt (heard att.reported
      (S.db.insertTBAccountMapping att u t.provisioning.accountIDs).1))) = some s') :
    RowsMapped u ⟨s', (S.db.insertTBAccountMapping att u t.provisioning.accountIDs).2⟩ := by
  have hold := hm.2 t hu
  simp only [Mapped, hphase] at hold
  obtain ⟨hsome, hall⟩ := hold
  have hrows := insertTBAccountMapping_rows S.db att u t.provisioning.accountIDs
  generalize S.db.insertTBAccountMapping att u t.provisioning.accountIDs = out at hrows hstep
  have hnew : ∀ r, out.2.quotaRows u r = none ∨
      out.2.quotaRows u r = t.provisioning.accountIDs r := by
    intro r
    obtain ⟨new, hnew, hcase⟩ := (hrows r).1
    rw [hnew]
    rcases hsome r with hr | hr <;> rcases hcase with rfl | rfl <;> simp [hr]
  have hfull : out.1 = .ok () → out.2.quotaRows u = t.provisioning.accountIDs := by
    intro hok
    funext r
    rw [(hrows r).2 hok]
    rcases hsome r with hr | hr <;> simp [hr]
  have hkeep : run.outcome = some (.ok ()) → out.2.quotaRows u = t.provisioning.accountIDs := by
    intro hout
    funext r
    obtain ⟨new, hnew, hcase⟩ := (hrows r).1
    rw [hnew, hall hout]
    rcases hcase with rfl | rfl <;> simp
  refine ⟨fun hnone => ?_, fun t' hu' => ?_⟩
  · obtain ⟨t', hu'⟩ := State.step_registered hstep hu
    cases hnone.symm.trans hu'
  · rcases State.step_provisioning hstep hu' with ⟨hnone, -⟩ | ⟨t₁, hu₁, hmove⟩
    · cases hu.symm.trans hnone
    cases hu.symm.trans hu₁
    rcases hmove with he | ⟨w, heq, hmove⟩
    · rw [he]
      simp only [Mapped, hphase]
      exact ⟨hnew, hkeep⟩
    · cases heq
      generalize t'.provisioning = p' at hmove
      cases hmove with
      | tenantRow hphase' => cases hphase.symm.trans hphase'
      | mappingRows hphase' hrun =>
        obtain ⟨-, rfl⟩ := ActivityRun.attempt_some hrun
        exact ⟨hnew, fun hout => hfull (Tenant.heard_ok (ActivityRun.decided_ok hout)).2⟩
      | fails => trivial

theorem step_rowsMapped {ev : StoredEvent} (hm : S.RowsMapped u) (hs : S.step h tb ev = some S') :
    S'.RowsMapped u := by
  cases step_writes hs with
  | @tenant v att t run s' hv hphase hstep =>
    refine hm.elsewhere hstep ?_ fun t' run' reply hu heq hphase' => ?_
    · unfold Database.insertTenant
      split_ifs <;> rfl
    · cases heq
      cases hv.symm.trans hu
      cases hphase.symm.trans hphase'
  | @mapping v att t run s' hv hphase hstep =>
    by_cases hne : u = v
    · subst hne
      exact hm.mapping hv hphase hstep
    · refine hm.elsewhere hstep (insertTBAccountMapping_other S.db att hne _) ?_
      rintro t' run' reply - ⟨⟩
      exact absurd rfl hne
  | snapshots hb hstep => exact hm.elsewhere hstep rfl fun _ _ _ _ heq => by cases heq
  | refresh hb hstep => exact hm.elsewhere hstep rfl fun _ _ _ _ heq => by cases heq
  | system hrows hstep =>
    refine hm.elsewhere hstep rfl ?_
    rintro t run reply - rfl
    cases hrows

theorem run_rowsMapped (u : Uint128) {es : List StoredEvent}
    (hr : runSteps (step h tb) {} es = some S) : S.RowsMapped u := by
  refine invariant_of_steps (step h tb) (fun _ _ _ hm hstep => step_rowsMapped hm hstep) ?_ hr
  exact ⟨fun _ => rfl, fun t hu => by cases hu⟩

end Stored

namespace State

variable {h : Blake3} {tb : Service} {s : State} {u : Uint128}

theorem step_completes {s' : State}
    (hstep : s.step h tb (.tenant u (.startAccounting (.ok ()))) = some s') :
    ∃ t, s.tenants u = some t ∧ t.provisioning.phase = .startingAccounting ∧
      s'.books = s.books ∧ s'.journal = s.journal ∧ s'.tenants u = some { t with
        provisioning := { t.provisioning with phase := .completed }
        accounting := some (.start t.provisioning.accountingInput) } := by
  obtain ⟨t, o, hu, ho, rfl⟩ := step_tenant hstep
  obtain ⟨p, hstarted, rfl⟩ := Option.map_eq_some_iff.mp ho
  unfold Provisioning.accountingStarted at hstarted
  split at hstarted
  · rename_i hphase
    cases hstarted
    exact ⟨t, hu, hphase, rfl, rfl, Table.set_same _ _ _⟩
  · cases hstarted

/-- A tenant about to start its accounting has the plan in its wallet. -/
theorem Planned.wallet (hp : Planned h u s) (hfree : h.CollisionFree (preimages s.journal))
    {t : Tenant} (hu : s.tenants u = some t) (hphase : t.provisioning.phase = .startingAccounting)
    {req : RegisterTenantRequest} {g : GlobalAccounts} {now : Int64}
    (hinput : t.provisioning.input = Accounting.registerTenant req u g now) (r : ResourceType) :
    ∃ i, t.provisioning.accountIDs r = some i ∧
      s.books.account? i = some (quotaAccount u r i) ∧
      ((s.books.balance i).creditsPosted : ℤ) = (req.credits r).toInt := by
  have ht := hp.sound.tenants u t hu
  obtain ⟨i, hi, -⟩ := ht.known.late (by rw [hphase]; rfl) r
  refine ⟨i, hi, hp.sound.quota_open hu hi, ?_⟩
  have hissued : s.issuedCredits u r = 0 := by
    refine List.sum_eq_zero fun n hn => ?_
    obtain ⟨x, hx, rfl⟩ := List.mem_map.mp hn
    have hnone := ht.unstarted (by rw [hphase]; simp)
    have hother := hp.uncredited t hu hnone x (List.mem_of_mem_filter hx)
    cases ho : x.origin with
    | credit v issue =>
      refine if_neg ?_
      rintro ⟨rfl, -⟩
      exact hother issue ho
    | _ => rfl
  have hloaded := hp.sound.provisionedCredits_eq hfree (hp.loaded hfree t hu hphase) hu (r := r)
    (by rw [hinput]; rfl)
  rw [hp.sound.creditsPosted hu hi, hissued, hloaded, Nat.add_zero]
  exact toUInt64_of_pos (req.credits_pos r)

theorem Sound.quota_creditsPending (hs : s.Sound h) {i : Uint128} {r : ResourceType}
    (hacc : s.books.account? i = some (quotaAccount u r i)) :
    (s.books.balance i).creditsPending = 0 := by
  rw [hs.wf.creditsPending_eq, total, List.filter_eq_nil_iff.mpr]
  · rfl
  intro p hp hi
  obtain ⟨v, q, -, hsink⟩ := hs.live_ends hp
  exact global_ne_quota hacc (by simp) hsink (by simpa using hi)

theorem Sound.unknown_balance (hs : s.Sound h) {t : Tenant} (hu : s.tenants u = some t) {a : Account}
    (ha : a ∈ s.books.accounts) (hcode : a.code = accountCodeFromType .tenantQuota)
    (howner : a.userData128 = u) (hunknown : ∀ r, t.provisioning.accountIDs r ≠ some a.id) :
    s.books.balance a.id = {} := by
  have hlimit := hs.within_limit ha hcode
  have hopen := hs.wf.account?_eq ha
  rcases hs.accounts a ha with ⟨v, r, i, rfl⟩ | ⟨k, i, hk, rfl⟩
  · cases howner
    have hcredits := hs.unknown_quota hopen fun t' hu' => by
      cases hu.symm.trans hu'
      exact hunknown r
    have hpending := hs.quota_creditsPending hopen
    rw [hcredits] at hlimit
    generalize s.books.balance (quotaAccount v r i).id = b at hlimit hcredits hpending
    obtain ⟨b₁, b₂, b₃, b₄⟩ := b
    simp only [Balance.mk.injEq] at hlimit hcredits hpending ⊢
    omega
  · exact absurd (accountCodeFromType_injective hcode) (globalKeys_not_quota k hk)

end State

/-- Provisioning that succeeds loads exactly the plan, whatever attempts of its
activities failed before or after they took effect. Every account it returns has
the hard limit and the credits of the registration, the table has exactly these
accounts for the tenant, and any other account opened for the tenant is
untouched. -/
theorem Stored.provisioning_loads_plan {h : Blake3} {tb : Service} {S S' : Stored} {u : Uint128}
    (es : List StoredEvent) (hr : runSteps (step h tb) {} es = some S)
    (hstart : S.step h tb (.system (.tenant u (.startAccounting (.ok ())))) = some S')
    (hfree : h.CollisionFree (preimages S'.state.journal)) :
    ∃ t req g now, S'.state.tenants u = some t ∧ t.provisioning.phase = .completed ∧
      t.provisioning.input = Accounting.registerTenant req u g now ∧
      (∀ r, ∃ i a, t.provisioning.accountIDs r = some i ∧ S'.state.books.account? i = some a ∧
        a = quotaAccount u r i ∧ a.flags.debitsMustNotExceedCredits = true ∧
        t.provisioning.input.credits r = some (req.credits r) ∧
        ((S'.state.books.balance i).creditsPosted : ℤ) = (req.credits r).toInt) ∧
      (∀ r, S'.db.tbAccountIDs (u, r) = t.provisioning.accountIDs r) ∧
      ∀ a ∈ S'.state.books.accounts, a.code = accountCodeFromType .tenantQuota →
        a.userData128 = u → (∀ r, t.provisioning.accountIDs r ≠ some a.id) →
        S'.state.books.balance a.id = {} := by
  obtain ⟨es', hr'⟩ := run_state hr
  have hp := State.run_planned u hr'
  have hrows := step_rowsMapped (run_rowsMapped u hr) hstart
  cases step_writes hstart with
  | @system _ s' hnorows hstep =>
    obtain ⟨t, hu, hphase, hbooks, hjournal, hu'⟩ := State.step_completes hstep
    obtain ⟨req, g, now, hinput⟩ := hp.input t hu
    have hs' := State.step_sound hp.sound hstep
    dsimp only at hrows hfree hs' ⊢
    rw [hjournal] at hfree
    refine ⟨_, req, g, now, hu', rfl, hinput, fun r => ?_, fun r => ?_, ?_⟩
    · obtain ⟨i, hi, hacc, hcredits⟩ := hp.wallet hfree hu hphase hinput r
      rw [hbooks]
      exact ⟨i, _, hi, hacc, rfl, rfl, by rw [hinput]; rfl, hcredits⟩
    · exact congrFun (hrows.2 _ hu') r
    · intro a ha hcode howner hunknown
      exact hs'.unknown_balance hu' ha hcode howner hunknown

/-- Attempts of every activity fail, some of them after they took effect. -/
def lostAttempts : List StoredEvent :=
  [.system (.startServer .answered (sampleRandom 50)), .system (.registerTenant sampleTenant
      { cpuHoursCredits := 100, billingTier := "starter" } 1000),
    .insertTenant sampleTenant { executed := 0 }, .insertTenant sampleTenant {},
    .system (.tenant sampleTenant .deliverProvisioning),
    .system (.tenant sampleTenant
      (.createAccounts { rand := sampleRandom 100, fate := .lostReply "reset" } true)),
    .system (.tenant sampleTenant (.createAccounts { rand := sampleRandom 110 } true)),
    .system (.tenant sampleTenant .deliverProvisioning),
    .insertTBAccountMapping sampleTenant { executed := 1 },
    .insertTBAccountMapping sampleTenant { reported := false },
    .insertTBAccountMapping sampleTenant {},
    .system (.tenant sampleTenant .deliverProvisioning),
    .system (.tenant sampleTenant (.allocate { fate := .lostReply "reset" } true)),
    .system (.tenant sampleTenant (.allocate {} true)),
    .system (.tenant sampleTenant .deliverProvisioning)]

theorem lostAttempts_load_plan :
    ∃ S S' t i, runSteps (Stored.step .positional Reference.service) {} lostAttempts = some S ∧
      S.step .positional Reference.service
        (.system (.tenant sampleTenant (.startAccounting (.ok ())))) = some S' ∧
      S'.state.books.accounts.length = 12 ∧ S'.state.tenants sampleTenant = some t ∧
      t.provisioning.accountIDs .cpuHours = some i ∧
      S'.db.tbAccountIDs (sampleTenant, .cpuHours) = some i ∧
      (S'.state.books.balance i).creditsPosted = 100 := by
  obtain ⟨S', hr', hp⟩ := runSteps_any (Stored.step .positional Reference.service) {}
    (lostAttempts ++ [.system (.tenant sampleTenant (.startAccounting (.ok ())))])
    (fun S => collisionTest .positional S.state.journal && S.state.books.accounts.length = 12 &&
      (S.state.tenants sampleTenant).any fun t => (t.provisioning.accountIDs .cpuHours).any fun i =>
        (S.state.books.balance i).creditsPosted = 100) (by decide +kernel)
  simp only [Bool.and_eq_true, Option.any_eq_true, decide_eq_true_eq] at hp
  obtain ⟨⟨hfree, hlength⟩, t, ht, i, hi, hcredits⟩ := hp
  obtain ⟨S, hr, hlast⟩ := (runSteps_append (Stored.step .positional Reference.service)).mp hr'
  obtain ⟨_, hstart, hend⟩ := runSteps_cons (Stored.step .positional Reference.service) hlast
  cases hend
  obtain ⟨t', req, g, now, ht', -, -, -, hrows, -⟩ := Stored.provisioning_loads_plan lostAttempts hr
    hstart (collisionFree_of_collisionTest hfree)
  cases ht.symm.trans ht'
  exact ⟨S, S', t, i, hr, hstart, hlength, ht, hi, (hrows .cpuHours).trans hi, hcredits⟩

end CloudCredit.System
