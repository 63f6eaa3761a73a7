import CloudCredit.Gateway.ClusterIDs
import CloudCredit.System.Database
import CloudCredit.System.FailedCredits

/-!
# The audit trail of issued credits

The table `credit_adjustments` is written by an activity of its own, which records one
issued credit. An activity is executed only when a workflow waits for it, so the table
has the rows the workflows ask for. Next to the table the accepted updates are noted
with the signals they came with, to say what the rows should be.
-/
namespace CloudCredit.System

open Library TigerBeetle Domain Ledger Accounting Gateway

structure InsertCreditAdjustmentInput where
  tenantID : String
  resourceType : String
  amount : Int64
  reason : String
  transferID : Uint128
  deriving DecidableEq

/-- A row of `credit_adjustments`; the newest comes first. -/
structure CreditAdjustment where
  tenantID : Uint128
  resourceType : String
  amount : Int64
  reason : Option String
  tbTransferID : Uint128

/-- Record a credit; an empty reason is stored as none. -/
def insertCreditAdjustment (att : RowsAttempt) (tenants : List Uint128)
    (rows : List CreditAdjustment) (input : InsertCreditAdjustmentInput) :
    Except ActivityError Unit × List CreditAdjustment :=
  match parseUUID input.tenantID with
  | none => (.error (.postgres "parse tenant UUID"), rows)
  | some tenantUUID =>
    if att.executed = 0 then (.error (.postgres "connection closed"), rows)
    else if tenantUUID ∉ tenants then (.error (.postgres "foreign key constraint"), rows)
    else (.ok (), ⟨tenantUUID, input.resourceType, input.amount,
      if input.reason = "" then none else some input.reason, input.transferID⟩ :: rows)

structure CreditAdjustmentEntry where
  resourceType : String
  amount : Int64
  reason : String
  transferId : String
  deriving DecidableEq

/-- The digits of a stored identifier. -/
def hexDigits (u : Uint128) : String :=
  String.ofList (u.bytes.flatMap fun b =>
    [Nat.digitChar (b.toNat / 16), Nat.digitChar (b.toNat % 16)])

def CreditAdjustment.entry (row : CreditAdjustment) : CreditAdjustmentEntry where
  resourceType := row.resourceType
  amount := row.amount
  reason := row.reason.getD ""
  transferId := hexDigits row.tbTransferID

/-- The audit trail of a tenant as the admin call returns it. -/
def listCreditAdjustments (tenantId : String) (rows : List CreditAdjustment) :
    Except String (List CreditAdjustmentEntry) :=
  match parseUUID tenantId with
  | none => .error "invalid tenant ID"
  | some tenantUUID => .ok ((rows.filter (·.tenantID = tenantUUID)).map (·.entry))

inductive Activity
  | insertTenant
  | createTenantTBAccounts
  | insertTBAccountMapping
  | submitAllocationTransfers
  | submitTBBatch
  | lookupAccountBalances
  | updateQuotaSnapshots
  | checkSoftLimits
  | resetSoftLimitAlert
  | insertCreditAdjustment (input : InsertCreditAdjustmentInput)
  deriving DecidableEq

/-- The activity a provisioning workflow waits for. -/
def provisioningActivity : ProvisioningPhase → Option Activity
  | .insertingTenant _ => some .insertTenant
  | .creatingAccounts _ => some .createTenantTBAccounts
  | .insertingMapping _ => some .insertTBAccountMapping
  | .allocating _ => some .submitAllocationTransfers
  | .startingAccounting | .completed | .failed _ => none

/-- The activity the main loop waits for. -/
def mainActivity : Main → Option Activity
  | .submitting _ _ => some .submitTBBatch
  | .lookingUp _ _ => some .lookupAccountBalances
  | .snapshotting _ _ _ => some .updateQuotaSnapshots
  | .checkingLimits _ _ _ => some .checkSoftLimits
  | .selecting _ | .continuing => none

/-- The activity a handler waits for after its allocation. -/
def refreshActivity : RefreshPhase → Activity
  | .lookingUp _ => .lookupAccountBalances
  | .snapshotting _ _ => .updateQuotaSnapshots
  | .resetting _ _ => .resetSoftLimitAlert

/-- The activities the workflows of a tenant wait for. -/
def Tenant.activities (t : Tenant) : List Activity :=
  (provisioningActivity t.provisioning.phase).toList ++
    t.accounting.elim [] fun e => (mainActivity e.main).toList ++
      e.credits.map (fun _ => .submitAllocationTransfers) ++
      e.refreshing.map fun f => refreshActivity f.phase

theorem Tenant.never_records (t : Tenant) (input : InsertCreditAdjustmentInput) :
    .insertCreditAdjustment input ∉ t.activities := by
  have hprovisioning : provisioningActivity t.provisioning.phase ≠
      some (.insertCreditAdjustment input) := by
    cases t.provisioning.phase <;> simp [provisioningActivity]
  have hmain : ∀ m, mainActivity m ≠ some (.insertCreditAdjustment input) := by
    intro m
    cases m <;> simp [mainActivity]
  have hrefresh : ∀ phase, refreshActivity phase ≠ .insertCreditAdjustment input := by
    intro phase
    cases phase <;> simp [refreshActivity]
  unfold activities
  cases t.accounting with
  | none => simpa using hprovisioning
  | some e => simp [hprovisioning, hmain, hrefresh]

namespace State

variable (s : State) (u : Uint128)

/-- The accepted updates of a tenant, and what its handlers returned. -/
def issued : List Issue := ((s.tenants u).bind (·.accounting)).elim [] (·.history.issued)

def returned : List (Issue × Except ActivityError IssueCreditResult) :=
  ((s.tenants u).bind (·.accounting)).elim [] (·.history.returned)

end State

structure Audited where
  stored : Stored := {}
  creditAdjustments : List CreditAdjustment := []
  accepted : List (Uint128 × Issue × QuotaAdjustmentSignal) := []

inductive AuditedEvent
  | stored (ev : StoredEvent)
  | insertCreditAdjustment (tenantID : Uint128) (input : InsertCreditAdjustmentInput)
      (att : RowsAttempt)

namespace Audited

variable (h : Blake3) (tb : Service) (A : Audited) (u : Uint128)

/-- The updates a step accepts, with their signal. -/
def noted (s' : State) : StoredEvent → List (Uint128 × Issue × QuotaAdjustmentSignal)
  | .system (.tenant u (.workflow (.update sig))) =>
    ((s'.issued u).filter (· ∉ A.stored.state.issued u)).map (u, ·, sig)
  | _ => []

def step : AuditedEvent → Option Audited
  | .stored ev => (A.stored.step h tb ev).map fun S =>
      { A with stored := S, accepted := A.noted S.state ev ++ A.accepted }
  | .insertCreditAdjustment u input att => (A.stored.state.tenants u).bind fun t =>
      if .insertCreditAdjustment input ∈ t.activities then
        some { A with creditAdjustments :=
          (System.insertCreditAdjustment att A.stored.db.tenants A.creditAdjustments input).2 }
      else none

/-- The updates of a tenant that returned success, with their signals. -/
def succeeded : List (Issue × QuotaAdjustmentSignal) :=
  A.accepted.filterMap fun x =>
    if x.1 = u ∧ (A.stored.state.returned u).any (fun y => y.1 = x.2.1 && y.2.toBool) then some x.2
    else none

/-- The entry an issued credit should have. -/
def expected (x : Issue × QuotaAdjustmentSignal) : CreditAdjustmentEntry where
  resourceType := x.2.resourceType
  amount := x.2.amount
  reason := x.2.reason
  transferId := hexDigits (h.derive (Source.credit u x.1).preimage)

/-- The trail lists exactly the updates that returned success. -/
def Complete : Prop :=
  ∃ entries, listCreditAdjustments (uuidString u) A.creditAdjustments = .ok entries ∧
    entries.Perm ((A.succeeded u).map (expected h u))

/-- The transfer of every update that returned success has the code of its signal. -/
def Labelled : Prop :=
  ∀ x ∈ A.succeeded u, ∀ y ∈ A.stored.state.committed,
    y.origin = .credit u x.1 → y.transfer.code = x.2.code

end Audited

namespace State

variable {h : Blake3} {tb : Service} {s s' : State} {u : Uint128}

theorem issued_running {t : Tenant} {e : Execution} (hu : s.tenants u = some t)
    (he : t.accounting = some e) : s.issued u = e.history.issued := by
  simp [issued, hu, he]

theorem mem_issued {issue : Issue} (hmem : issue ∈ s.issued u) :
    ∃ t e, s.tenants u = some t ∧ t.accounting = some e ∧ issue ∈ e.history.issued := by
  unfold issued at hmem
  cases hx : (s.tenants u).bind (·.accounting) with
  | none => simp [hx] at hmem
  | some e =>
    obtain ⟨t, hu, he⟩ := Option.bind_eq_some_iff.mp hx
    exact ⟨t, e, hu, he, by simpa [hx] using hmem⟩

theorem mem_returned {x : Issue × Except ActivityError IssueCreditResult}
    (hmem : x ∈ s.returned u) :
    ∃ t e, s.tenants u = some t ∧ t.accounting = some e ∧ x ∈ e.history.returned := by
  unfold returned at hmem
  cases hx : (s.tenants u).bind (·.accounting) with
  | none => simp [hx] at hmem
  | some e =>
    obtain ⟨t, hu, he⟩ := Option.bind_eq_some_iff.mp hx
    exact ⟨t, e, hu, he, by simpa [hx] using hmem⟩

theorem step_issued (hs : s.Sound h) {ev : SystemEvent} (hstep : s.step h tb ev = some s')
    {issue : Issue} (hmem : issue ∈ s'.issued u) :
    issue ∈ s.issued u ∨ ∃ sig, ev = .tenant u (.workflow (.update sig)) := by
  obtain ⟨t', e', hu', he', hissue⟩ := mem_issued hmem
  obtain ⟨t, hu, ⟨e, he⟩ | rfl⟩ := step_started hs hstep hu' he'
  · obtain ⟨t₁, e₁, hu₁, he₁, hcase⟩ := step_execution hs hstep hu he
    cases hu'.symm.trans hu₁
    cases he'.symm.trans he₁
    rw [issued_running hu he]
    rcases hcase with ⟨-, rfl⟩ | ⟨w, hinduces, hw⟩
    · exact .inl hissue
    · have hprogress := Execution.step_progress hw
      change issue ∈ e'.progress.issued at hissue
      generalize e'.progress = p' at hprogress hissue
      cases hprogress with
      | accept =>
        cases hinduces with
        | workflow => exact .inr ⟨_, rfl⟩
      | _ => exact .inl hissue
  · cases hissue

end State

theorem Stored.step_issued {h : Blake3} {tb : Service} {S S' : Stored} {u : Uint128}
    {ev : StoredEvent} (hs : S.state.Sound h) (hstep : S.step h tb ev = some S') {issue : Issue}
    (hmem : issue ∈ S'.state.issued u) :
    issue ∈ S.state.issued u ∨ ∃ sig, ev = .system (.tenant u (.workflow (.update sig))) := by
  cases step_writes hstep with
  | system hrows hstate =>
    refine (State.step_issued hs hstate hmem).imp id ?_
    rintro ⟨sig, rfl⟩
    exact ⟨sig, rfl⟩
  | tenant hu hphase hstate => exact (State.step_issued hs hstate hmem).imp id nofun
  | mapping hu hphase hstate => exact (State.step_issued hs hstate hmem).imp id nofun
  | snapshots hb hstate => exact (State.step_issued hs hstate hmem).imp id nofun
  | refresh hb hstate => exact (State.step_issued hs hstate hmem).imp id nofun

namespace Audited

variable {h : Blake3} {tb : Service} {A A' : Audited} {u : Uint128}

/-- What every run keeps: no row is written, and every accepted update is noted. -/
structure Unrecorded (h : Blake3) (A : Audited) : Prop where
  sound : A.stored.state.Sound h
  traced : ∀ u t e, A.stored.state.tenants u = some t → t.accounting = some e → e.progress.Traced
  empty : A.creditAdjustments = []
  noted : ∀ u, ∀ issue ∈ A.stored.state.issued u, ∃ sig, (u, issue, sig) ∈ A.accepted

theorem Unrecorded.step {ev : AuditedEvent} (hk : A.Unrecorded h)
    (hs : A.step h tb ev = some A') : A'.Unrecorded h := by
  cases ev with
  | insertCreditAdjustment u input att =>
    obtain ⟨t, -, hs⟩ := Option.bind_eq_some_iff.mp hs
    rw [if_neg (t.never_records input)] at hs
    cases hs
  | stored ev =>
    obtain ⟨S, hstep, rfl⟩ := Option.map_eq_some_iff.mp hs
    obtain ⟨ev', hstate⟩ := (Stored.step_writes hstep).state
    refine ⟨State.step_sound hk.sound hstate,
      fun u => State.step_traced hk.sound hstate (hk.traced u), hk.empty, fun u issue hmem => ?_⟩
    dsimp only at hmem ⊢
    by_cases hold : issue ∈ A.stored.state.issued u
    · obtain ⟨sig, hsig⟩ := hk.noted u issue hold
      exact ⟨sig, List.mem_append_right _ hsig⟩
    · obtain ⟨sig, rfl⟩ := (Stored.step_issued hk.sound hstep hmem).resolve_left hold
      refine ⟨sig, List.mem_append_left _ ?_⟩
      simp [Audited.noted, hmem, hold]

theorem run_unrecorded {es : List AuditedEvent} (hr : runSteps (step h tb) {} es = some A) :
    A.Unrecorded h := by
  refine invariant_of_steps (step h tb) (fun _ _ _ hk hs => hk.step hs) ?_ hr
  refine ⟨State.initial_sound, fun u t e hu => (by cases hu), rfl, fun u issue hmem => ?_⟩
  obtain ⟨t, e, hu, -⟩ := State.mem_issued hmem
  cases hu

theorem Unrecorded.complete_iff (hk : A.Unrecorded h) : A.Complete h u ↔ A.succeeded u = [] := by
  simp [Complete, listCreditAdjustments, parseUUID_uuidString, hk.empty]

theorem Unrecorded.succeeded_eq_nil (hk : A.Unrecorded h) : A.succeeded u = [] ↔
    ∀ issue result, (issue, .ok result) ∉ A.stored.state.returned u := by
  constructor
  · intro hnil issue result hret
    obtain ⟨t, e, hu, he, hmem⟩ := State.mem_returned hret
    have hissued : issue ∈ e.history.issued :=
      (hk.traced u t e hu he).issued
        (List.mem_append_right _ (List.mem_map.mpr ⟨_, hmem, rfl⟩))
    rw [← State.issued_running hu he] at hissued
    obtain ⟨sig, hsig⟩ := hk.noted u issue hissued
    have hsucceeded : (issue, sig) ∈ A.succeeded u := by
      refine List.mem_filterMap.mpr ⟨_, hsig, if_pos ⟨rfl, List.any_eq_true.mpr ⟨_, hret, ?_⟩⟩⟩
      simp [Except.toBool]
    rw [hnil] at hsucceeded
    cases hsucceeded
  · intro hnone
    refine List.filterMap_eq_nil_iff.mpr fun x hx => if_neg ?_
    rintro ⟨-, hany⟩
    obtain ⟨⟨issue, reply⟩, hret, hok⟩ := List.any_eq_true.mp hany
    cases reply with
    | ok result => exact hnone issue result hret
    | error err => simp [Except.toBool] at hok

theorem Unrecorded.credit_code (hk : A.Unrecorded h) {y : Entry Source}
    (hy : y ∈ A.stored.state.journal) {issue : Issue} (ho : y.origin = .credit u issue) :
    y.transfer.code = codeQuotaAllocation := by
  obtain ⟨t, -, hown⟩ := hk.sound.journal y hy
  rw [ho] at hown
  generalize y.transfer = tr at hown
  cases hown
  rfl

end Audited

/-- The audit trail of a tenant is complete and labelled exactly as long as no
issue-credit update of the tenant has returned success: no workflow asks for a row, so
every success is missing from the list. The labels are right exactly if every update
with a committed transfer asked for the code of a first load, the one code the
allocation activity knows. -/
theorem Audited.trail_complete_iff {h : Blake3} {tb : Service} {A : Audited} (u : Uint128)
    (es : List AuditedEvent) (hr : runSteps (step h tb) {} es = some A) :
    (A.Complete h u ∧ A.Labelled u ↔
      ∀ issue result, (issue, .ok result) ∉ A.stored.state.returned u) ∧
    (A.Labelled u ↔ ∀ x ∈ A.succeeded u, Applied u A.stored.state.journal x.1 →
      x.2.code = codeQuotaAllocation) := by
  have hk := run_unrecorded hr
  refine ⟨?_, ?_⟩
  · rw [hk.complete_iff, ← hk.succeeded_eq_nil]
    constructor
    · exact And.left
    · intro hnil
      refine ⟨hnil, fun x hx => ?_⟩
      rw [hnil] at hx
      cases hx
  · constructor
    · rintro hlabelled x hx ⟨y, hy, hok, ho⟩
      rw [← hlabelled x hx y (List.mem_filter.mpr ⟨hy, hok⟩) ho]
      exact hk.credit_code hy ho
    · intro hcodes x hx y hy ho
      obtain ⟨hy, hok⟩ := List.mem_filter.mp hy
      rw [hk.credit_code hy ho, hcodes x hx ⟨y, hy, hok, ho⟩]

/-- A tenant is provisioned, and a credit is issued to it. -/
def auditedCredit : List AuditedEvent :=
  (storedProvisioning 8 20).map .stored ++
    [.system (.tenant sampleTenant (.workflow (.update sampleCredit))),
      .system (.tenant sampleTenant (.credit 0 {} true)),
      .system (.tenant sampleTenant (.workflow (.creditDeliver 0))),
      .system (.tenant sampleTenant (.refreshLookup 0 {})),
      .system (.tenant sampleTenant (.workflow (.refreshDeliver 0))),
      .refreshQuotaSnapshots sampleTenant 0 {},
      .system (.tenant sampleTenant (.workflow (.refreshDeliver 0))),
      .system (.tenant sampleTenant (.workflow (.refreshAttempt 0 (.done (.ok ())))))].map .stored

/-- Until the handler returns there is nothing to list. -/
theorem Audited.auditedCredit_open :
    ∃ A, runSteps (step .positional Reference.service) {} auditedCredit = some A ∧
      A.stored.state.issued sampleTenant ≠ [] ∧ A.Complete .positional sampleTenant ∧
      A.Labelled sampleTenant := by
  obtain ⟨A, hr, hp⟩ := runSteps_any (step .positional Reference.service) {} auditedCredit
    (fun A => (A.stored.state.issued sampleTenant).length = 1 &&
      (A.stored.state.returned sampleTenant).length = 0) (by decide +kernel)
  simp only [Bool.and_eq_true, decide_eq_true_eq, List.length_eq_zero_iff] at hp
  obtain ⟨hissued, hreturned⟩ := hp
  obtain ⟨hcomplete, hlabelled⟩ :=
    (trail_complete_iff sampleTenant auditedCredit hr).1.mpr (by simp [hreturned])
  exact ⟨A, hr, List.ne_nil_of_length_pos (by omega), hcomplete, hlabelled⟩

/-- The handler returns success: the list is empty, and the transfer of the credit has
the code of a first load where its signal asked for an adjustment. -/
theorem Audited.success_is_not_listed :
    ∃ A issue, runSteps (step .positional Reference.service) {} (auditedCredit ++
        [.stored (.system (.tenant sampleTenant (.workflow (.refreshDeliver 0))))]) = some A ∧
      A.succeeded sampleTenant = [(issue, sampleCredit)] ∧
      listCreditAdjustments (uuidString sampleTenant) A.creditAdjustments = .ok [] ∧
      ∃ x ∈ A.stored.state.committed, x.origin = .credit sampleTenant issue ∧
        x.transfer.code = 100 ∧ sampleCredit.code = 101 := by
  obtain ⟨A, hr, hp⟩ := runSteps_any (step .positional Reference.service) {} (auditedCredit ++
      [.stored (.system (.tenant sampleTenant (.workflow (.refreshDeliver 0))))])
    (fun A => A.creditAdjustments.length = 0 && (A.succeeded sampleTenant).length = 1 &&
      (A.succeeded sampleTenant).all fun p => p.2 = sampleCredit &&
        A.stored.state.committed.any fun x =>
          x.origin = .credit sampleTenant p.1 && x.transfer.code = 100) (by decide +kernel)
  simp only [Bool.and_eq_true, decide_eq_true_eq, List.length_eq_zero_iff, List.length_eq_one_iff,
    List.all_eq_true, List.any_eq_true] at hp
  obtain ⟨⟨hrows, ⟨issue, sig⟩, hsucceeded⟩, hall⟩ := hp
  obtain ⟨rfl, x, hx, ho, hcode⟩ := hall (issue, sig) (by rw [hsucceeded]; exact List.mem_cons_self)
  refine ⟨A, issue, hr, hsucceeded, ?_, x, hx, ho, hcode, rfl⟩
  simp [listCreditAdjustments, parseUUID_uuidString, hrows]

end CloudCredit.System
