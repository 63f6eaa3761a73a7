import CloudCredit.Accounting.Provisioning
import CloudCredit.TigerBeetle.Requests

/-!
# The accounts a tenant knows

Provisioning hands the tenant's account identifiers on from phase to phase.
Whatever it knows is open in the books as the tenant's own, and stays so.
-/
namespace CloudCredit.System

open Library TigerBeetle Domain Ledger Accounting

/-- The tenant's quota account of every resource is open under these identifiers. -/
def QuotaOpen (L : Books) (tenantUUID : Uint128) (ids : Table ResourceType Uint128) : Prop :=
  ∀ r, ∃ i, ids r = some i ∧ L.account? i = some (quotaAccount tenantUUID r i)

/-- The global account of every resource is open under these identifiers. -/
def GlobalOpen (L : Books) (a : AccountType) (ids : Table ResourceType Uint128) : Prop :=
  ∀ r, ∃ i, ids r = some i ∧ L.account? i = some (globalAccount (r, a) i)

theorem QuotaOpen.grows {L L' : Books} {tenantUUID : Uint128} {ids : Table ResourceType Uint128}
    (ho : QuotaOpen L tenantUUID ids) (hg : L.Grows L') : QuotaOpen L' tenantUUID ids := by
  intro r
  obtain ⟨i, hi, ha⟩ := ho r
  exact ⟨i, hi, hg.account? ha⟩

theorem GlobalOpen.grows {L L' : Books} {a : AccountType} {ids : Table ResourceType Uint128}
    (ho : GlobalOpen L a ids) (hg : L.Grows L') : GlobalOpen L' a ids := by
  intro r
  obtain ⟨i, hi, ha⟩ := ho r
  exact ⟨i, hi, hg.account? ha⟩

theorem GlobalOpen.account? {L : Books} {a : AccountType} {ids : Table ResourceType Uint128}
    (ho : GlobalOpen L a ids) {r : ResourceType} {i : Uint128} (hi : ids r = some i) :
    L.account? i = some (globalAccount (r, a) i) := by
  obtain ⟨j, hj, ha⟩ := ho r
  cases hi.symm.trans hj
  exact ha

/-- The accounts a provisioning workflow knows of are open. -/
structure KnowsAccounts (L : Books) (p : Provisioning) : Prop where
  operators : GlobalOpen L .operator p.input.globalOperatorIDs
  sinks : GlobalOpen L .sink p.input.globalSinkIDs
  early : p.phase.early = true → p.accountIDs = Table.empty
  created : ∀ run ids, p.phase = .creatingAccounts run → run.outcome = some (.ok ids) →
    QuotaOpen L p.input.tenantUUID ids
  late : p.phase.late = true → QuotaOpen L p.input.tenantUUID p.accountIDs
  quota : ∀ r i, p.accountIDs r = some i →
    L.account? i = some (quotaAccount p.input.tenantUUID r i)

/-- The same workflow later: its parameter stays, and so do the accounts it knows. -/
structure Extends (p p' : Provisioning) : Prop where
  input : p'.input = p.input
  ids : ∀ r i, p.accountIDs r = some i → p'.accountIDs r = some i

theorem Extends.refl (p : Provisioning) : Extends p p := ⟨rfl, fun _ _ hi => hi⟩

namespace KnowsAccounts

variable {L L' : Books} {p p' : Provisioning}

theorem grows (hk : KnowsAccounts L p) (hg : L.Grows L') : KnowsAccounts L' p where
  operators := hk.operators.grows hg
  sinks := hk.sinks.grows hg
  early := hk.early
  created := fun run ids hp ho => (hk.created run ids hp ho).grows hg
  late := fun hl => (hk.late hl).grows hg
  quota := fun r i hi => hg.account? (hk.quota r i hi)

/-- The workflow moves to another phase, with the accounts as they are. -/
theorem phase (hk : KnowsAccounts L p) (next : ProvisioningPhase)
    (hearly : next.early = true → p.phase.early = true) (hlate : next.late = true → p.phase.late = true)
    (hnew : ∀ run ids, next = .creatingAccounts run → run.outcome ≠ some (.ok ids)) :
    KnowsAccounts L { p with phase := next } where
  operators := hk.operators
  sinks := hk.sinks
  early := fun he => hk.early (hearly he)
  created := fun run ids hp ho => absurd ho (hnew run ids hp)
  late := fun hl => hk.late (hlate hl)
  quota := hk.quota

theorem failed (hk : KnowsAccounts L p) (err : ActivityError) :
    KnowsAccounts L { p with phase := .failed err } :=
  hk.phase (.failed err) (by simp [ProvisioningPhase.early]) (by simp [ProvisioningPhase.late])
    (by simp)

theorem proceed (hk : KnowsAccounts L p) (next : ProvisioningPhase)
    (reply : Except ActivityError Unit)
    (hearly : next.early = true → p.phase.early = true) (hlate : next.late = true → p.phase.late = true)
    (hnew : ∀ run ids, next = .creatingAccounts run → run.outcome ≠ some (.ok ids)) :
    KnowsAccounts L (p.proceed next reply) := by
  cases reply with
  | ok u => exact hk.phase next hearly hlate hnew
  | error err => exact hk.failed err

theorem proceed_extends (next : ProvisioningPhase) (reply : Except ActivityError Unit) :
    Extends p (p.proceed next reply) := by
  cases reply <;> exact ⟨rfl, fun _ _ hi => hi⟩

theorem rowAttempt (hk : KnowsAccounts L p) {reply : Except ActivityError Unit}
    (hs : p.rowAttempt reply = some p') : KnowsAccounts L p' ∧ Extends p p' := by
  unfold Provisioning.rowAttempt at hs
  split at hs
  · rename_i run hp
    obtain ⟨run', -, rfl⟩ := Option.map_eq_some_iff.mp hs
    exact ⟨hk.phase _ (fun _ => by rw [hp]; rfl) (by simp [ProvisioningPhase.late]) (by simp),
      rfl, fun _ _ hi => hi⟩
  · rename_i run hp
    obtain ⟨run', -, rfl⟩ := Option.map_eq_some_iff.mp hs
    exact ⟨hk.phase _ (by simp [ProvisioningPhase.early]) (fun _ => by rw [hp]; rfl) (by simp),
      rfl, fun _ _ hi => hi⟩
  · cases hs

theorem allocationAttempt (hk : KnowsAccounts L p) {reached : Bool}
    {reply : Except ActivityError Unit} (hs : p.allocationAttempt reached reply = some p') :
    KnowsAccounts L p' ∧ Extends p p' := by
  unfold Provisioning.allocationAttempt at hs
  split at hs
  · rename_i run hp
    obtain ⟨run', -, rfl⟩ := Option.map_eq_some_iff.mp hs
    exact ⟨hk.phase _ (by simp [ProvisioningPhase.early]) (fun _ => by rw [hp]; rfl) (by simp),
      rfl, fun _ _ hi => hi⟩
  · cases hs

theorem accountsAttempt (hk : KnowsAccounts L p) {reached : Bool}
    {reply : Except ActivityError (Table ResourceType Uint128)}
    (hs : p.accountsAttempt reached reply = some p')
    (hreply : ∀ ids, reply = .ok ids → QuotaOpen L p.input.tenantUUID ids) :
    KnowsAccounts L p' ∧ Extends p p' := by
  unfold Provisioning.accountsAttempt at hs
  split at hs
  · rename_i run hp
    obtain ⟨run', hrun, rfl⟩ := Option.map_eq_some_iff.mp hs
    obtain ⟨-, rfl⟩ := ActivityRun.attempt_some hrun
    refine ⟨⟨hk.operators, hk.sinks, fun _ => hk.early (by rw [hp]; rfl), ?_,
      by simp [ProvisioningPhase.late], hk.quota⟩, rfl, fun _ _ hi => hi⟩
    intro run'' ids hphase ho
    cases hphase
    exact hreply ids (ActivityRun.decided_ok ho)
  · cases hs

theorem deliver (hk : KnowsAccounts L p) (hs : p.deliver = some p') :
    KnowsAccounts L p' ∧ Extends p p' := by
  unfold Provisioning.deliver at hs
  split at hs
  · rename_i run hp
    obtain ⟨reply, -, rfl⟩ := Option.map_eq_some_iff.mp hs
    refine ⟨hk.proceed _ reply (fun _ => by rw [hp]; rfl) (by simp [ProvisioningPhase.late]) ?_,
      proceed_extends _ reply⟩
    rintro run' ids ⟨⟩
    simp
  · rename_i run hp
    obtain ⟨reply, hout, rfl⟩ := Option.map_eq_some_iff.mp hs
    cases reply with
    | error err => exact ⟨hk.failed err, rfl, fun _ _ hi => hi⟩
    | ok ids =>
      have hopen := hk.created run ids hp hout
      refine ⟨⟨hk.operators, hk.sinks, by simp [ProvisioningPhase.early], by simp, fun _ => hopen,
        fun r i hi => ?_⟩, rfl, fun r i hi => ?_⟩
      · obtain ⟨j, hj, ha⟩ := hopen r
        cases hj.symm.trans hi
        exact ha
      · rw [hk.early (by rw [hp]; rfl)] at hi
        cases hi
  · rename_i run hp
    obtain ⟨reply, -, rfl⟩ := Option.map_eq_some_iff.mp hs
    exact ⟨hk.proceed _ reply (by simp [ProvisioningPhase.early]) (fun _ => by rw [hp]; rfl) (by simp),
      proceed_extends _ reply⟩
  · rename_i run hp
    obtain ⟨reply, -, rfl⟩ := Option.map_eq_some_iff.mp hs
    exact ⟨hk.proceed _ reply (by simp [ProvisioningPhase.early]) (fun _ => by rw [hp]; rfl) (by simp),
      proceed_extends _ reply⟩
  · cases hs

theorem accountingStarted (hk : KnowsAccounts L p) {reply : Except ActivityError Unit}
    (hs : p.accountingStarted reply = some p') :
    KnowsAccounts L p' ∧ Extends p p' ∧ p'.accountingInput = p.accountingInput ∧
      (reply.toBool = true → p'.phase = .completed) := by
  unfold Provisioning.accountingStarted at hs
  split at hs
  · rename_i hp
    cases hs
    refine ⟨hk.proceed _ reply (by simp [ProvisioningPhase.early]) (fun _ => by rw [hp]; rfl)
      (by simp), proceed_extends _ reply, ?_⟩
    cases reply with
    | ok u => exact ⟨rfl, fun _ => rfl⟩
    | error err => exact ⟨rfl, fun hok => by cases hok⟩
  · cases hs

end KnowsAccounts

theorem completed_ends {p : Provisioning} (hp : p.phase = .completed) :
    (∀ reply, p.rowAttempt reply = none) ∧ (∀ reached reply, p.accountsAttempt reached reply = none) ∧
      (∀ reached reply, p.allocationAttempt reached reply = none) ∧ p.deliver = none ∧
      ∀ reply, p.accountingStarted reply = none := by
  simp [Provisioning.rowAttempt, Provisioning.accountsAttempt, Provisioning.allocationAttempt,
    Provisioning.deliver, Provisioning.accountingStarted, hp]

end CloudCredit.System
