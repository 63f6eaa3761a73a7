import CloudCredit.System.Acts

/-!
# The system with its database

PostgreSQL holds the tenants, the accounts of each tenant and the last balances
that were read. An activity on it executes one statement after the other: it may
stop between two of them, and what it did may not be reported. Every step of the
system with its database is a step of the system, with the replies of these
activities decided by the tables.
-/
namespace CloudCredit.System

open Library TigerBeetle Domain Ledger Accounting

/-- One attempt of an activity on the database: how many of its statements are
executed, whether it is reported, and the order in which it walks over its map. -/
structure RowsAttempt where
  executed : ℕ := 3
  reported : Bool := true
  resources : IterationOrder ResourceType := .listed ResourceType

namespace RowsAttempt

variable (att : RowsAttempt)

/-- The rows to be written for the entries of a map. -/
def rows {ν : Type} (tenantID : Uint128) (m : Table ResourceType ν) :
    List ((Uint128 × ResourceType) × ν) :=
  (att.resources.order allResources).filterMap fun r => (m r).map fun v => ((tenantID, r), v)

/-- An activity that stops before its last statement fails. -/
def result (statements : ℕ) : Except ActivityError Unit :=
  if att.executed < statements then .error (.postgres "connection closed") else .ok ()

end RowsAttempt

def knownTier (tier : String) : Bool :=
  tier = "free" || tier = "starter" || tier = "pro" || tier = "enterprise"

/-- The tables the workflows write to: `tenants` with the column `deleted_at`, the quota
accounts in `tb_account_ids`, and `quota_snapshots`. -/
structure Database where
  tenants : List Uint128 := []
  deletedAt : Table Uint128 ℕ := Table.empty
  tbAccountIDs : Table (Uint128 × ResourceType) Uint128 := Table.empty
  quotaSnapshots : Table (Uint128 × ResourceType) QuotaSnapshotData := Table.empty

namespace Database

variable (db : Database) (att : RowsAttempt) (tenantID : Uint128)

/-- The table has one of four tiers for a tenant, and the key of a tenant is unique. -/
def insertTenant (billingTier : String) : Except ActivityError Unit × Database :=
  if att.executed = 0 then (.error (.postgres "connection closed"), db)
  else if knownTier billingTier = false then (.error (.postgres "check constraint"), db)
  else if tenantID ∈ db.tenants then (.error (.postgres "duplicate key"), db)
  else (.ok (), { db with tenants := tenantID :: db.tenants })

/-- A row that is there already is left alone. -/
def insertTBAccountMapping (accountMap : Table ResourceType Uint128) :
    Except ActivityError Unit × Database :=
  let rows := att.rows tenantID accountMap
  (att.result rows.length,
    { db with tbAccountIDs := db.tbAccountIDs.insertAll (rows.take att.executed) })

/-- A row that is there already is overwritten. -/
def updateQuotaSnapshots (snapshots : Balances) : Except ActivityError Unit × Database :=
  let rows := att.rows tenantID snapshots
  (att.result rows.length,
    { db with quotaSnapshots := db.quotaSnapshots.setAll (rows.take att.executed) })

end Database

structure Stored where
  state : State := .initial
  db : Database := {}

inductive StoredEvent
  | insertTenant (tenantID : Uint128) (att : RowsAttempt)
  | insertTBAccountMapping (tenantID : Uint128) (att : RowsAttempt)
  | updateQuotaSnapshots (tenantID : Uint128) (att : RowsAttempt)
  | refreshQuotaSnapshots (tenantID : Uint128) (i : ℕ) (att : RowsAttempt)
  | system (ev : SystemEvent)

namespace Stored

variable (h : Blake3) (tb : Service) (S : Stored)

/-- The balances the main loop of a tenant is writing. -/
def snapshotting (u : Uint128) : Option Balances :=
  ((S.state.tenants u).bind (·.accounting)).bind fun e =>
    match e.main with
    | .snapshotting _ balances _ => some balances
    | _ => none

/-- The balances a handler of a tenant is writing. -/
def refreshing (u : Uint128) (i : ℕ) : Option Balances :=
  ((S.state.tenants u).bind (·.accounting)).bind fun e => e.refreshing[i]?.bind fun f =>
    match f.phase with
    | .snapshotting balances _ => some balances
    | _ => none

/-- The event is an attempt of an activity on the tables. -/
def writesRows : SystemEvent → Bool
  | .tenant _ (.rowAttempt _) => true
  | .tenant u (.workflow (.attempt _ (.done _))) => (S.snapshotting u).isSome
  | .tenant u (.workflow (.refreshAttempt i (.done _))) => (S.refreshing u i).isSome
  | _ => false

/-- A step of the system with what the attempt left in the tables. -/
def advance (ev : SystemEvent) (db : Database) : Option Stored :=
  (S.state.step h tb ev).map fun s => ⟨s, db⟩

def step : StoredEvent → Option Stored
  | .insertTenant u att => (S.state.tenants u).bind fun t =>
    match t.provisioning.phase with
    | .insertingTenant _ =>
      let out := S.db.insertTenant att u t.provisioning.input.billingTier
      S.advance h tb (.tenant u (.rowAttempt (heard att.reported out.1))) out.2
    | _ => none
  | .insertTBAccountMapping u att => (S.state.tenants u).bind fun t =>
    match t.provisioning.phase with
    | .insertingMapping _ =>
      let out := S.db.insertTBAccountMapping att u t.provisioning.accountIDs
      S.advance h tb (.tenant u (.rowAttempt (heard att.reported out.1))) out.2
    | _ => none
  | .updateQuotaSnapshots u att => (S.snapshotting u).bind fun balances =>
      let out := S.db.updateQuotaSnapshots att u balances
      S.advance h tb (.tenant u (.workflow (.attempt false (.done (heard att.reported out.1))))) out.2
  | .refreshQuotaSnapshots u i att => (S.refreshing u i).bind fun balances =>
      let out := S.db.updateQuotaSnapshots att u balances
      S.advance h tb (.tenant u (.workflow (.refreshAttempt i (.done (heard att.reported out.1)))))
        out.2
  | .system ev => if S.writesRows ev then none else S.advance h tb ev S.db

variable {h tb S} {S' : Stored} {ev : StoredEvent}

/-- What a step does to the state and to the tables. -/
inductive Writes (h : Blake3) (tb : Service) (S : Stored) : StoredEvent → Stored → Prop
  | tenant {u : Uint128} {att : RowsAttempt} {t : Tenant} {run : Run Unit} {s' : State}
      (hu : S.state.tenants u = some t) (hphase : t.provisioning.phase = .insertingTenant run)
      (hstep : S.state.step h tb (.tenant u (.rowAttempt (heard att.reported
        (S.db.insertTenant att u t.provisioning.input.billingTier).1))) = some s') :
      Writes h tb S (.insertTenant u att)
        ⟨s', (S.db.insertTenant att u t.provisioning.input.billingTier).2⟩
  | mapping {u : Uint128} {att : RowsAttempt} {t : Tenant} {run : Run Unit} {s' : State}
      (hu : S.state.tenants u = some t) (hphase : t.provisioning.phase = .insertingMapping run)
      (hstep : S.state.step h tb (.tenant u (.rowAttempt (heard att.reported
        (S.db.insertTBAccountMapping att u t.provisioning.accountIDs).1))) = some s') :
      Writes h tb S (.insertTBAccountMapping u att)
        ⟨s', (S.db.insertTBAccountMapping att u t.provisioning.accountIDs).2⟩
  | snapshots {u : Uint128} {att : RowsAttempt} {balances : Balances} {s' : State}
      (hb : S.snapshotting u = some balances)
      (hstep : S.state.step h tb (.tenant u (.workflow (.attempt false (.done (heard att.reported
        (S.db.updateQuotaSnapshots att u balances).1))))) = some s') :
      Writes h tb S (.updateQuotaSnapshots u att)
        ⟨s', (S.db.updateQuotaSnapshots att u balances).2⟩
  | refresh {u : Uint128} {i : ℕ} {att : RowsAttempt} {balances : Balances} {s' : State}
      (hb : S.refreshing u i = some balances)
      (hstep : S.state.step h tb (.tenant u (.workflow (.refreshAttempt i (.done (heard att.reported
        (S.db.updateQuotaSnapshots att u balances).1))))) = some s') :
      Writes h tb S (.refreshQuotaSnapshots u i att)
        ⟨s', (S.db.updateQuotaSnapshots att u balances).2⟩
  | system {ev : SystemEvent} {s' : State} (hrows : S.writesRows ev = false)
      (hstep : S.state.step h tb ev = some s') : Writes h tb S (.system ev) ⟨s', S.db⟩

theorem step_writes (hs : S.step h tb ev = some S') : Writes h tb S ev S' := by
  cases ev with
  | insertTenant u att =>
    obtain ⟨t, hu, hs⟩ := Option.bind_eq_some_iff.mp hs
    split at hs
    · rename_i run hphase
      obtain ⟨s', hstep, rfl⟩ := Option.map_eq_some_iff.mp hs
      exact .tenant hu hphase hstep
    · cases hs
  | insertTBAccountMapping u att =>
    obtain ⟨t, hu, hs⟩ := Option.bind_eq_some_iff.mp hs
    split at hs
    · rename_i run hphase
      obtain ⟨s', hstep, rfl⟩ := Option.map_eq_some_iff.mp hs
      exact .mapping hu hphase hstep
    · cases hs
  | updateQuotaSnapshots u att =>
    obtain ⟨balances, hb, hs⟩ := Option.bind_eq_some_iff.mp hs
    obtain ⟨s', hstep, rfl⟩ := Option.map_eq_some_iff.mp hs
    exact .snapshots hb hstep
  | refreshQuotaSnapshots u i att =>
    obtain ⟨balances, hb, hs⟩ := Option.bind_eq_some_iff.mp hs
    obtain ⟨s', hstep, rfl⟩ := Option.map_eq_some_iff.mp hs
    exact .refresh hb hstep
  | system ev =>
    simp only [step] at hs
    split_ifs at hs with hrows
    obtain ⟨s', hstep, rfl⟩ := Option.map_eq_some_iff.mp hs
    exact .system (by simpa using hrows) hstep

/-- A step with the database is a step of the system. -/
theorem Writes.state (hw : Writes h tb S ev S') : ∃ ev', S.state.step h tb ev' = some S'.state := by
  cases hw with
  | tenant _ _ hstep => exact ⟨_, hstep⟩
  | mapping _ _ hstep => exact ⟨_, hstep⟩
  | snapshots _ hstep => exact ⟨_, hstep⟩
  | refresh _ hstep => exact ⟨_, hstep⟩
  | system _ hstep => exact ⟨_, hstep⟩

/-- A run with the database is a run of the system. -/
theorem run_state {es : List StoredEvent} (hr : runSteps (step h tb) S es = some S') :
    ∃ es', runSteps (State.step h tb) S.state es' = some S'.state := by
  induction es generalizing S with
  | nil =>
    cases hr
    exact ⟨[], rfl⟩
  | cons ev es ih =>
    obtain ⟨M, hM, hr⟩ := runSteps_cons (step h tb) hr
    obtain ⟨ev', hev'⟩ := (step_writes hM).state
    obtain ⟨es', hes'⟩ := ih hr
    exact ⟨ev' :: es', by simp [runSteps, hev', hes']⟩

end Stored

/-- The server starts, and a tenant with the given credits is provisioned. -/
def storedProvisioning (cpu nodes : Int64) : List StoredEvent :=
  [.system (.startServer .answered (sampleRandom 50)), .system (.registerTenant sampleTenant
      { billingTier := "free", cpuHoursCredits := cpu, activeNodesLimit := nodes } 1000),
    .insertTenant sampleTenant {}, .system (.tenant sampleTenant .deliverProvisioning),
    .system (.tenant sampleTenant (.createAccounts { rand := sampleRandom 100 } true)),
    .system (.tenant sampleTenant .deliverProvisioning),
    .insertTBAccountMapping sampleTenant {}, .system (.tenant sampleTenant .deliverProvisioning),
    .system (.tenant sampleTenant (.allocate {} true)),
    .system (.tenant sampleTenant .deliverProvisioning),
    .system (.tenant sampleTenant (.startAccounting (.ok ())))]

end CloudCredit.System
