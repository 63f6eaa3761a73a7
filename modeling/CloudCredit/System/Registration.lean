import CloudCredit.Gateway.ClusterIDs
import CloudCredit.System.Database

/-!
# Registering clusters

A registration draws the identifier of its cluster and runs a workflow of its own:
insert the row, then signal the tenant's accounting workflow. The row is inserted by
a plain statement, so its key must be new; the table also wants a known tenant and
one of three providers. The signal goes to a workflow by name, so the tenant must be
spelled as it was when its accounting started.
-/
namespace CloudCredit.System

open Library TigerBeetle Domain Ledger Accounting Gateway

structure RegisterClusterRequest where
  tenantId : String
  cloudProvider : String
  region : String

structure RegisterClusterWorkflowInput where
  clusterID : String
  tenantID : String
  cloudProvider : String
  region : String

/-- The workflow parameter for a registration under the given identifier. -/
def registerCluster (clusterID : Uint128) (req : RegisterClusterRequest) :
    RegisterClusterWorkflowInput :=
  ⟨uuidString clusterID, req.tenantId, req.cloudProvider, req.region⟩

inductive RegistrationError
  | insertCluster (cause : ActivityError)
  | signal (cause : String)
  deriving DecidableEq

/-- Where the registration workflow is blocked, or how it ended. -/
inductive RegistrationPhase
  | insertingCluster (run : Run Unit)
  | signalling
  | completed
  | failed (error : RegistrationError)

structure Registration where
  input : RegisterClusterWorkflowInput
  phase : RegistrationPhase := .insertingCluster {}

inductive ClusterStatus
  | healthy
  | degraded
  | unreachable
  | suspended
  | deregistered
  deriving DecidableEq

/-- A row of `workload_clusters`, with the defaults of the table. -/
structure ClusterRow where
  tenantID : Uint128
  cloudProvider : String
  region : String
  status : ClusterStatus := .healthy
  lastHeartbeat : Option ℕ := none
  deregisteredAt : Option ℕ := none
  deriving DecidableEq

/-- A row as it is inserted. -/
def ClusterRow.inserted (tenantID : Uint128) (cloudProvider region : String) : ClusterRow :=
  { tenantID, cloudProvider, region }

def knownProvider (provider : String) : Bool :=
  provider = "aws" || provider = "gcp" || provider = "azure"

/-- Insert a row, given the rows that are there and the tenants they may refer to. -/
def insertCluster (att : RowsAttempt) (tenants : List Uint128) (rows : Table Uint128 ClusterRow)
    (input : RegisterClusterWorkflowInput) : Except ActivityError Unit × Table Uint128 ClusterRow :=
  match parseUUID input.clusterID, parseUUID input.tenantID with
  | none, _ => (.error (.postgres "parse cluster UUID"), rows)
  | some _, none => (.error (.postgres "parse tenant UUID"), rows)
  | some clusterUUID, some tenantUUID =>
    if att.executed = 0 then (.error (.postgres "connection closed"), rows)
    else if knownProvider input.cloudProvider = false then
      (.error (.postgres "check constraint"), rows)
    else if (rows clusterUUID).isSome then (.error (.postgres "duplicate key"), rows)
    else if tenantUUID ∉ tenants then (.error (.postgres "foreign key constraint"), rows)
    else (.ok (), rows.set clusterUUID (.inserted tenantUUID input.cloudProvider input.region))

/-- The system with its database and its registrations, by their clusters. -/
structure Platform where
  stored : Stored := {}
  clusters : Table Uint128 ClusterRow := Table.empty
  registrations : Table Uint128 Registration := Table.empty

inductive PlatformEvent
  | stored (ev : StoredEvent)
  | registerCluster (clusterID : Uint128) (req : RegisterClusterRequest)
  | insertCluster (clusterID : Uint128) (att : RowsAttempt)
  | deliverRegistration (clusterID : Uint128)
  | signalAccounting (clusterID : Uint128)

namespace Platform

variable (h : Blake3) (tb : Service) (P : Platform)

def setPhase (clusterID : Uint128) (w : Registration) (phase : RegistrationPhase) : Platform :=
  { P with registrations := P.registrations.set clusterID { w with phase := phase } }

/-- The tenant whose accounting workflow has the name the signal is sent to. -/
def signalTarget (tenantID : String) : Option Uint128 :=
  (parseUUID tenantID).filter fun u =>
    uuidString u = tenantID && ((P.stored.state.tenants u).bind (·.accounting)).isSome

def step : PlatformEvent → Option Platform
  | .stored ev => (P.stored.step h tb ev).map fun S => { P with stored := S }
  | .registerCluster clusterID req =>
    match P.registrations clusterID with
    | some _ => none
    | none => some { P with
        registrations := P.registrations.set clusterID
          { input := System.registerCluster clusterID req } }
  | .insertCluster clusterID att => (P.registrations clusterID).bind fun w =>
    match w.phase with
    | .insertingCluster run =>
      let out := System.insertCluster att P.stored.db.tenants P.clusters w.input
      (run.attempt maximumAttempts false (heard att.reported out.1)).map fun run =>
        { P with clusters := out.2 }.setPhase clusterID w (.insertingCluster run)
    | _ => none
  | .deliverRegistration clusterID => (P.registrations clusterID).bind fun w =>
    match w.phase with
    | .insertingCluster run => run.outcome.map fun
        | .ok _ => P.setPhase clusterID w .signalling
        | .error error => P.setPhase clusterID w (.failed (.insertCluster error))
    | _ => none
  | .signalAccounting clusterID => (P.registrations clusterID).bind fun w =>
    match w.phase with
    | .signalling =>
      match P.signalTarget w.input.tenantID with
      | none => some (P.setPhase clusterID w (.failed (.signal "workflow not found")))
      | some u =>
        (P.stored.step h tb (.system (.tenant u (.workflow (.register ⟨w.input.clusterID⟩))))).map
          fun S => { P with stored := S }.setPhase clusterID w .completed
    | _ => none

variable {h tb P} {P' : Platform} {ev : PlatformEvent}

/-- What a step does to the registrations and to the system behind them. -/
inductive Registers (h : Blake3) (tb : Service) (P : Platform) : PlatformEvent → Platform → Prop
  | stored {ev : StoredEvent} {S : Stored} (hstep : P.stored.step h tb ev = some S) :
      Registers h tb P (.stored ev) { P with stored := S }
  | started {c : Uint128} {req : RegisterClusterRequest} (hnone : P.registrations c = none) :
      Registers h tb P (.registerCluster c req) { P with
        registrations := P.registrations.set c { input := System.registerCluster c req } }
  | inserting {c : Uint128} {att : RowsAttempt} {w : Registration} {run run' : Run Unit}
      (hw : P.registrations c = some w) (hphase : w.phase = .insertingCluster run)
      (hrun : run.attempt maximumAttempts false (heard att.reported
        (System.insertCluster att P.stored.db.tenants P.clusters w.input).1) = some run') :
      Registers h tb P (.insertCluster c att) ({ P with
        clusters := (System.insertCluster att P.stored.db.tenants P.clusters w.input).2 }.setPhase c w
          (.insertingCluster run'))
  | inserted {c : Uint128} {w : Registration} {run : Run Unit} (hw : P.registrations c = some w)
      (hphase : w.phase = .insertingCluster run) (hout : run.outcome = some (.ok ())) :
      Registers h tb P (.deliverRegistration c) (P.setPhase c w .signalling)
  | fails {c : Uint128} {w : Registration} {run : Run Unit} {err : ActivityError}
      (hw : P.registrations c = some w) (hphase : w.phase = .insertingCluster run)
      (hout : run.outcome = some (.error err)) :
      Registers h tb P (.deliverRegistration c)
        (P.setPhase c w (.failed (.insertCluster err)))
  | signalled {c u : Uint128} {w : Registration} {S : Stored} (hw : P.registrations c = some w)
      (hphase : w.phase = .signalling) (htarget : P.signalTarget w.input.tenantID = some u)
      (hstep : P.stored.step h tb
        (.system (.tenant u (.workflow (.register ⟨w.input.clusterID⟩)))) = some S) :
      Registers h tb P (.signalAccounting c) ({ P with stored := S }.setPhase c w .completed)
  | missed {c : Uint128} {w : Registration} {cause : String} (hw : P.registrations c = some w)
      (hphase : w.phase = .signalling) (htarget : P.signalTarget w.input.tenantID = none) :
      Registers h tb P (.signalAccounting c) (P.setPhase c w (.failed (.signal cause)))

theorem step_registers (hs : P.step h tb ev = some P') : Registers h tb P ev P' := by
  cases ev with
  | stored ev =>
    obtain ⟨S, hstep, rfl⟩ := Option.map_eq_some_iff.mp hs
    exact .stored hstep
  | registerCluster c req =>
    simp only [step] at hs
    split at hs
    · cases hs
    · rename_i hnone
      cases hs
      exact .started hnone
  | insertCluster c att =>
    obtain ⟨w, hw, hs⟩ := Option.bind_eq_some_iff.mp hs
    split at hs
    · rename_i run hphase
      obtain ⟨run', hrun, rfl⟩ := Option.map_eq_some_iff.mp hs
      exact .inserting hw hphase hrun
    · cases hs
  | deliverRegistration c =>
    obtain ⟨w, hw, hs⟩ := Option.bind_eq_some_iff.mp hs
    split at hs
    · rename_i run hphase
      obtain ⟨outcome, hout, rfl⟩ := Option.map_eq_some_iff.mp hs
      cases outcome with
      | ok v => exact .inserted hw hphase hout
      | error err => exact .fails hw hphase hout
    · cases hs
  | signalAccounting c =>
    obtain ⟨w, hw, hs⟩ := Option.bind_eq_some_iff.mp hs
    split at hs
    · rename_i hphase
      split at hs
      · rename_i htarget
        cases hs
        exact .missed hw hphase htarget
      · rename_i u htarget
        obtain ⟨S, hstep, rfl⟩ := Option.map_eq_some_iff.mp hs
        exact .signalled hw hphase htarget hstep
    · cases hs

theorem Registers.stored_step (hr : Registers h tb P ev P') :
    P'.stored = P.stored ∨ ∃ ev', P.stored.step h tb ev' = some P'.stored := by
  cases hr with
  | stored hstep => exact .inr ⟨_, hstep⟩
  | signalled hw hphase htarget hstep => exact .inr ⟨_, hstep⟩
  | _ => exact .inl rfl

/-- A run is a run of the system with its database. -/
theorem run_stored {es : List PlatformEvent} (hr : runSteps (step h tb) P es = some P') :
    ∃ es', runSteps (Stored.step h tb) P.stored es' = some P'.stored := by
  induction es generalizing P with
  | nil =>
    cases hr
    exact ⟨[], rfl⟩
  | cons ev es ih =>
    obtain ⟨M, hM, hr⟩ := runSteps_cons (step h tb) hr
    obtain ⟨es', hes'⟩ := ih hr
    rcases (step_registers hM).stored_step with hsame | ⟨ev', hev'⟩
    · exact ⟨es', by rw [← hsame]; exact hes'⟩
    · exact ⟨ev' :: es', by simp [runSteps, hev', hes']⟩

/-- A registration keeps the input it was started with. -/
def Named (P : Platform) : Prop :=
  ∀ c w, P.registrations c = some w → ∃ req, w.input = System.registerCluster c req

theorem step_named (hn : P.Named) (hs : P.step h tb ev = some P') : P'.Named := by
  have hset : ∀ (Q : Platform) c w phase, Q.registrations = P.registrations →
      P.registrations c = some w → (Q.setPhase c w phase).Named := by
    intro Q c w phase hQ hw d w' hw'
    simp only [setPhase, hQ] at hw'
    rcases Table.set_eq_some.mp hw' with ⟨rfl, rfl⟩ | ⟨-, hw'⟩
    · exact hn _ w hw
    · exact hn d w' hw'
  cases step_registers hs with
  | stored hstep => exact hn
  | started hnone =>
    intro d w hw
    rcases Table.set_eq_some.mp hw with ⟨rfl, rfl⟩ | ⟨-, hw⟩
    · exact ⟨_, rfl⟩
    · exact hn d w hw
  | inserting hw => exact hset _ _ _ _ rfl hw
  | inserted hw => exact hset _ _ _ _ rfl hw
  | fails hw => exact hset _ _ _ _ rfl hw
  | signalled hw => exact hset _ _ _ _ rfl hw
  | missed hw => exact hset _ _ _ _ rfl hw

theorem run_named {es : List PlatformEvent} (hr : runSteps (step h tb) {} es = some P) : P.Named :=
  invariant_of_steps (step h tb) (fun _ _ _ hn hs => step_named hn hs)
    (fun _ _ hw => by cases hw) hr

end Platform
end CloudCredit.System
