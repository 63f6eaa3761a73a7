import CloudCredit.System.Charges
import CloudCredit.System.LostReplies

/-!
# The gateways in front of the platform

A gateway finds the tenant of a cluster in its cache or in the table of clusters, and
signals the tenant's accounting workflow by name. There may be several gateways, each
with a cache of its own, and each may be restarted. The network may fail any read of
the table, cancel a call, or lose the signal or its reply. Heartbeats reach a workflow
through a gateway only; which requests a gateway lets through is left open.
-/
namespace CloudCredit.System

open Library TigerBeetle Domain Ledger Accounting Gateway

/-- What the network does to the calls behind one request: the errors of the attempts
to read a row, cancellations, and how the signal fares. -/
structure Network where
  reads : ℕ → Option String := fun _ => none
  cancelled : ℕ → Option String := fun _ => none
  signal : Fate := .answered

/-- One attempt to read the tenant of a cluster. -/
def Platform.getCluster (P : Platform) (net : Network) (clusterID : String) (attempt : ℕ) :
    Except LookupError String :=
  match net.reads attempt with
  | some err => .error (.failed err)
  | none =>
    match (parseUUID clusterID).bind P.clusters with
    | some row => .ok (uuidString row.tenantID)
    | none => .error .noRows

def PlatformEvent.isHeartbeat : PlatformEvent → Bool
  | .stored (.system (.tenant _ (.workflow (.heartbeat _)))) => true
  | _ => false

structure Deployment where
  platform : Platform := {}
  gateways : ℕ → Signals := fun _ => {}

/-- `resolve` is the lookup behind a query; a restarted gateway has an empty cache. -/
inductive DeploymentEvent
  | platform (ev : PlatformEvent)
  | heartbeat (i : ℕ) (net : Network) (req : HeartbeatRequest)
  | resolve (i : ℕ) (net : Network) (clusterID : String)
  | restart (i : ℕ)

namespace Deployment

variable (h : Blake3) (tb : Service) (D : Deployment)

/-- The tenant a gateway finds for a cluster, and its cache afterwards. -/
def resolved (i : ℕ) (net : Network) (clusterID : String) :
    Except String String × Table String String :=
  resolveTenantID (D.gateways i).clusterToTenant
    { getCluster := D.platform.getCluster net clusterID, cancelled := net.cancelled } clusterID

/-- The tenant whose workflow a gateway's signal goes to. -/
def target (i : ℕ) (net : Network) (clusterID : String) : Option Uint128 :=
  (D.resolved i net clusterID).1.toOption.bind D.platform.signalTarget

/-- What the services answer to one request. There may be no workflow to signal. -/
def replies (i : ℕ) (net : Network) (clusterID : String) : ServiceReplies where
  getCluster := D.platform.getCluster net clusterID
  cancelled := net.cancelled
  signalWorkflow :=
    if (D.target i net clusterID).isSome then net.signal else .lostRequest "workflow not found"

/-- What the gateway returns for a heartbeat, and the gateway afterwards. -/
def signalled (i : ℕ) (net : Network) (req : HeartbeatRequest) : Except String Unit × Signals :=
  (D.gateways i).signalHeartbeat (D.replies i net req.clusterId) req

def setGateway (i : ℕ) (g : Signals) : Deployment :=
  { D with gateways := Function.update D.gateways i g }

def step : DeploymentEvent → Option Deployment
  | .platform ev =>
    if ev.isHeartbeat then none
    else (D.platform.step h tb ev).map fun P => { D with platform := P }
  | .heartbeat i net req =>
    let D' := D.setGateway i (D.signalled i net req).2
    match (D.target i net req.clusterId).filter fun _ => net.signal.reached with
    | none => some D'
    | some u =>
      (D.platform.step h tb
        (.stored (.system (.tenant u (.workflow (.heartbeat req.toSignal)))))).map fun P =>
          { D' with platform := P }
  | .resolve i net clusterID =>
    some (D.setGateway i { D.gateways i with
      clusterToTenant := (D.resolved i net clusterID).2 })
  | .restart i => some (D.setGateway i { D.gateways i with clusterToTenant := Table.empty })

variable {h tb D} {D' : Deployment} {ev : DeploymentEvent} {i : ℕ} {net : Network}

theorem lookupTenant_congr {w w' : ServiceReplies} (hget : w'.getCluster = w.getCluster)
    (hcancel : w'.cancelled = w.cancelled) (clusterID : String) (left : ℕ) (err : String) :
    lookupTenant w' clusterID err left = lookupTenant w clusterID err left := by
  induction left generalizing err with
  | zero => rfl
  | succ left ih => simp only [lookupTenant, hget, hcancel, ih]

theorem resolveTenantID_replies (clusterID : String) :
    resolveTenantID (D.gateways i).clusterToTenant (D.replies i net clusterID) clusterID =
      D.resolved i net clusterID := by
  have hlookup : lookupTenant (D.replies i net clusterID) clusterID "" maxAttempts = lookupTenant
      { getCluster := D.platform.getCluster net clusterID, cancelled := net.cancelled } clusterID ""
        maxAttempts :=
    lookupTenant_congr rfl rfl clusterID maxAttempts ""
  simp only [resolved, resolveTenantID, hlookup]
  rfl

theorem signalled_cache (req : HeartbeatRequest) :
    (D.signalled i net req).2.clusterToTenant = (D.resolved i net req.clusterId).2 := by
  unfold signalled Signals.signalHeartbeat
  rw [resolveTenantID_replies]
  generalize D.resolved i net req.clusterId = resolved
  obtain ⟨result, clusterToTenant⟩ := resolved
  cases result with
  | error err => rfl
  | ok tenantID => cases (D.replies i net req.clusterId).signalWorkflow <;> rfl

/-- A step of the platform other than a heartbeat, a heartbeat that reaches a workflow,
a lookup of a gateway, or a restart of one. -/
inductive Routes (h : Blake3) (tb : Service) (D : Deployment) : DeploymentEvent → Deployment → Prop
  | platform {ev : PlatformEvent} {P : Platform} (hother : ev.isHeartbeat = false)
      (hstep : D.platform.step h tb ev = some P) :
      Routes h tb D (.platform ev) { D with platform := P }
  | delivered {i : ℕ} {net : Network} {req : HeartbeatRequest} {g : Signals} {tenantID : String}
      {u : Uint128} {P : Platform} (hcache : g.clusterToTenant = (D.resolved i net req.clusterId).2)
      (hfound : (D.resolved i net req.clusterId).1 = .ok tenantID)
      (htarget : D.platform.signalTarget tenantID = some u)
      (hstep : D.platform.step h tb
        (.stored (.system (.tenant u (.workflow (.heartbeat req.toSignal))))) = some P) :
      Routes h tb D (.heartbeat i net req) { D.setGateway i g with platform := P }
  | looked {ev : DeploymentEvent} {i : ℕ} {net : Network} {clusterID : String} {g : Signals}
      (hcache : g.clusterToTenant = (D.resolved i net clusterID).2) :
      Routes h tb D ev (D.setGateway i g)
  | restarted {i : ℕ} {g : Signals} (hcache : g.clusterToTenant = Table.empty) :
      Routes h tb D (.restart i) (D.setGateway i g)

theorem step_routes (hs : D.step h tb ev = some D') : Routes h tb D ev D' := by
  cases ev with
  | platform ev =>
    simp only [step] at hs
    split_ifs at hs with hev
    obtain ⟨P, hstep, rfl⟩ := Option.map_eq_some_iff.mp hs
    exact .platform (by simpa using hev) hstep
  | heartbeat i net req =>
    simp only [step] at hs
    split at hs
    · cases hs
      exact .looked (signalled_cache req)
    · rename_i u hu
      obtain ⟨P, hstep, rfl⟩ := Option.map_eq_some_iff.mp hs
      obtain ⟨hu, -⟩ := Option.filter_eq_some_iff.mp hu
      obtain ⟨tenantID, hfound, htarget⟩ := Option.bind_eq_some_iff.mp hu
      have hok : (D.resolved i net req.clusterId).1 = .ok tenantID := by
        cases hresolved : (D.resolved i net req.clusterId).1 with
        | error err => simp [hresolved, Except.toOption] at hfound
        | ok v => simpa [hresolved, Except.toOption] using hfound
      exact .delivered (signalled_cache req) hok htarget hstep
  | resolve i net clusterID =>
    cases hs
    exact .looked rfl
  | restart i =>
    cases hs
    exact .restarted rfl

/-- A run is a run of the platform. -/
theorem run_platform {es : List DeploymentEvent} (hr : runSteps (step h tb) {} es = some D) :
    ∃ es', runSteps (Platform.step h tb) {} es' = some D.platform := by
  refine run_projects (step h tb) (Platform.step h tb) platform ?_ hr
  intro s ev t hs
  cases step_routes hs with
  | platform hother hstep => exact .inr ⟨_, hstep⟩
  | delivered hcache hfound htarget hstep => exact .inr ⟨_, hstep⟩
  | looked => exact .inl rfl
  | restarted => exact .inl rfl

theorem run_state {es : List DeploymentEvent} (hr : runSteps (step h tb) {} es = some D) :
    ∃ es', runSteps (State.step h tb) .initial es' = some D.platform.stored.state := by
  obtain ⟨es₁, hr₁⟩ := run_platform hr
  obtain ⟨es₂, hr₂⟩ := Platform.run_stored hr₁
  exact Stored.run_state hr₂

end Deployment

namespace Platform

variable {h : Blake3} {tb : Service} {P P' : Platform} {c : Uint128} {row : ClusterRow}
  {clusterID tenantID : String}

/-- The table of clusters names this tenant. -/
def Owns (P : Platform) (clusterID tenantID : String) : Prop :=
  ∃ c row, parseUUID clusterID = some c ∧ P.clusters c = some row ∧
    tenantID = uuidString row.tenantID

theorem insertCluster_keeps {att : RowsAttempt} {tenants : List Uint128}
    {rows : Table Uint128 ClusterRow} {input : RegisterClusterWorkflowInput}
    (hrow : rows c = some row) : (System.insertCluster att tenants rows input).2 c = some row := by
  unfold System.insertCluster
  split
  · exact hrow
  · exact hrow
  · split_ifs with _ _ hnew
    · exact hrow
    · exact hrow
    · exact hrow
    · exact Table.set_fresh (by simpa using hnew) hrow _
    · exact hrow

theorem step_keeps_row {ev : PlatformEvent} (hs : P.step h tb ev = some P')
    (hrow : P.clusters c = some row) : P'.clusters c = some row := by
  cases step_registers hs with
  | inserting => exact insertCluster_keeps hrow
  | _ => exact hrow

theorem step_keeps_owner {ev : PlatformEvent} (hs : P.step h tb ev = some P')
    (ho : P.Owns clusterID tenantID) : P'.Owns clusterID tenantID := by
  obtain ⟨c, row, hc, hrow, rfl⟩ := ho
  exact ⟨c, row, hc, step_keeps_row hs hrow, rfl⟩

theorem getCluster_ok {net : Network} {n : ℕ} (hg : P.getCluster net clusterID n = .ok tenantID) :
    P.Owns clusterID tenantID := by
  unfold getCluster at hg
  split at hg
  · cases hg
  · split at hg
    · rename_i row hrow
      cases hg
      obtain ⟨c, hc, hrow⟩ := Option.bind_eq_some_iff.mp hrow
      exact ⟨c, row, hc, hrow, rfl⟩
    · cases hg

end Platform

theorem lookupTenant_ok {w : ServiceReplies} {clusterID tenantID err : String} {left : ℕ}
    (hl : lookupTenant w clusterID err left = .ok tenantID) : ∃ n, w.getCluster n = .ok tenantID := by
  induction left generalizing err with
  | zero => cases hl
  | succ left ih =>
    simp only [lookupTenant] at hl
    split at hl
    · cases hl
    · split at hl
      · rename_i hget
        cases hl
        exact ⟨_, hget⟩
      · cases hl
      · exact ih hl

namespace Deployment

variable {h : Blake3} {tb : Service} {D D' : Deployment} {ev : DeploymentEvent} {i : ℕ}
  {net : Network} {clusterID tenantID : String}

/-- Whatever a gateway remembers is in the table. -/
def Coherent (D : Deployment) : Prop :=
  ∀ i clusterID tenantID, (D.gateways i).clusterToTenant clusterID = some tenantID →
    D.platform.Owns clusterID tenantID

/-- What a lookup returns, and all that is remembered after it, is in the table. -/
theorem Coherent.resolved (hD : D.Coherent) :
    (∀ tenantID, (D.resolved i net clusterID).1 = .ok tenantID →
      D.platform.Owns clusterID tenantID) ∧
    ∀ id tenantID, (D.resolved i net clusterID).2 id = some tenantID →
      D.platform.Owns id tenantID := by
  unfold Deployment.resolved resolveTenantID
  split
  · rename_i tenantID hcached
    refine ⟨fun t ht => ?_, hD i⟩
    cases ht
    exact hD i _ _ hcached
  · exact ⟨fun t ht => (by cases ht), hD i⟩
  · split
    · rename_i tenantID hlookup
      obtain ⟨n, hn⟩ := lookupTenant_ok hlookup
      have howner := Platform.getCluster_ok hn
      refine ⟨fun t ht => ?_, fun id t ht => ?_⟩
      · cases ht
        exact howner
      · rcases Table.set_eq_some.mp ht with ⟨rfl, rfl⟩ | ⟨-, ht⟩
        · exact howner
        · exact hD i id t ht
    · exact ⟨fun t ht => (by cases ht), hD i⟩

theorem Coherent.setGateway (hD : D.Coherent) {g : Signals}
    (hg : ∀ id t, g.clusterToTenant id = some t → D.platform.Owns id t) :
    (D.setGateway i g).Coherent := by
  intro j id t ht
  simp only [Deployment.setGateway] at ht
  by_cases hji : j = i
  · subst hji
    rw [Function.update_self] at ht
    exact hg id t ht
  · rw [Function.update_of_ne hji] at ht
    exact hD j id t ht

theorem Coherent.platform (hD : D.Coherent) {P : Platform} {ev : PlatformEvent}
    (hs : D.platform.step h tb ev = some P) : ({ D with platform := P } : Deployment).Coherent :=
  fun i id t ht => Platform.step_keeps_owner hs (hD i id t ht)

theorem step_coherent (hD : D.Coherent) (hs : D.step h tb ev = some D') : D'.Coherent := by
  cases step_routes hs with
  | platform hother hstep => exact hD.platform hstep
  | @delivered i net req g tenantID u P hcache hfound htarget hstep =>
    have hg : (D.setGateway i g).Coherent := hD.setGateway (by rw [hcache]; exact hD.resolved.2)
    exact hg.platform hstep
  | looked hcache => exact hD.setGateway (by rw [hcache]; exact hD.resolved.2)
  | restarted hcache => exact hD.setGateway (by simp [hcache])

theorem run_coherent {es : List DeploymentEvent} (hr : runSteps (step h tb) {} es = some D) :
    D.Coherent :=
  invariant_of_steps (step h tb) (fun _ _ _ hD hs => step_coherent hD hs)
    (fun _ _ _ ht => by cases ht) hr

end Deployment
end CloudCredit.System
