import CloudCredit.Gateway.AdminHandler
import CloudCredit.System.Bills

/-!
# Removing clusters and tenants

An administrator removes a cluster or a tenant by marking its row, and the lists of the
dashboard leave out what is marked. Nothing else reads the marks: the gateways find the
tenant of a removed cluster as before, and the accounting of a removed tenant goes on.
Nothing writes the time of the last heartbeat either, so the report on stale clusters
shows every cluster that is not removed.
-/
namespace CloudCredit.System

open Library TigerBeetle Domain Ledger Accounting Gateway

/-- A row with the mark of its removal. -/
def ClusterRow.marked (now : ℕ) (row : ClusterRow) : ClusterRow :=
  { row with status := .deregistered, deregisteredAt := some now }

/-- A row without it. -/
def ClusterRow.unmarked (row : ClusterRow) : ClusterRow :=
  { row with status := .healthy, deregisteredAt := none }

/-- The tables without the marks of removed tenants. -/
def Stored.unmarked (S : Stored) : Stored := { S with db := { S.db with deletedAt := Table.empty } }

def Platform.unmarked (P : Platform) : Platform :=
  { P with stored := P.stored.unmarked, clusters := P.clusters.mapValues ClusterRow.unmarked }

/-- A deployment without the marks of removed clusters and tenants. -/
def Deployment.unmarked (D : Deployment) : Deployment := { D with platform := D.platform.unmarked }

section Unmarked

variable {h : Blake3} {tb : Service}

theorem Database.insertTenant_unmarked (db : Database) (att : RowsAttempt) (u : Uint128)
    (tier : String) :
    ({ db with deletedAt := Table.empty } : Database).insertTenant att u tier =
      ((db.insertTenant att u tier).1,
        { (db.insertTenant att u tier).2 with deletedAt := Table.empty }) := by
  unfold insertTenant
  split_ifs <;> rfl

/-- The workflows do not read the mark of a removed tenant. -/
theorem Stored.step_unmarked (S : Stored) (ev : StoredEvent) :
    S.unmarked.step h tb ev = (S.step h tb ev).map Stored.unmarked := by
  have hadvance : ∀ (ev : SystemEvent) (db : Database),
      S.unmarked.advance h tb ev { db with deletedAt := Table.empty } =
        (S.advance h tb ev db).map Stored.unmarked := by
    intro ev db
    simp only [advance, Option.map_map]
    rfl
  cases ev with
  | insertTenant u att =>
    simp only [step, Option.map_bind]
    refine Option.bind_congr fun t _ => ?_
    simp only [Function.comp_apply]
    split
    · rw [← hadvance]
      simp only [Stored.unmarked, Database.insertTenant_unmarked]
    · rfl
  | insertTBAccountMapping u att =>
    simp only [step, Option.map_bind]
    refine Option.bind_congr fun t _ => ?_
    simp only [Function.comp_apply]
    split
    · rw [← hadvance]
      rfl
    · rfl
  | updateQuotaSnapshots u att =>
    simp only [step, Option.map_bind]
    refine Option.bind_congr fun balances _ => ?_
    rw [Function.comp_apply, ← hadvance]
    rfl
  | refreshQuotaSnapshots u i att =>
    simp only [step, Option.map_bind]
    refine Option.bind_congr fun balances _ => ?_
    rw [Function.comp_apply, ← hadvance]
    rfl
  | system ev =>
    have hrows : S.unmarked.writesRows ev = S.writesRows ev := rfl
    simp only [step, hrows]
    split_ifs
    · rfl
    · exact hadvance ev S.db

theorem insertCluster_unmarked (att : RowsAttempt) (tenants : List Uint128)
    (rows : Table Uint128 ClusterRow) (input : RegisterClusterWorkflowInput) :
    insertCluster att tenants (rows.mapValues ClusterRow.unmarked) input =
      ((insertCluster att tenants rows input).1,
        (insertCluster att tenants rows input).2.mapValues ClusterRow.unmarked) := by
  have hsome : ∀ c, (rows.mapValues ClusterRow.unmarked c).isSome = (rows c).isSome := fun c => by
    simp [Table.mapValues]
  unfold insertCluster
  simp only [hsome]
  split
  · rfl
  · rfl
  · split_ifs
    · rfl
    · rfl
    · rfl
    · rw [Table.mapValues_set]
      rfl
    · rfl

/-- A registration looks at the key of a row only. -/
theorem Platform.step_unmarked (P : Platform) (ev : PlatformEvent) :
    P.unmarked.step h tb ev = (P.step h tb ev).map Platform.unmarked := by
  have hstored : P.unmarked.stored = P.stored.unmarked := rfl
  have hsame : P.unmarked.registrations = P.registrations := rfl
  cases ev with
  | stored ev =>
    simp only [step, hstored, Stored.step_unmarked, Option.map_map]
    rfl
  | registerCluster c req =>
    simp only [step, hsame]
    split <;> rfl
  | insertCluster c att =>
    have hrows : ∀ w : Registration, insertCluster att P.unmarked.stored.db.tenants
        P.unmarked.clusters w.input = _ := fun w =>
      insertCluster_unmarked att P.stored.db.tenants P.clusters w.input
    simp only [step, hsame, hrows, Option.map_bind]
    refine Option.bind_congr fun w _ => ?_
    rw [Function.comp_apply]
    split
    · rw [Option.map_map]
      rfl
    · rfl
  | deliverRegistration c =>
    simp only [step, hsame, Option.map_bind]
    refine Option.bind_congr fun w _ => ?_
    rw [Function.comp_apply]
    split
    · rw [Option.map_map]
      refine Option.map_congr fun outcome _ => ?_
      cases outcome <;> rfl
    · rfl
  | signalAccounting c =>
    have htarget : P.unmarked.signalTarget = P.signalTarget := rfl
    simp only [step, hsame, htarget, hstored, Option.map_bind]
    refine Option.bind_congr fun w _ => ?_
    rw [Function.comp_apply]
    split
    · split
      · rfl
      · rw [Stored.step_unmarked, Option.map_map, Option.map_map]
        rfl
    · rfl

/-- A gateway reads the tenant of a removed cluster like that of any other. -/
theorem Platform.getCluster_unmarked (P : Platform) (net : Network) (clusterID : String) :
    P.unmarked.getCluster net clusterID = P.getCluster net clusterID := by
  funext n
  unfold getCluster
  cases net.reads n with
  | some err => rfl
  | none =>
    cases parseUUID clusterID with
    | none => rfl
    | some c =>
      have hrow : P.unmarked.clusters c = (P.clusters c).map ClusterRow.unmarked := rfl
      simp only [Option.bind_some, hrow]
      cases P.clusters c <;> rfl

theorem Deployment.step_unmarked (D : Deployment) (ev : DeploymentEvent) :
    D.unmarked.step h tb ev = (D.step h tb ev).map Deployment.unmarked := by
  have hplatform : D.unmarked.platform = D.platform.unmarked := rfl
  have hresolved : D.unmarked.resolved = D.resolved := by
    funext i net clusterID
    simp only [resolved, hplatform, Platform.getCluster_unmarked]
    rfl
  have htarget : D.unmarked.target = D.target := by
    funext i net clusterID
    simp only [target, hresolved]
    rfl
  have hsignalled : D.unmarked.signalled = D.signalled := by
    funext i net req
    simp only [signalled, replies, htarget, hplatform, Platform.getCluster_unmarked]
    rfl
  cases ev with
  | platform ev =>
    simp only [step, hplatform, Platform.step_unmarked]
    split_ifs
    · rfl
    · simp only [Option.map_map]
      rfl
  | heartbeat i net req =>
    simp only [step, htarget, hsignalled, hplatform, Platform.step_unmarked]
    split
    · rfl
    · simp only [Option.map_map]
      rfl
  | resolve i net clusterID =>
    simp only [step, hresolved]
    rfl
  | restart i => rfl

end Unmarked

/-- One line of the list of clusters and of the report on stale ones. -/
structure ClusterSummary where
  id : String
  tenantId : String
  cloudProvider : String
  region : String
  status : ClusterStatus
  lastHeartbeat : Option ℕ
  deriving DecidableEq

/-- The deployment with the clusters in the order of their insertion. -/
structure Administration where
  deployment : Deployment := {}
  clusterIDs : List Uint128 := []

/-- `executed` tells whether the statement of the call is executed. -/
inductive AdminEvent
  | deployment (ev : DeploymentEvent)
  | deregisterCluster (clusterId : String) (executed : Bool) (now : ℕ)
  | deleteTenant (tenantId : String) (executed : Bool) (now : ℕ)

def AdminEvent.deployment? : AdminEvent → Option DeploymentEvent
  | .deployment ev => some ev
  | _ => none

inductive RemovalError
  | invalidArgument (cause : String)
  | internal (cause : String)

namespace Administration

variable (h : Blake3) (tb : Service) (A : Administration)

/-- Mark the row of a cluster, if there is one. -/
def markCluster (c : Uint128) (now : ℕ) : Administration :=
  match A.deployment.platform.clusters c with
  | none => A
  | some row => { A with
      deployment.platform.clusters := A.deployment.platform.clusters.set c (row.marked now) }

/-- An identifier without a row is no error. -/
def deregisterCluster (clusterId : String) (executed : Bool) (now : ℕ) :
    Except RemovalError Unit × Administration :=
  match parseUUID clusterId with
  | none => (.error (.invalidArgument "invalid cluster ID"), A)
  | some c =>
    if executed then (.ok (), A.markCluster c now)
    else (.error (.internal "DeregisterCluster"), A)

/-- Mark the row of a tenant, if there is one. -/
def markTenant (u : Uint128) (now : ℕ) : Administration :=
  if u ∈ A.deployment.platform.stored.db.tenants then
    { A with deployment.platform.stored.db.deletedAt :=
      A.deployment.platform.stored.db.deletedAt.set u now }
  else A

def deleteTenant (tenantId : String) (executed : Bool) (now : ℕ) :
    Except RemovalError Unit × Administration :=
  match parseUUID tenantId with
  | none => (.error (.invalidArgument "invalid tenant ID"), A)
  | some u =>
    if executed then (.ok (), A.markTenant u now) else (.error (.internal "DeleteTenant"), A)

/-- The cluster whose row the event inserts. -/
def inserted (P P' : Platform) : DeploymentEvent → Option Uint128
  | .platform (.insertCluster c _) =>
    if (P.clusters c).isNone && (P'.clusters c).isSome then some c else none
  | _ => none

def step : AdminEvent → Option Administration
  | .deployment ev => (A.deployment.step h tb ev).map fun D =>
      { deployment := D
        clusterIDs := A.clusterIDs ++ (inserted A.deployment.platform D.platform ev).toList }
  | .deregisterCluster clusterId executed now => some (A.deregisterCluster clusterId executed now).2
  | .deleteTenant tenantId executed now => some (A.deleteTenant tenantId executed now).2

/-- The lines for the rows that a condition holds of. -/
def summaries (keep : ClusterRow → Bool) : List ClusterSummary :=
  A.clusterIDs.filterMap fun c => ((A.deployment.platform.clusters c).filter keep).map fun row =>
    ⟨uuidString c, uuidString row.tenantID, row.cloudProvider, row.region, row.status,
      row.lastHeartbeat⟩

def listClustersByTenant (tenantID : Uint128) : List ClusterSummary :=
  A.summaries fun row => row.tenantID = tenantID && row.deregisteredAt.isNone

def listClusters (tenantId : String) : Except RemovalError (List ClusterSummary) :=
  match parseUUID tenantId with
  | none => .error (.invalidArgument "invalid tenant ID")
  | some u => .ok (A.listClustersByTenant u)

/-- The clusters without a heartbeat since the threshold. -/
def listStaleClusters (threshold : ℕ) : List ClusterSummary :=
  A.summaries fun row => row.status ≠ .deregistered && row.status ≠ .suspended &&
    row.lastHeartbeat.all fun last => last < threshold

/-- The tenants that were not deleted, in the order of their insertion. -/
def listTenants : List Uint128 :=
  A.deployment.platform.stored.db.tenants.reverse.filter fun u =>
    (A.deployment.platform.stored.db.deletedAt u).isNone

variable {h tb A} {A' : Administration} {ev : AdminEvent} {es es' : List AdminEvent}

theorem markCluster_unmarked (c : Uint128) (now : ℕ) :
    (A.markCluster c now).deployment.unmarked = A.deployment.unmarked := by
  unfold markCluster
  split
  · rfl
  · rename_i row hrow
    have hrows : (A.deployment.platform.clusters.set c (row.marked now)).mapValues
        ClusterRow.unmarked = A.deployment.platform.clusters.mapValues ClusterRow.unmarked := by
      funext d
      by_cases hd : d = c
      · subst hd
        simp [Table.mapValues, hrow, ClusterRow.unmarked, ClusterRow.marked]
      · simp [Table.mapValues, Table.set_other _ hd]
    simp only [Deployment.unmarked, Platform.unmarked, hrows]

theorem markTenant_unmarked (u : Uint128) (now : ℕ) :
    (A.markTenant u now).deployment.unmarked = A.deployment.unmarked := by
  unfold markTenant
  split_ifs <;> rfl

/-- A removal that is refused or fails leaves everything as it is. -/
theorem deregisterCluster_keeps {P : Administration → Prop} {clusterId : String}
    {executed : Bool} {now : ℕ} (hA : P A) (hmark : ∀ c, P (A.markCluster c now)) :
    P (A.deregisterCluster clusterId executed now).2 := by
  unfold deregisterCluster
  split
  · exact hA
  · split_ifs
    · exact hmark _
    · exact hA

theorem deleteTenant_keeps {P : Administration → Prop} {tenantId : String} {executed : Bool}
    {now : ℕ} (hA : P A) (hmark : ∀ u, P (A.markTenant u now)) :
    P (A.deleteTenant tenantId executed now).2 := by
  unfold deleteTenant
  split
  · exact hA
  · split_ifs
    · exact hmark _
    · exact hA

/-- But for the marks, the deployment sees its own events only. -/
theorem step_unmarked (A : Administration) (ev : AdminEvent) :
    (A.step h tb ev).map (fun A => A.deployment.unmarked) =
      ev.deployment?.elim (some A.deployment.unmarked) (A.deployment.unmarked.step h tb) := by
  cases ev with
  | deployment ev =>
    simp only [step, AdminEvent.deployment?, Option.elim_some, Option.map_map,
      Deployment.step_unmarked]
    rfl
  | deregisterCluster clusterId executed now =>
    exact congrArg some (deregisterCluster_keeps
      (P := fun B => B.deployment.unmarked = A.deployment.unmarked) rfl
      fun c => markCluster_unmarked c now)
  | deleteTenant tenantId executed now =>
    exact congrArg some (deleteTenant_keeps
      (P := fun B => B.deployment.unmarked = A.deployment.unmarked) rfl
      fun u => markTenant_unmarked u now)

theorem run_unmarked (es : List AdminEvent) :
    (runSteps (step h tb) {} es).map (fun A => A.deployment.unmarked) =
      runSteps (Deployment.step h tb) {} (es.filterMap AdminEvent.deployment?) :=
  runSteps_erase (step h tb) (Deployment.step h tb) (fun A => A.deployment.unmarked)
    AdminEvent.deployment? step_unmarked {} es

/-- Removals of clusters and tenants put into a run or taken out of it, wherever and
however many, change nothing in the gateways, the workflows, the tables and the ledger but
the marks themselves: a removed cluster is heard and charged as before. -/
theorem removals_change_no_charge (hr : runSteps (step h tb) {} es = some A)
    (hsame : es'.filterMap AdminEvent.deployment? = es.filterMap AdminEvent.deployment?) :
    ∃ A', runSteps (step h tb) {} es' = some A' ∧
      A'.deployment.unmarked = A.deployment.unmarked := by
  have hseen : (runSteps (step h tb) {} es').map (fun A => A.deployment.unmarked) = _ :=
    run_unmarked es'
  rw [hsame, ← run_unmarked es, hr, Option.map_some] at hseen
  exact Option.map_eq_some_iff.mp hseen

/-- After every event of a run with a charge, the cluster and its tenant are removed once
more. -/
def removedThroughout : List AdminEvent :=
  Deployment.reportedUsage.flatMap fun ev =>
    [.deployment ev, .deregisterCluster (uuidString sampleCluster) true 5,
      .deleteTenant (uuidString sampleTenant) true 5]

theorem removedThroughout_charged : ∃ A A',
    runSteps (step .positional Reference.service) {} removedThroughout = some A ∧
      A.listClustersByTenant sampleTenant = [] ∧ A.listTenants = [] ∧
      (A.deployment.platform.stored.state.journal.any fun x =>
        x.origin = .usage sampleTenant sampleCluster 1 .cpuHours && x.transfer.amount = 3) = true ∧
      runSteps (step .positional Reference.service) {}
        (Deployment.reportedUsage.map .deployment) = some A' ∧
      A'.deployment.unmarked = A.deployment.unmarked := by
  obtain ⟨A, hr, hd⟩ := runSteps_any (step .positional Reference.service) {} removedThroughout
    (fun A => (A.listClustersByTenant sampleTenant = [] && A.listTenants = []) &&
      A.deployment.platform.stored.state.journal.any fun x =>
        x.origin = .usage sampleTenant sampleCluster 1 .cpuHours && x.transfer.amount = 3)
    (by decide +kernel)
  obtain ⟨hlists, hcharge⟩ := Bool.and_eq_true_iff.mp hd
  obtain ⟨hclusters, htenants⟩ := Bool.and_eq_true_iff.mp hlists
  have hsame : (Deployment.reportedUsage.map AdminEvent.deployment).filterMap
      AdminEvent.deployment? = removedThroughout.filterMap AdminEvent.deployment? := rfl
  obtain ⟨A', hr', heq⟩ := removals_change_no_charge hr hsame
  exact ⟨A, A', hr, of_decide_eq_true hclusters, of_decide_eq_true htenants, hcharge, hr', heq⟩

/-- The rows are listed once each, a removed one is marked in both of its columns, and no
heartbeat was ever written down. -/
structure Tabled (A : Administration) : Prop where
  listed : ∀ c, c ∈ A.clusterIDs ↔ (A.deployment.platform.clusters c).isSome = true
  once : A.clusterIDs.Nodup
  marks : ∀ c row, A.deployment.platform.clusters c = some row → row.lastHeartbeat = none ∧
    row.status = if row.deregisteredAt.isSome then .deregistered else .healthy

theorem Tabled.markCluster (hA : A.Tabled) (c : Uint128) (now : ℕ) :
    (A.markCluster c now).Tabled := by
  unfold Administration.markCluster
  split
  · exact hA
  · rename_i row hrow
    refine ⟨fun d => ?_, hA.once, fun d row' hd => ?_⟩
    · rw [hA.listed d]
      by_cases hdc : d = c
      · subst hdc
        simp [hrow]
      · simp [Table.set_other _ hdc]
    · rcases Table.set_eq_some.mp hd with ⟨-, rfl⟩ | ⟨-, hd⟩
      · exact ⟨(hA.marks c row hrow).1, rfl⟩
      · exact hA.marks d row' hd

theorem Tabled.markTenant (hA : A.Tabled) (u : Uint128) (now : ℕ) : (A.markTenant u now).Tabled := by
  unfold Administration.markTenant
  split_ifs
  · exact ⟨hA.listed, hA.once, hA.marks⟩
  · exact hA

theorem insertCluster_row {att : RowsAttempt} {tenants : List Uint128}
    {rows : Table Uint128 ClusterRow} {input : RegisterClusterWorkflowInput} {c : Uint128}
    {row : ClusterRow} (hrow : (insertCluster att tenants rows input).2 c = some row) :
    rows c = some row ∨ ∃ u provider region, row = .inserted u provider region := by
  unfold insertCluster at hrow
  split at hrow
  · exact .inl hrow
  · exact .inl hrow
  · split_ifs at hrow
    · exact .inl hrow
    · exact .inl hrow
    · exact .inl hrow
    · rcases Table.set_eq_some.mp hrow with ⟨-, rfl⟩ | ⟨-, hold⟩
      · exact .inr ⟨_, _, _, rfl⟩
      · exact .inl hold
    · exact .inl hrow

theorem rows_cases {D D' : Deployment} {w : DeploymentEvent} (hn : D.platform.Named)
    (hs : D.step h tb w = some D') :
    D'.platform.clusters = D.platform.clusters ∨
      ∃ c att, w = .platform (.insertCluster c att) ∧ D.platform.clusters c = none ∧
        (∃ u provider region, D'.platform.clusters c = some (.inserted u provider region)) ∧
        ∀ d, d ≠ c → D'.platform.clusters d = D.platform.clusters d := by
  cases Deployment.step_routes hs with
  | looked => exact .inl rfl
  | restarted => exact .inl rfl
  | delivered _ _ _ hstep =>
    cases Platform.step_registers hstep with
    | stored => exact .inl rfl
  | platform _ hstep =>
    cases Platform.step_registers hstep with
    | @inserting c att w run run' hw =>
      obtain ⟨req, hinput⟩ := hn c w hw
      have hother : ∀ d, d ≠ c → (System.insertCluster att D.platform.stored.db.tenants
          D.platform.clusters w.input).2 d = D.platform.clusters d := by
        intro d hd
        rw [hinput]
        exact insertCluster_other hd
      by_cases hsame : (System.insertCluster att D.platform.stored.db.tenants D.platform.clusters
          w.input).2 c = D.platform.clusters c
      · refine .inl (funext fun d => ?_)
        by_cases hd : d = c
        · rw [hd]
          exact hsame
        · exact hother d hd
      · have hnew : D.platform.clusters c = none := by
          by_contra hrow
          obtain ⟨row, hrow⟩ := Option.ne_none_iff_exists'.mp hrow
          exact hsame ((Platform.insertCluster_keeps hrow).trans hrow.symm)
        refine .inr ⟨c, att, rfl, hnew, ?_, hother⟩
        rw [hnew] at hsame
        obtain ⟨row, hrow⟩ := Option.ne_none_iff_exists'.mp hsame
        rcases insertCluster_row hrow with hold | ⟨u, provider, region, rfl⟩
        · cases hnew.symm.trans hold
        · exact ⟨u, provider, region, hrow⟩
    | _ => exact .inl rfl

theorem inserted_of_same {P P' : Platform} (w : DeploymentEvent) (hsame : P'.clusters = P.clusters) :
    inserted P P' w = none := by
  unfold inserted
  split
  · rw [hsame]
    cases P.clusters _ <;> rfl
  · rfl

theorem step_tabled (hn : A.deployment.platform.Named) (hA : A.Tabled)
    (hs : A.step h tb ev = some A') : A'.Tabled := by
  cases ev with
  | deployment w =>
    obtain ⟨D', hD, rfl⟩ := Option.map_eq_some_iff.mp hs
    rcases rows_cases hn hD with hsame | ⟨c, att, rfl, hnone, ⟨u, provider, region, hrow⟩, hother⟩
    · rw [inserted_of_same w hsame]
      refine ⟨fun c => ?_, ?_, ?_⟩
      · rw [hsame, Option.toList_none, List.append_nil]
        exact hA.listed c
      · rw [Option.toList_none, List.append_nil]
        exact hA.once
      · rw [hsame]
        exact hA.marks
    · have hin : inserted A.deployment.platform D'.platform (.platform (.insertCluster c att)) =
          some c := by
        simp [inserted, hnone, hrow]
      have habsent : c ∉ A.clusterIDs := by simp [hA.listed c, hnone]
      rw [hin]
      refine ⟨fun d => ?_, ?_, fun d row' hd => ?_⟩
      · by_cases hdc : d = c
        · subst hdc
          simp [hrow]
        · rw [hother d hdc, ← hA.listed d]
          simp [hdc]
      · exact List.nodup_append.mpr ⟨hA.once, List.nodup_singleton c, by
          rintro x hx y hy rfl
          cases List.mem_singleton.mp hy
          exact habsent hx⟩
      · by_cases hdc : d = c
        · subst hdc
          cases hrow.symm.trans hd
          exact ⟨rfl, rfl⟩
        · rw [hother d hdc] at hd
          exact hA.marks d row' hd
  | deregisterCluster clusterId executed now =>
    cases hs
    exact deregisterCluster_keeps hA fun c => hA.markCluster c now
  | deleteTenant tenantId executed now =>
    cases hs
    exact deleteTenant_keeps hA fun u => hA.markTenant u now

theorem run_tabled (hr : runSteps (step h tb) {} es = some A) : A.Tabled := by
  refine run_induction (step h tb) (P := fun _ A => A.Tabled) ?_ ?_ hr
  · exact ⟨by simp, List.nodup_nil, fun _ _ hc => by cases hc⟩
  · intro xs A ev A' hr hA hstep
    have hseen : (runSteps (step h tb) {} xs).map (fun A => A.deployment.unmarked) = _ :=
      run_unmarked xs
    rw [hr, Option.map_some] at hseen
    obtain ⟨es', hr'⟩ := Deployment.run_platform hseen.symm
    -- the marks are not in the registrations
    have hnamed : A.deployment.unmarked.platform.Named := Platform.run_named hr'
    exact step_tabled hnamed hA hstep

theorem Tabled.mem_summaries (hA : A.Tabled) {keep : ClusterRow → Bool} {line : ClusterSummary} :
    line ∈ A.summaries keep ↔
      ∃ c row, A.deployment.platform.clusters c = some row ∧ keep row = true ∧
        line = ⟨uuidString c, uuidString row.tenantID, row.cloudProvider, row.region, row.status,
          row.lastHeartbeat⟩ := by
  simp only [summaries, List.mem_filterMap, Option.map_eq_some_iff, Option.filter_eq_some_iff]
  constructor
  · rintro ⟨c, -, row, ⟨hrow, hkeep⟩, rfl⟩
    exact ⟨c, row, hrow, hkeep, rfl⟩
  · rintro ⟨c, row, hrow, hkeep, rfl⟩
    exact ⟨c, (hA.listed c).mpr (by rw [hrow]; rfl), row, ⟨hrow, hkeep⟩, rfl⟩

/-- The line of an active cluster. -/
def Shown (A : Administration) (c : Uint128) (row : ClusterRow) (line : ClusterSummary) : Prop :=
  A.deployment.platform.clusters c = some row ∧ row.deregisteredAt = none ∧
    line = ⟨uuidString c, uuidString row.tenantID, row.cloudProvider, row.region, .healthy, none⟩

/-- The list of a tenant has every cluster of the tenant that is not removed. The report on
stale clusters has the same lines for all tenants, whatever the threshold is and whatever
heartbeats were received: it never tells a silent cluster from one that reports. -/
theorem active_clusters_are_stale (hr : runSteps (step h tb) {} es = some A) (threshold : ℕ)
    (line : ClusterSummary) :
    (∀ u, line ∈ A.listClustersByTenant u ↔ ∃ c row, A.Shown c row line ∧ row.tenantID = u) ∧
      (line ∈ A.listStaleClusters threshold ↔ ∃ c row, A.Shown c row line) := by
  have hA := run_tabled hr
  have hactive : ∀ {c : Uint128} {row : ClusterRow}, A.deployment.platform.clusters c = some row →
      row.deregisteredAt = none → row.status = .healthy ∧ row.lastHeartbeat = none := by
    intro c row hrow hnone
    obtain ⟨hlast, hstatus⟩ := hA.marks c row hrow
    rw [hnone] at hstatus
    exact ⟨hstatus, hlast⟩
  refine ⟨fun u => ?_, ?_⟩
  · rw [listClustersByTenant, hA.mem_summaries]
    constructor
    · rintro ⟨c, row, hrow, hkeep, rfl⟩
      simp only [Bool.and_eq_true, decide_eq_true_eq, Option.isNone_iff_eq_none] at hkeep
      obtain ⟨hstatus, hlast⟩ := hactive hrow hkeep.2
      exact ⟨c, row, ⟨hrow, hkeep.2, by rw [hstatus, hlast]⟩, hkeep.1⟩
    · rintro ⟨c, row, ⟨hrow, hnone, rfl⟩, rfl⟩
      obtain ⟨hstatus, hlast⟩ := hactive hrow hnone
      exact ⟨c, row, hrow, by simp [hnone], by rw [hstatus, hlast]⟩
  · rw [listStaleClusters, hA.mem_summaries]
    constructor
    · rintro ⟨c, row, hrow, hkeep, rfl⟩
      simp only [Bool.and_eq_true, decide_eq_true_eq] at hkeep
      have hnone : row.deregisteredAt = none := by
        by_contra hsome
        have hstatus := (hA.marks c row hrow).2
        rw [if_pos (Option.isSome_iff_ne_none.mpr hsome)] at hstatus
        exact hkeep.1.1 hstatus
      obtain ⟨hstatus, hlast⟩ := hactive hrow hnone
      exact ⟨c, row, hrow, hnone, by rw [hstatus, hlast]⟩
    · rintro ⟨c, row, hrow, hnone, rfl⟩
      obtain ⟨hstatus, hlast⟩ := hactive hrow hnone
      exact ⟨c, row, hrow, by simp [hstatus, hlast], by rw [hstatus, hlast]⟩

/-- The cluster of a run with a charge is reported as one without a heartbeat. -/
theorem reportedUsage_is_stale : ∃ A,
    runSteps (step .positional Reference.service) {}
        (Deployment.reportedUsage.map .deployment) = some A ∧
      ∃ line ∈ A.listStaleClusters 0, line.id = uuidString sampleCluster ∧
        line.lastHeartbeat = none ∧ line ∈ A.listClustersByTenant sampleTenant := by
  obtain ⟨A, hr, hd⟩ := runSteps_any (step .positional Reference.service) {}
    (Deployment.reportedUsage.map .deployment)
    (fun A => (A.listClustersByTenant sampleTenant).any fun line =>
      line.id = uuidString sampleCluster && line.lastHeartbeat = none) (by decide +kernel)
  obtain ⟨line, hline, hd⟩ := List.any_eq_true.mp hd
  simp only [Bool.and_eq_true, decide_eq_true_eq] at hd
  obtain ⟨hlist, hstale⟩ := active_clusters_are_stale hr 0 line
  obtain ⟨c, row, hshown, -⟩ := (hlist sampleTenant).mp hline
  exact ⟨A, hr, line, hstale.mpr ⟨c, row, hshown⟩, hd.1, hd.2, hline⟩

end Administration
end CloudCredit.System
