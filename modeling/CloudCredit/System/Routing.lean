import CloudCredit.System.BatchAnswers
import CloudCredit.System.Deployment

/-!
# From a cluster to its tenant

The table of clusters decides where a heartbeat goes. Every heartbeat in a workflow was
sent to a gateway by a cluster of that tenant. In the other direction, once the
registration of a cluster has completed, its heartbeats reach the workflow of the
tenant it was registered for, as long as one read of three and the signal get through.
-/
namespace CloudCredit.System

open Library TigerBeetle Domain Ledger Accounting Gateway

/-- The step of the system behind one with the database delivers a heartbeat only if the
event does. -/
theorem Stored.Writes.heartbeat {h : Blake3} {tb : Service} {S S' : Stored} {ev : StoredEvent}
    (hw : Writes h tb S ev S') : ∃ ev', S.state.step h tb ev' = some S'.state ∧
      ∀ u sig, ev' = .tenant u (.workflow (.heartbeat sig)) → ev = .system ev' := by
  cases hw with
  | tenant _ _ hstep => exact ⟨_, hstep, by simp⟩
  | mapping _ _ hstep => exact ⟨_, hstep, by simp⟩
  | snapshots _ hstep => exact ⟨_, hstep, by simp⟩
  | refresh _ hstep => exact ⟨_, hstep, by simp⟩
  | system _ hstep => exact ⟨_, hstep, fun _ _ _ => rfl⟩

theorem Platform.step_state {h : Blake3} {tb : Service} {P P' : Platform} {ev : PlatformEvent}
    (hs : P.step h tb ev = some P') : P'.stored.state = P.stored.state ∨
      ∃ ev', P.stored.state.step h tb ev' = some P'.stored.state ∧
        ∀ u sig, ev' = .tenant u (.workflow (.heartbeat sig)) → ev = .stored (.system ev') := by
  cases step_registers hs with
  | stored hstored =>
    obtain ⟨ev', hstep, honly⟩ := (Stored.step_writes hstored).heartbeat
    exact .inr ⟨ev', hstep, fun u sig heq => congrArg _ (honly u sig heq)⟩
  | signalled hw hphase htarget hstored =>
    obtain ⟨ev', hstep, honly⟩ := (Stored.step_writes hstored).heartbeat
    refine .inr ⟨ev', hstep, fun u sig heq => ?_⟩
    cases heq.symm.trans (StoredEvent.system.inj (honly u sig heq)).symm
  | _ => exact .inl rfl

namespace Deployment

variable {h : Blake3} {tb : Service} {D D' : Deployment} {es : List DeploymentEvent}
  {ev : DeploymentEvent} {u : Uint128} {t : Tenant} {e : Execution} {hb : HeartbeatSignal}

/-- The heartbeat was sent to a gateway by a cluster whose row names the tenant. -/
def SentBy (es : List DeploymentEvent) (P : Platform) (u : Uint128) (hb : HeartbeatSignal) : Prop :=
  ∃ i net req, .heartbeat i net req ∈ es ∧ hb = req.toSignal ∧
    parseUUID req.clusterId = some hb.clusterUUID ∧
    ∃ row, P.clusters hb.clusterUUID = some row ∧ row.tenantID = u

/-- Every heartbeat in a workflow comes from a cluster of its tenant. -/
def Routed (es : List DeploymentEvent) (D : Deployment) : Prop :=
  ∀ u t e, D.platform.stored.state.tenants u = some t → t.accounting = some e →
    ∀ hb ∈ e.history.delivered, SentBy es D.platform u hb

theorem SentBy.later {P P' : Platform} (hsent : SentBy es P u hb)
    (hrows : ∀ c row, P.clusters c = some row → P'.clusters c = some row) :
    SentBy (es ++ [ev]) P' u hb := by
  obtain ⟨i, net, req, hmem, hsig, hparse, row, hrow, hu⟩ := hsent
  exact ⟨i, net, req, List.mem_append_left _ hmem, hsig, hparse, row, hrows _ _ hrow, hu⟩

/-- A step of the platform keeps the routing if the heartbeat it delivers, if any, is
routed. -/
theorem Routed.platform {P : Platform} {w : PlatformEvent} (hs : D.platform.stored.state.Sound h)
    (hD : D.Routed es) (hstep : D.platform.step h tb w = some P)
    (hnew : ∀ u sig, w = .stored (.system (.tenant u (.workflow (.heartbeat sig)))) →
      SentBy (es ++ [ev]) P u sig) {gateways : ℕ → Signals} :
    Routed (es ++ [ev]) { platform := P, gateways := gateways } := by
  have hkeep : ∀ c row, D.platform.clusters c = some row → P.clusters c = some row :=
    fun c row => Platform.step_keeps_row hstep
  intro u t' e' hu' he' hb hmem
  rcases Platform.step_state hstep with hsame | ⟨ev', hev', honly⟩
  · dsimp only at hu'
    rw [hsame] at hu'
    exact (hD u t' e' hu' he' hb hmem).later hkeep
  · rcases State.step_delivered_cases hs hev' hu' he' with hnil | ⟨t, e, hu, he, hsame | hsig⟩
    · rw [hnil] at hmem
      cases hmem
    · rw [hsame] at hmem
      exact (hD u t e hu he hb hmem).later hkeep
    · obtain ⟨sig, rfl, hcons⟩ := hsig
      rw [hcons] at hmem
      rcases List.mem_cons.mp hmem with rfl | hmem
      · exact hnew u _ (honly u _ rfl)
      · exact (hD u t e hu he hb hmem).later hkeep

theorem Coherent.target (hD : D.Coherent) {i : ℕ} {net : Network} {clusterID tenantID : String}
    (hfound : (D.resolved i net clusterID).1 = .ok tenantID)
    (htarget : D.platform.signalTarget tenantID = some u) :
    ∃ c row, parseUUID clusterID = some c ∧ D.platform.clusters c = some row ∧
      row.tenantID = u := by
  obtain ⟨c, row, hc, hrow, rfl⟩ := hD.resolved.1 tenantID hfound
  obtain ⟨hparse, -⟩ := Platform.signalTarget_eq_some.mp htarget
  rw [parseUUID_uuidString] at hparse
  exact ⟨c, row, hc, hrow, Option.some.inj hparse⟩

theorem run_routed (hr : runSteps (step h tb) {} es = some D) : D.Routed es := by
  refine run_induction (step h tb) (P := fun es D => D.Routed es) ?_ ?_ hr
  · intro u t e hu
    cases hu
  · intro xs D ev D' hr hD hstep
    obtain ⟨es', hr'⟩ := run_state hr
    have hs := State.run_sound hr'
    cases step_routes hstep with
    | platform hother hplatform =>
      refine hD.platform hs hplatform fun u sig hw => ?_
      rw [hw] at hother
      cases hother
    | @delivered i net req g tenantID v P hcache hfound htarget hplatform =>
      refine hD.platform hs hplatform fun u sig hw => ?_
      obtain ⟨c, row, hc, hrow, howner⟩ := (run_coherent hr).target hfound htarget
      have hsame : v = u ∧ req.toSignal = sig := by simpa using hw
      obtain ⟨rfl, rfl⟩ := hsame
      have hid : c = req.toSignal.clusterUUID := by
        simp [HeartbeatRequest.toSignal, uuidToBytes, hc]
      rw [hid] at hc hrow
      exact ⟨i, net, req, by simp, rfl, hc, row, Platform.step_keeps_row hplatform hrow, howner⟩
    | looked => exact fun u t e hu he hb hmem => (hD u t e hu he hb hmem).later fun _ _ hx => hx
    | restarted => exact fun u t e hu he hb hmem => (hD u t e hu he hb hmem).later fun _ _ hx => hx

end Deployment

def RegistrationPhase.isCompleted : RegistrationPhase → Bool
  | .completed => true
  | _ => false

/-- The workflow of the registration knows that the row is there. -/
def RegistrationPhase.inserted : RegistrationPhase → Prop
  | .insertingCluster run => run.outcome = some (.ok ())
  | .signalling | .completed => True
  | .failed _ => False

namespace Platform

variable {h : Blake3} {tb : Service} {P P' : Platform} {ev : PlatformEvent} {c u : Uint128}
  {w : Registration}

/-- The row of the cluster names the tenant it was registered for, and a registration that
completed has found the accounting of that tenant. -/
structure Consistent (P : Platform) (c : Uint128) (w : Registration) : Prop where
  row : w.phase.inserted → ∃ u row, parseUUID w.input.tenantID = some u ∧
    P.clusters c = some row ∧ row.tenantID = u
  running : w.phase = .completed → ∃ u, P.signalTarget w.input.tenantID = some u

theorem insertCluster_ok {att : RowsAttempt} {tenants : List Uint128}
    {rows : Table Uint128 ClusterRow} {input : RegisterClusterWorkflowInput}
    (hparse : parseUUID input.clusterID = some c)
    (hok : (System.insertCluster att tenants rows input).1 = .ok ()) :
    ∃ u row, parseUUID input.tenantID = some u ∧
      (System.insertCluster att tenants rows input).2 c = some row ∧ row.tenantID = u := by
  unfold System.insertCluster at hok ⊢
  split at hok
  · cases hok
  · cases hok
  · rename_i clusterUUID tenantUUID hcluster htenant
    cases hparse.symm.trans hcluster
    split_ifs at hok ⊢
    exact ⟨tenantUUID, _, htenant, Table.set_same _ _ _, rfl⟩

theorem step_keeps_target {tenantID : String} (hs : P.stored.state.Sound h)
    (hstep : P.step h tb ev = some P') (ht : P.signalTarget tenantID = some u) :
    P'.signalTarget tenantID = some u := by
  obtain ⟨hparse, hname, hrunning⟩ := signalTarget_eq_some.mp ht
  refine signalTarget_eq_some.mpr ⟨hparse, hname, ?_⟩
  rcases step_state hstep with hsame | ⟨ev', hev', -⟩
  · rw [hsame]
    exact hrunning
  · obtain ⟨e, he⟩ := Option.isSome_iff_exists.mp hrunning
    obtain ⟨t, hu, he⟩ := Option.bind_eq_some_iff.mp he
    obtain ⟨t', e', hu', he', -⟩ := State.step_execution hs hev' hu he
    simp [hu', he']

theorem Consistent.later (hset : P.Consistent c w) (hs : P.stored.state.Sound h)
    (hstep : P.step h tb ev = some P') : P'.Consistent c w := by
  refine ⟨fun hin => ?_, fun hdone => ?_⟩
  · obtain ⟨u, row, hu, hrow, howner⟩ := hset.row hin
    exact ⟨u, row, hu, step_keeps_row hstep hrow, howner⟩
  · obtain ⟨u, hu⟩ := hset.running hdone
    exact ⟨u, step_keeps_target hs hstep hu⟩

/-- The workflow of a registration moves on to another phase. -/
theorem Consistent.phase {phase : RegistrationPhase} (hset : P'.Consistent c w)
    (hin : phase.inserted → w.phase.inserted)
    (hdone : phase = .completed → ∃ u, P'.signalTarget w.input.tenantID = some u) :
    P'.Consistent c { w with phase := phase } :=
  ⟨fun h => hset.row (hin h), hdone⟩

theorem step_consistent (hs : P.stored.state.Sound h) (hn : P.Named)
    (hP : ∀ c w, P.registrations c = some w → P.Consistent c w) (hstep : P.step h tb ev = some P') :
    ∀ c w, P'.registrations c = some w → P'.Consistent c w := by
  have hold : ∀ c w, P.registrations c = some w → P'.Consistent c w :=
    fun c w hw => (hP c w hw).later hs hstep
  -- one registration moves on, the others stay as they are
  have hmoves : ∀ {d : Uint128} {w₁ : Registration}, P'.Consistent d w₁ →
      P'.registrations = P.registrations.set d w₁ →
      ∀ c w, P'.registrations c = some w → P'.Consistent c w := by
    intro d w₁ hd hset c w hw
    rw [hset] at hw
    rcases Table.set_eq_some.mp hw with ⟨rfl, rfl⟩ | ⟨-, hw⟩
    · exact hd
    · exact hold c w hw
  cases step_registers hstep with
  | stored => exact hold
  | started hnone => exact hmoves ⟨fun hin => (by cases hin), fun hdone => (by cases hdone)⟩ rfl
  | @inserting c att w run run' hw hphase hrun =>
    refine hmoves ⟨fun hin => ?_, fun hdone => by cases hdone⟩ rfl
    obtain ⟨-, rfl⟩ := ActivityRun.attempt_some hrun
    obtain ⟨req, hinput⟩ := hn c w hw
    have hok := ActivityRun.decided_ok hin
    have hinserted : (System.insertCluster att P.stored.db.tenants P.clusters w.input).1 = .ok () := by
      unfold heard at hok
      split_ifs at hok with hrep
      exact hok
    exact insertCluster_ok (by rw [hinput]; exact parseUUID_uuidString c) hinserted
  | inserted hw hphase hout =>
    exact hmoves ((hold _ _ hw).phase (fun _ => by rw [hphase]; exact hout)
      (fun hdone => by cases hdone)) rfl
  | fails hw =>
    exact hmoves ((hold _ _ hw).phase (fun hin => by cases hin) (fun hdone => by cases hdone)) rfl
  | signalled hw hphase htarget =>
    refine hmoves ((hold _ _ hw).phase (fun _ => by rw [hphase]; trivial) fun _ => ?_) rfl
    exact ⟨_, step_keeps_target hs hstep htarget⟩
  | missed hw =>
    exact hmoves ((hold _ _ hw).phase (fun hin => by cases hin) (fun hdone => by cases hdone)) rfl

theorem run_consistent {es : List PlatformEvent} (hr : runSteps (step h tb) {} es = some P)
    (hw : P.registrations c = some w) : P.Consistent c w := by
  refine run_induction (step h tb)
    (P := fun _ P => ∀ c w, P.registrations c = some w → P.Consistent c w) ?_ ?_ hr c w hw
  · intro c w hw
    cases hw
  · intro xs P ev P' hr hP hstep
    obtain ⟨es₁, hr₁⟩ := run_stored hr
    obtain ⟨es₂, hr₂⟩ := Stored.run_state hr₁
    exact step_consistent (State.run_sound hr₂) (run_named hr) hP hstep

end Platform

theorem lookupTenant_found {w : ServiceReplies} {clusterID tenantID : String}
    (hcancel : ∀ n, w.cancelled n = none)
    (hget : ∀ n, w.getCluster n = .ok tenantID ∨ ∃ err, w.getCluster n = .error (.failed err))
    {n : ℕ} (hn : n < maxAttempts) (hok : w.getCluster n = .ok tenantID) (left : ℕ)
    (hleft : maxAttempts ≤ n + left) (err : String) :
    lookupTenant w clusterID err left = .ok tenantID := by
  induction left generalizing err with
  | zero => omega
  | succ left ih =>
    have hif : (if maxAttempts - (left + 1) = 0 then none
        else w.cancelled (maxAttempts - (left + 1))) = none := by
      split_ifs
      · rfl
      · exact hcancel _
    simp only [lookupTenant, hif]
    rcases hget (maxAttempts - (left + 1)) with hfound | ⟨err', hfailed⟩
    · simp only [hfound]
    · simp only [hfailed]
      refine ih ?_ err'
      have hne : n ≠ maxAttempts - (left + 1) := by
        rintro rfl
        rw [hfailed] at hok
        cases hok
      omega

theorem Platform.step_heartbeat {h : Blake3} (tb : Service) {P : Platform} {u : Uint128} {t : Tenant}
    {e : Execution} (hu : P.stored.state.tenants u = some t) (he : t.accounting = some e)
    (sig : HeartbeatSignal) : ∃ P' e',
      P.step h tb (.stored (.system (.tenant u (.workflow (.heartbeat sig))))) = some P' ∧
      P'.stored.state.tenants u = some { t with accounting := some e' } ∧
      e'.hbCh = e.hbCh ++ [sig] := by
  obtain ⟨s', hstep, hu', -⟩ := State.step_workflow tb hu he (w := .heartbeat sig) rfl
    (show e.step h (.heartbeat sig) = some _ from rfl)
  refine ⟨{ P with stored := ⟨s', P.stored.db⟩ }, _, ?_, hu', rfl⟩
  simp [Platform.step, Stored.step, Stored.writesRows, Stored.advance, hstep]

namespace Deployment

variable {h : Blake3} {tb : Service} {D : Deployment} {es : List DeploymentEvent} {c u : Uint128}
  {row : ClusterRow} {i : ℕ} {net : Network}

theorem Coherent.resolved_eq (hD : D.Coherent) {clusterID : String}
    (hparse : parseUUID clusterID = some c) (hrow : D.platform.clusters c = some row)
    (hread : ∃ n < maxAttempts, net.reads n = none) (hcancel : ∀ n, net.cancelled n = none) :
    (D.resolved i net clusterID).1 = .ok (uuidString row.tenantID) := by
  cases hcached : (D.gateways i).clusterToTenant clusterID with
  | some tenantID =>
    obtain ⟨c', row', hparse', hrow', rfl⟩ := hD i clusterID tenantID hcached
    cases hparse.symm.trans hparse'
    cases hrow.symm.trans hrow'
    simp only [Deployment.resolved, resolveTenantID, hcached]
  | none =>
    have hget : ∀ n, net.reads n = none →
        D.platform.getCluster net clusterID n = .ok (uuidString row.tenantID) := by
      intro n hn
      simp [Platform.getCluster, hn, hparse, hrow]
    have htries : ∀ n, D.platform.getCluster net clusterID n = .ok (uuidString row.tenantID) ∨
        ∃ err, D.platform.getCluster net clusterID n = .error (.failed err) := by
      intro n
      cases hn : net.reads n with
      | none => exact .inl (hget n hn)
      | some err => exact .inr ⟨err, by simp [Platform.getCluster, hn]⟩
    obtain ⟨n, hn, hfree⟩ := hread
    have hfound : lookupTenant
        { getCluster := D.platform.getCluster net clusterID, cancelled := net.cancelled }
        clusterID "" maxAttempts = .ok (uuidString row.tenantID) :=
      lookupTenant_found hcancel htries hn (hget n hfree) maxAttempts (Nat.le_add_left _ _) ""
    simp only [Deployment.resolved, resolveTenantID, hcached, hparse, hfound]

theorem step_signals (h : Blake3) (tb : Service) {tenantID : String} {req : HeartbeatRequest}
    {t : Tenant} {e : Execution} (hfound : (D.resolved i net req.clusterId).1 = .ok tenantID)
    (htarget : D.platform.signalTarget tenantID = some u) (hsignal : net.signal.reached = true)
    (hu : D.platform.stored.state.tenants u = some t) (he : t.accounting = some e) :
    (net.signal = .answered → (D.signalled i net req).1 = .ok ()) ∧
      ∃ D' e', D.step h tb (.heartbeat i net req) = some D' ∧
        D'.platform.stored.state.tenants u = some { t with accounting := some e' } ∧
        e'.hbCh = e.hbCh ++ [req.toSignal] := by
  have hto : D.target i net req.clusterId = some u := by
    simp [target, hfound, Except.toOption, htarget]
  obtain ⟨P', e', hstep, hu', hch⟩ := Platform.step_heartbeat (h := h) tb hu he req.toSignal
  refine ⟨fun hanswered => ?_, { D.setGateway i (D.signalled i net req).2 with platform := P' }, e',
    ?_, hu', hch⟩
  · simp only [signalled, Signals.signalHeartbeat, resolveTenantID_replies, hfound]
    simp [replies, hto, hanswered]
  · have hreached : (D.target i net req.clusterId).filter (fun _ => net.signal.reached) = some u := by
      simp [hto, hsignal]
    simp only [step, hreached, hstep, Option.map_some]

/-- After the registration of a cluster has completed, its heartbeats reach the accounting
of the tenant it was registered for, through any gateway and whatever is cached there, if
one of three reads and the signal get through. -/
theorem registered_clusters_are_heard (hr : runSteps (step h tb) {} es = some D)
    {w : Registration} (hw : D.platform.registrations c = some w) (hdone : w.phase = .completed)
    {req : HeartbeatRequest} (hreq : parseUUID req.clusterId = some c)
    (hread : ∃ n < maxAttempts, net.reads n = none) (hcancel : ∀ n, net.cancelled n = none)
    (hsignal : net.signal.reached = true) (i : ℕ) :
    (net.signal = .answered → (D.signalled i net req).1 = .ok ()) ∧
      ∃ u t e D' e', uuidString u = w.input.tenantID ∧
        D.platform.stored.state.tenants u = some t ∧ t.accounting = some e ∧
        D.step h tb (.heartbeat i net req) = some D' ∧
        D'.platform.stored.state.tenants u = some { t with accounting := some e' } ∧
        e'.hbCh = e.hbCh ++ [req.toSignal] := by
  obtain ⟨es', hr'⟩ := run_platform hr
  have hset := Platform.run_consistent hr' hw
  obtain ⟨v, row, hv, hrow, rfl⟩ := hset.row (by rw [hdone]; trivial)
  obtain ⟨u, htarget⟩ := hset.running hdone
  obtain ⟨hu, hname, hrunning⟩ := Platform.signalTarget_eq_some.mp htarget
  obtain ⟨e, hrunning⟩ := Option.isSome_iff_exists.mp hrunning
  obtain ⟨t, ht, he⟩ := Option.bind_eq_some_iff.mp hrunning
  cases hu.symm.trans hv
  have hfound := (run_coherent hr).resolved_eq (i := i) hreq hrow hread hcancel
  rw [hname] at hfound
  obtain ⟨hanswer, D', e', hstep, hu', hch⟩ := step_signals h tb hfound htarget hsignal ht he
  exact ⟨hanswer, _, t, e, D', e', hname, ht, he, hstep, hu', hch⟩

/-- The reads fail twice, and the third one finds the tenant of the registered cluster. -/
theorem sampleCluster_is_heard : ∃ D w, runSteps (step .positional Reference.service) {}
      ((clusterRegistered [{}] ++ [PlatformEvent.signalAccounting sampleCluster]).map .platform) =
        some D ∧
    D.platform.registrations sampleCluster = some w ∧ w.phase = .completed ∧
    (D.signalled 0 { reads := fun n => if n < 2 then some "connection refused" else none }
      { clusterId := uuidString sampleCluster, sequenceNumber := 1 }).1 = .ok () := by
  obtain ⟨D, hr, hd⟩ := runSteps_any (step .positional Reference.service) {}
    ((clusterRegistered [{}] ++ [PlatformEvent.signalAccounting sampleCluster]).map .platform)
    (fun D => (D.platform.registrations sampleCluster).any fun w => w.phase.isCompleted)
    (by decide +kernel)
  simp only [Option.any_eq_true] at hd
  obtain ⟨w, hw, hphase⟩ := hd
  have hdone : w.phase = .completed := by
    cases hp : w.phase with
    | completed => rfl
    | _ =>
      rw [hp] at hphase
      cases hphase
  exact ⟨D, w, hr, hw, hdone, (registered_clusters_are_heard hr hw hdone
    (parseUUID_uuidString sampleCluster) ⟨2, by decide, rfl⟩ (fun _ => rfl) rfl 0).1 rfl⟩

end Deployment
end CloudCredit.System
