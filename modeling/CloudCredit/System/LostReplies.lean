import CloudCredit.System.ProvisioningCourse
import CloudCredit.System.Registration

/-!
# Lost replies

An activity is repeated when its reply is lost, also if it took effect. Creating
accounts, writing their mapping and loading the wallet bear the repetition. The two
plain inserts do not: a row that is there already fails every further attempt. So a
provisioning or a registration with lost replies comes to the end of an undisturbed
one as long as these inserts are reported when they take effect.
-/
namespace CloudCredit.System

open Library TigerBeetle Domain Ledger Accounting Gateway

/-- The step of a tenant's provisioning an event is, if it is one. -/
def ownProvisioning (u : Uint128) : PlatformEvent → Option StoredEvent
  | .stored ev => if ev.provisions u then some ev else none
  | _ => none

/-- The event is a step of the registration of a cluster. -/
def PlatformEvent.registers (c : Uint128) : PlatformEvent → Bool
  | .insertCluster d _ | .deliverRegistration d | .signalAccounting d => d = c
  | _ => false

def ownRegistration (c : Uint128) (ev : PlatformEvent) : Option PlatformEvent :=
  if ev.registers c then some ev else none

section Course

variable (c : Uint128)

def ClusterLost (ev : PlatformEvent) : Prop :=
  ∃ att, ev = .insertCluster c att ∧ (att.executed = 0 ∨ att.reported = false)

def ClusterAnswered (ev : PlatformEvent) : Prop :=
  ∃ att, ev = .insertCluster c att ∧ att.executed ≠ 0 ∧ att.reported = true

/-- At most four attempts to insert the row with a lost reply, then one that is
answered, within the five attempts. -/
def ClusterCourse (run : Run Unit) : List PlatformEvent → Prop :=
  run.Pending maximumAttempts (ClusterLost c) (ClusterAnswered c) (· = [.deliverRegistration c])

/-- The request names a known provider and a tenant that is in the table and has its
accounting running. -/
def Platform.Admits (P : Platform) (req : RegisterClusterRequest) (v : Uint128) : Prop :=
  knownProvider req.cloudProvider = true ∧ v ∈ P.stored.db.tenants ∧
    P.signalTarget req.tenantId = some v

/-- What is to come in a phase, with the row of the cluster there or not. -/
def RegistrationCourse (found : Option ClusterRow) (row : ClusterRow) (phase : RegistrationPhase)
    (ds : List PlatformEvent) : Prop :=
  match phase with
  | .insertingCluster run =>
    found = (if run.outcome.isSome then some row else none) ∧ ClusterCourse c run ds
  | .signalling => found = some row ∧ ds = []
  | .completed | .failed _ => False

/-- What is to come of a registration that has the events `ds` left. -/
def OnRegistration (ds : List PlatformEvent) (P : Platform) : Prop :=
  match P.registrations c with
  | none => P.clusters c = none ∧ ClusterCourse c {} ds
  | some w => ∃ req v, w.input = registerCluster c req ∧ P.Admits req v ∧
      RegistrationCourse c (P.clusters c) (.inserted v req.cloudProvider req.region) w.phase ds

end Course

section Inserts

variable {att : RowsAttempt} {tenants : List Uint128} {rows : Table Uint128 ClusterRow}
  {c d v : Uint128} {req : RegisterClusterRequest}

theorem insertCluster_stopped (hv : parseUUID req.tenantId = some v) (hzero : att.executed = 0) :
    insertCluster att tenants rows (registerCluster c req) =
      (.error (.postgres "connection closed"), rows) := by
  simp [insertCluster, registerCluster, parseUUID_uuidString, hv, hzero]

theorem insertCluster_new (hv : parseUUID req.tenantId = some v) (hone : att.executed ≠ 0)
    (hknown : knownProvider req.cloudProvider = true) (hnone : rows c = none) (hrow : v ∈ tenants) :
    insertCluster att tenants rows (registerCluster c req) =
      (.ok (), rows.set c (.inserted v req.cloudProvider req.region)) := by
  simp [insertCluster, registerCluster, parseUUID_uuidString, hv, hone, hknown, hnone, hrow]

theorem insertCluster_other (hcd : c ≠ d) :
    (insertCluster att tenants rows (registerCluster d req)).2 c = rows c := by
  have hparse : parseUUID (registerCluster d req).clusterID = some d := parseUUID_uuidString d
  unfold insertCluster
  split
  · rfl
  · rfl
  · rename_i clusterUUID tenantUUID hcluster htenant
    cases hparse.symm.trans hcluster
    split_ifs
    · rfl
    · rfl
    · rfl
    · exact Table.set_other _ hcd _
    · rfl

end Inserts

namespace Platform

variable {h : Blake3} {tb : Service} {P P' : Platform} {ev : PlatformEvent} {c v : Uint128}
  {req : RegisterClusterRequest} {ds : List PlatformEvent}

theorem signalTarget_eq_some {tenantID : String} : P.signalTarget tenantID = some v ↔
    parseUUID tenantID = some v ∧ uuidString v = tenantID ∧
      ((P.stored.state.tenants v).bind (·.accounting)).isSome = true := by
  simp [signalTarget, Option.filter_eq_some_iff]

theorem Admits.step (ha : P.Admits req v) (hs : P.stored.state.Sound h)
    (hstep : P.step h tb ev = some P') : P'.Admits req v := by
  rcases (step_registers hstep).stored_step with hsame | ⟨ev', hev'⟩
  · unfold Admits signalTarget at ha ⊢
    rw [hsame]
    exact ha
  obtain ⟨hknown, hrow, htarget⟩ := ha
  obtain ⟨hparse, hspelled, hrunning⟩ := signalTarget_eq_some.mp htarget
  obtain ⟨e, he⟩ := Option.isSome_iff_exists.mp hrunning
  obtain ⟨t, hv, he⟩ := Option.bind_eq_some_iff.mp he
  obtain ⟨ev'', hstate⟩ := (Stored.step_writes hev').state
  obtain ⟨t', e', hv', he', -⟩ := State.step_execution hs hstate hv he
  refine ⟨hknown, Stored.step_tenants hev' hrow, signalTarget_eq_some.mpr ⟨hparse, hspelled, ?_⟩⟩
  simp [hv', he']

/-- A running accounting takes the signal. -/
theorem Admits.signal (ha : P.Admits req v) (h : Blake3) (tb : Service) (clusterID : String) : ∃ S,
    P.stored.step h tb (.system (.tenant v (.workflow (.register ⟨clusterID⟩)))) = some S := by
  obtain ⟨e, he⟩ := Option.isSome_iff_exists.mp (signalTarget_eq_some.mp ha.2.2).2.2
  obtain ⟨t, hv, he⟩ := Option.bind_eq_some_iff.mp he
  simp [Stored.step, Stored.writesRows, Stored.advance, State.step, hv, Tenant.act, Tenant.workflow,
    Event.asksLedger, Tenant.advance, he, Execution.step]

end Platform

namespace OnRegistration

variable {h : Blake3} {tb : Service} {P P' : Platform} {ev : PlatformEvent} {c : Uint128}
  {ds : List PlatformEvent}

theorem nil (hc : OnRegistration c [] P) : ∃ w req v, P.registrations c = some w ∧
    w.input = registerCluster c req ∧ w.phase = .signalling ∧ P.Admits req v ∧
    P.clusters c = some (.inserted v req.cloudProvider req.region) := by
  unfold OnRegistration at hc
  split at hc
  · cases hc.2.later_of_nil
  · rename_i w hw
    obtain ⟨req, v, hinput, hadmits, hcourse⟩ := hc
    unfold RegistrationCourse at hcourse
    split at hcourse
    · cases hcourse.2.later_of_nil
    · rename_i hphase
      exact ⟨w, req, v, hw, hinput, hphase, hadmits, hcourse.1⟩
    · cases hcourse
    · cases hcourse

/-- Steps that leave the registration alone. -/
theorem elsewhere (hc : OnRegistration c ds P) (hw : P'.registrations c = P.registrations c)
    (hrow : P'.clusters c = P.clusters c) (hadmits : ∀ req v, P.Admits req v → P'.Admits req v) :
    OnRegistration c ds P' := by
  unfold OnRegistration at hc ⊢
  rw [hw, hrow]
  split at hc
  · exact hc
  · obtain ⟨req, v, hinput, ha, hcourse⟩ := hc
    exact ⟨req, v, hinput, hadmits req v ha, hcourse⟩

/-- The steps of others, and the start of the registration. -/
theorem other (hc : OnRegistration c ds P) (hs : P.stored.state.Sound h) (hn : P.Named)
    (hev : ev.registers c = false)
    (hadmitted : ∀ req, ev = .registerCluster c req → ∃ v, P.Admits req v)
    (hstep : P.step h tb ev = some P') : OnRegistration c ds P' := by
  have hadmits : ∀ req v, P.Admits req v → P'.Admits req v := fun _ _ ha => ha.step hs hstep
  cases Platform.step_registers hstep with
  | stored => exact hc.elsewhere rfl rfl hadmits
  | @started d req hnone =>
    by_cases hcd : c = d
    · subst hcd
      obtain ⟨v, ha⟩ := hadmitted req rfl
      simp only [OnRegistration, hnone] at hc
      simp only [OnRegistration, Table.set_same]
      exact ⟨req, v, rfl, hadmits req v ha, hc⟩
    · exact hc.elsewhere (Table.set_other _ hcd _) rfl hadmits
  | @inserting d att w run run' hw hphase hrun =>
    have hcd : c ≠ d := fun heq => by simp [PlatformEvent.registers, heq] at hev
    obtain ⟨req, hinput⟩ := hn d w hw
    refine hc.elsewhere (Table.set_other _ hcd _) ?_ hadmits
    rw [hinput]
    exact insertCluster_other hcd
  | @inserted d | @fails d | @signalled d | @missed d =>
    have hcd : c ≠ d := fun heq => by simp [PlatformEvent.registers, heq] at hev
    exact hc.elsewhere (Table.set_other _ hcd _) rfl hadmits

theorem clusterRow {att : RowsAttempt} {w : Registration} {run run' : Run Unit}
    (hc : OnRegistration c (.insertCluster c att :: ds) P) (hw : P.registrations c = some w)
    (hphase : w.phase = .insertingCluster run)
    (hreported : att.executed ≠ 0 → att.reported = true)
    (hrun : run.attempt maximumAttempts false (heard att.reported
      (insertCluster att P.stored.db.tenants P.clusters w.input).1) = some run') :
    OnRegistration c ds ({ P with
      clusters := (insertCluster att P.stored.db.tenants P.clusters w.input).2 }.setPhase c w
        (.insertingCluster run')) := by
  simp only [OnRegistration, hw, hphase, RegistrationCourse] at hc
  obtain ⟨req, v, hinput, ha, hfound, hcourse⟩ := hc
  rw [(ActivityRun.attempt_some hrun).1] at hfound
  have hparse := (Platform.signalTarget_eq_some.mp ha.2.2).1
  simp only [OnRegistration, Platform.setPhase, Table.set_same, RegistrationCourse]
  refine ⟨req, v, hinput, ha, ?_⟩
  rw [hinput] at hrun ⊢
  by_cases hzero : att.executed = 0
  · obtain ⟨err, herr⟩ : ∃ e, heard att.reported
        (.error (.postgres "connection closed") : Except ActivityError Unit) = .error e :=
      heard_lost fun _ _ => by simp
    simp only [insertCluster_stopped hparse hzero, herr] at hrun ⊢
    have hnext : ClusterCourse c run' ds := by
      refine hcourse.attempt hrun (fun _ => ⟨err, rfl⟩) ?_
      rintro ⟨_, heq, hne, -⟩
      cases heq
      exact absurd hzero hne
    exact ⟨by simp [hfound, hnext.outcome_isSome hrun, Except.toBool], hnext⟩
  · simp only [insertCluster_new hparse hzero ha.1 hfound ha.2.1, heard, hreported hzero,
      if_true] at hrun ⊢
    have hnext : ClusterCourse c run' ds := by
      refine hcourse.attempt hrun ?_ fun _ => ⟨(), rfl⟩
      rintro ⟨_, heq, hlost⟩
      cases heq
      simp [hzero, hreported hzero] at hlost
    exact ⟨by simp [hnext.outcome_isSome hrun, Except.toBool], hnext⟩

/-- A step of the registration is the next one of its course. -/
theorem own (hc : OnRegistration c (ev :: ds) P) (hev : ev.registers c = true)
    (hreported : ∀ att, ev = .insertCluster c att → att.executed ≠ 0 → att.reported = true)
    (hstep : P.step h tb ev = some P') : OnRegistration c ds P' := by
  cases Platform.step_registers hstep with
  | stored => cases hev
  | started => cases hev
  | @inserting d att w run run' hw hphase hrun =>
    obtain rfl : d = c := by simpa [PlatformEvent.registers] using hev
    exact hc.clusterRow hw hphase (hreported att rfl) hrun
  | @inserted d w run hw hphase hout =>
    obtain rfl : d = c := by simpa [PlatformEvent.registers] using hev
    simp only [OnRegistration, hw, hphase, RegistrationCourse] at hc
    obtain ⟨req, v, hinput, ha, hfound, hcourse⟩ := hc
    simp only [OnRegistration, Platform.setPhase, Table.set_same, RegistrationCourse]
    have hlater := (hcourse.deliver hout).1
    exact ⟨req, v, hinput, ha, by simpa [hout] using hfound, (List.cons.inj hlater).2⟩
  | @fails d w run err hw hphase hout =>
    obtain rfl : d = c := by simpa [PlatformEvent.registers] using hev
    simp only [OnRegistration, hw, hphase, RegistrationCourse] at hc
    obtain ⟨req, v, hinput, ha, hfound, hcourse⟩ := hc
    obtain ⟨-, _, heq⟩ := hcourse.deliver hout
    cases heq
  | @signalled d _ _ _ hw hphase | @missed d _ _ hw hphase =>
    obtain rfl : d = c := by simpa [PlatformEvent.registers] using hev
    simp only [OnRegistration, hw, hphase, RegistrationCourse] at hc
    obtain ⟨req, v, hinput, ha, hfound, hnil⟩ := hc
    cases hnil

end OnRegistration

/-- No attempt of the two plain inserts takes effect without being reported. The
accounts of the tenant get new identifiers, and tenant and cluster are registered by
requests that an undisturbed workflow serves. -/
def PlatformEvent.Reported (u c : Uint128) (P : Platform) : PlatformEvent → Prop
  | .stored ev => ev.Reported u P.stored
  | .registerCluster d req => d = c → ∃ v ∈ P.stored.db.tenants, P.Admits req v
  | .insertCluster d att => d = c → att.executed ≠ 0 → att.reported = true
  | _ => True

theorem State.step_starts (h : Blake3) (tb : Service) {s : State} {u : Uint128} {t : Tenant}
    (hu : s.tenants u = some t) (hphase : t.provisioning.phase = .startingAccounting) :
    ∃ s', s.step h tb (.tenant u (.startAccounting (.ok ()))) = some s' := by
  simp [step, hu, Tenant.act, Tenant.startAccounting, Provisioning.accountingStarted, hphase]

namespace Platform

variable {h : Blake3} {tb : Service} {P Q Q' : Platform} {u c : Uint128} {ev : PlatformEvent}

/-- The states of a run. -/
theorem within (hreached : ∃ es, runSteps (step h tb) {} es = some Q)
    (hrest : ∃ es, runSteps (step h tb) Q es = some P)
    (hroom : P.stored.state.books.transfers.length + 3 ≤ 2 ^ 63) :
    Within h u (preimages P.stored.state.journal) Q.stored.state := by
  obtain ⟨es, hes⟩ := hreached
  obtain ⟨es₁, hes₁⟩ := run_stored hes
  obtain ⟨es₂, hes₂⟩ := Stored.run_state hes₁
  obtain ⟨ds, hds⟩ := hrest
  obtain ⟨ds₁, hds₁⟩ := run_stored hds
  obtain ⟨ds₂, hds₂⟩ := Stored.run_state hds₁
  refine ⟨State.run_planned u hes₂, State.run_refused hes₂,
    preimages_mono (State.run_journal hds₂).subset, ?_⟩
  have hgrows := (State.run_grows hds₂).transfers.length_le
  omega

theorem step_onCourse {ds : List StoredEvent}
    (hs : StepOf (step h tb) (fun Q ev => ev.Reported u c Q) {} P Q ev Q')
    (hother : ownProvisioning u ev = none) (hc : OnCourse u ds Q.stored) :
    OnCourse u ds Q'.stored := by
  cases step_registers hs.now with
  | @stored ev S hstep =>
    have hev : ev.provisions u = false := by simpa [ownProvisioning] using hother
    obtain ⟨haside, hrow⟩ := Stored.step_aside hev hs.meets hstep
    exact hc.aside haside hrow
  | signalled hw hphase htarget hstep =>
    obtain ⟨haside, hrow⟩ := Stored.step_aside (u := u) (by simp [StoredEvent.provisions,
      TenantEvent.provisions]) (by simp [StoredEvent.Reported]) hstep
    exact hc.aside haside hrow
  | _ => exact hc

/-- A provisioning on its course comes to the start of the accounting. -/
theorem run_onCourse {es : List PlatformEvent} (hr : runSteps (step h tb) {} es = some P)
    (hC : Along (step h tb) (fun Q ev => ev.Reported u c Q) {} es)
    (hfree : h.CollisionFree (preimages P.stored.state.journal))
    (hroom : P.stored.state.books.transfers.length + 3 ≤ 2 ^ 63)
    (hcourse : TenantCourse u {} (es.filterMap (ownProvisioning u))) : OnCourse u [] P.stored := by
  refine run_down (step h tb) (ownProvisioning u) (Q := fun ds Q => OnCourse u ds Q.stored)
    (fun Q ev Q' ds hs hother hc => step_onCourse hs hother hc) ?_ hC hr ⟨by simp, hcourse⟩
  intro Q ev Q' d ds hs hown hc
  have hw := within (u := u) hs.reached hs.leads hroom
  have hw' := within (u := u) hs.reaches hs.rest hroom
  have hmeets := hs.meets
  cases step_registers hs.now with
  | @stored ev S hstep =>
    simp only [ownProvisioning, Option.ite_none_right_eq_some, Option.some.injEq] at hown
    obtain ⟨hev, rfl⟩ := hown
    exact hc.own hfree hw hw' hev hmeets hstep
  | _ => cases hown

/-- A registration on its course comes to the signal. -/
theorem run_onRegistration {es : List PlatformEvent} (hr : runSteps (step h tb) {} es = some P)
    (hC : Along (step h tb) (fun Q ev => ev.Reported u c Q) {} es)
    (hcourse : ClusterCourse c {} (es.filterMap (ownRegistration c))) : OnRegistration c [] P := by
  refine run_down (step h tb) (ownRegistration c) (Q := OnRegistration c) ?_ ?_ hC hr
    ⟨rfl, hcourse⟩
  · intro Q ev Q' ds hs hother hc
    obtain ⟨es, hes⟩ := hs.reached
    obtain ⟨es₁, hes₁⟩ := run_stored hes
    obtain ⟨es₂, hes₂⟩ := Stored.run_state hes₁
    refine hc.other (State.run_sound hes₂) (run_named hes) (by simpa [ownRegistration] using hother)
      ?_ hs.now
    rintro req rfl
    obtain ⟨v, -, hv⟩ := hs.meets rfl
    exact ⟨v, hv⟩
  · intro Q ev Q' d ds hs hown hc
    simp only [ownRegistration, Option.ite_none_right_eq_some, Option.some.injEq] at hown
    obtain ⟨hev, rfl⟩ := hown
    refine hc.own hev ?_ hs.now
    rintro att rfl
    exact hs.meets rfl

end Platform

/-- Provisioning and registration absorb lost replies as long as the two plain inserts
are reported when they take effect. If each activity of a tenant's provisioning has at
most four attempts with a lost reply, with or without an effect, and then an attempt
that is answered, then the workflow completes: the row of the tenant and those of its
accounts are there, and every account has the credits of the registration. In the same
way the registration of a cluster completes with the row it was started for. -/
theorem Platform.lost_replies_absorbed {h : Blake3} {tb : Service} {P : Platform} (u c : Uint128)
    (es : List PlatformEvent) (hr : runSteps (step h tb) {} es = some P)
    (hreported : Along (step h tb) (fun Q ev => ev.Reported u c Q) {} es)
    (hfree : h.CollisionFree (preimages P.stored.state.journal))
    (hroom : P.stored.state.books.transfers.length + 3 ≤ 2 ^ 63) :
    (TenantCourse u {} (es.filterMap (ownProvisioning u)) → ∃ P' t req g now,
      P.step h tb (.stored (.system (.tenant u (.startAccounting (.ok ()))))) = some P' ∧
      P'.stored.state.tenants u = some t ∧ t.provisioning.phase = .completed ∧
      t.provisioning.input = Accounting.registerTenant req u g now ∧
      u ∈ P'.stored.db.tenants ∧
      ∀ r, ∃ i, t.provisioning.accountIDs r = some i ∧
        P'.stored.db.tbAccountIDs (u, r) = some i ∧
        P'.stored.state.books.account? i = some (quotaAccount u r i) ∧
        ((P'.stored.state.books.balance i).creditsPosted : ℤ) = (req.credits r).toInt) ∧
    (ClusterCourse c {} (es.filterMap (ownRegistration c)) → ∃ P' w req v,
      P.step h tb (.signalAccounting c) = some P' ∧ P'.registrations c = some w ∧
      w.input = System.registerCluster c req ∧ w.phase = .completed ∧
      parseUUID req.tenantId = some v ∧
      P'.clusters c = some (.inserted v req.cloudProvider req.region)) := by
  refine ⟨fun hcourse => ?_, fun hcourse => ?_⟩
  · obtain ⟨t, hu, hphase, hrow⟩ := (run_onCourse hr hreported hfree hroom hcourse).nil
    have hp := (within (u := u) ⟨es, hr⟩ ⟨[], rfl⟩ hroom).planned
    obtain ⟨req, g, now, hinput⟩ := hp.input t hu
    obtain ⟨es', hes'⟩ := run_stored hr
    have hmapped := (Stored.run_rowsMapped u hes').2 t hu
    simp only [Mapped, hphase] at hmapped
    obtain ⟨s', hstart⟩ := State.step_starts h tb hu hphase
    obtain ⟨t', hu', -, hbooks, -, htenant⟩ := State.step_completes hstart
    cases hu.symm.trans hu'
    refine ⟨{ P with stored := ⟨s', P.stored.db⟩ }, _, req, g, now, ?_, htenant, rfl, hinput, hrow,
      fun r => ?_⟩
    · simp [step, Stored.step, Stored.writesRows, Stored.advance, hstart]
    · obtain ⟨i, hi, hacc, hcredits⟩ := hp.wallet hfree hu hphase hinput r
      dsimp only
      rw [hbooks]
      exact ⟨i, hi, (congrFun hmapped r).trans hi, hacc, hcredits⟩
  · obtain ⟨w, req, v, hw, hinput, hphase, ha, hrow⟩ := (run_onRegistration hr hreported hcourse).nil
    obtain ⟨S, hS⟩ := ha.signal h tb w.input.clusterID
    have htarget : P.signalTarget w.input.tenantID = some v := by rw [hinput]; exact ha.2.2
    refine ⟨{ P with stored := S }.setPhase c w .completed, { w with phase := .completed }, req, v,
      ?_, Table.set_same _ _ _, hinput, rfl, (signalTarget_eq_some.mp ha.2.2).1, hrow⟩
    simp only [step, hw, Option.bind_some, hphase, htarget, hS, Option.map_some]

instance (P : Platform) (req : RegisterClusterRequest) (v : Uint128) :
    Decidable (P.Admits req v) := by
  unfold Platform.Admits
  infer_instance

instance (u : Uint128) (S : Stored) (ev : StoredEvent) : Decidable (ev.Reported u S) := by
  unfold StoredEvent.Reported
  split <;> infer_instance

instance (u c : Uint128) (P : Platform) (ev : PlatformEvent) : Decidable (ev.Reported u c P) := by
  unfold PlatformEvent.Reported
  split <;> infer_instance

def sampleCluster : Uint128 := sampleID 7

/-- Replies of every activity are lost, of the insert only without an effect. -/
def repliesLost : List PlatformEvent :=
  [.system (.startServer .answered (sampleRandom 50)),
    .system (.registerTenant sampleTenant { billingTier := "pro", cpuHoursCredits := 100 } 1000),
    .insertTenant sampleTenant { executed := 0 }, .insertTenant sampleTenant {},
    .system (.tenant sampleTenant .deliverProvisioning),
    .system (.tenant sampleTenant
      (.createAccounts { rand := sampleRandom 100, fate := .lostReply "reset" } true)),
    .system (.tenant sampleTenant (.createAccounts { rand := sampleRandom 110 } true)),
    .system (.tenant sampleTenant .deliverProvisioning),
    .insertTBAccountMapping sampleTenant { reported := false },
    .insertTBAccountMapping sampleTenant {},
    .system (.tenant sampleTenant .deliverProvisioning),
    .system (.tenant sampleTenant (.allocate {} false)),
    .system (.tenant sampleTenant (.allocate {} true)),
    .system (.tenant sampleTenant .deliverProvisioning)].map .stored

/-- A cluster of a provisioned tenant is registered. -/
def clusterRegistered (attempts : List RowsAttempt) : List PlatformEvent :=
  (storedProvisioning 4 20).map .stored ++
    [.registerCluster sampleCluster ⟨uuidString sampleTenant, "aws", "eu-west-1"⟩] ++
    attempts.map (.insertCluster sampleCluster ·) ++ [.deliverRegistration sampleCluster]

theorem repliesLost_course :
    TenantCourse sampleTenant {} (repliesLost.filterMap (ownProvisioning sampleTenant)) := by
  refine .start (.retry ⟨_, rfl, .inl rfl⟩ (.last ⟨_, rfl, by decide, rfl⟩)) ⟨_, rfl, ?_⟩
  refine .start (.retry ⟨_, _, rfl, .inl (by simp)⟩ (.last ⟨_, rfl, rfl⟩)) ⟨_, rfl, ?_⟩
  refine .start (.retry ⟨_, rfl, rfl⟩ (.last ⟨_, rfl, by decide, rfl⟩)) ⟨_, rfl, ?_⟩
  exact .start (.retry ⟨_, _, rfl, .inr rfl⟩ (.last ⟨_, rfl, rfl⟩)) ⟨_, rfl, rfl⟩

theorem clusterRegistered_course : ClusterCourse sampleCluster {}
    ((clusterRegistered [{ executed := 0 }, {}]).filterMap (ownRegistration sampleCluster)) :=
  .start (.retry ⟨_, rfl, .inl rfl⟩ (.last ⟨_, rfl, by decide, rfl⟩)) rfl

theorem Platform.repliesLost_absorbed :
    (∃ P P' t i, runSteps (step .positional Reference.service) {} repliesLost = some P ∧
      P.step .positional Reference.service
        (.stored (.system (.tenant sampleTenant (.startAccounting (.ok ()))))) = some P' ∧
      P'.stored.state.tenants sampleTenant = some t ∧ t.provisioning.phase = .completed ∧
      sampleTenant ∈ P'.stored.db.tenants ∧ t.provisioning.accountIDs .cpuHours = some i ∧
      P'.stored.db.tbAccountIDs (sampleTenant, .cpuHours) = some i) ∧
    ∃ P P' w, runSteps (step .positional Reference.service) {}
        (clusterRegistered [{ executed := 0 }, {}]) = some P ∧
      P.step .positional Reference.service (.signalAccounting sampleCluster) = some P' ∧
      P'.registrations sampleCluster = some w ∧ w.phase = .completed ∧
      (P'.clusters sampleCluster).isSome = true := by
  refine ⟨?_, ?_⟩
  · obtain ⟨P, hr, hp⟩ := runSteps_any (step .positional Reference.service) {} repliesLost
      (fun P => collisionTest .positional P.stored.state.journal &&
        P.stored.state.books.transfers.length + 3 ≤ 2 ^ 63) (by decide +kernel)
    simp only [Bool.and_eq_true, decide_eq_true_eq] at hp
    obtain ⟨P', t, req, g, now, hstart, ht, hphase, -, hrow, hwallet⟩ :=
      (lost_replies_absorbed sampleTenant sampleCluster repliesLost hr
        (along_of_alongTest _ (by decide +kernel)) (collisionFree_of_collisionTest hp.1) hp.2).1
        repliesLost_course
    obtain ⟨i, hi, hmapped, -, -⟩ := hwallet .cpuHours
    exact ⟨P, P', t, i, hr, hstart, ht, hphase, hrow, hi, hmapped⟩
  · obtain ⟨P, hr, hp⟩ := runSteps_any (step .positional Reference.service) {}
      (clusterRegistered [{ executed := 0 }, {}])
      (fun P => collisionTest .positional P.stored.state.journal &&
        P.stored.state.books.transfers.length + 3 ≤ 2 ^ 63) (by decide +kernel)
    simp only [Bool.and_eq_true, decide_eq_true_eq] at hp
    obtain ⟨P', w, req, v, hsignal, hw, -, hphase, -, hrow⟩ :=
      (lost_replies_absorbed sampleTenant sampleCluster _ hr
        (along_of_alongTest _ (by decide +kernel)) (collisionFree_of_collisionTest hp.1) hp.2).2
        clusterRegistered_course
    exact ⟨P, P', w, hr, hsignal, hw, hphase, by rw [hrow]; rfl⟩

/-- The row is inserted and the reply lost; each further attempt finds the key taken. -/
def insertRepeated : List PlatformEvent :=
  [.system (.startServer .answered (sampleRandom 50)),
    .system (.registerTenant sampleTenant { billingTier := "pro" } 1000),
    .insertTenant sampleTenant { reported := false }, .insertTenant sampleTenant {},
    .insertTenant sampleTenant {}, .insertTenant sampleTenant {}, .insertTenant sampleTenant {},
    .system (.tenant sampleTenant .deliverProvisioning)].map .stored

def ProvisioningPhase.failure : ProvisioningPhase → Option ActivityError
  | .failed err => some err
  | _ => none

def RegistrationPhase.failure : RegistrationPhase → Option RegistrationError
  | .failed err => some err
  | _ => none

/-- A lost reply of either insert fails its workflow, with the row left behind. -/
theorem Platform.lost_insert_fails :
    (∃ P t, runSteps (step .positional Reference.service) {} insertRepeated = some P ∧
      sampleTenant ∈ P.stored.db.tenants ∧ P.stored.state.tenants sampleTenant = some t ∧
      ProvisioningPhase.failure t.provisioning.phase = some (.postgres "duplicate key")) ∧
    ∃ P w row, runSteps (step .positional Reference.service) {}
        (clusterRegistered [{ reported := false }, {}, {}, {}, {}]) = some P ∧
      P.clusters sampleCluster = some row ∧ P.registrations sampleCluster = some w ∧
      w.phase.failure = some (.insertCluster (.postgres "duplicate key")) := by
  refine ⟨?_, ?_⟩
  · obtain ⟨P, hr, hp⟩ := runSteps_any (step .positional Reference.service) {} insertRepeated
      (fun P => sampleTenant ∈ P.stored.db.tenants && (P.stored.state.tenants sampleTenant).any
        fun t => ProvisioningPhase.failure t.provisioning.phase = some (.postgres "duplicate key"))
      (by decide +kernel)
    simp only [Bool.and_eq_true, Option.any_eq_true, decide_eq_true_eq] at hp
    obtain ⟨hrow, t, ht, hphase⟩ := hp
    exact ⟨P, t, hr, hrow, ht, hphase⟩
  · obtain ⟨P, hr, hp⟩ := runSteps_any (step .positional Reference.service) {}
      (clusterRegistered [{ reported := false }, {}, {}, {}, {}])
      (fun P => (P.clusters sampleCluster).isSome && (P.registrations sampleCluster).any
        fun w => w.phase.failure = some (.insertCluster (.postgres "duplicate key")))
      (by decide +kernel)
    simp only [Bool.and_eq_true, Option.isSome_iff_exists, Option.any_eq_true,
      decide_eq_true_eq] at hp
    obtain ⟨⟨row, hrow⟩, w, hw, hphase⟩ := hp
    exact ⟨P, w, row, hr, hrow, hw, hphase⟩

end CloudCredit.System
