import CloudCredit.Accounting.ReadyGauges

/-!
# Clusters that share the credits of one account

Which batches of gauge updates are accepted in every order of the clusters, and which have
the same outcome in every order. A cluster whose new reservation is refused has lost the old
one, unless it had none.
-/
namespace CloudCredit.Accounting

open Library TigerBeetle Domain Ledger

/-- The attempt succeeds, and every new reservation is accepted, reported and live. -/
def AllAccepted (h : Blake3) (input : TBBatchInput) (tb : Service) (att : BatchAttempt)
    (L : Books) : Prop :=
  ∃ result, (submitTBBatch h input tb att L).1 = .ok result ∧
    ∀ x ∈ gaugeUpdates input att.clusters,
      result.perResource x.2.resource = some { accepted := true, exceedsCredits := false } ∧
        (result.gaugeUpdates x.1).bind (· x.2.resource) =
          some (if 0 < x.2.newAmount then x.2.newPendingID else 0) ∧
        (0 < x.2.newAmount → ∃ p ∈ (submitTBBatch h input tb att L).2.live,
          p.id = x.2.newPendingID ∧ p.amount = x.2.newAmount.toNat)

/-- Every gauge is accepted in whatever order the clusters are visited. -/
def AcceptedInAnyOrder (h : Blake3) (input : TBBatchInput) (tb : Service) (att : BatchAttempt)
    (L : Books) : Prop :=
  ∀ o : IterationOrder String, AllAccepted h input tb { att with clusters := o } L

section Accepted

variable {h : Blake3} {input : TBBatchInput} {tb : Service} {att : BatchAttempt} {L : Books}
  {a b : Account}

theorem ok_books {result : TBBatchResult} (hok : (submitTBBatch h input tb att L).1 = .ok result) :
    (submitTBBatch h input tb att L).2 =
      (tb.createTransfers (tb.createTransfers L (usageRequest h input)).2
        (gaugeRequest input att)).2 := by
  rw [submitTBBatch_ok_books h input tb att L hok, batchRequest, Service.createTransfers_append]

theorem GaugesReady.submit_ok (hready : GaugesReady h L a b input) (att : BatchAttempt)
    (husage : UsagePasses h input tb att L)
    (hsent : gaugeRequest input att = [] ∨ att.gaugeFate = .answered) :
    (submitTBBatch h input tb att L).1 = .ok (batchResult input att (usageVerdicts h input tb L)
      (gaugeVerdicts h input tb att L)) := by
  rw [submitTBBatch_ok_iff, batchRequest, classifies_append]
  exact ⟨husage.1, hsent, ⟨classifies_iff.mpr husage.2,
    (classifies_gauge tb att.rand 0 _ _).mpr (hready.classified tb att)⟩, rfl⟩

theorem GaugesReady.granted_of_accepted (hready : GaugesReady h L a b input)
    (haccepted : AllAccepted h input tb att L) :
    GrantedBy (fun _ => true) (orderedUpdates input att.clusters)
      (gaugeVerdicts h input tb att L) := by
  obtain ⟨result, hok, hall⟩ := haccepted
  refine grantedBy_of_forall (gaugeVerdicts_length h input tb att L) fun x hx => ?_
  obtain ⟨y, hy, hyx⟩ := List.mem_map.mp (List.of_mem_zip hx).1
  rw [hready.granted_iff_live tb att hx, ← hyx, ← ok_books hok]
  exact ⟨fun _ => (hall y hy).2.2, fun _ => rfl⟩

theorem GaugesReady.accepted_of_granted (hready : GaugesReady h L a b input)
    (husage : UsagePasses h input tb att L)
    (hsent : gaugeRequest input att = [] ∨ att.gaugeFate = .answered)
    (hg : GrantedBy (fun _ => true) (orderedUpdates input att.clusters)
      (gaugeVerdicts h input tb att L)) : AllAccepted h input tb att L := by
  have hok := hready.submit_ok att husage hsent
  refine ⟨_, hok, fun x hx => ⟨?_, ?_, ?_⟩⟩
  · rw [gauge_resource hx, hready.result hg]
    dsimp only
    rw [Table.setAll_const (k := .activeNodes) (v := { accepted := true, exceedsCredits := false })
      _ (by simpa using List.ne_nil_of_mem hx) (by simp), Table.set_same]
  · rw [hready.result hg, Table.setInAll_apply]
    refine Table.setAll_of_mem _ ?_ (List.mem_map.mpr ⟨x, hx, by simp [settledResult, updateKey]⟩)
    rw [List.map_map]
    exact gaugeUpdates_keys_nodup att.clusters
  · rw [ok_books hok]
    obtain ⟨y, hy, hyx⟩ := (Table.exists_mem_zip (gaugeVerdicts_length h input tb att L)
      (· = x.2)).mpr ⟨x.2, List.mem_map_of_mem hx, rfl⟩
    rw [← hyx]
    exact (hready.granted_iff_live tb att hy).mp ((hg.iff_of_mem hy).mp rfl)

end Accepted

/-- A heartbeat that reports nodes only. -/
def nodesHeartbeat (clusterID : String) (clusterUUID : Uint128) (nodes : Int32) :
    HeartbeatSignal where
  clusterID
  clusterUUID
  sequenceNumber := 1
  cpuMillisecondsDelta := 0
  memoryMBSecondsDelta := 0
  activeNodes := nodes
  heartbeatTimestampNs := 1

/-- Identifiers for the nodes of two clusters. -/
def nodesOf (i j : UInt8) : Table String (Table ResourceType Uint128) :=
  (Table.empty.set "a" (Table.empty.set .activeNodes (sameBytes i))).set "b"
    (Table.empty.set .activeNodes (sameBytes j))

/-- The batch in which the two clusters of the sample account report their nodes. -/
def sampleNodesInput (x y : Int32) : TBBatchInput where
  tenantUUID := sameBytes 9
  accountMap := ⟨Table.empty.set .activeNodes sampleQuota.id⟩
  heartbeats := [nodesHeartbeat "a" (sameBytes 5) x, nodesHeartbeat "b" (sameBytes 6) y]
  globalOperatorIDs := Table.empty.set .activeNodes (sameBytes 3)
  globalSinkIDs := Table.empty.set .activeNodes (sameBytes 2)
  pendingGaugeIDs := nodesOf 11 12
  newGaugePendingIDs := nodesOf 31 32
  gaugeVoidIDs := nodesOf 41 42

def sampleSink : Account := globalAccount (.activeNodes, .sink) (sameBytes 2)

/-- What is reported for the nodes of a cluster. -/
def reportedNodes (reply : Except ActivityError TBBatchResult) (clusterID : String) :
    Option Uint128 :=
  match reply with
  | .ok result => (result.gaugeUpdates clusterID).bind (· .activeNodes)
  | .error _ => none

theorem exists_of_reportedNodes {reply : Except ActivityError TBBatchResult} {c : String}
    {i : Uint128} (hi : reportedNodes reply c = some i) :
    ∃ result, reply = .ok result ∧ (result.gaugeUpdates c).bind (· .activeNodes) = some i := by
  cases reply with
  | error e => cases hi
  | ok result => exact ⟨result, rfl, hi⟩

theorem sampleNodes_ready : ∀ z ∈ [((2 : Int32), (7 : Int32)), (7, 3)],
    GaugesReady .positional sampleNodes sampleQuota sampleSink (sampleNodesInput z.1 z.2) := by
  intro z hz
  simp only [List.mem_cons, List.not_mem_nil, or_false] at hz
  rcases hz with rfl | rfl <;>
    exact ⟨sampleNodes_wf, rfl, ⟨rfl, rfl⟩,
      ⟨by decide +kernel, by decide +kernel, by decide +kernel, by decide +kernel,
        by decide +kernel, by decide +kernel⟩,
      ⟨by decide +kernel, by decide +kernel, by decide, by decide +kernel, by decide +kernel,
        by decide +kernel, by decide +kernel⟩, by decide +kernel⟩

/-- The outcome does not depend on the order in which the clusters are visited. -/
def OrderIrrelevant (h : Blake3) (input : TBBatchInput) (tb : Service) (att : BatchAttempt)
    (L : Books) : Prop :=
  ∀ o o' : IterationOrder String,
    (submitTBBatch h input tb { att with clusters := o' } L).1 =
        (submitTBBatch h input tb { att with clusters := o } L).1 ∧
      SameStanding (submitTBBatch h input tb { att with clusters := o } L).2
        (submitTBBatch h input tb { att with clusters := o' } L).2

/-- The same reservations are granted in every order. When the answers come back they also
have one verdict, because the result has one entry for all of them. -/
def SteadyFate (fate : Fate) (L : Books) (i : Uint128) (us : List GaugePendingUpdate) : Prop :=
  match fate with
  | .answered => FitsBesidePeaks L i us ∨ NoneFits L i us
  | .lostReply _ => ∃ p, SteadyGauges L i p us
  | .lostRequest _ => True

theorem submitGauges_lost {input : TBBatchInput} {att : BatchAttempt}
    (hne : gaugeRequest input att ≠ []) (hfate : att.gaugeFate ≠ .answered) (tb : Service)
    (per : Table ResourceType ResourceBatchResult) (L : Books) :
    ∃ cause, (att.gaugeFate = .lostRequest cause ∨ att.gaugeFate = .lostReply cause) ∧
      (submitGauges input tb att per L).1 =
        .error (.submitGaugePendingUpdates (.gaugeCreateTransfers cause)) := by
  have hupdates : gaugeUpdates input att.clusters ≠ [] := fun hnil =>
    hne (gaugeRequest_eq_nil_of_nil input att hnil)
  have htransfers : gaugeTransfers att.rand 0 ((gaugeUpdates input att.clusters).map Prod.snd) ≠ [] :=
    fun hnil => hne (by rw [gaugeRequest, hnil, List.map_nil])
  obtain ⟨cause, hcause, he⟩ := submitGaugePendingUpdates_lost tb att.rand L _ htransfers hfate
  refine ⟨cause, hcause, ?_⟩
  rw [submitGauges_of_ne input tb att L per hupdates, he]

section Orders

variable {h : Blake3} {input : TBBatchInput} {tb : Service} {att : BatchAttempt} {L : Books}
  {a b : Account} {p : GaugePendingUpdate → Bool} (hready : GaugesReady h L a b input)
include hready

theorem GaugesReady.granted_of_nil (hnil : gaugeRequest input att = []) :
    GrantedInAnyOrder h input tb att L fun _ => true := by
  intro o
  refine grantedBy_of_forall (gaugeVerdicts_length h input tb _ L) fun x hx => ?_
  refine ⟨fun _ => ?_, fun _ => rfl⟩
  rcases (hready.settles tb { att with clusters := o }).verdicts x hx with ⟨-, hnone⟩ | ⟨hpos, -⟩
  · simp [hnone]
  · obtain ⟨y, hy, hyx⟩ := List.mem_map.mp (List.of_mem_zip hx).1
    have hnil' := (hready.request_nil att { att with clusters := o }).mpr hnil
    have hids : ∀ u ∈ orderedUpdates input o, u.newPendingID ≠ 0 ∧ u.voidTransferID ≠ 0 := by
      intro u hu
      obtain ⟨z, hz, rfl⟩ := List.mem_map.mp hu
      exact hready.given o z hz
    have hown := gaugeTransfers_eq_own hids att.rand 0
    rw [gaugeRequest, show (gaugeUpdates input o).map Prod.snd = orderedUpdates input o from rfl,
      hown, List.flatMap_eq_nil_iff] at hnil'
    have hu := hnil' x.1 (List.of_mem_zip hx).1
    simp [ownTransfers, GaugePendingUpdate.transfers, hpos] at hu

theorem GaugesReady.irrelevant_of_granted (husage : UsagePasses h input tb att L)
    (hsame : att.gaugeFate.reached = true → ∃ p, GrantedInAnyOrder h input tb att L p)
    (hone : att.gaugeFate = .answered → ∃ granted, GrantedInAnyOrder h input tb att L
      fun _ => granted) :
    OrderIrrelevant h input tb att L := by
  intro o o'
  have hs := (usageSucceeds_iff h input tb att L).mpr husage
  constructor
  · by_cases hsent : gaugeRequest input att = [] ∨ att.gaugeFate = .answered
    · obtain ⟨granted, hg⟩ : ∃ granted, GrantedInAnyOrder h input tb att L fun _ => granted :=
        hsent.elim (fun hnil => ⟨true, hready.granted_of_nil hnil⟩) hone
      have hsent' : ∀ o : IterationOrder String,
          gaugeRequest input { att with clusters := o } = [] ∨ att.gaugeFate = .answered := fun o =>
        hsent.imp (hready.request_nil att _).mpr id
      rw [hready.submit_ok { att with clusters := o } husage (hsent' o),
        hready.submit_ok { att with clusters := o' } husage (hsent' o')]
      exact congrArg Except.ok (hready.same_result (hg o) (hg o') _)
    · rw [not_or] at hsent
      have hne : ∀ o : IterationOrder String, gaugeRequest input { att with clusters := o } ≠ [] :=
        fun o hnil => hsent.1 ((hready.request_nil att _).mp hnil)
      rw [submitTBBatch_of_succeeds h input tb { att with clusters := o } L hs,
        submitTBBatch_of_succeeds h input tb { att with clusters := o' } L hs]
      obtain ⟨cause, hcause, he⟩ := submitGauges_lost (hne o) hsent.2 tb
        (usageVerdicts h input tb L) (tb.createTransfers L (usageRequest h input)).2
      obtain ⟨cause', hcause', he'⟩ := submitGauges_lost (hne o') hsent.2 tb
        (usageVerdicts h input tb L) (tb.createTransfers L (usageRequest h input)).2
      rw [he, he']
      rcases hcause with hc | hc <;> rcases hcause' with hc' | hc' <;>
        cases hc.symm.trans hc' <;> rfl
  · rw [submitTBBatch_of_succeeds h input tb { att with clusters := o } L hs,
      submitTBBatch_of_succeeds h input tb { att with clusters := o' } L hs, submitGauges_books,
      submitGauges_books]
    by_cases hreached : att.gaugeFate.reached = true
    · obtain ⟨p, hg⟩ := hsame hreached
      rw [if_pos hreached, if_pos hreached]
      exact hready.same_standing (hg o) (hg o')
    · rw [if_neg hreached, if_neg hreached]
      exact .refl _

theorem GaugesReady.granted_of_irrelevant (husage : UsagePasses h input tb att L)
    (hreached : att.gaugeFate.reached = true) (hirr : OrderIrrelevant h input tb att L) :
    ∃ p, GrantedInAnyOrder h input tb att L p := by
  classical
  have hs := (usageSucceeds_iff h input tb att L).mpr husage
  have hbooks : ∀ o : IterationOrder String,
      (submitTBBatch h input tb { att with clusters := o } L).2 =
        (tb.createTransfers (tb.createTransfers L (usageRequest h input)).2
          (gaugeRequest input { att with clusters := o })).2 := by
    intro o
    rw [submitTBBatch_of_succeeds h input tb { att with clusters := o } L hs, submitGauges_books]
    exact if_pos hreached
  refine ⟨fun u => decide (0 < u.newAmount → ∃ q ∈ (submitTBBatch h input tb att L).2.live,
    q.id = u.newPendingID ∧ q.amount = u.newAmount.toNat), fun o => ?_⟩
  refine grantedBy_of_forall (gaugeVerdicts_length h input tb _ L) fun x hx => ?_
  have hlive := (hirr att.clusters o).2.live
  rw [hready.granted_iff_live tb { att with clusters := o } hx, ← hbooks o, decide_eq_true_eq]
  simp only [hlive.mem_iff]

theorem GaugesReady.one_verdict (husage : UsagePasses h input tb att L)
    (hfate : att.gaugeFate = .answered) (hirr : OrderIrrelevant h input tb att L)
    (hg : GrantedInAnyOrder h input tb att L p) {u v : GaugePendingUpdate}
    (hu : u ∈ orderedUpdates input (.listed String))
    (hv : v ∈ orderedUpdates input (.listed String)) : p u = p v := by
  have hlast : ∀ w ∈ orderedUpdates input (.listed String), ∃ o : IterationOrder String,
      (batchResult input { att with clusters := o } (usageVerdicts h input tb L)
        (gaugeVerdicts h input tb { att with clusters := o } L)).perResource .activeNodes =
          some { accepted := p w, exceedsCredits := !p w } := by
    intro w hw
    obtain ⟨x, hx, rfl⟩ := List.mem_map.mp hw
    obtain ⟨s, t, hsplit⟩ := List.append_of_mem hx
    have hperm : ((s ++ t) ++ [x]).Perm (gaugeUpdates input (.listed String)) := by
      rw [hsplit]
      exact (List.perm_append_singleton x (s ++ t)).trans List.perm_middle.symm
    obtain ⟨o, ho⟩ := exists_order hperm
    exact ⟨o, hready.last_verdict (hg o) ho _⟩
  obtain ⟨o, ho⟩ := hlast u hu
  obtain ⟨o', ho'⟩ := hlast v hv
  have hsame := (hirr o' o).1
  rw [hready.submit_ok { att with clusters := o } husage (.inr hfate),
    hready.submit_ok { att with clusters := o' } husage (.inr hfate),
    Except.ok.injEq] at hsame
  rw [hsame, ho', Option.some.injEq] at ho
  exact (congrArg ResourceBatchResult.accepted ho).symm

end Orders

theorem irrelevant_of_not_passing {h : Blake3} {input : TBBatchInput} {tb : Service}
    {att : BatchAttempt} {L : Books} (hnot : ¬UsagePasses h input tb att L) :
    OrderIrrelevant h input tb att L := by
  intro o o'
  have hs : ¬usageSucceeds h input tb att L := fun hs =>
    hnot ((usageSucceeds_iff h input tb att L).mp hs)
  obtain ⟨e, he⟩ := submitUsage_fails h input tb att L hs
  have hsame : ∀ o : IterationOrder String, submitTBBatch h input tb { att with clusters := o } L =
      submitTBBatch h input tb att L := by
    intro o
    unfold submitTBBatch
    rw [show submitUsage h input tb { att with clusters := o } L = submitUsage h input tb att L
      from rfl]
    rcases hu : submitUsage h input tb att L with ⟨_ | per, L'⟩
    · rfl
    · rw [hu] at he
      cases he
  rw [hsame o, hsame o']
  exact ⟨rfl, .refl _⟩

/-- The clusters in the opposite order. -/
def reverseOrder : IterationOrder String := ⟨List.reverse, List.reverse_perm⟩

/-- The update at position `i` fits after those before it were admitted. -/
def FitsInTurn (L : Books) (account : Uint128) (us : List GaugePendingUpdate) (i : ℕ)
    (u : GaugePendingUpdate) : Prop :=
  (u.change L).fits (L.balance account).creditsPosted (heldAfter (L.balance account).creditsPosted
    (usedCredits L account) ((us.take i).map (·.change L))) = true

/-- The call got through and the ledger refused the new reservation of the update at
position `i`. -/
def RefusedAt (tb : Service) (fate : Fate) (rand : ℕ → Uint128) (L : Books)
    (us : List GaugePendingUpdate) (i : ℕ) : Prop :=
  fate.reached = true ∧
    (gaugeAnswers tb rand 0 L us).1[i]?.bind (·.new) = some .exceedsCredits

/-- The old reservation of the update at position `i` is live as it was, and the workflow
keeps its record. -/
def OldKept (tb : Service) (fate : Fate) (rand : ℕ → Uint128) (L : Books)
    (us : List GaugePendingUpdate) (i : ℕ) (u : GaugePendingUpdate) : Prop :=
  ∀ old, u.oldPendingID = some old →
    (∃ p ∈ L.live, p.id = old ∧ p ∈ (submitGaugePendingUpdates tb fate rand L us).2.live) ∧
      ∀ results r, (submitGaugePendingUpdates tb fate rand L us).1 = .ok results →
        results[i]? = some r → ∀ (pending updates : GaugeIDs) (c : String) (q : ResourceType),
          (pending c).bind (· q) = some old → (updates c).bind (· q) = some r.newPendingID →
            (applyGaugeUpdates pending updates c).bind (· q) = some old

/-- If the update at position `i` is refused, its old reservation is kept. -/
def KeptIfRefused (tb : Service) (fate : Fate) (rand : ℕ → Uint128) (L : Books)
    (us : List GaugePendingUpdate) (i : ℕ) (u : GaugePendingUpdate) : Prop :=
  RefusedAt tb fate rand L us i → OldKept tb fate rand L us i u

end CloudCredit.Accounting
