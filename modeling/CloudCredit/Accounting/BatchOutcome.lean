import CloudCredit.Accounting.ActivitiesTB
import CloudCredit.Ledger.Verdicts

/-!
# What one attempt of the batch activity does

The requests of an attempt as plain lists of transfers, which of them get
through to the service, and the result as a function of the service's answers.
-/
namespace CloudCredit.Accounting

open Library TigerBeetle Domain Ledger

/-- The answers the two submission paths have a case for: those of `submitBatch`,
and for a void also the answers that its reservation is gone. -/
def Classified (t : Transfer) (r : CreateTransferResult) : Prop :=
  gaugeClassified t.flags.voidPendingTransfer r = true

/-- Every answer of a request has a case. -/
def Classifies (tb : Service) : Books → List Transfer → Prop
  | _, [] => True
  | L, t :: ts => Classified t (tb.createTransfer L t).1 ∧ Classifies tb (tb.createTransfer L t).2 ts

theorem classifies_append (tb : Service) (L : Books) (xs ys : List Transfer) :
    Classifies tb L (xs ++ ys) ↔
      Classifies tb L xs ∧ Classifies tb (tb.createTransfers L xs).2 ys := by
  induction xs generalizing L with
  | nil => simp [Classifies, Service.createTransfers]
  | cons x xs ih => simp [Classifies, Service.createTransfers, ih, and_assoc]

theorem classified_of_regular {t : Transfer} (ht : t.flags.voidPendingTransfer = false)
    (r : CreateTransferResult) : Classified t r ↔ classified r = true := by
  simp [Classified, gaugeClassified, ht]

theorem classifies_regular (tb : Service) {ts : List Transfer}
    (hts : ∀ t ∈ ts, t.flags.voidPendingTransfer = false) (L : Books) :
    Classifies tb L ts ↔ ∀ r ∈ (tb.createTransfers L ts).1, classified r = true := by
  induction ts generalizing L with
  | nil => simp [Classifies, Service.createTransfers]
  | cons t ts ih =>
    simp only [List.forall_mem_cons] at hts
    simp only [Classifies, Service.createTransfers, List.forall_mem_cons, ih hts.2,
      classified_of_regular hts.1]

theorem classifies_update (tb : Service) (rand : ℕ → Uint128) (n : ℕ) (L : Books)
    (u : GaugePendingUpdate) :
    Classifies tb L ((u.transfers rand n).map Prod.fst) ↔
      UpdateAnswer.Classified ⟨(answerVoid tb rand n L u).1,
        (answerNew tb rand n (answerVoid tb rand n L u).2 u).1⟩ := by
  unfold GaugePendingUpdate.transfers answerVoid answerNew UpdateAnswer.Classified
  cases u.oldPendingID <;> split_ifs <;>
    simp [Classifies, Classified, gaugeClassified, GaugePendingUpdate.voidTransfer,
      GaugePendingUpdate.newTransfer]

theorem classifies_gauge (tb : Service) (rand : ℕ → Uint128) (n : ℕ) (L : Books)
    (us : List GaugePendingUpdate) :
    Classifies tb L ((gaugeTransfers rand n us).map Prod.fst) ↔
      ∀ a ∈ (gaugeAnswers tb rand n L us).1, a.Classified := by
  induction us generalizing n L with
  | nil => simp [gaugeTransfers, gaugeAnswers, Classifies]
  | cons u us ih =>
    simp only [gaugeTransfers, List.map_append, classifies_append, classifies_update,
      createTransfers_update, ih, gaugeAnswers, List.forall_mem_cons]

section Attempt

variable (h : Blake3) (input : TBBatchInput) (tb : Service) (att : BatchAttempt) (L : Books)

/-- The first request of an attempt. -/
def usageRequest : List Transfer := (usageTransfers h input).map (·.2.toTransfer)

/-- The second request of an attempt. -/
def gaugeRequest : List Transfer :=
  (gaugeTransfers att.rand 0 ((gaugeUpdates input att.clusters).map Prod.snd)).map Prod.fst

/-- The verdicts of the first request, for the given answers. -/
def usageTable (answers : List CreateTransferResult) : Table ResourceType ResourceBatchResult :=
  Table.empty.setAll (((usageTransfers h input).zip answers).map fun x =>
    (x.1.2.resource, ⟨x.2 ≠ .exceedsCredits, x.2 = .exceedsCredits, duplicate x.2⟩))

/-- The results of the second request, for the given answers. -/
def gaugePairs (answers : List UpdateAnswer) :
    List ((String × GaugePendingUpdate) × GaugePendingResult) :=
  (gaugeUpdates input att.clusters).zip
    (gaugeOutcomes att.rand 0 ((gaugeUpdates input att.clusters).map Prod.snd) answers)

theorem usageRequest_regular : ∀ t ∈ usageRequest h input, t.flags.voidPendingTransfer = false := by
  intro t ht
  obtain ⟨x, -, rfl⟩ := List.mem_map.mp ht
  rfl

theorem usageRequest_eq :
    usageRequest h input = ((usageTransfers h input).map Prod.snd).map UsageTransfer.toTransfer := by
  simp [usageRequest]

theorem usageRequest_eq_nil : usageRequest h input = [] ↔ usageTransfers h input = [] := by
  simp [usageRequest]

theorem submitUsage_of_nil (hnil : usageTransfers h input = []) :
    submitUsage h input tb att L = (.ok Table.empty, L) := by
  simp [submitUsage, hnil]

theorem submitUsage_of_ne (hne : usageTransfers h input ≠ []) :
    submitUsage h input tb att L =
      (match (submitUsageBatch tb att.usageFate L ((usageTransfers h input).map Prod.snd)).1 with
        | .error e => .error (.submitUsageBatch e)
        | .ok results =>
          .ok (Table.empty.setAll (((usageTransfers h input).zip results).map usageResult)),
        (submitUsageBatch tb att.usageFate L ((usageTransfers h input).map Prod.snd)).2) := by
  unfold submitUsage
  dsimp only
  rw [if_neg hne]
  rcases submitUsageBatch tb att.usageFate L ((usageTransfers h input).map Prod.snd) with
    ⟨_ | results, L'⟩ <;> rfl

theorem submitUsage_books :
    (submitUsage h input tb att L).2 =
      if att.usageFate.reached then (tb.createTransfers L (usageRequest h input)).2 else L := by
  by_cases hnil : usageTransfers h input = []
  · rw [submitUsage_of_nil h input tb att L hnil, (usageRequest_eq_nil h input).mpr hnil]
    exact (ite_self L).symm
  · rw [submitUsage_of_ne h input tb att L hnil, usageRequest_eq]
    exact submitBatch_books tb L _ _ att.usageFate

theorem submitUsage_congr {M : Books} (hanswers : att.usageFate.reached = true →
      (tb.createTransfers M (usageRequest h input)).1 =
        (tb.createTransfers L (usageRequest h input)).1) :
    (submitUsage h input tb att M).1 = (submitUsage h input tb att L).1 := by
  by_cases hnil : usageTransfers h input = []
  · rw [submitUsage_of_nil h input tb att L hnil, submitUsage_of_nil h input tb att M hnil]
  · rw [submitUsage_of_ne h input tb att L hnil, submitUsage_of_ne h input tb att M hnil]
    rw [usageRequest_eq] at hanswers
    have hreply := submitBatch_congr tb L _
      (fun i => (((usageTransfers h input).map Prod.snd)[i]?.map (·.resource)).getD .cpuHours)
      (tb.request_congr hanswers)
    simp only [submitUsageBatch, hreply]

theorem zip_verdicts (us : List (HeartbeatSignal × UsageTransfer))
    (answers : List CreateTransferResult) :
    (us.zip (List.zipWith verdictOf ((us.map Prod.snd).map (·.resource)) answers)).map usageResult =
      (us.zip answers).map fun x =>
        (x.1.2.resource, ⟨x.2 ≠ .exceedsCredits, x.2 = .exceedsCredits, duplicate x.2⟩) := by
  induction us generalizing answers with
  | nil => rfl
  | cons u us ih =>
    cases answers with
    | nil => rfl
    | cons r rs =>
      simp only [List.map_cons, List.zipWith_cons_cons, List.zip_cons_cons, ih]
      rfl

/-- The first request succeeds when it is empty or answered, and every answer
has a case. -/
theorem submitUsage_ok_iff (per : Table ResourceType ResourceBatchResult) :
    (submitUsage h input tb att L).1 = .ok per ↔
      (usageTransfers h input = [] ∨ att.usageFate = .answered) ∧
        Classifies tb L (usageRequest h input) ∧
        per = usageTable h input (tb.createTransfers L (usageRequest h input)).1 := by
  by_cases hnil : usageTransfers h input = []
  · rw [submitUsage_of_nil h input tb att L hnil, (usageRequest_eq_nil h input).mpr hnil]
    simp [hnil, Classifies, usageTable, eq_comm]
  · have hbatch := submitUsageBatch_ok_iff tb L ((usageTransfers h input).map Prod.snd) att.usageFate
    rw [← usageRequest_eq] at hbatch
    rw [submitUsage_of_ne h input tb att L hnil,
      classifies_regular tb (usageRequest_regular h input) L]
    simp only [hnil, false_or]
    constructor
    · intro hok
      cases hres : (submitUsageBatch tb att.usageFate L ((usageTransfers h input).map Prod.snd)).1 with
      | error e =>
        rw [hres] at hok
        cases hok
      | ok results =>
        obtain ⟨hfate, hc, rfl⟩ := (hbatch results).mp hres
        rw [hres] at hok
        simp only [Except.ok.injEq, zip_verdicts] at hok
        exact ⟨hfate, hc, hok.symm⟩
    · rintro ⟨hfate, hc, rfl⟩
      rw [(hbatch _).mpr ⟨hfate, hc, rfl⟩]
      simp only [zip_verdicts]
      rfl

theorem gaugeRequest_eq_nil_of_nil (hnil : gaugeUpdates input att.clusters = []) :
    gaugeRequest input att = [] := by
  simp [gaugeRequest, hnil, gaugeTransfers]

theorem createTransfers_gaugeRequest :
    tb.createTransfers L (gaugeRequest input att) =
      (flatAnswers (gaugeAnswers tb att.rand 0 L ((gaugeUpdates input att.clusters).map Prod.snd)).1,
        (gaugeAnswers tb att.rand 0 L ((gaugeUpdates input att.clusters).map Prod.snd)).2) :=
  createTransfers_gauge tb att.rand 0 L _

variable (per : Table ResourceType ResourceBatchResult)

/-- The result of an attempt, for the verdicts of its first request and the
answers to its second. -/
def batchResult (answers : List UpdateAnswer) : TBBatchResult where
  perResource := per.setAll ((gaugePairs input att answers).map gaugeResult)
  gaugeUpdates := Table.empty.setInAll ((gaugePairs input att answers).map gaugeID)

theorem submitGauges_of_nil (hnil : gaugeUpdates input att.clusters = []) :
    submitGauges input tb att per L = (.ok { perResource := per }, L) := by
  simp [submitGauges, hnil]

theorem submitGauges_of_ne (hne : gaugeUpdates input att.clusters ≠ []) :
    submitGauges input tb att per L =
      (match (submitGaugePendingUpdates tb att.gaugeFate att.rand L
          ((gaugeUpdates input att.clusters).map Prod.snd)).1 with
        | .error e => .error (.submitGaugePendingUpdates e)
        | .ok results =>
          .ok {
            perResource :=
              per.setAll (((gaugeUpdates input att.clusters).zip results).map gaugeResult)
            gaugeUpdates :=
              Table.empty.setInAll (((gaugeUpdates input att.clusters).zip results).map gaugeID) },
        (submitGaugePendingUpdates tb att.gaugeFate att.rand L
          ((gaugeUpdates input att.clusters).map Prod.snd)).2) := by
  unfold submitGauges
  dsimp only
  rw [if_neg hne]
  rcases submitGaugePendingUpdates tb att.gaugeFate att.rand L
    ((gaugeUpdates input att.clusters).map Prod.snd) with ⟨_ | results, L'⟩ <;> rfl

theorem submitGauges_books :
    (submitGauges input tb att per L).2 =
      if att.gaugeFate.reached then (tb.createTransfers L (gaugeRequest input att)).2 else L := by
  by_cases hnil : gaugeUpdates input att.clusters = []
  · rw [submitGauges_of_nil input tb att L per hnil, gaugeRequest_eq_nil_of_nil input att hnil]
    exact (ite_self L).symm
  · rw [submitGauges_of_ne input tb att L per hnil, createTransfers_gaugeRequest]
    exact submitGaugePendingUpdates_books tb att.rand L _ att.gaugeFate

theorem submitGauges_congr {M : Books} (hanswers : att.gaugeFate.reached = true →
      (tb.createTransfers M (gaugeRequest input att)).1 =
        (tb.createTransfers L (gaugeRequest input att)).1) :
    (submitGauges input tb att per M).1 = (submitGauges input tb att per L).1 := by
  by_cases hnil : gaugeUpdates input att.clusters = []
  · rw [submitGauges_of_nil input tb att L per hnil, submitGauges_of_nil input tb att M per hnil]
  · have hreply := submitGaugePendingUpdates_congr tb att.rand L
      ((gaugeUpdates input att.clusters).map Prod.snd) (tb.request_congr hanswers)
    rw [submitGauges_of_ne input tb att L per hnil, submitGauges_of_ne input tb att M per hnil]
    simp only [hreply]

/-- The second request succeeds when it is empty or answered, and every answer
has a case. -/
theorem submitGauges_ok_iff (result : TBBatchResult) :
    (submitGauges input tb att per L).1 = .ok result ↔
      (gaugeRequest input att = [] ∨ att.gaugeFate = .answered) ∧
        Classifies tb L (gaugeRequest input att) ∧
        result = batchResult input att per (gaugeAnswers tb att.rand 0 L
          ((gaugeUpdates input att.clusters).map Prod.snd)).1 := by
  by_cases hnil : gaugeUpdates input att.clusters = []
  · rw [submitGauges_of_nil input tb att L per hnil, gaugeRequest_eq_nil_of_nil input att hnil]
    simp [Classifies, batchResult, gaugePairs, hnil, eq_comm, Table.setInAll]
  · rw [submitGauges_of_ne input tb att L per hnil]
    set us := (gaugeUpdates input att.clusters).map Prod.snd with hus
    have hrequest : gaugeRequest input att = [] ↔ gaugeTransfers att.rand 0 us = [] := by
      simp [gaugeRequest, hus]
    rw [hrequest, show Classifies tb L (gaugeRequest input att) ↔
      ∀ a ∈ (gaugeAnswers tb att.rand 0 L us).1, a.Classified from
        classifies_gauge tb att.rand 0 L us]
    cases hr : (submitGaugePendingUpdates tb att.gaugeFate att.rand L us).1 with
    | error e =>
      constructor
      · intro hok
        cases hok
      · rintro ⟨hsent, hclass, -⟩
        have hok := (submitGaugePendingUpdates_ok_iff tb att.rand L us att.gaugeFate _).mpr
          ⟨hsent, hclass, rfl⟩
        rw [hr] at hok
        cases hok
    | ok results =>
      obtain ⟨hsent, hclass, rfl⟩ :=
        (submitGaugePendingUpdates_ok_iff tb att.rand L us att.gaugeFate results).mp hr
      simp only [Except.ok.injEq]
      rw [and_iff_right hsent, and_iff_right hclass, eq_comm]
      rfl

/-- The transfers an attempt would submit if nothing went wrong. -/
def batchRequest : List Transfer := usageRequest h input ++ gaugeRequest input att

/-- The first request went well, so the second one is made. -/
def usageSucceeds : Prop :=
  (usageTransfers h input = [] ∨ att.usageFate = .answered) ∧
    Classifies tb L (usageRequest h input)

/-- The verdicts of the first request as the service answers it. -/
def usageVerdicts : Table ResourceType ResourceBatchResult :=
  usageTable h input (tb.createTransfers L (usageRequest h input)).1

/-- The answers to the second request, made after the first. -/
def gaugeVerdicts : List UpdateAnswer :=
  (gaugeAnswers tb att.rand 0 (tb.createTransfers L (usageRequest h input)).2
    ((gaugeUpdates input att.clusters).map Prod.snd)).1

theorem submitUsage_succeeds (hs : usageSucceeds h input tb att L) :
    submitUsage h input tb att L =
      (.ok (usageVerdicts h input tb L), (tb.createTransfers L (usageRequest h input)).2) := by
  have hok := (submitUsage_ok_iff h input tb att L _).mpr ⟨hs.1, hs.2, rfl⟩
  have hbooks := submitUsage_books h input tb att L
  have hreached : (if att.usageFate.reached then (tb.createTransfers L (usageRequest h input)).2
      else L) = (tb.createTransfers L (usageRequest h input)).2 := by
    rcases hs.1 with hnil | hans
    · rw [(usageRequest_eq_nil h input).mpr hnil]
      exact ite_self L
    · rw [hans]
      rfl
  exact Prod.ext hok (hbooks.trans hreached)

theorem submitUsage_fails (hs : ¬usageSucceeds h input tb att L) :
    ∃ e, (submitUsage h input tb att L).1 = .error e := by
  cases hr : (submitUsage h input tb att L).1 with
  | error e => exact ⟨e, rfl⟩
  | ok per =>
    obtain ⟨h1, h2, -⟩ := (submitUsage_ok_iff h input tb att L per).mp hr
    exact absurd ⟨h1, h2⟩ hs

theorem submitTBBatch_of_succeeds (hs : usageSucceeds h input tb att L) :
    submitTBBatch h input tb att L =
      submitGauges input tb att (usageVerdicts h input tb L)
        (tb.createTransfers L (usageRequest h input)).2 := by
  simp only [submitTBBatch, submitUsage_succeeds h input tb att L hs]

theorem submitTBBatch_of_fails (hs : ¬usageSucceeds h input tb att L) :
    ∃ e, submitTBBatch h input tb att L = (.error e, (submitUsage h input tb att L).2) := by
  obtain ⟨e, he⟩ := submitUsage_fails h input tb att L hs
  refine ⟨e, ?_⟩
  unfold submitTBBatch
  rcases hu : submitUsage h input tb att L with ⟨_ | per, L'⟩
  · rw [hu] at he
    cases he
    rfl
  · rw [hu] at he
    cases he

/-- The transfers of an attempt that get through to the service: the second
request is made only after the first went well. -/
def reachedTransfers : List Transfer :=
  (if att.usageFate.reached then usageRequest h input else []) ++
    if (submitUsage h input tb att L).1.toBool && att.gaugeFate.reached then gaugeRequest input att
    else []

theorem submitUsage_toBool :
    (submitUsage h input tb att L).1.toBool = true ↔ usageSucceeds h input tb att L := by
  constructor
  · intro hok
    by_contra hs
    obtain ⟨e, he⟩ := submitUsage_fails h input tb att L hs
    rw [he] at hok
    cases hok
  · intro hs
    rw [submitUsage_succeeds h input tb att L hs]
    rfl

/-- An attempt leaves the books as its transfers that got through left them. -/
theorem submitTBBatch_books :
    (submitTBBatch h input tb att L).2 =
      (tb.createTransfers L (reachedTransfers h input tb att L)).2 := by
  have hsent : (submitUsage h input tb att L).2 =
      (tb.createTransfers L (if att.usageFate.reached then usageRequest h input else [])).2 := by
    rw [submitUsage_books]
    split_ifs <;> rfl
  unfold reachedTransfers
  by_cases hs : usageSucceeds h input tb att L
  · rw [submitTBBatch_of_succeeds h input tb att L hs, submitGauges_books,
      (submitUsage_toBool h input tb att L).mpr hs, Service.createTransfers_append, ← hsent,
      submitUsage_succeeds h input tb att L hs, Bool.true_and]
    split_ifs <;> rfl
  · obtain ⟨e, he⟩ := submitTBBatch_of_fails h input tb att L hs
    have hfail : (submitUsage h input tb att L).1.toBool = false := by
      rw [← Bool.not_eq_true, submitUsage_toBool]
      exact hs
    rw [he, hfail, Bool.false_and, if_neg Bool.false_ne_true, List.append_nil]
    exact hsent

/-- An attempt succeeds when its requests are answered, each that is not empty,
and every answer has a case. -/
theorem submitTBBatch_ok_iff (result : TBBatchResult) :
    (submitTBBatch h input tb att L).1 = .ok result ↔
      (usageTransfers h input = [] ∨ att.usageFate = .answered) ∧
        (gaugeRequest input att = [] ∨ att.gaugeFate = .answered) ∧
        Classifies tb L (batchRequest h input att) ∧
        result = batchResult input att (usageVerdicts h input tb L)
          (gaugeVerdicts h input tb att L) := by
  rw [batchRequest, classifies_append]
  by_cases hs : usageSucceeds h input tb att L
  · rw [submitTBBatch_of_succeeds h input tb att L hs, submitGauges_ok_iff]
    have h1 := hs.1
    have h2 := hs.2
    unfold gaugeVerdicts
    tauto
  · obtain ⟨e, he⟩ := submitTBBatch_of_fails h input tb att L hs
    rw [he]
    simp only [reduceCtorEq, false_iff]
    rintro ⟨h1, -, ⟨h2, -⟩, -⟩
    exact hs ⟨h1, h2⟩

theorem reachedTransfers_of_ok {result : TBBatchResult}
    (hok : (submitTBBatch h input tb att L).1 = .ok result) :
    reachedTransfers h input tb att L = batchRequest h input att := by
  obtain ⟨hu, hg, hc, -⟩ := (submitTBBatch_ok_iff h input tb att L result).mp hok
  have hs : usageSucceeds h input tb att L :=
    ⟨hu, ((classifies_append tb L _ _).mp hc).1⟩
  have husage : (if att.usageFate.reached then usageRequest h input else []) =
      usageRequest h input := by
    rcases hu with hu | hu
    · rw [(usageRequest_eq_nil h input).mpr hu, ite_self]
    · rw [hu]
      rfl
  have hgauge : (if att.gaugeFate.reached then gaugeRequest input att else []) =
      gaugeRequest input att := by
    rcases hg with hg | hg
    · rw [hg, ite_self]
    · rw [hg]
      rfl
  rw [reachedTransfers, husage, (submitUsage_toBool h input tb att L).mpr hs, Bool.true_and, hgauge,
    batchRequest]

theorem submitTBBatch_ok_books {result : TBBatchResult}
    (hok : (submitTBBatch h input tb att L).1 = .ok result) :
    (submitTBBatch h input tb att L).2 =
      (tb.createTransfers L (batchRequest h input att)).2 := by
  rw [submitTBBatch_books, reachedTransfers_of_ok h input tb att L hok]

theorem reachedTransfers_subset :
    reachedTransfers h input tb att L ⊆ batchRequest h input att := by
  intro t ht
  rcases List.mem_append.mp ht with ht | ht
  · exact List.mem_append_left _ ((List.mem_ite_nil_right.mp ht).2)
  · exact List.mem_append_right _ ((List.mem_ite_nil_right.mp ht).2)

end Attempt

section Updates

variable {h : Blake3} {input : TBBatchInput}

theorem usageTransfer?_some {hb : HeartbeatSignal} {r : ResourceType}
    {u : UsageTransfer} (hu : usageTransfer? h input hb r = some u) :
    r.isGauge = false ∧ heartbeatAmount hb r ≠ 0 ∧
      ∃ operator quota sink, input.accountMap.tenantQuotaIDs r = some quota ∧
        input.globalSinkIDs r = some sink ∧ u = {
          resource := r
          operatorID := operator
          tenantQuotaID := quota
          sinkID := sink
          amount := (heartbeatAmount hb r).toUInt64
          transferID := h.deriveTransferID hb.clusterUUID hb.sequenceNumber r.ledgerID
          clusterUUID := hb.clusterUUID
          heartbeatTsNs := hb.heartbeatTimestampNs.toUInt64 } := by
  unfold usageTransfer? at hu
  split_ifs at hu with hg ha
  split at hu
  · rename_i operator quota sink ho hq hs
    cases hu
    exact ⟨Bool.eq_false_iff.mpr hg, ha, operator, quota, sink, hq, hs, rfl⟩
  · cases hu

theorem mem_usageTransfers {x : HeartbeatSignal × UsageTransfer} :
    x ∈ usageTransfers h input ↔
      x.1 ∈ input.heartbeats ∧ usageTransfer? h input x.1 x.2.resource = some x.2 := by
  simp only [usageTransfers, List.mem_flatMap, List.mem_filterMap, mem_allResources, true_and,
    Option.map_eq_some_iff]
  constructor
  · rintro ⟨hb, hmem, r, u, hu, rfl⟩
    obtain ⟨-, -, _, _, _, -, -, he⟩ := usageTransfer?_some hu
    refine ⟨hmem, ?_⟩
    rw [show u.resource = r by rw [he]]
    exact hu
  · rintro ⟨hmem, hu⟩
    exact ⟨x.1, hmem, x.2.resource, x.2, hu, rfl⟩

/-- The transfers of the first request are posted on ledgers of cumulative resources. -/
theorem mem_usageRequest {t : Transfer} (ht : t ∈ usageRequest h input) :
    t.posts = true ∧ ∃ r : ResourceType, r.isGauge = false ∧ t.ledger = r.ledgerID := by
  obtain ⟨x, hx, rfl⟩ := List.mem_map.mp ht
  exact ⟨rfl, x.2.resource, (usageTransfer?_some (mem_usageTransfers.mp hx).2).1, rfl⟩

theorem usage_ledger_ne {t : Transfer} (ht : t ∈ usageRequest h input) :
    t.ledger ≠ ResourceType.activeNodes.ledgerID := by
  obtain ⟨-, r, hr, hledger⟩ := mem_usageRequest ht
  rw [hledger]
  intro he
  rw [ResourceType.ledgerID_injective he] at hr
  cases hr

theorem gaugeUpdate?_some {c : String} {hb : HeartbeatSignal} {r : ResourceType}
    {u : GaugePendingUpdate} (hu : gaugeUpdate? input c hb r = some u) :
    r.isGauge = true ∧ ∃ quota sink, input.accountMap.tenantQuotaIDs r = some quota ∧
      input.globalSinkIDs r = some sink ∧ u = {
        resource := r
        tenantQuotaID := quota
        sinkID := sink
        oldPendingID := (input.pendingGaugeIDs c).bind (· r)
        newAmount := (heartbeatAmount hb r).toUInt64
        clusterUUID := hb.clusterUUID
        heartbeatTsNs := hb.heartbeatTimestampNs.toUInt64
        newPendingID := ((input.newGaugePendingIDs c).bind (· r)).getD 0
        voidTransferID := ((input.gaugeVoidIDs c).bind (· r)).getD 0 } := by
  unfold gaugeUpdate? at hu
  split_ifs at hu with hg
  split at hu
  · rename_i quota sink hq hs
    cases hu
    exact ⟨hg, quota, sink, hq, hs, rfl⟩
  · cases hu

theorem keepLatest_eq (m : Table String HeartbeatSignal) (x : HeartbeatSignal) :
    keepLatest m x = m ∨ keepLatest m x = m.set x.clusterID x := by
  unfold keepLatest
  split
  · split_ifs
    · exact .inr rfl
    · exact .inl rfl
  · exact .inr rfl

theorem keepLatest_cases (m : Table String HeartbeatSignal) (x : HeartbeatSignal) (c : String) :
    keepLatest m x c = m c ∨ x.clusterID = c ∧ keepLatest m x c = some x := by
  rcases keepLatest_eq m x with he | he
  · exact .inl (by rw [he])
  · rw [he]
    by_cases hc : c = x.clusterID
    · subst hc
      exact .inr ⟨rfl, Table.set_same _ _ _⟩
    · exact .inl (Table.set_other _ hc _)

theorem latestByCluster_append (hbs : List HeartbeatSignal) (x : HeartbeatSignal) :
    latestByCluster (hbs ++ [x]) = keepLatest (latestByCluster hbs) x := by
  simp [latestByCluster]

theorem latestByCluster_mem {hbs : List HeartbeatSignal} {c : String} {hb : HeartbeatSignal}
    (hl : latestByCluster hbs c = some hb) : hb ∈ hbs ∧ hb.clusterID = c := by
  induction hbs using List.reverseRecOn with
  | nil => cases hl
  | append_singleton hbs x ih =>
    rw [latestByCluster_append] at hl
    rcases keepLatest_cases (latestByCluster hbs) x c with he | ⟨hc, he⟩
    · obtain ⟨hmem, hid⟩ := ih (he ▸ hl)
      exact ⟨List.mem_append_left _ hmem, hid⟩
    · cases he.symm.trans hl
      exact ⟨List.mem_append_right _ List.mem_cons_self, hc⟩

theorem mem_clusterUpdates {c : String} {x : String × GaugePendingUpdate} :
    x ∈ clusterUpdates input c ↔
      x.1 = c ∧ ∃ hb, latestByCluster input.heartbeats c = some hb ∧
        gaugeUpdate? input c hb x.2.resource = some x.2 := by
  unfold clusterUpdates
  split
  · rename_i hb hl
    simp only [List.mem_filterMap, mem_allResources, true_and, Option.map_eq_some_iff, hl,
      Option.some.injEq, exists_eq_left']
    constructor
    · rintro ⟨r, u, hu, rfl⟩
      obtain ⟨-, q, k, -, -, rfl⟩ := gaugeUpdate?_some hu
      exact ⟨rfl, hu⟩
    · rintro ⟨rfl, hu⟩
      exact ⟨x.2.resource, x.2, hu, rfl⟩
  · rename_i hl
    simp [hl]

theorem mem_gaugeUpdates {o : IterationOrder String} {x : String × GaugePendingUpdate} :
    x ∈ gaugeUpdates input o ↔
      ∃ hb, latestByCluster input.heartbeats x.1 = some hb ∧
        gaugeUpdate? input x.1 hb x.2.resource = some x.2 := by
  simp only [gaugeUpdates, List.mem_flatMap, mem_clusterUpdates, o.mem_order]
  constructor
  · rintro ⟨c, -, rfl, hb, hl, hu⟩
    exact ⟨hb, hl, hu⟩
  · rintro ⟨hb, hl, hu⟩
    refine ⟨x.1, ?_, rfl, hb, hl, hu⟩
    obtain ⟨hmem, hid⟩ := latestByCluster_mem hl
    rw [clusterKeys, List.mem_dedup, ← hid]
    exact List.mem_map_of_mem hmem

theorem gaugeUpdates_perm (o o' : IterationOrder String) :
    (gaugeUpdates input o).Perm (gaugeUpdates input o') :=
  ((o.perm _).trans (o'.perm _).symm).flatMap_right _

/-- The key under which the result of an update is recorded. -/
def updateKey (x : String × GaugePendingUpdate) : String × ResourceType := (x.1, x.2.resource)

theorem clusterUpdates_keys_nodup (c : String) :
    ((clusterUpdates input c).map updateKey).Nodup := by
  unfold clusterUpdates
  split
  · rw [List.map_filterMap]
    refine List.Nodup.filterMap ?_ allResources_nodup
    intro r r' k hk hk'
    simp only [Option.map_map, Option.mem_def, Option.map_eq_some_iff] at hk hk'
    obtain ⟨u, hu, rfl⟩ := hk
    obtain ⟨u', hu', he⟩ := hk'
    obtain ⟨-, q, k, -, -, rfl⟩ := gaugeUpdate?_some hu
    obtain ⟨-, q', k', -, -, rfl⟩ := gaugeUpdate?_some hu'
    exact (congrArg Prod.snd he).symm
  · exact List.nodup_nil

theorem gaugeUpdates_keys_nodup (o : IterationOrder String) :
    ((gaugeUpdates input o).map updateKey).Nodup := by
  rw [gaugeUpdates, List.map_flatMap]
  refine List.nodup_flatMap.mpr ⟨fun c _ => clusterUpdates_keys_nodup c, ?_⟩
  refine (o.nodup_order (List.nodup_dedup _)).imp fun {c c'} hne => ?_
  intro k hk hk'
  obtain ⟨x, hx, rfl⟩ := List.mem_map.mp hk
  obtain ⟨y, hy, he⟩ := List.mem_map.mp hk'
  apply hne
  rw [← (mem_clusterUpdates.mp hx).1, ← (mem_clusterUpdates.mp hy).1]
  exact (congrArg Prod.fst he).symm

/-- The identifiers of the gauge transfers were generated before the activity. -/
def TBBatchInput.PreGenerated (input : TBBatchInput) : Prop :=
  ∀ hb ∈ input.heartbeats, ∀ r : ResourceType, r.isGauge = true →
    ((input.newGaugePendingIDs hb.clusterID).bind (· r)).getD 0 ≠ 0 ∧
      ((input.gaugeVoidIDs hb.clusterID).bind (· r)).getD 0 ≠ 0

theorem TBBatchInput.PreGenerated.ids_ne_zero (hp : input.PreGenerated) {o : IterationOrder String}
    {x : String × GaugePendingUpdate} (hx : x ∈ gaugeUpdates input o) :
    x.2.newPendingID ≠ 0 ∧ x.2.voidTransferID ≠ 0 := by
  obtain ⟨hb, hl, hu⟩ := mem_gaugeUpdates.mp hx
  obtain ⟨hmem, hid⟩ := latestByCluster_mem hl
  obtain ⟨hg, q, k, -, -, he⟩ := gaugeUpdate?_some hu
  have hids := hp hb hmem _ hg
  rw [hid] at hids
  rw [he]
  exact hids

/-- The transfers of an update whose identifiers are given. -/
def ownTransfers (u : GaugePendingUpdate) : List Transfer :=
  (u.transfers (fun _ => 0) 0).map Prod.fst

theorem transfers_eq_own {u : GaugePendingUpdate} (hn : u.newPendingID ≠ 0)
    (hv : u.voidTransferID ≠ 0) (rand : ℕ → Uint128) (n : ℕ) :
    (u.transfers rand n).map Prod.fst = ownTransfers u := by
  unfold ownTransfers GaugePendingUpdate.transfers
  cases u.oldPendingID <;> split_ifs <;>
    simp [GaugePendingUpdate.voidTransfer, GaugePendingUpdate.newTransfer,
      GaugePendingUpdate.newID, GaugePendingUpdate.voidID, hn, hv]

theorem gaugeTransfers_eq_own {us : List GaugePendingUpdate}
    (hids : ∀ u ∈ us, u.newPendingID ≠ 0 ∧ u.voidTransferID ≠ 0) (rand : ℕ → Uint128) (n : ℕ) :
    (gaugeTransfers rand n us).map Prod.fst = us.flatMap ownTransfers := by
  induction us generalizing n with
  | nil => rfl
  | cons u us ih =>
    simp only [List.forall_mem_cons] at hids
    rw [gaugeTransfers, List.map_append, ih hids.2, transfers_eq_own hids.1.1 hids.1.2,
      List.flatMap_cons]

theorem gaugeRequest_eq (hp : input.PreGenerated) (att : BatchAttempt) :
    gaugeRequest input att = (gaugeUpdates input att.clusters).flatMap (ownTransfers ·.2) := by
  rw [gaugeRequest, gaugeTransfers_eq_own, List.flatMap_map]
  intro u hu
  obtain ⟨x, hx, rfl⟩ := List.mem_map.mp hu
  exact hp.ids_ne_zero hx

theorem gaugeRequest_perm (hp : input.PreGenerated) (att att' : BatchAttempt) :
    (gaugeRequest input att).Perm (gaugeRequest input att') := by
  rw [gaugeRequest_eq hp, gaugeRequest_eq hp]
  exact (gaugeUpdates_perm _ _).flatMap_right _

theorem batchRequest_perm (hp : input.PreGenerated) (att att' : BatchAttempt) :
    (batchRequest h input att).Perm (batchRequest h input att') :=
  (List.Perm.refl _).append (gaugeRequest_perm hp att att')

theorem gaugeAnswers_new (tb : Service) (rand : ℕ → Uint128) (n : ℕ) (L : Books)
    (xs : List (String × GaugePendingUpdate)) :
    ∀ p ∈ xs.zip (gaugeAnswers tb rand n L (xs.map Prod.snd)).1,
      p.2.new.isSome = true ↔ 0 < p.1.2.newAmount := by
  induction xs generalizing n L with
  | nil => simp
  | cons x xs ih =>
    simp only [List.map_cons, gaugeAnswers, List.zip_cons_cons, List.forall_mem_cons]
    exact ⟨answerNew_isSome tb rand n _ x.2, ih _ _⟩

/-- The result of an update with given identifiers. -/
def ownOutcome (u : GaugePendingUpdate) (new : Option CreateTransferResult) : GaugePendingResult :=
  gaugeOutcome (fun _ => 0) u 0 new

theorem ownOutcome_newPendingID {u : GaugePendingUpdate} (hid : u.newPendingID ≠ 0)
    (new : Option CreateTransferResult) :
    (ownOutcome u new).newPendingID =
      if new.isSome ∧ new ≠ some .exceedsCredits then u.newPendingID else 0 := by
  simp [ownOutcome, gaugeOutcome, GaugePendingUpdate.newID, hid]

theorem zip_gaugeOutcomes {xs : List (String × GaugePendingUpdate)}
    (hids : ∀ x ∈ xs, x.2.newPendingID ≠ 0) (rand : ℕ → Uint128) (n : ℕ)
    (answers : List UpdateAnswer) :
    xs.zip (gaugeOutcomes rand n (xs.map Prod.snd) answers) =
      (xs.zip answers).map fun p => (p.1, ownOutcome p.1.2 p.2.new) := by
  induction xs generalizing n answers with
  | nil => rfl
  | cons x xs ih =>
    simp only [List.forall_mem_cons] at hids
    cases answers with
    | nil => rfl
    | cons a as =>
      have hown : gaugeOutcome rand x.2 n a.new = ownOutcome x.2 a.new := by
        simp [ownOutcome, gaugeOutcome, GaugePendingUpdate.newID, hids.1]
      simp [gaugeOutcomes, hown, ih hids.2]

theorem gaugePairs_eq (hp : input.PreGenerated) (att : BatchAttempt) (answers : List UpdateAnswer) :
    gaugePairs input att answers =
      ((gaugeUpdates input att.clusters).zip answers).map fun p =>
        (p.1, ownOutcome p.1.2 p.2.new) :=
  zip_gaugeOutcomes (fun _ hx => (hp.ids_ne_zero hx).1) att.rand 0 answers

end Updates

section Allocations

variable (tb : Service) (att : RequestAttempt) (input : SubmitAllocationInput) (L : Books)

/-- The request of an attempt of the allocation activity. -/
def allocationRequest : List Transfer :=
  allocationTransfers att.rand 0 (allocations att.resources input)

theorem submitAllocationTransfers_of_nil (hnil : allocations att.resources input = []) :
    submitAllocationTransfers tb att input L = (.ok (), L) := by
  simp [submitAllocationTransfers, hnil]

theorem submitAllocationTransfers_of_ne (hne : allocations att.resources input ≠ []) :
    submitAllocationTransfers tb att input L =
      (match (submitAllocations tb att.fate att.rand L (allocations att.resources input)).1 with
        | .error e => .error (.submitAllocations e)
        | .ok _ => .ok (),
      (submitAllocations tb att.fate att.rand L (allocations att.resources input)).2) := by
  simp only [submitAllocationTransfers, List.isEmpty_iff, hne, if_false]
  rcases submitAllocations tb att.fate att.rand L (allocations att.resources input) with
    ⟨_ | _, _⟩ <;> rfl

theorem submitAllocationTransfers_books :
    (submitAllocationTransfers tb att input L).2 =
      if att.fate.reached then (tb.createTransfers L (allocationRequest att input)).2 else L := by
  by_cases hnil : allocations att.resources input = []
  · rw [submitAllocationTransfers_of_nil tb att input L hnil, allocationRequest, hnil]
    exact (ite_self L).symm
  · rw [submitAllocationTransfers_of_ne tb att input L hnil]
    exact submitBatch_books tb L _ _ att.fate

theorem submitAllocationTransfers_congr {M : Books} (hanswers : att.fate.reached = true →
      (tb.createTransfers M (allocationRequest att input)).1 =
        (tb.createTransfers L (allocationRequest att input)).1) :
    (submitAllocationTransfers tb att input M).1 = (submitAllocationTransfers tb att input L).1 := by
  by_cases hnil : allocations att.resources input = []
  · rw [submitAllocationTransfers_of_nil tb att input L hnil,
      submitAllocationTransfers_of_nil tb att input M hnil]
  · have hreply := submitBatch_congr tb L _
      (fun i => ((allocations att.resources input)[i]?.map (·.resource)).getD .cpuHours)
      (tb.request_congr hanswers)
    rw [submitAllocationTransfers_of_ne tb att input L hnil,
      submitAllocationTransfers_of_ne tb att input M hnil]
    simp only [submitAllocations, allocationRequest] at hreply ⊢
    rw [hreply]

theorem submitAllocationTransfers_ok_iff (hne : allocations att.resources input ≠ []) :
    (submitAllocationTransfers tb att input L).1 = .ok () ↔
      att.fate = .answered ∧
        ∀ r ∈ (tb.createTransfers L (allocationRequest att input)).1, classified r = true := by
  have hbatch := submitAllocations_ok_iff tb att.rand L (allocations att.resources input) att.fate
  rw [submitAllocationTransfers_of_ne tb att input L hne, allocationRequest]
  constructor
  · intro hok
    cases hres : (submitAllocations tb att.fate att.rand L (allocations att.resources input)).1 with
    | error e =>
      rw [hres] at hok
      cases hok
    | ok results =>
      obtain ⟨hfate, hc, -⟩ := (hbatch results).mp hres
      exact ⟨hfate, hc⟩
  · rintro ⟨hfate, hc⟩
    rw [(hbatch _).mpr ⟨hfate, hc, rfl⟩]

theorem createTenantTBAccounts_eq (tenantUUID : Uint128) :
    createTenantTBAccounts tb att tenantUUID L =
      ((createTenantQuotaAccounts tb att.fate att.rand tenantUUID (fun _ => none) L).1.mapError
          .createTenantQuotaAccounts,
        (createTenantQuotaAccounts tb att.fate att.rand tenantUUID (fun _ => none) L).2) := by
  unfold createTenantTBAccounts
  rcases createTenantQuotaAccounts tb att.fate att.rand tenantUUID (fun _ => none) L with
    ⟨_ | _, _⟩ <;> rfl

theorem createTenantTBAccounts_ok {tenantUUID : Uint128} {ids : Table ResourceType Uint128}
    (hok : (createTenantTBAccounts tb att tenantUUID L).1 = .ok ids) (r : ResourceType) :
    ∃ i, ids r = some i ∧ (createTenantTBAccounts tb att tenantUUID L).2.account? i =
      some (quotaAccount tenantUUID r i) := by
  rw [createTenantTBAccounts_eq] at hok ⊢
  refine createTenantQuotaAccounts_ok tb att.fate att.rand ?_ r
  cases hc : (createTenantQuotaAccounts tb att.fate att.rand tenantUUID (fun _ => none) L).1 with
  | error err =>
    rw [hc] at hok
    cases hok
  | ok m =>
    rw [hc] at hok
    cases hok
    rfl

theorem createTenantTBAccounts_answered {tenantUUID : Uint128} {ids : Table ResourceType Uint128}
    (hok : (createTenantTBAccounts tb att tenantUUID L).1 = .ok ids) : att.fate = .answered := by
  rw [createTenantTBAccounts_eq] at hok
  cases hf : att.fate with
  | answered => rfl
  | _ => simp [hf, createTenantQuotaAccounts, Service.requestAccounts, Except.mapError] at hok

theorem createTenantTBAccounts_new (tenantUUID : Uint128) (hfate : att.fate = .answered)
    (hnew : NewIDs L att.rand 3) :
    ∃ ids, (createTenantTBAccounts tb att tenantUUID L).1 = .ok ids := by
  obtain ⟨m, hm⟩ := createTenantQuotaAccounts_new tb att.rand tenantUUID hnew
  rw [createTenantTBAccounts_eq, hfate, hm]
  exact ⟨m, rfl⟩

theorem createTenantTBAccounts_opened (tenantUUID : Uint128) : ∃ reply, ∃ as : List Account,
    (∀ a ∈ as, ∃ r i, a = quotaAccount tenantUUID r i) ∧ ∀ L : Books, NewIDs L att.rand 3 →
      createTenantTBAccounts tb att tenantUUID L =
        (reply, { L with accounts := L.accounts ++ as }) := by
  obtain ⟨reply, as, has, hopened⟩ :=
    createTenantQuotaAccounts_opened tb att.fate att.rand tenantUUID
  refine ⟨reply.mapError .createTenantQuotaAccounts, as, has, fun L hnew => ?_⟩
  rw [createTenantTBAccounts_eq, hopened L hnew]

theorem createTenantTBAccounts_books (tenantUUID : Uint128) :
    ∃ as, (∀ a ∈ as, ∃ r i, a = quotaAccount tenantUUID r i) ∧
      (createTenantTBAccounts tb att tenantUUID L).2 = (tb.createAccounts L as).2 := by
  rw [createTenantTBAccounts_eq]
  obtain ⟨as, has, hL | hL⟩ :=
    createTenantQuotaAccounts_books tb att.fate att.rand (L := L) tenantUUID (fun _ => none)
  · exact ⟨[], by simp, hL⟩
  · exact ⟨as, has, hL⟩

theorem lookupAccountBalances_congr {M : Books} {ids : Table ResourceType Uint128}
    (att : LookupAttempt) (hsame : ∀ r i, ids r = some i →
      M.account? i = L.account? i ∧ M.balance i = L.balance i) :
    lookupAccountBalances att ids M = lookupAccountBalances att ids L := by
  have hreply : lookupAccounts M ((att.resources.order allResources).filterMap ids) =
      lookupAccounts L ((att.resources.order allResources).filterMap ids) := by
    refine List.filterMap_congr fun i hi => ?_
    obtain ⟨r, -, hr⟩ := List.mem_filterMap.mp hi
    obtain ⟨haccount, hbalance⟩ := hsame r i hr
    rw [haccount, hbalance]
  simp only [lookupAccountBalances, hreply]

end Allocations
end CloudCredit.Accounting
