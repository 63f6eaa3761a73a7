import CloudCredit.Accounting.BatchOutcome
import CloudCredit.Accounting.Workflow
import CloudCredit.Library.Retries
import CloudCredit.TigerBeetle.Reference
import CloudCredit.TigerBeetle.Resubmission

/-!
# Running the batch activity again

A second attempt with the same input, after the reply of the first was lost.
Transfers that were committed are answered `exists`, voids that found their
reservation released find it released again. A transfer that was rejected for a
transient reason is different: its identifier is used up, the second attempt is
answered `id_already_failed`, and no submission path has a case for that.
-/
namespace CloudCredit.Accounting

open Library TigerBeetle Domain Ledger

/-- No transfer of the request, at its turn, is rejected for a transient reason,
and a void without effect does not share its identifier with a transfer that
the request goes on to commit. -/
def Repeatable (tb : Service) : Books → List Transfer → Prop
  | _, [] => True
  | L, t :: ts =>
    ¬L.Transient t ∧
      (L.VoidsNothing t →
        (tb.createTransfers (tb.createTransfer L t).2 ts).2.transfer? t.id = none) ∧
      Repeatable tb (tb.createTransfer L t).2 ts

/-- Submitting the transfer again has no effect and is read as a success. -/
def Idempotent (L : Books) (t : Transfer) : Prop :=
  (∃ e, L.transfer? t.id = some e ∧ duplicate (existsResult (L.stored t) e) = true) ∨
    L.VoidsNothing t

section Request

variable {tb : Service} {L : Books} {t : Transfer} {ts : List Transfer}

theorem classified_of_duplicate {r : CreateTransferResult} (h : duplicate r = true) :
    Classified t r ∧ r ≠ .ok ∧ r ≠ .exceedsCredits := by
  cases r <;> simp_all [duplicate, Classified, gaugeClassified, classified]

theorem not_classified_of_blocked (hL : L.Wf) (hb : L.Blocked t) :
    ¬Classified t (tb.createTransfer L t).1 := by
  rcases (tb.transfer_documented L t).of_blocked hL hb with hr | hr | hr <;>
    simp [hr, Classified, gaugeClassified, classified]

/-- A settled transfer is answered without effect. -/
theorem Idempotent.answer (tb : Service) (hs : Idempotent L t) :
    (tb.createTransfer L t).2 = L ∧ Classified t (tb.createTransfer L t).1 ∧
      (tb.createTransfer L t).1 ≠ .exceedsCredits := by
  have hdoc := tb.transfer_documented L t
  rcases hs with ⟨e, he, hdup⟩ | hv
  · obtain ⟨hr, hL⟩ := hdoc.of_committed he
    rw [← hr] at hdup
    obtain ⟨hc, -, hx⟩ := classified_of_duplicate (t := t) hdup
    exact ⟨hL, hc, hx⟩
  · obtain ⟨hr, hL⟩ := hdoc.of_voidsNothing hv
    refine ⟨hL, ?_, by simp [hr]⟩
    simp [hr, Classified, gaugeClassified, hv.2.1]

theorem createTransfers_idempotent (tb : Service) (hs : ∀ t ∈ ts, Idempotent L t) :
    (tb.createTransfers L ts).2 = L ∧ Classifies tb L ts ∧
      ∀ r ∈ (tb.createTransfers L ts).1, r ≠ .exceedsCredits := by
  induction ts with
  | nil => exact ⟨rfl, trivial, by simp [Service.createTransfers]⟩
  | cons t ts ih =>
    simp only [List.forall_mem_cons] at hs
    obtain ⟨hL, hc, hx⟩ := hs.1.answer tb
    obtain ⟨hL', hc', hx'⟩ := ih hs.2
    simp only [Service.createTransfers, Classifies, List.forall_mem_cons, hL]
    exact ⟨hL', ⟨hc, hc'⟩, hx, hx'⟩

theorem not_classifies_of_blocked (hL : L.Wf) (ht : t ∈ ts) (hb : L.Blocked t) :
    ¬Classifies tb L ts := by
  induction ts generalizing L with
  | nil => simp at ht
  | cons x xs ih =>
    rintro ⟨hc, hrest⟩
    rcases List.mem_cons.mp ht with rfl | ht
    · exact not_classified_of_blocked hL hb hc
    · have hdoc := tb.transfer_documented L x
      exact ih (hdoc.wf hL) ht (hb.grows hdoc.grows (hdoc.wf hL)) hrest

theorem stored_stable {M : Books} (hL : L.Wf) (hg : L.Grows M) (hM : M.Wf) {e : Transfer}
    (he : L.transfer? t.id = some e) (hd : duplicate (existsResult (L.stored t) e) = true) :
    M.stored t = L.stored t := by
  by_cases hv : t.flags.voidPendingTransfer = true
  · cases hp : L.transfer? t.pendingID with
    | some p => rw [stored_void hv hp, stored_void hv (hg.transfer? hM hp)]
    | none =>
      have hflags : t.flags = e.flags ∧ t.pendingID = e.pendingID := by
        have hag := existsResult_agrees (t := L.stored t) (e := e) (fun hr => by simp [hr, duplicate] at hd)
          (fun hr => by simp [hr, duplicate] at hd)
        rwa [stored_flags, stored_pendingID] at hag
      obtain ⟨p, hpmem, hpid, -⟩ :=
        hL.voids e (Books.transfer?_some he).1 (hflags.1 ▸ hv)
      exact absurd (hpid.trans hflags.2.symm) (Books.transfer?_none.mp hp p hpmem)
  · simp only [Bool.not_eq_true] at hv
    rw [stored_regular hv, stored_regular hv]

theorem Idempotent.committed {M : Books} (hL : L.Wf) (hg : L.Grows M) (hM : M.Wf) {e : Transfer}
    (he : L.transfer? t.id = some e) (hd : duplicate (existsResult (L.stored t) e) = true) :
    Idempotent M t :=
  .inl ⟨e, hg.transfer? hM he, by rwa [stored_stable hL hg hM he hd]⟩

theorem duplicate_of_found {r : CreateTransferResult} (hf : r.found = true) (hc : Classified t r) :
    duplicate r = true := by
  cases r <;> simp_all [CreateTransferResult.found, Classified, gaugeClassified, classified, duplicate]

theorem not_classified_of_invalid {r : CreateTransferResult}
    (hr : r.invalid = true ∨ r.mismatch = true ∨ r.overflow = true) : ¬Classified t r := by
  cases r <;> simp_all [CreateTransferResult.invalid, CreateTransferResult.mismatch,
    CreateTransferResult.overflow, Classified, gaugeClassified, classified]

theorem transfer?_cons (L : Books) (s : Transfer) (balance : Uint128 → Balance) (i : Uint128) :
    Books.transfer? { L with transfers := s :: L.transfers, balance := balance } i =
      if s.id = i then some s else L.transfer? i := by
  by_cases hi : s.id = i <;> simp [Books.transfer?, hi]

theorem answer_settles {r : CreateTransferResult} {L' : Books} (ha : Answers L t r L')
    (hc : Classified t r) (hn : ¬L.Transient t) :
    L'.failed = L.failed ∧ r ≠ .exceedsCredits ∧
      ((∃ e, L'.transfer? t.id = some e ∧ duplicate (existsResult (L'.stored t) e) = true) ∨
        L.VoidsNothing t) := by
  cases ha with
  | @repeated e he =>
    have hdup := duplicate_of_found (existsResult_found _ _) hc
    exact ⟨rfl, (classified_of_duplicate (t := t) hdup).2.2, .inl ⟨e, he, hdup⟩⟩
  | alreadyFailed => simp [Classified, gaugeClassified, classified] at hc
  | invalid hf hv hi hr => exact absurd hc (not_classified_of_invalid (.inl hr))
  | overflow hf hv hi ho hr => exact absurd hc (not_classified_of_invalid (.inr (.inr hr)))
  | exceedsCredits hf hv hi ho hx => exact absurd ⟨hf, .inl ⟨hv, hi, ho, hx⟩⟩ hn
  | posted hf hv =>
    refine ⟨rfl, by simp, .inl ⟨t, ?_, ?_⟩⟩
    · rw [Books.post, transfer?_cons, if_pos rfl]
    · rw [stored_regular hv, existsResult_self]
      rfl
  | reserved hf hv =>
    refine ⟨rfl, by simp, .inl ⟨t, ?_, ?_⟩⟩
    · rw [Books.reserve, transfer?_cons, if_pos rfl]
    · rw [stored_regular hv, existsResult_self]
      rfl
  | voidInvalid hf hv hi hr => exact absurd hc (not_classified_of_invalid (.inl hr))
  | pendingNotFound hf hv hi hp => exact absurd ⟨hf, .inr ⟨hv, hi, hp⟩⟩ hn
  | pendingMismatch hf hv hi hp hm hr => exact absurd hc (not_classified_of_invalid (.inr (.inl hr)))
  | @alreadyVoided p hf hv hi hp hm hd => exact ⟨rfl, by simp, .inr ⟨hf, hv, hi, p, hp, hm, hd⟩⟩
  | @voided p hf hv hi hp hm hd =>
    have hne : t.id ≠ t.pendingID := by
      simp only [Transfer.validVoid, Bool.and_eq_true, decide_eq_true_eq] at hi
      exact fun he => hi.1.2 he.symm
    have hstored : (L.release (t.fill p) p).stored t = t.fill p := by
      apply stored_void hv
      rw [Books.release, transfer?_cons, if_neg (show (t.fill p).id ≠ t.pendingID from hne), hp]
    refine ⟨rfl, by simp, .inl ⟨t.fill p, ?_, ?_⟩⟩
    · rw [Books.release, transfer?_cons, if_pos (show (t.fill p).id = t.id from rfl)]
    · rw [hstored, existsResult_self]
      rfl

theorem idempotent_of_repeatable (hL : L.Wf) (hc : Classifies tb L ts) (hr : Repeatable tb L ts) :
    (tb.createTransfers L ts).2.failed = L.failed ∧
      (∀ t ∈ ts, Idempotent (tb.createTransfers L ts).2 t) ∧
      ∀ r ∈ (tb.createTransfers L ts).1, r ≠ .exceedsCredits := by
  induction ts generalizing L with
  | nil => simp [Service.createTransfers]
  | cons t ts ih =>
    obtain ⟨hct, hc⟩ := hc
    obtain ⟨hnt, hvoid, hr⟩ := hr
    have hdoc := tb.transfer_documented L t
    have hwf := hdoc.wf hL
    obtain ⟨hfailed, hset, hx⟩ := ih hwf hc hr
    obtain ⟨hfailed', hxt, hcase⟩ := answer_settles hdoc hct hnt
    have hgrow := tb.createTransfers_grows (tb.createTransfer L t).2 ts
    have hwf' := tb.createTransfers_wf hwf ts
    simp only [Service.createTransfers, List.forall_mem_cons]
    refine ⟨hfailed.trans hfailed', ⟨?_, hset⟩, hxt, hx⟩
    rcases hcase with ⟨e, he, hd⟩ | hv
    · exact Idempotent.committed hwf hgrow hwf' he hd
    · exact .inr (hv.grows (hdoc.grows.trans hgrow) hwf' (hvoid hv) (hfailed.trans hfailed'))

theorem repeatable_of_accepted (hok : ∀ r ∈ (tb.createTransfers L ts).1, r = .ok) :
    Repeatable tb L ts := by
  induction ts generalizing L with
  | nil => trivial
  | cons t ts ih =>
    simp only [Service.createTransfers, List.forall_mem_cons] at hok
    have hdoc := tb.transfer_documented L t
    refine ⟨fun ht => (hdoc.of_transient ht).1 hok.1, fun hv => ?_, ih hok.2⟩
    rw [(hdoc.of_voidsNothing hv).1] at hok
    cases hok.1

theorem blocked_of_not_repeatable (hL : L.Wf) (hr : ¬Repeatable tb L ts) :
    ∃ t ∈ ts, (tb.createTransfers L ts).2.Blocked t := by
  induction ts generalizing L with
  | nil => exact absurd trivial hr
  | cons t ts ih =>
    have hdoc := tb.transfer_documented L t
    have hwf := hdoc.wf hL
    have hgrow := tb.createTransfers_grows (tb.createTransfer L t).2 ts
    have hwf' := tb.createTransfers_wf hwf ts
    by_cases hnt : L.Transient t
    · exact ⟨t, List.mem_cons_self, .inl (hgrow.failed.subset (hdoc.of_transient hnt).2)⟩
    · by_cases hrest : Repeatable tb (tb.createTransfer L t).2 ts
      · have hvoid : ¬(L.VoidsNothing t →
            (tb.createTransfers (tb.createTransfer L t).2 ts).2.transfer? t.id = none) := fun hv =>
          hr ⟨hnt, hv, hrest⟩
        push Not at hvoid
        obtain ⟨e, he⟩ := Option.ne_none_iff_exists'.mp hvoid.2
        exact ⟨t, List.mem_cons_self,
          hvoid.1.blocked (hdoc.grows.trans hgrow) hwf' he⟩
      · obtain ⟨s, hs, hb⟩ := ih hwf hrest
        exact ⟨s, List.mem_cons_of_mem _ hs, hb⟩

end Request

section Batch

variable {tb : Service} {h : Blake3} {input : TBBatchInput} {L : Books}

/-- Both requests of the attempt reach the service and are answered. -/
def BatchAttempt.Answered (att : BatchAttempt) : Prop :=
  att.usageFate = .answered ∧ att.gaugeFate = .answered

theorem submitTBBatch_of_classifies {att : BatchAttempt} (ha : att.Answered)
    (hc : Classifies tb L (batchRequest h input att)) :
    submitTBBatch h input tb att L =
      (.ok (batchResult input att (usageVerdicts h input tb L) (gaugeVerdicts h input tb att L)),
        (tb.createTransfers L (batchRequest h input att)).2) := by
  have hok := (submitTBBatch_ok_iff h input tb att L _).mpr ⟨.inr ha.1, .inr ha.2, hc, rfl⟩
  exact Prod.ext hok (submitTBBatch_ok_books h input tb att L hok)

/-- The resources an attempt reports on. -/
def reportedResources (h : Blake3) (input : TBBatchInput) (att : BatchAttempt) : List ResourceType :=
  (usageTransfers h input).map (·.2.resource) ++
    (gaugeUpdates input att.clusters).map (·.2.resource)

theorem mem_reportedResources (att att' : BatchAttempt) (r : ResourceType) :
    r ∈ reportedResources h input att ↔ r ∈ reportedResources h input att' := by
  simp only [reportedResources, List.mem_append]
  rw [((gaugeUpdates_perm att.clusters att'.clusters).map _).mem_iff]

theorem noneExceeds_split {att : BatchAttempt}
    (hx : ∀ r ∈ (tb.createTransfers L (batchRequest h input att)).1, r ≠ .exceedsCredits) :
    (∀ r ∈ (tb.createTransfers L (usageRequest h input)).1, r ≠ .exceedsCredits) ∧
      ∀ a ∈ gaugeVerdicts h input tb att L, a.new ≠ some .exceedsCredits := by
  rw [batchRequest, Service.createTransfers_append] at hx
  simp only [createTransfers_gaugeRequest, List.forall_mem_append] at hx
  refine ⟨hx.1, fun a ha hr => ?_⟩
  exact hx.2 _ (List.mem_flatMap.mpr ⟨a, ha, by simp [hr]⟩) rfl

theorem batchResult_exceeds {att : BatchAttempt} (hp : input.PreGenerated)
    (hx : ∀ r ∈ (tb.createTransfers L (batchRequest h input att)).1, r ≠ .exceedsCredits)
    (r : ResourceType) :
    ((batchResult input att (usageVerdicts h input tb L)
        (gaugeVerdicts h input tb att L)).perResource r).map (·.exceedsCredits) =
      if r ∈ reportedResources h input att then some false else none := by
  obtain ⟨hu, hg⟩ := noneExceeds_split hx
  have hlenu := tb.createTransfers_length L (usageRequest h input)
  have hleng : (gaugeVerdicts h input tb att L).length =
      (gaugeUpdates input att.clusters).length := by
    rw [gaugeVerdicts, gaugeAnswers_length, List.length_map]
  simp only [batchResult, usageVerdicts, usageTable, ← Table.setAll_append, gaugePairs_eq hp,
    List.map_map]
  rw [Table.setAll_map_const (b := false)]
  · refine if_congr ?_ rfl rfl
    simp only [reportedResources, List.mem_append, or_and_right, exists_or, List.mem_map]
    refine or_congr ?_ ?_
    · rw [← Table.exists_mem_zip (hlenu.trans (List.length_map _)) (·.2.resource = r)]
      constructor
      · rintro ⟨x, ⟨p, hpm, hx⟩, hr⟩
        exact ⟨p, hpm, by rw [← hr, ← hx]⟩
      · rintro ⟨p, hpm, hr⟩
        exact ⟨_, ⟨p, hpm, rfl⟩, hr⟩
    · rw [← Table.exists_mem_zip hleng (·.2.resource = r)]
      constructor
      · rintro ⟨x, ⟨p, hpm, hx⟩, hr⟩
        exact ⟨p, hpm, by rw [← hr, ← hx]; rfl⟩
      · rintro ⟨p, hpm, hr⟩
        exact ⟨_, ⟨p, hpm, rfl⟩, hr⟩
  · intro x hx
    rcases List.mem_append.mp hx with hx | hx
    · obtain ⟨p, hpmem, rfl⟩ := List.mem_map.mp hx
      simpa using hu _ (List.of_mem_zip hpmem).2
    · obtain ⟨p, hpmem, rfl⟩ := List.mem_map.mp hx
      simpa [gaugeResult, ownOutcome, gaugeOutcome] using hg _ (List.of_mem_zip hpmem).2

theorem batchResult_gaugeUpdates {att : BatchAttempt} (hp : input.PreGenerated)
    (hx : ∀ r ∈ (tb.createTransfers L (batchRequest h input att)).1, r ≠ .exceedsCredits) :
    (batchResult input att (usageVerdicts h input tb L)
        (gaugeVerdicts h input tb att L)).gaugeUpdates =
      Table.empty.setInAll ((gaugeUpdates input att.clusters).map fun x =>
        (updateKey x, if 0 < x.2.newAmount then x.2.newPendingID else 0)) := by
  have hg := (noneExceeds_split hx).2
  have hleng : (gaugeVerdicts h input tb att L).length =
      (gaugeUpdates input att.clusters).length := by
    rw [gaugeVerdicts, gaugeAnswers_length, List.length_map]
  have hnew := gaugeAnswers_new tb att.rand 0 (tb.createTransfers L (usageRequest h input)).2
    (gaugeUpdates input att.clusters)
  simp only [batchResult, gaugePairs_eq hp, List.map_map]
  congr 1
  have hpair : ∀ p ∈ (gaugeUpdates input att.clusters).zip (gaugeVerdicts h input tb att L),
      gaugeID (p.1, ownOutcome p.1.2 p.2.new) =
        (updateKey p.1, if 0 < p.1.2.newAmount then p.1.2.newPendingID else 0) := by
    intro p hpmem
    have hids := (hp.ids_ne_zero (List.of_mem_zip hpmem).1).1
    have hne := hg _ (List.of_mem_zip hpmem).2
    simp only [gaugeID, updateKey, ownOutcome_newPendingID hids]
    rw [if_congr (by rw [hnew p hpmem, and_iff_left hne]) rfl rfl]
  rw [← List.map_fst_zip hleng.ge, List.map_map, List.map_fst_zip hleng.ge]
  exact List.map_congr_left hpair

/-- A second attempt with the same input on the books the first one left, under
any order of the clusters in either attempt, succeeds without changing the
books and reports the same reservations and the same rejections, exactly when
the requests of the first attempt are repeatable. -/
theorem retry_idempotent_iff (hp : input.PreGenerated) (hL : L.Wf) (first second : BatchAttempt)
    (hsecond : second.Answered) {R₁ : TBBatchResult} {L₁ : Books}
    (hfirst : submitTBBatch h input tb first L = (.ok R₁, L₁)) :
    (∃ R₂, submitTBBatch h input tb second L₁ = (.ok R₂, L₁) ∧
        R₂.gaugeUpdates = R₁.gaugeUpdates ∧
        ∀ r, (R₂.perResource r).map (·.exceedsCredits) =
          (R₁.perResource r).map (·.exceedsCredits)) ↔
      Repeatable tb L (batchRequest h input first) := by
  have hok : (submitTBBatch h input tb first L).1 = .ok R₁ := by rw [hfirst]
  obtain ⟨-, -, hc, hR⟩ := (submitTBBatch_ok_iff h input tb first L R₁).mp hok
  have hL₁ : L₁ = (tb.createTransfers L (batchRequest h input first)).2 := by
    rw [← submitTBBatch_ok_books h input tb first L hok, hfirst]
  have hmem : ∀ t, t ∈ batchRequest h input second ↔ t ∈ batchRequest h input first := fun t =>
    (batchRequest_perm hp second first).mem_iff
  constructor
  · rintro ⟨R₂, hagain, -, -⟩
    have hok₂ : (submitTBBatch h input tb second L₁).1 = .ok R₂ := by rw [hagain]
    obtain ⟨-, -, hc₂, -⟩ := (submitTBBatch_ok_iff h input tb second L₁ R₂).mp hok₂
    by_contra hr
    obtain ⟨t, ht, hb⟩ := blocked_of_not_repeatable hL hr
    rw [← hL₁] at hb
    exact not_classifies_of_blocked (hL₁ ▸ tb.createTransfers_wf hL _) ((hmem t).mpr ht) hb hc₂
  · intro hr
    obtain ⟨-, hset, hx⟩ := idempotent_of_repeatable hL hc hr
    rw [← hL₁] at hset
    have hset₂ : ∀ t ∈ batchRequest h input second, Idempotent L₁ t := fun t ht =>
      hset t ((hmem t).mp ht)
    obtain ⟨hsame, hc₂, hx₂⟩ := createTransfers_idempotent tb hset₂
    refine ⟨_, (submitTBBatch_of_classifies hsecond hc₂).trans (by rw [hsame]), ?_, ?_⟩
    · rw [hR, batchResult_gaugeUpdates hp hx, batchResult_gaugeUpdates hp hx₂]
      refine Table.setInAll_perm ((gaugeUpdates_perm _ _).map _) ?_
      rw [List.map_map]
      exact gaugeUpdates_keys_nodup _
    · intro r
      rw [hR, batchResult_exceeds hp hx, batchResult_exceeds hp hx₂]
      exact if_congr (mem_reportedResources _ _ r) rfl rfl

end Batch

def sampleAccounts : List Account :=
  allResources.flatMap fun r => [
    quotaAccount (sampleID 1) r ((sampleIDs 10 r).getD 0),
    globalAccount (r, .operator) ((sampleIDs 20 r).getD 0),
    globalAccount (r, .sink) ((sampleIDs 30 r).getD 0)]

def sampleAllocations (credits : ℕ) : List Transfer :=
  allResources.map fun r => {
    id := (sampleIDs 40 r).getD 0
    debitAccountID := (sampleIDs 20 r).getD 0
    creditAccountID := (sampleIDs 10 r).getD 0
    amount := credits
    ledger := r.ledgerID
    code := codeQuotaAllocation }

/-- The accounts of the sample tenant, each with the given credits. -/
def sampleBooks (credits : ℕ) : Books :=
  (Reference.service.createTransfers (Reference.service.createAccounts {} sampleAccounts).2
    (sampleAllocations credits)).2

theorem sampleBooks_wf (credits : ℕ) : (sampleBooks credits).Wf :=
  Reference.service.createTransfers_wf (Reference.service.createAccounts_wf .empty _) _

/-- The first flush of the sample tenant, with one heartbeat. -/
def sampleBatch : TBBatchInput :=
  (sampleInput.initialState.appendHeartbeat (sampleHeartbeat 1)).countFlush.batchInput .positional

theorem sampleBatch_preGenerated : sampleBatch.PreGenerated := by
  intro hb hmem r hr
  obtain rfl : hb = sampleHeartbeat 1 := List.mem_singleton.mp hmem
  cases r with
  | activeNodes => decide +kernel
  | _ => cases hr

theorem sampleBatch_retry_succeeds :
    ∃ R₁ L₁ R₂,
      submitTBBatch .positional sampleBatch Reference.service {} (sampleBooks 100) = (.ok R₁, L₁) ∧
      submitTBBatch .positional sampleBatch Reference.service {} L₁ = (.ok R₂, L₁) ∧
      R₂.gaugeUpdates = R₁.gaugeUpdates := by
  obtain ⟨R₁, L₁, hfirst⟩ := exists_eq_ok (x := submitTBBatch .positional sampleBatch
    Reference.service {} (sampleBooks 100)) (by decide +kernel)
  obtain ⟨R₂, hsecond, hsame, -⟩ := (retry_idempotent_iff sampleBatch_preGenerated
    (sampleBooks_wf 100) {} {} ⟨rfl, rfl⟩ hfirst).mpr (repeatable_of_accepted (by decide +kernel))
  exact ⟨R₁, L₁, R₂, hfirst, hsecond, hsame⟩

/-- Without credits the usage is rejected, and the second attempt fails. -/
theorem rejectedBatch_retry_fails :
    sampleBatch.PreGenerated ∧ (sampleBooks 0).Wf ∧ ∃ R₁ L₁,
      submitTBBatch .positional sampleBatch Reference.service {} (sampleBooks 0) = (.ok R₁, L₁) ∧
      ¬∃ R₂ L₂, submitTBBatch .positional sampleBatch Reference.service {} L₁ = (.ok R₂, L₂) := by
  obtain ⟨R₁, L₁, hfirst⟩ := exists_eq_ok (x := submitTBBatch .positional sampleBatch
    Reference.service {} (sampleBooks 0)) (by decide +kernel)
  refine ⟨sampleBatch_preGenerated, sampleBooks_wf 0, R₁, L₁, hfirst, ?_⟩
  rintro ⟨R₂, L₂, hsecond⟩
  have hfails : (submitTBBatch .positional sampleBatch Reference.service {} (submitTBBatch
    .positional sampleBatch Reference.service {} (sampleBooks 0)).2).1.toBool = false := by
    decide +kernel
  rw [hfirst, hsecond] at hfails
  cases hfails

end CloudCredit.Accounting
