import CloudCredit.Accounting.BatchOutcome

/-!
# Transfers the submission paths have a case for

Whether the answer to a transfer has a case can be read off the books it finds: an identifier
that is committed must belong to a duplicate, one that is not must not be used up either, and
the transfer must pass the checks that do not look at the limit of an account.
-/
namespace CloudCredit.Accounting

open Library TigerBeetle Domain Ledger

/-- What the books hold lets a submission path go on after the transfer. -/
def answerable (L : Books) (t : Transfer) : Bool :=
  match L.transfer? t.id with
  | some e => duplicate (existsResult (L.stored t) e)
  | none =>
    t.id ∉ L.failed &&
      if t.flags.voidPendingTransfer then
        t.validVoid && (L.transfer? t.pendingID).all t.fits
      else L.validRegular t && !L.overflows t

/-- Every transfer of a request is answerable on the books at its turn. -/
def Answerable (tb : Service) : Books → List Transfer → Prop
  | _, [] => True
  | L, t :: ts => answerable L t = true ∧ Answerable tb (tb.createTransfer L t).2 ts

section Turn

variable {tb : Service} {L L' : Books} {t : Transfer} {ts : List Transfer}
  {r : CreateTransferResult}

instance (tb : Service) : (L : Books) → (ts : List Transfer) → Decidable (Answerable tb L ts)
  | _, [] => .isTrue trivial
  | L, t :: ts =>
    have := instDecidableAnswerable tb (tb.createTransfer L t).2 ts
    inferInstanceAs (Decidable (_ ∧ _))

theorem classified_found (hfound : r.found = true) : Classified t r ↔ duplicate r = true := by
  cases r <;> simp_all [Classified, gaugeClassified, classified, duplicate,
    CreateTransferResult.found]

theorem not_classified_of_not_decided (hr : r.decided = false) : ¬Classified t r := fun hc => by
  rw [gaugeClassified_decided hc] at hr
  cases hr

theorem classified_iff (ha : Answers L t r L') : Classified t r ↔ answerable L t = true := by
  unfold answerable
  cases ha with
  | @repeated e he =>
    rw [he]
    exact classified_found (existsResult_found _ _)
  | alreadyFailed hn hf =>
    simp [hn, hf, Classified, gaugeClassified, classified]
  | invalid hf hv hi hr =>
    have hnot := not_classified_of_not_decided (t := t) (r := r)
      (by simp [CreateTransferResult.decided, hr])
    simp [hf.1, hf.2, hv, hi, hnot]
  | overflow hf hv hi ho hr =>
    have hnot := not_classified_of_not_decided (t := t) (r := r)
      (by simp [CreateTransferResult.decided, hr])
    simp [hf.1, hf.2, hv, ho, hnot]
  | exceedsCredits hf hv hi ho =>
    simp [hf.1, hf.2, hv, hi, ho, Classified, gaugeClassified, classified]
  | posted hf hv hi ho =>
    simp [hf.1, hf.2, hv, hi, ho, Classified, gaugeClassified, classified]
  | reserved hf hv hi ho =>
    simp [hf.1, hf.2, hv, hi, ho, Classified, gaugeClassified, classified]
  | voidInvalid hf hv hi hr =>
    have hnot := not_classified_of_not_decided (t := t) (r := r)
      (by simp [CreateTransferResult.decided, hr])
    simp [hf.1, hf.2, hv, hi, hnot]
  | pendingNotFound hf hv hi hp => simp [hf.1, hf.2, hv, hi, hp, Classified, gaugeClassified]
  | pendingMismatch hf hv hi hp hm hr =>
    have hnot := not_classified_of_not_decided (t := t) (r := r)
      (by simp [CreateTransferResult.decided, hr])
    simp [hf.1, hf.2, hv, hp, hm, hnot]
  | alreadyVoided hf hv hi hp hm => simp [hf.1, hf.2, hv, hi, hp, hm, Classified, gaugeClassified]
  | voided hf hv hi hp hm =>
    simp [hf.1, hf.2, hv, hi, hp, hm, Classified, gaugeClassified, classified]

theorem classifies_iff : Classifies tb L ts ↔ Answerable tb L ts := by
  induction ts generalizing L with
  | nil => exact Iff.rfl
  | cons t ts ih => exact and_congr (classified_iff (tb.transfer_documented L t)) ih

end Turn

/-- The first request gets through and its answers have a case, so the second one is made. -/
def UsagePasses (h : Blake3) (input : TBBatchInput) (tb : Service) (att : BatchAttempt)
    (L : Books) : Prop :=
  (usageTransfers h input = [] ∨ att.usageFate = .answered) ∧
    Answerable tb L (usageRequest h input)

theorem usageSucceeds_iff (h : Blake3) (input : TBBatchInput) (tb : Service) (att : BatchAttempt)
    (L : Books) : usageSucceeds h input tb att L ↔ UsagePasses h input tb att L :=
  and_congr_right fun _ => classifies_iff

/-- Both requests get through and every answer has a case. -/
def BatchPasses (h : Blake3) (input : TBBatchInput) (tb : Service) (att : BatchAttempt)
    (L : Books) : Prop :=
  (usageTransfers h input = [] ∨ att.usageFate = .answered) ∧
    (gaugeRequest input att = [] ∨ att.gaugeFate = .answered) ∧
    Answerable tb L (batchRequest h input att)

theorem batchPasses_iff (h : Blake3) (input : TBBatchInput) (tb : Service) (att : BatchAttempt)
    (L : Books) :
    BatchPasses h input tb att L ↔ ∃ result, (submitTBBatch h input tb att L).1 = .ok result := by
  simp only [submitTBBatch_ok_iff, classifies_iff, BatchPasses]
  refine ⟨fun ⟨husage, hgauge, hanswers⟩ => ⟨_, husage, hgauge, hanswers, rfl⟩, ?_⟩
  rintro ⟨result, husage, hgauge, hanswers, -⟩
  exact ⟨husage, hgauge, hanswers⟩

end CloudCredit.Accounting
