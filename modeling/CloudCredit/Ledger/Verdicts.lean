import CloudCredit.Ledger.Transfers

/-!
# What the submission paths return

One equation for each submission path: the verdicts in terms of the answers the
service gave, entry by entry, without positions and without the sparse reply.
Later modules use these equations and never unfold the loops.
-/
namespace CloudCredit.Ledger

open TigerBeetle Domain

section ExceptLists

variable {α β ε : Type}

theorem mapM_eq_ok {f : α → Except ε β} {g : α → β} {xs : List α}
    (h : ∀ x ∈ xs, f x = .ok (g x)) : xs.mapM f = .ok (xs.map g) := by
  induction xs with
  | nil => rfl
  | cons x xs ih =>
    rw [List.mapM_cons, h x List.mem_cons_self, ih fun y hy => h y (List.mem_cons_of_mem _ hy)]
    rfl

theorem mapM_eq_error {f : α → Except ε β} {xs : List α} {x : α} (hx : x ∈ xs) {e : ε}
    (he : f x = .error e) : ∃ e', xs.mapM f = .error e' := by
  induction xs with
  | nil => simp at hx
  | cons y ys ih =>
    rw [List.mapM_cons]
    cases hy : f y with
    | error e' => exact ⟨e', rfl⟩
    | ok z =>
      rcases List.mem_cons.mp hx with rfl | hx
      · rw [he] at hy
        cases hy
      · obtain ⟨e', he'⟩ := ih hx
        exact ⟨e', by rw [he']; rfl⟩

end ExceptLists

/-- The answers `submitBatch` has a case for. -/
def classified : CreateTransferResult → Bool
  | .ok | .exceedsCredits | .exists | .existsWithDifferentDebitAccountID
  | .existsWithDifferentCreditAccountID | .existsWithDifferentAmount => true
  | _ => false

/-- The answers both submission paths read as an idempotent duplicate. -/
def duplicate : CreateTransferResult → Bool
  | .exists | .existsWithDifferentDebitAccountID | .existsWithDifferentCreditAccountID
  | .existsWithDifferentAmount => true
  | _ => false

/-- The verdict for a classified answer. -/
def verdictOf (resource : ResourceType) (r : CreateTransferResult) : TransferResult where
  resource := resource
  accepted := r ≠ .exceedsCredits
  exceedsCredits := r = .exceedsCredits
  exists_ := duplicate r

theorem transferVerdict_classified {r : CreateTransferResult} (h : classified r = true) (i : ℕ)
    (resource : ResourceType) :
    transferVerdict i resource ((some r).filter (· ≠ .ok)) = .ok (verdictOf resource r) := by
  cases r <;> first | rfl | simp [classified] at h

theorem transferVerdict_unclassified {r : CreateTransferResult} (h : classified r = false) (i : ℕ)
    (resource : ResourceType) :
    transferVerdict i resource ((some r).filter (· ≠ .ok)) =
      .error (.unexpectedResult i resource r) := by
  cases r <;> first | rfl | simp [classified] at h

section SubmitBatch

variable (tb : Service) (L : Books) (ts : List Transfer) (resourceAt : ℕ → ResourceType)

theorem submitBatch_books (fate : Fate) :
    (submitBatch tb fate L ts resourceAt).2 =
      if fate.reached then (tb.createTransfers L ts).2 else L := by
  cases fate <;> rfl

theorem submitBatch_congr {fate : Fate} {M : Books}
    (hreply : (tb.request fate M ts).1 = (tb.request fate L ts).1) :
    (submitBatch tb fate M ts resourceAt).1 = (submitBatch tb fate L ts resourceAt).1 := by
  unfold submitBatch
  revert hreply
  rcases tb.request fate L ts with ⟨reply, L'⟩
  rcases tb.request fate M ts with ⟨reply', M'⟩
  rintro rfl
  cases reply' <;> rfl

theorem submitBatch_answered :
    (submitBatch tb .answered L ts resourceAt).1 =
      (List.range ts.length).mapM fun i => transferVerdict i (resourceAt i)
        ((tb.createTransfers L ts).1[i]?.filter (· ≠ .ok)) := by
  simp only [submitBatch, Service.request, failureMap_failures]

theorem submitBatch_ok (h : ∀ r ∈ (tb.createTransfers L ts).1, classified r = true) :
    (submitBatch tb .answered L ts resourceAt).1 =
      .ok (List.zipWith verdictOf ((List.range ts.length).map resourceAt)
        (tb.createTransfers L ts).1) := by
  have hlen := tb.createTransfers_length L ts
  have hverdicts : List.zipWith verdictOf ((List.range ts.length).map resourceAt)
      (tb.createTransfers L ts).1 = (List.range ts.length).map fun i =>
        verdictOf (resourceAt i) ((tb.createTransfers L ts).1[i]?.getD .ok) := by
    apply List.ext_getElem
    · simp [hlen]
    · intro i h1 h2
      have hi : i < ts.length := by simpa using h2
      simp [hlen, hi]
  rw [submitBatch_answered, hverdicts]
  apply mapM_eq_ok
  intro i hi
  have hlt : i < (tb.createTransfers L ts).1.length := by
    rw [hlen]
    exact List.mem_range.mp hi
  rw [List.getElem?_eq_getElem hlt]
  exact transferVerdict_classified (h _ (List.getElem_mem hlt)) i _

theorem submitBatch_error {r : CreateTransferResult} (hr : r ∈ (tb.createTransfers L ts).1)
    (h : classified r = false) : ∃ e, (submitBatch tb .answered L ts resourceAt).1 = .error e := by
  obtain ⟨i, hi, rfl⟩ := List.getElem_of_mem hr
  rw [submitBatch_answered]
  have hmem : i ∈ List.range ts.length := by
    rw [List.mem_range, ← tb.createTransfers_length L]
    exact hi
  have herr := transferVerdict_unclassified h i (resourceAt i)
  rw [← List.getElem?_eq_getElem hi] at herr
  exact mapM_eq_error hmem herr

theorem submitBatch_ok_iff (fate : Fate) (results : List TransferResult) :
    (submitBatch tb fate L ts resourceAt).1 = .ok results ↔
      fate = .answered ∧ (∀ r ∈ (tb.createTransfers L ts).1, classified r = true) ∧
        results = List.zipWith verdictOf ((List.range ts.length).map resourceAt)
          (tb.createTransfers L ts).1 := by
  cases fate with
  | lostRequest cause => simp [submitBatch, Service.request]
  | lostReply cause => simp [submitBatch, Service.request]
  | answered =>
    by_cases hc : ∀ r ∈ (tb.createTransfers L ts).1, classified r = true
    · rw [submitBatch_ok tb L ts resourceAt hc, Except.ok.injEq, eq_comm, and_iff_right rfl,
        and_iff_right hc]
    · have hsome := hc
      push Not at hsome
      obtain ⟨r, hr, hrc⟩ := hsome
      obtain ⟨e, he⟩ := submitBatch_error tb L ts resourceAt hr (Bool.eq_false_iff.mpr hrc)
      simp [he, hc]

end SubmitBatch

theorem map_range_resource {α : Type} (xs : List α) (f : α → ResourceType) (r : ResourceType) :
    (List.range xs.length).map (fun i => (xs[i]?.map f).getD r) = xs.map f := by
  apply List.ext_getElem
  · simp
  · intro i h1 h2
    have hi : i < xs.length := by simpa using h1
    simp [hi]

theorem submitUsageBatch_ok_iff (tb : Service) (L : Books) (us : List UsageTransfer) (fate : Fate)
    (results : List TransferResult) :
    (submitUsageBatch tb fate L us).1 = .ok results ↔
      fate = .answered ∧
        (∀ r ∈ (tb.createTransfers L (us.map UsageTransfer.toTransfer)).1, classified r = true) ∧
        results = List.zipWith verdictOf (us.map (·.resource))
          (tb.createTransfers L (us.map UsageTransfer.toTransfer)).1 := by
  rw [submitUsageBatch, submitBatch_ok_iff, List.length_map, map_range_resource]

theorem allocationTransfers_length (rand : ℕ → Uint128) (n : ℕ) (as : List AllocationTransfer) :
    (allocationTransfers rand n as).length = as.length := by
  induction as generalizing n with
  | nil => rfl
  | cons a as ih => simp [allocationTransfers, ih]

theorem submitAllocations_ok_iff (tb : Service) (rand : ℕ → Uint128) (L : Books)
    (as : List AllocationTransfer) (fate : Fate) (results : List TransferResult) :
    (submitAllocations tb fate rand L as).1 = .ok results ↔
      fate = .answered ∧
        (∀ r ∈ (tb.createTransfers L (allocationTransfers rand 0 as)).1, classified r = true) ∧
        results = List.zipWith verdictOf (as.map (·.resource))
          (tb.createTransfers L (allocationTransfers rand 0 as)).1 := by
  rw [submitAllocations, submitBatch_ok_iff, allocationTransfers_length, map_range_resource]

/-- The answers `SubmitGaugePendingUpdates` has a case for. -/
def gaugeClassified (isVoid : Bool) (r : CreateTransferResult) : Bool :=
  classified r || isVoid && (r = .pendingTransferNotFound || r = .pendingTransferAlreadyVoided ||
    r = .pendingTransferAlreadyPosted)

/-- An answer with a case in the switch decides the transfer. -/
theorem gaugeClassified_decided {isVoid : Bool} {r : CreateTransferResult}
    (h : gaugeClassified isVoid r = true) : r.decided = true := by
  cases isVoid <;> cases r <;> first | rfl | cases h

theorem classified_decided {r : CreateTransferResult} (h : classified r = true) :
    r.decided = true := by
  have hgauge : gaugeClassified false r = true := by rw [gaugeClassified, h]; rfl
  exact gaugeClassified_decided hgauge

theorem gaugeVerdict_classified {m : GaugeMeta} {r : CreateTransferResult}
    (h : gaugeClassified m.isVoid r = true) (hok : r ≠ .ok) (i : ℕ)
    (results : List GaugePendingResult) :
    gaugeVerdict i m r results = .ok (if r = .exceedsCredits ∧ m.isVoid = false then
      results.modify m.updateIdx GaugePendingResult.reject else results) := by
  obtain ⟨k, v⟩ := m
  cases v <;> cases r <;> simp_all [gaugeClassified, classified, gaugeVerdict]

theorem gaugeVerdict_unclassified {m : GaugeMeta} {r : CreateTransferResult}
    (h : gaugeClassified m.isVoid r = false) (i : ℕ) (results : List GaugePendingResult) :
    ∃ e, gaugeVerdict i m r results = .error e := by
  obtain ⟨k, v⟩ := m
  cases v <;> cases r <;> simp_all [gaugeClassified, classified, gaugeVerdict]

/-- The rejections among the answers of a request, marked in the results. -/
def markRejected (results : List GaugePendingResult) (x : GaugeMeta × CreateTransferResult) :
    List GaugePendingResult :=
  if x.2 = .exceedsCredits ∧ x.1.isVoid = false then
    results.modify x.1.updateIdx GaugePendingResult.reject
  else results

theorem foldAnswers_gauge (n : ℕ) (xs : List (GaugeMeta × CreateTransferResult))
    (results : List GaugePendingResult)
    (h : ∀ x ∈ xs, gaugeClassified x.1.isVoid x.2 = true) :
    foldAnswers .ok gaugeVerdict n xs results = .ok (xs.foldl markRejected results) := by
  induction xs generalizing n results with
  | nil => rfl
  | cons x xs ih =>
    have ih' := fun n results => ih n results fun y hy => h y (List.mem_cons_of_mem _ hy)
    simp only [foldAnswers, List.foldl_cons]
    split_ifs with hok
    · rw [ih', markRejected, if_neg (by simp [hok])]
    · rw [gaugeVerdict_classified (h x List.mem_cons_self) hok]
      exact ih' _ _

theorem foldAnswers_gauge_error (n : ℕ) (xs : List (GaugeMeta × CreateTransferResult))
    (results : List GaugePendingResult) {x : GaugeMeta × CreateTransferResult} (hx : x ∈ xs)
    (h : gaugeClassified x.1.isVoid x.2 = false) :
    ∃ e, foldAnswers .ok gaugeVerdict n xs results = .error e := by
  induction xs generalizing n results with
  | nil => simp at hx
  | cons y ys ih =>
    simp only [foldAnswers]
    rcases List.mem_cons.mp hx with rfl | hx
    · have hne : x.2 ≠ .ok := by
        intro hok
        simp [gaugeClassified, classified, hok] at h
      obtain ⟨e, he⟩ := gaugeVerdict_unclassified h n results
      exact ⟨e, by rw [if_neg hne, he]; rfl⟩
    · split_ifs with hok
      · exact ih _ _ hx
      · cases hy : gaugeVerdict n y.1 y.2 results with
        | error e => exact ⟨e, rfl⟩
        | ok r => exact ih _ _ hx

/-- The service's answers to one update: to its void and to its new reservation. -/
structure UpdateAnswer where
  void : Option CreateTransferResult
  new : Option CreateTransferResult

section GaugeRequest

variable (tb : Service) (rand : ℕ → Uint128)

/-- Submit the void of one update, if it has one. -/
def answerVoid (n : ℕ) (L : Books) (u : GaugePendingUpdate) : Option CreateTransferResult × Books :=
  match u.oldPendingID with
  | some old =>
    let out := tb.createTransfer L (u.voidTransfer rand n old)
    (some out.1, out.2)
  | none => (none, L)

/-- Submit the new reservation of one update, if it has one. -/
def answerNew (n : ℕ) (L : Books) (u : GaugePendingUpdate) : Option CreateTransferResult × Books :=
  if 0 < u.newAmount then
    let out := tb.createTransfer L (u.newTransfer rand n)
    (some out.1, out.2)
  else (none, L)

/-- The request of a list of updates, answered update by update. -/
def gaugeAnswers : ℕ → Books → List GaugePendingUpdate → List UpdateAnswer × Books
  | _, L, [] => ([], L)
  | n, L, u :: us =>
    let void := answerVoid tb rand n L u
    let new := answerNew tb rand n void.2 u
    let rest := gaugeAnswers (n + 1) new.2 us
    (⟨void.1, new.1⟩ :: rest.1, rest.2)

theorem gaugeAnswers_length (tb : Service) (rand : ℕ → Uint128) (n : ℕ) (L : Books)
    (us : List GaugePendingUpdate) : (gaugeAnswers tb rand n L us).1.length = us.length := by
  induction us generalizing n L with
  | nil => rfl
  | cons u us ih => simp [gaugeAnswers, ih]

/-- The answers of all updates in the order of the request. -/
def flatAnswers (as : List UpdateAnswer) : List CreateTransferResult :=
  as.flatMap fun a => a.void.toList ++ a.new.toList

theorem createTransfers_update (n : ℕ) (L : Books) (u : GaugePendingUpdate) :
    tb.createTransfers L ((u.transfers rand n).map Prod.fst) =
      ((answerVoid tb rand n L u).1.toList ++
          (answerNew tb rand n (answerVoid tb rand n L u).2 u).1.toList,
        (answerNew tb rand n (answerVoid tb rand n L u).2 u).2) := by
  unfold GaugePendingUpdate.transfers answerVoid answerNew
  cases u.oldPendingID with
  | none => split_ifs <;> rfl
  | some old => split_ifs <;> rfl

theorem createTransfers_gauge (n : ℕ) (L : Books) (us : List GaugePendingUpdate) :
    tb.createTransfers L ((gaugeTransfers rand n us).map Prod.fst) =
      (flatAnswers (gaugeAnswers tb rand n L us).1, (gaugeAnswers tb rand n L us).2) := by
  induction us generalizing n L with
  | nil => rfl
  | cons u us ih =>
    simp only [gaugeTransfers, List.map_append, Service.createTransfers_append, createTransfers_update, ih,
      gaugeAnswers, flatAnswers, List.flatMap_cons]

/-- The result of an update whose new reservation was answered by `r`. -/
def gaugeOutcome (u : GaugePendingUpdate) (n : ℕ) (r : Option CreateTransferResult) :
    GaugePendingResult where
  newPendingID := if r.isSome ∧ r ≠ some .exceedsCredits then u.newID rand n else 0
  accepted := r ≠ some .exceedsCredits
  exceedsCredits := r = some .exceedsCredits

/-- The results of a list of updates, numbered from `n`. -/
def gaugeOutcomes : ℕ → List GaugePendingUpdate → List UpdateAnswer → List GaugePendingResult
  | n, u :: us, a :: as => gaugeOutcome rand u n a.new :: gaugeOutcomes (n + 1) us as
  | _, _, _ => []

theorem gaugeOutcomes_length {n : ℕ} {us : List GaugePendingUpdate}
    {as : List UpdateAnswer} (hlen : as.length = us.length) :
    (gaugeOutcomes rand n us as).length = us.length := by
  induction us generalizing n as with
  | nil => rfl
  | cons y us ih =>
    cases as with
    | nil => cases hlen
    | cons a as => simp [gaugeOutcomes, ih (Nat.succ.inj hlen)]

theorem gaugeOutcomes_dual {n : ℕ} {us : List GaugePendingUpdate} {as : List UpdateAnswer} :
    ∀ g ∈ gaugeOutcomes rand n us as, g.accepted = !g.exceedsCredits := by
  induction us generalizing n as with
  | nil => simp [gaugeOutcomes]
  | cons y us ih =>
    cases as with
    | nil => simp [gaugeOutcomes]
    | cons a as => simpa [gaugeOutcomes, gaugeOutcome] using ih

/-- Every answer to an update has a case in the switch. -/
def UpdateAnswer.Classified (a : UpdateAnswer) : Prop :=
  (∀ r, a.void = some r → gaugeClassified true r = true) ∧
    ∀ r, a.new = some r → classified r = true

theorem modify_append_cons {α : Type} (f : α → α) (pre : List α) (x : α) (rest : List α) :
    (pre ++ x :: rest).modify pre.length f = pre ++ f x :: rest := by
  induction pre with
  | nil => rfl
  | cons y ys ih => simpa using ih

variable {pre rest : List GaugePendingResult} {x : GaugePendingResult}

theorem length_metas (n : ℕ) (L : Books) (u : GaugePendingUpdate) :
    ((u.transfers rand n).map Prod.snd).length =
      ((answerVoid tb rand n L u).1.toList ++
        (answerNew tb rand n (answerVoid tb rand n L u).2 u).1.toList).length := by
  have h := tb.createTransfers_length L ((u.transfers rand n).map Prod.fst)
  rw [createTransfers_update] at h
  rw [h]
  simp

theorem markRejected_update (L : Books) (u : GaugePendingUpdate) :
    (((u.transfers rand pre.length).map Prod.snd).zip
        ((answerVoid tb rand pre.length L u).1.toList ++
          (answerNew tb rand pre.length (answerVoid tb rand pre.length L u).2 u).1.toList)).foldl
        markRejected (pre ++ x :: rest) =
      pre ++ (if (answerNew tb rand pre.length (answerVoid tb rand pre.length L u).2 u).1 =
        some .exceedsCredits then x.reject else x) :: rest := by
  unfold GaugePendingUpdate.transfers answerVoid answerNew
  by_cases hpos : 0 < u.newAmount
  · cases u.oldPendingID with
    | none =>
      by_cases hrej : (tb.createTransfer L (u.newTransfer rand pre.length)).1 = .exceedsCredits <;>
        simp [hpos, hrej, markRejected, modify_append_cons]
    | some old =>
      by_cases hrej : (tb.createTransfer
          (tb.createTransfer L (u.voidTransfer rand pre.length old)).2
          (u.newTransfer rand pre.length)).1 = .exceedsCredits <;>
        simp [hpos, hrej, markRejected, modify_append_cons]
  · cases u.oldPendingID <;> simp [hpos, markRejected]

theorem assignNewPending_update (newID : ℕ → Uint128) (u : GaugePendingUpdate) :
    ((u.transfers rand pre.length).map Prod.snd).foldl (assignNewPending newID) (pre ++ x :: rest) =
      pre ++ (if 0 < u.newAmount ∧ x.accepted = true then
        { x with newPendingID := newID pre.length } else x) :: rest := by
  unfold GaugePendingUpdate.transfers
  cases u.oldPendingID <;> split_ifs <;>
    simp_all [assignNewPending, modify_append_cons]

/-- The results after the rejections have been marked. -/
def markedResults (as : List UpdateAnswer) : List GaugePendingResult :=
  as.map fun a =>
    if a.new = some .exceedsCredits then ({ accepted := true } : GaugePendingResult).reject
    else { accepted := true }

theorem foldl_markRejected (n : ℕ) (L : Books) (us : List GaugePendingUpdate)
    (pre : List GaugePendingResult) (hpre : pre.length = n) :
    (((gaugeTransfers rand n us).map Prod.snd).zip
        (flatAnswers (gaugeAnswers tb rand n L us).1)).foldl markRejected
        (pre ++ us.map fun _ => { accepted := true }) =
      pre ++ markedResults (gaugeAnswers tb rand n L us).1 := by
  induction us generalizing n L pre with
  | nil => rfl
  | cons u us ih =>
    subst hpre
    simp only [gaugeTransfers, gaugeAnswers, flatAnswers, List.flatMap_cons, List.map_append,
      List.map_cons, markedResults]
    rw [List.zip_append (length_metas tb rand pre.length L u), List.foldl_append,
      markRejected_update]
    have h := ih (pre.length + 1)
      (answerNew tb rand pre.length (answerVoid tb rand pre.length L u).2 u).2
      (pre ++ [if (answerNew tb rand pre.length (answerVoid tb rand pre.length L u).2 u).1 =
        some .exceedsCredits then ({ accepted := true } : GaugePendingResult).reject
        else { accepted := true }]) (by simp)
    simpa only [List.append_assoc, List.singleton_append, markedResults, flatAnswers] using h

theorem answerNew_isSome (n : ℕ) (L : Books) (u : GaugePendingUpdate) :
    (answerNew tb rand n L u).1.isSome = true ↔ 0 < u.newAmount := by
  unfold answerNew
  split_ifs with h <;> simp [h]

theorem foldl_assignNewPending (newID : ℕ → Uint128) (n : ℕ) (L : Books)
    (us : List GaugePendingUpdate) (pre : List GaugePendingResult) (hpre : pre.length = n)
    (hid : ∀ i u, us[i]? = some u → newID (n + i) = u.newID rand (n + i)) :
    ((gaugeTransfers rand n us).map Prod.snd).foldl (assignNewPending newID)
        (pre ++ markedResults (gaugeAnswers tb rand n L us).1) =
      pre ++ gaugeOutcomes rand n us (gaugeAnswers tb rand n L us).1 := by
  induction us generalizing n L pre with
  | nil => rfl
  | cons u us ih =>
    subst hpre
    have hhead := hid 0 u rfl
    rw [Nat.add_zero] at hhead
    simp only [gaugeTransfers, gaugeAnswers, List.map_append, List.foldl_append, markedResults,
      List.map_cons, gaugeOutcomes]
    rw [assignNewPending_update]
    set new := answerNew tb rand pre.length (answerVoid tb rand pre.length L u).2 u with hnew
    have hone : (if 0 < u.newAmount ∧ (if new.1 = some .exceedsCredits then
          ({ accepted := true } : GaugePendingResult).reject else { accepted := true }).accepted = true
        then { (if new.1 = some .exceedsCredits then
          ({ accepted := true } : GaugePendingResult).reject else { accepted := true }) with
            newPendingID := newID pre.length }
        else if new.1 = some .exceedsCredits then
          ({ accepted := true } : GaugePendingResult).reject else { accepted := true }) =
        gaugeOutcome rand u pre.length new.1 := by
      have hs := answerNew_isSome tb rand pre.length (answerVoid tb rand pre.length L u).2 u
      rw [← hnew] at hs
      by_cases hr : new.1 = some .exceedsCredits
      · simp [hr, gaugeOutcome, GaugePendingResult.reject]
      · by_cases hp : 0 < u.newAmount
        · simp [hr, hp, hs.mpr hp, gaugeOutcome, hhead]
        · have hn : new.1 = none := by
            cases hv : new.1 with
            | none => rfl
            | some r => exact absurd (hs.mp (by simp [hv])) hp
          simp [hp, hn, gaugeOutcome]
    rw [hone]
    have h := ih (pre.length + 1) new.2 (pre ++ [gaugeOutcome rand u pre.length new.1]) (by simp)
      (by
        intro i v hv
        have := hid (i + 1) v (by simpa using hv)
        rwa [show pre.length + (i + 1) = pre.length + 1 + i by omega] at this)
    simpa only [List.append_assoc, List.singleton_append, markedResults] using h

theorem zip_update (n : ℕ) (L : Books) (u : GaugePendingUpdate) :
    ((u.transfers rand n).map Prod.snd).zip
        ((answerVoid tb rand n L u).1.toList ++
          (answerNew tb rand n (answerVoid tb rand n L u).2 u).1.toList) =
      (answerVoid tb rand n L u).1.toList.map (fun r => (⟨n, true⟩, r)) ++
        (answerNew tb rand n (answerVoid tb rand n L u).2 u).1.toList.map
          fun r => (⟨n, false⟩, r) := by
  unfold GaugePendingUpdate.transfers answerVoid answerNew
  cases u.oldPendingID <;> split_ifs <;> rfl

theorem classified_iff (n : ℕ) (L : Books) (us : List GaugePendingUpdate) :
    (∀ x ∈ ((gaugeTransfers rand n us).map Prod.snd).zip
        (flatAnswers (gaugeAnswers tb rand n L us).1), gaugeClassified x.1.isVoid x.2 = true) ↔
      ∀ a ∈ (gaugeAnswers tb rand n L us).1, a.Classified := by
  induction us generalizing n L with
  | nil => simp [gaugeTransfers, gaugeAnswers]
  | cons u us ih =>
    simp only [gaugeTransfers, gaugeAnswers, flatAnswers, List.flatMap_cons, List.map_append,
      List.forall_mem_cons]
    rw [List.zip_append (length_metas tb rand n L u), List.forall_mem_append, zip_update,
      List.forall_mem_append]
    refine and_congr ?_ (ih _ _)
    simp [UpdateAnswer.Classified, gaugeClassified]

section Submit

variable (L : Books) (us : List GaugePendingUpdate)

theorem gaugeAnswers_nil (h : gaugeTransfers rand 0 us = []) :
    (gaugeAnswers tb rand 0 L us).2 = L := by
  have hc := createTransfers_gauge tb rand 0 L us
  rw [h] at hc
  exact (congrArg Prod.snd hc).symm

theorem submitGaugePendingUpdates_books (fate : Fate) :
    (submitGaugePendingUpdates tb fate rand L us).2 =
      if fate.reached then (gaugeAnswers tb rand 0 L us).2 else L := by
  have hc := createTransfers_gauge tb rand 0 L us
  unfold submitGaugePendingUpdates
  dsimp only
  split_ifs with hnil hr hr
  · exact (gaugeAnswers_nil tb rand L us hnil).symm
  · rfl
  · cases fate <;> simp_all [Service.request, Fate.reached]
  · cases fate <;> simp_all [Service.request, Fate.reached]

theorem gaugeFailures_eq (results : List GaugePendingResult) :
    (failures .ok (tb.createTransfers L ((gaugeTransfers rand 0 us).map Prod.fst)).1).foldlM
        (gaugeFailure ((gaugeTransfers rand 0 us).map Prod.snd)) results =
      foldAnswers .ok gaugeVerdict 0 (((gaugeTransfers rand 0 us).map Prod.snd).zip
        (flatAnswers (gaugeAnswers tb rand 0 L us).1)) results := by
  have hlen := tb.createTransfers_length L ((gaugeTransfers rand 0 us).map Prod.fst)
  rw [createTransfers_gauge] at hlen ⊢
  exact foldlM_failuresFrom .ok gaugeVerdict (fun f => .gaugeUnexpectedResult f.1 f.2) []
    ((gaugeTransfers rand 0 us).map Prod.snd) _ (by simpa using hlen.symm) results

theorem submitGaugePendingUpdates_congr {fate : Fate} {M : Books}
    (hreply : (tb.request fate M ((gaugeTransfers rand 0 us).map Prod.fst)).1 =
      (tb.request fate L ((gaugeTransfers rand 0 us).map Prod.fst)).1) :
    (submitGaugePendingUpdates tb fate rand M us).1 =
      (submitGaugePendingUpdates tb fate rand L us).1 := by
  unfold submitGaugePendingUpdates
  dsimp only
  split_ifs
  · rfl
  · revert hreply
    rcases tb.request fate L ((gaugeTransfers rand 0 us).map Prod.fst) with ⟨reply, L'⟩
    rcases tb.request fate M ((gaugeTransfers rand 0 us).map Prod.fst) with ⟨reply', M'⟩
    rintro rfl
    cases reply' <;> rfl

theorem submitGaugePendingUpdates_ok
    (h : ∀ a ∈ (gaugeAnswers tb rand 0 L us).1, a.Classified) :
    (submitGaugePendingUpdates tb .answered rand L us).1 =
      .ok (gaugeOutcomes rand 0 us (gaugeAnswers tb rand 0 L us).1) := by
  have hmark := foldl_markRejected tb rand 0 L us [] rfl
  have hassign := foldl_assignNewPending tb rand
    (fun i => (us[i]?.map fun u => u.newID rand i).getD 0) 0 L us [] rfl
    (by intro i u hu; simp [hu])
  simp only [List.nil_append] at hmark hassign
  unfold submitGaugePendingUpdates
  dsimp only
  split_ifs with hnil
  · rw [hnil] at hmark hassign
    simp only [List.map_nil, List.zip_nil_left, List.foldl_nil] at hmark hassign
    rw [hmark, hassign]
  · simp only [Service.request]
    rw [gaugeFailures_eq, foldAnswers_gauge _ _ _ ((classified_iff tb rand 0 L us).mpr h), hmark]
    simp only [Except.map]
    rw [hassign]

theorem submitGaugePendingUpdates_error {a : UpdateAnswer}
    (ha : a ∈ (gaugeAnswers tb rand 0 L us).1) (h : ¬a.Classified) :
    ∃ e, (submitGaugePendingUpdates tb .answered rand L us).1 = .error e := by
  have hsome : ∃ x ∈ ((gaugeTransfers rand 0 us).map Prod.snd).zip
      (flatAnswers (gaugeAnswers tb rand 0 L us).1), gaugeClassified x.1.isVoid x.2 = false := by
    by_contra hcon
    push Not at hcon
    exact h ((classified_iff tb rand 0 L us).mp (fun x hx => by simpa using hcon x hx) a ha)
  obtain ⟨x, hx, hxc⟩ := hsome
  unfold submitGaugePendingUpdates
  dsimp only
  split_ifs with hnil
  · rw [hnil] at hx
    simp at hx
  · obtain ⟨e, he⟩ := foldAnswers_gauge_error 0 _
      (us.map fun _ => ({ accepted := true } : GaugePendingResult)) hx hxc
    simp only [Service.request]
    rw [gaugeFailures_eq, he]
    exact ⟨e, rfl⟩

theorem submitGaugePendingUpdates_empty (hnil : gaugeTransfers rand 0 us = []) (fate : Fate) :
    submitGaugePendingUpdates tb fate rand L us =
      submitGaugePendingUpdates tb .answered rand L us := by
  simp [submitGaugePendingUpdates, hnil]

theorem submitGaugePendingUpdates_lost (hne : gaugeTransfers rand 0 us ≠ []) {fate : Fate}
    (hfate : fate ≠ .answered) :
    ∃ cause, (fate = .lostRequest cause ∨ fate = .lostReply cause) ∧
      (submitGaugePendingUpdates tb fate rand L us).1 = .error (.gaugeCreateTransfers cause) := by
  cases fate with
  | answered => exact absurd rfl hfate
  | lostRequest cause =>
    exact ⟨cause, .inl rfl, by simp [submitGaugePendingUpdates, hne, Service.request]⟩
  | lostReply cause =>
    exact ⟨cause, .inr rfl, by simp [submitGaugePendingUpdates, hne, Service.request]⟩

/-- The call succeeds when its request is empty or answered, and every answer has a case. -/
theorem submitGaugePendingUpdates_ok_iff (fate : Fate) (results : List GaugePendingResult) :
    (submitGaugePendingUpdates tb fate rand L us).1 = .ok results ↔
      (gaugeTransfers rand 0 us = [] ∨ fate = .answered) ∧
        (∀ a ∈ (gaugeAnswers tb rand 0 L us).1, a.Classified) ∧
        results = gaugeOutcomes rand 0 us (gaugeAnswers tb rand 0 L us).1 := by
  by_cases hsent : gaugeTransfers rand 0 us = [] ∨ fate = .answered
  · have hfate : submitGaugePendingUpdates tb fate rand L us =
        submitGaugePendingUpdates tb .answered rand L us := by
      rcases hsent with hsent | hsent
      · exact submitGaugePendingUpdates_empty tb rand L us hsent fate
      · rw [hsent]
    rw [and_iff_right hsent, hfate]
    by_cases hc : ∀ a ∈ (gaugeAnswers tb rand 0 L us).1, a.Classified
    · rw [submitGaugePendingUpdates_ok tb rand L us hc, and_iff_right hc, Except.ok.injEq, eq_comm]
    · have hsome := hc
      push Not at hsome
      obtain ⟨a, ha, hac⟩ := hsome
      obtain ⟨e, he⟩ := submitGaugePendingUpdates_error tb rand L us ha hac
      simp [he, hc]
  · rw [iff_false_intro hsent]
    push Not at hsent
    obtain ⟨cause, -, he⟩ := submitGaugePendingUpdates_lost tb rand L us hsent.1 hsent.2
    simp [he]

end Submit

end GaugeRequest
end CloudCredit.Ledger
