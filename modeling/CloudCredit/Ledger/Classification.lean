import CloudCredit.Ledger.GaugeBatch

/-!
# What the results of a submission say

The service names the failures of a request only, by position, and an identifier may stand
in a request more than once. The results of `submitBatch` are compared here with what
happened to the books: which transfers they hold afterwards, which they held when their
turn came, and by how much each balance moved.
-/
namespace CloudCredit.Ledger

open TigerBeetle Domain

theorem posting_cases {L L' : Books} {t : Transfer} {r : CreateTransferResult}
    (ha : Answers L t r L') (ht : t.posts = true) (hr : classified r = true) :
    (duplicate r = true ∧ (L.transfer? t.id).isSome = true ∧ L' = L) ∨
      (r = .ok ∧ L.transfer? t.id = none ∧ L' = L.post t) ∨
      (r = .exceedsCredits ∧ L.transfer? t.id = none ∧ L' = L.fail t.id) := by
  have hflags : t.flags.pending = false ∧ t.flags.voidPendingTransfer = false := by
    simpa [Transfer.posts] using ht
  have hd := classified_decided hr
  cases ha with
  | @repeated e he =>
    have hfound := existsResult_found (L.stored t) e
    left
    refine ⟨?_, by simp [he], rfl⟩
    revert hr hfound
    cases existsResult (L.stored t) e <;> decide
  | alreadyFailed => cases hr
  | invalid hf hv hi hinvalid => simp [CreateTransferResult.decided, hinvalid] at hd
  | overflow hf hv hi ho hover => simp [CreateTransferResult.decided, hover] at hd
  | exceedsCredits hf => exact .inr (.inr ⟨rfl, hf.1, rfl⟩)
  | posted hf => exact .inr (.inl ⟨rfl, hf.1, rfl⟩)
  | reserved hf hv hi ho hx hp => simp [hp] at hflags
  | _ => simp_all

section Request

variable {tb : Service} {L : Books} {ts : List Transfer} {i : ℕ} {t : Transfer}

variable (hposts : ∀ t ∈ ts, t.posts = true)
  (hc : ∀ r ∈ (tb.createTransfers L ts).1, classified r = true)

include hposts hc

theorem posting_at (ht : ts[i]? = some t) : ∃ r, (tb.createTransfers L ts).1[i]? = some r ∧
    ((duplicate r = true ∧ ((tb.booksAt L ts i).transfer? t.id).isSome = true ∧
        tb.booksAt L ts (i + 1) = tb.booksAt L ts i) ∨
      (r = .ok ∧ (tb.booksAt L ts i).transfer? t.id = none ∧
        tb.booksAt L ts (i + 1) = (tb.booksAt L ts i).post t) ∨
      (r = .exceedsCredits ∧ (tb.booksAt L ts i).transfer? t.id = none ∧
        tb.booksAt L ts (i + 1) = (tb.booksAt L ts i).fail t.id)) := by
  have hanswer := tb.answer_at (L := L) ht
  refine ⟨_, hanswer, ?_⟩
  rw [tb.booksAt_succ ht]
  apply posting_cases (tb.transfer_documented _ t)
  · exact hposts t (List.mem_of_getElem? ht)
  · exact hc _ (List.mem_of_getElem? hanswer)

theorem booksAt_succ_holds_iff (i : ℕ) (id : Uint128) :
    ((tb.booksAt L ts (i + 1)).transfer? id).isSome = true ↔
      ((tb.booksAt L ts i).transfer? id).isSome = true ∨
        ∃ s, tb.CommitsAt L ts i s ∧ s.id = id := by
  cases ht : ts[i]? with
  | none =>
    have hend : ts.length ≤ i := List.getElem?_eq_none_iff.mp ht
    have hsame : tb.booksAt L ts (i + 1) = tb.booksAt L ts i := by
      simp only [Service.booksAt]
      rw [List.take_of_length_le hend, List.take_of_length_le (by omega)]
    simp [hsame, Service.CommitsAt, ht]
  | some t =>
    have hcommits : (∃ s, tb.CommitsAt L ts i s ∧ s.id = id) ↔
        (tb.booksAt L ts i).transfer? t.id = none ∧ t ∈ (tb.booksAt L ts (i + 1)).transfers ∧
          t.id = id := by
      simp [Service.CommitsAt, ht, and_assoc]
    rw [hcommits]
    obtain ⟨r, -, ⟨-, hsome, hbooks⟩ | ⟨-, hnone, hbooks⟩ | ⟨-, hnone, hbooks⟩⟩ :=
      posting_at hposts hc ht
    · simp [hbooks, Option.isSome_iff_ne_none.mp hsome]
    · by_cases hid : t.id = id
      · subst hid
        have hheld : (((tb.booksAt L ts i).post t).transfer? t.id).isSome = true := by
          simp [Books.post, Books.transfer?]
        have hmem : t ∈ ((tb.booksAt L ts i).post t).transfers := List.mem_cons_self
        simp [hbooks, hheld, hmem, hnone]
      · simp [hbooks, Books.post, Books.transfer?, hid]
    · have hnot : t ∉ (tb.booksAt L ts i).transfers := by
        intro hmem
        exact Books.transfer?_none.mp hnone t hmem rfl
      simp [hbooks, Books.fail, Books.transfer?, hnot]

theorem booksAt_holds_iff (i : ℕ) (id : Uint128) :
    ((tb.booksAt L ts i).transfer? id).isSome = true ↔
      (L.transfer? id).isSome = true ∨ ∃ j < i, ∃ s, tb.CommitsAt L ts j s ∧ s.id = id := by
  induction i with
  | zero => simp [Service.booksAt, Service.createTransfers]
  | succ i ih =>
    have hearlier : (∃ j < i + 1, ∃ s, tb.CommitsAt L ts j s ∧ s.id = id) ↔
        (∃ j < i, ∃ s, tb.CommitsAt L ts j s ∧ s.id = id) ∨
          ∃ s, tb.CommitsAt L ts i s ∧ s.id = id := Nat.exists_lt_succ_right
    rw [hearlier, ← or_assoc, ← ih]
    exact booksAt_succ_holds_iff hposts hc i id

theorem verdict_at {r : CreateTransferResult} (ht : ts[i]? = some t)
    (hr : (tb.createTransfers L ts).1[i]? = some r) :
    (r ≠ .exceedsCredits ↔ ((tb.createTransfers L ts).2.transfer? t.id).isSome = true) ∧
      (duplicate r = true ↔ ((tb.booksAt L ts i).transfer? t.id).isSome = true) := by
  have hlater : ∀ j, ((tb.booksAt L ts j).transfer? t.id).isSome = true →
      ((tb.createTransfers L ts).2.transfer? t.id).isSome = true := by
    intro j hj
    rw [tb.createTransfers_from L ts j]
    exact (tb.createTransfers_grows _ _).isSome_transfer? hj
  obtain ⟨r', hr', hcases⟩ := posting_at hposts hc ht
  rw [hr, Option.some.injEq] at hr'
  subst hr'
  rcases hcases with ⟨hdup, hsome, -⟩ | ⟨rfl, hnone, hbooks⟩ | ⟨rfl, hnone, hbooks⟩
  · have hne : r ≠ .exceedsCredits := by
      rintro rfl
      cases hdup
    simp [hne, hdup, hsome, hlater i hsome]
  · have hheld : ((tb.booksAt L ts (i + 1)).transfer? t.id).isSome = true := by
      rw [hbooks]
      simp [Books.post, Books.transfer?]
    simp [hnone, hlater (i + 1) hheld, duplicate]
  · have hrefused : (tb.createTransfers L ts).2.transfer? t.id = none := by
      rw [tb.createTransfers_from L ts (i + 1), hbooks]
      apply tb.createTransfers_refused
      · exact List.mem_cons_self
      · exact hnone
    simp [hnone, hrefused, duplicate]

end Request

/-- The transfers that, by their results, a request has put into the books. -/
def newlyAccepted (ts : List Transfer) (results : List TransferResult) : List Transfer :=
  ((ts.zip results).filter fun x => x.2.accepted && !x.2.exists_).map Prod.fst

@[simp] theorem newlyAccepted_cons (t : Transfer) (ts : List Transfer) (res : TransferResult)
    (results : List TransferResult) :
    newlyAccepted (t :: ts) (res :: results) =
      if res.accepted && !res.exists_ then t :: newlyAccepted ts results
      else newlyAccepted ts results := by
  unfold newlyAccepted
  rw [List.zip_cons_cons, List.filter_cons]
  split_ifs <;> rfl

theorem verdictOf_new {r : CreateTransferResult} (resource : ResourceType)
    (hr : classified r = true) :
    ((verdictOf resource r).accepted && !(verdictOf resource r).exists_) = decide (r = .ok) := by
  cases r <;> first | rfl | cases hr

theorem createTransfers_balance (tb : Service) {L : Books} {ts : List Transfer}
    {resources : List ResourceType} (hlen : resources.length = ts.length)
    (hposts : ∀ t ∈ ts, t.posts = true)
    (hc : ∀ r ∈ (tb.createTransfers L ts).1, classified r = true) (a : Uint128) :
    (tb.createTransfers L ts).2.balance a = { L.balance a with
      debitsPosted := (L.balance a).debitsPosted + total (fun t => t.debitAccountID = a)
        (newlyAccepted ts (List.zipWith verdictOf resources (tb.createTransfers L ts).1))
      creditsPosted := (L.balance a).creditsPosted + total (fun t => t.creditAccountID = a)
        (newlyAccepted ts (List.zipWith verdictOf resources (tb.createTransfers L ts).1)) } := by
  induction ts generalizing L resources with
  | nil => simp [Service.createTransfers, newlyAccepted]
  | cons t ts ih =>
    cases resources with
    | nil => cases hlen
    | cons resource resources =>
      simp only [Service.createTransfers, List.forall_mem_cons] at hposts hc
      have hrest := ih (Nat.succ.inj hlen) hposts.2 hc.2
      simp only [Service.createTransfers, List.zipWith_cons_cons, newlyAccepted_cons]
      rw [hrest, verdictOf_new resource hc.1]
      rcases posting_cases (tb.transfer_documented L t) hposts.1 hc.1 with
        ⟨hdup, -, hbooks⟩ | ⟨hok, -, hbooks⟩ | ⟨hrefused, -, hbooks⟩
      · have hne : (tb.createTransfer L t).1 ≠ .ok := by
          intro hok
          rw [hok] at hdup
          cases hdup
        simp [hne, hbooks]
      · simp [hok, hbooks, Books.post, Nat.add_assoc]
      · simp [hrefused, hbooks, Books.fail]

/-- The results say what the request for `ts` did: the books were `L` before and are `L'`
after it. -/
structure FaithfulResults (tb : Service) (L L' : Books) (ts : List Transfer)
    (resources : List ResourceType) (results : List TransferResult) : Prop where
  labels : results.map (·.resource) = resources
  length_eq : results.length = ts.length
  one_verdict : ∀ res ∈ results, res.accepted = !res.exceedsCredits
  accepted_iff : ∀ (i : ℕ) (t : Transfer) (res : TransferResult), ts[i]? = some t → results[i]? = some res →
    (res.accepted = true ↔ (L'.transfer? t.id).isSome = true)
  exists_iff : ∀ (i : ℕ) (t : Transfer) (res : TransferResult), ts[i]? = some t → results[i]? = some res →
    (res.exists_ = true ↔ (L.transfer? t.id).isSome = true ∨
      ∃ j < i, ∃ s, tb.CommitsAt L ts j s ∧ s.id = t.id)
  balance_eq : ∀ a, L'.balance a = { L.balance a with
    debitsPosted := (L.balance a).debitsPosted +
      total (fun t => t.debitAccountID = a) (newlyAccepted ts results)
    creditsPosted := (L.balance a).creditsPosted +
      total (fun t => t.creditAccountID = a) (newlyAccepted ts results) }

theorem verdicts_faithful (tb : Service) {L : Books} {ts : List Transfer}
    {resources : List ResourceType} (hlen : resources.length = ts.length)
    (hposts : ∀ t ∈ ts, t.posts = true)
    (hc : ∀ r ∈ (tb.createTransfers L ts).1, classified r = true) :
    FaithfulResults tb L (tb.createTransfers L ts).2 ts resources
      (List.zipWith verdictOf resources (tb.createTransfers L ts).1) := by
  have hanswers := tb.createTransfers_length L ts
  have hverdict : ∀ (i : ℕ) (res : TransferResult),
      (List.zipWith verdictOf resources (tb.createTransfers L ts).1)[i]? = some res →
      ∃ resource r, (tb.createTransfers L ts).1[i]? = some r ∧ verdictOf resource r = res := by
    intro i res hres
    obtain ⟨resource, r, -, hr, hv⟩ := List.getElem?_zipWith_eq_some.mp hres
    exact ⟨resource, r, hr, hv⟩
  constructor
  · apply List.ext_getElem
    · simp [hlen, hanswers]
    · intro i h1 h2
      simp [verdictOf]
  · simp [hlen, hanswers]
  · intro res hres
    obtain ⟨i, hi⟩ := List.getElem?_of_mem hres
    obtain ⟨resource, r, -, rfl⟩ := hverdict i res hi
    simp [verdictOf]
  · intro i t res ht hres
    obtain ⟨resource, r, hr, rfl⟩ := hverdict i res hres
    rw [← (verdict_at hposts hc ht hr).1]
    simp [verdictOf]
  · intro i t res ht hres
    obtain ⟨resource, r, hr, rfl⟩ := hverdict i res hres
    rw [← booksAt_holds_iff hposts hc i t.id, ← (verdict_at hposts hc ht hr).2]
    rfl
  · intro a
    exact createTransfers_balance tb hlen hposts hc a

theorem allocationTransfers_posts (rand : ℕ → Uint128) (n : ℕ) (as : List AllocationTransfer) :
    ∀ t ∈ allocationTransfers rand n as, t.posts = true := by
  induction as generalizing n with
  | nil => simp [allocationTransfers]
  | cons a as ih =>
    rw [allocationTransfers, List.forall_mem_cons]
    constructor
    · rfl
    · exact ih (n + 1)

/-- A submission of usage or allocation transfers that returns no error classifies each of
them by what happened to it, also where an identifier is repeated. -/
theorem submitBatch_classifies (tb : Service) (fate : Fate) (L L' : Books)
    (results : List TransferResult) :
    (∀ transfers : List UsageTransfer,
      submitUsageBatch tb fate L transfers = (.ok results, L') →
        FaithfulResults tb L L' (transfers.map UsageTransfer.toTransfer)
          (transfers.map (·.resource)) results) ∧
      ∀ (rand : ℕ → Uint128) (allocations : List AllocationTransfer),
        submitAllocations tb fate rand L allocations = (.ok results, L') →
          FaithfulResults tb L L' (allocationTransfers rand 0 allocations)
            (allocations.map (·.resource)) results := by
  constructor
  · intro transfers h
    have hbooks : (submitUsageBatch tb fate L transfers).2 = L' := congrArg Prod.snd h
    obtain ⟨rfl, hc, rfl⟩ :=
      (submitUsageBatch_ok_iff tb L transfers fate results).mp (congrArg Prod.fst h)
    rw [submitUsageBatch, submitBatch_books] at hbooks
    obtain rfl := hbooks
    apply verdicts_faithful tb _ _ hc
    · simp
    · intro t ht
      obtain ⟨u, -, rfl⟩ := List.mem_map.mp ht
      rfl
  · intro rand allocations h
    have hbooks : (submitAllocations tb fate rand L allocations).2 = L' := congrArg Prod.snd h
    obtain ⟨rfl, hc, rfl⟩ :=
      (submitAllocations_ok_iff tb rand L allocations fate results).mp (congrArg Prod.fst h)
    rw [submitAllocations, submitBatch_books] at hbooks
    obtain rfl := hbooks
    apply verdicts_faithful tb _ (allocationTransfers_posts rand 0 allocations) hc
    simp [allocationTransfers_length]

def meteredQuota : Account := quotaAccount (sameBytes 9) .cpuHours (sameBytes 1)

def meteredUsage (id : UInt8) (amount : UInt64) : UsageTransfer where
  resource := .cpuHours
  operatorID := sameBytes 3
  tenantQuotaID := meteredQuota.id
  sinkID := sameBytes 2
  amount := amount
  transferID := sameBytes id
  clusterUUID := sameBytes 8
  heartbeatTsNs := 1

def meteredGrant (id : Uint128) (amount : UInt64) : AllocationTransfer where
  resource := .cpuHours
  operatorID := sameBytes 3
  tenantQuotaID := meteredQuota.id
  amount := amount
  code := codeQuotaAllocation
  tenantUUID := sameBytes 9
  periodStartNs := 1
  transferID := id

/-- Five credits were granted, and one of them is used. -/
def meteredBooks : Books :=
  let L := (Reference.service.createAccounts {} [meteredQuota,
    globalAccount (.cpuHours, .sink) (sameBytes 2),
    globalAccount (.cpuHours, .operator) (sameBytes 3)]).2
  (Reference.service.createTransfers L [(meteredGrant (sameBytes 4) 5).toTransfer 0,
    (meteredUsage 20 1).toTransfer]).2

/-- A new transfer, its repetition, one that exceeds the credits, and one from before. -/
def meteredRequest : List UsageTransfer :=
  [meteredUsage 21 3, meteredUsage 21 3, meteredUsage 22 4, meteredUsage 20 1]

/-- Of the four usage transfers only the first one moves the balance; a grant without an
identifier gets a random one. -/
theorem repeated_usage_classified :
    (∃ results L', submitUsageBatch Reference.service .answered meteredBooks meteredRequest =
        (.ok results, L') ∧
      results.map (·.accepted) = [true, true, false, true] ∧
      results.map (·.exists_) = [false, true, false, true] ∧
      L'.transfer? (sameBytes 22) = none ∧ (L'.balance meteredQuota.id).debitsPosted = 4) ∧
    ∃ results L', submitAllocations Reference.service .answered (fun _ => sameBytes 30) meteredBooks
        [meteredGrant 0 7] = (.ok results, L') ∧ (L'.balance meteredQuota.id).creditsPosted = 12 := by
  constructor
  · have hok : submitUsageBatch Reference.service .answered meteredBooks meteredRequest =
        (.ok [{ resource := .cpuHours, accepted := true },
          { resource := .cpuHours, accepted := true, exists_ := true },
          { resource := .cpuHours, exceedsCredits := true },
          { resource := .cpuHours, accepted := true, exists_ := true }], _) :=
      Prod.ext (by decide +kernel) rfl
    have hfaithful := (submitBatch_classifies Reference.service .answered meteredBooks _ _).1
      meteredRequest hok
    have hrefused := hfaithful.accepted_iff 2 _ _ rfl rfl
    refine ⟨_, _, hok, by decide, by decide, ?_, ?_⟩
    · rw [← Option.not_isSome_iff_eq_none]
      intro hsome
      cases hrefused.mpr hsome
    · rw [hfaithful.balance_eq]
      decide +kernel
  · have hok : submitAllocations Reference.service .answered (fun _ => sameBytes 30) meteredBooks
        [meteredGrant 0 7] = (.ok [{ resource := .cpuHours, accepted := true }], _) :=
      Prod.ext (by decide +kernel) rfl
    have hfaithful := (submitBatch_classifies Reference.service .answered meteredBooks _ _).2 _ _ hok
    refine ⟨_, _, hok, ?_⟩
    rw [hfaithful.balance_eq]
    decide +kernel

end CloudCredit.Ledger
