import CloudCredit.TigerBeetle.Documented

/-!
# Requests of many events

A request is answered event by event, in order. The client library hands back
only the failures together with their positions, and the connection may lose a
request before it is applied or lose the reply after it was. `record` is the
same batch seen from outside: it keeps, newest first, which event was answered
how, so that statements can speak about the order in which the service decided.
-/
namespace CloudCredit.TigerBeetle

namespace Service

variable (tb : Service)

/-- Answer the events of one request in order. -/
def createTransfers : Books → List Transfer → List CreateTransferResult × Books
  | L, [] => ([], L)
  | L, t :: ts =>
    let head := tb.createTransfer L t
    let tail := createTransfers head.2 ts
    (head.1 :: tail.1, tail.2)

def createAccounts : Books → List Account → List CreateAccountResult × Books
  | L, [] => ([], L)
  | L, a :: as =>
    let head := tb.createAccount L a
    let tail := createAccounts head.2 as
    (head.1 :: tail.1, tail.2)

theorem createTransfers_length (L : Books) (ts : List Transfer) :
    (tb.createTransfers L ts).1.length = ts.length := by
  induction ts generalizing L with
  | nil => rfl
  | cons t ts ih => simp [createTransfers, ih]

theorem createTransfers_append (L : Books) (xs ys : List Transfer) :
    tb.createTransfers L (xs ++ ys) =
      ((tb.createTransfers L xs).1 ++ (tb.createTransfers (tb.createTransfers L xs).2 ys).1,
        (tb.createTransfers (tb.createTransfers L xs).2 ys).2) := by
  induction xs generalizing L with
  | nil => rfl
  | cons x xs ih => simp [createTransfers, ih]

theorem createTransfers_keeps {P : Books → Prop} {ts : List Transfer}
    (hstep : ∀ L t, t ∈ ts → P L → P (tb.createTransfer L t).2) {L : Books} (h : P L) :
    P (tb.createTransfers L ts).2 := by
  induction ts generalizing L with
  | nil => exact h
  | cons t ts ih =>
    exact ih (fun L s hs => hstep L s (List.mem_cons_of_mem _ hs)) (hstep L t List.mem_cons_self h)

theorem createTransfers_wf {L : Books} (h : L.Wf) (ts : List Transfer) :
    (tb.createTransfers L ts).2.Wf :=
  tb.createTransfers_keeps (P := Books.Wf) (fun M t _ hM => (tb.transfer_documented M t).wf hM) h

theorem createTransfers_grows (L : Books) (ts : List Transfer) :
    L.Grows (tb.createTransfers L ts).2 :=
  tb.createTransfers_keeps (P := L.Grows)
    (fun M t _ hM => hM.trans (tb.transfer_documented M t).grows) (Books.Grows.refl L)

theorem createTransfers_accounts (L : Books) (ts : List Transfer) :
    (tb.createTransfers L ts).2.accounts = L.accounts :=
  tb.createTransfers_keeps (P := fun M => M.accounts = L.accounts)
    (fun M t _ hM => (tb.transfer_documented M t).accounts_eq.trans hM) rfl

theorem createAccounts_keeps {P : Books → Prop} {as : List Account}
    (hstep : ∀ L a, a ∈ as → P L → P (tb.createAccount L a).2) {L : Books} (h : P L) :
    P (tb.createAccounts L as).2 := by
  induction as generalizing L with
  | nil => exact h
  | cons a as ih =>
    exact ih (fun L b hb => hstep L b (List.mem_cons_of_mem _ hb)) (hstep L a List.mem_cons_self h)

theorem createAccounts_wf {L : Books} (h : L.Wf) (as : List Account) :
    (tb.createAccounts L as).2.Wf :=
  tb.createAccounts_keeps (P := Books.Wf) (fun M a _ hM => (tb.account_documented M a).wf hM) h

theorem createAccounts_grows (L : Books) (as : List Account) :
    L.Grows (tb.createAccounts L as).2 :=
  tb.createAccounts_keeps (P := L.Grows)
    (fun M a _ hM => hM.trans (tb.account_documented M a).grows) (Books.Grows.refl L)

/-- Account events add to the accounts and touch nothing else. -/
theorem createAccounts_frame (L : Books) (as : List Account) :
    (tb.createAccounts L as).2.transfers = L.transfers ∧
      (tb.createAccounts L as).2.failed = L.failed ∧
      (tb.createAccounts L as).2.balance = L.balance ∧
      ∀ b ∈ (tb.createAccounts L as).2.accounts, b ∈ L.accounts ∨ b ∈ as := by
  refine tb.createAccounts_keeps (P := fun M => M.transfers = L.transfers ∧ M.failed = L.failed ∧
    M.balance = L.balance ∧ ∀ b ∈ M.accounts, b ∈ L.accounts ∨ b ∈ as) ?_
    ⟨rfl, rfl, rfl, fun b hb => .inl hb⟩
  rintro M a ha ⟨ht, hf, hb, hacc⟩
  rcases (tb.account_documented M a).books with he | he
  · rw [he]
    exact ⟨ht, hf, hb, hacc⟩
  · rw [he]
    refine ⟨ht, hf, hb, fun b hmem => ?_⟩
    rcases List.mem_append.mp hmem with hmem | hmem
    · exact hacc b hmem
    · exact .inr (List.mem_singleton.mp hmem ▸ ha)

theorem createAccounts_found {L : Books} {as : List Account}
    (h : ∀ r ∈ (tb.createAccounts L as).1, r = .ok ∨ r = .exists) {a : Account} (ha : a ∈ as) :
    (tb.createAccounts L as).2.account? a.id = some a := by
  induction as generalizing L with
  | nil => simp at ha
  | cons b as ih =>
    simp only [createAccounts, List.mem_cons, forall_eq_or_imp] at h
    rcases List.mem_cons.mp ha with rfl | ha
    · exact (tb.createAccounts_grows _ as).account? ((tb.account_documented L a).account? h.1)
    · exact ih h.2 ha

theorem createAccounts_opened {L : Books} {as : List Account}
    (hnew : ∀ a ∈ as, a.valid = true ∧ L.account? a.id = none) (hnodup : (as.map (·.id)).Nodup) :
    tb.createAccounts L as = (as.map fun _ => .ok, { L with accounts := L.accounts ++ as }) := by
  induction as generalizing L with
  | nil => simp [createAccounts]
  | cons a as ih =>
    simp only [List.forall_mem_cons, List.map_cons, List.nodup_cons] at hnew hnodup
    obtain ⟨⟨hvalid, hnone⟩, hrest⟩ := hnew
    have hdoc := tb.account_documented L a
    have hopened : (tb.createAccount L a).1 = .ok ∧ (tb.createAccount L a).2 = L.openAccount a := by
      generalize hr : (tb.createAccount L a).1 = r at hdoc
      generalize hL : (tb.createAccount L a).2 = L' at hdoc
      cases hdoc with
      | repeated he => simp [hnone] at he
      | invalid hn hi => simp [hvalid] at hi
      | opened hn hi => exact ⟨rfl, rfl⟩
    have hnext : ∀ b ∈ as, b.valid = true ∧ (L.openAccount a).account? b.id = none := by
      intro b hb
      refine ⟨(hrest b hb).1, Books.account?_none.mpr fun c hc => ?_⟩
      have hne : b.id ≠ a.id := fun hid => hnodup.1 (hid ▸ List.mem_map_of_mem hb)
      rcases List.mem_append.mp hc with hc | hc
      · exact Books.account?_none.mp (hrest b hb).2 c hc
      · rw [List.mem_singleton.mp hc]
        exact hne.symm
    simp only [createAccounts, hopened.1, hopened.2, ih hnext hnodup.2, List.map_cons]
    simp [Books.openAccount]

theorem createAccounts_new {L : Books} {as : List Account}
    (hnew : ∀ a ∈ as, a.valid = true ∧ L.account? a.id = none) (hnodup : (as.map (·.id)).Nodup) :
    ∀ r ∈ (tb.createAccounts L as).1, r = .ok := by
  rw [tb.createAccounts_opened hnew hnodup]
  intro r hr
  obtain ⟨a, -, rfl⟩ := List.mem_map.mp hr
  rfl

end Service

namespace Service

variable (tb : Service) {L : Books} {ts : List Transfer} {i : ℕ} {t : Transfer}

/-- The books when the event at position `i` of a request is answered. -/
def booksAt (L : Books) (ts : List Transfer) (i : ℕ) : Books := (tb.createTransfers L (ts.take i)).2

/-- The transfer at position `j` is put into the books by its own event. -/
def CommitsAt (L : Books) (ts : List Transfer) (j : ℕ) (s : Transfer) : Prop :=
  ts[j]? = some s ∧ (tb.booksAt L ts j).transfer? s.id = none ∧
    s ∈ (tb.booksAt L ts (j + 1)).transfers

theorem booksAt_succ (ht : ts[i]? = some t) :
    tb.booksAt L ts (i + 1) = (tb.createTransfer (tb.booksAt L ts i) t).2 := by
  induction ts generalizing L i with
  | nil => cases ht
  | cons s ts ih =>
    cases i with
    | zero =>
      cases ht
      rfl
    | succ i =>
      have htail : ts[i]? = some t := by simpa using ht
      exact ih htail

theorem answer_at (ht : ts[i]? = some t) :
    (tb.createTransfers L ts).1[i]? = some (tb.createTransfer (tb.booksAt L ts i) t).1 := by
  induction ts generalizing L i with
  | nil => cases ht
  | cons s ts ih =>
    cases i with
    | zero =>
      cases ht
      rfl
    | succ i =>
      have htail : ts[i]? = some t := by simpa using ht
      exact ih htail

theorem createTransfers_from (L : Books) (ts : List Transfer) (i : ℕ) :
    (tb.createTransfers L ts).2 = (tb.createTransfers (tb.booksAt L ts i) (ts.drop i)).2 := by
  induction ts generalizing L i with
  | nil => cases i <;> rfl
  | cons s ts ih =>
    cases i with
    | zero => rfl
    | succ i => exact ih (tb.createTransfer L s).2 i

end Service

/-- The failures of a request, with positions counted from `n`. -/
def failuresFrom {ρ : Type} [DecidableEq ρ] (ok : ρ) : ℕ → List ρ → List (ℕ × ρ)
  | _, [] => []
  | n, r :: rs =>
    if r = ok then failuresFrom ok (n + 1) rs else (n, r) :: failuresFrom ok (n + 1) rs

/-- The reply to a request names the failed events only. -/
def failures {ρ : Type} [DecidableEq ρ] (ok : ρ) (rs : List ρ) : List (ℕ × ρ) :=
  failuresFrom ok 0 rs

/-- The failures as a map from positions; a later entry overwrites an earlier one. -/
def failureMap {ρ : Type} (m : ℕ → Option ρ) (fs : List (ℕ × ρ)) : ℕ → Option ρ :=
  fs.foldl (fun m f => Function.update m f.1 (some f.2)) m

section Failures

variable {ρ : Type} [DecidableEq ρ] (ok : ρ)

theorem failureMap_below (n k : ℕ) (rs : List ρ) (m : ℕ → Option ρ) (hk : n < k) :
    failureMap m (failuresFrom ok k rs) n = m n := by
  induction rs generalizing k m with
  | nil => rfl
  | cons r rs ih =>
    simp only [failuresFrom]
    split_ifs
    · exact ih (k + 1) m (by omega)
    · have h := ih (k + 1) (Function.update m k (some r)) (by omega)
      rwa [Function.update_of_ne (by omega)] at h

theorem failuresFrom_nil (n : ℕ) {rs : List ρ} (h : ∀ r ∈ rs, r = ok) :
    failuresFrom ok n rs = [] := by
  induction rs generalizing n with
  | nil => rfl
  | cons r rs ih =>
    simp only [List.forall_mem_cons] at h
    rw [failuresFrom, if_pos h.1, ih _ h.2]

theorem failureMap_at (n : ℕ) (rs : List ρ) (m : ℕ → Option ρ) (i : ℕ) :
    failureMap m (failuresFrom ok n rs) (n + i) =
      match rs[i]? with
      | some r => if r = ok then m (n + i) else some r
      | none => m (n + i) := by
  induction rs generalizing n m i with
  | nil => rfl
  | cons r rs ih =>
    cases i with
    | zero =>
      simp only [failuresFrom, Nat.add_zero, List.getElem?_cons_zero]
      split_ifs
      · exact failureMap_below ok n (n + 1) rs m (by omega)
      · have h := failureMap_below ok n (n + 1) rs (Function.update m n (some r)) (by omega)
        rwa [Function.update_self] at h
    | succ i =>
      have hi : n + (i + 1) = n + 1 + i := by omega
      simp only [failuresFrom, List.getElem?_cons_succ, hi]
      split_ifs
      · exact ih (n + 1) m i
      · have h := ih (n + 1) (Function.update m n (some r)) i
        simp only [Function.update_of_ne (show n + 1 + i ≠ n by omega)] at h
        exact h

theorem failureMap_failures (rs : List ρ) (i : ℕ) :
    failureMap (fun _ => none) (failures ok rs) i = rs[i]?.filter (· ≠ ok) := by
  have h := failureMap_at ok 0 rs (fun _ => none) i
  rw [Nat.zero_add] at h
  rw [failures, h]
  cases rs[i]? with
  | none => rfl
  | some r => by_cases hr : r = ok <;> simp [hr, Option.filter]

theorem mem_failuresFrom {n : ℕ} {rs : List ρ} {r : ρ} (hr : r ∈ rs) (hne : r ≠ ok) :
    ∃ i, (i, r) ∈ failuresFrom ok n rs := by
  induction rs generalizing n with
  | nil => simp at hr
  | cons x xs ih =>
    simp only [failuresFrom]
    rcases List.mem_cons.mp hr with rfl | hr
    · exact ⟨n, by simp [hne]⟩
    · obtain ⟨i, hi⟩ := ih (n := n + 1) hr
      split_ifs
      · exact ⟨i, hi⟩
      · exact ⟨i, List.mem_cons_of_mem _ hi⟩

/-- Walk over all positions of a request, counted from `n`, and let `g` treat
the failures. -/
def foldAnswers {μ α ε : Type} (ok : ρ) (g : ℕ → μ → ρ → α → Except ε α) :
    ℕ → List (μ × ρ) → α → Except ε α
  | _, [], acc => .ok acc
  | n, x :: xs, acc =>
    if x.2 = ok then foldAnswers ok g (n + 1) xs acc
    else (g n x.1 x.2 acc).bind (foldAnswers ok g (n + 1) xs)

/-- Treat one reported failure by what its position stands for. -/
def atPosition {ρ μ α ε : Type} (g : ℕ → μ → ρ → α → Except ε α) (err : ℕ × ρ → ε) (ms : List μ)
    (acc : α) (f : ℕ × ρ) : Except ε α :=
  match ms[f.1]? with
  | some m => g f.1 m f.2 acc
  | none => .error (err f)

theorem foldlM_failuresFrom {μ α ε : Type} (g : ℕ → μ → ρ → α → Except ε α) (err : ℕ × ρ → ε)
    (pre ms : List μ) (rs : List ρ) (hlen : ms.length = rs.length) (acc : α) :
    (failuresFrom ok pre.length rs).foldlM (atPosition g err (pre ++ ms)) acc =
      foldAnswers ok g pre.length (ms.zip rs) acc := by
  induction rs generalizing pre ms acc with
  | nil => simp [failuresFrom, foldAnswers, pure, Except.pure]
  | cons r rs ih =>
    cases ms with
    | nil => simp at hlen
    | cons m ms =>
      have hlen' : ms.length = rs.length := by simpa using hlen
      have hpre : pre ++ m :: ms = (pre ++ [m]) ++ ms := by simp
      have ih' := ih (pre ++ [m]) ms hlen'
      simp only [List.length_append, List.length_cons, List.length_nil, Nat.zero_add] at ih'
      simp only [failuresFrom, List.zip_cons_cons, foldAnswers]
      by_cases hr : r = ok
      · simp only [hr, if_true]
        rw [hpre]
        exact ih' acc
      · have hget : (pre ++ m :: ms)[pre.length]? = some m := by simp
        simp only [hr, if_false, List.foldlM_cons, atPosition, hget, bind]
        congr 1
        funext a
        rw [hpre]
        exact ih' a

end Failures

/-- What becomes of one request on its way to the service and back. -/
inductive Fate
  | answered
  | lostRequest (error : String)
  | lostReply (error : String)

/-- The service applied the request. -/
def Fate.reached : Fate → Bool
  | .lostRequest _ => false
  | _ => true

namespace Service

variable (tb : Service)

/-- The client's call: the failures of the request, or an error when the
request or the reply was lost. -/
def request (fate : Fate) (L : Books) (ts : List Transfer) :
    Except String (List (ℕ × CreateTransferResult)) × Books :=
  match fate with
  | .answered =>
    let out := tb.createTransfers L ts
    (.ok (failures .ok out.1), out.2)
  | .lostRequest error => (.error error, L)
  | .lostReply error => (.error error, (tb.createTransfers L ts).2)

/-- The client's call for account events. -/
def requestAccounts (fate : Fate) (L : Books) (as : List Account) :
    Except String (List (ℕ × CreateAccountResult)) × Books :=
  match fate with
  | .answered =>
    let out := tb.createAccounts L as
    (.ok (failures .ok out.1), out.2)
  | .lostRequest error => (.error error, L)
  | .lostReply error => (.error error, (tb.createAccounts L as).2)

theorem request_congr {fate : Fate} {L M : Books} {ts : List Transfer}
    (hanswers : fate.reached = true → (tb.createTransfers M ts).1 = (tb.createTransfers L ts).1) :
    (tb.request fate M ts).1 = (tb.request fate L ts).1 := by
  cases fate with
  | lostRequest error => rfl
  | lostReply error => rfl
  | answered => simp only [request, hanswers rfl]

theorem requestAccounts_opened (fate : Fate) (as : List Account) : ∃ reply, ∃ bs ⊆ as, ∀ L : Books,
    (∀ a ∈ as, a.valid = true ∧ L.account? a.id = none) → (as.map (·.id)).Nodup →
      tb.requestAccounts fate L as = (reply, { L with accounts := L.accounts ++ bs }) := by
  cases fate with
  | lostRequest error =>
    exact ⟨.error error, [], List.nil_subset _, fun L _ _ => by simp [requestAccounts]⟩
  | lostReply error =>
    refine ⟨.error error, as, List.Subset.refl _, fun L hnew hnodup => ?_⟩
    simp only [requestAccounts, tb.createAccounts_opened hnew hnodup]
  | answered =>
    refine ⟨.ok (failures .ok (as.map fun _ => .ok)), as, List.Subset.refl _,
      fun L hnew hnodup => ?_⟩
    simp only [requestAccounts, tb.createAccounts_opened hnew hnodup]

end Service

/-- One decision of the service, with what the event stood for. -/
structure Entry (α : Type) where
  origin : α
  transfer : Transfer
  answer : CreateTransferResult

namespace Service

variable (tb : Service) {α : Type}

/-- Answer a request and write every decision down, newest first. -/
def record : Books × List (Entry α) → List (α × Transfer) → Books × List (Entry α)
  | s, [] => s
  | s, x :: xs =>
    let out := tb.createTransfer s.1 x.2
    record (out.2, ⟨x.1, x.2, out.1⟩ :: s.2) xs

theorem record_books (s : Books × List (Entry α)) (xs : List (α × Transfer)) :
    (tb.record s xs).1 = (tb.createTransfers s.1 (xs.map Prod.snd)).2 := by
  induction xs generalizing s with
  | nil => rfl
  | cons x xs ih => exact ih _

/-- A property of books and decisions kept by every single decision is kept by
the request. -/
theorem record_keeps {P : Books × List (Entry α) → Prop} {xs : List (α × Transfer)}
    (hstep : ∀ L J x, x ∈ xs → P (L, J) →
      ∀ r L', Answers L x.2 r L' → P (L', ⟨x.1, x.2, r⟩ :: J))
    {s : Books × List (Entry α)} (h : P s) : P (tb.record s xs) := by
  induction xs generalizing s with
  | nil => exact h
  | cons x xs ih =>
    apply ih (fun L J y hy => hstep L J y (List.mem_cons_of_mem _ hy))
    exact hstep s.1 s.2 x List.mem_cons_self h _ _ (tb.transfer_documented s.1 x.2)

theorem record_suffix (s : Books × List (Entry α)) (xs : List (α × Transfer)) :
    s.2 <:+ (tb.record s xs).2 :=
  tb.record_keeps (P := fun t => s.2 <:+ t.2)
    (fun _ _ _ _ h _ _ _ => h.trans (List.suffix_cons _ _)) List.suffix_rfl

/-- Every event of a request is decided with one of its answers. -/
theorem record_answer (s : Books × List (Entry α)) {xs : List (α × Transfer)} {x : α × Transfer}
    (hx : x ∈ xs) :
    ∃ r ∈ (tb.createTransfers s.1 (xs.map Prod.snd)).1, ⟨x.1, x.2, r⟩ ∈ (tb.record s xs).2 := by
  induction xs generalizing s with
  | nil => cases hx
  | cons y ys ih =>
    rcases List.mem_cons.mp hx with rfl | hx
    · exact ⟨_, List.mem_cons_self, (tb.record_suffix _ ys).subset List.mem_cons_self⟩
    · obtain ⟨r, hr, hmem⟩ := ih ((tb.createTransfer s.1 y.2).2, _) hx
      exact ⟨r, List.mem_cons_of_mem _ hr, hmem⟩

end Service
end CloudCredit.TigerBeetle
