import Mathlib.Tactic

/-!
# Lists

Elements that are overwritten or deleted, sums over a part of a list, and lists that are
told apart by a key.
-/
namespace CloudCredit.Library

/-- Writing an element over one with the same image does not change the images. -/
theorem map_set_of_eq {α β : Type} {g : α → β} {l : List α} {i : ℕ} {a b : α}
    (hi : l[i]? = some a) (hg : g b = g a) : (l.set i b).map g = l.map g := by
  refine List.ext_getElem? fun j => ?_
  by_cases hij : i = j
  · subst hij
    simp [hi, List.getElem?_set_self', hg]
  · simp [List.getElem?_set_ne hij]

theorem filterMap_set_sublist {α β : Type} {g : α → Option β} {l : List α} {i : ℕ} {a b : α}
    (hi : l[i]? = some a) (hg : ∀ y, g b = some y → g a = some y) :
    ((l.set i b).filterMap g).Sublist (l.filterMap g) := by
  induction l generalizing i with
  | nil => simp at hi
  | cons x xs ih =>
    cases i with
    | zero =>
      cases hi
      cases hb : g b with
      | none =>
        rw [List.set_cons_zero, List.filterMap_cons_none hb]
        exact List.Sublist.filterMap g (List.sublist_cons_self a xs)
      | some y =>
        rw [List.set_cons_zero, List.filterMap_cons_some hb, List.filterMap_cons_some (hg y hb)]
    | succ i =>
      have ih := ih (i := i) (by simpa using hi)
      rw [List.set_cons_succ, List.filterMap_cons, List.filterMap_cons]
      cases g x with
      | none => exact ih
      | some y => exact ih.cons_cons y

theorem filterMap_set_of_nil {α β : Type} {g : α → Option β} {l : List α} {i : ℕ} {a : α}
    (hi : l[i]? = some a) (hl : l.filterMap g = []) (b : α) :
    (l.set i b).filterMap g = (g b).toList := by
  induction l generalizing i with
  | nil => simp at hi
  | cons x xs ih =>
    rw [List.filterMap_eq_nil_iff] at hl
    have hxs : xs.filterMap g = [] :=
      List.filterMap_eq_nil_iff.mpr fun y hy => hl y (List.mem_cons_of_mem _ hy)
    cases i with
    | zero =>
      rw [List.set_cons_zero, List.filterMap_cons]
      cases g b <;> simp [hxs]
    | succ i =>
      rw [List.set_cons_succ, List.filterMap_cons_none (hl x List.mem_cons_self)]
      exact ih (by simpa using hi) hxs

theorem sum_map_eraseIdx {α : Type} (f : α → ℕ) {l : List α} {i : ℕ} {a : α} (hi : l[i]? = some a) :
    (l.map f).sum = f a + ((l.eraseIdx i).map f).sum := by
  induction l generalizing i with
  | nil => simp at hi
  | cons x xs ih =>
    cases i with
    | zero =>
      cases hi
      simp
    | succ i =>
      have := ih (i := i) (by simpa using hi)
      simp only [List.map_cons, List.sum_cons, List.eraseIdx_cons_succ]
      omega

theorem sum_map_set_lt {α : Type} {f : α → ℕ} {l : List α} {i : ℕ} {a b : α} (hi : l[i]? = some a)
    (hlt : f b < f a) : ((l.set i b).map f).sum < (l.map f).sum := by
  induction l generalizing i with
  | nil => simp at hi
  | cons x xs ih =>
    cases i with
    | zero =>
      cases hi
      simpa using hlt
    | succ i =>
      have := ih (i := i) (by simpa using hi)
      simp only [List.set_cons_succ, List.map_cons, List.sum_cons]
      omega

/-- Another element stays when one is deleted. -/
theorem mem_eraseIdx_of_ne {α : Type} {l : List α} {i : ℕ} {a x : α} (hi : l[i]? = some a)
    (hx : x ∈ l) (hne : x ≠ a) : x ∈ l.eraseIdx i := by
  obtain ⟨j, hj⟩ := List.mem_iff_getElem?.mp hx
  refine List.mem_eraseIdx_iff_getElem?.mpr ⟨j, fun hij => hne ?_, hj⟩
  subst hij
  exact Option.some.inj (hj.symm.trans hi)

theorem sum_filter {α : Type} (xs : List α) (p : α → Bool) (f : α → ℕ) :
    ((xs.filter p).map f).sum = (xs.map fun x => if p x then f x else 0).sum := by
  simp [List.sum_map_ite]

/-- Under a key that no two entries share, an entry is found alone. -/
theorem filter_key_eq {α κ : Type} [DecidableEq κ] {f : α → κ} {xs : List α}
    (hn : (xs.map f).Nodup) {x : α} (hx : x ∈ xs) : xs.filter (f · = f x) = [x] := by
  induction xs with
  | nil => simp at hx
  | cons y ys ih =>
    simp only [List.map_cons, List.nodup_cons] at hn
    rcases List.mem_cons.mp hx with rfl | hx
    · have hnone : ys.filter (f · = f x) = [] := by
        rw [List.filter_eq_nil_iff]
        intro z hz he
        exact hn.1 (decide_eq_true_eq.mp he ▸ List.mem_map_of_mem hz)
      simp [hnone]
    · have hne : f y ≠ f x := fun he => hn.1 (he ▸ List.mem_map_of_mem hx)
      simp [hne, ih hn.2 hx]

theorem sum_of_single {α κ : Type} [DecidableEq κ] {k : α → κ} {xs : List α}
    (hn : (xs.map k).Nodup) {x : α} (hx : x ∈ xs) {f : α → ℕ}
    (hf : ∀ y ∈ xs, k y ≠ k x → f y = 0) : (xs.map f).sum = f x := by
  have hsplit : (xs.map f).sum = ((xs.filter (k · = k x)).map f).sum := by
    rw [sum_filter]
    congr 1
    refine List.map_congr_left fun y hy => ?_
    split_ifs with hk
    · rfl
    · exact hf y hy (by simpa using hk)
  rw [hsplit, filter_key_eq hn hx]
  simp

theorem eq_singleton_of_forall {α : Type} {xs : List α} {a : α} (hn : xs.Nodup) (ha : a ∈ xs)
    (hall : ∀ b ∈ xs, b = a) : xs = [a] := by
  cases xs with
  | nil => cases ha
  | cons b xs =>
    obtain rfl := hall b List.mem_cons_self
    cases xs with
    | nil => rfl
    | cons c xs =>
      obtain rfl := hall c (by simp)
      simp at hn

theorem cut_unique {α : Type} {x : α} {n m u v : List α} (hm : x ∉ m) (hv : x ∉ v)
    (h : n ++ x :: u = m ++ x :: v) : n = m := by
  induction n generalizing m with
  | nil =>
    cases m with
    | nil => rfl
    | cons y m =>
      simp only [List.nil_append, List.cons_append, List.cons.injEq] at h
      exact absurd (by simp [h.1]) hm
  | cons y n ih =>
    cases m with
    | nil =>
      simp only [List.nil_append, List.cons_append, List.cons.injEq] at h
      exact absurd (by simp [← h.2]) hv
    | cons z m =>
      simp only [List.cons_append, List.cons.injEq] at h
      rw [h.1, ih (fun hx => hm (List.mem_cons_of_mem _ hx)) h.2]

theorem filterMap_cons_toList {α β : Type*} (f : α → Option β) (x : α) (xs : List α) :
    (x :: xs).filterMap f = (f x).toList ++ xs.filterMap f := by
  cases hx : f x <;> simp [hx]

end CloudCredit.Library
