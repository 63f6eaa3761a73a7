import CloudCredit.Library.Lists

/-!
# Maps that are looked up, written and iterated

A map is its lookup function. Writing and deleting change one key. Iteration
over the keys of a map visits them in an order nobody controls, so an iteration
order is any rearrangement of the key list.
-/
namespace CloudCredit.Library

/-- A map from keys to values; a missing key has no value. -/
abbrev Table (κ ν : Type) := κ → Option ν

namespace Table

def empty {κ ν : Type} : Table κ ν := fun _ => none

@[simp] theorem empty_apply {κ ν : Type} (k : κ) : (empty : Table κ ν) k = none := rfl

variable {κ ν : Type} [DecidableEq κ]

def set (m : Table κ ν) (k : κ) (v : ν) : Table κ ν := fun j => if j = k then some v else m j

def erase (m : Table κ ν) (k : κ) : Table κ ν := fun j => if j = k then none else m j

@[simp] theorem set_same (m : Table κ ν) (k : κ) (v : ν) : m.set k v k = some v := by
  simp [set]

theorem set_other (m : Table κ ν) {j k : κ} (h : j ≠ k) (v : ν) : m.set k v j = m j := by
  simp [set, h]

theorem set_eq_some {m : Table κ ν} {j k : κ} {v w : ν} :
    m.set k v j = some w ↔ j = k ∧ v = w ∨ j ≠ k ∧ m j = some w := by
  by_cases h : j = k <;> simp [set, h]

/-- A new key leaves the entries in place. -/
theorem set_fresh {m : Table κ ν} {j k : κ} {w : ν} (hk : m k = none) (hj : m j = some w) (v : ν) :
    m.set k v j = some w := by
  have hne : j ≠ k := by
    rintro rfl
    cases hk.symm.trans hj
  rw [set_other m hne, hj]

theorem set_empty_eq_some {j k : κ} {v w : ν} :
    (empty : Table κ ν).set k v j = some w ↔ j = k ∧ v = w := by
  simp [set_eq_some]

@[simp] theorem erase_same (m : Table κ ν) (k : κ) : m.erase k k = none := by
  simp [erase]

theorem erase_other (m : Table κ ν) {j k : κ} (h : j ≠ k) : m.erase k j = m j := by
  simp [erase, h]

/-- Change every value. -/
def mapValues {μ : Type} (f : ν → μ) (m : Table κ ν) : Table κ μ := fun k => (m k).map f

theorem mapValues_set {μ : Type} (f : ν → μ) (m : Table κ ν) (k : κ) (v : ν) :
    (m.set k v).mapValues f = (m.mapValues f).set k (f v) := by
  funext j
  by_cases hj : j = k <;> simp [mapValues, set, hj]

/-- Write a list of entries, a later one over an earlier one. -/
def setAll (m : Table κ ν) (xs : List (κ × ν)) : Table κ ν :=
  xs.foldl (fun m x => m.set x.1 x.2) m

@[simp] theorem setAll_nil (m : Table κ ν) : m.setAll [] = m := rfl

@[simp] theorem setAll_cons (m : Table κ ν) (x : κ × ν) (xs : List (κ × ν)) :
    m.setAll (x :: xs) = (m.set x.1 x.2).setAll xs := rfl

theorem setAll_append (m : Table κ ν) (xs ys : List (κ × ν)) :
    m.setAll (xs ++ ys) = (m.setAll xs).setAll ys := List.foldl_append

/-- After writing a list of entries a key has the value of its last entry. -/
theorem setAll_apply (m : Table κ ν) (xs : List (κ × ν)) (k : κ) :
    m.setAll xs k = ((xs.reverse.find? (·.1 = k)).map Prod.snd).or (m k) := by
  induction xs using List.reverseRecOn with
  | nil => rfl
  | append_singleton xs x ih =>
    rw [setAll_append, setAll_cons, setAll_nil, List.reverse_append, List.reverse_singleton,
      List.singleton_append, List.find?_cons]
    by_cases hk : x.1 = k
    · simp [hk, set]
    · simp [hk, set_other _ (Ne.symm hk), ih]

theorem setAll_of_notMem (m : Table κ ν) {xs : List (κ × ν)} {k : κ}
    (h : ∀ x ∈ xs, x.1 ≠ k) : m.setAll xs k = m k := by
  rw [setAll_apply, List.find?_eq_none.mpr]
  · rfl
  · intro x hx
    simpa using h x (List.mem_reverse.mp hx)

theorem setAll_congr (m : Table κ ν) {xs ys : List (κ × ν)} {k : κ}
    (h : xs.filter (·.1 = k) = ys.filter (·.1 = k)) : m.setAll xs k = m.setAll ys k := by
  rw [setAll_apply, setAll_apply, ← List.head?_filter, ← List.head?_filter, List.filter_reverse,
    List.filter_reverse, h]

/-- With distinct keys every entry survives. -/
theorem setAll_of_mem (m : Table κ ν) {xs : List (κ × ν)} (hn : (xs.map Prod.fst).Nodup)
    {k : κ} {v : ν} (h : (k, v) ∈ xs) : m.setAll xs k = some v := by
  induction xs generalizing m with
  | nil => simp at h
  | cons x xs ih =>
    simp only [List.map_cons, List.nodup_cons] at hn
    rw [setAll_cons]
    rcases List.mem_cons.mp h with rfl | h
    · rw [setAll_of_notMem]
      · exact set_same _ _ _
      · intro y hy he
        exact hn.1 (List.mem_map.mpr ⟨y, hy, he⟩)
    · exact ih _ hn.2 h

theorem setAll_const (m : Table κ ν) {xs : List (κ × ν)} {k : κ} {v : ν} (hne : xs ≠ [])
    (h : ∀ x ∈ xs, x = (k, v)) : m.setAll xs = m.set k v := by
  funext j
  by_cases hj : j = k
  · subst hj
    rw [set_same, setAll_apply]
    obtain ⟨x, hx⟩ := List.exists_mem_of_ne_nil xs hne
    have hsome : (xs.reverse.find? (·.1 = j)).isSome = true :=
      List.find?_isSome.mpr ⟨x, List.mem_reverse.mpr hx, by simp [h x hx]⟩
    obtain ⟨y, hy⟩ := Option.isSome_iff_exists.mp hsome
    rw [hy, h y (List.mem_reverse.mp (List.mem_of_find?_eq_some hy))]
    rfl
  · rw [set_other _ hj, setAll_of_notMem]
    intro x hx
    rw [h x hx]
    exact Ne.symm hj

/-- Write a list of entries, each only if its key has no value yet. -/
def insertAll (m : Table κ ν) (xs : List (κ × ν)) : Table κ ν :=
  xs.foldl (fun m x => if (m x.1).isSome then m else m.set x.1 x.2) m

theorem insertAll_append (m : Table κ ν) (xs ys : List (κ × ν)) :
    m.insertAll (xs ++ ys) = (m.insertAll xs).insertAll ys := List.foldl_append

theorem insertAll_apply (m : Table κ ν) (xs : List (κ × ν)) (k : κ) :
    m.insertAll xs k = (m k).or ((xs.find? (·.1 = k)).map Prod.snd) := by
  induction xs using List.reverseRecOn with
  | nil => simp [insertAll]
  | append_singleton xs x ih =>
    rw [insertAll_append, List.find?_append]
    simp only [insertAll, List.foldl_cons, List.foldl_nil] at ih ⊢
    by_cases hk : x.1 = k
    · subst hk
      cases hm : m x.1 <;> cases hf : xs.find? (·.1 = x.1) <;> simp [ih, hm, hf]
    · split_ifs <;> simp [ih, hk, set_other _ (Ne.symm hk)]

/-- Pairing a list with one of its length loses none of its elements. -/
theorem exists_mem_zip {α β : Type} {xs : List α} {ys : List β} (hlen : ys.length = xs.length)
    (P : α → Prop) : (∃ p ∈ xs.zip ys, P p.1) ↔ ∃ x ∈ xs, P x := by
  have hfst : (xs.zip ys).map Prod.fst = xs := List.map_fst_zip hlen.ge
  constructor
  · rintro ⟨p, hp, hP⟩
    exact ⟨p.1, (List.of_mem_zip hp).1, hP⟩
  · rintro ⟨x, hx, hP⟩
    rw [← hfst] at hx
    obtain ⟨p, hp, rfl⟩ := List.mem_map.mp hx
    exact ⟨p, hp, hP⟩

theorem setAll_map_const {β : Type} {xs : List (κ × ν)} {f : ν → β} {b : β}
    (h : ∀ x ∈ xs, f x.2 = b) (k : κ) :
    ((empty.setAll xs) k).map f = if ∃ x ∈ xs, x.1 = k then some b else none := by
  rw [setAll_apply, empty_apply, Option.or_none]
  cases hf : xs.reverse.find? (·.1 = k) with
  | none =>
    have hno : ¬∃ x ∈ xs, x.1 = k := by
      rintro ⟨x, hx, hk⟩
      simpa [hk] using List.find?_eq_none.mp hf x (List.mem_reverse.mpr hx)
    rw [if_neg hno]
    rfl
  | some x =>
    have hx := List.mem_reverse.mp (List.mem_of_find?_eq_some hf)
    have hk : x.1 = k := by simpa using List.find?_some hf
    rw [if_pos ⟨x, hx, hk⟩]
    simp [h x hx]

variable {ι : Type} [DecidableEq ι]

/-- Write one entry of an inner map, which is made when it is missing. -/
def setIn (m : Table κ (Table ι ν)) (k : κ) (i : ι) (v : ν) : Table κ (Table ι ν) :=
  m.set k (((m k).getD empty).set i v)

/-- Write a list of entries of inner maps. -/
def setInAll (m : Table κ (Table ι ν)) (xs : List ((κ × ι) × ν)) : Table κ (Table ι ν) :=
  xs.foldl (fun m x => m.setIn x.1.1 x.1.2 x.2) m

theorem setInAll_append_singleton (m : Table κ (Table ι ν)) (xs : List ((κ × ι) × ν))
    (x : (κ × ι) × ν) : m.setInAll (xs ++ [x]) = (m.setInAll xs).setIn x.1.1 x.1.2 x.2 := by
  simp [setInAll]

theorem setInAll_isSome (xs : List ((κ × ι) × ν)) (k : κ) :
    (((empty : Table κ (Table ι ν)).setInAll xs) k).isSome = xs.any (·.1.1 = k) := by
  induction xs using List.reverseRecOn with
  | nil => rfl
  | append_singleton xs x ih =>
    rw [setInAll_append_singleton, List.any_append, ← ih]
    by_cases hk : x.1.1 = k
    · subst hk
      simp [setIn]
    · rw [setIn, set_other _ (Ne.symm hk)]
      simp [hk]

/-- An entry of an inner map has the value of its last write. -/
theorem setInAll_apply (xs : List ((κ × ι) × ν)) (k : κ) (i : ι) :
    (((empty : Table κ (Table ι ν)).setInAll xs) k).bind (· i) = (empty.setAll xs) (k, i) := by
  induction xs using List.reverseRecOn with
  | nil => rfl
  | append_singleton xs x ih =>
    rw [setInAll_append_singleton, setAll_append, setAll_cons, setAll_nil]
    by_cases hk : x.1.1 = k
    · subst hk
      rw [setIn, set_same, Option.bind_some]
      by_cases hi : x.1.2 = i
      · subst hi
        rw [set_same, set_same]
      · have hne : (x.1.1, i) ≠ x.1 := fun he => hi (congrArg Prod.snd he).symm
        rw [set_other _ (Ne.symm hi), set_other _ hne, ← ih]
        cases (setInAll empty xs) x.1.1 <;> rfl
    · have hne : (k, i) ≠ x.1 := fun he => hk (congrArg Prod.fst he).symm
      rw [setIn, set_other _ (Ne.symm hk), set_other _ hne, ih]

/-- Two rearrangements of writes to distinct entries leave the same maps. -/
theorem setInAll_perm {xs ys : List ((κ × ι) × ν)} (hp : xs.Perm ys)
    (hn : (xs.map Prod.fst).Nodup) :
    (empty : Table κ (Table ι ν)).setInAll xs = empty.setInAll ys := by
  have hn' : (ys.map Prod.fst).Nodup := (hp.map Prod.fst).nodup_iff.mp hn
  have hall : (empty : Table (κ × ι) ν).setAll xs = empty.setAll ys := by
    funext k
    by_cases hk : ∃ v, (k, v) ∈ xs
    · obtain ⟨v, hv⟩ := hk
      rw [setAll_of_mem _ hn hv, setAll_of_mem _ hn' (hp.subset hv)]
    · have hno : ∀ x ∈ xs, x.1 ≠ k := by
        rintro x hx rfl
        exact hk ⟨x.2, hx⟩
      rw [setAll_of_notMem _ hno, setAll_of_notMem _ fun x hx => hno x (hp.symm.subset hx)]
  funext k
  have hany : xs.any (·.1.1 = k) = ys.any (·.1.1 = k) := by
    rw [Bool.eq_iff_iff, List.any_eq_true, List.any_eq_true]
    simp only [hp.mem_iff]
  have hsome := (setInAll_isSome xs k).trans (hany.trans (setInAll_isSome ys k).symm)
  have happly : ∀ i, (((empty : Table κ (Table ι ν)).setInAll xs) k).bind (· i) =
      (((empty : Table κ (Table ι ν)).setInAll ys) k).bind (· i) := by
    intro i
    rw [setInAll_apply, setInAll_apply, hall]
  cases hx : ((empty : Table κ (Table ι ν)).setInAll xs) k with
  | none =>
    rw [hx] at hsome
    exact (Option.not_isSome_iff_eq_none.mp (by simp [← hsome])).symm
  | some f =>
    rw [hx] at hsome
    obtain ⟨g, hg⟩ := Option.isSome_iff_exists.mp hsome.symm
    rw [hg]
    congr 1
    funext i
    simpa [hx, hg] using happly i

end Table

/-- An order in which the keys of a map may be visited. -/
structure IterationOrder (κ : Type) where
  order : List κ → List κ
  perm : ∀ ks, (order ks).Perm ks

namespace IterationOrder

variable {κ : Type}

/-- The order of the key list itself. -/
def listed (κ : Type) : IterationOrder κ := ⟨id, fun _ => .refl _⟩

theorem mem_order (o : IterationOrder κ) {ks : List κ} {k : κ} : k ∈ o.order ks ↔ k ∈ ks :=
  (o.perm ks).mem_iff

theorem nodup_order (o : IterationOrder κ) {ks : List κ} (h : ks.Nodup) : (o.order ks).Nodup :=
  (o.perm ks).nodup_iff.mpr h

theorem exists_of_perm [DecidableEq κ] {ks js : List κ} (hperm : js.Perm ks) :
    ∃ o : IterationOrder κ, o.order ks = js := by
  refine ⟨⟨fun is => if is = ks then js else is, fun is => ?_⟩, if_pos rfl⟩
  split_ifs with his
  · exact his ▸ hperm
  · exact .refl _

end IterationOrder

end CloudCredit.Library
