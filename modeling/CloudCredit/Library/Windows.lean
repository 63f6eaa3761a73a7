import Mathlib.Tactic
import Mathlib.Data.List.Rotate
import Mathlib.Data.List.Sort

/-!
# The last values of a stream

A ring buffer keeps the last values of a stream in a fixed number of cells: it writes to
its cells in turn and starts over at the end. What it holds is the window of the last
values, up to their order. A value of a list has rank `k` if sorting puts it at place `k`.
-/
namespace CloudCredit.Library

variable {α : Type}

/-- The last `n` values. -/
def window (n : ℕ) (xs : List α) : List α := xs.drop (xs.length - n)

theorem window_of_le {n : ℕ} {xs : List α} (h : xs.length ≤ n) : window n xs = xs := by
  rw [window, Nat.sub_eq_zero_of_le h, List.drop_zero]

theorem window_concat {n : ℕ} {xs : List α} (hn : 0 < n) (h : n ≤ xs.length) (x : α) :
    window n (xs ++ [x]) = (window n xs).drop 1 ++ [x] := by
  have hlen : (xs ++ [x]).length - n = xs.length - n + 1 := by
    rw [List.length_append, List.length_singleton]
    omega
  rw [window, hlen, List.drop_append_of_le_length (by omega), window, List.drop_drop]

structure RingBuffer (α : Type) where
  cells : List α
  pos : ℕ := 0
  full : Bool := false

namespace RingBuffer

variable (b : RingBuffer α)

/-- Write to the next cell; after the last one comes the first. -/
def record (x : α) : RingBuffer α :=
  if b.cells.length ≤ b.pos + 1 then { cells := b.cells.set b.pos x, pos := 0, full := true }
  else { b with cells := b.cells.set b.pos x, pos := b.pos + 1 }

def recordAll (b : RingBuffer α) : List α → RingBuffer α
  | [] => b
  | x :: xs => (b.record x).recordAll xs

/-- The cells that were written. -/
def contents : List α := if b.full then b.cells else b.cells.take b.pos

/-- The buffer holds the last of the values `xs`: all of them if it has never been full, and
otherwise, from the next cell on and around, as many as it has cells. -/
structure HoldsLast (xs : List α) (b : RingBuffer α) : Prop where
  pos : b.pos < b.cells.length
  short : b.full = false → b.cells.take b.pos = xs
  long : b.full = true → b.cells.length ≤ xs.length ∧
    b.cells.rotate b.pos = window b.cells.length xs

variable {b} {xs : List α}

theorem take_set_succ {cells : List α} {i : ℕ} (hi : i < cells.length) (x : α) :
    (cells.set i x).take (i + 1) = cells.take i ++ [x] := by
  have hlen : (cells.take i).length = i := by simp [hi.le]
  rw [List.set_eq_take_append_cons_drop, if_pos hi, List.take_append, hlen,
    List.take_of_length_le (by omega), Nat.add_sub_cancel_left]
  rfl

theorem rotate_set_succ {cells : List α} {i : ℕ} (hi : i < cells.length) (x : α) :
    (cells.set i x).rotate (i + 1) = (cells.rotate i).drop 1 ++ [x] := by
  have hfirst : 1 ≤ (cells.drop i).length := by
    rw [List.length_drop]
    omega
  rw [List.rotate_eq_drop_append_take (by simpa using hi), take_set_succ hi,
    List.rotate_eq_drop_append_take hi.le, List.drop_append_of_le_length hfirst,
    List.drop_drop, List.drop_set, if_pos (Nat.lt_succ_self i), List.append_assoc]

theorem HoldsLast.record (hb : b.HoldsLast xs) (x : α) : (b.record x).HoldsLast (xs ++ [x]) := by
  obtain ⟨hpos, hshort, hlong⟩ := hb
  have hcells : 0 < b.cells.length := Nat.zero_lt_of_lt hpos
  unfold RingBuffer.record
  split_ifs with hlast
  · -- the last cell is written, and the window starts at the first one
    have heq : b.pos + 1 = b.cells.length := by omega
    have hwhole : b.cells.set b.pos x = b.cells.take b.pos ++ [x] := by
      rw [← take_set_succ hpos, heq, List.take_of_length_le (by simp)]
    refine ⟨by simpa using hcells, by simp, fun _ => ?_⟩
    simp only [List.length_set, List.length_append, List.length_singleton, List.rotate_zero]
    cases hfull : b.full with
    | false =>
      have hxs := hshort hfull
      have hlen : xs.length = b.pos := by
        rw [← hxs, List.length_take]
        omega
      refine ⟨by omega, ?_⟩
      rw [hwhole, hxs, window_of_le (by simp; omega)]
    | true =>
      obtain ⟨hle, hrotate⟩ := hlong hfull
      refine ⟨by omega, ?_⟩
      rw [window_concat hcells hle, ← hrotate, ← rotate_set_succ hpos, heq]
      simpa using (List.rotate_length (b.cells.set b.pos x)).symm
  · refine ⟨by simp; omega, fun hfull => ?_, fun hfull => ?_⟩
    · rw [take_set_succ hpos, hshort hfull]
    · obtain ⟨hle, hrotate⟩ := hlong hfull
      simp only [List.length_set, List.length_append, List.length_singleton]
      refine ⟨by omega, ?_⟩
      rw [rotate_set_succ hpos, hrotate, window_concat hcells hle]

theorem HoldsLast.recordAll (hb : b.HoldsLast xs) (ys : List α) : (b.recordAll ys).HoldsLast (xs ++ ys) := by
  induction ys generalizing b xs with
  | nil => simpa [RingBuffer.recordAll] using hb
  | cons y ys ih =>
    have hnext := ih (hb.record y)
    rwa [List.append_assoc] at hnext

theorem recordAll_length (ys : List α) : (b.recordAll ys).cells.length = b.cells.length := by
  induction ys generalizing b with
  | nil => rfl
  | cons y ys ih =>
    rw [recordAll, ih, record]
    split_ifs <;> simp

theorem HoldsLast.contents_perm (hb : b.HoldsLast xs) :
    b.contents.Perm (window b.cells.length xs) := by
  unfold contents
  split_ifs with hfull
  · rw [← (hb.long hfull).2]
    exact (List.rotate_perm b.cells b.pos).symm
  · have hxs := hb.short (by simpa using hfull)
    have hlen : xs.length ≤ b.cells.length := by
      rw [← hxs, List.length_take]
      exact Nat.min_le_right _ _
    rw [window_of_le hlen, hxs]

theorem shows_nil {cells : List α} (hcells : cells ≠ []) : ({ cells } : RingBuffer α).HoldsLast [] := by
  refine ⟨List.length_pos_iff.mpr hcells, fun _ => rfl, fun hfull => ?_⟩
  cases hfull

end RingBuffer

variable [LinearOrder α]

/-- The value is in the list and has place `k` when the list is sorted: at most `k` values
are below it, and more than `k` are not above it. -/
structure IsRank (xs : List α) (k : ℕ) (x : α) : Prop where
  mem : x ∈ xs
  below : (xs.filter (· < x)).length ≤ k
  notAbove : k < (xs.filter (· ≤ x)).length

theorem IsRank.perm {xs ys : List α} {k : ℕ} {x : α} (h : IsRank xs k x) (hp : xs.Perm ys) :
    IsRank ys k x := by
  constructor
  · exact hp.mem_iff.mp h.mem
  · rw [← (hp.filter _).length_eq]
    exact h.below
  · rw [← (hp.filter _).length_eq]
    exact h.notAbove

theorem IsRank.le {xs : List α} {k : ℕ} {x y : α} (hx : IsRank xs k x) (hy : IsRank xs k y) :
    x ≤ y := by
  by_contra hlt
  rw [not_le] at hlt
  have hsub : (xs.filter (· ≤ y)).length ≤ (xs.filter (· < x)).length := by
    apply List.Sublist.length_le
    apply List.monotone_filter_right
    intro z hz
    simp only [decide_eq_true_eq] at hz ⊢
    exact hz.trans_lt hlt
  exact absurd (hsub.trans hx.below) (Nat.not_le_of_lt hy.notAbove)

/-- There is one value of each rank. -/
theorem IsRank.unique {xs : List α} {k : ℕ} {x y : α} (hx : IsRank xs k x)
    (hy : IsRank xs k y) : x = y :=
  le_antisymm (hx.le hy) (hy.le hx)

theorem isRank_of_sorted {xs : List α} (hs : xs.Pairwise (· ≤ ·)) {k : ℕ} {x : α}
    (hk : xs[k]? = some x) : IsRank xs k x := by
  obtain ⟨hlt, rfl⟩ := List.getElem?_eq_some_iff.mp hk
  have hsplit : xs = xs.take k ++ xs[k] :: xs.drop (k + 1) := by
    rw [← List.drop_eq_getElem_cons hlt, List.take_append_drop]
  have hlen : (xs.take k).length = k := by simp [hlt.le]
  generalize xs[k] = x at hsplit
  generalize xs.take k = low, xs.drop (k + 1) = high at hsplit hlen
  subst hsplit
  obtain ⟨-, hhigh, hlow⟩ := List.pairwise_append.mp hs
  have habove : ∀ y ∈ x :: high, x ≤ y := by
    intro y hy
    rcases List.mem_cons.mp hy with rfl | hy
    · exact le_refl _
    · exact (List.pairwise_cons.mp hhigh).1 y hy
  constructor
  · exact List.mem_append_right _ List.mem_cons_self
  · have hnone : (x :: high).filter (· < x) = [] := by
      rw [List.filter_eq_nil_iff]
      intro y hy
      simpa using habove y hy
    rw [List.filter_append, hnone, List.append_nil, ← hlen]
    exact List.length_filter_le _ _
  · have hall : low.filter (· ≤ x) = low := by
      rw [List.filter_eq_self]
      intro y hy
      simpa using hlow y hy x List.mem_cons_self
    rw [List.filter_append, hall, List.length_append, hlen, List.filter_cons]
    simp

theorem sorted_le_of_le {xs : List α} (hs : xs.Pairwise (· ≤ ·)) {i j : ℕ} (hij : i ≤ j) {x y : α}
    (hi : xs[i]? = some x) (hj : xs[j]? = some y) : x ≤ y := by
  rcases Nat.eq_or_lt_of_le hij with rfl | hlt
  · cases hi.symm.trans hj
    exact le_refl _
  · obtain ⟨hi', rfl⟩ := List.getElem?_eq_some_iff.mp hi
    obtain ⟨hj', rfl⟩ := List.getElem?_eq_some_iff.mp hj
    exact List.pairwise_iff_getElem.mp hs i j hi' hj' hlt

end CloudCredit.Library
