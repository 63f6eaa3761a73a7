import CloudCredit.Library.Lists

/-!
# Changes admitted against a limit

Units are held against a limit by several holders. A change gives back what its holder has
and asks for a new amount, which is granted if it fits at that moment. A change that is
refused has still given back. Changes are admitted one after the other, so what fits depends
on their order. The verdicts are the same in every order exactly if those that are granted
fit next to the most the others have at any time, and those that are refused do not even fit
next to the least.
-/
namespace CloudCredit.Library

/-- Give back `old` units and ask for `new` ones. -/
structure Change where
  old : ℕ
  new : ℕ
  deriving DecidableEq

namespace Change

/-- The most a holder has before, during or after its change. -/
def peak (c : Change) : ℕ := max c.old c.new

/-- The change is granted while `used` units are held. -/
def fits (limit used : ℕ) (c : Change) : Bool := used - c.old + c.new ≤ limit

/-- The units held after the change. -/
def settle (limit used : ℕ) (c : Change) : ℕ :=
  if c.fits limit used then used - c.old + c.new else used - c.old

end Change

/-- The verdicts on a list of changes, admitted one after the other. -/
def grants (limit : ℕ) : ℕ → List Change → List Bool
  | _, [] => []
  | used, c :: cs => c.fits limit used :: grants limit (c.settle limit used) cs

/-- All that a list of holders has at most. -/
def peaks (cs : List Change) : ℕ := (cs.map Change.peak).sum

section Orders

variable {α : Type} {limit base : ℕ} {f : α → Change} {p : α → Bool} {x : α} {xs ys : List α}

/-- The units held after a list of changes. -/
def heldAfter (limit used : ℕ) (cs : List Change) : ℕ :=
  cs.foldl (fun used c => c.settle limit used) used

theorem grants_getElem? (limit used : ℕ) (cs : List Change) (i : ℕ) :
    (grants limit used cs)[i]? =
      cs[i]?.map fun c => c.fits limit (heldAfter limit used (cs.take i)) := by
  induction cs generalizing used i with
  | nil => rfl
  | cons c cs ih =>
    cases i with
    | zero => rfl
    | succ i => exact ih (c.settle limit used) i

/-- The most a holder has when `granted` says what becomes of its change. -/
def Change.most (granted : Bool) (c : Change) : ℕ := if granted then c.peak else c.old

/-- The least it has. -/
def Change.least (granted : Bool) (c : Change) : ℕ := if granted then min c.old c.new else 0

/-- What it has in the end. -/
def Change.kept (granted : Bool) (c : Change) : ℕ := if granted then c.new else 0

@[simp] theorem Change.most_true (c : Change) : c.most true = c.peak := rfl

@[simp] theorem Change.least_false (c : Change) : c.least false = 0 := rfl

theorem grants_map_cons (limit used : ℕ) (f : α → Change) (x : α) (xs : List α) :
    grants limit used ((x :: xs).map f) =
      (f x).fits limit used :: grants limit ((f x).settle limit used) (xs.map f) :=
  rfl

theorem fits_cons (limit base : ℕ) (f : α → Change) (x : α) (xs : List α) :
    (f x).fits limit (base + ((x :: xs).map fun y => (f y).old).sum) =
      decide (base + (f x).new + (xs.map fun y => (f y).old).sum ≤ limit) := by
  simp only [Change.fits, List.map_cons, List.sum_cons, decide_eq_decide]
  omega

/-- The changes that `p` grants fit next to the most that all others have, those it refuses do
not fit next to the least they have. -/
def Steady (limit base : ℕ) (f : α → Change) (p : α → Bool) (xs : List α) : Prop :=
  ∀ x ∈ xs, if p x = true then
    base + (f x).new + ((xs.map fun y => (f y).most (p y)).sum - (f x).peak) ≤ limit
  else limit < base + (f x).new + (xs.map fun y => (f y).least (p y)).sum

theorem Steady.perm (hsteady : Steady limit base f p xs) (hperm : xs.Perm ys) :
    Steady limit base f p ys := by
  intro x hx
  have hx' := hsteady x (hperm.mem_iff.mpr hx)
  rwa [(hperm.map _).sum_eq, (hperm.map fun y => (f y).least (p y)).sum_eq] at hx'

theorem steady_map {β : Type} (g : β → α) (ys : List β) :
    Steady limit base (fun y => f (g y)) (fun y => p (g y)) ys ↔
      Steady limit base f p (ys.map g) := by
  simp [Steady, Function.comp_def]

theorem steady_true : Steady limit base f (fun _ => true) xs ↔
    ∀ x ∈ xs, base + (f x).new + (peaks (xs.map f) - (f x).peak) ≤ limit := by
  simp [Steady, peaks, Function.comp_def]

theorem steady_false : Steady limit base f (fun _ => false) xs ↔
    ∀ x ∈ xs, limit < base + (f x).new := by
  simp [Steady]

theorem Steady.congr {q : α → Bool} (hsteady : Steady limit base f p xs)
    (hq : ∀ x ∈ xs, p x = q x) : Steady limit base f q xs := by
  intro x hx
  have hx' := hsteady x hx
  rw [List.map_congr_left fun y hy => by rw [hq y hy],
    List.map_congr_left (f := fun y => (f y).least (p y)) fun y hy => by rw [hq y hy], hq x hx] at hx'
  exact hx'

theorem Steady.head (hsteady : Steady limit base f p (x :: xs)) :
    (f x).fits limit (base + ((x :: xs).map fun y => (f y).old).sum) = p x := by
  have hx := hsteady x List.mem_cons_self
  have hmost : (xs.map fun y => (f y).old).sum ≤ (xs.map fun y => (f y).most (p y)).sum :=
    List.sum_le_sum fun y _ => by
      unfold Change.most Change.peak
      split_ifs <;> omega
  have hleast : (xs.map fun y => (f y).least (p y)).sum ≤ (xs.map fun y => (f y).old).sum :=
    List.sum_le_sum fun y _ => by
      unfold Change.least
      split_ifs <;> omega
  rw [fits_cons]
  simp only [List.map_cons, List.sum_cons] at hx
  cases hp : p x with
  | true =>
    rw [if_pos hp, hp, Change.most_true] at hx
    rw [decide_eq_true_eq]
    omega
  | false =>
    rw [if_neg (by simp [hp]), hp, Change.least_false] at hx
    rw [decide_eq_false_iff_not]
    omega

theorem Steady.tail (hsteady : Steady limit base f p (x :: xs)) :
    Steady limit (base + (f x).kept (p x)) f p xs := by
  intro y hy
  have hy' := hsteady y (List.mem_cons_of_mem _ hy)
  have hmost : (f y).most (p y) ≤ (xs.map fun z => (f z).most (p z)).sum :=
    List.single_le_sum (by simp) _ (List.mem_map_of_mem hy)
  have hkept : (f x).kept (p x) ≤ (f x).most (p x) ∧ (f x).least (p x) ≤ (f x).kept (p x) := by
    unfold Change.kept Change.most Change.least Change.peak
    split_ifs <;> omega
  simp only [List.map_cons, List.sum_cons] at hy'
  cases hp : p y with
  | true =>
    simp only [hp, if_true, Change.most] at hy' hmost hkept ⊢
    omega
  | false =>
    simp only [hp, Bool.false_eq_true, if_false] at hy' ⊢
    omega

theorem settle_eq (hp : (f x).fits limit (base + ((x :: xs).map fun y => (f y).old).sum) = p x) :
    (f x).settle limit (base + ((x :: xs).map fun y => (f y).old).sum) =
      base + (f x).kept (p x) + (xs.map fun y => (f y).old).sum := by
  unfold Change.settle
  rw [hp]
  simp only [List.map_cons, List.sum_cons, Change.kept]
  split_ifs <;> omega

theorem grants_of_steady (hsteady : Steady limit base f p xs) :
    grants limit (base + (xs.map fun y => (f y).old).sum) (xs.map f) = xs.map p := by
  induction xs generalizing base with
  | nil => rfl
  | cons x xs ih =>
    have hhead := hsteady.head
    rw [grants_map_cons, settle_eq hhead, hhead, ih hsteady.tail, List.map_cons]

theorem fits_of_grants {A B : List α}
    (hgrants : grants limit (base + ((A ++ x :: B).map fun y => (f y).old).sum)
      ((A ++ x :: B).map f) = (A ++ x :: B).map p) :
    p x = decide (base + (f x).new + ((A.map fun y => (f y).kept (p y)).sum +
      (B.map fun y => (f y).old).sum) ≤ limit) := by
  induction A generalizing base with
  | nil =>
    rw [List.nil_append, grants_map_cons, List.map_cons (f := p), List.cons.injEq, fits_cons] at hgrants
    rw [← hgrants.1, List.map_nil, List.sum_nil, Nat.zero_add]
  | cons y A ih =>
    rw [List.cons_append, grants_map_cons, List.map_cons (f := p), List.cons.injEq] at hgrants
    have hrest := hgrants.2
    rw [settle_eq hgrants.1] at hrest
    rw [ih hrest, decide_eq_decide]
    simp only [List.map_cons, List.sum_cons]
    omega

theorem steady_of_grants (hgrants : ∀ ys : List α, ys.Perm xs →
    grants limit (base + (ys.map fun y => (f y).old).sum) (ys.map f) = ys.map p) :
    Steady limit base f p xs := by
  intro x hx
  obtain ⟨s, t, rfl⟩ := List.append_of_mem hx
  have hturn : ∀ q : α → Bool, p x = decide (base + (f x).new +
      ((s ++ t).map fun y => if q y = true then (f y).kept (p y) else (f y).old).sum ≤ limit) := by
    intro q
    have hperm : ((s ++ t).filter q ++ x :: (s ++ t).filter (fun y => !q y)).Perm (s ++ x :: t) :=
      (List.perm_middle.trans ((List.filter_append_perm q (s ++ t)).cons x)).trans
        List.perm_middle.symm
    rw [fits_of_grants (hgrants _ hperm), decide_eq_decide]
    rw [sum_filter, sum_filter, ← List.sum_map_add]
    have hsum : ((s ++ t).map fun y => (if q y = true then (f y).kept (p y) else 0) +
        if (!q y) = true then (f y).old else 0) =
        (s ++ t).map fun y => if q y = true then (f y).kept (p y) else (f y).old :=
      List.map_congr_left fun y _ => by cases q y <;> simp
    rw [hsum]
  have hothers : ∀ g : α → ℕ, ((s ++ x :: t).map g).sum = g x + ((s ++ t).map g).sum := by
    intro g
    simp only [List.map_append, List.map_cons, List.sum_append, List.sum_cons]
    omega
  rw [hothers, hothers]
  cases hp : p x with
  | true =>
    -- the others that grow come before, those that shrink or are refused after
    have hworst := hturn fun y => p y && (f y).old ≤ (f y).new
    have hsum : ((s ++ t).map fun y => if (p y && (f y).old ≤ (f y).new) = true then
        (f y).kept (p y) else (f y).old) = (s ++ t).map fun y => (f y).most (p y) :=
      List.map_congr_left fun y _ => by
        cases hy : p y <;> simp [Change.kept, Change.most, Change.peak]
        split_ifs <;> omega
    rw [hp, eq_comm, decide_eq_true_eq, hsum] at hworst
    rw [if_pos rfl, Change.most_true]
    omega
  | false =>
    have hbest := hturn fun y => !p y || (f y).new < (f y).old
    have hsum : ((s ++ t).map fun y => if (!p y || (f y).new < (f y).old) = true then
        (f y).kept (p y) else (f y).old) = (s ++ t).map fun y => (f y).least (p y) :=
      List.map_congr_left fun y _ => by
        cases hy : p y <;> simp [Change.kept, Change.least]
        split_ifs <;> omega
    rw [hp, eq_comm, decide_eq_false_iff_not, hsum] at hbest
    rw [if_neg Bool.false_ne_true, Change.least_false]
    omega

end Orders

end CloudCredit.Library
