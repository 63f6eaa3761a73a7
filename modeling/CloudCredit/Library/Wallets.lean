import Mathlib.Algebra.BigOperators.Group.List.Basic
import Mathlib.Tactic

/-!
# Prepaid wallets

A wallet is granted credit, spends it, and puts parts of it aside under keys. It says yes
to a request exactly if what is left covers it, so what is spent and put aside never
exceeds what was granted. A request that is refused changes nothing.
-/
namespace CloudCredit.Library

structure Wallet (κ : Type) where
  granted : ℕ
  spent : ℕ
  /-- What is put aside, newest first. -/
  holds : List (κ × ℕ)
  distinct : (holds.map Prod.fst).Nodup
  covered : spent + (holds.map Prod.snd).sum ≤ granted

inductive Wallet.Request (κ : Type)
  | grant (amount : ℕ)
  | spend (amount : ℕ)
  | hold (key : κ) (amount : ℕ)
  | release (key : κ)
  deriving DecidableEq

namespace Wallet

variable {κ : Type} {w : Wallet κ}

def empty : Wallet κ where
  granted := 0
  spent := 0
  holds := []
  distinct := List.nodup_nil
  covered := le_rfl

/-- What is neither spent nor put aside. -/
def available (w : Wallet κ) : ℕ := w.granted - (w.spent + (w.holds.map Prod.snd).sum)

theorem le_available {n : ℕ} :
    n ≤ w.available ↔ w.spent + (w.holds.map Prod.snd).sum + n ≤ w.granted := by
  have := w.covered
  unfold available
  omega

def grant (w : Wallet κ) (n : ℕ) : Wallet κ :=
  { w with
    granted := w.granted + n
    covered := w.covered.trans (Nat.le_add_right _ _) }

def spend (w : Wallet κ) (n : ℕ) (hn : n ≤ w.available) : Wallet κ :=
  { w with
    spent := w.spent + n
    covered := by
      have := le_available.mp hn
      omega }

def hold (w : Wallet κ) (k : κ) (n : ℕ) (hk : k ∉ w.holds.map Prod.fst) (hn : n ≤ w.available) :
    Wallet κ :=
  { w with
    holds := (k, n) :: w.holds
    distinct := List.nodup_cons.mpr ⟨hk, w.distinct⟩
    covered := by
      have := le_available.mp hn
      simp only [List.map_cons, List.sum_cons]
      omega }

variable [DecidableEq κ]

def release (w : Wallet κ) (k : κ) : Wallet κ :=
  { w with
    holds := w.holds.filter (·.1 ≠ k)
    distinct := w.distinct.sublist (List.filter_sublist.map _)
    covered := by
      have hle : ((w.holds.filter (·.1 ≠ k)).map Prod.snd).sum ≤ (w.holds.map Prod.snd).sum :=
        (List.filter_sublist.map _).sum_le_sum (by simp)
      have := w.covered
      omega }

/-- The wallet's answer to a request and what it holds afterwards. -/
def serve (w : Wallet κ) : Request κ → Bool × Wallet κ
  | .grant n => (true, w.grant n)
  | .spend n => if hn : n ≤ w.available then (true, w.spend n hn) else (false, w)
  | .hold k n =>
    if hk : k ∉ w.holds.map Prod.fst ∧ n ≤ w.available then (true, w.hold k n hk.1 hk.2)
    else (false, w)
  | .release k => if k ∈ w.holds.map Prod.fst then (true, w.release k) else (false, w)

/-- Serve requests one after the other. -/
def serveAll : Wallet κ → List (Request κ) → List Bool × Wallet κ
  | w, [] => ([], w)
  | w, q :: qs => ((w.serve q).1 :: (serveAll (w.serve q).2 qs).1, (serveAll (w.serve q).2 qs).2)

theorem serveAll_concat (w : Wallet κ) (qs : List (Request κ)) (q : Request κ) :
    w.serveAll (qs ++ [q]) =
      ((w.serveAll qs).1 ++ [((w.serveAll qs).2.serve q).1], ((w.serveAll qs).2.serve q).2) := by
  induction qs generalizing w with
  | nil => rfl
  | cons p qs ih => simp [serveAll, ih]

end Wallet
end CloudCredit.Library
