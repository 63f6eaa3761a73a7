import Mathlib.Tactic

/-!
# Activities with a bounded number of attempts

A workflow hands work to an activity and waits for its outcome. The activity is
tried until one attempt reports success, at most a fixed number of times; an
attempt that reports nothing, or an error, may still have had its effect.
`reached` remembers whether any attempt got through to the service behind the
activity.
-/
namespace CloudCredit.Library

/-- An activity that was scheduled and has not been delivered yet. -/
structure ActivityRun (ε α : Type) where
  attempts : ℕ := 0
  reached : Bool := false
  outcome : Option (Except ε α) := none

namespace ActivityRun

variable {ε α : Type}

/-- What a reply decides: success at once, an error only with the last attempt. -/
def decided (limit attempts : ℕ) : Except ε α → Option (Except ε α)
  | .ok a => some (.ok a)
  | .error e => if limit ≤ attempts then some (.error e) else none

/-- One attempt reports `reply`. -/
def attempt (limit : ℕ) (run : ActivityRun ε α) (reached : Bool) (reply : Except ε α) :
    Option (ActivityRun ε α) :=
  if run.outcome.isSome then none
  else some {
    attempts := run.attempts + 1
    reached := run.reached || reached
    outcome := decided limit (run.attempts + 1) reply }

theorem attempt_some {limit : ℕ} {run run' : ActivityRun ε α} {reached : Bool}
    {reply : Except ε α} (h : run.attempt limit reached reply = some run') :
    run.outcome = none ∧
      run' = ⟨run.attempts + 1, run.reached || reached, decided limit (run.attempts + 1) reply⟩ := by
  unfold attempt at h
  split_ifs at h with hs
  cases h
  exact ⟨by simpa using hs, rfl⟩

theorem decided_ok {limit attempts : ℕ} {reply : Except ε α} {a : α}
    (h : decided limit attempts reply = some (.ok a)) : reply = .ok a := by
  cases reply with
  | ok b => simpa [decided] using h
  | error e =>
    unfold decided at h
    split_ifs at h
    simp at h

/-- How often the activity can still be tried. -/
def attemptsLeft (limit : ℕ) (run : ActivityRun ε α) : ℕ :=
  if run.outcome.isSome then 0 else max 1 (limit - run.attempts)

theorem attemptsLeft_le {limit : ℕ} (hlimit : 1 ≤ limit) (run : ActivityRun ε α) :
    run.attemptsLeft limit ≤ limit := by
  unfold attemptsLeft
  split_ifs
  · exact Nat.zero_le _
  · exact max_le hlimit (Nat.sub_le _ _)

theorem attempt_lowers {limit : ℕ} {run run' : ActivityRun ε α} {reached : Bool}
    {reply : Except ε α} (h : run.attempt limit reached reply = some run') :
    run'.attemptsLeft limit < run.attemptsLeft limit := by
  obtain ⟨hnone, rfl⟩ := attempt_some h
  have hbefore : run.attemptsLeft limit = max 1 (limit - run.attempts) := by
    simp [attemptsLeft, hnone]
  rw [hbefore]
  cases reply with
  | ok a => simp [attemptsLeft, decided]
  | error err =>
    unfold attemptsLeft decided
    dsimp only
    split_ifs with hlast hsome hsome
    · omega
    · cases hsome rfl
    · cases hsome
    · omega

theorem attempt_isSome {run : ActivityRun ε α} (hnone : run.outcome = none) (limit : ℕ)
    (reached : Bool) (reply : Except ε α) :
    ∃ run', run.attempt limit reached reply = some run' := by
  simp [attempt, hnone]

/-- At most `n` attempts, of which the last is answered and the ones before are lost. -/
inductive Attempts {δ : Type} (lost answered : δ → Prop) : ℕ → List δ → Prop
  | last {n : ℕ} {d : δ} (hd : answered d) : Attempts lost answered (n + 1) [d]
  | retry {n : ℕ} {d : δ} {ds : List δ} (hd : lost d) (rest : Attempts lost answered n ds) :
      Attempts lost answered (n + 1) (d :: ds)

theorem Attempts.ne_nil {δ : Type} {lost answered : δ → Prop} {n : ℕ} {ds : List δ}
    (h : Attempts lost answered n ds) : ds ≠ [] := by
  cases h <;> simp

/-- What is to come of an activity and of what follows it: the attempts it has left,
unless it has succeeded. -/
inductive Pending {δ : Type} (limit : ℕ) (lost answered : δ → Prop) (later : List δ → Prop)
    (run : ActivityRun ε α) : List δ → Prop
  | trying {ds es : List δ} (hnone : run.outcome = none)
      (hds : Attempts lost answered (limit - run.attempts) ds) (hes : later es) :
      Pending limit lost answered later run (ds ++ es)
  | done {a : α} {es : List δ} (hok : run.outcome = some (.ok a)) (hes : later es) :
      Pending limit lost answered later run es

namespace Pending

variable {δ : Type} {limit : ℕ} {lost answered : δ → Prop} {later : List δ → Prop}
  {run run' : ActivityRun ε α}

theorem start {ds es : List δ} (hds : Attempts lost answered limit ds) (hes : later es) :
    Pending limit lost answered later ({} : ActivityRun ε α) (ds ++ es) :=
  .trying rfl hds hes

/-- An attempt is made: a lost one fails, an answered one succeeds. -/
theorem attempt {d : δ} {ds : List δ} (hp : Pending limit lost answered later run (d :: ds))
    {reached : Bool} {reply : Except ε α} (hrun : run.attempt limit reached reply = some run')
    (hlost : lost d → ∃ e, reply = .error e) (hanswered : answered d → ∃ a, reply = .ok a) :
    Pending limit lost answered later run' ds := by
  obtain ⟨hnone, rfl⟩ := attempt_some hrun
  generalize hes : d :: ds = es at hp
  cases hp with
  | done hok => simp [hnone] at hok
  | @trying as bs _ has hbs =>
    generalize hn : limit - run.attempts = n at has
    cases has with
    | @last n c hc =>
      cases hes
      obtain ⟨a, rfl⟩ := hanswered hc
      exact .done rfl hbs
    | @retry n c cs hc rest =>
      cases hes
      obtain ⟨e, rfl⟩ := hlost hc
      have hleft : n = limit - (run.attempts + 1) := by omega
      have hmore : ¬limit ≤ run.attempts + 1 := by
        cases rest <;> omega
      rw [hleft] at rest
      exact .trying (if_neg hmore) rest hbs

/-- An activity that can still succeed has an outcome exactly if its last attempt did. -/
theorem outcome_isSome {ds : List δ} (hp : Pending limit lost answered later run' ds)
    {reached : Bool} {reply : Except ε α} (hrun : run.attempt limit reached reply = some run') :
    run'.outcome.isSome = true ↔ reply.toBool = true := by
  obtain ⟨-, rfl⟩ := attempt_some hrun
  cases reply with
  | ok a => simp [decided, Except.toBool]
  | error e =>
    cases hp with
    | trying hnone => exact ⟨fun hs => absurd hnone (Option.ne_none_iff_isSome.mpr hs), nofun⟩
    | done hok =>
      dsimp only at hok
      cases decided_ok hok

theorem later_of_nil (hp : Pending limit lost answered later run []) : later [] := by
  generalize hes : ([] : List δ) = es at hp
  cases hp with
  | trying _ hds => exact absurd (List.append_eq_nil_iff.mp hes.symm).1 hds.ne_nil
  | done hok hlater => exact hes ▸ hlater

/-- The outcome is delivered: it is a success, and what follows comes next. -/
theorem deliver {ds : List δ} (hp : Pending limit lost answered later run ds)
    {outcome : Except ε α} (hout : run.outcome = some outcome) :
    later ds ∧ ∃ a, outcome = .ok a := by
  cases hp with
  | trying hnone => simp [hnone] at hout
  | done hok hes => exact ⟨hes, _, Option.some.inj (hout.symm.trans hok)⟩

end Pending

end ActivityRun

/-- A computation that succeeded, as a pair of its value and the state it left. -/
theorem exists_eq_ok {ε α σ : Type} {x : Except ε α × σ} (h : x.1.toBool = true) :
    ∃ a s, x = (.ok a, s) := by
  obtain ⟨r, s⟩ := x
  cases r with
  | error e => cases h
  | ok a => exact ⟨a, s, rfl⟩

end CloudCredit.Library
