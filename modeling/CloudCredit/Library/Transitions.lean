import Mathlib.Tactic

/-!
# Runs of a partial step function

A system is given by its step function: an event is either refused in a state
or leads to exactly one next state. A run is the list of its events. The rules
below turn a fact about one step into a fact about every run, once for plain
invariants, once for runs whose steps all meet a side condition, and once for
relations between an earlier and a later state of the same run.
-/
namespace CloudCredit.Library

variable {σ ε τ : Type} (step : σ → ε → Option σ)

/-- Execute a list of events; a refused event ends the run with `none`. -/
def runSteps : σ → List ε → Option σ
  | s, [] => some s
  | s, e :: es => (step s e).bind fun t => runSteps t es

/-- Every step of the run meets the condition `C` in the state before it. -/
def Along (C : σ → ε → Prop) : σ → List ε → Prop
  | _, [] => True
  | s, e :: es => C s e ∧ ∀ t, step s e = some t → Along C t es

/-- Every state of the run, the first and the last included, has the property `P`. -/
def Throughout (P : σ → Prop) : σ → List ε → Prop
  | s, [] => P s
  | s, e :: es => P s ∧ ∀ t, step s e = some t → Throughout P t es

/-- What the steps of a run put out, in order. -/
def outputs (out : σ → ε → Option τ) : σ → List ε → List τ
  | _, [] => []
  | s, e :: es => (out s e).toList ++ ((step s e).map fun t => outputs out t es).getD []

@[simp] theorem runSteps_nil (s : σ) : runSteps step s [] = some s := rfl

theorem runSteps_cons {s t : σ} {e : ε} {es : List ε}
    (h : runSteps step s (e :: es) = some t) :
    ∃ m, step s e = some m ∧ runSteps step m es = some t := by
  simpa [runSteps, Option.bind_eq_some_iff] using h

theorem runSteps_append {s t : σ} {xs ys : List ε} :
    runSteps step s (xs ++ ys) = some t ↔
      ∃ m, runSteps step s xs = some m ∧ runSteps step m ys = some t := by
  induction xs generalizing s with
  | nil => simp
  | cons e es ih =>
    simp only [List.cons_append, runSteps, Option.bind_eq_some_iff, ih]
    constructor
    · rintro ⟨m, hm, n, hn, ht⟩
      exact ⟨n, ⟨m, hm, hn⟩, ht⟩
    · rintro ⟨n, ⟨m, hm, hn⟩, ht⟩
      exact ⟨m, hm, n, hn, ht⟩

theorem runSteps_concat {s m t : σ} {xs : List ε} {e : ε} (hr : runSteps step s xs = some m) :
    runSteps step s (xs ++ [e]) = some t ↔ step m e = some t := by
  simp [runSteps_append, hr, runSteps]

theorem outputs_append (out : σ → ε → Option τ) {s m : σ} {xs : List ε}
    (hr : runSteps step s xs = some m) (ys : List ε) :
    outputs step out s (xs ++ ys) = outputs step out s xs ++ outputs step out m ys := by
  induction xs generalizing s with
  | nil =>
    cases hr
    rfl
  | cons e es ih =>
    obtain ⟨n, hn, hm⟩ := runSteps_cons step hr
    simp [outputs, hn, ih hm]

theorem outputs_concat (out : σ → ε → Option τ) {s m : σ} {xs : List ε}
    (hr : runSteps step s xs = some m) (e : ε) :
    outputs step out s (xs ++ [e]) = outputs step out s xs ++ (out m e).toList := by
  rw [outputs_append step out hr]
  cases he : step m e <;> simp [outputs, he]

/-- A run that can be evaluated reaches a state with a decidable property. -/
theorem runSteps_any (s : σ) (es : List ε) (p : σ → Bool) (h : (runSteps step s es).any p = true) :
    ∃ t, runSteps step s es = some t ∧ p t = true := by
  cases hr : runSteps step s es with
  | none => simp [hr] at h
  | some t => exact ⟨t, rfl, by simpa [hr] using h⟩

theorem Along.append {C : σ → ε → Prop} {s m : σ} {xs ys : List ε}
    (h : Along step C s (xs ++ ys)) (hr : runSteps step s xs = some m) :
    Along step C s xs ∧ Along step C m ys := by
  induction xs generalizing s with
  | nil =>
    cases hr
    exact ⟨trivial, h⟩
  | cons e es ih =>
    obtain ⟨n, hn, hm⟩ := runSteps_cons step hr
    obtain ⟨hl, hrest⟩ := ih (h.2 n hn) hm
    refine ⟨⟨h.1, ?_⟩, hrest⟩
    intro k hk
    cases hn.symm.trans hk
    exact hl

theorem Along.mono {C D : σ → ε → Prop} (hCD : ∀ s e, C s e → D s e) {s : σ} {es : List ε}
    (h : Along step C s es) : Along step D s es := by
  induction es generalizing s with
  | nil => trivial
  | cons e es ih => exact ⟨hCD s e h.1, fun t ht => ih (h.2 t ht)⟩

theorem along_of_forall {C : ε → Prop} {s : σ} {es : List ε} (h : ∀ e ∈ es, C e) :
    Along step (fun _ e => C e) s es := by
  induction es generalizing s with
  | nil => trivial
  | cons e es ih =>
    exact ⟨h e List.mem_cons_self, fun t _ => ih fun x hx => h x (List.mem_cons_of_mem _ hx)⟩

/-- Evaluate a decidable side condition along a run. -/
def alongTest (C : σ → ε → Prop) [∀ s e, Decidable (C s e)] : σ → List ε → Bool
  | _, [] => true
  | s, e :: es => decide (C s e) && (step s e).all fun t => alongTest C t es

theorem along_of_alongTest {C : σ → ε → Prop} [∀ s e, Decidable (C s e)] {s : σ} {es : List ε}
    (h : alongTest step C s es = true) : Along step C s es := by
  induction es generalizing s with
  | nil => trivial
  | cons e es ih =>
    simp only [alongTest, Bool.and_eq_true, decide_eq_true_eq] at h
    refine ⟨h.1, fun t ht => ih ?_⟩
    simpa [ht] using h.2

/-- An invariant kept by every step that meets `C` holds at the end of every
run along which `C` holds. -/
theorem invariant_along {C : σ → ε → Prop} {P : σ → Prop}
    (hstep : ∀ s e t, P s → C s e → step s e = some t → P t)
    {s t : σ} {es : List ε} (hs : P s) (hC : Along step C s es)
    (hr : runSteps step s es = some t) : P t := by
  induction es generalizing s with
  | nil =>
    cases hr
    exact hs
  | cons e es ih =>
    obtain ⟨m, hm, ht⟩ := runSteps_cons step hr
    exact ih (hstep s e m hs hC.1 hm) (hC.2 m hm) ht

/-- An invariant of a state and all that was put out before it. -/
theorem invariant_outputs {C : σ → ε → Prop} (out : σ → ε → Option τ) {P : List τ → σ → Prop}
    (hstep : ∀ xs s e t, P xs s → C s e → step s e = some t → P (xs ++ (out s e).toList) t)
    {s t : σ} {es : List ε} {xs : List τ} (hs : P xs s) (hC : Along step C s es)
    (hr : runSteps step s es = some t) : P (xs ++ outputs step out s es) t := by
  induction es generalizing s xs with
  | nil =>
    cases hr
    simpa [outputs] using hs
  | cons e es ih =>
    obtain ⟨m, hm, ht⟩ := runSteps_cons step hr
    have hnext := ih (hstep xs s e m hs hC.1 hm) (hC.2 m hm) ht
    simpa [outputs, hm, List.append_assoc] using hnext

/-- Evaluate a decidable property in every state of a run. -/
def throughoutTest (P : σ → Prop) [DecidablePred P] : σ → List ε → Bool
  | s, [] => decide (P s)
  | s, e :: es => decide (P s) && (step s e).all fun t => throughoutTest P t es

theorem throughout_of_throughoutTest {P : σ → Prop} [DecidablePred P] {s : σ} {es : List ε}
    (h : throughoutTest step P s es = true) : Throughout step P s es := by
  induction es generalizing s with
  | nil => simpa [throughoutTest, Throughout] using h
  | cons e es ih =>
    simp only [throughoutTest, Bool.and_eq_true, decide_eq_true_eq] at h
    refine ⟨h.1, fun t ht => ih ?_⟩
    simpa [ht] using h.2

theorem Throughout.last {P : σ → Prop} {s t : σ} {es : List ε} (h : Throughout step P s es)
    (hr : runSteps step s es = some t) : P t := by
  induction es generalizing s with
  | nil =>
    cases hr
    exact h
  | cons e es ih =>
    obtain ⟨m, hm, ht⟩ := runSteps_cons step hr
    exact ih (h.2 m hm) ht

/-- An invariant kept by every step between states with `P` holds at the end of
every run of such states. -/
theorem invariant_throughout {P I : σ → Prop}
    (hstep : ∀ s e t, I s → P s → step s e = some t → I t)
    {s t : σ} {es : List ε} (hs : I s) (hP : Throughout step P s es)
    (hr : runSteps step s es = some t) : I t := by
  induction es generalizing s with
  | nil =>
    cases hr
    exact hs
  | cons e es ih =>
    obtain ⟨m, hm, ht⟩ := runSteps_cons step hr
    exact ih (hstep s e m hs hP.1 hm) (hP.2 m hm) ht

/-- An invariant kept by every step holds at the end of every run. -/
theorem invariant_of_steps {P : σ → Prop}
    (hstep : ∀ s e t, P s → step s e = some t → P t)
    {s t : σ} {es : List ε} (hs : P s) (hr : runSteps step s es = some t) : P t := by
  induction es generalizing s with
  | nil =>
    cases hr
    exact hs
  | cons e es ih =>
    obtain ⟨m, hm, ht⟩ := runSteps_cons step hr
    exact ih (hstep s e m hs hm) ht

/-- Induction on a run from its last step. -/
theorem run_induction {P : List ε → σ → Prop} {s t : σ} {es : List ε} (hnil : P [] s)
    (hstep : ∀ xs m e n, runSteps step s xs = some m → P xs m → step m e = some n →
      P (xs ++ [e]) n)
    (hr : runSteps step s es = some t) : P es t := by
  induction es using List.reverseRecOn generalizing t with
  | nil =>
    cases hr
    exact hnil
  | append_singleton xs e ih =>
    obtain ⟨m, hm, -⟩ := (runSteps_append step).mp hr
    exact hstep xs m e t hm (ih hm) ((runSteps_concat step hm).mp hr)

/-- A reflexive and transitive relation that holds across every step from a
state with `P` relates the first and the last state of every run. -/
theorem relation_of_steps {P : σ → Prop} {R : σ → σ → Prop}
    (hrefl : ∀ s, R s s) (htrans : ∀ s t u, R s t → R t u → R s u)
    (hP : ∀ s e t, P s → step s e = some t → P t)
    (hstep : ∀ s e t, P s → step s e = some t → R s t)
    {s t : σ} {es : List ε} (hs : P s) (hr : runSteps step s es = some t) : R s t := by
  induction es generalizing s with
  | nil =>
    cases hr
    exact hrefl _
  | cons e es ih =>
    obtain ⟨m, hm, ht⟩ := runSteps_cons step hr
    exact htrans s m t (hstep s e m hs hm) (ih (hP s e m hs hm) ht)

/-- If every step is one step of another machine or none, as seen through `f`, then
every run is a run of the other machine. -/
theorem run_projects {σ' ε' : Type} (step' : σ' → ε' → Option σ') (f : σ → σ')
    (hstep : ∀ s e t, step s e = some t → f t = f s ∨ ∃ e', step' (f s) e' = some (f t))
    {s t : σ} {es : List ε} (hr : runSteps step s es = some t) :
    ∃ es', runSteps step' (f s) es' = some (f t) := by
  induction es generalizing s with
  | nil =>
    cases hr
    exact ⟨[], rfl⟩
  | cons e es ih =>
    obtain ⟨m, hm, hr⟩ := runSteps_cons step hr
    obtain ⟨es', hes'⟩ := ih hr
    rcases hstep s e m hm with hsame | ⟨e', he'⟩
    · exact ⟨es', by rw [← hsame]; exact hes'⟩
    · exact ⟨e' :: es', by simp [runSteps, he', hes']⟩

theorem runSteps_erase {σ' ε' : Type} (step' : σ' → ε' → Option σ') (f : σ → σ') (g : ε → Option ε')
    (hstep : ∀ s e, (step s e).map f = (g e).elim (some (f s)) (step' (f s))) (s : σ) (es : List ε) :
    (runSteps step s es).map f = runSteps step' (f s) (es.filterMap g) := by
  induction es generalizing s with
  | nil => rfl
  | cons e es ih =>
    have hs := hstep s e
    cases hg : g e with
    | none =>
      rw [hg, Option.elim_none] at hs
      obtain ⟨t, ht, hft⟩ := Option.map_eq_some_iff.mp hs
      rw [List.filterMap_cons_none hg, ← hft, ← ih t]
      simp [runSteps, ht]
    | some e' =>
      rw [hg, Option.elim_some] at hs
      rw [List.filterMap_cons_some hg]
      cases ht : step s e with
      | none =>
        rw [ht, Option.map_none] at hs
        simp [runSteps, ht, ← hs]
      | some t =>
        rw [ht, Option.map_some] at hs
        simp [runSteps, ht, ← hs, ih t]

theorem length_le_of_decreasing {C : ε → Prop} (work : σ → ℕ)
    (hstep : ∀ s e t, C e → step s e = some t → work t < work s) {s t : σ} {es : List ε}
    (hC : ∀ e ∈ es, C e) (hr : runSteps step s es = some t) : es.length + work t ≤ work s := by
  induction es generalizing s with
  | nil =>
    cases hr
    simp
  | cons e es ih =>
    obtain ⟨m, hm, hr⟩ := runSteps_cons step hr
    have hlow := hstep s e m (hC e List.mem_cons_self) hm
    have hrest := ih (fun e he => hC e (List.mem_cons_of_mem _ he)) hr
    rw [List.length_cons]
    omega

/-- A step of a run from `s₀` to `t`. -/
structure StepOf (C : σ → ε → Prop) (s₀ t s : σ) (e : ε) (s' : σ) : Prop where
  reached : ∃ es, runSteps step s₀ es = some s
  meets : C s e
  now : step s e = some s'
  rest : ∃ es, runSteps step s' es = some t

variable {step} in
theorem StepOf.leads {C : σ → ε → Prop} {s₀ t s s' : σ} {e : ε} (hs : StepOf step C s₀ t s e s') :
    ∃ es, runSteps step s es = some t := by
  obtain ⟨es, hes⟩ := hs.rest
  exact ⟨e :: es, by simp [runSteps, hs.now, hes]⟩

variable {step} in
theorem StepOf.reaches {C : σ → ε → Prop} {s₀ t s s' : σ} {e : ε}
    (hs : StepOf step C s₀ t s e s') : ∃ es, runSteps step s₀ es = some s' := by
  obtain ⟨es, hes⟩ := hs.reached
  exact ⟨es ++ [e], (runSteps_concat step hes).mpr hs.now⟩

/-- Work through a list: if every step that is on the list takes its head off, and
every other step keeps what holds of the rest, then a run that makes exactly the steps
of the list ends with nothing left. -/
theorem run_down {δ : Type} (own : ε → Option δ) {C : σ → ε → Prop} {Q : List δ → σ → Prop}
    {s₀ t : σ}
    (hother : ∀ s e s' ds, StepOf step C s₀ t s e s' → own e = none → Q ds s → Q ds s')
    (hown : ∀ s e s' d ds, StepOf step C s₀ t s e s' → own e = some d → Q (d :: ds) s → Q ds s')
    {es : List ε} (hC : Along step C s₀ es) (hr : runSteps step s₀ es = some t)
    (hq : Q (es.filterMap own) s₀) : Q [] t := by
  suffices ∀ s, (∃ es₁, runSteps step s₀ es₁ = some s) → Along step C s es →
      runSteps step s es = some t → Q (es.filterMap own) s → Q [] t from
    this s₀ ⟨[], rfl⟩ hC hr hq
  clear hC hr hq
  induction es with
  | nil =>
    intro s _ _ hr hq
    cases hr
    exact hq
  | cons e es ih =>
    rintro s ⟨es₁, hes₁⟩ ⟨hCe, hCs⟩ hr hq
    obtain ⟨m, hm, hr⟩ := runSteps_cons step hr
    have hstep : StepOf step C s₀ t s e m := ⟨⟨es₁, hes₁⟩, hCe, hm, ⟨es, hr⟩⟩
    refine ih m hstep.reaches (hCs m hm) hr ?_
    cases ho : own e with
    | none =>
      rw [List.filterMap_cons_none ho] at hq
      exact hother s e m _ hstep ho hq
    | some d =>
      rw [List.filterMap_cons_some ho] at hq
      exact hown s e m d _ hstep ho hq

end CloudCredit.Library
