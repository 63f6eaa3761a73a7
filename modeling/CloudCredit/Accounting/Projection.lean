import CloudCredit.Accounting.Continuation

/-!
# The projection does not matter

Balances are read and written to PostgreSQL after every confirmed write, and
none of it is ever looked at by the workflow. The abstract machine below is the
workflow without its projection: it moves on the visible steps only, which are
all steps but those of the reading and writing activities. A run of the workflow
is a run of that machine, so two runs with the same visible steps agree.
-/
namespace CloudCredit.Accounting

open Library TigerBeetle Domain Ledger

/-- The place of the main loop, without how far its projection has come. -/
def Main.forget : Main → Main
  | .lookingUp site _ | .snapshotting site _ _ | .checkingLimits site _ _ => .lookingUp site {}
  | .selecting timer => .selecting timer
  | .submitting site flight => .submitting site flight
  | .continuing => .continuing

/-- A handler after its allocation, without how far its projection has come. -/
def Refresh.forget (f : Refresh) : Refresh := ⟨f.issue, .lookingUp {}⟩

/-- What a handler returned, without the balances in it. -/
def forgetBalances (x : Issue × Except ActivityError IssueCreditResult) :
    Issue × Except ActivityError IssueCreditResult :=
  (x.1, x.2.map fun _ => {})

@[simp] theorem Main.forget_forget (m : Main) : m.forget.forget = m.forget := by cases m <;> rfl

@[simp] theorem Main.forget_flight (m : Main) : m.forget.flight = m.flight := by cases m <;> rfl

@[simp] theorem Refresh.forget_comp_forget : Refresh.forget ∘ Refresh.forget = Refresh.forget := rfl

@[simp] theorem forgetBalances_comp : forgetBalances ∘ forgetBalances = forgetBalances := by
  funext x
  obtain ⟨issue, result⟩ := x
  cases result <;> rfl

/-- A step one can tell without looking at the projection. -/
inductive Visible
  | event (ev : Event)
  | flushReturns (continuing : Bool)
  | handlerReturns (i : ℕ)

namespace Execution

variable (h : Blake3) (e : Execution)

/-- An execution without its projection: the read balances, the outcome of the
projecting activities and the balances given to callers are gone. -/
def forget : Execution :=
  { e with
    main := e.main.forget
    refreshing := e.refreshing.map Refresh.forget
    history := { e.history with returned := e.history.returned.map forgetBalances } }

/-- What is visible of an event, if anything: the end of the main loop's
projection is the return of its flush, the end of a handler's its own return. -/
def visible? : Event → Option Visible
  | .attempt reached (.batch reply) => some (.event (.attempt reached (.batch reply)))
  | .attempt _ _ | .refreshAttempt _ _ => none
  | .deliver continuing =>
    match e.main with
    | .lookingUp _ run =>
      match run.outcome with
      | some (.error _) => some (.flushReturns continuing)
      | _ => none
    | .snapshotting _ _ _ => none
    | .checkingLimits _ _ _ => some (.flushReturns continuing)
    | _ => some (.event (.deliver continuing))
  | .refreshDeliver i =>
    match e.refreshing[i]? with
    | some ⟨_, .lookingUp run⟩ =>
      match run.outcome with
      | some (.error _) => some (.handlerReturns i)
      | _ => none
    | some ⟨_, .resetting _ _⟩ => some (.handlerReturns i)
    | _ => none
  | ev => some (.event ev)

/-- The workflow without its projection. -/
def coreStep (v : Execution) : Visible → Option Execution
  | .event ev => (v.step h ev).map forget
  | .flushReturns continuing =>
    match v.main with
    | .lookingUp site _ => some (v.afterFlush h site continuing).forget
    | _ => none
  | .handlerReturns i => v.refreshing[i]?.map fun f =>
      (handlerReturns { v with refreshing := v.refreshing.eraseIdx i } f.issue (.ok {})).forget

/-- The visible steps of a run. -/
def visibleSteps : Execution → List Event → List Visible
  | _, [] => []
  | e, ev :: es =>
    (e.visible? ev).toList ++ match e.step h ev with
      | some e' => visibleSteps e' es
      | none => []

variable {h e} {e' : Execution} {ev : Event}

theorem forget_forget : e.forget.forget = e.forget := by
  simp [forget]

theorem forget_endIteration (continuing : Bool) :
    (e.forget.endIteration h continuing).forget = (e.endIteration h continuing).forget := by
  unfold endIteration
  simp only [show e.forget.state = e.state from rfl]
  split_ifs <;> simp [forget, cancelTimer, beginFlush]

theorem forget_afterFlush (site : FlushSite) (continuing : Bool) :
    (e.forget.afterFlush h site continuing).forget = (e.afterFlush h site continuing).forget := by
  cases site with
  | threshold => exact forget_endIteration (e := (e.setInterval _).resetTimer) continuing
  | timer => exact forget_endIteration (e := (e.setInterval _).resetTimer) continuing
  | continueAsNew => simp [afterFlush, forget]

theorem forget_handlerReturns (issue : Issue) (result : IssueCreditResult) :
    (e.forget.handlerReturns issue (.ok {})).forget = (e.handlerReturns issue (.ok result)).forget := by
  simp [forget, handlerReturns, resetTimer, setInterval, forgetBalances, Except.map]

theorem forget_selecting {timer : ℕ} (hm : e.main = .selecting timer) :
    e.forget.main = .selecting timer := by
  simp [forget, hm, Main.forget]

theorem receiveHeartbeat_core {continuing : Bool} (hs : e.receiveHeartbeat h continuing = some e') :
    (e.forget.receiveHeartbeat h continuing).map forget = some e'.forget := by
  cases receiveHeartbeat_cases hs with
  | @skipped timer sig rest hm hch hseen =>
    have hmain := forget_selecting hm
    simp only [receiveHeartbeat, hmain, show e.forget.hbCh = sig :: rest from hch,
      show e.forget.state = e.state from rfl, hseen, if_true]
    exact congrArg some (forget_endIteration (e := { e with
      hbCh := rest
      history := { e.history with dropped := sig :: e.history.dropped } }) continuing)
  | @filled timer sig rest hm hch hseen hfull =>
    have hmain := forget_selecting hm
    simp only [receiveHeartbeat, hmain, show e.forget.hbCh = sig :: rest from hch,
      show e.forget.state = e.state from rfl, hseen, hfull, if_true]
    simp [forget, beginFlush, cancelTimer]
  | @appended timer sig rest hm hch hseen hroom =>
    have hmain := forget_selecting hm
    simp only [receiveHeartbeat, hmain, show e.forget.hbCh = sig :: rest from hch,
      show e.forget.state = e.state from rfl, hseen, Nat.not_le.mpr hroom, if_false]
    exact congrArg some (forget_endIteration (e := { e with
      hbCh := rest
      state := e.state.appendHeartbeat sig }) continuing)

theorem receiveRegistration_core {continuing : Bool}
    (hs : e.receiveRegistration h continuing = some e') :
    (e.forget.receiveRegistration h continuing).map forget = some e'.forget := by
  obtain ⟨timer, sig, rest, hm, hch, rfl⟩ := receiveRegistration_cases hs
  have hmain := forget_selecting hm
  simp only [receiveRegistration, hmain, show e.forget.regCh = sig :: rest from hch]
  exact congrArg some (forget_endIteration (e := { e with
    regCh := rest
    state := e.state.registerCluster sig }) continuing)

theorem timerBranch_core {continuing : Bool} (hs : e.timerBranch h continuing = some e') :
    (e.forget.timerBranch h continuing).map forget = some e'.forget := by
  cases timerBranch_cases hs with
  | @idle timer hm hres hb =>
    have hmain := forget_selecting hm
    simp only [timerBranch, hmain, show e.forget.state = e.state from rfl,
      show e.forget.resolved = e.resolved from rfl, hres, hb, if_true]
    exact congrArg some (forget_endIteration
      (e := (e.setInterval e.state.idleInterval).resetTimer) continuing)
  | @flushed timer hm hres hb =>
    have hmain := forget_selecting hm
    simp only [timerBranch, hmain, show e.forget.state = e.state from rfl,
      show e.forget.resolved = e.resolved from rfl, hres, hb, if_true, if_false]
    simp [forget, beginFlush]

theorem update_core {sig : QuotaAdjustmentSignal} (hs : e.update h sig = some e') :
    (e.forget.update h sig).map forget = some e'.forget := by
  have hmain : ∀ hm : e.main ≠ .continuing, e.forget.main ≠ .continuing := by
    simp only [forget]
    cases e.main <;> simp [Main.forget]
  cases update_cases hs with
  | refused hm hvalid =>
    simp only [update, show e.forget.state = e.state from rfl, hvalid]
    split
    · rename_i hcon
      exact absurd hcon (hmain hm)
    · simp only [Option.map_some, forget_forget]
  | accepted hm hvalid =>
    simp only [update, show e.forget.state = e.state from rfl, hvalid]
    split
    · rename_i hcon
      exact absurd hcon (hmain hm)
    · simp [forget, cancelTimer]

theorem creditDeliver_core {i : ℕ} (hs : e.creditDeliver i = some e') :
    (e.forget.creditDeliver i).map forget = some e'.forget := by
  cases creditDeliver_cases hs with
  | abandoned hi hout hgone => simp [creditDeliver, hi, hout, hgone, forget]
  | failed hi hout hown =>
    simp [creditDeliver, hi, hout, hown, forget, handlerReturns, resetTimer, setInterval,
      forgetBalances, Except.map]
  | confirmed hi hout hown => simp [creditDeliver, hi, hout, hown, forget, Refresh.forget]

theorem creditAttempt_core {i : ℕ} {reached : Bool} {reply : Except ActivityError Unit}
    (hs : e.creditAttempt i reached reply = some e') :
    (e.forget.creditAttempt i reached reply).map forget = some e'.forget := by
  obtain ⟨c, hi, hs⟩ := Option.bind_eq_some_iff.mp hs
  obtain ⟨run, hrun, rfl⟩ := Option.map_eq_some_iff.mp hs
  simp [creditAttempt, hi, hrun, forget]

theorem attempt_core {reached : Bool} {reply : Reply} (hs : e.attempt reached reply = some e') :
    match e.visible? (.attempt reached reply) with
    | some l => coreStep h e.forget l = some e'.forget
    | none => e'.forget = e.forget := by
  cases attempt_cases hs with
  | @batch site flight r run hm hrun =>
    have hmain : e.forget.main = .submitting site flight := by simp [forget, hm, Main.forget]
    simp only [visible?, coreStep, step, attempt, hmain, hrun, Option.map_some]
    simp [forget]
  | lookup hm hrun => simp [visible?, forget, hm, Main.forget]
  | snapshot hm hrun => simp [visible?, forget, hm, Main.forget]
  | limits hm hrun => simp [visible?, forget, hm, Main.forget]

theorem coreStep_flushReturns {site : FlushSite} (continuing : Bool)
    (hm : e.main.forget = .lookingUp site {}) :
    coreStep h e.forget (.flushReturns continuing) = some (e.afterFlush h site continuing).forget := by
  simp only [coreStep, show e.forget.main = .lookingUp site {} from hm, forget_afterFlush]

theorem deliver_core {continuing : Bool} (hs : e.deliver h continuing = some e') :
    match e.visible? (.deliver continuing) with
    | some l => coreStep h e.forget l = some e'.forget
    | none => e'.forget = e.forget := by
  cases deliver_cases hs with
  | @submitted site flight result hm hout =>
    have hmain : e.forget.main = .submitting site flight := by simp [forget, hm, Main.forget]
    simp only [visible?, hm, coreStep, step, deliver, hmain, hout]
    simp [forget, batchSubmitted]
  | @failed site flight err hm hout =>
    have hmain : e.forget.main = .submitting site flight := by simp [forget, hm, Main.forget]
    simp only [visible?, hm, coreStep, step, deliver, hmain, hout, Option.map_some,
      forget_afterFlush]
  | lookedUp hm hout => simp [visible?, hm, hout, forget, Main.forget]
  | notFound hm hout =>
    simp only [visible?, hm, hout]
    exact coreStep_flushReturns continuing (by rw [hm]; rfl)
  | snapshotted hm hout => simp [visible?, forget, hm, Main.forget]
  | checked hm hout =>
    simp only [visible?, hm]
    exact coreStep_flushReturns continuing (by rw [hm]; rfl)

theorem coreStep_handlerReturns {i : ℕ} {f : Refresh} (hi : e.refreshing[i]? = some f)
    (result : IssueCreditResult) :
    coreStep h e.forget (.handlerReturns i) = some (handlerReturns
      { e with refreshing := e.refreshing.eraseIdx i } f.issue (.ok result)).forget := by
  have hforget : e.forget.refreshing[i]? = some f.forget := by simp [forget, hi]
  have herase : ({ e.forget with refreshing := e.forget.refreshing.eraseIdx i } : Execution) =
      forget { e with refreshing := e.refreshing.eraseIdx i } := by
    simp [forget, List.eraseIdx_map]
  simp only [coreStep, hforget, Option.map_some, herase, Refresh.forget]
  rw [forget_handlerReturns _ result]

theorem forget_refreshing {i : ℕ} {f : Refresh} (hi : e.refreshing[i]? = some f)
    (phase : RefreshPhase) :
    ({ e with refreshing := e.refreshing.set i { f with phase := phase } } : Execution).forget =
      e.forget := by
  have hsame : (e.refreshing.set i { f with phase := phase }).map Refresh.forget =
      e.refreshing.map Refresh.forget := map_set_of_eq hi rfl
  simp only [forget, hsame]

theorem refreshDeliver_core {i : ℕ} (hs : e.refreshDeliver i = some e') :
    match e.visible? (.refreshDeliver i) with
    | some l => coreStep h e.forget l = some e'.forget
    | none => e'.forget = e.forget := by
  cases refreshDeliver_cases hs with
  | @lookedUp f run balances hi hphase hout =>
    have hnext := forget_refreshing hi (.snapshotting balances {})
    obtain ⟨issue, phase⟩ := f
    cases hphase
    simp only [visible?, hi, hout]
    exact hnext
  | @notFound f run err hi hphase hout =>
    have hreturn := coreStep_handlerReturns (h := h) hi {}
    obtain ⟨issue, phase⟩ := f
    cases hphase
    simp only [visible?, hi, hout]
    exact hreturn
  | @snapshotted f balances run hi hphase hout =>
    have hnext := forget_refreshing hi (.resetting balances {})
    obtain ⟨issue, phase⟩ := f
    cases hphase
    simp only [visible?, hi]
    exact hnext
  | @reset f balances run hi hphase hout =>
    have hreturn := coreStep_handlerReturns (h := h) hi { balances }
    obtain ⟨issue, phase⟩ := f
    cases hphase
    simp only [visible?, hi]
    exact hreturn

/-- A step of the workflow is the visible step of the abstract machine, or leaves
it where it is. -/
theorem step_core (hs : e.step h ev = some e') :
    match e.visible? ev with
    | some l => coreStep h e.forget l = some e'.forget
    | none => e'.forget = e.forget := by
  cases ev with
  | heartbeat sig =>
    cases hs
    simp [visible?, coreStep, step, forget]
  | register sig =>
    cases hs
    simp [visible?, coreStep, step, forget]
  | update sig => exact update_core hs
  | receiveHeartbeat continuing => exact receiveHeartbeat_core hs
  | receiveRegistration continuing => exact receiveRegistration_core hs
  | timerFires timer =>
    simp only [step] at hs
    split_ifs at hs with hle
    cases hs
    simp only [visible?, coreStep, step, show e.forget.timer = e.timer from rfl, hle, if_true]
    simp [forget]
  | timerBranch continuing => exact timerBranch_core hs
  | attempt reached reply => exact attempt_core hs
  | deliver continuing => exact deliver_core hs
  | creditAttempt i reached reply => exact creditAttempt_core hs
  | creditDeliver i => exact creditDeliver_core hs
  | refreshAttempt i reply =>
    obtain ⟨f, hi, hs⟩ := Option.bind_eq_some_iff.mp hs
    obtain ⟨phase, -, rfl⟩ := Option.map_eq_some_iff.mp hs
    exact forget_refreshing hi phase
  | refreshDeliver i => exact refreshDeliver_core hs
  | continueAsNew =>
    obtain ⟨hm, rfl⟩ := continueAsNew_some hs
    have hmain : e.forget.main = .continuing := by simp [forget, hm, Main.forget]
    simp only [visible?, coreStep, step, continueAsNew, hmain]
    simp [forget, restarted]

theorem visibleSteps_cons {es : List Event} (hs : e.step h ev = some e') :
    visibleSteps h e (ev :: es) = (e.visible? ev).toList ++ visibleSteps h e' es := by
  simp [visibleSteps, hs]

theorem visibleSteps_append {xs : List Event} (hr : runSteps (step h) e xs = some e')
    (ys : List Event) :
    visibleSteps h e (xs ++ ys) = visibleSteps h e xs ++ visibleSteps h e' ys := by
  induction xs generalizing e with
  | nil =>
    cases hr
    rfl
  | cons ev xs ih =>
    obtain ⟨m, hm, hr⟩ := runSteps_cons (step h) hr
    rw [List.cons_append, visibleSteps_cons hm, visibleSteps_cons hm, ih hr, List.append_assoc]

/-- Every run of the workflow is a run of the abstract machine on its visible steps. -/
theorem run_core {es : List Event} (hr : runSteps (step h) e es = some e') :
    runSteps (coreStep h) e.forget (visibleSteps h e es) = some e'.forget := by
  induction es generalizing e with
  | nil =>
    cases hr
    rfl
  | cons ev es ih =>
    obtain ⟨m, hm, hr⟩ := runSteps_cons (step h) hr
    rw [visibleSteps_cons hm]
    have hcore := step_core hm
    have hrest := ih hr
    split at hcore
    · rename_i l hl
      rw [hl]
      simpa [runSteps, hcore] using hrest
    · rename_i hl
      rw [hl, ← hcore]
      exact hrest

theorem exists_prefix_visibleSteps {es : List Event} (hr : runSteps (step h) e es = some e')
    {ls : List Visible} (hl : ls <+: visibleSteps h e es) :
    ∃ xs ys m, es = xs ++ ys ∧ runSteps (step h) e xs = some m ∧ visibleSteps h e xs = ls := by
  induction es generalizing e ls with
  | nil => exact ⟨[], [], e, rfl, rfl, (List.prefix_nil.mp hl).symm⟩
  | cons ev es ih =>
    obtain ⟨m, hm, hr⟩ := runSteps_cons (step h) hr
    rw [visibleSteps_cons hm] at hl
    have hextend : ∀ ls', ls = (e.visible? ev).toList ++ ls' → ls' <+: visibleSteps h m es →
        ∃ xs ys m, ev :: es = xs ++ ys ∧ runSteps (step h) e xs = some m ∧
          visibleSteps h e xs = ls := by
      intro ls' hls hpre
      obtain ⟨xs, ys, m', rfl, hx, hv⟩ := ih hr hpre
      exact ⟨ev :: xs, ys, m', rfl, by simp [runSteps, hm, hx], by rw [visibleSteps_cons hm, hv, hls]⟩
    cases hvis : e.visible? ev with
    | none =>
      rw [hvis] at hl hextend
      exact hextend ls rfl hl
    | some l =>
      rw [hvis] at hl hextend
      cases ls with
      | nil => exact ⟨[], ev :: es, e, rfl, rfl, rfl⟩
      | cons l' ls =>
        obtain ⟨rfl, hpre⟩ := List.cons_prefix_cons.mp hl
        exact hextend ls rfl hpre

/-- The projection does not influence enforcement. Take two runs with the same
visible steps, whatever their projecting activities return. Every point of one
run has a corresponding point in the other, with the same visible steps so far,
and at corresponding points all fields of the state, hence all query answers, and
all activities that write to the ledger are the same. -/
theorem projection_does_not_matter (input : TenantAccountingInput) (es es' : List Event)
    (hr : runSteps (step h) (start input) es = some e)
    (hr' : runSteps (step h) (start input) es' = some e')
    (hsame : visibleSteps h (start input) es = visibleSteps h (start input) es')
    (xs ys : List Event) (hxs : es = xs ++ ys) {m : Execution}
    (hm : runSteps (step h) (start input) xs = some m) :
    (∃ xs' ys' m', es' = xs' ++ ys' ∧ runSteps (step h) (start input) xs' = some m' ∧
      visibleSteps h (start input) xs' = visibleSteps h (start input) xs) ∧
    ∀ xs' m', runSteps (step h) (start input) xs' = some m' →
      visibleSteps h (start input) xs' = visibleSteps h (start input) xs →
      m'.state = m.state ∧ m'.main.flight = m.main.flight ∧ m'.credits = m.credits := by
  subst hxs
  refine ⟨exists_prefix_visibleSteps hr' ?_, fun xs' m' hm' hvis => ?_⟩
  · rw [← hsame, visibleSteps_append hm]
    exact List.prefix_append _ _
  · have hcore := run_core hm'
    rw [hvis, run_core hm] at hcore
    have hforget : m.forget = m'.forget := Option.some.inj hcore
    refine ⟨(congrArg Execution.state hforget).symm, ?_, (congrArg Execution.credits hforget).symm⟩
    have hmain := congrArg (fun x => x.main.flight) hforget
    simpa [forget] using hmain.symm

/-- The ledger takes a batch of one heartbeat. -/
def oneFlush : List Event :=
  [.heartbeat (sampleHeartbeat 1), .receiveHeartbeat true, .attempt true (.batch (.ok {})),
    .deliver false]

/-- The projection of a flush succeeds. -/
def projected : List Event :=
  [.attempt false (.balances (.ok Table.empty)), .deliver false, .attempt false (.done (.ok ())),
    .deliver false, .attempt false (.done (.ok ())), .deliver false]

/-- The balances cannot be read. -/
def unprojected : List Event :=
  List.replicate 5 (.attempt false (.balances (.error .timeout))) ++ [.deliver false]

theorem unread_balances_change_nothing :
    ∃ e e', runSteps (step .positional) (start sampleInput) (oneFlush ++ projected) = some e ∧
      runSteps (step .positional) (start sampleInput) (oneFlush ++ unprojected) = some e' ∧
      e.state.curBatch = [] ∧ e'.state = e.state ∧ e'.main.flight = e.main.flight ∧
      e'.credits = e.credits := by
  obtain ⟨e, he, hbatch⟩ := runSteps_any (step .positional) (start sampleInput)
    (oneFlush ++ projected) (fun e => e.state.curBatch = []) (by decide)
  obtain ⟨e', he', -⟩ := runSteps_any (step .positional) (start sampleInput)
    (oneFlush ++ unprojected) (fun _ => true) (by decide)
  have hsame : visibleSteps .positional (start sampleInput) (oneFlush ++ projected) =
      visibleSteps .positional (start sampleInput) (oneFlush ++ unprojected) := rfl
  have hequal := (projection_does_not_matter sampleInput (oneFlush ++ projected)
    (oneFlush ++ unprojected) he he' hsame (oneFlush ++ projected) [] (List.append_nil _).symm
    he).2 (oneFlush ++ unprojected) e' he' hsame.symm
  exact ⟨e, e', he, he', of_decide_eq_true hbatch, hequal⟩

end Execution
end CloudCredit.Accounting
