import CloudCredit.Accounting.BatchBound

/-!
# The activities of a workflow come to an end

An activity is tried a bounded number of times, a flush and an update handler go through
a fixed sequence of activities, and at the end of an iteration there may be one more
flush before the workflow continues as new. So when nothing arrives and no timer fires,
only a bounded number of attempts and deliveries is left, and they go on until the main
loop is back at its selector, or ready to continue as new, and all handlers have returned.
-/
namespace CloudCredit.Accounting

open Library TigerBeetle Domain Ledger

/-- The attempts of an activity and its delivery. -/
def activityEvents : ℕ := maximumAttempts + 1

/-- What may still happen to an activity that is running. -/
def eventsLeft {α : Type} (run : Run α) : ℕ := run.attemptsLeft maximumAttempts + 1

theorem eventsLeft_le {α : Type} (run : Run α) : eventsLeft run ≤ activityEvents :=
  Nat.succ_le_succ (ActivityRun.attemptsLeft_le (by decide) run)

theorem eventsLeft_pos {α : Type} (run : Run α) : 0 < eventsLeft run := Nat.succ_pos _

theorem attempt_eventsLeft {α : Type} {run run' : Run α} {reached : Bool}
    {reply : Except ActivityError α} (hrun : run.attempt maximumAttempts reached reply = some run') :
    eventsLeft run' < eventsLeft run :=
  Nat.succ_lt_succ (ActivityRun.attempt_lowers hrun)

/-- A flush at the end of an iteration may follow. -/
def FlushSite.later : FlushSite → ℕ
  | .threshold | .timer => 4 * activityEvents
  | .continueAsNew => 0

/-- The events left to the activities of the main loop. -/
def Main.work : Main → ℕ
  | .selecting _ | .continuing => 0
  | .submitting site flight => eventsLeft flight.run + 3 * activityEvents + site.later
  | .lookingUp site run => eventsLeft run + 2 * activityEvents + site.later
  | .snapshotting site _ run => eventsLeft run + activityEvents + site.later
  | .checkingLimits site _ run => eventsLeft run + site.later

def Credit.work (c : Credit) : ℕ := eventsLeft c.run + 3 * activityEvents

def Refresh.work (f : Refresh) : ℕ :=
  match f.phase with
  | .lookingUp run => eventsLeft run + 2 * activityEvents
  | .snapshotting _ run => eventsLeft run + activityEvents
  | .resetting _ run => eventsLeft run

/-- The event is an attempt of an activity or its delivery. -/
def Event.ofActivity : Event → Bool
  | .attempt _ _ | .deliver _ | .creditAttempt _ _ _ | .creditDeliver _ | .refreshAttempt _ _
  | .refreshDeliver _ => true
  | _ => false

/-- The event serves the main loop: an attempt in which no batch is refused, or a delivery
after which no continuation is suggested. -/
def Event.servesMain : Event → Bool
  | .attempt _ (.batch (.error _)) => false
  | .attempt _ _ => true
  | .deliver continuing => !continuing
  | _ => false

theorem Event.ofActivity_of_servesMain {ev : Event} (hev : ev.servesMain = true) :
    ev.ofActivity = true := by
  cases ev <;> first | rfl | cases hev

theorem Main.work_le (m : Main) : m.work ≤ 8 * activityEvents := by
  have hlater : ∀ site : FlushSite, site.later ≤ 4 * activityEvents := by
    intro site
    cases site <;> simp [FlushSite.later]
  cases m with
  | selecting timer => exact Nat.zero_le _
  | continuing => exact Nat.zero_le _
  | submitting site flight =>
    have := hlater site
    have := eventsLeft_le flight.run
    simp only [Main.work]
    omega
  | lookingUp site run =>
    have := hlater site
    have := eventsLeft_le run
    simp only [Main.work]
    omega
  | snapshotting site balances run =>
    have := hlater site
    have := eventsLeft_le run
    simp only [Main.work]
    omega
  | checkingLimits site balances run =>
    have := hlater site
    have := eventsLeft_le run
    simp only [Main.work]
    omega

theorem Refresh.work_le (f : Refresh) : f.work ≤ 4 * activityEvents := by
  obtain ⟨issue, phase⟩ := f
  cases phase with
  | lookingUp run =>
    have := eventsLeft_le run
    simp only [Refresh.work]
    omega
  | snapshotting balances run =>
    have := eventsLeft_le run
    simp only [Refresh.work]
    omega
  | resetting balances run =>
    have := eventsLeft_le run
    simp only [Refresh.work]
    omega

namespace Execution

variable {h : Blake3} {ev : Event} {e e' : Execution}

def work (e : Execution) : ℕ :=
  e.main.work + (e.credits.map Credit.work).sum + (e.refreshing.map Refresh.work).sum

/-- The main loop waits at its selector, or is ready to continue as new, and no handler
waits for an activity. -/
structure AtRest (e : Execution) : Prop where
  main : (∃ timer, e.main = .selecting timer) ∨ e.main = .continuing
  credits : e.credits = []
  refreshing : e.refreshing = []

theorem endIteration_work (continuing : Bool) :
    (e.endIteration h continuing).main.work ≤ 4 * activityEvents ∧
      (e.endIteration h continuing).credits = e.credits ∧
      (e.endIteration h continuing).refreshing = e.refreshing := by
  unfold endIteration
  split_ifs
  · exact ⟨Nat.zero_le _, rfl, rfl⟩
  · refine ⟨?_, rfl, rfl⟩
    have := eventsLeft_le ({} : Run TBBatchResult)
    simp only [beginFlush, Main.work, FlushSite.later]
    omega
  · exact ⟨Nat.zero_le _, rfl, rfl⟩

theorem afterFlush_work (site : FlushSite) (continuing : Bool) :
    (e.afterFlush h site continuing).main.work ≤ site.later ∧
      (e.afterFlush h site continuing).credits = e.credits ∧
      (e.afterFlush h site continuing).refreshing = e.refreshing := by
  cases site with
  | threshold => exact endIteration_work continuing
  | timer => exact endIteration_work continuing
  | continueAsNew => exact ⟨le_rfl, rfl, rfl⟩

theorem work_lt_of_main (hmain : e'.main.work < e.main.work) (hcredits : e'.credits = e.credits)
    (hrefreshing : e'.refreshing = e.refreshing) : e'.work < e.work := by
  unfold work
  rw [hcredits, hrefreshing]
  omega

theorem attempt_work {reached : Bool} {reply : Reply} (hs : e.attempt reached reply = some e') :
    e'.work < e.work := by
  cases attempt_cases hs with
  | batch hm hrun | lookup hm hrun | snapshot hm hrun | limits hm hrun =>
    refine work_lt_of_main ?_ rfl rfl
    have := attempt_eventsLeft hrun
    rw [hm]
    simp only [Main.work]
    omega

theorem deliver_work {continuing : Bool} (hs : e.deliver h continuing = some e') :
    e'.work < e.work := by
  have hfresh : ∀ {α : Type}, eventsLeft ({} : Run α) ≤ activityEvents := fun {α} => eventsLeft_le _
  have hback : ∀ (site : FlushSite) (n : ℕ), 0 < n → e.main.work = n + site.later →
      (e.afterFlush h site continuing).work < e.work := by
    intro site n hn hm
    obtain ⟨hmain, hcredits, hrefreshing⟩ := afterFlush_work (h := h) (e := e) site continuing
    exact work_lt_of_main (by omega) hcredits hrefreshing
  cases deliver_cases hs with
  | @submitted site flight result hm hout =>
    refine work_lt_of_main ?_ rfl rfl
    have := eventsLeft_pos flight.run
    have := hfresh (α := Balances)
    rw [hm]
    simp only [batchSubmitted, Main.work]
    omega
  | @failed site flight err hm hout =>
    exact hback site _ (Nat.add_pos_left (eventsLeft_pos flight.run) _) (by rw [hm]; rfl)
  | @notFound site run err hm hout =>
    exact hback site _ (Nat.add_pos_left (eventsLeft_pos run) _) (by rw [hm]; rfl)
  | @lookedUp site run balances hm | @snapshotted site balances run hm =>
    refine work_lt_of_main ?_ rfl rfl
    have := eventsLeft_pos run
    have := hfresh (α := Unit)
    rw [hm]
    simp only [Main.work]
    omega
  | @checked site balances run hm hout =>
    exact hback site _ (eventsLeft_pos run) (by rw [hm]; rfl)

theorem work_lt_of_handlers (hmain : e'.main = e.main)
    (hlt : (e'.credits.map Credit.work).sum + (e'.refreshing.map Refresh.work).sum <
      (e.credits.map Credit.work).sum + (e.refreshing.map Refresh.work).sum) : e'.work < e.work := by
  unfold work
  rw [hmain]
  omega

theorem creditAttempt_work {i : ℕ} {reached : Bool} {reply : Except ActivityError Unit}
    (hs : e.creditAttempt i reached reply = some e') : e'.work < e.work := by
  obtain ⟨c, hi, hs⟩ := Option.bind_eq_some_iff.mp hs
  obtain ⟨run, hrun, rfl⟩ := Option.map_eq_some_iff.mp hs
  refine work_lt_of_handlers rfl (Nat.add_lt_add_right (sum_map_set_lt hi ?_) _)
  exact Nat.add_lt_add_right (attempt_eventsLeft hrun) _

theorem creditDeliver_work {i : ℕ} (hs : e.creditDeliver i = some e') : e'.work < e.work := by
  have herase : ∀ {c : Credit}, e.credits[i]? = some c →
      (e.credits.map Credit.work).sum = c.work + ((e.credits.eraseIdx i).map Credit.work).sum ∧
        3 * activityEvents < c.work := by
    intro c hi
    have := eventsLeft_pos c.run
    exact ⟨sum_map_eraseIdx Credit.work hi, by unfold Credit.work; omega⟩
  cases creditDeliver_cases hs with
  | abandoned hi =>
    obtain ⟨hsum, hpos⟩ := herase hi
    exact work_lt_of_handlers rfl (by dsimp only; omega)
  | failed hi =>
    obtain ⟨hsum, hpos⟩ := herase hi
    exact work_lt_of_handlers rfl (by dsimp only [handlerReturns, resetTimer, setInterval]; omega)
  | @confirmed c hi =>
    obtain ⟨hsum, hpos⟩ := herase hi
    have hfresh := eventsLeft_le ({} : Run Balances)
    have hnew : Refresh.work ⟨c.issue, .lookingUp {}⟩ ≤ 3 * activityEvents := by
      simp only [Refresh.work]
      omega
    refine work_lt_of_handlers rfl ?_
    simp only [List.map_append, List.map_cons, List.map_nil, List.sum_append, List.sum_cons,
      List.sum_nil]
    omega

theorem refreshAttempt_work {i : ℕ} {reply : Reply} (hs : e.refreshAttempt i reply = some e') :
    e'.work < e.work := by
  obtain ⟨f, hi, hs⟩ := Option.bind_eq_some_iff.mp hs
  obtain ⟨phase, hphase, rfl⟩ := Option.map_eq_some_iff.mp hs
  refine work_lt_of_handlers rfl (Nat.add_lt_add_left (sum_map_set_lt hi ?_) _)
  unfold Refresh.work
  split at hphase
  · rename_i run r hf _
    obtain ⟨run', hrun, rfl⟩ := Option.map_eq_some_iff.mp hphase
    rw [hf]
    exact Nat.add_lt_add_right (attempt_eventsLeft hrun) _
  · rename_i balances run r hf _
    obtain ⟨run', hrun, rfl⟩ := Option.map_eq_some_iff.mp hphase
    rw [hf]
    exact Nat.add_lt_add_right (attempt_eventsLeft hrun) _
  · rename_i balances run r hf _
    obtain ⟨run', hrun, rfl⟩ := Option.map_eq_some_iff.mp hphase
    rw [hf]
    exact attempt_eventsLeft hrun
  · cases hphase

theorem refreshDeliver_work {i : ℕ} (hs : e.refreshDeliver i = some e') : e'.work < e.work := by
  have hfresh : ∀ {α : Type}, eventsLeft ({} : Run α) ≤ activityEvents := fun {α} => eventsLeft_le _
  have hreturns : ∀ {f : Refresh} {result : Except ActivityError IssueCreditResult},
      e.refreshing[i]? = some f → 0 < f.work →
      (handlerReturns { e with refreshing := e.refreshing.eraseIdx i } f.issue result).work <
        e.work := by
    intro f result hi hpos
    have := sum_map_eraseIdx Refresh.work hi
    exact work_lt_of_handlers rfl (by dsimp only [handlerReturns, resetTimer, setInterval]; omega)
  cases refreshDeliver_cases hs with
  | @lookedUp f run balances hi hphase =>
    refine work_lt_of_handlers rfl (Nat.add_lt_add_left (sum_map_set_lt hi ?_) _)
    have := eventsLeft_pos run
    have := hfresh (α := Unit)
    simp only [Refresh.work, hphase]
    omega
  | @notFound f run err hi hphase =>
    refine hreturns hi ?_
    simp only [Refresh.work, hphase]
    exact Nat.add_pos_left (eventsLeft_pos run) _
  | @snapshotted f balances run hi hphase =>
    refine work_lt_of_handlers rfl (Nat.add_lt_add_left (sum_map_set_lt hi ?_) _)
    have := eventsLeft_pos run
    have := hfresh (α := Unit)
    simp only [Refresh.work, hphase]
    omega
  | @reset f balances run hi hphase =>
    refine hreturns hi ?_
    simp only [Refresh.work, hphase]
    exact eventsLeft_pos run

/-- Every event of an activity does some of the work. -/
theorem step_work (hev : ev.ofActivity = true) (hs : e.step h ev = some e') : e'.work < e.work := by
  cases ev with
  | attempt reached reply => exact attempt_work hs
  | deliver continuing => exact deliver_work hs
  | creditAttempt i reached reply => exact creditAttempt_work hs
  | creditDeliver i => exact creditDeliver_work hs
  | refreshAttempt i reply => exact refreshAttempt_work hs
  | refreshDeliver i => exact refreshDeliver_work hs
  | _ => cases hev

theorem work_le (e : Execution) : e.work ≤
    8 * activityEvents + 4 * activityEvents * (e.credits.length + e.refreshing.length) := by
  have hmain := Main.work_le e.main
  have hcredits : (e.credits.map Credit.work).sum ≤ e.credits.length * (4 * activityEvents) := by
    have hsum := List.sum_le_card_nsmul (e.credits.map Credit.work) (4 * activityEvents) ?_
    · simpa using hsum
    · intro n hn
      obtain ⟨c, -, rfl⟩ := List.mem_map.mp hn
      have := eventsLeft_le c.run
      simp only [Credit.work]
      omega
  have hrefreshing : (e.refreshing.map Refresh.work).sum ≤
      e.refreshing.length * (4 * activityEvents) := by
    have hsum := List.sum_le_card_nsmul (e.refreshing.map Refresh.work) (4 * activityEvents) ?_
    · simpa using hsum
    · intro n hn
      obtain ⟨f, -, rfl⟩ := List.mem_map.mp hn
      exact Refresh.work_le f
  unfold work
  rw [Nat.mul_comm (4 * activityEvents), Nat.add_mul]
  omega

theorem main_enabled (hm : ∀ timer, e.main ≠ .selecting timer) (hc : e.main ≠ .continuing) :
    ∃ ev e', ev.servesMain = true ∧ e.step h ev = some e' := by
  cases hmain : e.main with
  | selecting timer => exact absurd hmain (hm timer)
  | continuing => exact absurd hmain hc
  | submitting site flight =>
    cases hout : flight.run.outcome with
    | none =>
      obtain ⟨run, hrun⟩ := ActivityRun.attempt_isSome hout maximumAttempts true (.ok {})
      exact ⟨.attempt true (.batch (.ok {})), _, rfl,
        by simp [step, attempt, hmain, hrun]; rfl⟩
    | some outcome =>
      cases outcome <;> exact ⟨.deliver false, _, rfl, by simp [step, deliver, hmain, hout]; rfl⟩
  | lookingUp site run =>
    cases hout : run.outcome with
    | none =>
      obtain ⟨run', hrun⟩ := ActivityRun.attempt_isSome hout maximumAttempts false (.error .timeout)
      exact ⟨.attempt false (.balances (.error .timeout)), _, rfl,
        by simp [step, attempt, hmain, hrun]; rfl⟩
    | some outcome =>
      cases outcome <;> exact ⟨.deliver false, _, rfl, by simp [step, deliver, hmain, hout]; rfl⟩
  | snapshotting site balances run | checkingLimits site balances run =>
    cases hout : run.outcome with
    | none =>
      obtain ⟨run', hrun⟩ := ActivityRun.attempt_isSome hout maximumAttempts false (.error .timeout)
      exact ⟨.attempt false (.done (.error .timeout)), _, rfl,
        by simp [step, attempt, hmain, hrun]; rfl⟩
    | some outcome => exact ⟨.deliver false, _, rfl, by simp [step, deliver, hmain, hout]; rfl⟩

theorem credits_enabled (hc : e.credits ≠ []) :
    ∃ ev e', ev.ofActivity = true ∧ e.step h ev = some e' := by
  obtain ⟨c, rest, hcons⟩ := List.exists_cons_of_ne_nil hc
  have hi : e.credits[0]? = some c := by rw [hcons]; rfl
  cases hout : c.run.outcome with
  | none =>
    obtain ⟨run, hrun⟩ := ActivityRun.attempt_isSome hout maximumAttempts false (.error .timeout)
    exact ⟨.creditAttempt 0 false (.error .timeout), _, rfl,
      by simp [step, creditAttempt, hi, hrun]; rfl⟩
  | some outcome =>
    cases hgone : c.abandoned <;> cases outcome <;>
      exact ⟨.creditDeliver 0, _, rfl, by simp [step, creditDeliver, hi, hout, hgone]; rfl⟩

theorem refreshing_enabled (hf : e.refreshing ≠ []) :
    ∃ ev e', ev.ofActivity = true ∧ e.step h ev = some e' := by
  obtain ⟨⟨issue, phase⟩, rest, hcons⟩ := List.exists_cons_of_ne_nil hf
  have hi : e.refreshing[0]? = some ⟨issue, phase⟩ := by rw [hcons]; rfl
  cases phase with
  | lookingUp run =>
    cases hout : run.outcome with
    | none =>
      obtain ⟨run', hrun⟩ := ActivityRun.attempt_isSome hout maximumAttempts false (.error .timeout)
      exact ⟨.refreshAttempt 0 (.balances (.error .timeout)), _, rfl,
        by simp [step, refreshAttempt, hi, hrun]; rfl⟩
    | some outcome =>
      cases outcome <;>
        exact ⟨.refreshDeliver 0, _, rfl, by simp [step, refreshDeliver, hi, hout]; rfl⟩
  | snapshotting balances run | resetting balances run =>
    cases hout : run.outcome with
    | none =>
      obtain ⟨run', hrun⟩ := ActivityRun.attempt_isSome hout maximumAttempts false (.error .timeout)
      exact ⟨.refreshAttempt 0 (.done (.error .timeout)), _, rfl,
        by simp [step, refreshAttempt, hi, hrun]; rfl⟩
    | some outcome => exact ⟨.refreshDeliver 0, _, rfl, by simp [step, refreshDeliver, hi, hout]; rfl⟩

theorem AtRest.refuses (hrest : e.AtRest) (hev : ev.ofActivity = true) : e.step h ev = none := by
  obtain ⟨hmain, hcredits, hrefreshing⟩ := hrest
  have hattempt : ∀ reached reply, e.attempt reached reply = none := by
    intro reached reply
    rcases hmain with ⟨timer, hm⟩ | hm <;> simp [attempt, hm]
  have hdeliver : ∀ continuing, e.deliver h continuing = none := by
    intro continuing
    rcases hmain with ⟨timer, hm⟩ | hm <;> simp [deliver, hm]
  cases ev with
  | attempt reached reply => exact hattempt reached reply
  | deliver continuing => exact hdeliver continuing
  | creditAttempt i reached reply => simp [step, creditAttempt, hcredits]
  | creditDeliver i => simp [step, creditDeliver, hcredits]
  | refreshAttempt i reply => simp [step, refreshAttempt, hrefreshing]
  | refreshDeliver i => simp [step, refreshDeliver, hrefreshing]
  | _ => cases hev

theorem atRest_iff : (∀ ev, ev.ofActivity = true → e.step h ev = none) ↔ e.AtRest := by
  refine ⟨fun hnone => ?_, fun hrest ev hev => hrest.refuses hev⟩
  have hstuck : ¬∃ ev e', ev.ofActivity = true ∧ e.step h ev = some e' := by
    rintro ⟨ev, e', hev, hs⟩
    rw [hnone ev hev] at hs
    cases hs
  refine ⟨?_, ?_, ?_⟩
  · by_contra hmain
    rw [not_or, not_exists] at hmain
    obtain ⟨ev, e', hev, hs⟩ := main_enabled (h := h) hmain.1 hmain.2
    exact hstuck ⟨ev, e', Event.ofActivity_of_servesMain hev, hs⟩
  · by_contra hcredits
    exact hstuck (credits_enabled hcredits)
  · by_contra hrefreshing
    exact hstuck (refreshing_enabled hrefreshing)

/-- From any state, whatever the services reply, the activities of a workflow come to an
end: at most 48 attempts and deliveries for the main loop and 24 for each handler happen
before something else does. They stop only when the main loop is back at its selector or
ready to continue as new, and every handler has returned. -/
theorem activities_come_to_rest (h : Blake3) (e e' : Execution) (es : List Event)
    (hes : ∀ ev ∈ es, ev.ofActivity = true) (hr : runSteps (step h) e es = some e') :
    es.length ≤ 48 + 24 * (e.credits.length + e.refreshing.length) ∧
      ((∀ ev, ev.ofActivity = true → e'.step h ev = none) ↔ e'.AtRest) := by
  refine ⟨?_, atRest_iff⟩
  have hlength := length_le_of_decreasing (step h) (C := fun ev => ev.ofActivity = true)
    work (fun _ _ _ hev hs => step_work hev hs) hes hr
  have hbound : e.work ≤ 48 + 24 * (e.credits.length + e.refreshing.length) := work_le e
  omega

/-- A flush fails in all its attempts, and the main loop is back at its selector. -/
theorem failedFlush_comes_to_rest : ∃ e e',
    runSteps (step .positional) (start sampleInput) [.heartbeat (sampleHeartbeat 1),
        .receiveHeartbeat false, .timerFires 0, .timerBranch false] = some e ∧
      runSteps (step .positional) e sampleFailure = some e' ∧
      sampleFailure.length ≤ 48 + 24 * (e.credits.length + e.refreshing.length) ∧
      ∀ ev, ev.ofActivity = true → e'.step .positional ev = none := by
  obtain ⟨e, hr, hany⟩ := runSteps_any (step .positional) (start sampleInput)
    [.heartbeat (sampleHeartbeat 1), .receiveHeartbeat false, .timerFires 0, .timerBranch false]
    (fun e => (runSteps (step .positional) e sampleFailure).any fun e' =>
      e'.main.timer?.isSome && e'.credits.isEmpty && e'.refreshing.isEmpty) (by decide +kernel)
  obtain ⟨e', hr', hrest⟩ := runSteps_any (step .positional) e sampleFailure _ hany
  simp only [Bool.and_eq_true, List.isEmpty_iff] at hrest
  obtain ⟨timer, htimer⟩ := Option.isSome_iff_exists.mp hrest.1.1
  obtain ⟨hlength, hiff⟩ := activities_come_to_rest .positional e e' sampleFailure (by decide) hr'
  exact ⟨e, e', hr, hr', hlength,
    hiff.mpr ⟨.inl ⟨timer, Main.timer?_some htimer⟩, hrest.1.2, hrest.2⟩⟩

end Execution
end CloudCredit.Accounting
