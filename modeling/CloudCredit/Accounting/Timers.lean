import CloudCredit.Accounting.EventCases

/-!
# The flush timer and the clock

The loop flushes when the timer it selects on resolves, and after every flush, idle cycle
and finished credit it starts the next timer with the interval it has then. A credit handler
also starts a timer while the loop still selects on an older one. The clocked machine adds
when each timer is due: a timer fires once it is due, and time does not pass over a timer the
loop is waiting for. So a heartbeat that was received waits for its flush no longer than the
longest interval and two seconds for each credit that finishes meanwhile.
-/
namespace CloudCredit.Accounting

open Library TigerBeetle Domain Ledger

/-- The event ends the execution. -/
def Event.restarts : Event → Bool
  | .continueAsNew => true
  | _ => false

def Event.isTimerBranch : Event → Bool
  | .timerBranch _ => true
  | _ => false

namespace Execution

variable {h : Blake3} {e e' : Execution}

/-- The loop is in its selector and holds heartbeats. -/
def batchWaits (e : Execution) : Bool := e.main.timer?.isSome && e.state.curBatch ≠ []

/-- A step keeps timer and interval, or ends an idle cycle, a flush or a credit. Whenever
the loop goes back to its selector it takes the newest timer. -/
inductive Paced (ev : Event) (e e' : Execution) : Prop
  | kept (timer : e'.timer = e.timer)
      (interval : e'.state.currentFlushInterval = e.state.currentFlushInterval)
      (returned : e'.history.returned = e.history.returned)
      (selects : ∀ t, e'.main.timer? = some t → t = e.timer ∨ e.main.timer? = some t)
  | idle (timer : e'.timer = e.timer + 1)
      (interval : e'.state.currentFlushInterval = e.state.idleInterval)
      (empty : e'.state.curBatch = [])
      (selects : ∀ t, e'.main.timer? = some t → t = e'.timer)
      (branch : ev.isTimerBranch = true)
  | flushed (timer : e'.timer = e.timer + 1)
      (interval : e'.state.currentFlushInterval = baseFlushInterval)
      (away : e.main.timer? = none)
      (selects : ∀ t, e'.main.timer? = some t → t = e'.timer)
      (branch : ev.isTimerBranch = false)
  | credited (timer : e'.timer = e.timer + 1)
      (interval : e'.state.currentFlushInterval = baseFlushInterval)
      (main : e'.main = e.main)
      (returned : e'.history.returned.length = e.history.returned.length + 1)
      (branch : ev.isTimerBranch = false)

theorem timer?_of_selecting {t : ℕ} (hm : e.main = .selecting t) : e.main.timer? = some t := by
  rw [hm]
  rfl

theorem endIteration_timer (continuing : Bool) :
    (e.endIteration h continuing).timer = e.timer ∧
      (e.endIteration h continuing).state.currentFlushInterval = e.state.currentFlushInterval ∧
      (e.endIteration h continuing).state.curBatch = e.state.curBatch ∧
      (e.endIteration h continuing).history = e.history ∧
      ∀ t, (e.endIteration h continuing).main.timer? = some t → t = e.timer := by
  unfold endIteration
  split_ifs
  · exact ⟨rfl, rfl, rfl, rfl, fun t ht => by cases ht⟩
  · exact ⟨rfl, rfl, rfl, rfl, fun t ht => by cases ht⟩
  · exact ⟨rfl, rfl, rfl, rfl, fun t ht => by cases ht; rfl⟩

theorem endIteration_paced {ev : Event} {m : Execution} (continuing : Bool)
    (timer : m.timer = e.timer)
    (interval : m.state.currentFlushInterval = e.state.currentFlushInterval)
    (returned : m.history.returned = e.history.returned) :
    Paced ev e (m.endIteration h continuing) := by
  obtain ⟨htimer, hinterval, -, hhistory, hselects⟩ := endIteration_timer (h := h) (e := m) continuing
  refine .kept (htimer.trans timer) (hinterval.trans interval) (by rw [hhistory, returned]) ?_
  exact fun t ht => .inl ((hselects t ht).trans timer)

theorem Paced.away {ev : Event} (timer : e'.timer = e.timer)
    (interval : e'.state.currentFlushInterval = e.state.currentFlushInterval)
    (returned : e'.history.returned = e.history.returned) (hm : e'.main.timer? = none) :
    Paced ev e e' :=
  .kept timer interval returned fun t ht => by
    rw [hm] at ht
    cases ht

theorem Paced.still {ev : Event} (timer : e'.timer = e.timer)
    (interval : e'.state.currentFlushInterval = e.state.currentFlushInterval)
    (returned : e'.history.returned = e.history.returned) (hm : e'.main = e.main) :
    Paced ev e e' :=
  .kept timer interval returned fun t ht => .inr (by rw [← hm]; exact ht)

theorem registerCluster_interval (s : TenantAccountingState) (sig : RegisterClusterSignal) :
    (s.registerCluster sig).currentFlushInterval = s.currentFlushInterval := by
  unfold TenantAccountingState.registerCluster
  split <;> rfl

theorem afterFlush_paced {continuing : Bool} (site : FlushSite) (hm : e.main.timer? = none) :
    Paced (.deliver continuing) e (e.afterFlush h site continuing) := by
  have hback : Paced (.deliver continuing) e
      ((e.setInterval baseFlushInterval).resetTimer.endIteration h continuing) := by
    obtain ⟨htimer, hinterval, -, -, hselects⟩ := endIteration_timer (h := h)
      (e := (e.setInterval baseFlushInterval).resetTimer) continuing
    exact .flushed htimer hinterval hm (fun t ht => (hselects t ht).trans htimer.symm) rfl
  cases site with
  | threshold => exact hback
  | timer => exact hback
  | continueAsNew => exact .away rfl rfl rfl rfl

theorem handlerReturns_paced {ev : Event} {m : Execution} (issue : Issue)
    (result : Except ActivityError IssueCreditResult) (hm : m.main = e.main)
    (ht : m.timer = e.timer) (hh : m.history = e.history)
    (hev : ev.isTimerBranch = false) :
    Paced ev e (m.handlerReturns issue result) :=
  .credited (by simp [handlerReturns, resetTimer, setInterval, ht]) rfl hm
    (by simp [handlerReturns, resetTimer, setInterval, hh]) hev

theorem deliver_paced {continuing : Bool} (hs : e.deliver h continuing = some e') :
    Paced (.deliver continuing) e e' := by
  cases deliver_cases hs with
  | submitted hm hout => exact .away rfl rfl rfl rfl
  | failed hm hout => exact afterFlush_paced _ (by rw [hm]; rfl)
  | lookedUp hm hout => exact .away rfl rfl rfl rfl
  | notFound hm hout => exact afterFlush_paced _ (by rw [hm]; rfl)
  | snapshotted hm hout => exact .away rfl rfl rfl rfl
  | checked hm hout => exact afterFlush_paced _ (by rw [hm]; rfl)

theorem timerBranch_paced {continuing : Bool} (hs : e.timerBranch h continuing = some e') :
    Paced (.timerBranch continuing) e e' := by
  cases timerBranch_cases hs with
  | idle hm hres hb =>
    obtain ⟨htimer, hinterval, hbatch, -, hselects⟩ := endIteration_timer (h := h)
      (e := (e.setInterval e.state.idleInterval).resetTimer) continuing
    exact .idle htimer hinterval (hbatch.trans hb) (fun t ht => (hselects t ht).trans htimer.symm)
      rfl
  | flushed hm hres hb => exact .away rfl rfl rfl rfl

theorem step_paced {ev : Event} (hs : e.step h ev = some e') (hev : ev.restarts = false) :
    Paced ev e e' := by
  cases ev with
  | heartbeat sig =>
    cases hs
    exact .still rfl rfl rfl rfl
  | register sig =>
    cases hs
    exact .still rfl rfl rfl rfl
  | update sig =>
    cases update_cases hs with
    | refused hm hvalid => exact .still rfl rfl rfl rfl
    | accepted hm hvalid => exact .still rfl rfl rfl rfl
  | receiveHeartbeat continuing =>
    cases receiveHeartbeat_cases hs with
    | skipped hm hch hseen => exact endIteration_paced continuing rfl rfl rfl
    | filled hm hch hseen hfull => exact .away rfl rfl rfl rfl
    | appended hm hch hseen hroom => exact endIteration_paced continuing rfl rfl rfl
  | receiveRegistration continuing =>
    obtain ⟨timer, sig, rest, hm, hch, rfl⟩ := receiveRegistration_cases hs
    exact endIteration_paced continuing rfl (registerCluster_interval _ sig) rfl
  | timerFires timer =>
    simp only [step] at hs
    split_ifs at hs
    cases hs
    exact .still rfl rfl rfl rfl
  | timerBranch continuing => exact timerBranch_paced hs
  | attempt reached reply =>
    cases attempt_cases hs with
    | batch hm hrun => exact .away rfl rfl rfl rfl
    | lookup hm hrun => exact .away rfl rfl rfl rfl
    | snapshot hm hrun => exact .away rfl rfl rfl rfl
    | limits hm hrun => exact .away rfl rfl rfl rfl
  | deliver continuing => exact deliver_paced hs
  | creditAttempt i reached reply =>
    obtain ⟨c, hi, hs⟩ := Option.bind_eq_some_iff.mp hs
    obtain ⟨run, hrun, rfl⟩ := Option.map_eq_some_iff.mp hs
    exact .still rfl rfl rfl rfl
  | creditDeliver i =>
    cases creditDeliver_cases hs with
    | abandoned hi hout hgone => exact .still rfl rfl rfl rfl
    | failed hi hout hown => exact handlerReturns_paced _ _ rfl rfl rfl rfl
    | confirmed hi hout hown => exact .still rfl rfl rfl rfl
  | refreshAttempt i reply =>
    obtain ⟨f, hi, hs⟩ := Option.bind_eq_some_iff.mp hs
    obtain ⟨phase, -, rfl⟩ := Option.map_eq_some_iff.mp hs
    exact .still rfl rfl rfl rfl
  | refreshDeliver i =>
    cases refreshDeliver_cases hs with
    | lookedUp hi hphase hout => exact .still rfl rfl rfl rfl
    | notFound hi hphase hout => exact handlerReturns_paced _ _ rfl rfl rfl rfl
    | snapshotted hi hphase hout => exact .still rfl rfl rfl rfl
    | reset hi hphase hout => exact handlerReturns_paced _ _ rfl rfl rfl rfl
  | continueAsNew => cases hev

end Execution

/-- An execution with the times that matter for its flushes. -/
structure Clocked where
  exec : Execution
  now : ℕ
  /-- When each timer of the execution is due. -/
  due : ℕ → ℕ
  /-- Since when the loop waits with heartbeats in its batch. -/
  since : ℕ
  /-- The credit handlers that returned since then. -/
  returned : ℕ := 0
  /-- The idle cycles since the last flush, credit or start. -/
  idle : ℕ := 0

inductive TimedEvent
  | tick (d : ℕ)
  | act (ev : Event)

namespace Clocked

variable (h : Blake3)

/-- The execution starts with a timer of the base interval. -/
def start (input : TenantAccountingInput) (now : ℕ) : Clocked where
  exec := .start input
  now := now
  due := fun _ => now + baseFlushInterval
  since := now

variable (c : Clocked)

/-- Time may pass up to the timer the loop waits for, and not once it has resolved. -/
def mayPass (d : ℕ) : Bool :=
  match c.exec.main with
  | .selecting t => t ∉ c.exec.resolved ∧ c.now + d ≤ c.due t
  | _ => true

/-- The event started a timer. -/
def startsTimer (ev : Event) (e : Execution) : Bool := ev.restarts || c.exec.timer < e.timer

/-- The clocks after an event of the execution. -/
def advance (ev : Event) (e : Execution) : Clocked where
  exec := e
  now := c.now
  due := if c.startsTimer ev e then
      Function.update c.due e.timer (c.now + e.state.currentFlushInterval) else c.due
  since := if c.exec.batchWaits && e.batchWaits then c.since else c.now
  returned := if c.exec.batchWaits && e.batchWaits then
      c.returned + (e.history.returned.length - c.exec.history.returned.length) else 0
  idle := if c.startsTimer ev e then (if ev.isTimerBranch then c.idle + 1 else 0) else c.idle

/-- A timer fires when it is due. -/
def mayAct : Event → Bool
  | .timerFires t => c.due t ≤ c.now
  | _ => true

def step : TimedEvent → Option Clocked
  | .tick d => if c.mayPass d then some { c with now := c.now + d } else none
  | .act ev => if c.mayAct ev then (c.exec.step h ev).map (c.advance ev) else none

/-- How long the loop waits at most with heartbeats in its batch. -/
def deadline : ℕ := c.since + maxFlushInterval + baseFlushInterval * c.returned

/-- The invariant of the clocked machine. -/
structure Timely : Prop where
  interval : c.exec.state.currentFlushInterval =
    min maxFlushInterval (baseFlushInterval * 2 ^ c.idle)
  newest : c.due c.exec.timer ≤ c.now + c.exec.state.currentFlushInterval
  selected : ∀ t, c.exec.main.timer? = some t →
    t ≤ c.exec.timer ∧ c.due t ≤ c.now + maxFlushInterval
  waited : c.exec.batchWaits = true → c.now ≤ c.deadline ∧ c.due c.exec.timer ≤ c.deadline ∧
    ∀ t, c.exec.main.timer? = some t → c.due t ≤ c.deadline

variable {h c} {c' : Clocked} {ev : Event} {e : Execution}

theorem start_timely (input : TenantAccountingInput) (now : ℕ) : (start input now).Timely where
  interval := by
    show baseFlushInterval = min maxFlushInterval (baseFlushInterval * 2 ^ 0)
    decide
  newest := le_rfl
  selected := by
    rintro t ht
    cases ht
    exact ⟨le_rfl, Nat.add_le_add_left (by decide) _⟩
  waited := fun hw => by cases hw

theorem Timely.interval_le (ht : c.Timely) : c.exec.state.currentFlushInterval ≤ maxFlushInterval := by
  rw [ht.interval]
  exact min_le_left _ _

theorem Timely.newest_le (ht : c.Timely) : c.due c.exec.timer ≤ c.now + maxFlushInterval :=
  ht.newest.trans (Nat.add_le_add_left ht.interval_le _)

theorem idleInterval_eq {s : TenantAccountingState} {n : ℕ}
    (hs : s.currentFlushInterval = min maxFlushInterval (baseFlushInterval * 2 ^ n)) :
    s.idleInterval = min maxFlushInterval (baseFlushInterval * 2 ^ (n + 1)) := by
  unfold TenantAccountingState.idleInterval
  rw [hs, pow_succ, ← Nat.mul_assoc]
  generalize baseFlushInterval * 2 ^ n = k
  split_ifs <;> omega

theorem Timely.tick {d : ℕ} (ht : c.Timely) (hd : c.mayPass d = true) :
    Timely { c with now := c.now + d } where
  interval := ht.interval
  newest := ht.newest.trans (Nat.add_le_add_right (Nat.le_add_right _ _) _)
  selected := fun t hm => ⟨(ht.selected t hm).1,
    (ht.selected t hm).2.trans (Nat.add_le_add_right (Nat.le_add_right _ _) _)⟩
  waited := by
    intro hw
    obtain ⟨-, hnewest, hselected⟩ := ht.waited hw
    refine ⟨?_, hnewest, hselected⟩
    obtain ⟨t, hm⟩ := Option.isSome_iff_exists.mp (Bool.and_eq_true_iff.mp hw).1
    have hmain : c.exec.main = .selecting t := Main.timer?_some hm
    simp only [mayPass, hmain, decide_eq_true_eq] at hd
    exact hd.2.trans (hselected t hm)

theorem advance_due_newest (hnew : c.startsTimer ev e = true) :
    (c.advance ev e).due e.timer = c.now + e.state.currentFlushInterval := by
  simp [advance, hnew]

theorem advance_due_older (hnew : c.startsTimer ev e = true) {t : ℕ} (hne : t ≠ e.timer) :
    (c.advance ev e).due t = c.due t := by
  simp [advance, hnew, hne]

theorem deadline_fresh (hw : (c.exec.batchWaits && e.batchWaits) = false) :
    (c.advance ev e).deadline = c.now + maxFlushInterval := by
  simp [deadline, advance, hw]

theorem Timely.kept (ht : c.Timely) (hev : ev.restarts = false) (timer : e.timer = c.exec.timer)
    (interval : e.state.currentFlushInterval = c.exec.state.currentFlushInterval)
    (returned : e.history.returned = c.exec.history.returned)
    (selects : ∀ t, e.main.timer? = some t → t = c.exec.timer ∨ c.exec.main.timer? = some t) :
    (c.advance ev e).Timely := by
  have hold : c.startsTimer ev e = false := by simp [startsTimer, hev, timer]
  have hdue : (c.advance ev e).due = c.due := by simp [advance, hold]
  refine ⟨?_, ?_, fun t hm => ?_, fun hw => ?_⟩
  · simpa [advance, hold, interval] using ht.interval
  · show (c.advance ev e).due e.timer ≤ c.now + e.state.currentFlushInterval
    rw [hdue, timer, interval]
    exact ht.newest
  · rw [hdue]
    rcases selects t hm with rfl | hm
    · exact ⟨timer.ge, ht.newest_le⟩
    · exact ⟨(ht.selected t hm).1.trans timer.ge, (ht.selected t hm).2⟩
  · rw [hdue]
    have hw : e.batchWaits = true := hw
    cases hbefore : c.exec.batchWaits with
    | false =>
      rw [deadline_fresh (by rw [hbefore]; rfl)]
      refine ⟨Nat.le_add_right _ _, timer ▸ ht.newest_le, fun t hm => ?_⟩
      rcases selects t hm with rfl | hm
      · exact ht.newest_le
      · exact (ht.selected t hm).2
    | true =>
      have hsame : (c.advance ev e).deadline = c.deadline := by
        simp [deadline, advance, hbefore, hw, returned]
      rw [hsame]
      obtain ⟨hnow, hnewest, hselected⟩ := ht.waited hbefore
      refine ⟨hnow, timer ▸ hnewest, fun t hm => ?_⟩
      rcases selects t hm with rfl | hm
      · exact hnewest
      · exact hselected t hm

/-- A loop that selects on a timer just started, and was not waiting before. -/
theorem Timely.started (hnew : c.startsTimer ev e = true)
    (hinterval : e.state.currentFlushInterval =
      min maxFlushInterval (baseFlushInterval * 2 ^ (c.advance ev e).idle))
    (selects : ∀ t, e.main.timer? = some t → t = e.timer)
    (hw : (c.exec.batchWaits && e.batchWaits) = false) : (c.advance ev e).Timely := by
  have hdue := advance_due_newest hnew
  have hle : (c.advance ev e).due e.timer ≤ c.now + maxFlushInterval := by
    rw [hdue, hinterval]
    exact Nat.add_le_add_left (min_le_left _ _) _
  refine ⟨hinterval, hdue.le, fun t hm => ?_, fun _ => ?_⟩
  · obtain rfl := selects t hm
    exact ⟨le_rfl, hle⟩
  · rw [deadline_fresh hw]
    refine ⟨Nat.le_add_right _ _, hle, fun t hm => ?_⟩
    obtain rfl := selects t hm
    exact hle

/-- A credit handler starts a timer beside the one the loop selects on. -/
theorem Timely.credited (ht : c.Timely) (timer : e.timer = c.exec.timer + 1)
    (interval : e.state.currentFlushInterval = baseFlushInterval) (main : e.main = c.exec.main)
    (returned : e.history.returned.length = c.exec.history.returned.length + 1)
    (branch : ev.isTimerBranch = false) : (c.advance ev e).Timely := by
  have hnew : c.startsTimer ev e = true := by simp [startsTimer, timer]
  have hdue := advance_due_newest hnew
  have hle : (c.advance ev e).due e.timer ≤ c.now + maxFlushInterval := by
    rw [hdue, interval]
    exact Nat.add_le_add_left (by decide) _
  have holder : ∀ t, e.main.timer? = some t →
      t ≤ c.exec.timer ∧ (c.advance ev e).due t = c.due t ∧ c.due t ≤ c.now + maxFlushInterval := by
    intro t hm
    obtain ⟨hknown, hdue⟩ := ht.selected t (by rw [← main]; exact hm)
    exact ⟨hknown, advance_due_older hnew (by omega), hdue⟩
  refine ⟨?_, hdue.le, fun t hm => ?_, fun hw => ?_⟩
  · have hidle : (c.advance ev e).idle = 0 := by simp [advance, hnew, branch]
    rw [hidle]
    show e.state.currentFlushInterval = _
    rw [interval]
    decide
  · obtain ⟨hknown, hsame, hdue⟩ := holder t hm
    exact ⟨by show t ≤ e.timer; omega, hsame ▸ hdue⟩
  · have hw : e.batchWaits = true := hw
    cases hbefore : c.exec.batchWaits with
    | false =>
      rw [deadline_fresh (by rw [hbefore]; rfl)]
      exact ⟨Nat.le_add_right _ _, hle, fun t hm => (holder t hm).2.1 ▸ (holder t hm).2.2⟩
    | true =>
      have hlater : (c.advance ev e).deadline = c.deadline + baseFlushInterval := by
        simp [deadline, advance, hbefore, hw, returned]
        ring
      rw [hlater]
      obtain ⟨hnow, -, hselected⟩ := ht.waited hbefore
      refine ⟨hnow.trans (Nat.le_add_right _ _), ?_, fun t hm => ?_⟩
      · show (c.advance ev e).due e.timer ≤ _
        rw [hdue, interval]
        omega
      · rw [(holder t hm).2.1]
        exact (hselected t (by rw [← main]; exact hm)).trans (Nat.le_add_right _ _)

theorem restarted_timely : (c.advance .continueAsNew c.exec.restarted).Timely := by
  refine Timely.started rfl ?_ (fun t hm => ?_) (Bool.and_false _)
  · show baseFlushInterval = min maxFlushInterval (baseFlushInterval * 2 ^ 0)
    decide
  · cases hm
    rfl

theorem advance_timely (ht : c.Timely) (hs : c.exec.step h ev = some e) :
    (c.advance ev e).Timely := by
  by_cases hev : ev.restarts = true
  · cases ev with
    | continueAsNew =>
      rw [(Execution.continueAsNew_some hs).2]
      exact restarted_timely
    | _ => cases hev
  · rw [Bool.not_eq_true] at hev
    cases Execution.step_paced hs hev with
    | kept timer interval returned selects => exact ht.kept hev timer interval returned selects
    | idle timer interval empty selects branch =>
      have hnew : c.startsTimer ev e = true := by simp [startsTimer, timer]
      refine .started hnew ?_ selects (by simp [Execution.batchWaits, empty])
      rw [interval, idleInterval_eq ht.interval]
      simp [advance, hnew, branch]
    | flushed timer interval away selects branch =>
      have hnew : c.startsTimer ev e = true := by simp [startsTimer, timer]
      refine .started hnew ?_ selects (by simp [Execution.batchWaits, away])
      have hidle : (c.advance ev e).idle = 0 := by simp [advance, hnew, branch]
      rw [interval, hidle]
      decide
    | credited timer interval main returned branch =>
      exact ht.credited timer interval main returned branch

theorem step_timely {ev : TimedEvent} (ht : c.Timely) (hs : c.step h ev = some c') :
    c'.Timely := by
  cases ev with
  | tick d =>
    simp only [step] at hs
    split_ifs at hs with hd
    cases hs
    exact ht.tick hd
  | act ev =>
    simp only [step] at hs
    split_ifs at hs
    obtain ⟨e, hstep, rfl⟩ := Option.map_eq_some_iff.mp hs
    exact advance_timely ht hstep

theorem run_timely {input : TenantAccountingInput} {now : ℕ} {es : List TimedEvent}
    (hr : runSteps (step h) (start input now) es = some c) : c.Timely :=
  invariant_of_steps (step h) (fun _ _ _ ht hs => step_timely ht hs) (start_timely input now) hr

/-- Each idle cycle in a row doubles the interval, from two seconds up to one minute; a flush,
a finished credit and a new execution bring it back to two seconds. The newest timer is due
within it. -/
theorem idle_cycles_double_interval (input : TenantAccountingInput) (now : ℕ)
    (es : List TimedEvent) (hr : runSteps (step h) (start input now) es = some c) :
    c.exec.state.currentFlushInterval = min maxFlushInterval (baseFlushInterval * 2 ^ c.idle) ∧
      c.due c.exec.timer ≤ c.now + c.exec.state.currentFlushInterval :=
  ⟨(run_timely hr).interval, (run_timely hr).newest⟩

/-- Idle cycles of two, four and eight seconds. -/
def threeIdleCycles : List TimedEvent :=
  [.tick (2 * 10 ^ 9), .act (.timerFires 0), .act (.timerBranch false),
    .tick (4 * 10 ^ 9), .act (.timerFires 1), .act (.timerBranch false),
    .tick (8 * 10 ^ 9), .act (.timerFires 2), .act (.timerBranch false)]

theorem threeIdleCycles_sixteen_seconds :
    ∃ c, runSteps (step .positional) (start sampleInput 0) threeIdleCycles = some c ∧
      c.idle = 3 ∧ c.exec.state.currentFlushInterval = 16 * 10 ^ 9 := by
  obtain ⟨c, hr, hc⟩ := runSteps_any (step .positional) (start sampleInput 0) threeIdleCycles
    (fun c => c.idle = 3) (by decide +kernel)
  have hidle : c.idle = 3 := by simpa using hc
  refine ⟨c, hr, hidle, ?_⟩
  rw [(idle_cycles_double_interval sampleInput 0 threeIdleCycles hr).1, hidle]
  decide

theorem step_timerFires {t : ℕ} (hdue : c.due t ≤ c.now) (hknown : t ≤ c.exec.timer) :
    step h c (.act (.timerFires t)) =
      some (c.advance (.timerFires t) { c.exec with resolved := t :: c.exec.resolved }) := by
  simp [step, mayAct, hdue, Execution.step, hknown]

/-- The timer the loop selects on has resolved, or does so within the longest interval. -/
theorem Timely.wakes (h : Blake3) (ht : c.Timely) {t : ℕ} (hm : c.exec.main = .selecting t) :
    ∃ es c', runSteps (step h) c es = some c' ∧ c'.now ≤ c.now + maxFlushInterval ∧
      c'.exec.main = .selecting t ∧ t ∈ c'.exec.resolved ∧ c'.exec.state = c.exec.state := by
  obtain ⟨hknown, hdue⟩ := ht.selected t (Execution.timer?_of_selecting hm)
  by_cases hres : t ∈ c.exec.resolved
  · exact ⟨[], c, rfl, Nat.le_add_right _ _, hm, hres, rfl⟩
  by_cases hpast : c.due t ≤ c.now
  · exact ⟨_, _, (runSteps_concat (step h) (runSteps_nil _ c)).mpr (step_timerFires hpast hknown),
      Nat.le_add_right _ _, hm, List.mem_cons_self, rfl⟩
  · have hlater : c.now + (c.due t - c.now) = c.due t := by omega
    have htick : step h c (.tick (c.due t - c.now)) = some { c with now := c.due t } := by
      simp only [step, mayPass, hm, hres, hlater, not_false_eq_true, le_refl, and_self,
        decide_true, if_true]
    have hfires := step_timerFires (h := h) (c := { c with now := c.due t }) le_rfl hknown
    have hpassed := (runSteps_concat (step h) (runSteps_nil _ c)).mpr htick
    exact ⟨_, _, (runSteps_concat (step h) hpassed).mpr hfires, hdue, hm, List.mem_cons_self, rfl⟩

/-- Heartbeats in the batch wait for a flush no longer than one minute, and two seconds more
for each credit handler that returns meanwhile. Nothing can keep the loop asleep: from every
state in which it waits with heartbeats, its timer resolves within a minute and the batch is
handed to the ledger as it is. -/
theorem heartbeats_wait_boundedly (input : TenantAccountingInput) (now : ℕ)
    (es : List TimedEvent) (hr : runSteps (step h) (start input now) es = some c)
    (hw : c.exec.batchWaits = true) :
    c.now ≤ c.since + maxFlushInterval + baseFlushInterval * c.returned ∧
      ∃ fs c' flight, runSteps (step h) c fs = some c' ∧ c'.now ≤ c.now + maxFlushInterval ∧
        c'.exec.main = .submitting .timer flight ∧
        flight.input.heartbeats = c.exec.state.curBatch := by
  have ht := run_timely hr
  refine ⟨(ht.waited hw).1, ?_⟩
  obtain ⟨hsome, hbatch⟩ := Bool.and_eq_true_iff.mp hw
  obtain ⟨t, hm⟩ := Option.isSome_iff_exists.mp hsome
  obtain ⟨fs, c', hrun, hnow, hmain, hres, hstate⟩ := ht.wakes h (Main.timer?_some hm)
  have hne : c'.exec.state.curBatch ≠ [] := by
    rw [hstate]
    simpa using hbatch
  have hflush : step h c' (.act (.timerBranch false)) =
      some (c'.advance (.timerBranch false) (c'.exec.beginFlush h .timer)) := by
    simp [step, mayAct, Execution.step, Execution.timerBranch, hmain, hres, hne]
  exact ⟨_, _, _, (runSteps_concat (step h) hrun).mpr hflush, hnow, rfl,
    congrArg (·.curBatch) hstate⟩

/-- A heartbeat arrives after three idle cycles and waits for fifteen seconds. -/
def lateHeartbeat : List TimedEvent :=
  threeIdleCycles ++ [.act (.heartbeat (sampleHeartbeat 1)), .act (.receiveHeartbeat false),
    .tick (15 * 10 ^ 9)]

theorem lateHeartbeat_waits :
    ∃ c, runSteps (step .positional) (start sampleInput 0) lateHeartbeat = some c ∧
      c.exec.batchWaits = true ∧ c.now = 29 * 10 ^ 9 ∧ c.since = 14 * 10 ^ 9 ∧
      c.now ≤ c.since + maxFlushInterval + baseFlushInterval * c.returned := by
  obtain ⟨c, hr, hc⟩ := runSteps_any (step .positional) (start sampleInput 0) lateHeartbeat
    (fun c => c.exec.batchWaits = true ∧ c.now = 29 * 10 ^ 9 ∧ c.since = 14 * 10 ^ 9)
    (by decide +kernel)
  obtain ⟨hw, hnow, hsince⟩ := of_decide_eq_true hc
  exact ⟨c, hr, hw, hnow, hsince,
    (heartbeats_wait_boundedly sampleInput 0 lateHeartbeat hr hw).1⟩

end Clocked
end CloudCredit.Accounting
