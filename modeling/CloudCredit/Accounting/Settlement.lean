import CloudCredit.Accounting.Continuation
import CloudCredit.Accounting.Heartbeats
import CloudCredit.Accounting.Quiescence
import CloudCredit.Accounting.Timers

/-!
# Waiting heartbeats are settled

While the ledger takes the batches it is handed and nothing new arrives, the main loop
can only go on for a bounded number of steps: each received heartbeat causes at most one
more flush, and a flush has a bounded number of attempts and deliveries. The database,
the timers and the credit handlers cannot take the loop back. As long as a heartbeat
waits the loop can go on, at the latest when its timer fires.
-/
namespace CloudCredit.Accounting

open Library TigerBeetle Domain Ledger

/-- No heartbeat arrives, no batch is refused, and no continuation is suggested. -/
def Event.calm : Event → Bool
  | .heartbeat _ | .continueAsNew | .attempt _ (.batch (.error _)) => false
  | .receiveHeartbeat continuing | .receiveRegistration continuing | .timerBranch continuing
  | .deliver continuing => !continuing
  | _ => true

/-- The event is one of the timers or of the handlers of updates and registrations. -/
def Event.bystander : Event → Bool
  | .register _ | .update _ | .timerFires _ | .creditAttempt _ _ _ | .creditDeliver _
  | .refreshAttempt _ _ | .refreshDeliver _ => true
  | _ => false

/-- What a flush can take: one step to begin it, and the work of the main loop. -/
def flushCost : ℕ := 8 * activityEvents + 1

theorem Event.calm_of_servesMain {ev : Event} (hev : ev.servesMain = true) : ev.calm = true := by
  cases ev with
  | attempt reached reply =>
    cases reply with
    | batch r => cases r with
      | error err => cases hev
      | ok result => rfl
    | _ => rfl
  | deliver continuing => simpa [servesMain, calm] using hev
  | _ => cases hev

namespace Execution

variable {h : Blake3} {ev : Event} {e e' : Execution}

/-- The batch the loop holds is still to be flushed, for the first time or again. -/
def owesFlush (e : Execution) : Bool :=
  match e.main.flight with
  | some f => f.run.outcome.any (!·.toBool)
  | none => e.state.curBatch ≠ []

/-- The cost of the flush that is owed. -/
def owed (e : Execution) : ℕ := if e.owesFlush then flushCost else 0

/-- The steps that may be left to the loop until every waiting heartbeat is settled. -/
def toSettle (e : Execution) : ℕ := e.main.work + e.owed + (flushCost + 1) * e.hbCh.length

/-- The event, if it takes the loop on: a heartbeat is received, a batch flushed, or an
activity attempted or delivered. Registrations and idle cycles are not counted. -/
def advances (e : Execution) (ev : Event) : Option Event :=
  match ev with
  | .receiveHeartbeat _ | .attempt _ _ | .deliver _ => some ev
  | .timerBranch _ => if e.state.curBatch = [] then none else some ev
  | _ => none

theorem owed_le (e : Execution) : e.owed ≤ flushCost := by
  unfold owed
  split_ifs <;> simp

theorem owed_of_idle (hidle : e.main.flight = none) (hidle' : e'.main.flight = none)
    (hbatch : e'.state.curBatch = e.state.curBatch) : e'.owed ≤ e.owed := by
  unfold owed owesFlush
  rw [hidle, hidle', hbatch]

theorem toSettle_of_same (hmain : e'.main = e.main) (hch : e'.hbCh = e.hbCh)
    (hbatch : e'.state.curBatch = e.state.curBatch) : e'.toSettle = e.toSettle := by
  unfold toSettle owed owesFlush
  rw [hmain, hch, hbatch]

theorem toSettle_le (e : Execution) : e.toSettle ≤ 97 + 50 * e.hbCh.length := by
  have hwork : e.main.work ≤ 48 := Main.work_le e.main
  have howed : e.owed ≤ 49 := owed_le e
  have hcost : (flushCost + 1) * e.hbCh.length = 50 * e.hbCh.length := rfl
  unfold toSettle
  omega

theorem toSettle_selecting {timer : ℕ} (hm : e.main = .selecting timer) :
    e.toSettle = (if e.state.curBatch = [] then 0 else flushCost) +
      (flushCost + 1) * e.hbCh.length := by
  unfold toSettle owed owesFlush
  rw [hm]
  by_cases hb : e.state.curBatch = [] <;> simp [Main.work, Main.flight, hb]

theorem toSettle_endIteration (e : Execution) :
    (e.endIteration h false).toSettle = (if e.state.curBatch = [] then 0 else flushCost) +
      (flushCost + 1) * e.hbCh.length :=
  toSettle_selecting (e := e.endIteration h false) rfl

theorem toSettle_beginFlush (e : Execution) (site : FlushSite) :
    (e.beginFlush h site).toSettle < flushCost + (flushCost + 1) * e.hbCh.length := by
  have hwork := Main.work_le (e.beginFlush h site).main
  have howed : (e.beginFlush h site).owed = 0 := rfl
  have hch : (e.beginFlush h site).hbCh = e.hbCh := rfl
  unfold toSettle
  rw [howed, hch]
  unfold flushCost
  omega

theorem receiveHeartbeat_settles (hs : e.receiveHeartbeat h false = some e') :
    e'.toSettle + 1 ≤ e.toSettle := by
  cases receiveHeartbeat_cases hs with
  | @skipped timer sig rest hm hch hseen =>
    rw [toSettle_endIteration, toSettle_selecting hm, hch, List.length_cons, Nat.mul_succ]
    dsimp only
    omega
  | @filled timer sig rest hm hch hseen hfull =>
    have hbegin := toSettle_beginFlush (h := h)
      (cancelTimer { e with hbCh := rest, state := e.state.appendHeartbeat sig }) .threshold
    rw [toSettle_selecting hm, hch, List.length_cons, Nat.mul_succ]
    dsimp only [cancelTimer] at hbegin ⊢
    omega
  | @appended timer sig rest hm hch hseen hroom =>
    -- what the signal cost in the channel pays for the flush of the batch it is now in
    rw [toSettle_endIteration, toSettle_selecting hm, hch, List.length_cons, Nat.mul_succ]
    have hcost : (if (e.state.appendHeartbeat sig).curBatch = [] then 0 else flushCost) ≤
        flushCost := by
      split_ifs <;> simp
    dsimp only
    omega

theorem timerBranch_settles (hs : e.timerBranch h false = some e') :
    e'.toSettle + (e.advances (.timerBranch false)).toList.length ≤ e.toSettle := by
  cases timerBranch_cases hs with
  | idle hm hres hb =>
    rw [toSettle_endIteration, toSettle_selecting hm]
    simp [advances, hb, setInterval, resetTimer]
  | flushed hm hres hb =>
    have hbegin := toSettle_beginFlush (h := h) e .timer
    rw [toSettle_selecting hm, if_neg hb]
    simp only [advances, if_neg hb, Option.toList_some, List.length_singleton]
    omega

theorem main_work_lt (hlt : e'.work < e.work) (hcredits : e'.credits = e.credits)
    (hrefreshing : e'.refreshing = e.refreshing) : e'.main.work < e.main.work := by
  unfold work at hlt
  rw [hcredits, hrefreshing] at hlt
  omega

theorem toSettle_of_work (hlt : e'.main.work < e.main.work) (hch : e'.hbCh = e.hbCh)
    (howed : e'.owed ≤ e.owed) : e'.toSettle + 1 ≤ e.toSettle := by
  unfold toSettle
  rw [hch]
  omega

theorem attempt_settles {reached : Bool} {reply : Reply}
    (hcalm : (Event.attempt reached reply).calm = true) (hs : e.attempt reached reply = some e') :
    e'.toSettle + 1 ≤ e.toSettle := by
  have hlt := attempt_work hs
  cases attempt_cases hs with
  | @batch site flight r run hm hrun =>
    refine toSettle_of_work (main_work_lt hlt rfl rfl) rfl ?_
    cases r with
    | error err => cases hcalm
    | ok R =>
      obtain ⟨-, rfl⟩ := ActivityRun.attempt_some hrun
      exact Nat.zero_le _
  | lookup hm hrun | snapshot hm hrun | limits hm hrun =>
    have hidle : e.main.flight = none := by rw [hm]; rfl
    exact toSettle_of_work (main_work_lt hlt rfl rfl) rfl (owed_of_idle hidle rfl rfl)

theorem afterFlush_keeps (site : FlushSite) :
    (e.afterFlush h site false).hbCh = e.hbCh ∧
      (e.afterFlush h site false).state.curBatch = e.state.curBatch ∧
      (e.afterFlush h site false).main.flight = none := by
  cases site <;> exact ⟨rfl, rfl, rfl⟩

theorem afterFlush_owed (site : FlushSite) (hidle : e.main.flight = none) :
    (e.afterFlush h site false).owed ≤ e.owed := by
  obtain ⟨-, hbatch, hidle'⟩ := afterFlush_keeps (h := h) (e := e) site
  exact owed_of_idle hidle hidle' hbatch

theorem afterFlush_settles {site : FlushSite} (hlt : (e.afterFlush h site false).work < e.work)
    (howed : (e.afterFlush h site false).owed ≤ e.owed) :
    (e.afterFlush h site false).toSettle + 1 ≤ e.toSettle := by
  obtain ⟨-, hcredits, hrefreshing⟩ := afterFlush_work (h := h) (e := e) site false
  exact toSettle_of_work (main_work_lt hlt hcredits hrefreshing) (afterFlush_keeps site).1 howed

theorem deliver_settles (hs : e.deliver h false = some e') : e'.toSettle + 1 ≤ e.toSettle := by
  have hlt := deliver_work hs
  cases deliver_cases hs with
  | submitted hm hout => exact toSettle_of_work (main_work_lt hlt rfl rfl) rfl (Nat.zero_le _)
  | failed hm hout =>
    -- the batch stays, but with this outcome its next flush was owed before
    refine afterFlush_settles hlt ((owed_le _).trans ?_)
    simp [owed, owesFlush, hm, Main.flight, hout, Except.toBool]
  | lookedUp hm hout | snapshotted hm hout =>
    have hidle : e.main.flight = none := by rw [hm]; rfl
    exact toSettle_of_work (main_work_lt hlt rfl rfl) rfl (owed_of_idle hidle rfl rfl)
  | notFound hm hout | checked hm hout =>
    have hidle : e.main.flight = none := by rw [hm]; rfl
    exact afterFlush_settles hlt (afterFlush_owed _ hidle)

theorem bystander_keeps (hev : ev.bystander = true) (hs : e.step h ev = some e') :
    e'.main = e.main ∧ e'.hbCh = e.hbCh ∧ e'.state.curBatch = e.state.curBatch := by
  cases ev with
  | register sig =>
    cases hs
    exact ⟨rfl, rfl, rfl⟩
  | update sig =>
    cases update_cases hs with
    | refused | accepted => exact ⟨rfl, rfl, rfl⟩
  | timerFires timer =>
    simp only [step] at hs
    split_ifs at hs
    cases hs
    exact ⟨rfl, rfl, rfl⟩
  | creditAttempt i reached reply =>
    obtain ⟨c, -, hs⟩ := Option.bind_eq_some_iff.mp hs
    obtain ⟨run, -, rfl⟩ := Option.map_eq_some_iff.mp hs
    exact ⟨rfl, rfl, rfl⟩
  | creditDeliver i =>
    cases creditDeliver_cases hs with
    | abandoned | failed | confirmed => exact ⟨rfl, rfl, rfl⟩
  | refreshAttempt i reply =>
    obtain ⟨f, -, hs⟩ := Option.bind_eq_some_iff.mp hs
    obtain ⟨phase, -, rfl⟩ := Option.map_eq_some_iff.mp hs
    exact ⟨rfl, rfl, rfl⟩
  | refreshDeliver i =>
    cases refreshDeliver_cases hs with
    | lookedUp | notFound | snapshotted | reset => exact ⟨rfl, rfl, rfl⟩
  | _ => cases hev

/-- No calm step adds to what is left, and those of the loop take from it. -/
theorem step_settles (hcalm : ev.calm = true) (hs : e.step h ev = some e') :
    e'.toSettle + (e.advances ev).toList.length ≤ e.toSettle := by
  cases ev with
  | receiveHeartbeat continuing =>
    cases continuing with
    | true => cases hcalm
    | false => exact receiveHeartbeat_settles hs
  | receiveRegistration continuing =>
    cases continuing with
    | true => cases hcalm
    | false =>
      obtain ⟨timer, sig, rest, hm, hch, rfl⟩ := receiveRegistration_cases hs
      rw [toSettle_endIteration, toSettle_selecting hm]
      dsimp only
      rw [TenantAccountingState.registerCluster_curBatch]
      exact le_rfl
  | timerBranch continuing =>
    cases continuing with
    | true => cases hcalm
    | false => exact timerBranch_settles hs
  | attempt reached reply => exact attempt_settles hcalm hs
  | deliver continuing =>
    cases continuing with
    | true => cases hcalm
    | false => exact deliver_settles hs
  | heartbeat sig => cases hcalm
  | continueAsNew => cases hcalm
  | _ =>
    obtain ⟨hmain, hch, hbatch⟩ := bystander_keeps rfl hs
    exact (toSettle_of_same hmain hch hbatch).le

theorem afterFlush_stays {site : FlushSite} (hsite : site ≠ .continueAsNew) :
    (e.afterFlush h site false).leaving = false := by
  cases site with
  | threshold => rfl
  | timer => rfl
  | continueAsNew => exact absurd rfl hsite

theorem deliver_stays (hs : e.deliver h false = some e') (hstays : e.leaving = false) :
    e'.leaving = false := by
  unfold leaving at hstays
  cases deliver_cases hs with
  | submitted hm hout | lookedUp hm hout | snapshotted hm hout =>
    rw [hm] at hstays
    exact hstays
  | failed hm hout | notFound hm hout | checked hm hout =>
    rw [hm] at hstays
    apply afterFlush_stays
    simpa using hstays

theorem step_stays (hcalm : ev.calm = true) (hs : e.step h ev = some e')
    (hstays : e.leaving = false) : e'.leaving = false := by
  cases ev with
  | receiveHeartbeat continuing =>
    cases continuing with
    | true => cases hcalm
    | false =>
      cases receiveHeartbeat_cases hs with
      | skipped | filled | appended => rfl
  | receiveRegistration continuing =>
    cases continuing with
    | true => cases hcalm
    | false =>
      obtain ⟨timer, sig, rest, hm, hch, rfl⟩ := receiveRegistration_cases hs
      rfl
  | timerBranch continuing =>
    cases continuing with
    | true => cases hcalm
    | false =>
      cases timerBranch_cases hs with
      | idle | flushed => rfl
  | attempt reached reply =>
    unfold leaving at hstays ⊢
    cases attempt_cases hs with
    | batch hm hrun | lookup hm hrun | snapshot hm hrun | limits hm hrun =>
      rw [hm] at hstays
      exact hstays
  | deliver continuing =>
    cases continuing with
    | true => cases hcalm
    | false => exact deliver_stays hs hstays
  | heartbeat sig => cases hcalm
  | continueAsNew => cases hcalm
  | _ =>
    obtain ⟨hmain, -, -⟩ := bystander_keeps rfl hs
    unfold leaving at hstays ⊢
    rw [hmain]
    exact hstays

/-- A calm event is possible that takes the loop on. -/
def CanAdvance (h : Blake3) (e : Execution) : Prop :=
  ∃ ev e', ev.calm = true ∧ (e.advances ev).isSome = true ∧ e.step h ev = some e'

theorem canAdvance_of_busy (hm : ∀ timer, e.main ≠ .selecting timer) (hc : e.main ≠ .continuing) :
    e.CanAdvance h := by
  obtain ⟨ev, e', hev, hs⟩ := main_enabled (h := h) hm hc
  cases ev with
  | attempt reached reply => exact ⟨.attempt reached reply, e', Event.calm_of_servesMain hev, rfl, hs⟩
  | deliver continuing => exact ⟨.deliver continuing, e', Event.calm_of_servesMain hev, rfl, hs⟩
  | _ => cases hev

theorem canAdvance_of_signal {timer : ℕ} (hm : e.main = .selecting timer) (hch : e.hbCh ≠ []) :
    e.CanAdvance h := by
  obtain ⟨sig, rest, hch⟩ := List.exists_cons_of_ne_nil hch
  obtain ⟨e', hs⟩ : ∃ e', e.receiveHeartbeat h false = some e' := by
    simp only [receiveHeartbeat, hm, hch]
    split_ifs <;> exact ⟨_, rfl⟩
  exact ⟨.receiveHeartbeat false, e', rfl, rfl, hs⟩

theorem canAdvance_of_resolved {timer : ℕ} (hm : e.main = .selecting timer)
    (hres : timer ∈ e.resolved) (hb : e.state.curBatch ≠ []) : e.CanAdvance h :=
  ⟨.timerBranch false, e.beginFlush h .timer, rfl, by simp [advances, hb],
    by simp [step, timerBranch, hm, hres, hb]⟩

/-- The loop selects on a timer that was started. -/
def KnowsTimer (e : Execution) : Prop := ∀ t, e.main.timer? = some t → t ≤ e.timer

theorem step_knowsTimer (hknown : e.KnowsTimer) (hs : e.step h ev = some e') : e'.KnowsTimer := by
  intro t ht
  by_cases hev : ev.restarts = true
  · cases ev with
    | continueAsNew =>
      rw [(continueAsNew_some hs).2] at ht ⊢
      cases ht
      exact Nat.zero_le _
    | _ => cases hev
  · rw [Bool.not_eq_true] at hev
    cases step_paced hs hev with
    | kept timer interval returned selects =>
      rw [timer]
      rcases selects t ht with rfl | hold
      · exact le_rfl
      · exact hknown t hold
    | idle timer interval empty selects branch => exact (selects t ht).le
    | flushed timer interval away selects branch => exact (selects t ht).le
    | credited timer interval main returned branch =>
      rw [main] at ht
      rw [timer]
      exact (hknown t ht).trans (Nat.le_add_right _ _)

/-- A heartbeat waits, in the channel or in the batch. -/
def Waits (e : Execution) : Prop := e.hbCh ≠ [] ∨ e.state.curBatch ≠ []

theorem Waits.canAdvance (hwaits : e.Waits) (hstays : e.leaving = false) (hknown : e.KnowsTimer) :
    e.CanAdvance h ∨
      ∃ timer e', e.step h (.timerFires timer) = some e' ∧ e'.CanAdvance h := by
  have hc : e.main ≠ .continuing := by
    intro hc
    rw [leaving, hc] at hstays
    cases hstays
  by_cases hm : ∃ timer, e.main = .selecting timer
  · obtain ⟨timer, hm⟩ := hm
    rcases hwaits with hch | hb
    · exact .inl (canAdvance_of_signal hm hch)
    · have hle := hknown timer (timer?_of_selecting hm)
      exact .inr ⟨timer, { e with resolved := timer :: e.resolved }, by simp [step, hle],
        canAdvance_of_resolved hm List.mem_cons_self hb⟩
  · exact .inl (canAdvance_of_busy (not_exists.mp hm) hc)

theorem run_settles {es : List Event} (hcalm : ∀ ev ∈ es, ev.calm = true)
    (hr : runSteps (step h) e es = some e') :
    (outputs (step h) advances e es).length + e'.toSettle ≤ e.toSettle := by
  have hstart : ([] : List Event).length + e.toSettle ≤ e.toSettle := by simp
  refine invariant_outputs (step h) advances (C := fun _ ev => ev.calm = true)
    (P := fun xs m => xs.length + m.toSettle ≤ e.toSettle) ?_ hstart
    (along_of_forall (step h) hcalm) hr
  intro xs s ev t hpaid hev hs
  have hstep := step_settles hev hs
  simp only [List.length_append]
  omega

theorem run_stays {es : List Event} (hcalm : ∀ ev ∈ es, ev.calm = true)
    (hr : runSteps (step h) e es = some e') (hstays : e.leaving = false) : e'.leaving = false :=
  invariant_along (step h) (P := fun e => e.leaving = false)
    (fun _ _ _ hp hev hs => step_stays hev hs hp) hstays (along_of_forall (step h) hcalm) hr

/-- No heartbeat is lost meanwhile. -/
theorem run_keeps_lost {es : List Event} (hcalm : ∀ ev ∈ es, ev.calm = true)
    (hr : runSteps (step h) e es = some e') : e'.history.lost = e.history.lost := by
  refine invariant_along (step h) (P := fun m => m.history.lost = e.history.lost)
    (C := fun _ ev => ev.calm = true) ?_ rfl (along_of_forall (step h) hcalm) hr
  intro s ev t hsame hev hs
  refine (step_keeps_lost hs ?_).trans hsame
  rintro rfl
  cases hev

/-- Take a workflow that is not on its way to a continuation. While no heartbeat arrives, the
ledger takes its batches and no continuation is suggested, its loop goes on at most 97 times
and 50 for each heartbeat in the channel, whatever timers, handlers and the database do. While
a heartbeat waits the loop can go on, at the latest when its timer has fired. When none waits,
each one ever delivered was skipped, submitted, or lost before. -/
theorem waiting_heartbeats_settle (input : TenantAccountingInput) (es₀ es : List Event)
    (hr₀ : runSteps (step h) (start input) es₀ = some e) (hstays : e.leaving = false)
    (hcalm : ∀ ev ∈ es, ev.calm = true) (hr : runSteps (step h) e es = some e') :
    (outputs (step h) advances e es).length ≤ 97 + 50 * e.hbCh.length ∧
      (e'.Waits → e'.CanAdvance h ∨
        ∃ timer e₁, e'.step h (.timerFires timer) = some e₁ ∧ e₁.CanAdvance h) ∧
      (¬e'.Waits → ∀ hb, e'.history.delivered.count hb = e'.history.dropped.count hb +
        e'.history.succeeded.count hb + e.history.lost.count hb) := by
  have hrun : runSteps (step h) (start input) (es₀ ++ es) = some e' :=
    (runSteps_append (step h)).mpr ⟨e, hr₀, hr⟩
  have hknown : e'.KnowsTimer :=
    invariant_of_steps (step h) (fun _ _ _ hp hs => step_knowsTimer hp hs)
      (fun t ht => by cases ht; exact le_rfl) hrun
  refine ⟨?_, fun hwaits => hwaits.canAdvance (run_stays hcalm hr hstays) hknown, ?_⟩
  · have hpaid := run_settles hcalm hr
    have hbound := toSettle_le e
    omega
  · intro hnone hb
    obtain ⟨hch, hbatch⟩ := not_or.mp hnone
    have hbalanced := run_balanced hrun hb
    rw [accounted, not_not.mp hch, not_not.mp hbatch, run_keeps_lost hcalm hr] at hbalanced
    simpa using hbalanced

/-- The loop receives two heartbeats and flushes them when its timer fires. -/
def calmFlush : List Event :=
  [.receiveHeartbeat false, .receiveHeartbeat false, .timerFires 0, .timerBranch false,
    .attempt true (.batch (.ok {})), .deliver false, .attempt false (.balances (.error .timeout))]

theorem calmFlush_settles : ∃ e e',
    runSteps (step .positional) (start sampleInput)
        [.heartbeat (sampleHeartbeat 1), .heartbeat (sampleHeartbeat 2)] = some e ∧
      runSteps (step .positional) e calmFlush = some e' ∧
      (outputs (step .positional) advances e calmFlush).length ≤ 197 ∧
      ∀ hb, e'.history.delivered.count hb = e'.history.dropped.count hb +
        e'.history.succeeded.count hb + e.history.lost.count hb := by
  obtain ⟨e, hr, hany⟩ := runSteps_any (step .positional) (start sampleInput)
    [.heartbeat (sampleHeartbeat 1), .heartbeat (sampleHeartbeat 2)]
    (fun e => !e.leaving && e.hbCh.length = 2 &&
      (runSteps (step .positional) e calmFlush).any fun e' =>
        e'.hbCh.isEmpty && e'.state.curBatch.isEmpty) (by decide +kernel)
  simp only [Bool.and_eq_true, Bool.not_eq_true', decide_eq_true_eq] at hany
  obtain ⟨e', hr', hrest⟩ := runSteps_any (step .positional) e calmFlush _ hany.2
  simp only [Bool.and_eq_true, List.isEmpty_iff] at hrest
  obtain ⟨hbound, -, hsettled⟩ := waiting_heartbeats_settle sampleInput _ calmFlush hr hany.1.1
    (by decide) hr'
  rw [hany.1.2] at hbound
  exact ⟨e, e', hr, hr', hbound, hsettled (by simp [Waits, hrest])⟩

end Execution
end CloudCredit.Accounting
