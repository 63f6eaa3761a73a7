import CloudCredit.Accounting.Writers

/-!
# Continuing as new while a handler runs

The main loop returns its Continue-As-New error without looking at the update
handlers, and the flush before it is a time in which updates are accepted. A
handler that is running then is abandoned. None is, if the continuation is only
suggested while no handler runs and no update is accepted during the last flush.
-/
namespace CloudCredit.Accounting.Execution

open Library TigerBeetle Domain Ledger

variable {h : Blake3} {e e' : Execution}

/-- The updates that were accepted and whose handler has not returned. -/
def handlers (e : Execution) : List Issue :=
  (e.credits.filter (!·.abandoned)).map (·.issue) ++ e.refreshing.map (·.issue)

/-- The main loop is on its way out: in the flush before the continuation, or
returning its error. -/
def leaving (e : Execution) : Bool :=
  match e.main with
  | .selecting _ => false
  | .submitting site _ | .lookingUp site _ | .snapshotting site _ _ | .checkingLimits site _ _ =>
    site = .continueAsNew
  | .continuing => true

/-- The continuation is suggested only while no handler runs, and an update is
accepted only while the main loop is not on its way out. -/
def Quiesces (e : Execution) : Event → Prop
  | .receiveHeartbeat continuing | .receiveRegistration continuing | .timerBranch continuing
  | .deliver continuing => continuing = true → e.handlers = []
  | .update sig => e.state.validateAdjustment sig ≠ none → e.leaving = false
  | _ => True

/-- No handler runs while the main loop is on its way out. -/
def HandlersDone (e : Execution) : Prop := e.leaving = true → e.handlers = []

theorem endIteration_handlersDone {continuing : Bool} (hq : continuing = true → e.handlers = []) :
    (e.endIteration h continuing).HandlersDone := by
  intro hl
  unfold endIteration at hl ⊢
  split_ifs at hl ⊢ with hc hb
  · exact hq hc
  · exact hq hc
  · cases hl

theorem afterFlush_handlersDone {site : FlushSite} {continuing : Bool}
    (hq : continuing = true → e.handlers = []) (hsite : site = .continueAsNew → e.handlers = []) :
    (e.afterFlush h site continuing).HandlersDone := by
  cases site with
  | threshold => exact endIteration_handlersDone (e := (e.setInterval _).resetTimer) hq
  | timer => exact endIteration_handlersDone (e := (e.setInterval _).resetTimer) hq
  | continueAsNew => exact fun _ => hsite rfl

theorem receiveHeartbeat_handlersDone {continuing : Bool} (hq : Quiesces e (.receiveHeartbeat continuing))
    (hs : e.receiveHeartbeat h continuing = some e') : e'.HandlersDone := by
  cases receiveHeartbeat_cases hs with
  | skipped hm hch hseen => exact endIteration_handlersDone hq
  | filled hm hch hseen hfull => exact fun hl => by cases hl
  | appended hm hch hseen hroom => exact endIteration_handlersDone hq

theorem receiveRegistration_handlersDone {continuing : Bool}
    (hq : Quiesces e (.receiveRegistration continuing))
    (hs : e.receiveRegistration h continuing = some e') : e'.HandlersDone := by
  obtain ⟨timer, sig, rest, hm, hch, rfl⟩ := receiveRegistration_cases hs
  exact endIteration_handlersDone hq

theorem timerBranch_handlersDone {continuing : Bool} (hq : Quiesces e (.timerBranch continuing))
    (hs : e.timerBranch h continuing = some e') : e'.HandlersDone := by
  cases timerBranch_cases hs with
  | idle hm hres hb => exact endIteration_handlersDone (e := (e.setInterval _).resetTimer) hq
  | flushed hm hres hb => exact fun hl => by cases hl

theorem attempt_handlersDone {reached : Bool} {reply : Reply} (hd : e.HandlersDone)
    (hs : e.attempt reached reply = some e') : e'.HandlersDone := by
  unfold HandlersDone leaving at hd ⊢
  cases attempt_cases hs with
  | batch hm hrun | lookup hm hrun | snapshot hm hrun | limits hm hrun =>
    rw [hm] at hd
    exact hd

theorem deliver_handlersDone {continuing : Bool} (hd : e.HandlersDone) (hq : Quiesces e (.deliver continuing))
    (hs : e.deliver h continuing = some e') : e'.HandlersDone := by
  have hafter : ∀ site, (site = .continueAsNew → e.leaving = true) →
      (e.afterFlush h site continuing).HandlersDone := fun site hsite =>
    afterFlush_handlersDone hq fun heq => hd (hsite heq)
  have hstay : ∀ main, ({ e with main := main } : Execution).leaving = e.leaving →
      ({ e with main := main } : Execution).HandlersDone := fun main hl hleaving => hd (hl ▸ hleaving)
  cases deliver_cases hs with
  | submitted hm hout => exact fun hl => hd (by simpa [leaving, hm, batchSubmitted] using hl)
  | @failed site flight err hm hout => exact hafter site (by simp [leaving, hm])
  | lookedUp hm hout => exact hstay _ (by simp [leaving, hm])
  | @notFound site run err hm hout => exact hafter site (by simp [leaving, hm])
  | snapshotted hm hout => exact hstay _ (by simp [leaving, hm])
  | @checked site balances run hm hout => exact hafter site (by simp [leaving, hm])

theorem update_handlersDone {sig : QuotaAdjustmentSignal} (hd : e.HandlersDone) (hq : Quiesces e (.update sig))
    (hs : e.update h sig = some e') : e'.HandlersDone := by
  cases update_cases hs with
  | refused hm hvalid => exact hd
  | accepted hm hvalid =>
    have hstays := hq (by simp [hvalid])
    intro hl
    have hsame : e.leaving = true := hl
    rw [hstays] at hsame
    cases hsame

theorem creditDeliver_handlersDone {i : ℕ} (hd : e.HandlersDone) (hs : e.creditDeliver i = some e') :
    e'.HandlersDone := by
  have herase : e.handlers = [] →
      ({ e with credits := e.credits.eraseIdx i } : Execution).handlers = [] := by
    intro hnone
    simp only [handlers, List.append_eq_nil_iff, List.map_eq_nil_iff, List.filter_eq_nil_iff] at hnone ⊢
    exact ⟨fun c hc => hnone.1 c (List.mem_of_mem_eraseIdx hc), hnone.2⟩
  have hrunning : ∀ c, e.credits[i]? = some c → c.abandoned = false → e.handlers ≠ [] := by
    intro c hi hown hnone
    simp only [handlers, List.append_eq_nil_iff, List.map_eq_nil_iff, List.filter_eq_nil_iff] at hnone
    exact hnone.1 c (List.mem_of_getElem? hi) (by simp [hown])
  cases creditDeliver_cases hs with
  | abandoned hi hout hgone => exact fun hl => herase (hd hl)
  | failed hi hout hown => exact fun hl => absurd (hd hl) (hrunning _ hi hown)
  | confirmed hi hout hown => exact fun hl => absurd (hd hl) (hrunning _ hi hown)

theorem refreshDeliver_handlersDone {i : ℕ} (hd : e.HandlersDone) (hs : e.refreshDeliver i = some e') :
    e'.HandlersDone := by
  have hne : ∀ f, e.refreshing[i]? = some f → e.handlers ≠ [] := by
    intro f hi hnone
    simp only [handlers, List.append_eq_nil_iff, List.map_eq_nil_iff] at hnone
    rw [hnone.2] at hi
    cases hi
  cases refreshDeliver_cases hs with
  | lookedUp hi hphase hout | notFound hi hphase hout | snapshotted hi hphase hout
  | reset hi hphase hout => exact fun hl => absurd (hd hl) (hne _ hi)

theorem step_handlersDone {ev : Event} (hd : e.HandlersDone) (hq : Quiesces e ev)
    (hs : e.step h ev = some e') : e'.HandlersDone := by
  cases ev with
  | heartbeat sig =>
    cases hs
    exact hd
  | register sig =>
    cases hs
    exact hd
  | update sig => exact update_handlersDone hd hq hs
  | receiveHeartbeat continuing => exact receiveHeartbeat_handlersDone hq hs
  | receiveRegistration continuing => exact receiveRegistration_handlersDone hq hs
  | timerFires timer =>
    simp only [step] at hs
    split_ifs at hs
    cases hs
    exact hd
  | timerBranch continuing => exact timerBranch_handlersDone hq hs
  | attempt reached reply => exact attempt_handlersDone hd hs
  | deliver continuing => exact deliver_handlersDone hd hq hs
  | creditAttempt i reached reply =>
    obtain ⟨c, hi, hs⟩ := Option.bind_eq_some_iff.mp hs
    obtain ⟨run, -, rfl⟩ := Option.map_eq_some_iff.mp hs
    intro hl
    have hnone := hd hl
    simp only [handlers, List.append_eq_nil_iff, List.map_eq_nil_iff, List.filter_eq_nil_iff] at hnone ⊢
    refine ⟨fun c' hc' => ?_, hnone.2⟩
    rcases List.mem_or_eq_of_mem_set hc' with hc' | rfl
    · exact hnone.1 c' hc'
    · exact hnone.1 c (List.mem_of_getElem? hi)
  | creditDeliver i => exact creditDeliver_handlersDone hd hs
  | refreshAttempt i reply =>
    obtain ⟨f, hi, hs⟩ := Option.bind_eq_some_iff.mp hs
    obtain ⟨phase, -, rfl⟩ := Option.map_eq_some_iff.mp hs
    intro hl
    have hnone := hd hl
    simp only [handlers, List.append_eq_nil_iff, List.map_eq_nil_iff] at hnone
    rw [hnone.2] at hi
    cases hi
  | refreshDeliver i => exact refreshDeliver_handlersDone hd hs
  | continueAsNew =>
    obtain ⟨-, rfl⟩ := continueAsNew_some hs
    exact fun hl => by cases hl

/-- In every run in which the continuation is suggested only while no handler runs
and no update is accepted once the main loop is on its way out, no handler is in
progress when the main loop returns its Continue-As-New error. -/
theorem continuation_abandons_no_handler (input : TenantAccountingInput) (es : List Event)
    (hq : Along (step h) Quiesces (start input) es)
    (hr : runSteps (step h) (start input) es = some e) (hmain : e.main = .continuing) :
    e.handlers = [] :=
  invariant_along (step h) (P := HandlersDone) (fun _ _ _ hd hC hs => step_handlersDone hd hC hs)
    (fun hl => by cases hl) hq hr (by rw [leaving, hmain])

instance (e : Execution) (ev : Event) : Decidable (Quiesces e ev) :=
  match ev with
  | .receiveHeartbeat continuing | .receiveRegistration continuing | .timerBranch continuing
  | .deliver continuing => inferInstanceAs (Decidable (continuing = true → e.handlers = []))
  | .update sig =>
    inferInstanceAs (Decidable (e.state.validateAdjustment sig ≠ none → e.leaving = false))
  | .heartbeat _ | .register _ | .timerFires _ | .attempt _ _ | .creditAttempt _ _ _
  | .creditDeliver _ | .refreshAttempt _ _ | .refreshDeliver _ | .continueAsNew => .isTrue trivial

/-- The flush before the continuation and what follows it. -/
def lastFlush : List Event :=
  [.attempt true (.batch (.ok {})), .deliver false, .attempt false (.balances (.ok Table.empty)),
    .deliver false, .attempt false (.done (.ok ())), .deliver false,
    .attempt false (.done (.ok ())), .deliver false]

/-- A credit is issued and its handler returns before the continuation is suggested. -/
def creditThenContinuation : List Event :=
  [.update sampleCredit, .creditAttempt 0 true (.ok ()), .creditDeliver 0,
    .refreshAttempt 0 (.balances (.ok Table.empty)), .refreshDeliver 0,
    .refreshAttempt 0 (.done (.ok ())), .refreshDeliver 0, .refreshAttempt 0 (.done (.ok ())),
    .refreshDeliver 0, .heartbeat (sampleHeartbeat 1), .receiveHeartbeat true] ++ lastFlush

theorem creditThenContinuation_abandons_nothing :
    ∃ e, runSteps (step .positional) (start sampleInput) creditThenContinuation = some e ∧
      e.leaving = true ∧ e.history.returned.length = 1 ∧ e.handlers = [] := by
  obtain ⟨e, he, hp⟩ := runSteps_any (step .positional) (start sampleInput) creditThenContinuation
    (fun e => e.leaving && (e.history.returned.length = 1 : Bool) && e.main.isContinuing) (by decide)
  simp only [Bool.and_eq_true, decide_eq_true_eq] at hp
  refine ⟨e, he, hp.1.1, hp.1.2, continuation_abandons_no_handler sampleInput creditThenContinuation
    (along_of_alongTest (step .positional) (by decide)) he ?_⟩
  cases hm : e.main with
  | continuing => rfl
  | _ => simp [hm, Main.isContinuing] at hp

/-- An update is accepted during the flush before the continuation. -/
def creditDuringLastFlush : List Event :=
  [.heartbeat (sampleHeartbeat 1), .receiveHeartbeat true, .update sampleCredit] ++ lastFlush

/-- The workflow returns its error while the handler waits for its allocation. -/
theorem creditDuringLastFlush_is_abandoned :
    ∃ e e', runSteps (step .positional) (start sampleInput) creditDuringLastFlush = some e ∧
      e.step .positional .continueAsNew = some e' ∧ e.handlers.length = 1 ∧
      e'.handlers = [] ∧ e'.history.returned.length = 0 := by
  obtain ⟨e, he, hp⟩ := runSteps_any (step .positional) (start sampleInput) creditDuringLastFlush
    (fun e => (e.handlers.length = 1 : Bool) && (e.step .positional .continueAsNew).any fun e' =>
      e'.handlers = [] ∧ e'.history.returned.length = 0) (by decide)
  simp only [Bool.and_eq_true, decide_eq_true_eq, Option.any_eq_true] at hp
  obtain ⟨hrunning, e', he', hnone, hreturned⟩ := hp
  exact ⟨e, e', he, he', hrunning, hnone, hreturned⟩

end CloudCredit.Accounting.Execution
