import CloudCredit.Accounting.EventCases

/-!
# What a step of an execution can do

Every step but Continue-As-New is a short sequence of moves, and a move changes
one thing: a signal arrives, is skipped or is taken into the batch, a flush
begins, succeeds or fails, a credit is accepted, confirmed or given up. Timers,
intervals and the bookkeeping after a confirmed write are quiet. Invariants are
proved move by move and hold for runs by `invariant_of_moves`.
-/
namespace CloudCredit.Accounting

open Library TigerBeetle Domain Ledger

/-- The batch the main loop has handed to its ledger activity. -/
def Main.flight : Main → Option Flight
  | .submitting _ flight => some flight
  | _ => none

/-- The updates whose allocation was confirmed to their handler. -/
def Execution.confirmed (e : Execution) : List Issue :=
  e.refreshing.map (·.issue) ++ (e.history.returned.filter (·.2.toBool)).map Prod.fst

/-- Two states that differ in timers and in the bookkeeping after a write only. -/
structure SameCore (e e' : Execution) : Prop where
  state : e'.state = { e.state with currentFlushInterval := e'.state.currentFlushInterval }
  hbCh : e'.hbCh = e.hbCh
  flight : e'.main.flight = e.main.flight
  credits : e'.credits = e.credits
  history : { e'.history with returned := e.history.returned } = e.history
  confirmed : e'.confirmed ⊆ e.confirmed

/-- The moves a step on the event `ev` may make. -/
inductive Move (h : Blake3) (ev : Event) : Execution → Execution → Prop
  | quiet {e e' : Execution} (same : SameCore e e') : Move h ev e e'
  | arrive {e : Execution} (sig : HeartbeatSignal) :
      Move h ev e { e with
        hbCh := e.hbCh ++ [sig]
        history := { e.history with delivered := sig :: e.history.delivered } }
  | skip {e : Execution} {sig : HeartbeatSignal} {rest : List HeartbeatSignal}
      (hch : e.hbCh = sig :: rest) (hseen : e.state.alreadyProcessed sig = true) :
      Move h ev e { e with
        hbCh := rest
        history := { e.history with dropped := sig :: e.history.dropped } }
  | take {e : Execution} {sig : HeartbeatSignal} {rest : List HeartbeatSignal}
      (hch : e.hbCh = sig :: rest) (hnew : e.state.alreadyProcessed sig = false)
      (hidle : e.main.flight = none) :
      Move h ev e { e with hbCh := rest, state := e.state.appendHeartbeat sig }
  | register {e : Execution} (sig : RegisterClusterSignal) :
      Move h ev e { e with state := e.state.registerCluster sig }
  | flush {e : Execution} (site : FlushSite) (hbatch : e.state.curBatch ≠ [])
      (hidle : e.main.flight = none) : Move h ev e (e.beginFlush h site)
  | attempt {e : Execution} {site : FlushSite} {flight : Flight} {run : Run TBBatchResult}
      {reached : Bool} {reply : Except ActivityError TBBatchResult}
      (hev : ev = .attempt reached (.batch reply)) (hmain : e.main = .submitting site flight)
      (hrun : flight.run.attempt maximumAttempts reached reply = some run) :
      Move h ev e { e with main := .submitting site { flight with run := run } }
  | succeed {e : Execution} {site : FlushSite} {flight : Flight} {result : TBBatchResult}
      {continuing : Bool} (hev : ev = .deliver continuing)
      (hmain : e.main = .submitting site flight) (hout : flight.run.outcome = some (.ok result)) :
      Move h ev e (e.batchSubmitted site flight.input result)
  | fail {e : Execution} {site : FlushSite} {flight : Flight} {err : ActivityError} {main : Main}
      {continuing : Bool} (hev : ev = .deliver continuing)
      (hmain : e.main = .submitting site flight) (hout : flight.run.outcome = some (.error err))
      (hidle : main.flight = none) : Move h ev e { e with main := main }
  | accept {e : Execution} {sig : QuotaAdjustmentSignal} {r : ResourceType}
      (hev : ev = .update sig) (hvalid : e.state.validateAdjustment sig = some r) {issue : Issue}
      (hissue : issue = ⟨e.history.issued.length, r, sig.amount, e.state.flushSeqNo + 1⟩) :
      Move h ev e { e with
        state := e.state.countFlush
        credits := e.credits ++ [⟨issue, e.state.countFlush.allocationInput h r sig.amount, {}, false⟩]
        history := { e.history with issued := issue :: e.history.issued } }
  | creditAttempt {e : Execution} {i : ℕ} {c : Credit} {run : Run Unit} {reached : Bool}
      {reply : Except ActivityError Unit} (hev : ev = .creditAttempt i reached reply)
      (hi : e.credits[i]? = some c)
      (hrun : c.run.attempt maximumAttempts reached reply = some run) :
      Move h ev e { e with credits := e.credits.set i { c with run := run } }
  | creditEnds {e : Execution} {i : ℕ} {c : Credit} {outcome : Except ActivityError Unit}
      (hev : ev = .creditDeliver i) (hi : e.credits[i]? = some c)
      (hout : c.run.outcome = some outcome)
      (hend : c.abandoned = true ∨ ∃ err, outcome = .error err) :
      Move h ev e { e with credits := e.credits.eraseIdx i }
  | confirm {e : Execution} {i : ℕ} {c : Credit} (hev : ev = .creditDeliver i)
      (hi : e.credits[i]? = some c)
      (hout : c.run.outcome = some (.ok ())) (hown : c.abandoned = false) :
      Move h ev e { e with
        credits := e.credits.eraseIdx i
        state := e.state.clearExceeded c.issue.resource
        refreshing := e.refreshing ++ [⟨c.issue, .lookingUp {}⟩] }

/-- A sequence of moves, of which only the last may count a flush. -/
inductive Moves (h : Blake3) (ev : Event) : Execution → Execution → Prop
  | none {e : Execution} : Moves h ev e e
  | last {e e' : Execution} (move : Move h ev e e') : Moves h ev e e'
  | cons {e m e' : Execution} (move : Move h ev e m)
      (same : m.state.flushSeqNo = e.state.flushSeqNo) (rest : Moves h ev m e') : Moves h ev e e'

namespace Execution

variable {h : Blake3} {ev : Event} {e e' : Execution}

theorem Moves.cancelTimer (rest : Moves h ev e.cancelTimer e') : Moves h ev e e' :=
  .cons (m := e.cancelTimer) (.quiet ⟨rfl, rfl, rfl, rfl, rfl, fun _ hx => hx⟩) rfl rest

theorem Moves.resetTimer (rest : Moves h ev e.resetTimer e') : Moves h ev e e' :=
  .cons (m := e.resetTimer) (.quiet ⟨rfl, rfl, rfl, rfl, rfl, fun _ hx => hx⟩) rfl rest

theorem Moves.setInterval {n : ℕ} (rest : Moves h ev (e.setInterval n) e') : Moves h ev e e' :=
  .cons (m := e.setInterval n) (.quiet ⟨rfl, rfl, rfl, rfl, rfl, fun _ hx => hx⟩) rfl rest

/-- The main loop moves between two places where it waits for no batch. -/
theorem Moves.main {main : Main} (hidle : e.main.flight = none) (hidle' : main.flight = none) :
    Moves h ev e { e with main := main } :=
  .last (.quiet ⟨rfl, rfl, hidle'.trans hidle.symm, rfl, rfl, fun _ hx => hx⟩)

theorem endIteration_moves (continuing : Bool) (hidle : e.main.flight = none) :
    Moves h ev e (e.endIteration h continuing) := by
  unfold endIteration
  split_ifs with hc hb
  · exact Moves.cancelTimer (Moves.main hidle rfl)
  · exact Moves.cancelTimer (.last (.flush _ hb hidle))
  · exact Moves.main hidle rfl

theorem afterFlush_moves (site : FlushSite) (continuing : Bool) (hidle : e.main.flight = none) :
    Moves h ev e (e.afterFlush h site continuing) := by
  have hback : Moves h ev e
      ((e.setInterval baseFlushInterval).resetTimer.endIteration h continuing) :=
    Moves.setInterval (Moves.resetTimer (endIteration_moves continuing hidle))
  cases site with
  | threshold => exact hback
  | timer => exact hback
  | continueAsNew => exact Moves.main hidle rfl

theorem afterFlush_main (site : FlushSite) (continuing : Bool) (main : Main) :
    ({ e with main := main } : Execution).afterFlush h site continuing =
      e.afterFlush h site continuing := by
  cases site <;> cases continuing <;> rfl

theorem flight_none_of_selecting {timer : ℕ} (hm : e.main = .selecting timer) :
    e.main.flight = none := by
  rw [hm]
  rfl

theorem receiveHeartbeat_moves {continuing : Bool}
    (hs : e.receiveHeartbeat h continuing = some e') : Moves h ev e e' := by
  cases receiveHeartbeat_cases hs with
  | skipped hm hch hseen =>
    have hidle := flight_none_of_selecting hm
    exact .cons (.skip hch hseen) rfl (endIteration_moves continuing hidle)
  | @filled timer sig rest hm hch hseen hfull =>
    have hidle := flight_none_of_selecting hm
    have hne : (e.state.appendHeartbeat sig).curBatch ≠ [] := by
      simp [TenantAccountingState.appendHeartbeat]
    exact .cons (.take hch hseen hidle) rfl (Moves.cancelTimer (.last (.flush _ hne hidle)))
  | appended hm hch hseen hroom =>
    have hidle := flight_none_of_selecting hm
    exact .cons (.take hch hseen hidle) rfl (endIteration_moves continuing hidle)

theorem receiveRegistration_moves {continuing : Bool}
    (hs : e.receiveRegistration h continuing = some e') : Moves h ev e e' := by
  obtain ⟨timer, sig, rest, hm, hch, rfl⟩ := receiveRegistration_cases hs
  have hidle := flight_none_of_selecting hm
  refine .cons (.register sig) (e.state.registerCluster_flushSeqNo sig) ?_
  exact .cons (m := { e with regCh := rest, state := e.state.registerCluster sig })
    (.quiet ⟨rfl, rfl, rfl, rfl, rfl, fun _ hx => hx⟩) rfl (endIteration_moves continuing hidle)

theorem timerBranch_moves {continuing : Bool} (hs : e.timerBranch h continuing = some e') :
    Moves h ev e e' := by
  cases timerBranch_cases hs with
  | idle hm hres hb =>
    have hidle := flight_none_of_selecting hm
    exact Moves.setInterval (Moves.resetTimer (endIteration_moves continuing hidle))
  | flushed hm hres hb => exact .last (.flush _ hb (flight_none_of_selecting hm))

theorem attempt_moves {reached : Bool} {reply : Reply} (hs : e.attempt reached reply = some e') :
    Moves h (.attempt reached reply) e e' := by
  cases attempt_cases hs with
  | batch hm hrun => exact .last (.attempt rfl hm hrun)
  | lookup hm hrun => exact Moves.main (by rw [hm]; rfl) rfl
  | snapshot hm hrun => exact Moves.main (by rw [hm]; rfl) rfl
  | limits hm hrun => exact Moves.main (by rw [hm]; rfl) rfl

theorem deliver_moves {continuing : Bool} (hs : e.deliver h continuing = some e') :
    Moves h (.deliver continuing) e e' := by
  cases deliver_cases hs with
  | submitted hm hout => exact .last (.succeed rfl hm hout)
  | @failed site flight err hm hout =>
    rw [← afterFlush_main site continuing (.selecting 0)]
    exact .cons (m := { e with main := .selecting 0 }) (.fail rfl hm hout rfl) rfl
      (afterFlush_moves site continuing rfl)
  | lookedUp hm hout => exact Moves.main (by rw [hm]; rfl) rfl
  | @notFound site run err hm hout => exact afterFlush_moves site continuing (by rw [hm]; rfl)
  | snapshotted hm hout => exact Moves.main (by rw [hm]; rfl) rfl
  | @checked site balances run hm hout => exact afterFlush_moves site continuing (by rw [hm]; rfl)

theorem update_moves {sig : QuotaAdjustmentSignal} (hs : e.update h sig = some e') :
    Moves h (.update sig) e e' := by
  cases update_cases hs with
  | refused hm hvalid => exact .none
  | accepted hm hvalid =>
    exact Moves.cancelTimer (.last (.accept (e := e.cancelTimer) rfl hvalid rfl))

theorem creditAttempt_moves {i : ℕ} {reached : Bool} {reply : Except ActivityError Unit}
    (hs : e.creditAttempt i reached reply = some e') :
    Moves h (.creditAttempt i reached reply) e e' := by
  obtain ⟨c, hi, hs⟩ := Option.bind_eq_some_iff.mp hs
  obtain ⟨run, hrun, rfl⟩ := Option.map_eq_some_iff.mp hs
  exact .last (.creditAttempt rfl hi hrun)

theorem handlerReturns_moves {issue : Issue} {result : Except ActivityError IssueCreditResult}
    (hc : result.toBool = true → issue ∈ e.confirmed) :
    Moves h ev e (e.handlerReturns issue result) := by
  refine .last (.quiet ⟨rfl, rfl, rfl, rfl, rfl, ?_⟩)
  intro x hx
  simp only [handlerReturns, resetTimer, setInterval, confirmed, List.filter_cons] at hx
  split_ifs at hx with hok
  · simp only [List.map_cons, List.mem_append, List.mem_cons] at hx
    rcases hx with hx | rfl | hx
    · exact List.mem_append_left _ hx
    · exact hc hok
    · exact List.mem_append_right _ hx
  · exact hx

theorem creditDeliver_moves {i : ℕ} (hs : e.creditDeliver i = some e') :
    Moves h (.creditDeliver i) e e' := by
  cases creditDeliver_cases hs with
  | abandoned hi hout hgone => exact .last (.creditEnds rfl hi hout (.inl hgone))
  | @failed c err hi hout hown =>
    exact .cons (.creditEnds rfl hi hout (.inr ⟨err, rfl⟩)) rfl
      (handlerReturns_moves (by simp [Except.toBool]))
  | confirmed hi hout hown => exact .last (.confirm rfl hi hout hown)

theorem confirmed_set {i : ℕ} {f f' : Refresh} (hi : e.refreshing[i]? = some f)
    (hf : f'.issue = f.issue) :
    ({ e with refreshing := e.refreshing.set i f' } : Execution).confirmed ⊆ e.confirmed := by
  intro x hx
  simp only [confirmed, List.map_set, List.mem_append] at hx
  rcases hx with hx | hx
  · refine List.mem_append_left _ ?_
    rcases List.mem_or_eq_of_mem_set hx with hx | rfl
    · exact hx
    · rw [hf]
      exact List.mem_map_of_mem (List.mem_of_getElem? hi)
  · exact List.mem_append_right _ hx

theorem refreshing_moves {i : ℕ} {f : Refresh} (hi : e.refreshing[i]? = some f)
    (phase : RefreshPhase) :
    Moves h ev e { e with refreshing := e.refreshing.set i { f with phase := phase } } :=
  .last (.quiet ⟨rfl, rfl, rfl, rfl, rfl, confirmed_set hi rfl⟩)

theorem refreshAttempt_moves {i : ℕ} {reply : Reply} (hs : e.refreshAttempt i reply = some e') :
    Moves h ev e e' := by
  obtain ⟨f, hi, hs⟩ := Option.bind_eq_some_iff.mp hs
  obtain ⟨phase, -, rfl⟩ := Option.map_eq_some_iff.mp hs
  exact refreshing_moves hi phase

theorem refreshReturns_moves {i : ℕ} {f : Refresh} (hi : e.refreshing[i]? = some f)
    (result : IssueCreditResult) :
    Moves h ev e (handlerReturns { e with refreshing := e.refreshing.eraseIdx i } f.issue
      (.ok result)) := by
  refine .last (.quiet ⟨rfl, rfl, rfl, rfl, rfl, ?_⟩)
  intro x hx
  simp only [handlerReturns, resetTimer, setInterval, confirmed, List.filter_cons, Except.toBool,
    if_true, List.map_cons, List.mem_append, List.mem_cons] at hx
  rcases hx with hx | rfl | hx
  · obtain ⟨g, hg, rfl⟩ := List.mem_map.mp hx
    exact List.mem_append_left _ (List.mem_map_of_mem (List.mem_of_mem_eraseIdx hg))
  · exact List.mem_append_left _ (List.mem_map_of_mem (List.mem_of_getElem? hi))
  · exact List.mem_append_right _ hx

theorem refreshDeliver_moves {i : ℕ} (hs : e.refreshDeliver i = some e') : Moves h ev e e' := by
  cases refreshDeliver_cases hs with
  | lookedUp hi hphase hout => exact refreshing_moves hi _
  | notFound hi hphase hout => exact refreshReturns_moves hi _
  | snapshotted hi hphase hout => exact refreshing_moves hi _
  | reset hi hphase hout => exact refreshReturns_moves hi _

/-- Every step within an execution is a sequence of moves. -/
theorem step_moves (hs : e.step h ev = some e') (hev : ev ≠ .continueAsNew) :
    Moves h ev e e' := by
  cases ev with
  | heartbeat sig =>
    cases hs
    exact .last (.arrive sig)
  | register sig =>
    cases hs
    exact .last (.quiet ⟨rfl, rfl, rfl, rfl, rfl, fun _ hx => hx⟩)
  | update sig => exact update_moves hs
  | receiveHeartbeat continuing => exact receiveHeartbeat_moves hs
  | receiveRegistration continuing => exact receiveRegistration_moves hs
  | timerFires timer =>
    simp only [step] at hs
    split_ifs at hs
    cases hs
    exact .last (.quiet ⟨rfl, rfl, rfl, rfl, rfl, fun _ hx => hx⟩)
  | timerBranch continuing => exact timerBranch_moves hs
  | attempt reached reply => exact attempt_moves hs
  | deliver continuing => exact deliver_moves hs
  | creditAttempt i reached reply => exact creditAttempt_moves hs
  | creditDeliver i => exact creditDeliver_moves hs
  | refreshAttempt i reply => exact refreshAttempt_moves hs
  | refreshDeliver i => exact refreshDeliver_moves hs
  | continueAsNew => exact absurd rfl hev

theorem Moves.keeps {P : Execution → Prop} {n : UInt64}
    (hP : ∀ m m', Move h ev m m' → m.state.flushSeqNo = n → P m → P m')
    (hm : Moves h ev e e') (hn : e.state.flushSeqNo = n) (he : P e) : P e' := by
  induction hm with
  | none => exact he
  | last move => exact hP _ _ move hn he
  | cons move same _ ih => exact ih (same.trans hn) (hP _ _ move hn he)

/-- A property kept by every move and by Continue-As-New is kept by every step. -/
theorem step_keeps {P : Execution → Prop}
    (hP : ∀ m m', Move h ev m m' → m.state.flushSeqNo = e.state.flushSeqNo → P m → P m')
    (hC : ev = .continueAsNew → e.main = .continuing → P e → P e.restarted)
    (hs : e.step h ev = some e') (he : P e) : P e' := by
  by_cases hev : ev = .continueAsNew
  · subst hev
    obtain ⟨hm, rfl⟩ := continueAsNew_some hs
    exact hC rfl hm he
  · exact Moves.keeps hP (step_moves hs hev) rfl he

/-- A property kept by every move and by Continue-As-New is an invariant of
every run. -/
theorem invariant_of_moves {P : Execution → Prop}
    (hP : ∀ ev e e', Move h ev e e' → P e → P e')
    (hC : ∀ e, e.main = .continuing → P e → P e.restarted) {es : List Event} (he : P e)
    (hr : runSteps (step h) e es = some e') : P e' :=
  invariant_of_steps (step h) (fun _ ev _ hs hstep =>
    step_keeps (fun _ _ hm _ => hP ev _ _ hm) (fun _ => hC _) hstep hs) he hr

theorem relation_of_moves {R : Execution → Execution → Prop} (hrefl : ∀ e, R e e)
    (htrans : ∀ s t u, R s t → R t u → R s u) (hM : ∀ ev e e', Move h ev e e' → R e e')
    (hC : ∀ e, R e e.restarted) {es : List Event}
    (hr : runSteps (step h) e es = some e') : R e e' := by
  refine relation_of_steps (step h) (P := fun _ => True) hrefl htrans (fun _ _ _ _ _ => trivial)
    (fun s ev t _ hs => ?_) trivial hr
  exact step_keeps (P := fun t => R s t) (fun _ _ hm _ ht => htrans _ _ _ ht (hM ev _ _ hm))
    (fun _ _ ht => htrans _ _ _ ht (hC s)) hs (hrefl s)

end Execution
end CloudCredit.Accounting
