import CloudCredit.Accounting.Execution

/-!
# What each event can do

The transitions of an execution as relations, one constructor for each way an event can
go, with the guards under which it goes that way. Later modules split on these
constructors and never unfold a transition.
-/
namespace CloudCredit.Accounting.Execution

open Library TigerBeetle Domain Ledger

variable (h : Blake3) (e : Execution)

/-- The heartbeat branch skips what was processed, fills the batch up, or goes on. -/
inductive HeartbeatReceived (continuing : Bool) : Execution → Prop
  | skipped {timer : ℕ} {sig : HeartbeatSignal} {rest : List HeartbeatSignal}
      (hm : e.main = .selecting timer) (hch : e.hbCh = sig :: rest)
      (hseen : e.state.alreadyProcessed sig = true) :
      HeartbeatReceived continuing (endIteration h
        { e with hbCh := rest, history := { e.history with dropped := sig :: e.history.dropped } }
        continuing)
  | filled {timer : ℕ} {sig : HeartbeatSignal} {rest : List HeartbeatSignal}
      (hm : e.main = .selecting timer) (hch : e.hbCh = sig :: rest)
      (hseen : e.state.alreadyProcessed sig = false)
      (hfull : batchSizeThreshold ≤ (e.state.appendHeartbeat sig).curBatch.length) :
      HeartbeatReceived continuing (beginFlush h
        (cancelTimer { e with hbCh := rest, state := e.state.appendHeartbeat sig }) .threshold)
  | appended {timer : ℕ} {sig : HeartbeatSignal} {rest : List HeartbeatSignal}
      (hm : e.main = .selecting timer) (hch : e.hbCh = sig :: rest)
      (hseen : e.state.alreadyProcessed sig = false)
      (hroom : (e.state.appendHeartbeat sig).curBatch.length < batchSizeThreshold) :
      HeartbeatReceived continuing (endIteration h
        { e with hbCh := rest, state := e.state.appendHeartbeat sig } continuing)

/-- The timer branch finds an empty batch or flushes. -/
inductive TimerTaken (continuing : Bool) : Execution → Prop
  | idle {timer : ℕ} (hm : e.main = .selecting timer) (hres : timer ∈ e.resolved)
      (hb : e.state.curBatch = []) :
      TimerTaken continuing
        ((e.setInterval e.state.idleInterval).resetTimer.endIteration h continuing)
  | flushed {timer : ℕ} (hm : e.main = .selecting timer) (hres : timer ∈ e.resolved)
      (hb : e.state.curBatch ≠ []) : TimerTaken continuing (e.beginFlush h .timer)

/-- One attempt of the activity the main loop waits for. -/
inductive Attempted (reached : Bool) : Reply → Execution → Prop
  | batch {site : FlushSite} {flight : Flight} {r : Except ActivityError TBBatchResult}
      {run : Run TBBatchResult} (hm : e.main = .submitting site flight)
      (hrun : flight.run.attempt maximumAttempts reached r = some run) :
      Attempted reached (.batch r) { e with main := .submitting site { flight with run := run } }
  | lookup {site : FlushSite} {run run' : Run Balances} {r : Except ActivityError Balances}
      (hm : e.main = .lookingUp site run)
      (hrun : run.attempt maximumAttempts reached r = some run') :
      Attempted reached (.balances r) { e with main := .lookingUp site run' }
  | snapshot {site : FlushSite} {balances : Balances} {run run' : Run Unit}
      {r : Except ActivityError Unit} (hm : e.main = .snapshotting site balances run)
      (hrun : run.attempt maximumAttempts reached r = some run') :
      Attempted reached (.done r) { e with main := .snapshotting site balances run' }
  | limits {site : FlushSite} {balances : Balances} {run run' : Run Unit}
      {r : Except ActivityError Unit} (hm : e.main = .checkingLimits site balances run)
      (hrun : run.attempt maximumAttempts reached r = some run') :
      Attempted reached (.done r) { e with main := .checkingLimits site balances run' }

/-- The main loop gets the outcome of the activity it waits for. -/
inductive Delivered (continuing : Bool) : Execution → Prop
  | submitted {site : FlushSite} {flight : Flight} {result : TBBatchResult}
      (hm : e.main = .submitting site flight) (hout : flight.run.outcome = some (.ok result)) :
      Delivered continuing (e.batchSubmitted site flight.input result)
  | failed {site : FlushSite} {flight : Flight} {err : ActivityError}
      (hm : e.main = .submitting site flight) (hout : flight.run.outcome = some (.error err)) :
      Delivered continuing (e.afterFlush h site continuing)
  | lookedUp {site : FlushSite} {run : Run Balances} {balances : Balances}
      (hm : e.main = .lookingUp site run) (hout : run.outcome = some (.ok balances)) :
      Delivered continuing { e with main := .snapshotting site balances {} }
  | notFound {site : FlushSite} {run : Run Balances} {err : ActivityError}
      (hm : e.main = .lookingUp site run) (hout : run.outcome = some (.error err)) :
      Delivered continuing (e.afterFlush h site continuing)
  | snapshotted {site : FlushSite} {balances : Balances} {run : Run Unit}
      (hm : e.main = .snapshotting site balances run) (hout : run.outcome.isSome = true) :
      Delivered continuing { e with main := .checkingLimits site balances {} }
  | checked {site : FlushSite} {balances : Balances} {run : Run Unit}
      (hm : e.main = .checkingLimits site balances run) (hout : run.outcome.isSome = true) :
      Delivered continuing (e.afterFlush h site continuing)

/-- The update handler refuses an adjustment or starts its allocation. -/
inductive Updated (sig : QuotaAdjustmentSignal) : Execution → Prop
  | refused (hm : e.main ≠ .continuing) (hvalid : e.state.validateAdjustment sig = none) :
      Updated sig e
  | accepted {r : ResourceType} (hm : e.main ≠ .continuing)
      (hvalid : e.state.validateAdjustment sig = some r) :
      Updated sig { e.cancelTimer with
        state := e.state.countFlush
        credits := e.credits ++ [⟨⟨e.history.issued.length, r, sig.amount, e.state.flushSeqNo + 1⟩,
          e.state.countFlush.allocationInput h r sig.amount, {}, false⟩]
        history := { e.history with
          issued := ⟨e.history.issued.length, r, sig.amount, e.state.flushSeqNo + 1⟩ ::
            e.history.issued } }

/-- The end of an allocation: its handler is gone, gives up, or goes on to its balances. -/
inductive CreditDelivered (i : ℕ) : Execution → Prop
  | abandoned {c : Credit} {outcome : Except ActivityError Unit} (hi : e.credits[i]? = some c)
      (hout : c.run.outcome = some outcome) (hgone : c.abandoned = true) :
      CreditDelivered i { e with credits := e.credits.eraseIdx i }
  | failed {c : Credit} {err : ActivityError} (hi : e.credits[i]? = some c)
      (hout : c.run.outcome = some (.error err)) (hown : c.abandoned = false) :
      CreditDelivered i
        (handlerReturns { e with credits := e.credits.eraseIdx i } c.issue (.error err))
  | confirmed {c : Credit} (hi : e.credits[i]? = some c) (hout : c.run.outcome = some (.ok ()))
      (hown : c.abandoned = false) :
      CreditDelivered i { e with
        credits := e.credits.eraseIdx i
        state := e.state.clearExceeded c.issue.resource
        refreshing := e.refreshing ++ [⟨c.issue, .lookingUp {}⟩] }

/-- A handler with a confirmed allocation goes to its next activity or returns. -/
inductive RefreshDelivered (i : ℕ) : Execution → Prop
  | lookedUp {f : Refresh} {run : Run Balances} {balances : Balances}
      (hi : e.refreshing[i]? = some f) (hphase : f.phase = .lookingUp run)
      (hout : run.outcome = some (.ok balances)) :
      RefreshDelivered i { e with
        refreshing := e.refreshing.set i { f with phase := .snapshotting balances {} } }
  | notFound {f : Refresh} {run : Run Balances} {err : ActivityError}
      (hi : e.refreshing[i]? = some f) (hphase : f.phase = .lookingUp run)
      (hout : run.outcome = some (.error err)) :
      RefreshDelivered i
        (handlerReturns { e with refreshing := e.refreshing.eraseIdx i } f.issue (.ok {}))
  | snapshotted {f : Refresh} {balances : Balances} {run : Run Unit}
      (hi : e.refreshing[i]? = some f) (hphase : f.phase = .snapshotting balances run)
      (hout : run.outcome.isSome = true) :
      RefreshDelivered i { e with
        refreshing := e.refreshing.set i { f with phase := .resetting balances {} } }
  | reset {f : Refresh} {balances : Balances} {run : Run Unit}
      (hi : e.refreshing[i]? = some f) (hphase : f.phase = .resetting balances run)
      (hout : run.outcome.isSome = true) :
      RefreshDelivered i
        (handlerReturns { e with refreshing := e.refreshing.eraseIdx i } f.issue (.ok { balances }))

variable {h e} {e' : Execution}

theorem receiveHeartbeat_cases {continuing : Bool}
    (hs : e.receiveHeartbeat h continuing = some e') : HeartbeatReceived h e continuing e' := by
  unfold receiveHeartbeat at hs
  split at hs
  · rename_i hm hch
    dsimp only at hs
    split_ifs at hs with hseen hfull
    · cases hs
      exact .skipped hm hch hseen
    · cases hs
      exact .filled hm hch (by simpa using hseen) hfull
    · cases hs
      exact .appended hm hch (by simpa using hseen) (by simpa using hfull)
  · cases hs

theorem receiveRegistration_cases {continuing : Bool}
    (hs : e.receiveRegistration h continuing = some e') :
    ∃ timer sig rest, e.main = .selecting timer ∧ e.regCh = sig :: rest ∧
      e' = endIteration h { e with regCh := rest, state := e.state.registerCluster sig }
        continuing := by
  unfold receiveRegistration at hs
  split at hs
  · rename_i timer sig rest hm hch
    cases hs
    exact ⟨timer, sig, rest, hm, hch, rfl⟩
  · cases hs

theorem timerBranch_cases {continuing : Bool} (hs : e.timerBranch h continuing = some e') :
    TimerTaken h e continuing e' := by
  unfold timerBranch at hs
  split at hs
  · rename_i timer hm
    split_ifs at hs with hres hb
    · cases hs
      exact .idle hm hres hb
    · cases hs
      exact .flushed hm hres hb
  · cases hs

theorem attempt_cases {reached : Bool} {reply : Reply} (hs : e.attempt reached reply = some e') :
    Attempted e reached reply e' := by
  unfold attempt at hs
  split at hs
  · rename_i hm
    obtain ⟨run, hrun, rfl⟩ := Option.map_eq_some_iff.mp hs
    exact .batch hm hrun
  · rename_i hm
    obtain ⟨run, hrun, rfl⟩ := Option.map_eq_some_iff.mp hs
    exact .lookup hm hrun
  · rename_i hm
    obtain ⟨run, hrun, rfl⟩ := Option.map_eq_some_iff.mp hs
    exact .snapshot hm hrun
  · rename_i hm
    obtain ⟨run, hrun, rfl⟩ := Option.map_eq_some_iff.mp hs
    exact .limits hm hrun
  · cases hs

theorem deliver_cases {continuing : Bool} (hs : e.deliver h continuing = some e') :
    Delivered h e continuing e' := by
  unfold deliver at hs
  split at hs
  · rename_i hm
    split at hs
    · rename_i hout
      cases hs
      exact .submitted hm hout
    · rename_i hout
      cases hs
      exact .failed hm hout
    · cases hs
  · rename_i hm
    split at hs
    · rename_i hout
      cases hs
      exact .lookedUp hm hout
    · rename_i hout
      cases hs
      exact .notFound hm hout
    · cases hs
  · rename_i hm
    split_ifs at hs with hout
    cases hs
    exact .snapshotted hm hout
  · rename_i hm
    split_ifs at hs with hout
    cases hs
    exact .checked hm hout
  · cases hs

theorem update_cases {sig : QuotaAdjustmentSignal} (hs : e.update h sig = some e') :
    Updated h e sig e' := by
  unfold update at hs
  split at hs
  · cases hs
  · rename_i hm
    split at hs
    · rename_i hvalid
      cases hs
      exact .refused hm hvalid
    · rename_i hvalid
      cases hs
      exact .accepted hm hvalid

theorem creditDeliver_cases {i : ℕ} (hs : e.creditDeliver i = some e') :
    CreditDelivered e i e' := by
  obtain ⟨c, hi, hs⟩ := Option.bind_eq_some_iff.mp hs
  dsimp only at hs
  split at hs
  · cases hs
  · rename_i outcome hout
    split_ifs at hs with hgone
    · cases hs
      exact .abandoned hi hout hgone
    · split at hs
      · cases hs
        exact .failed hi hout (by simpa using hgone)
      · cases hs
        exact .confirmed hi hout (by simpa using hgone)

theorem refreshDeliver_cases {i : ℕ} (hs : e.refreshDeliver i = some e') :
    RefreshDelivered e i e' := by
  obtain ⟨f, hi, hs⟩ := Option.bind_eq_some_iff.mp hs
  dsimp only at hs
  split at hs
  · rename_i hphase
    split at hs
    · rename_i hout
      cases hs
      exact .lookedUp hi hphase hout
    · rename_i hout
      cases hs
      exact .notFound hi hphase hout
    · cases hs
  · rename_i hphase
    split_ifs at hs with hout
    cases hs
    exact .snapshotted hi hphase hout
  · rename_i hphase
    split_ifs at hs with hout
    cases hs
    exact .reset hi hphase hout

theorem continueAsNew_some (hs : e.continueAsNew = some e') :
    e.main = .continuing ∧ e' = e.restarted := by
  unfold continueAsNew at hs
  split at hs
  · rename_i hm
    cases hs
    exact ⟨hm, rfl⟩
  · cases hs

end CloudCredit.Accounting.Execution
