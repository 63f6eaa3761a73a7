import CloudCredit.Accounting.Workflow
import CloudCredit.Library.Retries
import CloudCredit.Library.Transitions

/-!
# Executions of the accounting workflow

One tenant's workflow over its whole life, through any number of
Continue-As-New. The main loop and the update handlers are coroutines: each
runs from one blocking point to the next without interruption, and at a
blocking point anything may happen first. The step function has one event for
every way a coroutine, an activity or the outside can move. What the activities
answer is part of the event, so a run of this machine makes no assumption about
the services behind them.

Cancelling a timer resolves its future. An execution that returns its
Continue-As-New error takes its unread signals and its running handlers with it;
an allocation already handed to an activity may still take effect.
-/
namespace CloudCredit.Accounting

open Library TigerBeetle Domain Ledger

abbrev Run (α : Type) := ActivityRun ActivityError α

abbrev Balances := Table ResourceType QuotaSnapshotData

/-- The three calls of `flushBatch` in the main loop. -/
inductive FlushSite
  | threshold
  | timer
  | continueAsNew
  deriving DecidableEq

/-- A batch handed to its ledger activity, with the counter of its flush. -/
structure Flight where
  seqNo : UInt64
  input : TBBatchInput
  run : Run TBBatchResult := {}

/-- Where the main loop is blocked. -/
inductive Main
  | selecting (timer : ℕ)
  | submitting (site : FlushSite) (flight : Flight)
  | lookingUp (site : FlushSite) (run : Run Balances)
  | snapshotting (site : FlushSite) (balances : Balances) (run : Run Unit)
  | checkingLimits (site : FlushSite) (balances : Balances) (run : Run Unit)
  | continuing

/-- The timer the main loop waits for while it is selecting. -/
def Main.timer? : Main → Option ℕ
  | .selecting timer => some timer
  | _ => none

theorem Main.timer?_some {m : Main} {timer : ℕ} (hm : m.timer? = some timer) :
    m = .selecting timer := by
  cases m <;> first | cases hm; rfl | cases hm

def Main.isContinuing : Main → Bool
  | .continuing => true
  | _ => false

/-- One accepted issue-credit update. -/
structure Issue where
  update : ℕ
  resource : ResourceType
  amount : Int64
  seqNo : UInt64
  deriving DecidableEq

/-- An allocation handed to its activity; `abandoned` when its handler is gone. -/
structure Credit where
  issue : Issue
  input : SubmitAllocationInput
  run : Run Unit := {}
  abandoned : Bool := false

/-- Where a handler is blocked after its allocation was confirmed. -/
inductive RefreshPhase
  | lookingUp (run : Run Balances)
  | snapshotting (balances : Balances) (run : Run Unit)
  | resetting (balances : Balances) (run : Run Unit)

structure Refresh where
  issue : Issue
  phase : RefreshPhase

/-- What happened so far, for statements about whole runs. -/
structure History where
  delivered : List HeartbeatSignal := []
  dropped : List HeartbeatSignal := []
  succeeded : List HeartbeatSignal := []
  lost : List HeartbeatSignal := []
  issued : List Issue := []
  returned : List (Issue × Except ActivityError IssueCreditResult) := []

structure Execution where
  state : TenantAccountingState
  hbCh : List HeartbeatSignal := []
  regCh : List RegisterClusterSignal := []
  timer : ℕ := 0
  resolved : List ℕ := []
  main : Main := .selecting 0
  credits : List Credit := []
  refreshing : List Refresh := []
  history : History := {}

/-- The reply of one attempt of an activity. -/
inductive Reply
  | batch (reply : Except ActivityError TBBatchResult)
  | balances (reply : Except ActivityError Balances)
  | done (reply : Except ActivityError Unit)

/-- `continuing` tells whether the SDK suggests Continue-As-New at the end of
the iteration. -/
inductive Event
  | heartbeat (sig : HeartbeatSignal)
  | register (sig : RegisterClusterSignal)
  | update (sig : QuotaAdjustmentSignal)
  | receiveHeartbeat (continuing : Bool)
  | receiveRegistration (continuing : Bool)
  | timerFires (timer : ℕ)
  | timerBranch (continuing : Bool)
  | attempt (reached : Bool) (reply : Reply)
  | deliver (continuing : Bool)
  | creditAttempt (i : ℕ) (reached : Bool) (reply : Except ActivityError Unit)
  | creditDeliver (i : ℕ)
  | refreshAttempt (i : ℕ) (reply : Reply)
  | refreshDeliver (i : ℕ)
  | continueAsNew

/-- The reply of the event is one the ledger gives. -/
def Event.asksLedger : Event → Bool
  | .attempt _ (.batch _) | .attempt _ (.balances _) | .creditAttempt _ _ _
  | .refreshAttempt _ (.balances _) => true
  | _ => false

namespace Execution

/-- The first execution of a tenant. -/
def start (input : TenantAccountingInput) : Execution := { state := input.initialState }

variable (h : Blake3) (e : Execution)

def resetTimer : Execution := { e with timer := e.timer + 1 }

def cancelTimer : Execution := { e with resolved := e.timer :: e.resolved }

def setInterval (interval : ℕ) : Execution :=
  { e with state := { e.state with currentFlushInterval := interval } }

/-- `flushBatch` with a batch that is not empty, up to its ledger activity. -/
def beginFlush (site : FlushSite) : Execution :=
  { e with
    state := e.state.countFlush
    main := .submitting site ⟨e.state.flushSeqNo + 1, e.state.countFlush.batchInput h, {}⟩ }

/-- The end of an iteration: back to the selector, or flush and continue as new. -/
def endIteration (continuing : Bool) : Execution :=
  if continuing then
    if e.state.curBatch = [] then { e.cancelTimer with main := .continuing }
    else e.cancelTimer.beginFlush h .continueAsNew
  else { e with main := .selecting e.timer }

/-- What the caller of `flushBatch` does after it returned. -/
def afterFlush (site : FlushSite) (continuing : Bool) : Execution :=
  match site with
  | .threshold | .timer => (e.setInterval baseFlushInterval).resetTimer.endIteration h continuing
  | .continueAsNew => { e with main := .continuing }

/-- The heartbeat branch: skip what was processed, append the rest, flush a full batch. -/
def receiveHeartbeat (continuing : Bool) : Option Execution :=
  match e.main, e.hbCh with
  | .selecting _, sig :: rest =>
    if e.state.alreadyProcessed sig then
      some (endIteration h
        { e with hbCh := rest, history := { e.history with dropped := sig :: e.history.dropped } }
        continuing)
    else
      let e' := { e with hbCh := rest, state := e.state.appendHeartbeat sig }
      if batchSizeThreshold ≤ e'.state.curBatch.length then
        some (e'.cancelTimer.beginFlush h .threshold)
      else some (e'.endIteration h continuing)
  | _, _ => none

def receiveRegistration (continuing : Bool) : Option Execution :=
  match e.main, e.regCh with
  | .selecting _, sig :: rest =>
    some (endIteration h { e with regCh := rest, state := e.state.registerCluster sig } continuing)
  | _, _ => none

/-- The timer branch: the future the selector was built with has resolved. -/
def timerBranch (continuing : Bool) : Option Execution :=
  match e.main with
  | .selecting timer =>
    if timer ∈ e.resolved then
      if e.state.curBatch = [] then
        some ((e.setInterval e.state.idleInterval).resetTimer.endIteration h continuing)
      else some (e.beginFlush h .timer)
    else none
  | _ => none

/-- One attempt of the activity the main loop waits for. -/
def attempt (reached : Bool) (reply : Reply) : Option Execution :=
  match e.main, reply with
  | .submitting site flight, .batch r =>
    (flight.run.attempt maximumAttempts reached r).map fun run =>
      { e with main := .submitting site { flight with run := run } }
  | .lookingUp site run, .balances r =>
    (run.attempt maximumAttempts reached r).map fun run => { e with main := .lookingUp site run }
  | .snapshotting site balances run, .done r =>
    (run.attempt maximumAttempts reached r).map fun run =>
      { e with main := .snapshotting site balances run }
  | .checkingLimits site balances run, .done r =>
    (run.attempt maximumAttempts reached r).map fun run =>
      { e with main := .checkingLimits site balances run }
  | _, _ => none

/-- `flushBatch` after its ledger activity succeeded. -/
def batchSubmitted (site : FlushSite) (input : TBBatchInput) (result : TBBatchResult) : Execution :=
  { e with
    state := e.state.applyBatchResult result
    main := .lookingUp site {}
    history := { e.history with succeeded := input.heartbeats ++ e.history.succeeded } }

/-- The main loop gets the outcome of the activity it waits for. -/
def deliver (continuing : Bool) : Option Execution :=
  match e.main with
  | .submitting site flight =>
    match flight.run.outcome with
    | some (.ok result) => some (e.batchSubmitted site flight.input result)
    | some (.error _) => some (e.afterFlush h site continuing)
    | none => none
  | .lookingUp site run =>
    match run.outcome with
    | some (.ok balances) => some { e with main := .snapshotting site balances {} }
    | some (.error _) => some (e.afterFlush h site continuing)
    | none => none
  | .snapshotting site balances run =>
    if run.outcome.isSome then some { e with main := .checkingLimits site balances {} } else none
  | .checkingLimits site _ run =>
    if run.outcome.isSome then some (e.afterFlush h site continuing) else none
  | _ => none

/-- The update handler up to its allocation, if the validator lets it pass. -/
def update (sig : QuotaAdjustmentSignal) : Option Execution :=
  match e.main with
  | .continuing => none
  | _ =>
    match e.state.validateAdjustment sig with
    | none => some e
    | some r =>
      let issue := ⟨e.history.issued.length, r, sig.amount, e.state.flushSeqNo + 1⟩
      some { e.cancelTimer with
        state := e.state.countFlush
        credits := e.credits ++ [⟨issue, e.state.countFlush.allocationInput h r sig.amount, {}, false⟩]
        history := { e.history with issued := issue :: e.history.issued } }

def creditAttempt (i : ℕ) (reached : Bool) (reply : Except ActivityError Unit) : Option Execution :=
  e.credits[i]?.bind fun c =>
    (c.run.attempt maximumAttempts reached reply).map fun run =>
      { e with credits := e.credits.set i { c with run := run } }

/-- A handler returns: the interval and the timer start over. -/
def handlerReturns (issue : Issue) (result : Except ActivityError IssueCreditResult) : Execution :=
  resetTimer { e.setInterval baseFlushInterval with
    history := { e.history with returned := (issue, result) :: e.history.returned } }

/-- A handler gets the outcome of its allocation. -/
def creditDeliver (i : ℕ) : Option Execution :=
  e.credits[i]?.bind fun c =>
    let e' := { e with credits := e.credits.eraseIdx i }
    match c.run.outcome with
    | none => none
    | some outcome =>
      if c.abandoned then some e'
      else
        match outcome with
        | .error err => some (e'.handlerReturns c.issue (.error err))
        | .ok _ => some { e' with
            state := e.state.clearExceeded c.issue.resource
            refreshing := e.refreshing ++ [⟨c.issue, .lookingUp {}⟩] }

def refreshAttempt (i : ℕ) (reply : Reply) : Option Execution :=
  e.refreshing[i]?.bind fun f =>
    (match f.phase, reply with
      | .lookingUp run, .balances r =>
        (run.attempt maximumAttempts false r).map RefreshPhase.lookingUp
      | .snapshotting balances run, .done r =>
        (run.attempt maximumAttempts false r).map (RefreshPhase.snapshotting balances)
      | .resetting balances run, .done r =>
        (run.attempt maximumAttempts false r).map (RefreshPhase.resetting balances)
      | _, _ => none).map fun phase =>
        { e with refreshing := e.refreshing.set i { f with phase := phase } }

/-- A handler gets the outcome of an activity after its allocation. -/
def refreshDeliver (i : ℕ) : Option Execution :=
  e.refreshing[i]?.bind fun f =>
    let next := fun phase => { e with refreshing := e.refreshing.set i { f with phase := phase } }
    let return_ := fun result =>
      handlerReturns { e with refreshing := e.refreshing.eraseIdx i } f.issue (.ok result)
    match f.phase with
    | .lookingUp run =>
      match run.outcome with
      | some (.ok balances) => some (next (.snapshotting balances {}))
      | some (.error _) => some (return_ {})
      | none => none
    | .snapshotting balances run =>
      if run.outcome.isSome then some (next (.resetting balances {})) else none
    | .resetting balances run =>
      if run.outcome.isSome then some (return_ { balances }) else none

/-- The next execution starts from the carried fields alone. -/
def restarted : Execution where
  state := e.state.carry.initialState
  credits := e.credits.map fun c => { c with abandoned := true }
  history := { e.history with lost := e.hbCh ++ e.state.curBatch ++ e.history.lost }

def continueAsNew : Option Execution :=
  match e.main with
  | .continuing => some e.restarted
  | _ => none

def step : Event → Option Execution
  | .heartbeat sig => some { e with
      hbCh := e.hbCh ++ [sig]
      history := { e.history with delivered := sig :: e.history.delivered } }
  | .register sig => some { e with regCh := e.regCh ++ [sig] }
  | .update sig => e.update h sig
  | .receiveHeartbeat continuing => e.receiveHeartbeat h continuing
  | .receiveRegistration continuing => e.receiveRegistration h continuing
  | .timerFires timer =>
    if timer ≤ e.timer then some { e with resolved := timer :: e.resolved } else none
  | .timerBranch continuing => e.timerBranch h continuing
  | .attempt reached reply => e.attempt reached reply
  | .deliver continuing => e.deliver h continuing
  | .creditAttempt i reached reply => e.creditAttempt i reached reply
  | .creditDeliver i => e.creditDeliver i
  | .refreshAttempt i reply => e.refreshAttempt i reply
  | .refreshDeliver i => e.refreshDeliver i
  | .continueAsNew => e.continueAsNew

end Execution
end CloudCredit.Accounting
