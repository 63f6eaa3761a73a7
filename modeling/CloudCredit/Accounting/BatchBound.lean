import CloudCredit.Accounting.Moves

/-!
# The size of a batch

A batch that reaches the threshold is flushed at once. When that flush succeeds the batch is
empty again. When it fails the batch is kept, and the next heartbeat is added to it.
-/
namespace CloudCredit.Accounting

open Library TigerBeetle Domain Ledger

/-- The main loop flushes a batch that may be full, or is about to continue as new. -/
def Main.mayBeFull : Main → Bool
  | .submitting .threshold _ | .submitting .continueAsNew _ | .continuing => true
  | _ => false

/-- The event moves an update handler. -/
def Event.ofHandler : Event → Bool
  | .update _ | .creditAttempt _ _ _ | .creditDeliver _ | .refreshAttempt _ _ | .refreshDeliver _ =>
    true
  | _ => false

namespace Execution

/-- The event tells the main loop that the flush of a full batch failed. -/
def fullFlushFails (e : Execution) : Event → Bool
  | .deliver _ =>
    match e.main with
    | .submitting .threshold flight =>
      match flight.run.outcome with
      | some (.error _) => true
      | _ => false
    | _ => false
  | _ => false

/-- The batch, and the one that is being submitted, do not exceed the threshold. -/
structure Bounded (e : Execution) : Prop where
  batch : e.state.curBatch.length ≤ batchSizeThreshold
  room : e.main.mayBeFull = false → e.state.curBatch.length < batchSizeThreshold
  flight : ∀ f, e.main.flight = some f → f.input.heartbeats.length ≤ batchSizeThreshold

namespace Bounded

variable {h : Blake3} {e e' : Execution} {ev : Event}

theorem of_lt (hlt : e.state.curBatch.length < batchSizeThreshold) (hidle : e.main.flight = none) :
    Bounded e :=
  ⟨Nat.le_of_lt hlt, fun _ => hlt, fun f hf => by simp [hidle] at hf⟩

theorem of_eq (hb : Bounded e) (hbatch : e'.state.curBatch = e.state.curBatch)
    (hmain : e'.main = e.main) : Bounded e' :=
  ⟨hbatch ▸ hb.batch, fun hm => hbatch ▸ hb.room (hmain ▸ hm), fun f hf => hb.flight f (hmain ▸ hf)⟩

theorem beginFlush (hle : e.state.curBatch.length ≤ batchSizeThreshold) (site : FlushSite)
    (hsite : site = .timer → e.state.curBatch.length < batchSizeThreshold) :
    Bounded (e.beginFlush h site) := by
  refine ⟨hle, fun hfull => ?_, fun f hf => ?_⟩
  · cases site with
    | timer => exact hsite rfl
    | _ => cases hfull
  · cases hf
    exact hle

theorem endIteration (hlt : e.state.curBatch.length < batchSizeThreshold) (continuing : Bool) :
    Bounded (e.endIteration h continuing) := by
  unfold Execution.endIteration
  split_ifs with hc hnil
  · exact of_lt hlt rfl
  · exact beginFlush (e := e.cancelTimer) (Nat.le_of_lt hlt) _ fun _ => hlt
  · exact of_lt hlt rfl

theorem afterFlush (hle : e.state.curBatch.length ≤ batchSizeThreshold) (site : FlushSite)
    (continuing : Bool)
    (hsite : site ≠ .continueAsNew → e.state.curBatch.length < batchSizeThreshold) :
    Bounded (e.afterFlush h site continuing) := by
  have hback : site ≠ .continueAsNew → Bounded
      ((e.setInterval baseFlushInterval).resetTimer.endIteration h continuing) := fun hne =>
    endIteration (e := (e.setInterval baseFlushInterval).resetTimer) (hsite hne) continuing
  cases site with
  | threshold => exact hback (by simp)
  | timer => exact hback (by simp)
  | continueAsNew =>
    refine ⟨hle, fun hfull => ?_, fun f hf => ?_⟩
    · cases hfull
    · cases hf

theorem receiveHeartbeat (hb : Bounded e) {continuing : Bool}
    (hs : e.receiveHeartbeat h continuing = some e') : Bounded e' := by
  unfold Execution.receiveHeartbeat at hs
  split at hs
  · rename_i timer sig rest hm hch
    have hlt := hb.room (by rw [hm]; rfl)
    have hlen : (e.state.appendHeartbeat sig).curBatch.length = e.state.curBatch.length + 1 := by
      simp [TenantAccountingState.appendHeartbeat]
    dsimp only at hs
    split_ifs at hs with hseen hfull
    · cases hs
      refine endIteration ?_ continuing
      exact hlt
    · cases hs
      exact beginFlush (e := cancelTimer { e with hbCh := rest, state := e.state.appendHeartbeat sig })
        (hlen.trans_le hlt) _ (by simp)
    · cases hs
      exact endIteration (Nat.not_le.mp hfull) continuing
  · cases hs

theorem receiveRegistration (hb : Bounded e) {continuing : Bool}
    (hs : e.receiveRegistration h continuing = some e') : Bounded e' := by
  unfold Execution.receiveRegistration at hs
  split at hs
  · rename_i timer sig rest hm hch
    have hlt := hb.room (by rw [hm]; rfl)
    cases hs
    refine endIteration ?_ continuing
    rw [e.state.registerCluster_curBatch sig]
    exact hlt
  · cases hs

theorem timerBranch (hb : Bounded e) {continuing : Bool}
    (hs : e.timerBranch h continuing = some e') : Bounded e' := by
  unfold Execution.timerBranch at hs
  split at hs
  · rename_i timer hm
    have hlt := hb.room (by rw [hm]; rfl)
    split_ifs at hs with hres hnil
    · cases hs
      refine endIteration ?_ continuing
      exact hlt
    · cases hs
      exact beginFlush (Nat.le_of_lt hlt) _ fun _ => hlt
  · cases hs

theorem attempt (hb : Bounded e) {reached : Bool} {reply : Reply}
    (hs : e.attempt reached reply = some e') : Bounded e' := by
  unfold Execution.attempt at hs
  split at hs
  · rename_i site flight r hm
    obtain ⟨run, -, rfl⟩ := Option.map_eq_some_iff.mp hs
    refine ⟨hb.batch, fun hfull => hb.room ?_, fun f hf => ?_⟩
    · rw [hm]
      cases site <;> exact hfull
    · cases hf
      exact hb.flight flight (by rw [hm]; rfl)
  · rename_i hm
    obtain ⟨run, -, rfl⟩ := Option.map_eq_some_iff.mp hs
    exact of_lt (hb.room (by rw [hm]; rfl)) rfl
  · rename_i hm
    obtain ⟨run, -, rfl⟩ := Option.map_eq_some_iff.mp hs
    exact of_lt (hb.room (by rw [hm]; rfl)) rfl
  · rename_i hm
    obtain ⟨run, -, rfl⟩ := Option.map_eq_some_iff.mp hs
    exact of_lt (hb.room (by rw [hm]; rfl)) rfl
  · cases hs

theorem deliver (hb : Bounded e) {continuing : Bool} (hs : e.deliver h continuing = some e')
    (hc : e.fullFlushFails (.deliver continuing) = false) : Bounded e' := by
  unfold Execution.deliver at hs
  split at hs
  · rename_i site flight hm
    split at hs
    · cases hs
      exact of_lt (by simp [batchSubmitted, TenantAccountingState.applyBatchResult,
        batchSizeThreshold]) rfl
    · rename_i err hout
      cases hs
      refine afterFlush hb.batch site continuing fun hsite => hb.room ?_
      rw [hm]
      cases site with
      | threshold => simp [fullFlushFails, hm, hout] at hc
      | timer => rfl
      | continueAsNew => exact absurd rfl hsite
    · cases hs
  · rename_i site run hm
    have hlt := hb.room (by rw [hm]; rfl)
    split at hs
    · cases hs
      exact of_lt hlt rfl
    · cases hs
      exact afterFlush hb.batch site continuing fun _ => hlt
    · cases hs
  · rename_i site balances run hm
    have hlt := hb.room (by rw [hm]; rfl)
    split_ifs at hs
    cases hs
    exact of_lt hlt rfl
  · rename_i site balances run hm
    have hlt := hb.room (by rw [hm]; rfl)
    split_ifs at hs
    cases hs
    exact afterFlush hb.batch site continuing fun _ => hlt
  · cases hs

theorem handler_step (hs : e.step h ev = some e') (hev : ev.ofHandler = true) :
    e'.state.curBatch = e.state.curBatch ∧ e'.main = e.main := by
  cases ev with
  | update sig => cases update_cases hs <;> exact ⟨rfl, rfl⟩
  | creditAttempt i reached reply =>
    obtain ⟨c, -, hs⟩ := Option.bind_eq_some_iff.mp hs
    obtain ⟨run, -, rfl⟩ := Option.map_eq_some_iff.mp hs
    exact ⟨rfl, rfl⟩
  | creditDeliver i => cases creditDeliver_cases hs <;> exact ⟨rfl, rfl⟩
  | refreshAttempt i reply =>
    obtain ⟨f, -, hs⟩ := Option.bind_eq_some_iff.mp hs
    obtain ⟨phase, -, rfl⟩ := Option.map_eq_some_iff.mp hs
    exact ⟨rfl, rfl⟩
  | refreshDeliver i => cases refreshDeliver_cases hs <;> exact ⟨rfl, rfl⟩
  | _ => cases hev

theorem step (hb : Bounded e) (hc : e.fullFlushFails ev = false) (hs : e.step h ev = some e') :
    Bounded e' := by
  cases ev with
  | heartbeat sig =>
    cases hs
    exact hb.of_eq rfl rfl
  | register sig =>
    cases hs
    exact hb.of_eq rfl rfl
  | timerFires timer =>
    simp only [Execution.step] at hs
    split_ifs at hs
    cases hs
    exact hb.of_eq rfl rfl
  | receiveHeartbeat continuing => exact hb.receiveHeartbeat hs
  | receiveRegistration continuing => exact hb.receiveRegistration hs
  | timerBranch continuing => exact hb.timerBranch hs
  | attempt reached reply => exact hb.attempt hs
  | deliver continuing => exact hb.deliver hs hc
  | continueAsNew =>
    obtain ⟨-, rfl⟩ := continueAsNew_some hs
    exact of_lt (by simp [restarted, TenantAccountingInput.initialState, batchSizeThreshold]) rfl
  | _ => exact hb.of_eq (handler_step hs rfl).1 (handler_step hs rfl).2

theorem start (input : TenantAccountingInput) : Bounded (.start input) :=
  of_lt (by simp [Execution.start, TenantAccountingInput.initialState, batchSizeThreshold]) rfl

end Bounded

/-- As long as no flush of a full batch fails, the batch never exceeds the threshold, and no
larger one is submitted. -/
theorem batch_bounded (h : Blake3) (input : TenantAccountingInput) (es : List Event) (e : Execution)
    (hr : runSteps (step h) (start input) es = some e)
    (hc : Along (step h) (fun e ev => e.fullFlushFails ev = false) (start input) es) :
    e.state.curBatch.length ≤ batchSizeThreshold ∧
      ∀ f, e.main.flight = some f → f.input.heartbeats.length ≤ batchSizeThreshold := by
  have hb : Bounded e := invariant_along (step h)
    (fun _ _ _ hb hc hs => Bounded.step hb hc hs) (Bounded.start input) hc hr
  exact ⟨hb.batch, hb.flight⟩

/-- A number of heartbeats that arrive and are received one after the other. -/
def sampleBurst (n : ℕ) : List Event :=
  (List.replicate n [Event.heartbeat (sampleHeartbeat 1), .receiveHeartbeat false]).flatten

/-- The ledger activity fails in all its attempts, and the main loop is told so. -/
def sampleFailure : List Event :=
  List.replicate maximumAttempts (.attempt false (.batch (.error .timeout))) ++ [.deliver false]

/-- Two heartbeats stay in the batch when a timer flush fails. -/
theorem small_batch_bounded : ∃ e,
    runSteps (step .positional) (start sampleInput)
        (sampleBurst 2 ++ [.timerFires 0, .timerBranch false] ++ sampleFailure) = some e ∧
      e.state.curBatch.length = 2 ∧ e.state.curBatch.length ≤ batchSizeThreshold := by
  obtain ⟨e, hr, hlen⟩ := runSteps_any (step .positional) (start sampleInput)
    (sampleBurst 2 ++ [.timerFires 0, .timerBranch false] ++ sampleFailure)
    (fun e => e.state.curBatch.length = 2) (by decide +kernel)
  exact ⟨e, hr, of_decide_eq_true hlen, (batch_bounded .positional sampleInput _ e hr
    (along_of_alongTest (step .positional) (by decide +kernel))).1⟩

/-- The flush of a full batch fails, and one more heartbeat is received. -/
theorem full_batch_grows : ∃ e,
    runSteps (step .positional) (start sampleInput)
        (sampleBurst batchSizeThreshold ++ sampleFailure ++ sampleBurst 1) = some e ∧
      batchSizeThreshold < e.state.curBatch.length ∧
      ∃ f, e.main.flight = some f ∧ batchSizeThreshold < f.input.heartbeats.length := by
  obtain ⟨e, hr, hlen⟩ := runSteps_any (step .positional) (start sampleInput)
    (sampleBurst batchSizeThreshold ++ sampleFailure ++ sampleBurst 1)
    (fun e => batchSizeThreshold < e.state.curBatch.length &&
      e.main.flight.any (batchSizeThreshold < ·.input.heartbeats.length)) (by decide +kernel)
  rw [Bool.and_eq_true, Option.any_eq_true_iff_get] at hlen
  obtain ⟨hlen, hsome, hflight⟩ := hlen
  exact ⟨e, hr, of_decide_eq_true hlen, e.main.flight.get hsome, (Option.some_get hsome).symm,
    of_decide_eq_true hflight⟩

end Execution

end CloudCredit.Accounting
