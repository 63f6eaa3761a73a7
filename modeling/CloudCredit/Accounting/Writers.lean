import CloudCredit.Accounting.Heartbeats

/-!
# How many ledger writers a tenant has

A writer is an activity that writes to the ledger and whose outcome has not been
delivered: the batch in flight and every allocation. The update handler cancels
the timer the main loop waits for, which wakes the loop into a flush while the
allocation is still running, so nothing in the workflow keeps the two apart. If
credits and flushes do not overlap in time, there is never more than one writer.
-/
namespace CloudCredit.Accounting.Execution

open Library TigerBeetle Domain Ledger

variable {h : Blake3} {e e' : Execution}

/-- The outstanding activities that write to the ledger. -/
def writers (e : Execution) : ℕ := e.credits.length + if e.main.flight.isSome then 1 else 0

/-- The branch the main loop takes begins no flush: the timer finds an empty
batch, the batch does not fill up, and Continue-As-New is suggested with an
empty batch only. -/
def FlushesNothing (e : Execution) : Event → Prop
  | .timerBranch _ => e.state.curBatch = []
  | .receiveHeartbeat continuing =>
    e.state.curBatch.length + 1 < batchSizeThreshold ∧ continuing = false
  | .receiveRegistration continuing | .deliver continuing =>
    continuing = true → e.state.curBatch = []
  | _ => True

/-- An update is accepted only while nothing is being written. -/
def AcceptsIdle (e : Execution) : Event → Prop
  | .update sig => e.state.validateAdjustment sig ≠ none → e.writers = 0
  | _ => True

/-- Credits and flushes do not overlap: an update is accepted while nothing is
being written, and during an allocation the main loop flushes nothing. -/
def Serial (e : Execution) (ev : Event) : Prop :=
  AcceptsIdle e ev ∧ (e.credits ≠ [] → FlushesNothing e ev)

theorem idle_of_writers (hidle : e.writers = 0) : e.credits = [] ∧ e.main.flight = none := by
  cases hflight : e.main.flight with
  | none => simpa [writers, hflight] using hidle
  | some f => simp [writers, hflight] at hidle

theorem beginFlush_writers (site : FlushSite) (hc : e.credits = []) :
    (e.beginFlush h site).writers = 1 := by
  simp [writers, beginFlush, Main.flight, hc]

theorem endIteration_writers (continuing : Bool) (hle : e.credits.length ≤ 1)
    (hq : e.credits ≠ [] → continuing = true → e.state.curBatch = []) :
    (e.endIteration h continuing).writers ≤ 1 := by
  unfold endIteration
  split_ifs with hc hb
  · exact hle
  · by_cases hcr : e.credits = []
    · exact (beginFlush_writers (e := e.cancelTimer) _ hcr).le
    · exact absurd (hq hcr hc) hb
  · exact hle

theorem afterFlush_writers (site : FlushSite) (continuing : Bool) (hle : e.credits.length ≤ 1)
    (hq : e.credits ≠ [] → continuing = true → e.state.curBatch = []) :
    (e.afterFlush h site continuing).writers ≤ 1 := by
  cases site with
  | threshold => exact endIteration_writers continuing hle hq
  | timer => exact endIteration_writers continuing hle hq
  | continueAsNew => exact hle

theorem credits_le_of_writers (hw : e.writers ≤ 1) : e.credits.length ≤ 1 :=
  (Nat.le_add_right _ _).trans hw

theorem receiveHeartbeat_writers {continuing : Bool} (hw : e.writers ≤ 1)
    (hserial : Serial e (.receiveHeartbeat continuing))
    (hs : e.receiveHeartbeat h continuing = some e') : e'.writers ≤ 1 := by
  have hle := credits_le_of_writers hw
  have hends : e.credits ≠ [] → continuing = true → False := by
    intro hc hcont
    rw [(hserial.2 hc).2] at hcont
    cases hcont
  cases receiveHeartbeat_cases hs with
  | skipped hm hch hseen =>
    exact endIteration_writers continuing hle fun hc hcont => (hends hc hcont).elim
  | @filled timer sig rest hm hch hseen hfull =>
    have hlen : (e.state.appendHeartbeat sig).curBatch.length = e.state.curBatch.length + 1 := by
      simp [TenantAccountingState.appendHeartbeat]
    have hc : e.credits = [] := by
      by_contra hc
      have := (hserial.2 hc).1
      omega
    apply le_of_eq
    apply beginFlush_writers
    exact hc
  | appended hm hch hseen hroom =>
    exact endIteration_writers continuing hle fun hc hcont => (hends hc hcont).elim

theorem receiveRegistration_writers {continuing : Bool} (hw : e.writers ≤ 1)
    (hserial : Serial e (.receiveRegistration continuing))
    (hs : e.receiveRegistration h continuing = some e') : e'.writers ≤ 1 := by
  obtain ⟨timer, sig, rest, hm, hch, rfl⟩ := receiveRegistration_cases hs
  refine endIteration_writers continuing (credits_le_of_writers hw) fun hc hcont => ?_
  rw [TenantAccountingState.registerCluster_curBatch]
  exact hserial.2 hc hcont

theorem timerBranch_writers {continuing : Bool} (hw : e.writers ≤ 1)
    (hserial : Serial e (.timerBranch continuing)) (hs : e.timerBranch h continuing = some e') :
    e'.writers ≤ 1 := by
  cases timerBranch_cases hs with
  | idle hm hres hb =>
    exact endIteration_writers continuing (credits_le_of_writers hw) fun _ _ => hb
  | flushed hm hres hb =>
    have hc : e.credits = [] := by
      by_contra hc
      exact hb (hserial.2 hc)
    exact (beginFlush_writers _ hc).le

theorem attempt_writers {reached : Bool} {reply : Reply} (hs : e.attempt reached reply = some e') :
    e'.writers = e.writers := by
  cases attempt_cases hs with
  | batch hm hrun => simp [writers, hm, Main.flight]
  | lookup hm hrun => simp [writers, hm, Main.flight]
  | snapshot hm hrun => simp [writers, hm, Main.flight]
  | limits hm hrun => simp [writers, hm, Main.flight]

theorem deliver_writers {continuing : Bool} (hw : e.writers ≤ 1)
    (hserial : Serial e (.deliver continuing)) (hs : e.deliver h continuing = some e') :
    e'.writers ≤ 1 := by
  have hle := credits_le_of_writers hw
  have hafter : ∀ site, (e.afterFlush h site continuing).writers ≤ 1 := fun site =>
    afterFlush_writers site continuing hle fun hc => hserial.2 hc
  cases deliver_cases hs with
  | submitted hm hout => exact hle
  | failed hm hout => exact hafter _
  | lookedUp hm hout => exact hle
  | notFound hm hout => exact hafter _
  | snapshotted hm hout => exact hle
  | checked hm hout => exact hafter _

theorem update_writers {sig : QuotaAdjustmentSignal} (hw : e.writers ≤ 1)
    (hserial : Serial e (.update sig)) (hs : e.update h sig = some e') : e'.writers ≤ 1 := by
  cases update_cases hs with
  | refused hm hvalid => exact hw
  | accepted hm hvalid =>
    have hnone := hserial.1 (by simp [hvalid])
    have hadd : ∀ c, ({ e with credits := e.credits ++ [c] } : Execution).writers =
        e.writers + 1 := by
      intro c
      simp only [writers, List.length_append, List.length_singleton]
      omega
    exact (hadd _).le.trans (by omega)

theorem creditDeliver_writers {i : ℕ} (hw : e.writers ≤ 1) (hs : e.creditDeliver i = some e') :
    e'.writers ≤ 1 := by
  have hlen := List.length_eraseIdx_le e.credits i
  have herase : ({ e with credits := e.credits.eraseIdx i } : Execution).writers ≤ 1 := by
    simp only [writers] at hw ⊢
    omega
  cases creditDeliver_cases hs with
  | abandoned hi hout hgone => exact herase
  | failed hi hout hown => exact herase
  | confirmed hi hout hown => exact herase

theorem refreshDeliver_writers {i : ℕ} (hs : e.refreshDeliver i = some e') :
    e'.writers = e.writers := by
  cases refreshDeliver_cases hs <;> rfl

/-- A step that keeps credits and flushes apart keeps the writers at one. -/
theorem step_writers {ev : Event} (hw : e.writers ≤ 1) (hserial : Serial e ev)
    (hs : e.step h ev = some e') : e'.writers ≤ 1 := by
  cases ev with
  | heartbeat sig =>
    cases hs
    exact hw
  | register sig =>
    cases hs
    exact hw
  | update sig => exact update_writers hw hserial hs
  | receiveHeartbeat continuing => exact receiveHeartbeat_writers hw hserial hs
  | receiveRegistration continuing => exact receiveRegistration_writers hw hserial hs
  | timerFires timer =>
    simp only [step] at hs
    split_ifs at hs
    cases hs
    exact hw
  | timerBranch continuing => exact timerBranch_writers hw hserial hs
  | attempt reached reply => exact (attempt_writers hs).trans_le hw
  | deliver continuing => exact deliver_writers hw hserial hs
  | creditAttempt i reached reply =>
    obtain ⟨c, -, hs⟩ := Option.bind_eq_some_iff.mp hs
    obtain ⟨run, -, rfl⟩ := Option.map_eq_some_iff.mp hs
    simpa [writers] using hw
  | creditDeliver i => exact creditDeliver_writers hw hs
  | refreshAttempt i reply =>
    obtain ⟨f, -, hs⟩ := Option.bind_eq_some_iff.mp hs
    obtain ⟨phase, -, rfl⟩ := Option.map_eq_some_iff.mp hs
    exact hw
  | refreshDeliver i => exact (refreshDeliver_writers hs).trans_le hw
  | continueAsNew =>
    obtain ⟨-, rfl⟩ := continueAsNew_some hs
    have hle := credits_le_of_writers hw
    simpa [writers, restarted, Main.flight] using hle

/-- In every run in which credits and flushes do not overlap, at most one
ledger-writing activity is outstanding in every state. -/
theorem single_writer_of_serial (input : TenantAccountingInput) (es : List Event)
    (hserial : Along (step h) Serial (start input) es)
    (hr : runSteps (step h) (start input) es = some e) : e.writers ≤ 1 :=
  invariant_along (step h) (P := fun e => e.writers ≤ 1)
    (fun _ _ _ hw hC hs => step_writers hw hC hs) (by simp [writers, start, Main.flight]) hserial hr

instance (e : Execution) (ev : Event) : Decidable (FlushesNothing e ev) :=
  match ev with
  | .timerBranch _ => inferInstanceAs (Decidable (e.state.curBatch = []))
  | .receiveHeartbeat continuing => inferInstanceAs
      (Decidable (e.state.curBatch.length + 1 < batchSizeThreshold ∧ continuing = false))
  | .receiveRegistration continuing | .deliver continuing =>
    inferInstanceAs (Decidable (continuing = true → e.state.curBatch = []))
  | .heartbeat _ | .register _ | .update _ | .timerFires _ | .attempt _ _ | .creditAttempt _ _ _
  | .creditDeliver _ | .refreshAttempt _ _ | .refreshDeliver _ | .continueAsNew => .isTrue trivial

instance (e : Execution) (ev : Event) : Decidable (AcceptsIdle e ev) :=
  match ev with
  | .update sig =>
    inferInstanceAs (Decidable (e.state.validateAdjustment sig ≠ none → e.writers = 0))
  | .heartbeat _ | .register _ | .receiveHeartbeat _ | .receiveRegistration _ | .timerFires _
  | .timerBranch _ | .attempt _ _ | .deliver _ | .creditAttempt _ _ _ | .creditDeliver _
  | .refreshAttempt _ _ | .refreshDeliver _ | .continueAsNew => .isTrue trivial

instance (e : Execution) (ev : Event) : Decidable (Serial e ev) :=
  inferInstanceAs (Decidable (_ ∧ _))

/-- A credit is issued and confirmed before the timer flushes the batch. -/
def serialCredit : List Event :=
  [.heartbeat (sampleHeartbeat 1), .receiveHeartbeat false, .update sampleCredit,
    .creditAttempt 0 true (.ok ()), .creditDeliver 0, .timerBranch false]

theorem serialCredit_has_one_writer :
    ∃ e, runSteps (step .positional) (start sampleInput) serialCredit = some e ∧
      e.writers ≤ 1 := by
  obtain ⟨e, he⟩ := Option.isSome_iff_exists.mp
    (show (runSteps (step .positional) (start sampleInput) serialCredit).isSome = true by decide)
  exact ⟨e, he, single_writer_of_serial sampleInput serialCredit
    (along_of_alongTest (step .positional) (by decide)) he⟩

/-- A credit is accepted while a heartbeat is in the batch. The handler cancels
the timer, and the cancelled timer wakes the main loop. -/
def overlappingCredit : List Event :=
  [.heartbeat (sampleHeartbeat 1), .receiveHeartbeat false, .update sampleCredit,
    .timerBranch false]

theorem overlappingCredit_has_two_writers :
    ∃ e, runSteps (step .positional) (start sampleInput) overlappingCredit = some e ∧
      e.writers = 2 := by
  obtain ⟨e, he, hw⟩ := runSteps_any (step .positional) (start sampleInput) overlappingCredit
    (fun e => e.writers = 2) (by decide)
  exact ⟨e, he, by simpa using hw⟩

end CloudCredit.Accounting.Execution
