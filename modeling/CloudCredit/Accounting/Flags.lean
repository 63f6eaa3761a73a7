import CloudCredit.Accounting.Moves

/-!
# What a step does to the exceeded flags

The flags change when the result of a batch is delivered and when an allocation is
confirmed to its handler. Between these points a batch may be in flight and handlers
may wait for their allocations.
-/
namespace CloudCredit.Accounting

open Library TigerBeetle Domain Ledger

/-- What a step that asks nothing of the ledger does to the flags, the batch in flight
and the allocations. -/
inductive FlagStep (e e' : Execution) : Prop
  | rests (hflags : e'.state.exceededResources = e.state.exceededResources)
      (hflight : e'.main.flight = e.main.flight) (hcredits : e'.credits = e.credits)
  | moves (hidle : e.main.flight = none)
      (hflags : e'.state.exceededResources = e.state.exceededResources)
      (hfresh : ∀ f, e'.main.flight = some f → f.run = {}) (hcredits : e'.credits = e.credits)
  | succeeds {f : Flight} {R : TBBatchResult} (hflight : e.main.flight = some f)
      (hout : f.run.outcome = some (.ok R))
      (hflags : e'.state.exceededResources =
        applyExceeded e.state.exceededResources R.perResource)
      (hidle : e'.main.flight = none) (hcredits : e'.credits = e.credits)
  | fails {f : Flight} {err : ActivityError} (hflight : e.main.flight = some f)
      (hout : f.run.outcome = some (.error err))
      (hflags : e'.state.exceededResources = e.state.exceededResources)
      (hfresh : ∀ f, e'.main.flight = some f → f.run = {}) (hcredits : e'.credits = e.credits)
  | accepts {c : Credit} (hrun : c.run = {})
      (hflags : e'.state.exceededResources = e.state.exceededResources)
      (hflight : e'.main.flight = e.main.flight) (hcredits : e'.credits = e.credits ++ [c])
  | ends {i : ℕ} {c : Credit} {outcome : Except ActivityError Unit}
      (hi : e.credits[i]? = some c) (hout : c.run.outcome = some outcome)
      (hend : c.abandoned = true ∨ ∃ err, outcome = .error err)
      (hflags : e'.state.exceededResources = e.state.exceededResources)
      (hflight : e'.main.flight = e.main.flight) (hcredits : e'.credits = e.credits.eraseIdx i)
  | confirms {i : ℕ} {c : Credit} (hi : e.credits[i]? = some c)
      (hout : c.run.outcome = some (.ok ()))
      (hflags : e'.state.exceededResources = e.state.exceededResources.erase c.issue.resource)
      (hflight : e'.main.flight = e.main.flight) (hcredits : e'.credits = e.credits.eraseIdx i)
  | restarts (hidle : e.main.flight = none) (hidle' : e'.main.flight = none)
      (hflags : e'.state.exceededResources = e.state.exceededResources)
      (hcredits : e'.credits = e.credits.map fun c => { c with abandoned := true })

namespace Execution

variable {h : Blake3} {e e' : Execution} {ev : Event}

/-- The main loop goes on: at most a new batch is handed over. -/
structure GoesOn (e e' : Execution) : Prop where
  flags : e'.state.exceededResources = e.state.exceededResources
  fresh : ∀ f, e'.main.flight = some f → f.run = {}
  credits : e'.credits = e.credits

theorem GoesOn.step (hg : GoesOn e e') (hidle : e.main.flight = none) : FlagStep e e' :=
  .moves hidle hg.flags hg.fresh hg.credits

theorem beginFlush_goesOn (site : FlushSite) : GoesOn e (e.beginFlush h site) := by
  refine ⟨rfl, fun f hf => ?_, rfl⟩
  cases hf
  rfl

theorem endIteration_goesOn (continuing : Bool) : GoesOn e (e.endIteration h continuing) := by
  unfold endIteration
  split_ifs
  · exact ⟨rfl, fun f hf => (by cases hf), rfl⟩
  · obtain ⟨hflags, hfresh, hcredits⟩ := e.cancelTimer.beginFlush_goesOn (h := h) .continueAsNew
    exact ⟨hflags, hfresh, hcredits⟩
  · exact ⟨rfl, fun f hf => (by cases hf), rfl⟩

theorem afterFlush_goesOn (site : FlushSite) (continuing : Bool) :
    GoesOn e (e.afterFlush h site continuing) := by
  obtain ⟨hflags, hfresh, hcredits⟩ :=
    ((e.setInterval baseFlushInterval).resetTimer).endIteration_goesOn (h := h) continuing
  cases site with
  | threshold => exact ⟨hflags, hfresh, hcredits⟩
  | timer => exact ⟨hflags, hfresh, hcredits⟩
  | continueAsNew => exact ⟨rfl, fun f hf => (by cases hf), rfl⟩

theorem receiveHeartbeat_flags {continuing : Bool}
    (hs : e.receiveHeartbeat h continuing = some e') : FlagStep e e' := by
  cases receiveHeartbeat_cases hs with
  | @skipped timer sig rest hm hch hseen =>
    obtain ⟨hflags, hfresh, hcredits⟩ := endIteration_goesOn (h := h) (e := { e with
      hbCh := rest
      history := { e.history with dropped := sig :: e.history.dropped } }) continuing
    exact .moves (flight_none_of_selecting hm) hflags hfresh hcredits
  | filled hm hch hseen hfull =>
    refine .moves (flight_none_of_selecting hm) rfl (fun f hf => ?_) rfl
    cases hf
    rfl
  | @appended timer sig rest hm hch hseen hroom =>
    obtain ⟨hflags, hfresh, hcredits⟩ := endIteration_goesOn (h := h) (e := { e with
      hbCh := rest
      state := e.state.appendHeartbeat sig }) continuing
    exact .moves (flight_none_of_selecting hm) hflags hfresh hcredits

theorem receiveRegistration_flags {continuing : Bool}
    (hs : e.receiveRegistration h continuing = some e') : FlagStep e e' := by
  obtain ⟨timer, sig, rest, hm, hch, rfl⟩ := receiveRegistration_cases hs
  obtain ⟨hflags, hfresh, hcredits⟩ := endIteration_goesOn (h := h) (e := { e with
    regCh := rest
    state := e.state.registerCluster sig }) continuing
  refine .moves (flight_none_of_selecting hm) (hflags.trans ?_) hfresh hcredits
  unfold TenantAccountingState.registerCluster
  split <;> rfl

theorem timerBranch_flags {continuing : Bool} (hs : e.timerBranch h continuing = some e') :
    FlagStep e e' := by
  cases timerBranch_cases hs with
  | idle hm hres hb =>
    obtain ⟨hflags, hfresh, hcredits⟩ := endIteration_goesOn (h := h)
      (e := (e.setInterval e.state.idleInterval).resetTimer) continuing
    exact .moves (flight_none_of_selecting hm) hflags hfresh hcredits
  | flushed hm hres hb => exact (beginFlush_goesOn .timer).step (flight_none_of_selecting hm)

theorem deliver_flags {continuing : Bool} (hs : e.deliver h continuing = some e') :
    FlagStep e e' := by
  cases deliver_cases hs with
  | submitted hm hout => exact .succeeds (by rw [hm]; rfl) hout rfl rfl rfl
  | @failed site flight err hm hout =>
    obtain ⟨hflags, hfresh, hcredits⟩ := e.afterFlush_goesOn (h := h) site continuing
    exact .fails (by rw [hm]; rfl) hout hflags hfresh hcredits
  | lookedUp hm hout => exact .moves (by rw [hm]; rfl) rfl (fun f hf => by cases hf) rfl
  | @notFound site run err hm hout =>
    exact (afterFlush_goesOn site continuing).step (by rw [hm]; rfl)
  | snapshotted hm hout => exact .moves (by rw [hm]; rfl) rfl (fun f hf => by cases hf) rfl
  | @checked site balances run hm hout =>
    exact (afterFlush_goesOn site continuing).step (by rw [hm]; rfl)

theorem update_flags {sig : QuotaAdjustmentSignal} (hs : e.update h sig = some e') :
    FlagStep e e' := by
  cases update_cases hs with
  | refused hm hvalid => exact .rests rfl rfl rfl
  | accepted hm hvalid => exact .accepts rfl rfl rfl rfl

theorem creditDeliver_flags {i : ℕ} (hs : e.creditDeliver i = some e') : FlagStep e e' := by
  cases creditDeliver_cases hs with
  | abandoned hi hout hgone => exact .ends hi hout (.inl hgone) rfl rfl rfl
  | @failed c err hi hout hown => exact .ends hi hout (.inr ⟨err, rfl⟩) rfl rfl rfl
  | confirmed hi hout hown => exact .confirms hi hout rfl rfl rfl

theorem refreshDeliver_flags {i : ℕ} (hs : e.refreshDeliver i = some e') : FlagStep e e' := by
  cases refreshDeliver_cases hs <;> exact .rests rfl rfl rfl

theorem step_flags (hask : ev.asksLedger = false) (hs : e.step h ev = some e') : FlagStep e e' := by
  cases ev with
  | heartbeat sig =>
    cases hs
    exact .rests rfl rfl rfl
  | register sig =>
    cases hs
    exact .rests rfl rfl rfl
  | update sig => exact update_flags hs
  | receiveHeartbeat continuing => exact receiveHeartbeat_flags hs
  | receiveRegistration continuing => exact receiveRegistration_flags hs
  | timerFires timer =>
    simp only [step] at hs
    split_ifs at hs
    cases hs
    exact .rests rfl rfl rfl
  | timerBranch continuing => exact timerBranch_flags hs
  | attempt reached reply =>
    cases attempt_cases hs with
    | batch hm hrun => cases hask
    | lookup hm hrun => cases hask
    | snapshot hm hrun => exact .rests rfl (by rw [hm]; rfl) rfl
    | limits hm hrun => exact .rests rfl (by rw [hm]; rfl) rfl
  | deliver continuing => exact deliver_flags hs
  | creditAttempt => cases hask
  | creditDeliver i => exact creditDeliver_flags hs
  | refreshAttempt i reply =>
    obtain ⟨f, hi, hs⟩ := Option.bind_eq_some_iff.mp hs
    obtain ⟨phase, -, rfl⟩ := Option.map_eq_some_iff.mp hs
    exact .rests rfl rfl rfl
  | refreshDeliver i => exact refreshDeliver_flags hs
  | continueAsNew =>
    obtain ⟨hm, rfl⟩ := continueAsNew_some hs
    exact .restarts (by rw [hm]; rfl) rfl rfl rfl

end Execution
end CloudCredit.Accounting
