import CloudCredit.Accounting.Handed

/-!
# What moves without a successful flush

While no batch succeeds, an execution takes heartbeats into its batch and starts
flushes, and nothing else of what the flushes are for moves: no heartbeat is settled,
the acknowledgement and the recorded reservations stay, and flags are only cleared.
-/
namespace CloudCredit.Accounting

open Library TigerBeetle Domain Ledger

/-- Nothing that only a successful flush changes has moved. -/
structure Frozen (e e' : Execution) : Prop where
  batch : e.state.curBatch ⊆ e'.state.curBatch
  succeeded : e'.history.succeeded = e.history.succeeded
  lastAck : e'.state.lastAck = e.state.lastAck
  gauges : e'.state.pendingGaugeIDs = e.state.pendingGaugeIDs
  flags : ∀ r, e'.state.exceededResources r = some true → e.state.exceededResources r = some true

namespace Frozen

variable {e e' e'' : Execution}

theorem refl (e : Execution) : Frozen e e :=
  ⟨fun _ hb => hb, rfl, rfl, rfl, fun _ hr => hr⟩

theorem trans (h₁ : Frozen e e') (h₂ : Frozen e' e'') : Frozen e e'' where
  batch _ hb := h₂.batch (h₁.batch hb)
  succeeded := h₂.succeeded.trans h₁.succeeded
  lastAck := h₂.lastAck.trans h₁.lastAck
  gauges := h₂.gauges.trans h₁.gauges
  flags r hr := h₁.flags r (h₂.flags r hr)

theorem of_state (hstate : e'.state = e.state)
    (hsucceeded : e'.history.succeeded = e.history.succeeded) : Frozen e e' := by
  constructor <;> simp [hstate, hsucceeded]

theorem of_sameCore (same : SameCore e e') : Frozen e e' := by
  have hsucceeded : e'.history.succeeded = e.history.succeeded := by rw [← same.history]
  refine ⟨?_, hsucceeded, ?_, ?_, ?_⟩ <;> rw [same.state]
  · exact fun _ hb => hb
  · exact fun _ hr => hr

end Frozen

namespace Execution

variable {h : Blake3} {ev : Event} {e e' : Execution}

/-- No batch waits with a success for the main loop. -/
def Unsettled (e : Execution) : Prop :=
  ∀ f R, e.main.flight = some f → f.run.outcome ≠ some (.ok R)

theorem unsettled_of_undecided (hnone : (e.main.flight.bind (·.run.outcome)) = none) :
    e.Unsettled := by
  intro f R hf
  rw [hf] at hnone
  change f.run.outcome = none at hnone
  rw [hnone]
  simp

theorem unsettled_of_idle (hidle : e.main.flight = none) : e.Unsettled := by
  apply unsettled_of_undecided
  rw [hidle]
  rfl

theorem unsettled_attempt {site : FlushSite} {flight : Flight} {run : Run TBBatchResult}
    {reached : Bool} {reply : Except ActivityError TBBatchResult}
    (hrun : flight.run.attempt maximumAttempts reached reply = some run)
    (hreply : ∀ R, reply ≠ .ok R) :
    Unsettled { e with main := .submitting site { flight with run := run } } := by
  obtain ⟨-, rfl⟩ := ActivityRun.attempt_some hrun
  intro f R hf hout
  cases hf
  exact hreply R (ActivityRun.decided_ok hout)

theorem move_frozen (hm : Move h ev e e')
    (hev : ∀ reached R, ev ≠ .attempt reached (.batch (.ok R))) (hu : e.Unsettled) :
    Frozen e e' ∧ e'.Unsettled := by
  cases hm with
  | quiet same =>
    refine ⟨.of_sameCore same, ?_⟩
    intro f R hf
    rw [same.flight] at hf
    exact hu f R hf
  | arrive sig => exact ⟨.of_state rfl rfl, hu⟩
  | skip hch hseen => exact ⟨.of_state rfl rfl, hu⟩
  | take hch hnew hidle =>
    refine ⟨⟨?_, rfl, rfl, rfl, fun _ hr => hr⟩, unsettled_of_idle hidle⟩
    exact List.subset_append_left _ _
  | register sig =>
    refine ⟨?_, hu⟩
    unfold TenantAccountingState.registerCluster
    split
    · exact .of_state rfl rfl
    · exact ⟨fun _ hb => hb, rfl, rfl, rfl, fun _ hr => hr⟩
  | flush site hbatch hidle =>
    refine ⟨⟨fun _ hb => hb, rfl, rfl, rfl, fun _ hr => hr⟩, ?_⟩
    intro f R hf hout
    cases hf
    cases hout
  | @attempt site flight run reached reply hattempt hmain hrun =>
    refine ⟨.of_state rfl rfl, unsettled_attempt hrun ?_⟩
    intro R hreply
    subst hreply
    exact hev reached R hattempt
  | succeed hdeliver hmain hout => exact absurd hout (hu _ _ (by rw [hmain]; rfl))
  | fail hdeliver hmain hout hidle => exact ⟨.of_state rfl rfl, unsettled_of_idle hidle⟩
  | accept hupdate hvalid hissue => exact ⟨⟨fun _ hb => hb, rfl, rfl, rfl, fun _ hr => hr⟩, hu⟩
  | creditAttempt hattempt hi hrun => exact ⟨.of_state rfl rfl, hu⟩
  | creditEnds hdeliver hi hout hend => exact ⟨.of_state rfl rfl, hu⟩
  | @confirm i c hdeliver hi hout hown =>
    refine ⟨⟨fun _ hb => hb, rfl, rfl, rfl, ?_⟩, hu⟩
    intro r hr
    simp only [TenantAccountingState.clearExceeded] at hr
    by_cases heq : r = c.issue.resource
    · simp [heq] at hr
    · rwa [Table.erase_other _ heq] at hr

theorem step_frozen (hs : e.step h ev = some e') (hcan : ev ≠ .continueAsNew)
    (hev : ∀ reached R, ev ≠ .attempt reached (.batch (.ok R))) (hu : e.Unsettled) :
    Frozen e e' ∧ e'.Unsettled := by
  apply Moves.keeps (P := fun m => Frozen e m ∧ m.Unsettled) _ (step_moves hs hcan) rfl
  · exact ⟨.refl e, hu⟩
  · rintro m m' hm - ⟨hfrozen, hu⟩
    obtain ⟨hnext, hu'⟩ := move_frozen hm hev hu
    exact ⟨hfrozen.trans hnext, hu'⟩

end Execution
end CloudCredit.Accounting
