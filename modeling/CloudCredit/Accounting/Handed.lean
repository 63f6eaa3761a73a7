import CloudCredit.Accounting.Moves

/-!
# What an execution hands to its activities

The identity of the tenant and its accounts stay as they were given at the
first start, through every Continue-As-New. So the batch in flight is the
current batch with the reservations recorded now, under the counter of its
flush, and every allocation is the one its update asked for.
-/
namespace CloudCredit.Accounting

open Library TigerBeetle Domain Ledger

/-- The batch activity's input for a flush of a tenant started with `base`. -/
def TenantAccountingInput.flushInput (base : TenantAccountingInput) (h : Blake3) (seqNo : UInt64)
    (batch : List HeartbeatSignal) (pending : GaugeIDs) : TBBatchInput :=
  ({ base.initialState with
      flushSeqNo := seqNo
      curBatch := batch
      pendingGaugeIDs := pending } : TenantAccountingState).batchInput h

/-- The allocation activity's input for an issue of a tenant started with `base`. -/
def TenantAccountingInput.issueInput (base : TenantAccountingInput) (h : Blake3) (issue : Issue) :
    SubmitAllocationInput :=
  ({ base.initialState with flushSeqNo := issue.seqNo } : TenantAccountingState).allocationInput h
    issue.resource issue.amount

/-- The tenant's identity and accounts are those of its first start. -/
structure SameTenant (base : TenantAccountingInput) (s : TenantAccountingState) : Prop where
  tenantUUID : s.tenantUUID = base.tenantUUID
  accountMap : s.accountMap = base.accountMap
  operators : s.globalOperatorIDs = base.globalOperatorIDs
  sinks : s.globalSinkIDs = base.globalSinkIDs

/-- The validator let the update of the issue pass. -/
structure ValidIssue (base : TenantAccountingInput) (issue : Issue) : Prop where
  account : (base.accountMap issue.resource).isSome = true
  positive : 0 < issue.amount

/-- An allocation of the tenant, as its update asked for. -/
structure OwnCredit (h : Blake3) (base : TenantAccountingInput) (issued : List Issue)
    (c : Credit) : Prop where
  input : c.input = base.issueInput h c.issue
  issued : c.issue ∈ issued

/-- Every activity in flight was handed the tenant's own accounts. -/
structure Handed (h : Blake3) (base : TenantAccountingInput) (e : Execution) : Prop where
  tenant : SameTenant base e.state
  flight : ∀ f, e.main.flight = some f →
    f.input = base.flushInput h f.seqNo e.state.curBatch e.state.pendingGaugeIDs
  credits : ∀ c ∈ e.credits, OwnCredit h base e.history.issued c
  issued : ∀ issue ∈ e.history.issued, ValidIssue base issue

theorem SameTenant.batchInput {base : TenantAccountingInput} {s : TenantAccountingState}
    (hs : SameTenant base s) (h : Blake3) :
    s.batchInput h = base.flushInput h s.flushSeqNo s.curBatch s.pendingGaugeIDs := by
  simp only [TenantAccountingState.batchInput, TenantAccountingInput.flushInput,
    TenantAccountingInput.initialState, hs.tenantUUID, hs.accountMap, hs.operators, hs.sinks]

theorem SameTenant.allocationInput {base : TenantAccountingInput} {s : TenantAccountingState}
    (hs : SameTenant base s) (h : Blake3) (issue : Issue) (hseq : issue.seqNo = s.flushSeqNo) :
    s.allocationInput h issue.resource issue.amount = base.issueInput h issue := by
  simp only [TenantAccountingState.allocationInput, TenantAccountingInput.issueInput,
    TenantAccountingInput.initialState, hs.tenantUUID, hs.accountMap, hs.operators, hseq]

theorem SameTenant.registerCluster {base : TenantAccountingInput} {s : TenantAccountingState}
    (hs : SameTenant base s) (sig : RegisterClusterSignal) :
    SameTenant base (s.registerCluster sig) := by
  unfold TenantAccountingState.registerCluster
  split
  · exact hs
  · exact ⟨hs.tenantUUID, hs.accountMap, hs.operators, hs.sinks⟩

theorem validateAdjustment_some {s : TenantAccountingState} {sig : QuotaAdjustmentSignal}
    {r : ResourceType} (hv : s.validateAdjustment sig = some r) :
    0 < sig.amount ∧ (s.accountMap r).isSome = true := by
  unfold TenantAccountingState.validateAdjustment at hv
  split_ifs at hv with hamount
  exact ⟨Int64.not_le.mp hamount, (Option.filter_eq_some_iff.mp hv).2⟩

theorem OwnCredit.mono {h : Blake3} {base : TenantAccountingInput} {issued issued' : List Issue}
    {c : Credit} (hc : OwnCredit h base issued c) (hsub : issued ⊆ issued') :
    OwnCredit h base issued' c :=
  ⟨hc.input, hsub hc.issued⟩

namespace Execution

variable {h : Blake3} {base : TenantAccountingInput} {ev : Event} {e e' : Execution}

theorem start_handed : Handed h base (start base) where
  tenant := ⟨rfl, rfl, rfl, rfl⟩
  flight := by simp [start, Main.flight]
  credits := by simp [start]
  issued := by simp [start]

theorem move_handed (hm : Move h ev e e') (hd : Handed h base e) : Handed h base e' := by
  obtain ⟨htenant, hflight, hcredits, hissues⟩ := hd
  cases hm with
  | quiet same =>
    have hissued : e'.history.issued = e.history.issued := by rw [← same.history]
    refine ⟨?_, ?_, ?_, by rwa [hissued]⟩
    · rw [same.state]
      exact ⟨htenant.tenantUUID, htenant.accountMap, htenant.operators, htenant.sinks⟩
    · rw [same.flight, same.state]
      exact hflight
    · rw [same.credits, hissued]
      exact hcredits
  | arrive sig => exact ⟨htenant, hflight, hcredits, hissues⟩
  | skip hch hseen => exact ⟨htenant, hflight, hcredits, hissues⟩
  | take hch hnew hidle =>
    refine ⟨⟨htenant.tenantUUID, htenant.accountMap, htenant.operators, htenant.sinks⟩, ?_, hcredits, hissues⟩
    intro f hf
    rw [hidle] at hf
    cases hf
  | register sig =>
    refine ⟨htenant.registerCluster sig, ?_, hcredits, hissues⟩
    rw [e.state.registerCluster_pendingGaugeIDs, e.state.registerCluster_curBatch]
    exact hflight
  | flush site hbatch hidle =>
    have hs : SameTenant base e.state.countFlush :=
      ⟨htenant.tenantUUID, htenant.accountMap, htenant.operators, htenant.sinks⟩
    refine ⟨hs, ?_, hcredits, hissues⟩
    intro f hf
    cases hf
    exact hs.batchInput h
  | @attempt site flight run reached reply hev hmain hrun =>
    refine ⟨htenant, ?_, hcredits, hissues⟩
    intro f hf
    cases hf
    exact hflight flight (by rw [hmain]; rfl)
  | succeed hev hmain hout =>
    refine ⟨⟨htenant.tenantUUID, htenant.accountMap, htenant.operators, htenant.sinks⟩, ?_, hcredits, hissues⟩
    intro f hf
    cases hf
  | fail hev hmain hout hidle =>
    refine ⟨htenant, ?_, hcredits, hissues⟩
    intro f hf
    rw [hidle] at hf
    cases hf
  | @accept sig r hev hvalid issue hissue =>
    have hs : SameTenant base e.state.countFlush :=
      ⟨htenant.tenantUUID, htenant.accountMap, htenant.operators, htenant.sinks⟩
    obtain ⟨hpos, hacc⟩ := validateAdjustment_some hvalid
    subst hissue
    refine ⟨hs, hflight, ?_, ?_⟩
    · intro c hc
      rcases List.mem_append.mp hc with hc | hc
      · exact (hcredits c hc).mono (List.subset_cons_self _ _)
      · obtain rfl := List.mem_singleton.mp hc
        exact ⟨hs.allocationInput h ⟨_, r, sig.amount, _⟩ rfl, List.mem_cons_self⟩
    · intro issue hi
      rcases List.mem_cons.mp hi with rfl | hi
      · exact ⟨by rwa [← htenant.accountMap], hpos⟩
      · exact hissues issue hi
  | @creditAttempt i c run reached reply hev hi hrun =>
    refine ⟨htenant, hflight, ?_, hissues⟩
    intro c' hc'
    rcases List.mem_or_eq_of_mem_set hc' with hc' | rfl
    · exact hcredits c' hc'
    · have hc := hcredits c (List.mem_of_getElem? hi)
      exact ⟨hc.input, hc.issued⟩
  | creditEnds hev hi hout hend =>
    exact ⟨htenant, hflight, fun c hc => hcredits c (List.mem_of_mem_eraseIdx hc), hissues⟩
  | confirm hev hi hout hown =>
    exact ⟨⟨htenant.tenantUUID, htenant.accountMap, htenant.operators, htenant.sinks⟩, hflight,
      fun c hc => hcredits c (List.mem_of_mem_eraseIdx hc), hissues⟩

theorem restarted_handed (hd : Handed h base e) : Handed h base e.restarted where
  tenant := ⟨hd.tenant.tenantUUID, hd.tenant.accountMap, hd.tenant.operators, hd.tenant.sinks⟩
  flight := by simp [restarted, Main.flight]
  credits := by
    intro c hc
    obtain ⟨c', hc', rfl⟩ := List.mem_map.mp hc
    have := hd.credits c' hc'
    exact ⟨this.input, this.issued⟩
  issued := hd.issued

theorem step_handed (hs : e.step h ev = some e') (hd : Handed h base e) :
    Handed h base e' :=
  step_keeps (fun _ _ hm _ hd => move_handed hm hd) (fun _ _ hd => restarted_handed hd) hs hd

theorem step_waits {site : FlushSite} {flight : Flight}
    (hmain : e.main = .submitting site flight) (hout : flight.run.outcome = none)
    (hev : ∀ reached reply, ev ≠ .attempt reached (.batch reply)) (hs : e.step h ev = some e') :
    e'.main = .submitting site flight := by
  cases ev with
  | heartbeat sig =>
    cases hs
    exact hmain
  | register sig =>
    cases hs
    exact hmain
  | update sig => cases update_cases hs <;> exact hmain
  | receiveHeartbeat continuing => simp [step, receiveHeartbeat, hmain] at hs
  | receiveRegistration continuing => simp [step, receiveRegistration, hmain] at hs
  | timerFires timer =>
    simp only [step] at hs
    split_ifs at hs
    cases hs
    exact hmain
  | timerBranch continuing => simp [step, timerBranch, hmain] at hs
  | attempt reached reply =>
    cases reply with
    | batch r => exact absurd rfl (hev reached r)
    | balances r => simp [step, attempt, hmain] at hs
    | done r => simp [step, attempt, hmain] at hs
  | deliver continuing => simp [step, deliver, hmain, hout] at hs
  | creditAttempt i reached reply =>
    obtain ⟨c, -, hs⟩ := Option.bind_eq_some_iff.mp hs
    obtain ⟨run, -, rfl⟩ := Option.map_eq_some_iff.mp hs
    exact hmain
  | creditDeliver i => cases creditDeliver_cases hs <;> exact hmain
  | refreshAttempt i reply =>
    obtain ⟨f, -, hs⟩ := Option.bind_eq_some_iff.mp hs
    obtain ⟨phase, -, rfl⟩ := Option.map_eq_some_iff.mp hs
    exact hmain
  | refreshDeliver i => cases refreshDeliver_cases hs <;> exact hmain
  | continueAsNew => simp [step, continueAsNew, hmain] at hs

end Execution
end CloudCredit.Accounting
