import CloudCredit.Accounting.Heartbeats
import CloudCredit.Accounting.Provisioning
import CloudCredit.Gateway.HeartbeatHandler

/-!
# Acknowledged sequence numbers

The workflow keeps one acknowledged sequence number for all clusters of a
tenant: the highest of any heartbeat in a successful batch. A cluster is told
that number, so it is told about a number of its own exactly when no other
cluster is ahead of it.
-/
namespace CloudCredit.Gateway

open Library TigerBeetle Domain Ledger Accounting

/-- The highest sequence number of a cluster among some heartbeats, zero if it
has none. -/
def highestSequence (clusterID : String) (hbs : List HeartbeatSignal) : ℕ :=
  ((hbs.filter (·.clusterID = clusterID)).map (·.sequenceNumber.toNat)).foldr max 0

theorem foldl_ackHeartbeat_le (hbs : List HeartbeatSignal) (ack : UInt64) (n : ℕ) :
    (hbs.foldl ackHeartbeat ack).toNat ≤ n ↔
      ack.toNat ≤ n ∧ ∀ hb ∈ hbs, hb.sequenceNumber.toNat ≤ n := by
  induction hbs generalizing ack with
  | nil => simp
  | cons hb hbs ih =>
    rw [List.foldl_cons, ih, List.forall_mem_cons, ← and_assoc]
    refine and_congr_left fun _ => ?_
    unfold ackHeartbeat
    split_ifs with hlt
    · have := UInt64.lt_iff_toNat_lt.mp hlt
      omega
    · have := UInt64.not_lt.mp hlt
      rw [UInt64.le_iff_toNat_le] at this
      omega

/-- The acknowledged number is the highest one in a successful batch. -/
structure Acknowledges (e : Execution) : Prop where
  flight : ∀ f, e.main.flight = some f → f.input.heartbeats = e.state.curBatch
  lastAck : ∀ n : ℕ, e.state.lastAck.toNat ≤ n ↔
    ∀ hb ∈ e.history.succeeded, hb.sequenceNumber.toNat ≤ n

namespace Acknowledges

variable {h : Blake3} {ev : Event} {e e' : Execution}

theorem start (p : Provisioning) : Acknowledges (.start p.accountingInput) where
  flight := fun f hf => by cases hf
  lastAck := fun n => by
    simp [Execution.start, Provisioning.accountingInput, TenantAccountingInput.initialState]

theorem of_same (ha : Acknowledges e) (hflight : ∀ f, e'.main.flight = some f →
      f.input.heartbeats = e'.state.curBatch)
    (hack : e'.state.lastAck = e.state.lastAck)
    (hsucc : e'.history.succeeded = e.history.succeeded) : Acknowledges e' :=
  ⟨hflight, by rw [hack, hsucc]; exact ha.lastAck⟩

theorem move (hm : Move h ev e e') (hd : e'.Dedup) (ha : Acknowledges e) : Acknowledges e' := by
  cases hm with
  | quiet same => exact ha.of_same hd.flight (by rw [same.state]) same.succeeded
  | register sig =>
    refine ha.of_same hd.flight ?_ rfl
    simp only [TenantAccountingState.registerCluster]
    split <;> rfl
  | @succeed site flight result continuing hev hmain hout =>
    refine ⟨hd.flight, fun n => ?_⟩
    have hbatch := ha.flight flight (by rw [hmain]; rfl)
    simp only [Execution.batchSubmitted, TenantAccountingState.applyBatchResult, hbatch,
      List.forall_mem_append, foldl_ackHeartbeat_le, ha.lastAck n]
    exact and_comm
  | _ => exact ha.of_same hd.flight rfl rfl

theorem restarted (ha : Acknowledges e) : Acknowledges e.restarted :=
  ha.of_same (fun f hf => by cases hf) rfl rfl

theorem run {p : Provisioning} {es : List Event}
    (hr : runSteps (Execution.step h) (.start p.accountingInput) es = some e) : Acknowledges e :=
  (Execution.invariant_of_moves (P := fun e => e.Dedup ∧ Acknowledges e)
    (fun _ _ _ hm hp => ⟨Execution.move_dedup hm hp.1, hp.2.move hm (Execution.move_dedup hm hp.1)⟩)
    (fun _ _ hp => ⟨Execution.restarted_dedup hp.1, hp.2.restarted⟩)
    ⟨Execution.start_dedup _, .start p⟩ hr).2

end Acknowledges

/-- The workflow could be found and asked for its acknowledged number. -/
def Calls.asksAck (c : Calls) : Bool := c.resolveTenantID.toBool && c.queryLastTBAck.toBool

theorem responds_ack {c : Calls} {s : TenantAccountingState} (hc : c.AnsweredBy s)
    {resp : HeartbeatResponse} (hresp : Responds c resp) :
    resp.ackSequence = if c.asksAck then s.lastAck else 0 := by
  rcases responds_cases hresp with ⟨ack, quotas, hq, rfl⟩ | ⟨err, hq, rfl⟩
  · obtain ⟨htenant, hack, -⟩ := queryWorkflowState_ok hq
    have hasks : c.asksAck = true := by
      simp only [Calls.asksAck, htenant, hack, Bool.true_and]
      rfl
    rw [hasks, if_pos rfl]
    exact hc.ack ack hack
  · have hfails : c.asksAck = false := by
      rcases queryWorkflowState_error hq with hfail | hfail <;> simp [Calls.asksAck, hfail]
    rw [hfails]
    rfl

/-- A cluster is told a number of its own exactly when the workflow could not be
asked, or no heartbeat of the tenant in a successful batch has a higher sequence
number than all of the cluster's. -/
theorem ack_is_own_iff (p : Provisioning) (es : List Event) {h : Blake3} {e : Execution}
    (hr : runSteps (Execution.step h) (.start p.accountingInput) es = some e) (clusterID : String)
    (c : Calls) (hc : c.AnsweredBy e.state) (resp : HeartbeatResponse) (hresp : Responds c resp) :
    resp.ackSequence.toNat ≤ highestSequence clusterID e.history.succeeded ↔
      c.asksAck = false ∨ ∀ hb ∈ e.history.succeeded,
        hb.sequenceNumber.toNat ≤ highestSequence clusterID e.history.succeeded := by
  rw [responds_ack hc hresp, ← (Acknowledges.run hr).lastAck]
  cases c.asksAck <;> simp

/-- One cluster is at its first heartbeat, another at its seventh. -/
def twoClusters : List Event :=
  [.heartbeat (sampleHeartbeat 1), .receiveHeartbeat false,
    .heartbeat { sampleHeartbeat 7 with clusterID := "d", clusterUUID := sampleID 3 },
    .receiveHeartbeat false, .timerFires 0, .timerBranch false, .attempt true (.batch (.ok {})),
    .deliver false]

/-- A tenant that has been provisioned, before its accounting workflow starts. -/
def sampleProvisioned : Provisioning where
  input := {
    tenantUUID := sampleID 1
    billingTier := "free"
    credits := fun _ => some 8
    globalOperatorIDs := sampleIDs 20
    globalSinkIDs := sampleIDs 30
    periodStartNs := 1000 }
  accountIDs := sampleIDs 10

theorem leading_cluster_is_acknowledged :
    ∃ e resp, runSteps (Execution.step .positional) (.start sampleProvisioned.accountingInput)
        twoClusters = some e ∧
      sendLoopTick (answeredCalls e.state (.ok [])) = some resp ∧
      resp.ackSequence.toNat ≤ highestSequence "d" e.history.succeeded := by
  obtain ⟨e, he, hall⟩ := runSteps_any (Execution.step .positional)
    (.start sampleProvisioned.accountingInput) twoClusters (fun e => e.history.succeeded.all fun hb =>
      hb.sequenceNumber.toNat ≤ highestSequence "d" e.history.succeeded) (by decide)
  refine ⟨e, _, he, rfl, (ack_is_own_iff sampleProvisioned twoClusters he "d" _
    (answeredCalls_answered e.state (.ok [])) _ (.inl rfl)).mpr (.inr ?_)⟩
  simpa using hall

/-- The other cluster is told that its seventh heartbeat is committed. -/
theorem trailing_cluster_is_told_too_much :
    ∃ e resp, runSteps (Execution.step .positional) (.start sampleProvisioned.accountingInput)
        twoClusters = some e ∧
      sendLoopTick (answeredCalls e.state (.ok [])) = some resp ∧
      resp.ackSequence = 7 ∧ highestSequence "c" e.history.succeeded = 1 := by
  obtain ⟨e, he, hack⟩ := runSteps_any (Execution.step .positional)
    (.start sampleProvisioned.accountingInput) twoClusters (fun e => e.state.lastAck = 7 ∧
      highestSequence "c" e.history.succeeded = 1) (by decide)
  rw [decide_eq_true_eq] at hack
  exact ⟨e, _, he, rfl, hack.1, hack.2⟩

end CloudCredit.Gateway
