import CloudCredit.Gateway.ClusterIDs
import CloudCredit.Gateway.Dedup
import CloudCredit.Gateway.HeartbeatHandler

/-!
# Unary heartbeats

The handler asks the deduplicator first, which remembers the number at once, and
signals the workflow only then. A signal that fails makes the call fail, yet the
number stays remembered, and the same request sent again is taken for a
duplicate: the call succeeds although nothing was signalled.
-/
namespace CloudCredit.Gateway

open Library TigerBeetle Accounting

/-- A finished call. -/
structure UnaryCall where
  request : HeartbeatRequest
  succeeded : Bool

/-- The handler, and the calls it finished, newest first. -/
structure Unary where
  dedup : Deduplicator
  signals : Signals := {}
  calls : List UnaryCall := []

inductive UnaryEvent
  | heartbeat (req : HeartbeatRequest) (now : ℕ) (valkey : Fate) (signal query : ServiceReplies)
      (c : Calls)
  | evict (clusterID : String) (now : ℕ)

namespace Unary

variable (g : Unary)

/-- The signal of a call and the signals after it; a duplicate is not signalled. -/
def dispatch (duplicate : Bool) (req : HeartbeatRequest) (signal : ServiceReplies) :
    Except String Unit × Signals :=
  if duplicate then (.ok (), g.signals) else g.signals.signalHeartbeat signal req

/-- The result of a call and the handler after it. -/
def heartbeat (req : HeartbeatRequest) (now : ℕ) (valkey : Fate) (signal query : ServiceReplies)
    (c : Calls) : Except String HeartbeatResponse × Unary :=
  let check := g.dedup.isDuplicate req.clusterId req.sequenceNumber now valkey
  let sent := g.dispatch check.1 req signal
  let resolved := resolveTenantID sent.2.clusterToTenant query req.clusterId
  let result := Gateway.heartbeat check.1 sent.1 { c with resolveTenantID := resolved.1 }
  (result, {
    dedup := check.2
    signals := if sent.1.isOk then { sent.2 with clusterToTenant := resolved.2 } else sent.2
    calls := ⟨req, result.isOk⟩ :: g.calls })

def step : UnaryEvent → Option Unary
  | .heartbeat req now valkey signal query c => some (g.heartbeat req now valkey signal query c).2
  | .evict clusterID now => some { g with dedup := g.dedup.evict clusterID now }

/-- The last call for a cluster. -/
def last? (clusterID : String) : Option UnaryCall :=
  g.calls.find? (·.request.clusterId = clusterID)

/-- The client of the cluster sends a higher number after a success, and the same
request again after an error. -/
def Follows (req : HeartbeatRequest) : Prop :=
  ∀ k, g.last? req.clusterId = some k →
    if k.succeeded then k.request.sequenceNumber < req.sequenceNumber else req = k.request

instance (req : HeartbeatRequest) : Decidable (g.Follows req) :=
  inferInstanceAs (Decidable (∀ k ∈ g.last? req.clusterId,
    if k.succeeded then k.request.sequenceNumber < req.sequenceNumber else req = k.request))

/-- A request that is sent again finds no mark of its cluster any more, and a new
number is not stored like an earlier one. -/
structure Unmarked (req : HeartbeatRequest) : Prop where
  resent : ∀ k, g.last? req.clusterId = some k → k.succeeded = false →
    g.dedup.mark req.clusterId = none
  distinct : ∀ k ∈ g.calls, k.request.clusterId = req.clusterId →
    k.request.sequenceNumber < req.sequenceNumber →
    g.dedup.score k.request.sequenceNumber ≠ g.dedup.score req.sequenceNumber

instance (req : HeartbeatRequest) : Decidable (g.Unmarked req) :=
  decidable_of_iff ((∀ k ∈ g.last? req.clusterId, k.succeeded = false →
      g.dedup.mark req.clusterId = none) ∧ ∀ k ∈ g.calls, k.request.clusterId = req.clusterId →
        k.request.sequenceNumber < req.sequenceNumber →
          g.dedup.score k.request.sequenceNumber ≠ g.dedup.score req.sequenceNumber)
    ⟨fun h => ⟨h.1, h.2⟩, fun h => ⟨h.1, h.2⟩⟩

/-- The calls made so far: marks come from them, the last one of a cluster has its
highest number, and what succeeded was signalled. -/
structure Delivered : Prop where
  marks : ∀ c m, g.dedup.mark c = some m → ∃ k ∈ g.calls, k.request.clusterId = c ∧
    g.dedup.score k.request.sequenceNumber = m
  highest : ∀ k ∈ g.calls, ∃ l, g.last? k.request.clusterId = some l ∧
    k.request.sequenceNumber ≤ l.request.sequenceNumber
  signalled : ∀ k ∈ g.calls, k.succeeded = true → ∃ d ∈ g.signals.delivered,
    d.signal = k.request.toSignal

end Unary

theorem heartbeat_isOk (duplicate : Bool) (signal : Except String Unit) (c : Calls) :
    (heartbeat duplicate signal c).isOk = (duplicate || signal.isOk) := by
  unfold heartbeat
  cases duplicate <;> cases signal <;> (try rfl) <;> cases queryWorkflowState c <;> rfl

namespace Unary

variable {g g' : Unary} {req : HeartbeatRequest}

theorem Delivered.not_duplicate (hd : g.Delivered) (hf : g.Follows req) (hu : g.Unmarked req)
    (now : ℕ) (valkey : Fate) :
    (g.dedup.isDuplicate req.clusterId req.sequenceNumber now valkey).1 = false := by
  rcases g.dedup.isDuplicate_cases req.clusterId req.sequenceNumber now valkey with
    ⟨m, hmark, hle, -⟩ | ⟨hfalse, -⟩
  · obtain ⟨k, hk, hcluster, rfl⟩ := hd.marks _ m hmark
    obtain ⟨l, hl, hkl⟩ := hd.highest k hk
    rw [hcluster] at hl
    cases hsucceeded : l.succeeded with
    | false =>
      rw [hu.resent l hl hsucceeded] at hmark
      cases hmark
    | true =>
      have hlt := hf l hl
      rw [hsucceeded, if_pos rfl] at hlt
      have hnew := UInt64.lt_of_le_of_lt hkl hlt
      have hscore := g.dedup.score_mono (UInt64.le_of_lt hnew)
      exact absurd (Nat.le_antisymm hscore hle) (hu.distinct k hk hcluster hnew)
  · exact hfalse

theorem Delivered.follows_le (hd : g.Delivered) (hf : g.Follows req) {k : UnaryCall}
    (hk : k ∈ g.calls) (hcluster : k.request.clusterId = req.clusterId) :
    k.request.sequenceNumber ≤ req.sequenceNumber := by
  obtain ⟨l, hl, hkl⟩ := hd.highest k hk
  rw [hcluster] at hl
  have hlast := hf l hl
  split_ifs at hlast
  · exact UInt64.le_trans hkl (UInt64.le_of_lt hlast)
  · rw [hlast]
    exact hkl

theorem heartbeat_signals (g : Unary) (req : HeartbeatRequest) (now : ℕ) (valkey : Fate)
    (signal query : ServiceReplies) (c : Calls)
    (hpass : (g.dedup.isDuplicate req.clusterId req.sequenceNumber now valkey).1 = false) :
    let out := g.signals.signalHeartbeat signal req
    (g.heartbeat req now valkey signal query c).2.signals.delivered = out.2.delivered ∧
      (g.heartbeat req now valkey signal query c).2.calls = ⟨req, out.1.isOk⟩ :: g.calls := by
  simp only [heartbeat, hpass, dispatch, Bool.false_eq_true, if_false, heartbeat_isOk,
    Bool.false_or, and_true]
  split_ifs <;> rfl

theorem Delivered.marks_after (hd : g.Delivered) {now : ℕ} {valkey : Fate}
    (hpass : (g.dedup.isDuplicate req.clusterId req.sequenceNumber now valkey).1 = false)
    (k : UnaryCall) (hk : k.request = req) {dedup : Deduplicator}
    (hdedup : dedup = (g.dedup.isDuplicate req.clusterId req.sequenceNumber now valkey).2)
    {cluster : String} {m : ℕ} (hm : dedup.mark cluster = some m) :
    ∃ l ∈ k :: g.calls, l.request.clusterId = cluster ∧
      dedup.score l.request.sequenceNumber = m := by
  rcases g.dedup.isDuplicate_cases req.clusterId req.sequenceNumber now valkey with
    ⟨_, _, _, hdup⟩ | ⟨-, hscore, hmark⟩
  · rw [hdup] at hpass
    cases hpass
  rw [← hdedup] at hscore hmark
  rw [hscore]
  have hold : g.dedup.mark cluster = some m → ∃ l ∈ k :: g.calls,
      l.request.clusterId = cluster ∧ g.dedup.score l.request.sequenceNumber = m := by
    intro hm
    obtain ⟨l, hl, hcluster, hl'⟩ := hd.marks cluster m hm
    exact ⟨l, List.mem_cons_of_mem _ hl, hcluster, hl'⟩
  rcases hmark with hmark | hmark
  · rw [hmark] at hm
    exact hold hm
  · rw [hmark] at hm
    rcases Table.set_eq_some.mp hm with ⟨rfl, rfl⟩ | ⟨-, hm⟩
    · exact ⟨k, List.mem_cons_self, by rw [hk], by rw [hk]⟩
    · exact hold hm

theorem Delivered.heartbeat (hd : g.Delivered) (hf : g.Follows req) (hu : g.Unmarked req)
    (now : ℕ) (valkey : Fate) (signal query : ServiceReplies) (c : Calls) :
    (g.heartbeat req now valkey signal query c).2.Delivered := by
  have hpass := hd.not_duplicate hf hu now valkey
  obtain ⟨hdelivered, hcalls⟩ := heartbeat_signals g req now valkey signal query c hpass
  have hdedup : (g.heartbeat req now valkey signal query c).2.dedup =
    (g.dedup.isDuplicate req.clusterId req.sequenceNumber now valkey).2 := rfl
  generalize (g.heartbeat req now valkey signal query c).2 = g' at hdelivered hcalls hdedup ⊢
  refine ⟨fun cluster m hm => ?_, fun k hk => ?_, fun k hk hsucceeded => ?_⟩
  · rw [hcalls]
    exact hd.marks_after hpass _ rfl hdedup hm
  · rw [hcalls] at hk
    unfold last?
    rw [hcalls, List.find?_cons]
    rcases List.mem_cons.mp hk with rfl | hk
    · exact ⟨_, by rw [decide_eq_true rfl], UInt64.le_refl _⟩
    · by_cases hcluster : req.clusterId = k.request.clusterId
      · exact ⟨_, by rw [decide_eq_true hcluster], hd.follows_le hf hk hcluster.symm⟩
      · rw [decide_eq_false hcluster]
        exact hd.highest k hk
  · rw [hcalls] at hk
    rw [hdelivered]
    rcases g.signals.signalHeartbeat_cases signal req with ⟨⟨err, herr⟩, hsame⟩ | ⟨id, hnew⟩
    · rw [herr] at hk
      rcases List.mem_cons.mp hk with rfl | hk
      · cases hsucceeded
      · rw [hsame]
        exact hd.signalled k hk hsucceeded
    · rw [hnew]
      rcases List.mem_cons.mp hk with rfl | hk
      · exact ⟨_, List.mem_cons_self, rfl⟩
      · obtain ⟨d, hmem, hsig⟩ := hd.signalled k hk hsucceeded
        exact ⟨d, List.mem_cons_of_mem _ hmem, hsig⟩

theorem Delivered.evict (hd : g.Delivered) (clusterID : String) (now : ℕ) :
    ({ g with dedup := g.dedup.evict clusterID now } : Unary).Delivered where
  marks := fun c m hm => by
    simp only [g.dedup.evict_score clusterID now]
    exact hd.marks c m (g.dedup.evict_mark clusterID now hm)
  highest := hd.highest
  signalled := hd.signalled

/-- The client behaves, and its request is unmarked when it must be. -/
def Condition (g : Unary) : UnaryEvent → Prop
  | .heartbeat req _ _ _ _ _ => g.Follows req ∧ g.Unmarked req
  | .evict _ _ => True

instance (g : Unary) : (ev : UnaryEvent) → Decidable (g.Condition ev)
  | .heartbeat req _ _ _ _ _ => inferInstanceAs (Decidable (g.Follows req ∧ g.Unmarked req))
  | .evict _ _ => inferInstanceAs (Decidable True)

theorem step_delivered {ev : UnaryEvent} (hd : g.Delivered) (hC : g.Condition ev)
    (hstep : g.step ev = some g') : g'.Delivered := by
  cases ev with
  | heartbeat req now valkey signal query c =>
    cases hstep
    exact hd.heartbeat hC.1 hC.2 now valkey signal query c
  | evict clusterID now =>
    cases hstep
    exact hd.evict clusterID now

end Unary

/-- While a request sent again finds no mark of its cluster, and new numbers are
stored apart from earlier ones, every call that succeeded was signalled: for all
clients that send higher numbers after a success and the same request again after
an error, whichever deduplicator is used and whatever fails. -/
theorem Unary.success_means_delivered (dedup : Deduplicator) (hempty : ∀ c, dedup.mark c = none)
    (es : List UnaryEvent) {g : Unary} (hr : runSteps step { dedup } es = some g)
    (hC : Along step Condition { dedup } es) :
    ∀ k ∈ g.calls, k.succeeded = true → ∃ d ∈ g.signals.delivered, d.signal = k.request.toSignal := by
  refine (invariant_along step (fun _ _ _ hd hC hstep => step_delivered hd hC hstep) ?_ hC
    hr).signalled
  refine ⟨fun c m hm => ?_, fun k hk => ?_, fun k hk => ?_⟩
  · rw [hempty c] at hm
    cases hm
  · cases hk
  · cases hk

/-- A call with the given fate of its signal; the queries for the response fail. -/
def sampleCall (seq : UInt64) (signal : Fate) : UnaryEvent :=
  .heartbeat { clusterId := "0000000a-0000-4000-8000-000000000001", sequenceNumber := seq } 0
    .answered { sampleReplies with signalWorkflow := signal } sampleReplies
    ⟨.ok "", .error "unavailable", .error "unavailable", .error "unavailable", .error "unavailable"⟩

/-- A signal fails, and the request is sent again after the mark is gone. -/
theorem Unary.resent_after_eviction_is_delivered :
    ∃ g, runSteps step { dedup := .mem { ttl := 600 } } [sampleCall 1 (.lostRequest "unavailable"),
        .evict "" 601, sampleCall 1 .answered, sampleCall 2 .answered] = some g ∧
      g.calls.map (·.succeeded) = [true, true, false] ∧ ∀ k ∈ g.calls, k.succeeded = true →
        ∃ d ∈ g.signals.delivered, d.signal = k.request.toSignal := by
  refine ⟨_, rfl, by decide, success_means_delivered (.mem { ttl := 600 }) (fun _ => rfl)
    [sampleCall 1 (.lostRequest "unavailable"), .evict "" 601, sampleCall 1 .answered,
      sampleCall 2 .answered] rfl (along_of_alongTest step (by decide))⟩

/-- A signal fails, and the request sent again succeeds without one. -/
theorem Unary.resent_is_not_delivered :
    ∃ g, runSteps step { dedup := .mem { ttl := 600 } } [sampleCall 1 (.lostRequest "unavailable"),
        sampleCall 1 .answered] = some g ∧
      g.calls.map (fun k => (k.request.sequenceNumber, k.succeeded)) = [(1, true), (1, false)] ∧
      g.signals.delivered.length = 0 :=
  ⟨_, rfl, by decide, by decide⟩

end CloudCredit.Gateway
