import CloudCredit.Gateway.HeartbeatStream

/-!
# Streamed and unary heartbeats

A stream checks every message under the cluster of the stream but signals it under its own.
For messages of one cluster that makes no difference: what passes the deduplicator is
signalled in the same order as by unary calls, only later.
-/
namespace CloudCredit.Gateway

open Library TigerBeetle Accounting

/-- What comes to the gateway from outside: a request with the time and the reply of the
deduplicator's store, or a round of its eviction. -/
inductive Ingress
  | request (req : HeartbeatRequest) (now : ℕ) (valkey : Fate)
  | evict (clusterID : String) (now : ℕ)

def UnaryEvent.ingress : UnaryEvent → Ingress
  | .heartbeat req now valkey _ _ _ => .request req now valkey
  | .evict clusterID now => .evict clusterID now

/-- The streams take a message in when they ask the deduplicator about it. -/
def Streams.ingress? (g : Streams) : StreamEvent → Option Ingress
  | .handle i now valkey => ((g.streams i).bind (·.unchecked)).map fun req => .request req now valkey
  | .evict clusterID now => some (.evict clusterID now)
  | _ => none

/-- The request of a call. -/
def UnaryEvent.request? : UnaryEvent → Option HeartbeatRequest
  | .heartbeat req _ _ _ _ _ => some req
  | .evict _ _ => none

/-- The message that is read from a stream. -/
def StreamEvent.request? : StreamEvent → Option HeartbeatRequest
  | .receive _ req => some req
  | _ => none

section Reaches

variable (tenantOf : String → String)

/-- The signal of a request that reaches the workflow of its tenant. -/
def delivery (req : HeartbeatRequest) : Delivery :=
  ⟨accountingWorkflowID (tenantOf req.clusterId), req.toSignal⟩

/-- The signal succeeds, and the cluster is resolved to its tenant. -/
def Signals.Reaches (g : Signals) (w : ServiceReplies) (req : HeartbeatRequest) : Prop :=
  (g.signalHeartbeat w req).1 = .ok () ∧
    (resolveTenantID g.clusterToTenant w req.clusterId).1 = .ok (tenantOf req.clusterId)

variable {tenantOf}

theorem Signals.Reaches.delivered {g : Signals} {w : ServiceReplies} {req : HeartbeatRequest}
    (hr : g.Reaches tenantOf w req) :
    (g.signalHeartbeat w req).2.delivered = delivery tenantOf req :: g.delivered := by
  obtain ⟨hok, htenant⟩ := hr
  unfold signalHeartbeat at hok ⊢
  simp only [htenant] at hok ⊢
  cases hw : w.signalWorkflow with
  | answered => rfl
  | lostRequest err => simp [hw] at hok
  | lostReply err => simp [hw] at hok

/-- Every signal of a call succeeds. -/
def Unary.SignalsReach (tenantOf : String → String) (u : Unary) : UnaryEvent → Prop
  | .heartbeat req now valkey signal _ _ =>
    (u.dedup.isDuplicate req.clusterId req.sequenceNumber now valkey).1 = false →
      u.signals.Reaches tenantOf signal req
  | .evict _ _ => True

/-- The events are those of one stream, no message waits too long for the channel, and every
signal succeeds. -/
def Streams.Smooth (tenantOf : String → String) (i : ℕ) (g : Streams) : StreamEvent → Prop
  | .opened _ | .timeout _ => False
  | .receive j _ | .name j | .handle j _ _ | .enqueue j | .dispatch j | .cancelled j | .close j =>
    j = i
  | .signal j w => j = i ∧ ∀ s x, g.streams i = some s → s.sending = some x →
      g.signals.Reaches tenantOf w x.1
  | .evict _ _ => True

/-- Once a stream has a cluster, its messages are of that cluster. -/
def Streams.OneCluster (g : Streams) : StreamEvent → Prop
  | .receive i req => ∀ s, g.streams i = some s → s.clusterID = "" ∨ req.clusterId = s.clusterID
  | _ => True

theorem Unary.heartbeat_delivered (u : Unary) (req : HeartbeatRequest) (now : ℕ) (valkey : Fate)
    (signal query : ServiceReplies) (c : Calls)
    (hreach : (u.dedup.isDuplicate req.clusterId req.sequenceNumber now valkey).1 = false →
      u.signals.Reaches tenantOf signal req) :
    (u.heartbeat req now valkey signal query c).2.dedup =
        (u.dedup.isDuplicate req.clusterId req.sequenceNumber now valkey).2 ∧
      (u.heartbeat req now valkey signal query c).2.signals.delivered =
        if (u.dedup.isDuplicate req.clusterId req.sequenceNumber now valkey).1
        then u.signals.delivered else delivery tenantOf req :: u.signals.delivered := by
  refine ⟨rfl, ?_⟩
  cases hdup : (u.dedup.isDuplicate req.clusterId req.sequenceNumber now valkey).1 with
  | true =>
    simp only [heartbeat, hdup, dispatch, if_true]
    rfl
  | false =>
    rw [(heartbeat_signals u req now valkey signal query c hdup).1, (hreach hdup).delivered]
    rfl

end Reaches

/-- The unary handler is ahead of the stream by what the stream has still to signal. The
message that is not taken in yet is of the cluster of the stream. -/
structure UnaryAhead (tenantOf : String → String) (s : Stream) (g : Streams) (u : Unary) : Prop where
  dedup : u.dedup = g.dedup
  delivered : u.signals.delivered =
    (s.pending.map (delivery tenantOf)).reverse ++ g.signals.delivered
  attempts : ∀ x, s.sending = some x → x.2 = 0
  read : ∀ req, s.receiver = .received req → s.clusterID = "" ∨ req.clusterId = s.clusterID
  named : ∀ req, s.receiver = .named req → req.clusterId = s.clusterID

section Simulation

variable {tenantOf : String → String} {i : ℕ} {s : Stream} {g g' : Streams} {u : Unary}

theorem UnaryAhead.handle {req : HeartbeatRequest} (ha : UnaryAhead tenantOf s g u)
    (hreq : s.receiver = .named req ∨ s.receiver = .received req ∧ s.clusterID ≠ "") {now : ℕ}
    {valkey : Fate} {signal query : ServiceReplies} {c : Calls}
    (hreach : u.SignalsReach tenantOf (.heartbeat req now valkey signal query c)) :
    ∃ t, (g.handle i now valkey s req).streams i = some t ∧
      UnaryAhead tenantOf t (g.handle i now valkey s req)
        (u.heartbeat req now valkey signal query c).2 ∧ t.unchecked = none := by
  have hcluster : req.clusterId = s.clusterID := by
    rcases hreq with hreq | ⟨hreq, hne⟩
    · exact ha.named req hreq
    · exact (ha.read req hreq).resolve_left hne
  have hwaiting : s.waiting = none := by
    unfold Stream.waiting
    rcases hreq with hreq | ⟨hreq, -⟩ <;> rw [hreq]
  obtain ⟨hdedup, hdelivered⟩ := u.heartbeat_delivered req now valkey signal query c hreach
  rw [ha.dedup, hcluster] at hdelivered hdedup
  have hpending : s.pending = (s.sending.map Prod.fst).toList ++ s.sigCh := by
    simp [Stream.pending, hwaiting]
  rw [ha.delivered, hpending] at hdelivered
  refine ⟨_, Table.set_same _ _ _, ?_⟩
  refine ⟨⟨hdedup, hdelivered.trans ?_, ha.attempts, ?_, ?_⟩, ?_⟩ <;>
    cases hdup : (g.dedup.isDuplicate s.clusterID req.sequenceNumber now valkey).1 <;>
    simp [hdup, Stream.pending, Streams.handle, Streams.setStream, Stream.waiting, Stream.unchecked]

theorem UnaryAhead.inner {ev : StreamEvent} (ha : UnaryAhead tenantOf s g u)
    (hi : g.streams i = some s) (hsmooth : g.Smooth tenantOf i ev) (hone : g.OneCluster ev)
    (hinner : g.ingress? ev = none) (hs : g.step ev = some g') :
    ∃ t, g'.streams i = some t ∧ UnaryAhead tenantOf t g' u ∧
      s.unchecked.toList ++ ev.request?.toList = t.unchecked.toList := by
  cases ev with
  | opened j => exact hsmooth.elim
  | timeout j => exact hsmooth.elim
  | evict clusterID now => cases hinner
  | receive j req =>
    obtain rfl : j = i := hsmooth
    obtain ⟨s', hj, -, hidle, rfl⟩ := Streams.step_receive hs
    cases hi.symm.trans hj
    refine ⟨_, Table.set_same _ _ _, ⟨ha.dedup, ?_, ha.attempts, ?_, by simp⟩, ?_⟩
    · rw [ha.delivered]
      simp [Stream.pending, Stream.waiting, hidle, Streams.setStream]
    · intro req' hreq'
      cases hreq'
      exact hone s hi
    · simp [Stream.unchecked, hidle, StreamEvent.request?]
  | name j =>
    obtain rfl : j = i := hsmooth
    obtain ⟨s', req, hj, hreq, -, rfl⟩ := Streams.step_name hs
    cases hi.symm.trans hj
    refine ⟨_, Table.set_same _ _ _, ⟨ha.dedup, ?_, ha.attempts, by simp, ?_⟩, ?_⟩
    · rw [ha.delivered]
      simp [Stream.pending, Stream.waiting, hreq, Streams.setStream]
    · intro req' hreq'
      cases hreq'
      rfl
    · simp [Stream.unchecked, hreq, StreamEvent.request?]
  | handle j now valkey =>
    obtain ⟨s', req, hj, -, hreq⟩ := Streams.step_handle hs
    rw [Streams.ingress?, hj] at hinner
    rcases hreq with hreq | ⟨hreq, -⟩ <;> simp [Stream.unchecked, hreq] at hinner
  | enqueue j =>
    obtain rfl : j = i := hsmooth
    obtain ⟨s', hj, hs⟩ := Option.bind_eq_some_iff.mp hs
    cases hi.symm.trans hj
    obtain ⟨req, hreq, hs⟩ := Option.bind_eq_some_iff.mp hs
    split_ifs at hs
    cases hs
    have hwaits := Streams.receiver_of_waiting hreq
    refine ⟨_, Table.set_same _ _ _, ⟨ha.dedup, ?_, ha.attempts, by simp, by simp⟩, ?_⟩
    · rw [ha.delivered]
      simp [Stream.pending, Stream.waiting, hwaits, Streams.setStream]
    · simp [Stream.unchecked, hwaits, StreamEvent.request?]
  | dispatch j =>
    obtain rfl : j = i := hsmooth
    obtain ⟨s', hj, hs⟩ := Option.bind_eq_some_iff.mp hs
    cases hi.symm.trans hj
    split at hs
    · rename_i req rest hrun hsending hch
      cases hs
      refine ⟨_, Table.set_same _ _ _, ⟨ha.dedup, ?_, ?_, ha.read, ha.named⟩, List.append_nil _⟩
      · rw [ha.delivered]
        simp [Stream.pending, Stream.waiting, hsending, hch, Streams.setStream]
      · intro x hx
        cases hx
        rfl
    · cases hs
  | signal j w =>
    obtain ⟨rfl, hreach⟩ := hsmooth
    obtain ⟨s', hj, hs⟩ := Option.bind_eq_some_iff.mp hs
    cases hi.symm.trans hj
    obtain ⟨x, hx, rfl⟩ := Option.map_eq_some_iff.mp hs
    have hr := hreach s x hi hx
    refine ⟨_, Table.set_same _ _ _, ⟨ha.dedup, ?_, ?_, ha.read, ha.named⟩, List.append_nil _⟩
    · rw [ha.delivered]
      simp [Stream.pending, Stream.waiting, hx, Streams.signal, Streams.setStream, hr.1,
        hr.delivered]
    · simp [hr.1]
  | cancelled j =>
    obtain rfl : j = i := hsmooth
    obtain ⟨s', hj, hs⟩ := Option.bind_eq_some_iff.mp hs
    cases hi.symm.trans hj
    obtain ⟨x, hx, hs⟩ := Option.bind_eq_some_iff.mp hs
    rw [ha.attempts x hx, if_neg (by simp)] at hs
    cases hs
  | close j =>
    obtain rfl : j = i := hsmooth
    obtain ⟨s', hj, hs⟩ := Option.bind_eq_some_iff.mp hs
    cases hi.symm.trans hj
    split_ifs at hs
    cases hs
    unfold Streams.close
    dsimp only
    split_ifs <;> exact ⟨_, Table.set_same _ _ _,
      ⟨ha.dedup, ha.delivered, ha.attempts, ha.read, ha.named⟩, List.append_nil _⟩

theorem UnaryAhead.outer {ev : StreamEvent} {uev : UnaryEvent} {v : Unary}
    (ha : UnaryAhead tenantOf s g u) (hi : g.streams i = some s) (hsmooth : g.Smooth tenantOf i ev)
    (hreach : u.SignalsReach tenantOf uev) (hsame : g.ingress? ev = some uev.ingress)
    (hs : g.step ev = some g') (hv : u.step uev = some v) :
    ∃ t, g'.streams i = some t ∧ UnaryAhead tenantOf t g' v ∧
      s.unchecked.toList ++ ev.request?.toList = uev.request?.toList ++ t.unchecked.toList := by
  cases ev with
  | handle j now valkey =>
    obtain rfl : j = i := hsmooth
    obtain ⟨s', req, hj, rfl, hreq⟩ := Streams.step_handle hs
    cases hi.symm.trans hj
    have hmessage : s.unchecked = some req := by
      unfold Stream.unchecked
      rcases hreq with hreq | ⟨hreq, -⟩ <;> rw [hreq]
    simp only [Streams.ingress?, hi, Option.bind_some, hmessage, Option.map_some] at hsame
    cases uev with
    | heartbeat req' now' valkey' signal query c =>
      cases hsame
      cases hv
      obtain ⟨t, ht, ha', hnone⟩ := ha.handle hreq hreach
      exact ⟨t, ht, ha', by simp [hmessage, hnone, StreamEvent.request?, UnaryEvent.request?]⟩
    | evict clusterID now' => cases hsame
  | evict clusterID now =>
    cases hs
    cases uev with
    | heartbeat req' now' valkey' signal query c => cases hsame
    | evict clusterID' now' =>
      cases hsame
      cases hv
      exact ⟨s, hi, ⟨by simp only [ha.dedup], ha.delivered, ha.attempts, ha.read, ha.named⟩,
        List.append_nil _⟩
  | _ => cases hsame

theorem UnaryAhead.run {es : List StreamEvent} {us : List UnaryEvent} {v : Unary}
    (ha : UnaryAhead tenantOf s g u) (hi : g.streams i = some s)
    (hsame : outputs Streams.step Streams.ingress? g es = us.map UnaryEvent.ingress)
    (hr : runSteps Streams.step g es = some g') (hv : runSteps Unary.step u us = some v)
    (hsmooth : Along Streams.step (Streams.Smooth tenantOf i) g es)
    (hone : Along Streams.step Streams.OneCluster g es)
    (hreach : Along Unary.step (Unary.SignalsReach tenantOf) u us) :
    ∃ t, g'.streams i = some t ∧ UnaryAhead tenantOf t g' v ∧
      s.unchecked.toList ++ es.filterMap StreamEvent.request? =
        us.filterMap UnaryEvent.request? ++ t.unchecked.toList := by
  induction es generalizing g u s us with
  | nil =>
    obtain rfl : us = [] := List.map_eq_nil_iff.mp hsame.symm
    cases hr
    cases hv
    exact ⟨s, hi, ha, List.append_nil _⟩
  | cons ev es ih =>
    obtain ⟨m, hm, hr⟩ := runSteps_cons Streams.step hr
    simp only [outputs, hm, Option.map_some, Option.getD_some] at hsame
    cases hin : g.ingress? ev with
    | none =>
      rw [hin] at hsame
      obtain ⟨t, ht, ha', hread⟩ := ha.inner hi hsmooth.1 hone.1 hin hm
      obtain ⟨t', ht', ha'', hread'⟩ :=
        ih ha' ht hsame hr hv (hsmooth.2 m hm) (hone.2 m hm) hreach
      exact ⟨t', ht', ha'', by rw [filterMap_cons_toList, ← List.append_assoc, hread, hread']⟩
    | some x =>
      rw [hin] at hsame
      cases us with
      | nil => cases hsame
      | cons uev us =>
        rw [List.map_cons, Option.toList_some, List.singleton_append, List.cons.injEq] at hsame
        obtain ⟨w, hw, hv⟩ := runSteps_cons Unary.step hv
        obtain ⟨t, ht, ha', hread⟩ := ha.outer hi hsmooth.1 hreach.1
          (hin.trans (congrArg some hsame.1)) hm hw
        obtain ⟨t', ht', ha'', hread'⟩ :=
          ih ha' ht hsame.2 hr hv (hsmooth.2 m hm) (hone.2 m hm) (hreach.2 w hw)
        refine ⟨t', ht', ha'', ?_⟩
        rw [filterMap_cons_toList, filterMap_cons_toList, ← List.append_assoc, hread,
          List.append_assoc, hread', List.append_assoc]

end Simulation

/-- The messages of a stream that is of one cluster, once everything taken in is signalled,
have left the same signals and the same deduplicator as unary calls with the same requests
in the same order: whatever the interleaving of the goroutines, when no message waits too
long for the channel and every signal succeeds. The requests of the calls are the messages
that were read, but for one that is not taken in yet. -/
theorem stream_agrees_with_unary (tenantOf : String → String) (i : ℕ) (g g' : Streams) (t : Stream)
    (v : Unary) (es : List StreamEvent) (us : List UnaryEvent) (hi : g.streams i = some {})
    (hsame : outputs Streams.step Streams.ingress? g es = us.map UnaryEvent.ingress)
    (hr : runSteps Streams.step g es = some g')
    (hv : runSteps Unary.step { dedup := g.dedup, signals := g.signals } us = some v)
    (hsmooth : Along Streams.step (Streams.Smooth tenantOf i) g es)
    (hone : Along Streams.step Streams.OneCluster g es)
    (hreach : Along Unary.step (Unary.SignalsReach tenantOf)
      { dedup := g.dedup, signals := g.signals } us)
    (ht : g'.streams i = some t) (hdone : t.pending = []) :
    g'.signals.delivered = v.signals.delivered ∧ g'.dedup = v.dedup ∧
      es.filterMap StreamEvent.request? =
        us.filterMap UnaryEvent.request? ++ t.unchecked.toList := by
  have hstart : UnaryAhead tenantOf {} g { dedup := g.dedup, signals := g.signals } :=
    ⟨rfl, rfl, (fun x hx => by cases hx), (fun req hreq => by cases hreq),
      fun req hreq => by cases hreq⟩
  obtain ⟨t', ht', ha, hread⟩ := hstart.run hi hsame hr hv hsmooth hone hreach
  cases ht.symm.trans ht'
  have hdelivered := ha.delivered
  rw [hdone] at hdelivered
  exact ⟨hdelivered.symm, ha.dedup.symm, hread⟩

/-- Every sample cluster belongs to one tenant. -/
def sampleTenantOf (_ : String) : String := "00000000-0000-4000-8000-000000000001"

/-- A handler with one open stream. -/
def sampleStreams : Streams where
  dedup := .mem { ttl := 600 }
  streams := Table.empty.set 0 {}

/-- A message is received and signalled at once. -/
def streamed (req : HeartbeatRequest) : List StreamEvent :=
  [.receive 0 req, .name 0, .handle 0 0 .answered, .enqueue 0, .dispatch 0, .signal 0 sampleReplies]

/-- The same message as a unary call; the queries for the response fail. -/
def called (req : HeartbeatRequest) : UnaryEvent :=
  .heartbeat req 0 .answered sampleReplies sampleReplies
    ⟨.ok "", .error "unavailable", .error "unavailable", .error "unavailable", .error "unavailable"⟩

def sampleRequest (clusterId : String) (seq : UInt64) : HeartbeatRequest where
  clusterId
  sequenceNumber := seq

theorem streamed_agrees :
    ∃ g v, runSteps Streams.step sampleStreams
        (streamed (sampleRequest "0000000a-0000-4000-8000-000000000001" 5)) = some g ∧
      runSteps Unary.step { dedup := .mem { ttl := 600 } }
        [called (sampleRequest "0000000a-0000-4000-8000-000000000001" 5)] = some v ∧
      g.signals.delivered = v.signals.delivered ∧ g.signals.delivered.length = 1 := by
  refine ⟨_, _, rfl, rfl, (stream_agrees_with_unary sampleTenantOf 0 sampleStreams _ _ _
    (streamed (sampleRequest "0000000a-0000-4000-8000-000000000001" 5))
    [called (sampleRequest "0000000a-0000-4000-8000-000000000001" 5)] rfl rfl rfl rfl ?_ ?_ ?_ rfl
    rfl).1, rfl⟩
  · refine ⟨rfl, fun g₁ h₁ => ⟨rfl, fun g₂ h₂ => ⟨rfl, fun g₃ h₃ => ⟨rfl, fun g₄ h₄ => ⟨rfl,
      fun g₅ h₅ => ⟨⟨rfl, ?_⟩, fun _ _ => trivial⟩⟩⟩⟩⟩⟩
    obtain rfl := Option.some.inj h₁
    obtain rfl := Option.some.inj h₂
    obtain rfl := Option.some.inj h₃
    obtain rfl := Option.some.inj h₄
    obtain rfl := Option.some.inj h₅
    intro s x hs hx
    cases hs
    cases hx
    exact ⟨rfl, rfl⟩
  · refine ⟨fun s hs => ?_, fun _ _ => ⟨trivial, fun _ _ => ⟨trivial, fun _ _ => ⟨trivial, fun _ _ =>
      ⟨trivial, fun _ _ => ⟨trivial, fun _ _ => trivial⟩⟩⟩⟩⟩⟩
    cases hs
    exact .inl rfl
  · exact ⟨fun _ => ⟨rfl, rfl⟩, fun _ _ => trivial⟩

/-- A message of a second cluster with a lower number is dropped by the stream, and signalled
by a unary call. -/
theorem mixed_stream_drops_usage :
    ∃ g v, runSteps Streams.step sampleStreams
        (streamed (sampleRequest "0000000a-0000-4000-8000-000000000001" 5) ++
          [.receive 0 (sampleRequest "0000000b-0000-4000-8000-000000000001" 1),
            .handle 0 0 .answered]) = some g ∧
      runSteps Unary.step { dedup := .mem { ttl := 600 } }
        [called (sampleRequest "0000000a-0000-4000-8000-000000000001" 5),
          called (sampleRequest "0000000b-0000-4000-8000-000000000001" 1)] = some v ∧
      (∃ t, g.streams 0 = some t ∧ t.pending = []) ∧
      g.signals.delivered.length = 1 ∧ v.signals.delivered.length = 2 ∧
      g.dedup.mark "0000000b-0000-4000-8000-000000000001" = none ∧
      v.dedup.mark "0000000b-0000-4000-8000-000000000001" = some 1 :=
  ⟨_, _, rfl, rfl, ⟨_, rfl, rfl⟩, rfl, rfl, rfl, rfl⟩

end CloudCredit.Gateway
