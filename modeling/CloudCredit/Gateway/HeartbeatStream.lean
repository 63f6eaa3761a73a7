import CloudCredit.Gateway.UnaryHeartbeat

/-!
# Heartbeat streams

A stream has two goroutines. One receives the messages, remembers the cluster of the stream,
asks the deduplicator and puts what passes into a channel. The other takes the messages from
the channel and signals them, up to four times each. The stream manager has one entry for
each cluster, whichever of its streams made it.

The receiving goroutine reads a message, sets the cluster of the stream from the first one,
and registers it, in steps of their own. The handler may return between any two of them: the
goroutine goes on with the message it has.
-/
namespace CloudCredit.Gateway

open Library TigerBeetle Accounting

structure StreamEntry where
  clusterID : String
  connectedAt : ℕ
  lastSeen : ℕ
  deriving DecidableEq

structure StreamManager where
  streams : Table String StreamEntry := Table.empty

namespace StreamManager

variable (m : StreamManager)

def register (clusterID : String) (now : ℕ) : StreamManager :=
  ⟨m.streams.set clusterID ⟨clusterID, now, now⟩⟩

def deregister (clusterID : String) : StreamManager := ⟨m.streams.erase clusterID⟩

def touch (clusterID : String) (now : ℕ) : StreamManager :=
  match m.streams clusterID with
  | some e => ⟨m.streams.set clusterID { e with lastSeen := now }⟩
  | none => m

/-- The clusters with an entry. -/
def activeClusters : Set String := {c | (m.streams c).isSome = true}

instance (c : String) : Decidable (c ∈ m.activeClusters) :=
  inferInstanceAs (Decidable ((m.streams c).isSome = true))

theorem mem_register {c clusterID : String} {now : ℕ} :
    c ∈ (m.register clusterID now).activeClusters ↔ c = clusterID ∨ c ∈ m.activeClusters := by
  by_cases hc : c = clusterID <;> simp [activeClusters, register, Table.set, hc]

theorem mem_deregister {c clusterID : String} :
    c ∈ (m.deregister clusterID).activeClusters ↔ c ≠ clusterID ∧ c ∈ m.activeClusters := by
  by_cases hc : c = clusterID <;> simp [activeClusters, deregister, Table.erase, hc]

theorem touch_activeClusters (clusterID : String) (now : ℕ) :
    (m.touch clusterID now).activeClusters = m.activeClusters := by
  unfold touch
  split
  · rename_i e he
    ext c
    by_cases hc : c = clusterID <;> simp [activeClusters, Table.set, hc, he]
  · rfl

end StreamManager

/-- The capacity of `sigCh`. -/
def sigChCapacity : ℕ := 256

/-- The attempts to signal one heartbeat: the first and one after each backoff. -/
def signalAttempts : ℕ := 4

/-- Where the receiving goroutine is: in `stream.Receive`, with a message it has read, with
one it has just set the cluster of the stream from, or waiting for room in the channel. -/
inductive Receiver
  | idle
  | received (req : HeartbeatRequest)
  | named (req : HeartbeatRequest)
  | waiting (req : HeartbeatRequest)

/-- A stream: its cluster, whether it has delivered a message, the receiving goroutine, the
channel, and the request being signalled with the number of failed attempts. The second
goroutine ends when the stream is cancelled during a backoff. -/
structure Stream where
  isOpen : Bool := true
  dispatching : Bool := true
  clusterID : String := ""
  received : Bool := false
  receiver : Receiver := .idle
  sigCh : List HeartbeatRequest := []
  sending : Option (HeartbeatRequest × ℕ) := none

namespace Stream

variable (s : Stream)

/-- The request that waits for room in the channel. -/
def waiting : Option HeartbeatRequest :=
  match s.receiver with
  | .waiting req => some req
  | _ => none

/-- The message the receiving goroutine has not asked the deduplicator about yet. -/
def unchecked : Option HeartbeatRequest :=
  match s.receiver with
  | .received req | .named req => some req
  | _ => none

/-- The first message is read and its cluster is not registered yet. -/
def connecting : Bool :=
  match s.receiver with
  | .received _ => s.clusterID = ""
  | .named _ => true
  | _ => false

/-- The requests that passed the deduplicator and are not signalled yet, in order. -/
def pending : List HeartbeatRequest :=
  (s.sending.map Prod.fst).toList ++ s.sigCh ++ s.waiting.toList

end Stream

/-- What the streams share, and the streams by connection. -/
structure Streams where
  dedup : Deduplicator
  signals : Signals := {}
  manager : StreamManager := {}
  streams : Table ℕ Stream := Table.empty

inductive StreamEvent
  | opened (i : ℕ)
  | receive (i : ℕ) (req : HeartbeatRequest)
  | name (i : ℕ)
  | handle (i : ℕ) (now : ℕ) (valkey : Fate)
  | enqueue (i : ℕ)
  | timeout (i : ℕ)
  | dispatch (i : ℕ)
  | signal (i : ℕ) (w : ServiceReplies)
  | cancelled (i : ℕ)
  | close (i : ℕ)
  | evict (clusterID : String) (now : ℕ)

namespace Streams

variable (g : Streams)

/-- The handler after the stream `i` has changed. -/
def setStream (i : ℕ) (s : Stream) : Streams := { g with streams := g.streams.set i s }

/-- A stream that has just got its cluster registers it. -/
def connect (s : Stream) (now : ℕ) : StreamManager :=
  match s.receiver with
  | .named _ => g.manager.register s.clusterID now
  | _ => g.manager

/-- The receiving goroutine registers the cluster if it is new, and asks the deduplicator. -/
def handle (i : ℕ) (now : ℕ) (valkey : Fate) (s : Stream) (req : HeartbeatRequest) : Streams :=
  let check := g.dedup.isDuplicate s.clusterID req.sequenceNumber now valkey
  let g' := { g with dedup := check.2, manager := (g.connect s now).touch s.clusterID now }
  g'.setStream i { s with receiver := if check.1 then .idle else .waiting req }

/-- One attempt to signal the request in work; the last one gives it up. -/
def signal (i : ℕ) (w : ServiceReplies) (s : Stream) (req : HeartbeatRequest) (failed : ℕ) :
    Streams :=
  let sent := g.signals.signalHeartbeat w req
  let sending := match sent.1 with
    | .ok _ => none
    | .error _ => if failed + 1 < signalAttempts then some (req, failed + 1) else none
  { g with signals := sent.2 }.setStream i { s with sending }

/-- The handler returns: the cluster of the stream is deregistered. -/
def close (i : ℕ) (s : Stream) : Streams :=
  let g' := g.setStream i { s with isOpen := false }
  if s.clusterID ≠ "" then { g' with manager := g.manager.deregister s.clusterID } else g'

def step : StreamEvent → Option Streams
  | .opened i =>
    match g.streams i with
    | none => some (g.setStream i {})
    | some _ => none
  | .receive i req => (g.streams i).bind fun s =>
    match s.isOpen, s.receiver with
    | true, .idle => some (g.setStream i { s with received := true, receiver := .received req })
    | _, _ => none
  | .name i => (g.streams i).bind fun s =>
    match s.receiver with
    | .received req =>
      if s.clusterID = "" then
        some (g.setStream i { s with clusterID := req.clusterId, receiver := .named req })
      else none
    | _ => none
  | .handle i now valkey => (g.streams i).bind fun s =>
    match s.receiver with
    | .received req => if s.clusterID = "" then none else some (g.handle i now valkey s req)
    | .named req => some (g.handle i now valkey s req)
    | _ => none
  | .enqueue i => (g.streams i).bind fun s => s.waiting.bind fun req =>
    if s.sigCh.length < sigChCapacity then
      some (g.setStream i { s with receiver := .idle, sigCh := s.sigCh ++ [req] })
    else none
  | .timeout i => (g.streams i).bind fun s => s.waiting.map fun _ =>
    g.setStream i { s with receiver := .idle }
  | .dispatch i => (g.streams i).bind fun s =>
    match s.dispatching, s.sending, s.sigCh with
    | true, none, req :: rest =>
      some (g.setStream i { s with sending := some (req, 0), sigCh := rest })
    | _, _, _ => none
  | .signal i w => (g.streams i).bind fun s => s.sending.map fun x => g.signal i w s x.1 x.2
  | .cancelled i => (g.streams i).bind fun s => s.sending.bind fun x =>
    if 0 < x.2 then some (g.setStream i { s with sending := none, dispatching := false }) else none
  | .close i => (g.streams i).bind fun s => if s.isOpen then some (g.close i s) else none
  | .evict clusterID now => some { g with dedup := g.dedup.evict clusterID now }

section Receiving

variable {g} {g' : Streams} {i : ℕ}

theorem step_receive {req : HeartbeatRequest} (hs : g.step (.receive i req) = some g') :
    ∃ s, g.streams i = some s ∧ s.isOpen = true ∧ s.receiver = .idle ∧
      g' = g.setStream i { s with received := true, receiver := .received req } := by
  obtain ⟨s, hi, hs⟩ := Option.bind_eq_some_iff.mp hs
  split at hs
  · rename_i hopen hidle
    exact ⟨s, hi, hopen, hidle, (Option.some.inj hs).symm⟩
  · cases hs

theorem step_name (hs : g.step (.name i) = some g') :
    ∃ s req, g.streams i = some s ∧ s.receiver = .received req ∧ s.clusterID = "" ∧
      g' = g.setStream i { s with clusterID := req.clusterId, receiver := .named req } := by
  obtain ⟨s, hi, hs⟩ := Option.bind_eq_some_iff.mp hs
  split at hs
  · rename_i req hreq
    split_ifs at hs with hempty
    exact ⟨s, req, hi, hreq, hempty, (Option.some.inj hs).symm⟩
  · cases hs

theorem step_handle {now : ℕ} {valkey : Fate} (hs : g.step (.handle i now valkey) = some g') :
    ∃ s req, g.streams i = some s ∧ g' = g.handle i now valkey s req ∧
      (s.receiver = .named req ∨ s.receiver = .received req ∧ s.clusterID ≠ "") := by
  obtain ⟨s, hi, hs⟩ := Option.bind_eq_some_iff.mp hs
  split at hs
  · rename_i req hreq
    split_ifs at hs with hempty
    exact ⟨s, req, hi, (Option.some.inj hs).symm, .inr ⟨hreq, hempty⟩⟩
  · rename_i req hreq
    exact ⟨s, req, hi, (Option.some.inj hs).symm, .inl hreq⟩
  · cases hs

theorem receiver_of_waiting {s : Stream} {req : HeartbeatRequest} (hw : s.waiting = some req) :
    s.receiver = .waiting req := by
  unfold Stream.waiting at hw
  split at hw
  · rename_i hreq
    rw [hreq, Option.some.inj hw]
  · cases hw

end Receiving

end Streams

end CloudCredit.Gateway
