import CloudCredit.Gateway.HeartbeatStream

/-!
# What becomes of a streamed heartbeat

A message that passed the deduplicator waits for room in the channel, is queued, is taken by
the second goroutine and is signalled. It may be dropped on the way: after two seconds
without room, after four failed signals, or with the stream during a backoff. A signal whose
reply is lost has reached the workflow and is sent again. Whatever happens, a stream forwards
its messages in the order in which they came, and none more than four times.
-/
namespace CloudCredit.Gateway

open Library TigerBeetle Accounting

/-- How the second goroutine is done with a request. -/
inductive Settlement
  | signalled
  | gaveUp
  | cancelled
  deriving DecidableEq

namespace Streams

variable (i : ℕ) (g : Streams)

/-- The stream of a connection; one that is not open yet holds nothing. -/
def stream : Stream := (g.streams i).getD {}

/-- The message that passed the deduplicator. -/
def admits : StreamEvent → Option HeartbeatRequest
  | .handle j now valkey =>
    if j = i then (g.stream i).unchecked.bind fun req =>
      if (g.dedup.isDuplicate (g.stream i).clusterID req.sequenceNumber now valkey).1 then none
      else some req
    else none
  | _ => none

/-- The message that was queued, or dropped for lack of room. -/
def resolves : StreamEvent → Option (HeartbeatRequest × Bool)
  | .enqueue j => if j = i then (g.stream i).waiting.map (·, true) else none
  | .timeout j => if j = i then (g.stream i).waiting.map (·, false) else none
  | _ => none

/-- The request the second goroutine is done with. -/
def settles : StreamEvent → Option (HeartbeatRequest × Settlement)
  | .signal j w => if j = i then (g.stream i).sending.bind fun x =>
      match (g.signals.signalHeartbeat w x.1).1 with
      | .ok _ => some (x.1, .signalled)
      | .error _ => if x.2 + 1 < signalAttempts then none else some (x.1, .gaveUp)
    else none
  | .cancelled j => if j = i then (g.stream i).sending.map (·.1, .cancelled) else none
  | _ => none

/-- The signal that reached a workflow. -/
def delivers : StreamEvent → Option HeartbeatSignal
  | .signal j w => if j = i then (g.stream i).sending.bind fun x =>
      if g.signals.delivered.length < (g.signals.signalHeartbeat w x.1).2.delivered.length then
        some x.1.toSignal
      else none
    else none
  | _ => none

end Streams

/-- One event as a stream sees it: the stream before and after, and what was admitted,
resolved, settled and delivered. -/
inductive Stream.Effect (s s' : Stream) : Option HeartbeatRequest →
    Option (HeartbeatRequest × Bool) → Option (HeartbeatRequest × Settlement) →
    Option HeartbeatSignal → Prop
  | none (waiting : s'.waiting = s.waiting) (sigCh : s'.sigCh = s.sigCh)
      (sending : s'.sending = s.sending) : Effect s s' none none none none
  | admitted {req : HeartbeatRequest} (free : s.waiting = .none) (waiting : s'.waiting = some req)
      (sigCh : s'.sigCh = s.sigCh) (sending : s'.sending = s.sending) :
      Effect s s' (some req) .none .none .none
  | enqueued {req : HeartbeatRequest} (waits : s.waiting = some req)
      (room : s.sigCh.length < sigChCapacity) (waiting : s'.waiting = .none)
      (sigCh : s'.sigCh = s.sigCh ++ [req]) (sending : s'.sending = s.sending) :
      Effect s s' .none (some (req, true)) .none .none
  | dropped {req : HeartbeatRequest} (waits : s.waiting = some req) (waiting : s'.waiting = .none)
      (sigCh : s'.sigCh = s.sigCh) (sending : s'.sending = s.sending) :
      Effect s s' .none (some (req, false)) .none .none
  | dispatched {req : HeartbeatRequest} (idle : s.sending = .none)
      (head : s.sigCh = req :: s'.sigCh) (waiting : s'.waiting = s.waiting)
      (sending : s'.sending = some (req, 0)) : Effect s s' .none .none .none .none
  | failed {req : HeartbeatRequest} {n : ℕ} {d : Option HeartbeatSignal}
      (works : s.sending = some (req, n)) (more : n + 1 < signalAttempts)
      (reached : d = .none ∨ d = some req.toSignal) (waiting : s'.waiting = s.waiting)
      (sigCh : s'.sigCh = s.sigCh) (sending : s'.sending = some (req, n + 1)) :
      Effect s s' .none .none .none d
  | settled {req : HeartbeatRequest} {n : ℕ} {x : Settlement} {d : Option HeartbeatSignal}
      (works : s.sending = some (req, n)) (reached : d = .none ∨ d = some req.toSignal)
      (waiting : s'.waiting = s.waiting) (sigCh : s'.sigCh = s.sigCh)
      (sending : s'.sending = .none) : Effect s s' .none .none (some (req, x)) d

namespace Streams

variable {i : ℕ} {g g' : Streams} {s : Stream} {ev : StreamEvent}

theorem stream_some (hs : g.streams i = some s) : g.stream i = s := by
  rw [stream, hs]
  rfl

theorem stream_setStream (j : ℕ) (s : Stream) :
    (g.setStream j s).stream i = if j = i then s else g.stream i := by
  by_cases hj : j = i
  · subst hj
    simp [stream, setStream]
  · simp [stream, setStream, hj, Table.set_other _ (Ne.symm hj)]

theorem signal_effect {w : ServiceReplies} {req : HeartbeatRequest} {n : ℕ}
    (hs : g.streams i = some s) (hwork : s.sending = some (req, n)) :
    Stream.Effect s ((g.signal i w s req n).stream i) none none (g.settles i (.signal i w))
      (g.delivers i (.signal i w)) := by
  have hreached : g.delivers i (.signal i w) = none ∨
      g.delivers i (.signal i w) = some req.toSignal := by
    simp only [delivers, stream_some hs, hwork, if_true, Option.bind_some]
    split_ifs
    · exact .inr rfl
    · exact .inl rfl
  rw [signal, stream_setStream, if_pos rfl]
  simp only [settles, stream_some hs, hwork, if_true, Option.bind_some]
  cases (g.signals.signalHeartbeat w req).1 with
  | ok => exact .settled hwork hreached rfl rfl rfl
  | error err =>
    by_cases hmore : n + 1 < signalAttempts
    · simp only [if_pos hmore]
      exact .failed hwork hmore hreached rfl rfl rfl
    · simp only [if_neg hmore]
      exact .settled hwork hreached rfl rfl rfl

theorem handle_effect {req : HeartbeatRequest} {now : ℕ} {valkey : Fate}
    (hs : g.streams i = some s)
    (hreq : s.receiver = .named req ∨ s.receiver = .received req ∧ s.clusterID ≠ "") :
    Stream.Effect s ((g.handle i now valkey s req).stream i)
      (g.admits i (.handle i now valkey)) none none none := by
  have hmessage : s.unchecked = some req ∧ s.waiting = none := by
    unfold Stream.unchecked Stream.waiting
    rcases hreq with hreq | ⟨hreq, -⟩ <;> rw [hreq] <;> exact ⟨rfl, rfl⟩
  simp only [handle, admits, stream_setStream, stream_some hs, if_true, hmessage.1,
    Option.bind_some]
  split_ifs
  · exact .none hmessage.2.symm rfl rfl
  · exact .admitted hmessage.2 rfl rfl rfl

/-- Every step as one of its streams sees it. -/
theorem step_effect (hstep : g.step ev = some g') :
    Stream.Effect (g.stream i) (g'.stream i) (g.admits i ev) (g.resolves i ev) (g.settles i ev)
      (g.delivers i ev) := by
  cases ev with
  | opened j =>
    simp only [step] at hstep
    split at hstep
    · rename_i hnone
      cases hstep
      rw [stream_setStream]
      by_cases hj : j = i
      · subst hj
        rw [if_pos rfl, stream, hnone]
        exact .none rfl rfl rfl
      · rw [if_neg hj]
        exact .none rfl rfl rfl
    · cases hstep
  | receive j req =>
    obtain ⟨s, hs, -, hidle, rfl⟩ := step_receive hstep
    rw [stream_setStream]
    by_cases hj : j = i
    · subst hj
      rw [if_pos rfl, stream_some hs]
      exact .none (by simp [Stream.waiting, hidle]) rfl rfl
    · rw [if_neg hj]
      exact .none rfl rfl rfl
  | name j =>
    obtain ⟨s, req, hs, hreq, -, rfl⟩ := step_name hstep
    rw [stream_setStream]
    by_cases hj : j = i
    · subst hj
      rw [if_pos rfl, stream_some hs]
      exact .none (by simp [Stream.waiting, hreq]) rfl rfl
    · rw [if_neg hj]
      exact .none rfl rfl rfl
  | handle j now valkey =>
    obtain ⟨s, req, hs, rfl, hreq⟩ := step_handle hstep
    by_cases hj : j = i
    · subst hj
      rw [stream_some hs]
      exact handle_effect hs hreq
    · have hother : (g.handle j now valkey s req).stream i = g.stream i := by
        simp only [handle, stream_setStream, if_neg hj]
        rfl
      rw [hother]
      simp only [admits, if_neg hj]
      exact .none rfl rfl rfl
  | enqueue j =>
    obtain ⟨s, hs, hstep⟩ := Option.bind_eq_some_iff.mp hstep
    obtain ⟨req, hw, hstep⟩ := Option.bind_eq_some_iff.mp hstep
    split_ifs at hstep with hroom
    cases hstep
    rw [stream_setStream]
    by_cases hj : j = i
    · subst hj
      simp only [resolves, stream_some hs, hw, if_true, Option.map_some]
      exact .enqueued hw hroom rfl rfl rfl
    · simp only [resolves, if_neg hj]
      exact .none rfl rfl rfl
  | timeout j =>
    obtain ⟨s, hs, hstep⟩ := Option.bind_eq_some_iff.mp hstep
    obtain ⟨req, hw, rfl⟩ := Option.map_eq_some_iff.mp hstep
    rw [stream_setStream]
    by_cases hj : j = i
    · subst hj
      simp only [resolves, stream_some hs, hw, if_true, Option.map_some]
      exact .dropped hw rfl rfl rfl
    · simp only [resolves, if_neg hj]
      exact .none rfl rfl rfl
  | dispatch j =>
    obtain ⟨s, hs, hstep⟩ := Option.bind_eq_some_iff.mp hstep
    split at hstep
    · rename_i req rest _ hidle hhead
      cases hstep
      rw [stream_setStream]
      by_cases hj : j = i
      · subst hj
        rw [if_pos rfl, stream_some hs]
        exact .dispatched hidle hhead rfl rfl
      · rw [if_neg hj]
        exact .none rfl rfl rfl
    · cases hstep
  | signal j w =>
    obtain ⟨s, hs, hstep⟩ := Option.bind_eq_some_iff.mp hstep
    obtain ⟨⟨req, n⟩, hwork, rfl⟩ := Option.map_eq_some_iff.mp hstep
    by_cases hj : j = i
    · subst hj
      rw [stream_some hs]
      exact signal_effect hs hwork
    · have hother : (g.signal j w s req n).stream i = g.stream i := by
        simp only [signal, stream_setStream, if_neg hj]
        rfl
      rw [hother]
      simp only [settles, delivers, if_neg hj]
      exact .none rfl rfl rfl
  | cancelled j =>
    obtain ⟨s, hs, hstep⟩ := Option.bind_eq_some_iff.mp hstep
    obtain ⟨⟨req, n⟩, hwork, hstep⟩ := Option.bind_eq_some_iff.mp hstep
    split_ifs at hstep
    cases hstep
    rw [stream_setStream]
    by_cases hj : j = i
    · subst hj
      simp only [settles, stream_some hs, hwork, if_true, Option.map_some]
      exact .settled hwork (.inl rfl) rfl rfl rfl
    · simp only [settles, if_neg hj]
      exact .none rfl rfl rfl
  | close j =>
    obtain ⟨s, hs, hstep⟩ := Option.bind_eq_some_iff.mp hstep
    split_ifs at hstep
    cases hstep
    have hafter : (g.close j s).stream i =
        (g.setStream j { s with isOpen := false }).stream i := by
      unfold close
      dsimp only
      split_ifs <;> rfl
    rw [hafter, stream_setStream]
    by_cases hj : j = i
    · subst hj
      rw [if_pos rfl, stream_some hs]
      exact .none rfl rfl rfl
    · rw [if_neg hj]
      exact .none rfl rfl rfl
  | evict clusterID now =>
    cases hstep
    exact .none rfl rfl rfl

end Streams

/-- A request is signalled at most this often. -/
def signalCopies (req : HeartbeatRequest) : List HeartbeatSignal :=
  List.replicate signalAttempts req.toSignal

/-- What was admitted, resolved, settled and delivered so far, and what the stream holds. -/
structure Stream.Forwards (admitted : List HeartbeatRequest)
    (resolved : List (HeartbeatRequest × Bool)) (settled : List (HeartbeatRequest × Settlement))
    (delivered : List HeartbeatSignal) (s : Stream) : Prop where
  admitted_eq : admitted = resolved.map Prod.fst ++ s.waiting.toList
  queued_eq : (resolved.filter Prod.snd).map Prod.fst =
    settled.map Prod.fst ++ (s.sending.map Prod.fst).toList ++ s.sigCh
  sigCh_le : s.sigCh.length ≤ sigChCapacity
  attempts_lt : ∀ x, s.sending = some x → x.2 < signalAttempts
  delivered_sub : delivered.Sublist ((settled.map Prod.fst).flatMap signalCopies ++
    (s.sending.toList.flatMap fun x => List.replicate x.2 x.1.toSignal))

namespace Stream

variable {s s' : Stream} {A : List HeartbeatRequest} {R : List (HeartbeatRequest × Bool)}
  {S : List (HeartbeatRequest × Settlement)} {D : List HeartbeatSignal}
  {a : Option HeartbeatRequest} {r : Option (HeartbeatRequest × Bool)}
  {x : Option (HeartbeatRequest × Settlement)} {d : Option HeartbeatSignal}

theorem delivered_attempt {req : HeartbeatRequest} {n : ℕ} {pre : List HeartbeatSignal}
    (hD : D.Sublist (pre ++ List.replicate n req.toSignal))
    (hd : d = none ∨ d = some req.toSignal) :
    (D ++ d.toList).Sublist (pre ++ List.replicate (n + 1) req.toSignal) := by
  rw [List.replicate_succ', ← List.append_assoc]
  rcases hd with rfl | rfl
  · exact (by simpa using hD.trans (List.sublist_append_left _ _))
  · exact hD.append (List.Sublist.refl _)

/-- The first goroutine leaves the request in work alone. -/
theorem Forwards.received {A' : List HeartbeatRequest} {R' : List (HeartbeatRequest × Bool)}
    (h : Forwards A R S D s) (sending : s'.sending = s.sending)
    (admitted_eq : A' = R'.map Prod.fst ++ s'.waiting.toList)
    (queued_eq : (R'.filter Prod.snd).map Prod.fst =
      S.map Prod.fst ++ (s'.sending.map Prod.fst).toList ++ s'.sigCh)
    (sigCh_le : s'.sigCh.length ≤ sigChCapacity) : Forwards A' R' S D s' where
  admitted_eq := admitted_eq
  queued_eq := queued_eq
  sigCh_le := sigCh_le
  attempts_lt := sending ▸ h.attempts_lt
  delivered_sub := sending ▸ h.delivered_sub

theorem Forwards.effect (h : Forwards A R S D s) (he : Effect s s' a r x d) :
    Forwards (A ++ a.toList) (R ++ r.toList) (S ++ x.toList) (D ++ d.toList) s' := by
  have hadmitted := h.admitted_eq
  have hqueued := h.queued_eq
  cases he with
  | none waiting sigCh sending =>
    simp only [Option.toList_none, List.append_nil]
    exact h.received sending (waiting ▸ hadmitted) (by rw [sending, sigCh, hqueued])
      (sigCh ▸ h.sigCh_le)
  | admitted free waiting sigCh sending =>
    simp only [Option.toList_none, List.append_nil]
    exact h.received sending (by simp [hadmitted, free, waiting]) (by rw [sending, sigCh, hqueued])
      (sigCh ▸ h.sigCh_le)
  | enqueued waits room waiting sigCh sending =>
    simp only [Option.toList_none, List.append_nil]
    exact h.received sending (by simp [hadmitted, waits, waiting])
      (by simp [hqueued, sigCh, sending]) (by rw [sigCh, List.length_append]; exact room)
  | dropped waits waiting sigCh sending =>
    simp only [Option.toList_none, List.append_nil]
    exact h.received sending (by simp [hadmitted, waits, waiting])
      (by simp [hqueued, sigCh, sending]) (sigCh ▸ h.sigCh_le)
  | dispatched idle head waiting sending =>
    simp only [Option.toList_none, List.append_nil]
    refine ⟨waiting ▸ hadmitted, by simp [hqueued, idle, head, sending], ?_, ?_, ?_⟩
    · have hle := h.sigCh_le
      rw [head, List.length_cons] at hle
      omega
    · simp [sending, signalAttempts]
    · simpa [idle, sending] using h.delivered_sub
  | @failed req n d works more reached waiting sigCh sending =>
    have hD := h.delivered_sub
    simp only [works, Option.toList_some, List.flatMap_singleton] at hD
    simp only [Option.toList_none, List.append_nil]
    refine ⟨waiting ▸ hadmitted, by simp [hqueued, works, sigCh, sending], sigCh ▸ h.sigCh_le,
      ?_, ?_⟩
    · simpa [sending] using more
    · simpa [sending] using delivered_attempt hD reached
  | @settled req n x d works reached waiting sigCh sending =>
    have hD := h.delivered_sub
    simp only [works, Option.toList_some, List.flatMap_singleton] at hD
    have hcopies : (List.replicate (n + 1) req.toSignal).Sublist (signalCopies req) :=
      (List.replicate_sublist_replicate _).mpr (h.attempts_lt _ works)
    simp only [Option.toList_none, List.append_nil]
    refine ⟨waiting ▸ hadmitted, by simp [hqueued, works, sigCh, sending], sigCh ▸ h.sigCh_le,
      by simp [sending], ?_⟩
    simpa [sending] using (delivered_attempt hD reached).trans
      ((List.Sublist.refl _).append hcopies)

theorem Forwards.taken_admitted (h : Forwards A R S D s) :
    (S.map Prod.fst ++ (s.sending.map Prod.fst).toList).Sublist A := by
  rw [h.admitted_eq]
  refine (List.sublist_append_left _ s.sigCh).trans ?_
  rw [← h.queued_eq]
  exact (List.filter_sublist.map _).trans (List.sublist_append_left _ _)

theorem Forwards.delivered_admitted (h : Forwards A R S D s) :
    D.Sublist (A.flatMap signalCopies) := by
  refine h.delivered_sub.trans (List.Sublist.trans ?_ (h.taken_admitted.flatMap signalCopies))
  rw [List.flatMap_append]
  refine (List.Sublist.refl _).append ?_
  cases hwork : s.sending with
  | none => exact List.Sublist.refl _
  | some x =>
    have hcopies : (List.replicate x.2 x.1.toSignal).Sublist (signalCopies x.1) :=
      (List.replicate_sublist_replicate _).mpr (h.attempts_lt x hwork).le
    simpa using hcopies

end Stream

namespace Streams

variable {i : ℕ} {g : Streams} {d : Deduplicator} {es : List StreamEvent}

theorem run_forwards (hr : runSteps step { dedup := d } es = some g) :
    Stream.Forwards (outputs step (admits i) { dedup := d } es)
      (outputs step (resolves i) { dedup := d } es) (outputs step (settles i) { dedup := d } es)
      (outputs step (delivers i) { dedup := d } es) (g.stream i) := by
  refine run_induction step
    (P := fun es g => Stream.Forwards (outputs step (admits i) { dedup := d } es)
      (outputs step (resolves i) { dedup := d } es) (outputs step (settles i) { dedup := d } es)
      (outputs step (delivers i) { dedup := d } es) (g.stream i)) ?_ ?_ hr
  · exact ⟨rfl, rfl, Nat.zero_le _, by simp [stream, Table.empty], List.Sublist.refl _⟩
  · intro xs m ev n hm h hstep
    simp only [outputs_concat step _ hm]
    exact h.effect (step_effect hstep)

/-- On every stream, in every run of any number of streams with any failures: the messages
that passed the deduplicator were queued or dropped one after the other, the last one may
still wait; those that were queued were signalled, given up or cancelled in the same order,
and the rest is in work or in the channel, which never holds more than 256. The signals that
reached a workflow are those of the messages in their order, at most four of each. -/
theorem stream_forwards_in_order (i : ℕ) (d : Deduplicator) (es : List StreamEvent)
    (hr : runSteps step { dedup := d } es = some g) :
    outputs step (admits i) { dedup := d } es =
      (outputs step (resolves i) { dedup := d } es).map Prod.fst ++ (g.stream i).waiting.toList ∧
    ((outputs step (resolves i) { dedup := d } es).filter Prod.snd).map Prod.fst =
      (outputs step (settles i) { dedup := d } es).map Prod.fst ++
        ((g.stream i).sending.map Prod.fst).toList ++ (g.stream i).sigCh ∧
    (g.stream i).sigCh.length ≤ sigChCapacity ∧
    (outputs step (delivers i) { dedup := d } es).Sublist
      ((outputs step (admits i) { dedup := d } es).flatMap signalCopies) := by
  have h := run_forwards (i := i) hr
  exact ⟨h.admitted_eq, h.queued_eq, h.sigCh_le, h.delivered_admitted⟩

def signalledMessage : HeartbeatRequest where
  clusterId := "0000000a-0000-4000-8000-000000000001"
  sequenceNumber := 1

/-- The reply to the first signal of a message is lost, so it is signalled again. -/
def signalledTwice : List StreamEvent :=
  [.opened 0, .receive 0 signalledMessage, .name 0, .handle 0 0 .answered, .enqueue 0, .dispatch 0,
    .signal 0 { sampleReplies with signalWorkflow := .lostReply "reset" },
    .signal 0 sampleReplies]

theorem signalledTwice_in_order :
    ∃ g, runSteps step { dedup := .mem { ttl := 600 } } signalledTwice = some g ∧
      outputs step (settles 0) { dedup := .mem { ttl := 600 } } signalledTwice =
        [(signalledMessage, .signalled)] ∧
      outputs step (delivers 0) { dedup := .mem { ttl := 600 } } signalledTwice =
        [signalledMessage.toSignal, signalledMessage.toSignal] ∧
      (outputs step (delivers 0) { dedup := .mem { ttl := 600 } } signalledTwice).Sublist
        ((outputs step (admits 0) { dedup := .mem { ttl := 600 } } signalledTwice).flatMap
          signalCopies) := by
  obtain ⟨g, hr, -⟩ := runSteps_any step { dedup := .mem { ttl := 600 } } signalledTwice
    (fun _ => true) (by decide +kernel)
  exact ⟨g, hr, by decide +kernel, by decide +kernel,
    (stream_forwards_in_order 0 (.mem { ttl := 600 }) signalledTwice hr).2.2.2⟩

end Streams
end CloudCredit.Gateway
