import CloudCredit.Gateway.HeartbeatHandler
import CloudCredit.Gateway.ClusterIDs

/-!
# The agent of a cluster

An agent has a loop that sends heartbeats and a loop that receives responses. Each tick
of its clock sends one heartbeat under the next number. From the first response with a
shutdown command to the first one without, the ticks send nothing. The scenario of the
simulator can wake an agent up and can make it send old numbers again.
-/
namespace CloudCredit.Simulator

open Library Gateway

/-- An agent, with the local variables of its two loops. -/
structure ClusterSim where
  id : String
  tickMs : Int64
  usageMult : Float
  seq : UInt64 := 0
  prevAck : UInt64 := 0
  transfersTotal : Int64 := 0
  exhaustClosed : Bool := false
  exhaust : Bool := false
  /-- The numbers that the scenario has not yet put into the channel. -/
  pushing : List UInt64 := []
  replayCh : List UInt64 := []
  recentSeqs : List UInt64 := []
  wasStopped : Bool := false
  stopped : Bool := false
  /-- The loop has not ended with a failed call on the stream. -/
  sending : Bool := true
  receiving : Bool := true

/-- What a tick draws at random. -/
structure Draws where
  nodes : ℕ
  util : Float

inductive AgentEvent
  | tick (paused : Bool) (draws : Draws) (sent : Bool)
  | exhaust
  | replay
  | receive (resp : HeartbeatResponse)
  | receiveFails
  /-- `stepExhaust`, for the first cluster of the tenant or for another one. -/
  | stepExhaust (first : Bool)
  | stepIdempotency
  | push

namespace ClusterSim

variable (s : ClusterSim)

def replayCapacity : ℕ := 8

def nodes (d : Draws) : Int32 :=
  if s.exhaust then .ofNat (d.nodes % 5 + 18) else .ofNat (d.nodes % 4 + 2)

def cpuDelta (d : Draws) : Int64 :=
  let busy := s.tickMs.toFloat * 2
  if s.exhaust then (busy * 8 * (s.nodes d).toFloat * s.usageMult).toInt64
  else (busy * (s.nodes d).toFloat * (0.5 + d.util * 0.4) * s.usageMult).toInt64

def memDelta (d : Draws) : Int64 :=
  (s.tickMs.toFloat / 1000 * 512 * (s.nodes d).toFloat * s.usageMult).toInt64

/-- The heartbeat of a tick. -/
def beat (d : Draws) : HeartbeatRequest where
  clusterId := s.id
  sequenceNumber := s.seq + 1
  cpuMillisecondsDelta := s.cpuDelta d
  memoryMbSecondsDelta := s.memDelta d
  activeNodes := s.nodes d

/-- An old number sent again. -/
def repeated (replaySeq : UInt64) : HeartbeatRequest where
  clusterId := s.id
  sequenceNumber := replaySeq
  cpuMillisecondsDelta := 1000
  memoryMbSecondsDelta := 500
  activeNodes := 4

/-- The numbers of the last ten heartbeats. -/
def recent (seqs : List UInt64) : List UInt64 := seqs.drop (seqs.length - 10)

/-- One tick of the clock; a call that fails ends the loop. -/
def tick (paused sent : Bool) : ClusterSim :=
  if paused || s.stopped then s
  else
    { s with
      seq := s.seq + 1
      recentSeqs := recent (s.recentSeqs ++ [s.seq + 1])
      sending := sent }

/-- Each newly acknowledged number is counted as three transfers. -/
def countTransfers (ackSequence : UInt64) : ClusterSim :=
  if s.prevAck < ackSequence then
    { s with
      transfersTotal := s.transfersTotal + (ackSequence - s.prevAck).toInt64 * 3
      prevAck := ackSequence }
  else s

/-- The agent stops and resumes only when the commands appear or disappear. -/
def obey (hasKill : Bool) : ClusterSim :=
  if hasKill && !s.wasStopped then { s with wasStopped := true, stopped := true }
  else if !hasKill && s.wasStopped then { s with wasStopped := false, stopped := false }
  else s

def receive (resp : HeartbeatResponse) : ClusterSim :=
  (s.countTransfers resp.ackSequence).obey (clientStopped resp)

def step (s : ClusterSim) : AgentEvent → Option ClusterSim
  | .tick paused _ sent => if s.sending then some (s.tick paused sent) else none
  | .exhaust =>
    if s.sending && s.exhaustClosed then some { s with exhaust := true, exhaustClosed := false }
    else none
  | .replay =>
    if s.sending then
      match s.replayCh with
      | [] => none
      | _ :: rest => some { s with replayCh := rest }
    else none
  | .receive resp => if s.receiving then some (s.receive resp) else none
  | .receiveFails => if s.receiving then some { s with receiving := false } else none
  | .stepExhaust first =>
    -- closing a closed channel would end the program
    if first && s.exhaustClosed then none
    else some { s with stopped := false, exhaustClosed := s.exhaustClosed || first }
  | .stepIdempotency => some { s with pushing := s.pushing ++ s.recentSeqs.take 3 }
  | .push =>
    match s.pushing with
    | [] => none
    | n :: rest =>
      if s.replayCh.length < replayCapacity then
        some { s with pushing := rest, replayCh := s.replayCh ++ [n] }
      else none

/-- The new heartbeat that an event puts on the stream. -/
def fresh (s : ClusterSim) : AgentEvent → Option HeartbeatRequest
  | .tick paused d sent =>
    if paused || s.stopped then none else if sent then some (s.beat d) else none
  | _ => none

/-- The old heartbeat that an event puts on the stream again. -/
def replays (s : ClusterSim) : AgentEvent → Option HeartbeatRequest
  | .replay => s.replayCh.head?.map s.repeated
  | _ => none

def sends (s : ClusterSim) (ev : AgentEvent) : Option HeartbeatRequest :=
  (s.fresh ev).or (s.replays ev)

/-- What an event does to an agent. -/
inductive Stepped (s : ClusterSim) : AgentEvent → ClusterSim → Prop
  | tick {paused sent : Bool} {d : Draws} (hsending : s.sending = true) :
      Stepped s (.tick paused d sent) (s.tick paused sent)
  | exhaust : Stepped s .exhaust { s with exhaust := true, exhaustClosed := false }
  | replay {n : UInt64} {rest : List UInt64} (hsending : s.sending = true)
      (hch : s.replayCh = n :: rest) : Stepped s .replay { s with replayCh := rest }
  | receive {resp : HeartbeatResponse} : Stepped s (.receive resp) (s.receive resp)
  | receiveFails : Stepped s .receiveFails { s with receiving := false }
  | stepExhaust {first : Bool} : Stepped s (.stepExhaust first)
      { s with stopped := false, exhaustClosed := s.exhaustClosed || first }
  | stepIdempotency :
      Stepped s .stepIdempotency { s with pushing := s.pushing ++ s.recentSeqs.take 3 }
  | push {n : UInt64} {rest : List UInt64} (hpush : s.pushing = n :: rest) :
      Stepped s .push { s with pushing := rest, replayCh := s.replayCh ++ [n] }

variable {s} {t : ClusterSim} {ev : AgentEvent} {es : List AgentEvent}

theorem stepped_of_step (hs : s.step ev = some t) : Stepped s ev t := by
  cases ev with
  | tick paused d sent =>
    simp only [step] at hs
    split_ifs at hs with hsending
    cases hs
    exact .tick hsending
  | exhaust =>
    simp only [step] at hs
    split_ifs at hs
    cases hs
    exact .exhaust
  | replay =>
    simp only [step] at hs
    split_ifs at hs with hsending
    cases hch : s.replayCh with
    | nil => simp [hch] at hs
    | cons n rest =>
      simp only [hch, Option.some.injEq] at hs
      subst hs
      exact .replay hsending hch
  | receive resp =>
    simp only [step] at hs
    split_ifs at hs
    cases hs
    exact .receive
  | receiveFails =>
    simp only [step] at hs
    split_ifs at hs
    cases hs
    exact .receiveFails
  | stepExhaust first =>
    simp only [step] at hs
    split_ifs at hs
    cases hs
    exact .stepExhaust
  | stepIdempotency =>
    cases hs
    exact .stepIdempotency
  | push =>
    simp only [step] at hs
    cases hpush : s.pushing with
    | nil => simp [hpush] at hs
    | cons n rest =>
      simp only [hpush] at hs
      split_ifs at hs
      cases hs
      exact .push hpush

/-- The numbers an agent may send again. -/
def remembered (s : ClusterSim) : List UInt64 := s.recentSeqs ++ s.pushing ++ s.replayCh

/-- An agent that has sent the heartbeats `fs`: they are numbered from one on, and as long
as it sends, the next number is the next one and it remembers only numbers it has sent. -/
structure Numbered (fs : List HeartbeatRequest) (s : ClusterSim) : Prop where
  numbers : fs.map (·.sequenceNumber.toNat) = List.range' 1 fs.length
  seq : s.sending = true → s.seq.toNat = fs.length
  known : s.sending = true → s.remembered ⊆ fs.map (·.sequenceNumber)

variable {fs : List HeartbeatRequest}

theorem mem_recent {seqs : List UInt64} {n : UInt64} (hn : n ∈ recent seqs) : n ∈ seqs :=
  List.mem_of_mem_drop hn

theorem receive_stopped (resp : HeartbeatResponse) :
    (s.receive resp).wasStopped = clientStopped resp ∧
      (s.receive resp).stopped =
        if clientStopped resp = s.wasStopped then s.stopped else clientStopped resp := by
  have hcount : (s.countTransfers resp.ackSequence).stopped = s.stopped ∧
      (s.countTransfers resp.ackSequence).wasStopped = s.wasStopped := by
    unfold countTransfers
    split_ifs <;> exact ⟨rfl, rfl⟩
  unfold receive obey
  cases clientStopped resp <;> cases hwas : s.wasStopped <;> simp [hcount, hwas]

theorem receive_id (resp : HeartbeatResponse) :
    (s.receive resp).id = s.id ∧ (s.receive resp).receiving = s.receiving := by
  unfold receive obey countTransfers
  split_ifs <;> exact ⟨rfl, rfl⟩

theorem receive_seq (resp : HeartbeatResponse) :
    (s.receive resp).sending = s.sending ∧ (s.receive resp).seq = s.seq ∧
      (s.receive resp).recentSeqs = s.recentSeqs ∧ (s.receive resp).pushing = s.pushing ∧
      (s.receive resp).replayCh = s.replayCh := by
  unfold receive obey countTransfers
  split_ifs <;> exact ⟨rfl, rfl, rfl, rfl, rfl⟩

theorem step_cases (hs : s.step ev = some t) :
    (∃ paused d sent, ev = .tick paused d sent ∧ s.sending = true ∧ t = s.tick paused sent) ∨
      s.fresh ev = none ∧ t.sending = s.sending ∧ t.seq = s.seq ∧
        t.remembered ⊆ s.remembered := by
  cases stepped_of_step hs with
  | tick hsending => exact .inl ⟨_, _, _, rfl, hsending, rfl⟩
  | exhaust => exact .inr ⟨rfl, rfl, rfl, List.Subset.refl _⟩
  | replay hsending hch =>
    refine .inr ⟨rfl, rfl, rfl, ?_⟩
    intro k hk
    simp only [remembered, hch, List.mem_append, List.mem_cons] at hk ⊢
    tauto
  | @receive resp =>
    obtain ⟨hsending, hseq, hrecent, hpushing, hreplay⟩ := s.receive_seq resp
    refine .inr ⟨rfl, hsending, hseq, ?_⟩
    rw [remembered, hrecent, hpushing, hreplay]
    exact List.Subset.refl _
  | receiveFails => exact .inr ⟨rfl, rfl, rfl, List.Subset.refl _⟩
  | stepExhaust => exact .inr ⟨rfl, rfl, rfl, List.Subset.refl _⟩
  | stepIdempotency =>
    refine .inr ⟨rfl, rfl, rfl, ?_⟩
    intro n hn
    simp only [remembered, List.mem_append] at hn ⊢
    rcases hn with (hn | hn | hn) | hn
    · exact .inl (.inl hn)
    · exact .inl (.inr hn)
    · exact .inl (.inl (List.mem_of_mem_take hn))
    · exact .inr hn
  | push hpush =>
    refine .inr ⟨rfl, rfl, rfl, ?_⟩
    intro k hk
    simp only [remembered, hpush, List.mem_append, List.mem_cons, List.not_mem_nil,
      or_false] at hk ⊢
    tauto

theorem Numbered.beat (hn : Numbered fs s) (hroom : fs.length + 1 < 2 ^ 64)
    (hsending : s.sending = true) (d : Draws) :
    (fs ++ [s.beat d]).map (·.sequenceNumber.toNat) =
        List.range' 1 (fs ++ [s.beat d]).length ∧
      (s.seq + 1).toNat = (fs ++ [s.beat d]).length := by
  have hseq : (s.seq + 1).toNat = fs.length + 1 := by
    rw [UInt64.toNat_add, hn.seq hsending]
    exact Nat.mod_eq_of_lt hroom
  constructor
  · rw [List.map_append, hn.numbers, List.length_append, List.length_singleton,
      List.range'_concat]
    simp only [ClusterSim.beat, List.map_cons, List.map_nil, hseq]
    rw [Nat.one_mul, Nat.add_comm]
  · rw [hseq, List.length_append, List.length_singleton]

theorem Numbered.tick (hn : Numbered fs s) (hroom : fs.length + 1 < 2 ^ 64)
    (hsending : s.sending = true) (paused : Bool) (d : Draws) (sent : Bool) :
    Numbered (fs ++ (s.fresh (.tick paused d sent)).toList) (s.tick paused sent) := by
  simp only [ClusterSim.tick, fresh]
  split_ifs with hrests hsent
  · simpa using hn
  · obtain ⟨hnumbers, hseq⟩ := hn.beat hroom hsending d
    constructor
    · exact hnumbers
    · intro _
      exact hseq
    · intro _ n hmem
      rw [Option.toList_some, List.map_append, List.mem_append]
      have hold : n ∈ s.remembered → n ∈ fs.map (·.sequenceNumber) :=
        fun hn' => hn.known hsending hn'
      simp only [remembered, List.append_assoc, List.mem_append] at hmem hold
      rcases hmem with hmem | hmem | hmem
      · rcases List.mem_append.mp (mem_recent hmem) with hmem | hmem
        · exact .inl (hold (.inl hmem))
        · exact .inr (by simpa [ClusterSim.beat] using hmem)
      · exact .inl (hold (.inr (.inl hmem)))
      · exact .inl (hold (.inr (.inr hmem)))
  · constructor
    · simpa using hn.numbers
    · intro hcon
      exact absurd hcon hsent
    · intro hcon
      exact absurd hcon hsent

theorem Numbered.step (hn : Numbered fs s) (hroom : fs.length + 1 < 2 ^ 64)
    (hs : s.step ev = some t) : Numbered (fs ++ (s.fresh ev).toList) t := by
  rcases step_cases hs with ⟨paused, d, sent, rfl, hsending, rfl⟩ | ⟨hfresh, hsending, hseq, hsub⟩
  · exact hn.tick hroom hsending paused d sent
  · rw [hfresh, Option.toList_none, List.append_nil]
    constructor
    · exact hn.numbers
    · rw [hsending, hseq]
      exact hn.seq
    · rw [hsending]
      intro hsend n hmem
      exact hn.known hsend (hsub hmem)

theorem outputs_fresh_length (s : ClusterSim) (es : List AgentEvent) :
    (outputs step fresh s es).length ≤ es.length := by
  induction es generalizing s with
  | nil => exact le_refl _
  | cons ev es ih =>
    have hone : (s.fresh ev).toList.length ≤ 1 := by cases s.fresh ev <;> simp
    simp only [outputs, List.length_append, List.length_cons]
    cases hs : s.step ev with
    | none => simpa [hs] using hone.trans (by omega)
    | some t =>
      have hrest := ih t
      simp only [Option.map_some, Option.getD_some]
      omega

theorem replays_remembered {req : HeartbeatRequest} (hreq : s.replays ev = some req)
    (hs : s.step ev = some t) : s.sending = true ∧ req.sequenceNumber ∈ s.remembered := by
  cases stepped_of_step hs with
  | replay hsending hch =>
    rw [replays, hch, List.head?_cons, Option.map_some] at hreq
    cases hreq
    refine ⟨hsending, List.mem_append_right _ ?_⟩
    rw [hch]
    exact List.mem_cons_self
  | _ => cases hreq

/-- An agent before its first event. -/
def new (id : String) (tickMs : Int64) (usageMult : Float) : ClusterSim :=
  { id, tickMs, usageMult }

/-- Whatever happens to an agent, its heartbeats are numbered one, two, three and so on, and
a number it sends again is one it has sent. -/
theorem heartbeats_are_numbered {id : String} {tickMs : Int64} {usageMult : Float}
    (hr : runSteps step (new id tickMs usageMult) es = some s) (hroom : es.length < 2 ^ 64) :
    let fs := outputs step fresh (new id tickMs usageMult) es
    fs.map (·.sequenceNumber.toNat) = List.range' 1 fs.length ∧
      ∀ req ∈ outputs step replays (new id tickMs usageMult) es,
        req.sequenceNumber ∈ fs.map (·.sequenceNumber) := by
  have hrun : Numbered (outputs step fresh (new id tickMs usageMult) es) s ∧
      ∀ req ∈ outputs step replays (new id tickMs usageMult) es, req.sequenceNumber ∈
        (outputs step fresh (new id tickMs usageMult) es).map (·.sequenceNumber) := by
    refine run_induction step (P := fun xs m => xs.length < 2 ^ 64 →
      Numbered (outputs step fresh (new id tickMs usageMult) xs) m ∧
        ∀ req ∈ outputs step replays (new id tickMs usageMult) xs, req.sequenceNumber ∈
          (outputs step fresh (new id tickMs usageMult) xs).map (·.sequenceNumber))
      ?_ ?_ hr hroom
    · intro _
      exact ⟨⟨rfl, fun _ => rfl, fun _ => List.Subset.refl _⟩, fun req hreq => by cases hreq⟩
    · intro xs m ev n hm ih hs hlen
      rw [List.length_append, List.length_singleton] at hlen
      obtain ⟨hn, hold⟩ := ih (by omega)
      have hfew := outputs_fresh_length (new id tickMs usageMult) xs
      rw [outputs_concat step fresh hm, outputs_concat step replays hm]
      refine ⟨hn.step (by omega) hs, ?_⟩
      intro req hreq
      rw [List.map_append, List.mem_append]
      rcases List.mem_append.mp hreq with hreq | hreq
      · exact .inl (hold req hreq)
      · obtain ⟨hsending, hmem⟩ := replays_remembered (by simpa using hreq) hs
        exact .inl (hn.known hsending hmem)
  exact ⟨hrun.1.numbers, hrun.2⟩

def sampleShutdown : HeartbeatResponse where
  status := .quotaExceeded
  quotas := []
  ackSequence := 2
  pendingCommands := [⟨.shutdown, shutdownReason "cpu_hours" 0⟩]

/-- Two heartbeats, a shutdown command that holds back the third, and the first two numbers
again. -/
def replayedTwice : List AgentEvent :=
  [.tick false ⟨0, 0⟩ true, .tick false ⟨1, 0⟩ true, .receive sampleShutdown,
    .tick false ⟨2, 0⟩ true, .stepIdempotency, .push, .push, .replay, .replay]

theorem replayedTwice_numbered :
    (∃ s, runSteps step (new "c" 25 1) replayedTwice = some s ∧ s.stopped = true) ∧
      (outputs step fresh (new "c" 25 1) replayedTwice).map (·.sequenceNumber) = [1, 2] ∧
      (outputs step replays (new "c" 25 1) replayedTwice).map (·.sequenceNumber) = [1, 2] ∧
      ∀ req ∈ outputs step replays (new "c" 25 1) replayedTwice, req.sequenceNumber ∈
        (outputs step fresh (new "c" 25 1) replayedTwice).map (·.sequenceNumber) := by
  obtain ⟨s, hr, hstopped⟩ := runSteps_any step (new "c" 25 1) replayedTwice (·.stopped) rfl
  exact ⟨⟨s, hr, hstopped⟩, rfl, rfl, (heartbeats_are_numbered hr (by decide)).2⟩

theorem tick_stopped (paused sent : Bool) :
    (s.tick paused sent).stopped = s.stopped ∧
      (s.tick paused sent).wasStopped = s.wasStopped := by
  unfold tick
  split_ifs <;> exact ⟨rfl, rfl⟩

theorem awake_step (hs : s.wasStopped = true ∧ s.stopped = false)
    (hev : ∀ resp, ev = .receive resp → clientStopped resp = true) (hstep : s.step ev = some t) :
    t.wasStopped = true ∧ t.stopped = false := by
  cases stepped_of_step hstep with
  | @tick paused sent d hsending =>
    obtain ⟨hstopped, hwas⟩ := s.tick_stopped paused sent
    exact ⟨hwas.trans hs.1, hstopped.trans hs.2⟩
  | @receive resp =>
    obtain ⟨hwas, hstopped⟩ := s.receive_stopped resp
    have hkill := hev resp rfl
    rw [hkill] at hwas
    rw [hkill, hs.1, if_pos rfl] at hstopped
    exact ⟨hwas, hstopped.trans hs.2⟩
  | stepExhaust => exact ⟨hs.1, rfl⟩
  | _ => exact hs

/-- The scenario wakes an agent up that obeys a shutdown command. From then on no repetition
of the command stops it: as long as every response has one, each tick sends a heartbeat. -/
theorem woken_agents_ignore_commands (hs : s.wasStopped = true) (first : Bool)
    (hes : ∀ resp, AgentEvent.receive resp ∈ es → clientStopped resp = true)
    (hr : runSteps step s (.stepExhaust first :: es) = some t) (hsending : t.sending = true)
    (d : Draws) :
    ∃ t', t.step (.tick false d true) = some t' ∧ t.fresh (.tick false d true) = some (t.beat d) := by
  obtain ⟨m, hm, hr⟩ := runSteps_cons step hr
  have hawake : m.wasStopped = true ∧ m.stopped = false := by
    simp only [step] at hm
    split_ifs at hm
    cases hm
    exact ⟨hs, rfl⟩
  have hlast : t.wasStopped = true ∧ t.stopped = false :=
    invariant_along step (C := fun _ ev => ∀ resp, ev = .receive resp → clientStopped resp = true)
      (P := fun s => s.wasStopped = true ∧ s.stopped = false)
      (fun _ _ _ hs hev hstep => awake_step hs hev hstep) hawake
      (along_of_forall step fun ev hev resp heq => hes resp (heq ▸ hev)) hr
  refine ⟨t.tick false true, ?_, ?_⟩
  · simp [step, hsending]
  · simp [fresh, hlast.2]

/-- The agent stops after its first heartbeat. -/
def stoppedOnce : List AgentEvent := [.tick false ⟨0, 0⟩ true, .receive sampleShutdown]

theorem stoppedOnce_woken_goes_on :
    ∃ s t, runSteps step (new "c" 25 1) stoppedOnce = some s ∧ s.stopped = true ∧
      runSteps step s [.stepExhaust true, .receive sampleShutdown, .receive sampleShutdown] =
        some t ∧
      ∃ t', t.step (.tick false ⟨1, 0⟩ true) = some t' ∧
        t.fresh (.tick false ⟨1, 0⟩ true) = some (t.beat ⟨1, 0⟩) := by
  obtain ⟨s, hr, hstopped⟩ := runSteps_any step (new "c" 25 1) stoppedOnce
    (fun s => s.stopped && s.wasStopped) rfl
  obtain ⟨t, hrt, hsending⟩ := runSteps_any step (new "c" 25 1)
    (stoppedOnce ++ [.stepExhaust true, .receive sampleShutdown, .receive sampleShutdown])
    (·.sending) rfl
  rw [Bool.and_eq_true] at hstopped
  obtain ⟨m, hm, hwoken⟩ := (runSteps_append step).mp hrt
  cases hr.symm.trans hm
  refine ⟨s, t, hr, hstopped.1, hwoken,
    woken_agents_ignore_commands hstopped.2 true ?_ hwoken hsending ⟨1, 0⟩⟩
  intro resp hresp
  simp only [List.mem_cons, List.not_mem_nil, or_false, AgentEvent.receive.injEq, or_self] at hresp
  rw [hresp]
  rfl

end ClusterSim
end CloudCredit.Simulator
