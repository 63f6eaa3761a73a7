import CloudCredit.Accounting.Flags
import CloudCredit.Gateway.InOrder
import CloudCredit.Simulator.ClusterSim

/-!
# The kill switch

The agents of a tenant, its accounting and the responses in between form a loop: usage
above the credits sets a flag, a flag puts a shutdown command into the responses, and a
command keeps the agents from reporting usage. Between an agent and the accounting,
messages may be lost, delayed, repeated and reordered. Once the loop has closed, nothing
within it opens it again. A confirmed credit does.
-/
namespace CloudCredit.Accounting

open Library TigerBeetle Domain Ledger

/-- The resource is flagged, and no heartbeat is on its way through the workflow. -/
structure Execution.Exhausted (r : ResourceType) (e : Execution) : Prop where
  flag : e.state.exceededResources r = some true
  hbCh : e.hbCh = []
  curBatch : e.state.curBatch = []
  flight : e.main.flight = none

instance (r : ResourceType) (e : Execution) : Decidable (e.Exhausted r) :=
  decidable_of_iff (e.state.exceededResources r = some true ∧ e.hbCh.isEmpty ∧
      e.state.curBatch.isEmpty ∧ e.main.flight.isNone)
    ⟨fun ⟨hf, hc, hb, hm⟩ => ⟨hf, List.isEmpty_iff.mp hc, List.isEmpty_iff.mp hb,
      Option.isNone_iff_eq_none.mp hm⟩,
     fun ⟨hf, hc, hb, hm⟩ => ⟨hf, List.isEmpty_iff.mpr hc, List.isEmpty_iff.mpr hb,
      Option.isNone_iff_eq_none.mpr hm⟩⟩

/-- The event tells its handler that a credit for the resource is in the ledger. -/
def Execution.Confirms (r : ResourceType) (e : Execution) : Event → Prop
  | .creditDeliver i => ∃ c, e.credits[i]? = some c ∧ c.run.outcome = some (.ok ()) ∧
      c.abandoned = false ∧ c.issue.resource = r
  | _ => False

namespace Execution

variable {h : Blake3} {e e' : Execution} {ev : Event} {r : ResourceType}

theorem delivered_le (hm : Move h ev e e') :
    e.history.delivered.length ≤ e'.history.delivered.length := by
  cases hm with
  | quiet same => rw [same.delivered]
  | arrive sig => simp
  | _ => exact le_refl _

/-- Unless a heartbeat arrives or a credit is confirmed, an exhausted workflow stays so. -/
theorem Exhausted.move (he : e.Exhausted r) (hm : Move h ev e e')
    (hsame : e'.history.delivered.length = e.history.delivered.length)
    (hev : ∀ i, ev ≠ .creditDeliver i) : e'.Exhausted r := by
  obtain ⟨hflag, hch, hbatch, hflight⟩ := he
  cases hm with
  | quiet same =>
    refine ⟨?_, same.hbCh.trans hch, same.curBatch.trans hbatch, same.flight.trans hflight⟩
    rw [same.state]
    exact hflag
  | arrive sig => simp at hsame
  | skip hch' => cases hch.symm.trans hch'
  | take hch' => cases hch.symm.trans hch'
  | register sig =>
    refine ⟨?_, hch, ?_, hflight⟩
    · unfold TenantAccountingState.registerCluster
      split <;> exact hflag
    · rw [TenantAccountingState.registerCluster_curBatch]
      exact hbatch
  | flush site hne => exact absurd hbatch hne
  | attempt hev' hmain => simp [hmain, Main.flight] at hflight
  | succeed hev' hmain => simp [hmain, Main.flight] at hflight
  | fail hev' hmain => simp [hmain, Main.flight] at hflight
  | accept => exact ⟨hflag, hch, hbatch, hflight⟩
  | creditAttempt => exact ⟨hflag, hch, hbatch, hflight⟩
  | creditEnds hev' => exact absurd hev' (hev _)
  | confirm hev' => exact absurd hev' (hev _)

theorem Exhausted.creditDeliver {i : ℕ} (he : e.Exhausted r)
    (hcredit : ¬e.Confirms r (.creditDeliver i)) (hs : e.creditDeliver i = some e') :
    e'.Exhausted r := by
  obtain ⟨hflag, hch, hbatch, hflight⟩ := he
  cases creditDeliver_cases hs with
  | abandoned => exact ⟨hflag, hch, hbatch, hflight⟩
  | failed => exact ⟨hflag, hch, hbatch, hflight⟩
  | @confirmed c hi hout hown =>
    have hother : r ≠ c.issue.resource := by
      intro heq
      exact hcredit ⟨c, hi, hout, hown, heq.symm⟩
    refine ⟨?_, hch, hbatch, hflight⟩
    exact (Table.erase_other _ hother).trans hflag

theorem Exhausted.step (he : e.Exhausted r) (hev : ∀ sig, ev ≠ .heartbeat sig)
    (hcredit : ¬e.Confirms r ev) (hs : e.step h ev = some e') : e'.Exhausted r := by
  by_cases hdeliver : ∃ i, ev = .creditDeliver i
  · obtain ⟨i, rfl⟩ := hdeliver
    exact he.creditDeliver hcredit hs
  -- a move that lets a heartbeat in leaves more delivered than the step does
  have hkeeps : e'.Exhausted r ∨
      e.history.delivered.length < e'.history.delivered.length := by
    refine step_keeps (P := fun m => m.Exhausted r ∧
      m.history.delivered.length = e.history.delivered.length ∨
        e.history.delivered.length < m.history.delivered.length) ?_ ?_ hs (.inl ⟨he, rfl⟩)
      |>.imp And.left id
    · intro m m' hm _ hP
      have hle := delivered_le hm
      rcases hP with ⟨hP, hlen⟩ | hlen
      · rcases Nat.eq_or_lt_of_le hle with heq | hlt
        · exact .inl ⟨hP.move hm heq.symm fun i hi => hdeliver ⟨i, hi⟩, heq.symm.trans hlen⟩
        · exact .inr (hlen ▸ hlt)
      · exact .inr (hlen.trans_le hle)
    · intro _ _ hP
      exact hP.imp (fun hP => ⟨⟨hP.1.flag, rfl, rfl, rfl⟩, hP.2⟩) id
  rcases hkeeps with hkeeps | hlt
  · exact hkeeps
  · rw [step_arrived hs hev] at hlt
    exact absurd hlt (lt_irrefl _)

theorem Confirms.step {i : ℕ} (hc : e.Confirms r (.creditDeliver i)) :
    ∃ e', e.step h (.creditDeliver i) = some e' ∧
      e'.state.exceededResources = e.state.exceededResources.erase r := by
  obtain ⟨c, hi, hout, hown, rfl⟩ := hc
  refine ⟨{ e with
    credits := e.credits.eraseIdx i
    state := e.state.clearExceeded c.issue.resource
    refreshing := e.refreshing ++ [⟨c.issue, .lookingUp {}⟩] }, ?_, rfl⟩
  simp [Execution.step, creditDeliver, hi, hout, hown]

end Execution
end CloudCredit.Accounting

namespace CloudCredit.Simulator

open Library TigerBeetle Domain Ledger Accounting Gateway

/-- What the services other than the workflow return to the gateway for one response, and
whether the queries of the workflow fail. -/
structure Reads where
  tenant : Except String String
  ackError : Option String := none
  flagsError : Option String := none
  tenantUUID : Except String Uint128
  rows : Except String (List QuotaSnapshot)

def Reads.calls (w : Reads) (s : TenantAccountingState) : Calls where
  resolveTenantID := w.tenant
  queryLastTBAck := w.ackError.elim (.ok (queryLastTBAck s)) .error
  queryExceededResources := w.flagsError.elim (.ok (queryExceededResources s)) .error
  parseTenantID := w.tenantUUID
  getQuotaSnapshots := w.rows

theorem Reads.calls_answered (w : Reads) (s : TenantAccountingState) :
    (w.calls s).AnsweredBy s := by
  constructor
  · intro ack hack
    cases hw : w.ackError <;> simp_all [Reads.calls]
  · intro flags hflags
    cases hw : w.flagsError <;> simp_all [Reads.calls]

/-- An agent and the responses on their way to it. -/
structure Client where
  sim : ClusterSim
  down : List HeartbeatResponse := []

/-- The accounting of a tenant, its agents, and the heartbeats between them. -/
structure Loop where
  exec : Execution
  clients : List Client
  up : List HeartbeatRequest := []

inductive LoopEvent
  /-- An event of an agent other than a response. -/
  | agent (i : ℕ) (ev : AgentEvent)
  /-- A heartbeat reaches the workflow, and may do so again. -/
  | arrive (n : ℕ) (again : Bool)
  | lose (n : ℕ)
  /-- An event of the workflow other than a heartbeat. -/
  | workflow (ev : Event)
  /-- A tick of the gateway's send loop for an agent. -/
  | answer (i : ℕ) (w : Reads)
  | receive (i : ℕ)
  | loseResponses (i : ℕ)

namespace Loop

variable (h : Blake3) (K : Loop)

def setClient (i : ℕ) (a : Client) : Loop := { K with clients := K.clients.set i a }

def step : LoopEvent → Option Loop
  | .agent _ (.receive _) => none
  | .agent i ev =>
    K.clients[i]?.bind fun a => (a.sim.step ev).map fun sim =>
      { K.setClient i { a with sim } with up := K.up ++ (a.sim.sends ev).toList }
  | .arrive n again =>
    K.up[n]?.bind fun req => (K.exec.step h (.heartbeat req.toSignal)).map fun exec =>
      { K with exec, up := if again then K.up else K.up.eraseIdx n }
  | .lose n => if n < K.up.length then some { K with up := K.up.eraseIdx n } else none
  | .workflow (.heartbeat _) => none
  | .workflow ev => (K.exec.step h ev).map fun exec => { K with exec }
  | .answer i w =>
    K.clients[i]?.bind fun a => (sendLoopTick (w.calls K.exec.state)).map fun resp =>
      K.setClient i { a with down := a.down ++ [resp] }
  | .receive i =>
    K.clients[i]?.bind fun a =>
      match a.down with
      | [] => none
      | resp :: rest => (a.sim.step (.receive resp)).map fun sim => K.setClient i ⟨sim, rest⟩
  | .loseResponses i => K.clients[i]?.map fun a => K.setClient i { a with down := [] }

/-- The heartbeat that an event puts on its way. -/
def sends : LoopEvent → Option HeartbeatRequest
  | .agent i ev => K.clients[i]?.bind fun a => a.sim.sends ev
  | _ => none

end Loop

/-- An agent that obeys a shutdown command and has nothing to repeat. -/
structure ClusterSim.Held (s : ClusterSim) : Prop where
  stopped : s.stopped = true
  wasStopped : s.wasStopped = true
  pushing : s.pushing = []
  replayCh : s.replayCh = []

instance (s : ClusterSim) : Decidable s.Held :=
  decidable_of_iff (s.stopped = true ∧ s.wasStopped = true ∧ s.pushing = [] ∧ s.replayCh = [])
    ⟨fun ⟨hs, hw, hp, hr⟩ => ⟨hs, hw, hp, hr⟩, fun ⟨hs, hw, hp, hr⟩ => ⟨hs, hw, hp, hr⟩⟩

/-- The scenario leaves the agent alone, and responses have a shutdown command. -/
def AgentEvent.Holds : AgentEvent → Prop
  | .receive resp => clientStopped resp = true
  | .stepExhaust _ | .stepIdempotency => False
  | _ => True

namespace ClusterSim.Held

variable {s t : ClusterSim} {ev : AgentEvent}

theorem receive (hs : s.Held) {resp : HeartbeatResponse} (hresp : clientStopped resp = true) :
    (s.receive resp).Held := by
  obtain ⟨-, -, -, hpushing, hreplay⟩ := s.receive_seq resp
  obtain ⟨hwas, hstopped⟩ := s.receive_stopped resp
  constructor
  · rw [hstopped, hresp, hs.wasStopped, if_pos rfl]
    exact hs.stopped
  · rw [hwas, hresp]
  · exact hpushing.trans hs.pushing
  · exact hreplay.trans hs.replayCh

theorem step (hs : s.Held) (hev : ev.Holds) (hstep : s.step ev = some t) : t.Held := by
  cases stepped_of_step hstep with
  | tick => simpa [ClusterSim.tick, hs.stopped] using hs
  | replay hsending hch => cases hs.replayCh.symm.trans hch
  | receive => exact hs.receive hev
  | stepExhaust => exact hev.elim
  | stepIdempotency => exact hev.elim
  | push hpush => cases hs.pushing.symm.trans hpush
  | _ => exact ⟨hs.stopped, hs.wasStopped, hs.pushing, hs.replayCh⟩

theorem sends (hs : s.Held) (ev : AgentEvent) : s.sends ev = none := by
  cases ev <;> simp [ClusterSim.sends, fresh, replays, hs.stopped, hs.replayCh]

end ClusterSim.Held

theorem answer_stops {w : Reads} {s : TenantAccountingState} {r : ResourceType}
    (hflag : s.exceededResources r = some true) (hshows : ShowsExceeded (w.calls s) r)
    {resp : HeartbeatResponse} (hresp : sendLoopTick (w.calls s) = some resp) :
    clientStopped resp = true := by
  obtain ⟨-, -, hparse, snapshots, hrows, row, hrow, hname, hx⟩ := hshows
  unfold sendLoopTick at hresp
  split at hresp
  · rename_i ack quotas hq
    cases hresp
    obtain ⟨-, -, ⟨-, snapshots', hrows', rfl⟩ | ⟨hfail, -⟩⟩ := queryWorkflowState_ok hq
    · cases hrows.symm.trans hrows'
      have henforces := (enforces_rows ack _ snapshots r).mpr ⟨row, hrow, hname,
        (exhausted_iff (w.calls_answered s) hflag hname).mpr hx⟩
      obtain ⟨cmd, hcmd, htype, -⟩ := henforces.command
      exact List.any_eq_true.mpr ⟨cmd, hcmd, by simpa using htype⟩
    · rcases hfail with hfail | hfail
      · simp [hparse] at hfail
      · simp [hrows, Except.toBool] at hfail
  · cases hresp

namespace Loop

variable {h : Blake3} {K K' : Loop} {r : ResourceType} {ev : LoopEvent} {es : List LoopEvent}

/-- The resource is flagged, every agent is held, no heartbeat is on its way, and every
response on its way has a shutdown command. -/
structure Latched (r : ResourceType) (K : Loop) : Prop where
  exec : K.exec.Exhausted r
  up : K.up = []
  held : ∀ a ∈ K.clients, a.sim.Held
  down : ∀ a ∈ K.clients, ∀ resp ∈ a.down, clientStopped resp = true

instance (r : ResourceType) (K : Loop) : Decidable (K.Latched r) :=
  decidable_of_iff (K.exec.Exhausted r ∧ K.up.isEmpty ∧ (∀ a ∈ K.clients, a.sim.Held) ∧
      ∀ a ∈ K.clients, ∀ resp ∈ a.down, clientStopped resp = true)
    ⟨fun ⟨he, hu, hh, hd⟩ => ⟨he, List.isEmpty_iff.mp hu, hh, hd⟩,
     fun ⟨he, hu, hh, hd⟩ => ⟨he, List.isEmpty_iff.mpr hu, hh, hd⟩⟩

/-- The scenario leaves the agents alone, no credit for the resource is confirmed, and the
gateway can read the row of the resource for each response. -/
def Undisturbed (r : ResourceType) (K : Loop) : LoopEvent → Prop
  | .agent _ (.stepExhaust _) | .agent _ .stepIdempotency => False
  | .workflow ev => ¬K.exec.Confirms r ev
  | .answer _ w => ShowsExceeded (w.calls K.exec.state) r
  | _ => True

theorem Latched.setClient (hK : K.Latched r) (i : ℕ) {a : Client} (hheld : a.sim.Held)
    (hdown : ∀ resp ∈ a.down, clientStopped resp = true) : (K.setClient i a).Latched r := by
  constructor
  · exact hK.exec
  · exact hK.up
  · intro b hb
    rcases List.mem_or_eq_of_mem_set hb with hb | rfl
    · exact hK.held b hb
    · exact hheld
  · intro b hb
    rcases List.mem_or_eq_of_mem_set hb with hb | rfl
    · exact hK.down b hb
    · exact hdown

theorem Latched.agent (hK : K.Latched r) {i : ℕ} {aev : AgentEvent} (hev : aev.Holds)
    {a : Client} (ha : a ∈ K.clients) {sim : ClusterSim} (hsim : a.sim.step aev = some sim) :
    Latched r { K.setClient i { a with sim } with up := K.up ++ (a.sim.sends aev).toList } := by
  have hnone : (a.sim.sends aev).toList = [] := by rw [(hK.held a ha).sends aev]; rfl
  have hset := hK.setClient i (a := { a with sim }) ((hK.held a ha).step hev hsim) (hK.down a ha)
  exact ⟨hset.exec, by rw [hnone, List.append_nil]; exact hK.up, hset.held, hset.down⟩

theorem step_agent {i : ℕ} {aev : AgentEvent} (hs : K.step h (.agent i aev) = some K') :
    (∀ resp, aev ≠ .receive resp) ∧ ∃ a sim, K.clients[i]? = some a ∧
      a.sim.step aev = some sim ∧
      K' = { K.setClient i { a with sim } with up := K.up ++ (a.sim.sends aev).toList } := by
  cases aev with
  | receive resp => cases hs
  | _ =>
    obtain ⟨a, ha, hs⟩ := Option.bind_eq_some_iff.mp hs
    obtain ⟨sim, hsim, rfl⟩ := Option.map_eq_some_iff.mp hs
    exact ⟨by simp, a, sim, ha, hsim, rfl⟩

theorem step_workflow {wev : Event} (hs : K.step h (.workflow wev) = some K') :
    (∀ sig, wev ≠ .heartbeat sig) ∧ ∃ e, K.exec.step h wev = some e ∧
      K' = { K with exec := e } := by
  cases wev with
  | heartbeat sig => cases hs
  | _ =>
    simp only [step, Option.map_eq_some_iff] at hs
    obtain ⟨e, he, rfl⟩ := hs
    exact ⟨by simp, e, he, rfl⟩

theorem Latched.step (hK : K.Latched r) (hC : K.Undisturbed r ev) (hs : K.step h ev = some K') :
    K'.Latched r ∧ K.sends ev = none ∧
      K'.exec.history.delivered = K.exec.history.delivered := by
  cases ev with
  | agent i aev =>
    obtain ⟨hev, a, sim, ha, hsim, rfl⟩ := step_agent hs
    have hmem := List.mem_of_getElem? ha
    have hholds : aev.Holds := by
      cases aev with
      | receive resp => exact absurd rfl (hev resp)
      | stepExhaust first => exact hC
      | stepIdempotency => exact hC
      | _ => trivial
    refine ⟨hK.agent hholds hmem hsim, ?_, rfl⟩
    simp [sends, ha, (hK.held a hmem).sends aev]
  | arrive n again => simp [Loop.step, hK.up] at hs
  | lose n => simp [Loop.step, hK.up] at hs
  | workflow wev =>
    obtain ⟨hev, e, he, rfl⟩ := step_workflow hs
    exact ⟨⟨hK.exec.step hev hC he, hK.up, hK.held, hK.down⟩, rfl,
      Execution.step_arrived he hev⟩
  | answer i w =>
    obtain ⟨a, ha, hs⟩ := Option.bind_eq_some_iff.mp hs
    obtain ⟨resp, hresp, rfl⟩ := Option.map_eq_some_iff.mp hs
    have hmem := List.mem_of_getElem? ha
    refine ⟨hK.setClient i (hK.held a hmem) ?_, rfl, rfl⟩
    intro resp' hresp'
    rcases List.mem_append.mp hresp' with hold | hnew
    · exact hK.down a hmem resp' hold
    · rw [List.mem_singleton.mp hnew]
      exact answer_stops hK.exec.flag hC hresp
  | receive i =>
    obtain ⟨a, ha, hs⟩ := Option.bind_eq_some_iff.mp hs
    have hmem := List.mem_of_getElem? ha
    cases hdown : a.down with
    | nil => simp [hdown] at hs
    | cons resp rest =>
      simp only [hdown] at hs
      obtain ⟨sim, hsim, rfl⟩ := Option.map_eq_some_iff.mp hs
      have hall := hK.down a hmem
      rw [hdown] at hall
      refine ⟨hK.setClient i ((hK.held a hmem).step ?_ hsim) ?_, rfl, rfl⟩
      · exact hall resp List.mem_cons_self
      · exact fun resp' hresp' => hall resp' (List.mem_cons_of_mem _ hresp')
  | loseResponses i =>
    obtain ⟨a, ha, rfl⟩ := Option.map_eq_some_iff.mp hs
    have hmem := List.mem_of_getElem? ha
    exact ⟨hK.setClient i (hK.held a hmem) (fun _ hresp => by cases hresp), rfl, rfl⟩

/-- Once a resource of a tenant is flagged, its agents are held and nothing is on its way,
the tenant stays silent: until a credit for the resource is confirmed no agent sends a
heartbeat, none is delivered to the accounting and the flag stays, whatever the accounting,
the gateway and the agents do. -/
theorem exhausted_tenant_stays_silent (hK : K.Latched r)
    (hC : Along (step h) (Undisturbed r) K es) (hr : runSteps (step h) K es = some K') :
    K'.Latched r ∧ outputs (step h) sends K es = [] ∧
      K'.exec.history.delivered = K.exec.history.delivered := by
  have hstart : K.Latched r ∧ ([] : List HeartbeatRequest) = [] ∧
      K.exec.history.delivered = K.exec.history.delivered := ⟨hK, rfl, rfl⟩
  have hrun := invariant_outputs (step h) sends (C := Undisturbed r)
    (P := fun reqs K' => K'.Latched r ∧ reqs = [] ∧
      K'.exec.history.delivered = K.exec.history.delivered) ?_ hstart hC hr
  · exact hrun
  · intro reqs m ev n hm hev hs
    obtain ⟨hlatched, rfl, hold⟩ := hm
    obtain ⟨hnext, hnone, hsame⟩ := hlatched.step hev hs
    rw [hnone]
    exact ⟨hnext, rfl, hsame.trans hold⟩

/-- The gateway reads a row with a few credits left. -/
def crumbsRead : Reads where
  tenant := .ok "tenant"
  tenantUUID := .ok 0
  rows := .ok [crumbs]

/-- The accounting of a tenant with two agents. -/
def twoAgents : Loop where
  exec := .start sampleInput
  clients := [{ sim := .new "a" 25 1 }, { sim := .new "b" 50 1 }]

/-- Both agents report, the flush finds the CPU quota exceeded, and both get a response. -/
def rejectedReports : List LoopEvent :=
  [.agent 0 (.tick false ⟨0, 0⟩ true), .agent 1 (.tick false ⟨1, 0⟩ true), .arrive 0 false,
    .arrive 0 false, .workflow (.receiveHeartbeat false), .workflow (.receiveHeartbeat false),
    .workflow (.timerFires 0), .workflow (.timerBranch false),
    .workflow (.attempt true (.batch (.ok
      { perResource := Table.empty.set .cpuHours { accepted := false, exceedsCredits := true } }))),
    .workflow (.deliver false), .answer 0 crumbsRead, .answer 1 crumbsRead, .receive 0, .receive 1]

/-- The agents tick on, and one of them gets another response. -/
def silentTicks : List LoopEvent :=
  [.agent 0 (.tick false ⟨0, 0⟩ true), .answer 0 crumbsRead, .agent 1 (.tick false ⟨0, 0⟩ true),
    .receive 0, .agent 0 (.tick false ⟨0, 0⟩ true)]

theorem silentTicks_undisturbed {ev : LoopEvent} (hev : ev ∈ silentTicks) (K : Loop) :
    K.Undisturbed .cpuHours ev := by
  simp only [silentTicks, List.mem_cons, List.not_mem_nil, or_false] at hev
  rcases hev with rfl | rfl | rfl | rfl | rfl
  · trivial
  · exact ⟨rfl, rfl, rfl, _, rfl, crumbs, List.mem_singleton_self _, rfl, .inl rfl⟩
  · trivial
  · trivial
  · trivial

theorem rejectedReports_stay_silent :
    ∃ K K', runSteps (step .positional) twoAgents rejectedReports = some K ∧
      K.Latched .cpuHours ∧ runSteps (step .positional) K silentTicks = some K' ∧
      outputs (step .positional) sends K silentTicks = [] ∧ K'.Latched .cpuHours := by
  obtain ⟨K', hr, -⟩ := runSteps_any (step .positional) twoAgents (rejectedReports ++ silentTicks)
    (fun _ => true) (by decide)
  obtain ⟨K, hrun, hlatched⟩ := runSteps_any (step .positional) twoAgents rejectedReports
    (fun K => K.Latched .cpuHours) (by decide)
  rw [decide_eq_true_eq] at hlatched
  obtain ⟨m, hm, hticks⟩ := (runSteps_append (step .positional)).mp hr
  cases hrun.symm.trans hm
  have hC : Along (step .positional) (Undisturbed .cpuHours) K silentTicks :=
    (along_of_forall (C := fun ev => ∀ K : Loop, K.Undisturbed .cpuHours ev) (step .positional)
      fun ev hev K => silentTicks_undisturbed hev K).mono (step .positional)
        fun s ev hev => hev s
  obtain ⟨hlast, hsilent, -⟩ := exhausted_tenant_stays_silent hlatched hC hticks
  exact ⟨K, K', hrun, hlatched, hticks, hsilent, hlast⟩

theorem not_exhausted {row : QuotaSnapshot} {flags : Table ResourceType Bool}
    (hleft : 0 < row.available.getD 0) (hflags : ∀ q, flags q ≠ some true) :
    row.exhausted flags = false := by
  have hflag : flagged flags row.resourceType = false := by
    unfold flagged
    cases hname : (ResourceType.ofName? row.resourceType).bind flags with
    | none => rfl
    | some b =>
      obtain ⟨q, -, hq⟩ := Option.bind_eq_some_iff.mp hname
      cases b with
      | false => rfl
      | true => exact absurd hq (hflags q)
  cases havail : row.available with
  | none =>
    rw [havail] at hleft
    cases hleft
  | some n =>
    rw [havail, Option.getD_some] at hleft
    simp [QuotaSnapshot.exhausted, havail, hflag, hleft]

theorem answer_releases {w : Reads} {s : TenantAccountingState} {rows : List QuotaSnapshot}
    (htenant : w.tenant.toBool = true) (hack : w.ackError = none) (hrows : w.rows = .ok rows)
    (hleft : ∀ row ∈ rows, 0 < row.available.getD 0)
    (hflags : ∀ q, s.exceededResources q ≠ some true) :
    ∃ resp, sendLoopTick (w.calls s) = some resp ∧ clientStopped resp = false := by
  cases hresp : sendLoopTick (w.calls s) with
  | none =>
    unfold sendLoopTick at hresp
    split at hresp
    · cases hresp
    · rename_i err hq
      rcases queryWorkflowState_error hq with hfail | hfail
      · exact absurd (htenant.symm.trans hfail) (by decide)
      · simp [Reads.calls, hack, Except.toBool] at hfail
  | some resp =>
    refine ⟨resp, rfl, ?_⟩
    unfold sendLoopTick at hresp
    split at hresp
    · rename_i ack quotas hq
      cases hresp
      rw [clientStopped, ← Bool.not_eq_true, List.any_eq_true]
      rintro ⟨cmd, hcmd, -⟩
      obtain ⟨q, hmem, hx, -⟩ := mem_buildPendingCommands.mp hcmd
      obtain ⟨-, -, ⟨-, snapshots, hrows', rfl⟩ | ⟨-, rfl⟩⟩ := queryWorkflowState_ok hq
      · cases hrows.symm.trans hrows'
        obtain ⟨row, hrow, rfl⟩ := List.mem_map.mp hmem
        have hnot : row.exhausted
            ((w.calls s).queryExceededResources.toOption.getD Table.empty) = false := by
          apply not_exhausted (hleft row hrow)
          intro q
          cases hw : w.flagsError with
          | none => simpa [Reads.calls, queryExceededResources, hw, Except.toOption] using hflags q
          | some err => simp [Reads.calls, hw, Except.toOption]
        rw [(toQuotaInfo_exceeded _ row).mp hx] at hnot
        cases hnot
      · cases hmem
    · cases hresp

theorem setClient_setClient (K : Loop) (i : ℕ) (a b : Client) :
    (K.setClient i a).setClient i b = K.setClient i b := by
  simp [setClient]

/-- A held agent obeys the commands on their way to it and resumes at the end. -/
theorem run_receives {s : ClusterSim} {ds : List HeartbeatResponse} {resp : HeartbeatResponse}
    {i : ℕ} (hi : K.clients[i]? = some ⟨s, ds ++ [resp]⟩) (hs : s.Held)
    (hreceiving : s.receiving = true) (hds : ∀ x ∈ ds, clientStopped x = true)
    (hresp : clientStopped resp = false) :
    ∃ t, runSteps (step h) K (List.replicate (ds.length + 1) (.receive i)) =
        some (K.setClient i ⟨t, []⟩) ∧
      t.stopped = false ∧ t.seq = s.seq ∧ t.id = s.id ∧ t.sending = s.sending := by
  induction ds generalizing K s with
  | nil =>
    obtain ⟨hwas, hstopped⟩ := s.receive_stopped resp
    obtain ⟨hsending, hseq, -⟩ := s.receive_seq resp
    refine ⟨s.receive resp, ?_, ?_, hseq, (s.receive_id resp).1, hsending⟩
    · simp [runSteps, step, hi, ClusterSim.step, hreceiving]
    · rw [hstopped, hresp, hs.wasStopped]
      rfl
  | cons d ds ih =>
    obtain ⟨hid, hrec⟩ := s.receive_id d
    obtain ⟨hsending, hseq, -⟩ := s.receive_seq d
    have hlt : i < K.clients.length := (List.getElem?_eq_some_iff.mp hi).1
    have hget : (K.setClient i ⟨s.receive d, ds ++ [resp]⟩).clients[i]? =
        some ⟨s.receive d, ds ++ [resp]⟩ := by
      simp [setClient, hlt]
    obtain ⟨t, hrun, hstopped, htseq, htid, htsending⟩ := ih hget
      (hs.receive (hds d List.mem_cons_self)) (hrec.trans hreceiving)
      (fun x hx => hds x (List.mem_cons_of_mem _ hx))
    refine ⟨t, ?_, hstopped, htseq.trans hseq, htid.trans hid, htsending.trans hsending⟩
    rw [List.length_cons, List.replicate_succ]
    have hstep : K.step h (.receive i) = some (K.setClient i ⟨s.receive d, ds ++ [resp]⟩) := by
      simp [step, hi, ClusterSim.step, hreceiving]
    simp only [runSteps, hstep, Option.bind_some, hrun, setClient_setClient]

/-- The agent is told, and ticks. -/
def resumption (j i : ℕ) (w : Reads) (responses : ℕ) (d : Draws) : List LoopEvent :=
  [.workflow (.creditDeliver j), .answer i w] ++ List.replicate (responses + 1) (.receive i) ++
    [.agent i (.tick false d true)]

/-- A confirmed credit opens the loop: if no other resource is flagged and the rows show
something left, each held agent that gets the next response sends its next heartbeat. -/
theorem confirmed_credit_resumes (hK : K.Latched r) {j : ℕ}
    (hcredit : K.exec.Confirms r (.creditDeliver j))
    (hothers : ∀ q, q ≠ r → K.exec.state.exceededResources q ≠ some true)
    {i : ℕ} {a : Client} (ha : K.clients[i]? = some a) (hsending : a.sim.sending = true)
    (hreceiving : a.sim.receiving = true) {w : Reads} {rows : List QuotaSnapshot}
    (htenant : w.tenant.toBool = true) (hack : w.ackError = none) (hrows : w.rows = .ok rows)
    (hleft : ∀ row ∈ rows, 0 < row.available.getD 0) (d : Draws) :
    ∃ K' req, runSteps (step h) K (resumption j i w a.down.length d) = some K' ∧
      K'.up = [req] ∧ req.clusterId = a.sim.id ∧ req.sequenceNumber = a.sim.seq + 1 := by
  obtain ⟨e, hdeliver, herase⟩ := hcredit.step (h := h)
  have hflags : ∀ q, e.state.exceededResources q ≠ some true := by
    intro q
    rw [herase]
    by_cases hq : q = r
    · simp [hq]
    · rw [Table.erase_other _ hq]
      exact hothers q hq
  obtain ⟨resp, hresp, hstop⟩ := answer_releases htenant hack hrows hleft hflags
  -- the agent gets the responses that were on their way, and then this one
  have hmem := List.mem_of_getElem? ha
  have hlt : i < K.clients.length := (List.getElem?_eq_some_iff.mp ha).1
  have hget : (setClient { K with exec := e } i { a with down := a.down ++ [resp] }).clients[i]? =
      some ⟨a.sim, a.down ++ [resp]⟩ := by
    simp [setClient, hlt]
  obtain ⟨t, hrun, hstopped, hseq, hid, hsend⟩ := run_receives (h := h) hget (hK.held a hmem)
    hreceiving (hK.down a hmem) hstop
  have htick : step h (setClient { K with exec := e } i ⟨t, []⟩) (.agent i (.tick false d true)) =
      some { setClient { K with exec := e } i ⟨t.tick false true, []⟩ with up := [t.beat d] } := by
    simp [step, setClient, hlt, ClusterSim.step, hsend, hsending, ClusterSim.sends,
      ClusterSim.fresh, hstopped, hK.up]
  have htold : runSteps (step h) K [.workflow (.creditDeliver j), .answer i w] =
      some (setClient { K with exec := e } i { a with down := a.down ++ [resp] }) := by
    simp [runSteps, step, hdeliver, ha, hresp]
  refine ⟨{ setClient { K with exec := e } i ⟨t.tick false true, []⟩ with up := [t.beat d] },
    t.beat d, ?_, rfl, hid, ?_⟩
  · refine (runSteps_append (step h)).mpr ⟨_, (runSteps_append (step h)).mpr ⟨_, htold, hrun⟩, ?_⟩
    rw [setClient_setClient, runSteps, htick]
    rfl
  · simp [ClusterSim.beat, hseq]

/-- A credit for the exceeded resource is issued, and its allocation succeeds. -/
def surgePack : List LoopEvent :=
  [.workflow (.update ⟨"cpu_hours", 500000, "", 0⟩), .workflow (.creditAttempt 0 true (.ok ()))]

theorem surgePack_resumes :
    ∃ K K' req, runSteps (step .positional) twoAgents (rejectedReports ++ surgePack) = some K ∧
      K.Latched .cpuHours ∧
      runSteps (step .positional) K (resumption 0 1 crumbsRead 0 ⟨0, 0⟩) = some K' ∧
      K'.up = [req] ∧ req.clusterId = "b" ∧ req.sequenceNumber = 2 := by
  obtain ⟨K, hr, hK⟩ := runSteps_any (step .positional) twoAgents (rejectedReports ++ surgePack)
    (fun K => K.Latched .cpuHours &&
      (allResources.all fun q => q = .cpuHours || K.exec.state.exceededResources q = none) &&
      (K.exec.credits[0]?.any fun c =>
        (c.run.outcome = some (.ok ()) && !c.abandoned && c.issue.resource = .cpuHours : Bool)) &&
      K.clients[1]?.any fun a => (a.sim.sending && a.sim.receiving && a.down.isEmpty &&
        a.sim.id = "b" && a.sim.seq = 1 : Bool)) (by decide)
  simp only [Bool.and_eq_true, decide_eq_true_eq, List.all_eq_true, Bool.or_eq_true,
    Option.any_eq_true, Bool.not_eq_true', List.isEmpty_iff] at hK
  obtain ⟨⟨⟨hlatched, hothers⟩, c, hc, ⟨hout, hown⟩, hres⟩, a, ha,
    ⟨⟨⟨hsending, hreceiving⟩, hdown⟩, hid⟩, hseq⟩ := hK
  obtain ⟨K', req, hrun, hup, hcluster, hnumber⟩ := confirmed_credit_resumes (h := .positional)
    (w := crumbsRead) hlatched ⟨c, hc, hout, hown, hres⟩
    (fun q hq => by simp [(hothers q (mem_allResources q)).resolve_left hq])
    ha hsending hreceiving rfl rfl rfl (by decide) ⟨0, 0⟩
  rw [hdown] at hrun
  exact ⟨K, K', req, hr, hlatched, hrun, hup, hcluster.trans hid, by rw [hnumber, hseq]; rfl⟩

end Loop
end CloudCredit.Simulator
