import CloudCredit.Accounting.Execution

/-!
# What the gateway tells a cluster

A response is built from two workflow queries and the snapshot rows in
PostgreSQL. Each of these calls can fail, and a failure makes the response say
less: no flags, no quotas, no commands. The client stops on a shutdown command
and takes its absence as permission to resume.
-/
namespace CloudCredit.Gateway

open Library TigerBeetle Domain Accounting

inductive Status
  | unspecified
  | ok
  | quotaWarning
  | quotaExceeded
  | degraded
  deriving DecidableEq, Repr

/-- The protobuf number; a higher status is worse. -/
def Status.number : Status → ℕ
  | unspecified => 0
  | ok => 1
  | quotaWarning => 2
  | quotaExceeded => 3
  | degraded => 4

inductive CommandType
  | unspecified
  | throttle
  | scaleDown
  | shutdown
  deriving DecidableEq, Repr

structure Command where
  type : CommandType
  reason : String
  deriving DecidableEq

structure QuotaInfo where
  resourceType : String
  used : Int64
  limit : Int64
  available : Int64
  status : Status
  deriving DecidableEq

structure HeartbeatResponse where
  status : Status
  quotas : List QuotaInfo
  ackSequence : UInt64
  pendingCommands : List Command

/-- A row of `quota_snapshots`; `available` is a nullable column. -/
structure QuotaSnapshot where
  resourceType : String
  creditsTotal : Int64
  debitsPosted : Int64
  debitsPending : Int64
  available : Option Int64

def queryLastTBAck (s : TenantAccountingState) : UInt64 := s.lastAck

def queryExceededResources (s : TenantAccountingState) : Table ResourceType Bool :=
  s.exceededResources

/-- What the calls behind one response return. -/
structure Calls where
  resolveTenantID : Except String String
  queryLastTBAck : Except String UInt64
  queryExceededResources : Except String (Table ResourceType Bool)
  parseTenantID : Except String Uint128
  getQuotaSnapshots : Except String (List QuotaSnapshot)

/-- The queries that were answered were answered by a workflow in this state. -/
structure Calls.AnsweredBy (c : Calls) (s : TenantAccountingState) : Prop where
  ack : ∀ ack, c.queryLastTBAck = .ok ack → ack = Gateway.queryLastTBAck s
  exceeded : ∀ flags, c.queryExceededResources = .ok flags →
    flags = Gateway.queryExceededResources s

/-- The flag of the resource with the given name. -/
def flagged (exceeded : Table ResourceType Bool) (resourceType : String) : Bool :=
  ((ResourceType.ofName? resourceType).bind exceeded).getD false

def isGaugeName (resourceType : String) : Bool :=
  (ResourceType.ofName? resourceType).any ResourceType.isGauge

/-- At least four fifths of the limit are used, in double precision. -/
def nearLimit (used limit : Int64) : Bool :=
  0 < limit && (0.8 : Float) ≤ used.toFloat / limit.toFloat

/-- The row shows nothing left, or the ledger rejected a transfer of the resource. -/
def QuotaSnapshot.exhausted (s : QuotaSnapshot) (exceeded : Table ResourceType Bool) : Bool :=
  s.available.isNone || s.available.getD 0 ≤ 0 || flagged exceeded s.resourceType

def QuotaSnapshot.toQuotaInfo (exceeded : Table ResourceType Bool) (s : QuotaSnapshot) : QuotaInfo :=
  let used := if isGaugeName s.resourceType then s.debitsPending else s.debitsPosted
  { resourceType := s.resourceType
    used := used
    limit := s.creditsTotal
    available := s.available.getD 0
    status :=
      if s.exhausted exceeded then .quotaExceeded
      else if nearLimit used s.creditsTotal then .quotaWarning
      else .ok }

/-- The acknowledged sequence and the quotas. Without an answer about the flags
none is set; without the rows there are no quotas. -/
def queryWorkflowState (c : Calls) : Except String (UInt64 × List QuotaInfo) :=
  match c.resolveTenantID, c.queryLastTBAck with
  | .error err, _ => .error err
  | .ok _, .error err => .error err
  | .ok _, .ok ack =>
    let exceeded := c.queryExceededResources.toOption.getD Table.empty
    match c.parseTenantID, c.getQuotaSnapshots with
    | .ok _, .ok snapshots => .ok (ack, snapshots.map (·.toQuotaInfo exceeded))
    | _, _ => .ok (ack, [])

/-- The worst status of all quotas; no quota at all is fine. -/
def overallStatus (quotas : List QuotaInfo) : Status :=
  let worst := quotas.foldl (fun worst q =>
    if worst.number < q.status.number then q.status else worst) Status.unspecified
  if worst = .unspecified then .ok else worst

def shutdownReason (resourceType : String) (available : Int64) : String :=
  "quota exceeded: " ++ resourceType ++ " (available: " ++ toString available ++ ")"

/-- One shutdown command for every exceeded quota. -/
def buildPendingCommands (quotas : List QuotaInfo) : List Command :=
  (quotas.filter (·.status = .quotaExceeded)).map fun q =>
    ⟨.shutdown, shutdownReason q.resourceType q.available⟩

def heartbeatResponse (ack : UInt64) (quotas : List QuotaInfo) : HeartbeatResponse where
  status := overallStatus quotas
  quotas := quotas
  ackSequence := ack
  pendingCommands := buildPendingCommands quotas

/-- One tick of the send loop of a stream; a failed query sends nothing. -/
def sendLoopTick (c : Calls) : Option HeartbeatResponse :=
  match queryWorkflowState c with
  | .ok (ack, quotas) => some (heartbeatResponse ack quotas)
  | .error _ => none

/-- The unary call: a duplicate is not signalled again, a failed signal is an
error, and a failed query leaves the response empty. -/
def heartbeat (duplicate : Bool) (signalHeartbeat : Except String Unit) (c : Calls) :
    Except String HeartbeatResponse :=
  match duplicate, signalHeartbeat with
  | false, .error err => .error err
  | _, _ =>
    match queryWorkflowState c with
    | .ok (ack, quotas) => .ok (heartbeatResponse ack quotas)
    | .error _ => .ok (heartbeatResponse 0 [])

/-- The response is one a cluster gets when the calls return as in `c`. -/
def Responds (c : Calls) (resp : HeartbeatResponse) : Prop :=
  sendLoopTick c = some resp ∨ ∃ duplicate signal, heartbeat duplicate signal c = .ok resp

/-- The client after a response: stopped if there is a shutdown command in it. -/
def clientStopped (resp : HeartbeatResponse) : Bool :=
  resp.pendingCommands.any (·.type = .shutdown)

/-- The response enforces the limit of a resource: its status says so, and it has
a shutdown command for the resource. -/
structure Enforces (resp : HeartbeatResponse) (r : ResourceType) : Prop where
  status : resp.status = .quotaExceeded
  command : ∃ cmd ∈ resp.pendingCommands, cmd.type = .shutdown ∧
    ∃ available, cmd.reason = shutdownReason r.name available

/-- The row of the resource was read, and either the flags were read as well or
the row itself shows that nothing is left. -/
def ShowsExceeded (c : Calls) (r : ResourceType) : Prop :=
  c.resolveTenantID.toBool = true ∧ c.queryLastTBAck.toBool = true ∧ c.parseTenantID.toBool = true ∧
    ∃ snapshots, c.getQuotaSnapshots = .ok snapshots ∧ ∃ s ∈ snapshots, s.resourceType = r.name ∧
      (c.queryExceededResources.toBool = true ∨ s.available.getD 0 ≤ 0)

theorem int64_chars (a : Int64) {x : Char} (hx : x ∈ (toString a).toList) : x ≠ '(' := by
  have hdigit : ∀ n : ℕ, x ∈ n.repr.toList → x ≠ '(' := by
    intro n hn hcon
    rw [Nat.toList_repr] at hn
    have := Nat.isDigit_of_mem_toDigits (by decide) (by decide) hn
    rw [hcon] at this
    cases this
  have hrepr : toString a = a.toInt.repr := rfl
  rw [hrepr] at hx
  cases hi : a.toInt with
  | ofNat n =>
    rw [hi] at hx
    exact hdigit n hx
  | negSucc n =>
    rw [hi] at hx
    have hsplit : (Int.negSucc n).repr.toList = '-' :: (n.succ.repr).toList := by
      simp [Int.repr]
    rw [hsplit] at hx
    rcases List.mem_cons.mp hx with rfl | hx
    · decide
    · exact hdigit _ hx

theorem shutdownReason_toList (name : String) (a : Int64) :
    (shutdownReason name a).toList = "quota exceeded: ".toList ++
      (name.toList ++ (" (available: ".toList ++ ((toString a).toList ++ ")".toList))) := by
  unfold shutdownReason
  rw [String.toList_append, String.toList_append, String.toList_append, String.toList_append,
    List.append_assoc, List.append_assoc, List.append_assoc]

theorem shutdownReason_resource {name : String} {r : ResourceType} {a b : Int64}
    (h : shutdownReason name a = shutdownReason r.name b) : name = r.name := by
  have hsep : " (available: ".toList = [' '] ++ '(' :: "available: ".toList := by decide
  have hlists := congrArg String.toList h
  rw [shutdownReason_toList, shutdownReason_toList, hsep] at hlists
  have hcut := List.append_cancel_left hlists
  have hshape : ∀ l w t : List Char, l ++ ([' '] ++ '(' :: w ++ t) = l ++ [' '] ++ '(' :: (w ++ t) := by
    simp
  rw [hshape, hshape] at hcut
  have hname : '(' ∉ r.name.toList ++ [' '] := by cases r <;> decide
  have hrest : '(' ∉ "available: ".toList ++ ((toString b).toList ++ ")".toList) := by
    simp only [List.mem_append, not_or]
    exact ⟨by decide, fun hx => int64_chars b hx rfl, by decide⟩
  exact String.toList_inj.mp (List.append_cancel_right (cut_unique hname hrest hcut))

theorem worst_cases (quotas : List QuotaInfo) (worst : Status) :
    let w := quotas.foldl (fun worst q =>
      if worst.number < q.status.number then q.status else worst) worst
    worst.number ≤ w.number ∧ (∀ q ∈ quotas, q.status.number ≤ w.number) ∧
      (w = worst ∨ ∃ q ∈ quotas, w = q.status) := by
  induction quotas generalizing worst with
  | nil => simp
  | cons q qs ih =>
    simp only [List.foldl_cons]
    split_ifs with hlt
    · obtain ⟨hle, hall, hfrom⟩ := ih q.status
      refine ⟨hlt.le.trans hle, List.forall_mem_cons.mpr ⟨hle, hall⟩, .inr ?_⟩
      rcases hfrom with hw | ⟨p, hp, hw⟩
      · exact ⟨q, List.mem_cons_self, hw⟩
      · exact ⟨p, List.mem_cons_of_mem _ hp, hw⟩
    · obtain ⟨hle, hall, hfrom⟩ := ih worst
      refine ⟨hle, List.forall_mem_cons.mpr ⟨(Nat.not_lt.mp hlt).trans hle, hall⟩, ?_⟩
      rcases hfrom with hw | ⟨p, hp, hw⟩
      · exact .inl hw
      · exact .inr ⟨p, List.mem_cons_of_mem _ hp, hw⟩

theorem Status.number_injective {a b : Status} (h : a.number = b.number) : a = b := by
  cases a <;> cases b <;> first | rfl | cases h

theorem toQuotaInfo_exceeded (exceeded : Table ResourceType Bool) (s : QuotaSnapshot) :
    (s.toQuotaInfo exceeded).status = .quotaExceeded ↔ s.exhausted exceeded = true := by
  unfold QuotaSnapshot.toQuotaInfo
  dsimp only
  split_ifs with hx hw <;> simp [hx]

theorem toQuotaInfo_number_le (exceeded : Table ResourceType Bool) (s : QuotaSnapshot) :
    (s.toQuotaInfo exceeded).status.number ≤ Status.quotaExceeded.number := by
  unfold QuotaSnapshot.toQuotaInfo
  dsimp only
  split_ifs <;> decide

theorem overallStatus_exceeded {quotas : List QuotaInfo} {q : QuotaInfo} (hq : q ∈ quotas)
    (hx : q.status = .quotaExceeded)
    (hle : ∀ p ∈ quotas, p.status.number ≤ Status.quotaExceeded.number) :
    overallStatus quotas = .quotaExceeded := by
  obtain ⟨-, hall, hfrom⟩ := worst_cases quotas .unspecified
  have hge := hall q hq
  rw [hx] at hge
  unfold overallStatus
  dsimp only
  generalize quotas.foldl _ _ = w at hge hfrom
  rcases hfrom with rfl | ⟨p, hp, rfl⟩
  · exact absurd hge (by decide)
  · rw [Status.number_injective (le_antisymm (hle p hp) hge)]
    rfl

theorem mem_buildPendingCommands {quotas : List QuotaInfo} {cmd : Command} :
    cmd ∈ buildPendingCommands quotas ↔ ∃ q ∈ quotas, q.status = .quotaExceeded ∧
      cmd = ⟨.shutdown, shutdownReason q.resourceType q.available⟩ := by
  simp only [buildPendingCommands, List.mem_map, List.mem_filter, decide_eq_true_eq, and_assoc]
  exact ⟨fun ⟨q, hq, hx, he⟩ => ⟨q, hq, hx, he.symm⟩, fun ⟨q, hq, hx, he⟩ => ⟨q, hq, hx, he.symm⟩⟩

theorem enforces_rows (ack : UInt64) (exceeded : Table ResourceType Bool)
    (snapshots : List QuotaSnapshot) (r : ResourceType) :
    Enforces (heartbeatResponse ack (snapshots.map (·.toQuotaInfo exceeded))) r ↔
      ∃ s ∈ snapshots, s.resourceType = r.name ∧ s.exhausted exceeded = true := by
  constructor
  · rintro ⟨-, cmd, hcmd, -, available, hreason⟩
    obtain ⟨q, hq, hx, rfl⟩ := mem_buildPendingCommands.mp hcmd
    obtain ⟨s, hs, rfl⟩ := List.mem_map.mp hq
    exact ⟨s, hs, shutdownReason_resource hreason, (toQuotaInfo_exceeded exceeded s).mp hx⟩
  · rintro ⟨s, hs, hname, hx⟩
    have hq : s.toQuotaInfo exceeded ∈ snapshots.map (·.toQuotaInfo exceeded) :=
      List.mem_map_of_mem hs
    have hstatus := (toQuotaInfo_exceeded exceeded s).mpr hx
    constructor
    · refine overallStatus_exceeded hq hstatus fun p hp => ?_
      obtain ⟨s', -, rfl⟩ := List.mem_map.mp hp
      exact toQuotaInfo_number_le exceeded s'
    · refine ⟨_, mem_buildPendingCommands.mpr ⟨_, hq, hstatus, rfl⟩, rfl, s.available.getD 0, ?_⟩
      rw [← hname]
      rfl

theorem not_enforces_empty (ack : UInt64) (r : ResourceType) :
    ¬Enforces (heartbeatResponse ack []) r := by
  rintro ⟨hstatus, -⟩
  cases hstatus

theorem responds_cases {c : Calls} {resp : HeartbeatResponse} (hresp : Responds c resp) :
    (∃ ack quotas, queryWorkflowState c = .ok (ack, quotas) ∧ resp = heartbeatResponse ack quotas) ∨
      ∃ err, queryWorkflowState c = .error err ∧ resp = heartbeatResponse 0 [] := by
  rcases hresp with hresp | ⟨duplicate, signal, hresp⟩
  · unfold sendLoopTick at hresp
    split at hresp
    · rename_i ack quotas hq
      cases hresp
      exact .inl ⟨ack, quotas, hq, rfl⟩
    · cases hresp
  · unfold heartbeat at hresp
    split at hresp
    · cases hresp
    · split at hresp
      · rename_i ack quotas hq
        cases hresp
        exact .inl ⟨ack, quotas, hq, rfl⟩
      · rename_i err hq
        cases hresp
        exact .inr ⟨err, hq, rfl⟩

theorem queryWorkflowState_ok {c : Calls} {ack : UInt64} {quotas : List QuotaInfo}
    (hq : queryWorkflowState c = .ok (ack, quotas)) :
    c.resolveTenantID.toBool = true ∧ c.queryLastTBAck = .ok ack ∧
      ((c.parseTenantID.toBool = true ∧ ∃ snapshots, c.getQuotaSnapshots = .ok snapshots ∧
          quotas = snapshots.map
            (·.toQuotaInfo (c.queryExceededResources.toOption.getD Table.empty))) ∨
        (c.parseTenantID.toBool = false ∨ c.getQuotaSnapshots.toBool = false) ∧ quotas = []) := by
  unfold queryWorkflowState at hq
  split at hq
  · cases hq
  · cases hq
  · rename_i tenant ack' htenant hack
    dsimp only at hq
    split at hq
    · rename_i uuid snapshots huuid hrows
      cases hq
      exact ⟨by rw [htenant]; rfl, hack, .inl ⟨by rw [huuid]; rfl, snapshots, hrows, rfl⟩⟩
    · rename_i hno
      cases hq
      refine ⟨by rw [htenant]; rfl, hack, .inr ⟨?_, rfl⟩⟩
      cases hp : c.parseTenantID with
      | error err => exact .inl rfl
      | ok uuid =>
        cases hr : c.getQuotaSnapshots with
        | error err => exact .inr rfl
        | ok snapshots => exact absurd hr (hno uuid snapshots hp)

theorem queryWorkflowState_error {c : Calls} {err : String}
    (hq : queryWorkflowState c = .error err) :
    c.resolveTenantID.toBool = false ∨ c.queryLastTBAck.toBool = false := by
  unfold queryWorkflowState at hq
  split at hq
  · rename_i htenant
    exact .inl (by rw [htenant]; rfl)
  · rename_i hack
    exact .inr (by rw [hack]; rfl)
  · dsimp only at hq
    split at hq <;> cases hq

theorem flagged_name {exceeded : Table ResourceType Bool} {r : ResourceType}
    (hflag : exceeded r = some true) : flagged exceeded r.name = true := by
  simp [flagged, ResourceType.ofName?_name, hflag]

theorem exhausted_iff {c : Calls} {s : TenantAccountingState} (hc : c.AnsweredBy s)
    {r : ResourceType} (hflag : s.exceededResources r = some true) {row : QuotaSnapshot}
    (hname : row.resourceType = r.name) :
    row.exhausted (c.queryExceededResources.toOption.getD Table.empty) = true ↔
      c.queryExceededResources.toBool = true ∨ row.available.getD 0 ≤ 0 := by
  have hnone : row.available.isNone = true → row.available.getD 0 ≤ 0 := by
    intro hn
    rw [Option.isNone_iff_eq_none.mp hn]
    decide
  cases hq : c.queryExceededResources with
  | ok flags =>
    have hset : flagged flags row.resourceType = true := by
      rw [hc.exceeded flags hq, hname]
      exact flagged_name hflag
    simp [QuotaSnapshot.exhausted, Except.toOption, Except.toBool, hset]
  | error err =>
    have hunset : flagged Table.empty row.resourceType = false := by
      rw [hname, flagged, ResourceType.ofName?_name]
      rfl
    simp only [QuotaSnapshot.exhausted, Except.toOption, Option.getD_none, Bool.or_eq_true,
      decide_eq_true_eq, Except.toBool, hunset, Bool.false_eq_true, or_false, false_or]
    exact ⟨fun hor => hor.elim hnone id, .inr⟩

/-- While the flag of a resource is set, a response enforces its limit exactly
when the row of the resource could be read and the flags could be read, or the
row itself shows that nothing is left. An enforcing response stops the client. -/
theorem exceeded_is_enforced_iff (c : Calls) (s : TenantAccountingState) (hc : c.AnsweredBy s)
    (r : ResourceType) (hflag : s.exceededResources r = some true) (resp : HeartbeatResponse)
    (hresp : Responds c resp) :
    (Enforces resp r ↔ ShowsExceeded c r) ∧ (Enforces resp r → clientStopped resp = true) := by
  refine ⟨?_, fun he => ?_⟩
  · rcases responds_cases hresp with ⟨ack, quotas, hq, rfl⟩ | ⟨err, hq, rfl⟩
    · obtain ⟨htenant, hack, ⟨hparse, snapshots, hrows, rfl⟩ | ⟨hfail, rfl⟩⟩ :=
        queryWorkflowState_ok hq
      · rw [enforces_rows]
        constructor
        · rintro ⟨row, hrow, hname, hx⟩
          exact ⟨htenant, by rw [hack]; rfl, hparse, snapshots, hrows, row, hrow, hname,
            (exhausted_iff hc hflag hname).mp hx⟩
        · rintro ⟨-, -, -, rows, hrows', row, hrow, hname, hx⟩
          cases hrows.symm.trans hrows'
          exact ⟨row, hrow, hname, (exhausted_iff hc hflag hname).mpr hx⟩
      · refine iff_of_false (not_enforces_empty ack r) ?_
        rintro ⟨-, -, hparse, rows, hrows, -⟩
        rcases hfail with hfail | hfail
        · simp [hparse] at hfail
        · simp [hrows, Except.toBool] at hfail
    · refine iff_of_false (not_enforces_empty 0 r) ?_
      rintro ⟨htenant, hack, -⟩
      rcases queryWorkflowState_error hq with hfail | hfail
      · rw [htenant] at hfail
        cases hfail
      · rw [hack] at hfail
        cases hfail
  · obtain ⟨cmd, hcmd, htype, -⟩ := he.command
    exact List.any_eq_true.mpr ⟨cmd, hcmd, by simpa using htype⟩

/-- The flush of one heartbeat reports that its CPU usage was rejected. -/
def rejectedFlush : List Event :=
  [.heartbeat (sampleHeartbeat 1), .receiveHeartbeat false, .timerFires 0, .timerBranch false,
    .attempt true (.batch (.ok
      { perResource := Table.empty.set .cpuHours { accepted := false, exceedsCredits := true } })),
    .deliver false]

/-- Every call of the gateway is answered by the workflow, with these rows. -/
def answeredCalls (s : TenantAccountingState)
    (snapshots : Except String (List QuotaSnapshot)) : Calls where
  resolveTenantID := .ok "tenant"
  queryLastTBAck := .ok (queryLastTBAck s)
  queryExceededResources := .ok (queryExceededResources s)
  parseTenantID := .ok s.tenantUUID
  getQuotaSnapshots := snapshots

theorem answeredCalls_answered (s : TenantAccountingState)
    (snapshots : Except String (List QuotaSnapshot)) : (answeredCalls s snapshots).AnsweredBy s :=
  ⟨fun _ hack => (Except.ok.inj hack).symm, fun _ hflags => (Except.ok.inj hflags).symm⟩

/-- A few credits are left, too few for the rejected transfer. -/
def crumbs : QuotaSnapshot := ⟨"cpu_hours", 10, 7, 0, some 3⟩

theorem crumbs_are_enforced :
    ∃ e resp, runSteps (Execution.step .positional) (.start sampleInput) rejectedFlush = some e ∧
      e.state.exceededResources .cpuHours = some true ∧
      sendLoopTick (answeredCalls e.state (.ok [crumbs])) = some resp ∧ Enforces resp .cpuHours := by
  obtain ⟨e, he, hflag⟩ := runSteps_any (Execution.step .positional) (.start sampleInput)
    rejectedFlush (fun e => e.state.exceededResources .cpuHours = some true) (by decide)
  rw [decide_eq_true_eq] at hflag
  refine ⟨e, _, he, hflag, rfl, ?_⟩
  refine (exceeded_is_enforced_iff (answeredCalls e.state (.ok [crumbs])) e.state
    (answeredCalls_answered _ _) .cpuHours hflag _ (.inl rfl)).1.mpr ?_
  exact ⟨rfl, rfl, rfl, _, rfl, crumbs, List.mem_singleton_self _, rfl, .inl rfl⟩

/-- The rows cannot be read: the response says that all is well, and a stopped
client resumes. -/
theorem unread_rows_resume_client :
    ∃ e resp, runSteps (Execution.step .positional) (.start sampleInput) rejectedFlush = some e ∧
      e.state.exceededResources .cpuHours = some true ∧
      sendLoopTick (answeredCalls e.state (.error "connection refused")) = some resp ∧
      resp.status = .ok ∧ clientStopped resp = false ∧ ¬Enforces resp .cpuHours := by
  obtain ⟨e, he, hflag⟩ := runSteps_any (Execution.step .positional) (.start sampleInput)
    rejectedFlush (fun e => e.state.exceededResources .cpuHours = some true) (by decide)
  rw [decide_eq_true_eq] at hflag
  exact ⟨e, _, he, hflag, rfl, rfl, rfl, not_enforces_empty _ _⟩

end CloudCredit.Gateway
