import CloudCredit.Accounting.BatchOutcome
import CloudCredit.Accounting.Provisioning

/-!
# The whole system

One ledger service, the server that creates the global accounts, and any number
of tenants, each with its provisioning and its accounting workflow. The replies
of the ledger activities are now those of the service: an attempt makes its
requests on the books as they are at that moment, and each request may be lost
on its way, applied without a reply, or answered. Between the two requests of
one batch anybody else may write. What is left open is everything outside: the
signals, the timers, the database, the identifiers drawn at random.

`journal` has every decision of the service, newest first, with what the event
stood for. It is read by statements and proofs only.
-/
namespace CloudCredit.System

open Library TigerBeetle Domain Ledger Accounting

/-- What a transfer event stands for. -/
inductive Source
  | usage (tenant cluster : Uint128) (seq : UInt64) (r : ResourceType)
  | gaugeNew (tenant : Uint128) (seqNo : UInt64) (cluster : Uint128) (r : ResourceType)
  | gaugeVoid (tenant : Uint128) (seqNo : UInt64) (cluster : Uint128) (r : ResourceType)
  | provision (tenant : Uint128) (periodStartNs : Int64) (r : ResourceType) (credits : Int64)
  | credit (tenant : Uint128) (issue : Issue)
  deriving DecidableEq

namespace Source

def tenant : Source → Uint128
  | usage t _ _ _ | gaugeNew t _ _ _ | gaugeVoid t _ _ _ | provision t _ _ _ | credit t _ => t

def resource : Source → ResourceType
  | usage _ _ _ r | gaugeNew _ _ _ r | gaugeVoid _ _ _ r | provision _ _ r _ => r
  | credit _ issue => issue.resource

/-- What the identifier of the event is derived from. -/
def preimage : Source → Preimage
  | usage _ cluster seq r => .transfer cluster seq r.ledgerID
  | gaugeNew t seqNo cluster r => .gaugePending t seqNo cluster r.ledgerID
  | gaugeVoid t seqNo cluster r => .gaugeVoid t seqNo cluster r.ledgerID
  | provision t periodStartNs r _ => .allocation t periodStartNs.toUInt64 r.ledgerID
  | credit t issue => .allocation t issue.seqNo issue.resource.ledgerID

end Source

def usageEntries (h : Blake3) (input : TBBatchInput) : List (Source × Transfer) :=
  (usageTransfers h input).map fun x =>
    (.usage input.tenantUUID x.1.clusterUUID x.1.sequenceNumber x.2.resource, x.2.toTransfer)

def gaugeSource (seqNo : UInt64) (input : TBBatchInput) (x : String × GaugePendingUpdate)
    (m : GaugeMeta) : Source :=
  let cluster := (keyCluster input.heartbeats x.1).getD 0
  if m.isVoid then .gaugeVoid input.tenantUUID seqNo cluster x.2.resource
  else .gaugeNew input.tenantUUID seqNo cluster x.2.resource

def gaugeEntriesFrom (seqNo : UInt64) (input : TBBatchInput) (rand : ℕ → Uint128) :
    ℕ → List (String × GaugePendingUpdate) → List (Source × Transfer)
  | _, [] => []
  | n, x :: xs =>
    (x.2.transfers rand n).map (fun y => (gaugeSource seqNo input x y.2, y.1)) ++
      gaugeEntriesFrom seqNo input rand (n + 1) xs

def gaugeEntries (seqNo : UInt64) (input : TBBatchInput) (att : BatchAttempt) :
    List (Source × Transfer) :=
  gaugeEntriesFrom seqNo input att.rand 0 (gaugeUpdates input att.clusters)

def allocationEntriesFrom (source : ResourceType → Source) (rand : ℕ → Uint128) :
    ℕ → List AllocationTransfer → List (Source × Transfer)
  | _, [] => []
  | n, a :: as =>
    (source a.resource, a.toTransfer (rand n)) :: allocationEntriesFrom source rand (n + 1) as

def allocationEntries (source : ResourceType → Source) (input : SubmitAllocationInput)
    (att : RequestAttempt) : List (Source × Transfer) :=
  allocationEntriesFrom source att.rand 0 (allocations att.resources input)

/-- What was sent, if it got through. -/
def reachedEntries (fate : Fate) (xs : List (Source × Transfer)) : List (Source × Transfer) :=
  if fate.reached then xs else []

/-- `halfway` is an attempt of the batch activity between its two requests. -/
structure Tenant where
  provisioning : Provisioning
  accounting : Option Execution := none
  halfway : Option (BatchAttempt × Table ResourceType ResourceBatchResult) := none

/-- `reported` tells whether the worker lives to report the attempt. -/
inductive TenantEvent
  | rowAttempt (reply : Except ActivityError Unit)
  | createAccounts (att : RequestAttempt) (reported : Bool)
  | allocate (att : RequestAttempt) (reported : Bool)
  | deliverProvisioning
  | startAccounting (reply : Except ActivityError Unit)
  | workflow (ev : Event)
  | submitUsage (att : BatchAttempt) (reported : Bool)
  | submitGauges (reported : Bool)
  | credit (i : ℕ) (att : RequestAttempt) (reported : Bool)
  | lookup (att : LookupAttempt)
  | refreshLookup (i : ℕ) (att : LookupAttempt)

/-- What the workflow hears of an attempt. -/
def heard {α : Type} (reported : Bool) (reply : Except ActivityError α) : Except ActivityError α :=
  if reported then reply else .error .timeout

/-- A tenant's step on the books: the tenant and the books after it, and the
transfer events that reached the service. -/
structure Outcome where
  tenant : Tenant
  books : Books
  sent : List (Source × Transfer) := []

namespace Tenant

variable (h : Blake3) (tb : Service) (t : Tenant) (L : Books)

/-- Nothing but the tenant itself changes. -/
def alone (t : Tenant) (L : Books) : Outcome := ⟨t, L, []⟩

def createAccounts (att : RequestAttempt) (reported : Bool) : Option Outcome :=
  let out := createTenantTBAccounts tb att t.provisioning.input.tenantUUID L
  (t.provisioning.accountsAttempt att.fate.reached (heard reported out.1)).map fun p =>
    ⟨{ t with provisioning := p }, out.2, []⟩

def allocate (att : RequestAttempt) (reported : Bool) : Option Outcome :=
  let input := t.provisioning.allocationInput h
  let out := submitAllocationTransfers tb att input L
  (t.provisioning.allocationAttempt att.fate.reached (heard reported out.1)).map fun p =>
    ⟨{ t with provisioning := p }, out.2,
      reachedEntries att.fate (allocationEntries (fun r =>
        .provision input.tenantUUID input.periodStartNs r ((input.credits r).getD 0)) input att)⟩

/-- The child workflow starts with the tenant's accounts and empty carried fields. -/
def startAccounting (reply : Except ActivityError Unit) : Option Outcome :=
  (t.provisioning.accountingStarted reply).map fun p =>
    alone { t with
      provisioning := p
      accounting := if reply.toBool then some (.start t.provisioning.accountingInput) else none } L

/-- The first request of an attempt. The attempt ends here if the request fails
or the worker is lost. -/
def submitUsage (att : BatchAttempt) (reported : Bool) : Option Outcome :=
  match t.accounting, t.halfway with
  | some e, none =>
    match e.main with
    | .submitting _ flight =>
      let out := Accounting.submitUsage h flight.input tb att L
      let sent := reachedEntries att.usageFate (usageEntries h flight.input)
      match heard reported out.1 with
      | .ok per =>
        if flight.run.outcome.isSome then none
        else some ⟨{ t with halfway := some (att, per) }, out.2, sent⟩
      | .error err => (e.step h (.attempt att.usageFate.reached (.batch (.error err)))).map
          fun e' => ⟨{ t with accounting := some e' }, out.2, sent⟩
    | _ => none
  | _, _ => none

/-- The second request ends the attempt. -/
def submitGauges (reported : Bool) : Option Outcome :=
  match t.accounting, t.halfway with
  | some e, some (att, per) =>
    match e.main with
    | .submitting _ flight =>
      let out := Accounting.submitGauges flight.input tb att per L
      (e.step h (.attempt (att.usageFate.reached || att.gaugeFate.reached)
          (.batch (heard reported out.1)))).map fun e' =>
        ⟨{ t with accounting := some e', halfway := none }, out.2,
          reachedEntries att.gaugeFate (gaugeEntries flight.seqNo flight.input att)⟩
    | _ => none
  | _, _ => none

def credit (i : ℕ) (att : RequestAttempt) (reported : Bool) : Option Outcome :=
  t.accounting.bind fun e => e.credits[i]?.bind fun c =>
    let out := submitAllocationTransfers tb att c.input L
    (e.step h (.creditAttempt i att.fate.reached (heard reported out.1))).map fun e' =>
      ⟨{ t with accounting := some e' }, out.2,
        reachedEntries att.fate (allocationEntries
          (fun _ => .credit c.input.tenantUUID c.issue) c.input att)⟩

/-- A step of the accounting workflow that leaves the books alone. -/
def advance (ev : Event) : Option Outcome :=
  t.accounting.bind fun e => (e.step h ev).map fun e' => alone { t with accounting := some e' } L

def workflow (ev : Event) : Option Outcome :=
  if ev.asksLedger then none else t.advance h L ev

def lookup (att : LookupAttempt) : Option Outcome :=
  t.accounting.bind fun e => t.advance h L
    (.attempt false (.balances (lookupAccountBalances att e.state.accountMap L)))

def refreshLookup (i : ℕ) (att : LookupAttempt) : Option Outcome :=
  t.accounting.bind fun e => t.advance h L
    (.refreshAttempt i (.balances (lookupAccountBalances att e.state.accountMap L)))

def act : TenantEvent → Option Outcome
  | .rowAttempt reply => (t.provisioning.rowAttempt reply).map fun p =>
      alone { t with provisioning := p } L
  | .createAccounts att reported => t.createAccounts tb L att reported
  | .allocate att reported => t.allocate h tb L att reported
  | .deliverProvisioning => t.provisioning.deliver.map fun p =>
      alone { t with provisioning := p } L
  | .startAccounting reply => t.startAccounting L reply
  | .workflow ev => t.workflow h L ev
  | .submitUsage att reported => t.submitUsage h tb L att reported
  | .submitGauges reported => t.submitGauges h tb L reported
  | .credit i att reported => t.credit h tb L i att reported
  | .lookup att => t.lookup h L att
  | .refreshLookup i att => t.refreshLookup h L i att

end Tenant

structure State where
  books : Books := {}
  journal : List (Entry Source) := []
  globals : Option GlobalAccounts := none
  tenants : Table Uint128 Tenant := Table.empty

inductive SystemEvent
  | startServer (fate : Fate) (rand : ℕ → Uint128)
  | registerTenant (tenantID : Uint128) (req : RegisterTenantRequest) (now : Int64)
  | tenant (tenantID : Uint128) (ev : TenantEvent)

namespace State

variable (h : Blake3) (tb : Service) (s : State)

/-- Every start creates global accounts of its own; without them the server ends. -/
def startServer (fate : Fate) (rand : ℕ → Uint128) : State :=
  let out := createGlobalAccounts tb fate rand (fun _ _ => none) s.books
  { s with books := out.2, globals := out.1.toOption }

/-- A registration draws a new tenant identifier. -/
def registerTenant (tenantID : Uint128) (req : RegisterTenantRequest) (now : Int64) :
    Option State :=
  match s.globals, s.tenants tenantID with
  | some globals, none => some { s with
      tenants := s.tenants.set tenantID
        ⟨{ input := Accounting.registerTenant req tenantID globals now }, none, none⟩ }
  | _, _ => none

/-- Put the outcome of a tenant's step in place and write its decisions down. -/
def commit (tenantID : Uint128) (o : Outcome) : State :=
  { s with
    books := o.books
    journal := (tb.record (s.books, s.journal) o.sent).2
    tenants := s.tenants.set tenantID o.tenant }

def step : SystemEvent → Option State
  | .startServer fate rand => some (s.startServer tb fate rand)
  | .registerTenant tenantID req now => s.registerTenant tenantID req now
  | .tenant tenantID ev => (s.tenants tenantID).bind fun t =>
      (t.act h tb s.books ev).map (s.commit tb tenantID)

/-- The server starts, a tenant registers for the first time, or a registered tenant acts. -/
inductive Stepped : SystemEvent → State → Prop
  | started {fate : Fate} {rand : ℕ → Uint128} :
      Stepped (.startServer fate rand) (s.startServer tb fate rand)
  | registered {u : Uint128} {req : RegisterTenantRequest} {now : Int64} {g : GlobalAccounts}
      (hg : s.globals = some g) (hnone : s.tenants u = none) :
      Stepped (.registerTenant u req now) { s with
        tenants := s.tenants.set u
          ⟨{ input := Accounting.registerTenant req u g now }, none, none⟩ }
  | acted {u : Uint128} {ev : TenantEvent} {t : Tenant} {o : Outcome}
      (hu : s.tenants u = some t) (ho : t.act h tb s.books ev = some o) :
      Stepped (.tenant u ev) (s.commit tb u o)

theorem step_tenant {h : Blake3} {tb : Service} {s s' : State} {u : Uint128} {ev : TenantEvent}
    (hstep : s.step h tb (.tenant u ev) = some s') :
    ∃ t o, s.tenants u = some t ∧ t.act h tb s.books ev = some o ∧ s' = s.commit tb u o := by
  obtain ⟨t, hu, hstep⟩ := Option.bind_eq_some_iff.mp hstep
  obtain ⟨o, ho, rfl⟩ := Option.map_eq_some_iff.mp hstep
  exact ⟨t, o, hu, ho, rfl⟩

theorem stepped_of_step {h : Blake3} {tb : Service} {s s' : State} {ev : SystemEvent}
    (hstep : s.step h tb ev = some s') : s.Stepped h tb ev s' := by
  cases ev with
  | startServer fate rand =>
    cases hstep
    exact .started
  | registerTenant u req now =>
    simp only [step, registerTenant] at hstep
    split at hstep
    · rename_i hg hnone
      cases hstep
      exact .registered hg hnone
    · cases hstep
  | tenant u ev =>
    obtain ⟨t, o, hu, ho, rfl⟩ := step_tenant hstep
    exact .acted hu ho

/-- A start opens some accounts or none. -/
theorem startServer_books (fate : Fate) (rand : ℕ → Uint128) :
    ∃ as, (s.startServer tb fate rand).books = (tb.createAccounts s.books as).2 := by
  obtain ⟨as, -, hbooks | hbooks⟩ :=
    createGlobalAccounts_books tb fate rand (L := s.books) fun _ _ => none
  · exact ⟨[], hbooks⟩
  · exact ⟨as, hbooks⟩

/-- The system before the server is started for the first time. -/
def initial : State := {}

end State

def sampleTenant : Uint128 := sampleID 1

def sampleRandom (n : ℕ) : ℕ → Uint128 := fun k => sampleID (UInt8.ofNat (n + k))

/-- The server starts, and a tenant with the given credits is provisioned. -/
def sampleProvisioning (cpu nodes : Int64) : List SystemEvent :=
  [.startServer .answered (sampleRandom 50),
    .registerTenant sampleTenant
      { billingTier := "free", cpuHoursCredits := cpu, activeNodesLimit := nodes } 1000] ++
  ([.rowAttempt (.ok ()), .deliverProvisioning,
    .createAccounts { rand := sampleRandom 100 } true, .deliverProvisioning,
    .rowAttempt (.ok ()), .deliverProvisioning, .allocate {} true, .deliverProvisioning,
    .startAccounting (.ok ())] : List TenantEvent).map (.tenant sampleTenant)

/-- Heartbeats arrive and are received, and the timer flushes them. -/
def sampleBatchOf (hbs : List HeartbeatSignal) (timer : ℕ) : List TenantEvent :=
  hbs.map (fun hb => .workflow (.heartbeat hb)) ++
    hbs.map (fun _ => .workflow (.receiveHeartbeat false)) ++
    [.workflow (.timerFires timer), .workflow (.timerBranch false)]

/-- The batch is submitted and its result delivered. -/
def sampleSubmission : List TenantEvent :=
  [.submitUsage {} true, .submitGauges true, .workflow (.deliver false)]

end CloudCredit.System
