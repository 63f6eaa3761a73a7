import CloudCredit.Accounting.Signals
import CloudCredit.Library.Transitions
import CloudCredit.TigerBeetle.Requests

/-!
# The two names of a cluster

A request names its cluster by a string. The signal carries the string and the
UUID parsed from it: the maps of the gateway and of the workflow are keyed by the
one, the transfers are derived from the other. The parser accepts several forms
of a UUID, each in either letter case, so one UUID has many strings.
-/
namespace CloudCredit.Gateway

open Library TigerBeetle Accounting

def bytesOf (s : String) : List UInt8 := s.toUTF8.data.toList

/-- The value of a hexadecimal digit in either letter case. -/
def hexValue (c : UInt8) : Option UInt8 :=
  if 48 ≤ c ∧ c ≤ 57 then some (c - 48)
  else if 97 ≤ c ∧ c ≤ 102 then some (c - 87)
  else if 65 ≤ c ∧ c ≤ 70 then some (c - 55)
  else none

def hexByte (high low : UInt8) : Option UInt8 :=
  match hexValue high, hexValue low with
  | some h, some l => some (16 * h + l)
  | _, _ => none

/-- The sixteen bytes whose digits start at the given offsets. -/
def hexBytesAt (s : List UInt8) (offsets : List ℕ) : Option Uint128 :=
  (offsets.mapM fun x => s[x]?.bind fun high => s[x + 1]?.bind (hexByte high)).bind fun bytes =>
    if h : bytes.length = 16 then some ⟨bytes, h⟩ else none

/-- The form `xxxxxxxx-xxxx-xxxx-xxxx-xxxxxxxxxxxx`. -/
def parseDashed (s : List UInt8) : Option Uint128 :=
  if [8, 13, 18, 23].all fun x => s[x]? = some 45 then
    hexBytesAt s [0, 2, 4, 6, 9, 11, 14, 16, 19, 21, 24, 26, 28, 30, 32, 34]
  else none

def lowerCase (c : UInt8) : UInt8 := if 65 ≤ c ∧ c ≤ 90 then c + 32 else c

/-- `uuid.Parse`: the dashed form, alone, after `urn:uuid:` or in braces, and the
plain digits. -/
def parseUUID (id : String) : Option Uint128 :=
  let s := bytesOf id
  if s.length = 36 then parseDashed s
  else if s.length = 45 then
    if (s.take 9).map lowerCase = bytesOf "urn:uuid:" then parseDashed (s.drop 9) else none
  else if s.length = 38 then parseDashed (s.drop 1)
  else if s.length = 32 then hexBytesAt s ((List.range 16).map (2 * ·))
  else none

/-- The bytes before the first digit that is none. -/
def decodeHex : List UInt8 → List UInt8
  | high :: low :: rest =>
    match hexByte high low with
    | some b => b :: decodeHex rest
    | none => []
  | _ => []

/-- The first sixteen bytes, filled up with zeros. -/
def padded (bytes : List UInt8) : Uint128 :=
  ⟨bytes.takeD 16 0, List.takeD_length 16 bytes 0⟩

/-- A string that is no UUID is taken as digits, as far as it goes. -/
def uuidToBytes (id : String) : Uint128 := (parseUUID id).getD (padded (decodeHex (bytesOf id)))

/-- The string of a UUID: lower-case digits in the dashed form. -/
def uuidString (u : Uint128) : String :=
  let digits := fun first count => ((u.bytes.drop first).take count).flatMap fun b =>
    [Nat.digitChar (b.toNat / 16), Nat.digitChar (b.toNat % 16)]
  String.ofList (digits 0 4 ++ '-' :: digits 4 2 ++ '-' :: digits 6 2 ++ '-' :: digits 8 2 ++
    '-' :: digits 10 6)

theorem bytesOf_ofList (cs : List Char) :
    bytesOf (String.ofList cs) = cs.flatMap String.utf8EncodeChar := by
  unfold bytesOf
  rw [String.toUTF8]
  simp only [String.ofList, List.utf8Encode, List.toList_data_toByteArray]

/-- The byte of a hexadecimal digit. -/
def digitByte (n : ℕ) : UInt8 := UInt8.ofNat (Nat.digitChar n).val.toNat

theorem encode_digitChar : ∀ n < 16, String.utf8EncodeChar (Nat.digitChar n) = [digitByte n] := by
  decide

theorem hexValue_digitByte : ∀ n < 16, hexValue (digitByte n) = some (UInt8.ofNat n) := by
  decide

theorem hexByte_digits (b : UInt8) :
    hexByte (digitByte (b.toNat / 16)) (digitByte (b.toNat % 16)) = some b := by
  have hb := b.toNat_lt
  have hhigh : b.toNat / 16 < 16 := by omega
  have hlow : b.toNat % 16 < 16 := by omega
  simp only [hexByte, hexValue_digitByte _ hhigh, hexValue_digitByte _ hlow, Option.some.injEq]
  apply UInt8.toNat_inj.mp
  simp only [UInt8.toNat_add, UInt8.toNat_mul, UInt8.reduceToNat, UInt8.toNat_ofNat', Nat.reducePow,
    Nat.mul_mod_mod, Nat.add_mod_mod, Nat.mod_add_mod]
  omega

theorem bytes_cases : ∀ l : List UInt8, l.length = 16 → ∃ a b c d e f g h i j k m n o p q,
    l = [a, b, c, d, e, f, g, h, i, j, k, m, n, o, p, q]
  | [a, b, c, d, e, f, g, h, i, j, k, m, n, o, p, q], _ =>
    ⟨a, b, c, d, e, f, g, h, i, j, k, m, n, o, p, q, rfl⟩

/-- A printed UUID is read back. -/
theorem parseUUID_uuidString (u : Uint128) : parseUUID (uuidString u) = some u := by
  obtain ⟨bytes, hlength⟩ := u
  obtain ⟨a, b, c, d, e, f, g, h, i, j, k, m, n, o, p, q, rfl⟩ := bytes_cases bytes hlength
  have hbyte : ∀ b : UInt8, String.utf8EncodeChar (Nat.digitChar (b.toNat / 16)) =
      [digitByte (b.toNat / 16)] ∧ String.utf8EncodeChar (Nat.digitChar (b.toNat % 16)) =
      [digitByte (b.toNat % 16)] := by
    intro b
    have := b.toNat_lt
    exact ⟨encode_digitChar _ (by omega), encode_digitChar _ (by omega)⟩
  have hdash : String.utf8EncodeChar '-' = [45] := by decide
  simp only [parseUUID, uuidString, bytesOf_ofList]
  simp [hbyte, hdash, parseDashed, hexBytesAt, hexByte_digits]

/-- The string is the one its UUID is printed as. -/
def Canonical (id : String) : Prop := (parseUUID id).map uuidString = some id

instance (id : String) : Decidable (Canonical id) :=
  inferInstanceAs (Decidable ((parseUUID id).map uuidString = some id))

/-- A UUID has one canonical string. -/
theorem Canonical.unique {a b : String} (ha : Canonical a) (hb : Canonical b)
    (h : uuidToBytes a = uuidToBytes b) : a = b := by
  obtain ⟨u, hu, hua⟩ := Option.map_eq_some_iff.mp ha
  obtain ⟨v, hv, hvb⟩ := Option.map_eq_some_iff.mp hb
  simp only [uuidToBytes, hu, hv, Option.getD_some] at h
  rw [← hua, ← hvb, h]

inductive LookupError
  | noRows
  | failed (error : String)

/-- What the services answer during one call: the tenant of the cluster at each
attempt to read its row, whether the call is cancelled before an attempt, how the
signal fares, and the error of `uuid.Parse`. -/
structure ServiceReplies where
  getCluster : ℕ → Except LookupError String
  cancelled : ℕ → Option String := fun _ => none
  signalWorkflow : Fate := .answered
  parseError : String := "invalid UUID format"

def maxAttempts : ℕ := 3

/-- The attempts to read the row of a cluster, of which `left` remain. -/
def lookupTenant (w : ServiceReplies) (clusterID : String) : String → ℕ → Except String String
  | lastErr, 0 => .error ("GetCluster " ++ clusterID ++ ": " ++ lastErr)
  | _, left + 1 =>
    let attempt := maxAttempts - (left + 1)
    match if attempt = 0 then none else w.cancelled attempt with
    | some err => .error err
    | none =>
      match w.getCluster attempt with
      | .ok tenantID => .ok tenantID
      | .error .noRows => .error ("GetCluster " ++ clusterID ++ ": sql: no rows in result set")
      | .error (.failed err) => lookupTenant w clusterID err left

/-- The tenant of a cluster, and the cache afterwards. -/
def resolveTenantID (clusterToTenant : Table String String) (w : ServiceReplies)
    (clusterID : String) : Except String String × Table String String :=
  match clusterToTenant clusterID, parseUUID clusterID with
  | some tenantID, _ => (.ok tenantID, clusterToTenant)
  | none, none => (.error ("cluster ID is not a valid UUID: " ++ w.parseError), clusterToTenant)
  | none, some _ =>
    match lookupTenant w clusterID "" maxAttempts with
    | .ok tenantID => (.ok tenantID, clusterToTenant.set clusterID tenantID)
    | .error err => (.error err, clusterToTenant)

structure HeartbeatRequest where
  clusterId : String
  sequenceNumber : UInt64
  timestampNs : Option Int64 := none
  cpuMillisecondsDelta : Int64 := 0
  memoryMbSecondsDelta : Int64 := 0
  activeNodes : Int32 := 0
  deriving DecidableEq

def HeartbeatRequest.toSignal (req : HeartbeatRequest) : HeartbeatSignal where
  clusterID := req.clusterId
  clusterUUID := uuidToBytes req.clusterId
  sequenceNumber := req.sequenceNumber
  cpuMillisecondsDelta := req.cpuMillisecondsDelta
  memoryMBSecondsDelta := req.memoryMbSecondsDelta
  activeNodes := req.activeNodes
  heartbeatTimestampNs := req.timestampNs.getD 0

def accountingWorkflowID (tenantID : String) : String := "tenant-accounting-" ++ tenantID

/-- A signal that reached a workflow. -/
structure Delivery where
  workflowID : String
  signal : HeartbeatSignal

/-- The tenants found so far, and the signals that reached a workflow. -/
structure Signals where
  clusterToTenant : Table String String := Table.empty
  delivered : List Delivery := []

namespace Signals

variable (g : Signals)

def signalHeartbeat (w : ServiceReplies) (req : HeartbeatRequest) : Except String Unit × Signals :=
  let resolved := resolveTenantID g.clusterToTenant w req.clusterId
  let g' := { g with clusterToTenant := resolved.2 }
  match resolved.1 with
  | .error err => (.error ("resolve tenant for cluster " ++ req.clusterId ++ ": " ++ err), g')
  | .ok tenantID =>
    let sent := { g' with
      delivered := ⟨accountingWorkflowID tenantID, req.toSignal⟩ :: g.delivered }
    match w.signalWorkflow with
    | .answered => (.ok (), sent)
    | .lostRequest err => (.error err, g')
    | .lostReply err => (.error err, sent)

/-- A signal is sent, or a tenant is looked up for a query. -/
inductive Event
  | signalHeartbeat (w : ServiceReplies) (req : HeartbeatRequest)
  | resolveTenantID (w : ServiceReplies) (clusterID : String)

def step : Event → Option Signals
  | .signalHeartbeat w req => some (g.signalHeartbeat w req).2
  | .resolveTenantID w clusterID =>
    some { g with clusterToTenant := (Gateway.resolveTenantID g.clusterToTenant w clusterID).2 }

theorem signalHeartbeat_cases (w : ServiceReplies) (req : HeartbeatRequest) :
    ((∃ err, (g.signalHeartbeat w req).1 = .error err) ∧
      (g.signalHeartbeat w req).2.delivered = g.delivered) ∨
    ∃ workflowID,
      (g.signalHeartbeat w req).2.delivered = ⟨workflowID, req.toSignal⟩ :: g.delivered := by
  unfold signalHeartbeat
  generalize Gateway.resolveTenantID g.clusterToTenant w req.clusterId = resolved
  obtain ⟨result, clusterToTenant⟩ := resolved
  cases result with
  | error err => exact .inl ⟨⟨_, rfl⟩, rfl⟩
  | ok tenantID =>
    cases w.signalWorkflow with
    | lostRequest err => exact .inl ⟨⟨_, rfl⟩, rfl⟩
    | answered => exact .inr ⟨_, rfl⟩
    | lostReply err => exact .inr ⟨_, rfl⟩

/-- Every signal is the one of a request with a canonical string. -/
def CanonicallyNamed : Prop :=
  ∀ d ∈ g.delivered, Canonical d.signal.clusterID ∧
    d.signal.clusterUUID = uuidToBytes d.signal.clusterID

/-- A request of the event names its cluster canonically. -/
def Event.Canonical : Event → Prop
  | .signalHeartbeat _ req => Gateway.Canonical req.clusterId
  | .resolveTenantID _ _ => True

theorem step_canonicallyNamed {g g' : Signals} {ev : Event} (hg : g.CanonicallyNamed)
    (hev : ev.Canonical) (hstep : g.step ev = some g') : g'.CanonicallyNamed := by
  cases ev with
  | resolveTenantID w clusterID =>
    cases hstep
    exact hg
  | signalHeartbeat w req =>
    cases hstep
    rcases g.signalHeartbeat_cases w req with ⟨-, hsame⟩ | ⟨workflowID, hnew⟩
    · unfold CanonicallyNamed
      rw [hsame]
      exact hg
    · intro d hd
      rw [hnew] at hd
      rcases List.mem_cons.mp hd with rfl | hd
      · exact ⟨hev, rfl⟩
      · exact hg d hd

end Signals

/-- While every request names its cluster canonically, any two signals that ever
reach a workflow agree in their strings exactly if they agree in their UUIDs,
whatever the cache of tenants holds at first. -/
theorem Signals.one_cluster_one_key (clusterToTenant : Table String String) (es : List Event)
    {g : Signals} (hr : runSteps step { clusterToTenant } es = some g)
    (hC : ∀ ev ∈ es, ev.Canonical) : ∀ a ∈ g.delivered, ∀ b ∈ g.delivered,
      a.signal.clusterID = b.signal.clusterID ↔ a.signal.clusterUUID = b.signal.clusterUUID := by
  have halong : Along step (fun _ ev => ev.Canonical) { clusterToTenant } es := along_of_forall step hC
  have hg : g.CanonicallyNamed := by
    refine invariant_along step (fun _ _ _ hg hev hstep => step_canonicallyNamed hg hev hstep) ?_
      halong hr
    intro d hd
    cases hd
  intro a ha b hb
  obtain ⟨hca, hua⟩ := hg a ha
  obtain ⟨hcb, hub⟩ := hg b hb
  rw [hua, hub]
  exact ⟨fun h => by rw [h], hca.unique hcb⟩

/-- The services answer at once; the cluster belongs to a tenant. -/
def sampleReplies : ServiceReplies where
  getCluster := fun _ => .ok "00000000-0000-4000-8000-000000000001"

/-- Two heartbeats under the given names. -/
def samplePair (a b : String) : List Signals.Event :=
  [.signalHeartbeat sampleReplies { clusterId := a, sequenceNumber := 1 },
    .signalHeartbeat sampleReplies { clusterId := b, sequenceNumber := 1 }]

theorem Signals.canonical_clusters_one_key :
    ∃ g, runSteps step {} (samplePair "0000000a-0000-4000-8000-000000000001"
        "0000000b-0000-4000-8000-000000000001") = some g ∧ g.delivered.length = 2 ∧
      ∀ a ∈ g.delivered, ∀ b ∈ g.delivered,
        a.signal.clusterID = b.signal.clusterID ↔ a.signal.clusterUUID = b.signal.clusterUUID := by
  refine ⟨_, rfl, rfl, one_cluster_one_key Table.empty
    (samplePair "0000000a-0000-4000-8000-000000000001" "0000000b-0000-4000-8000-000000000001") rfl ?_⟩
  intro ev hev
  rcases List.mem_cons.mp hev with rfl | hev
  · exact show Canonical "0000000a-0000-4000-8000-000000000001" by decide
  · rw [List.mem_singleton.mp hev]
    exact show Canonical "0000000b-0000-4000-8000-000000000001" by decide

/-- Two spellings of one UUID reach the same workflow under two names. -/
theorem Signals.two_spellings_two_keys :
    ∃ g, runSteps step {} (samplePair "0000000a-0000-4000-8000-000000000001"
        "0000000A-0000-4000-8000-000000000001") = some g ∧
      ∃ a ∈ g.delivered, ∃ b ∈ g.delivered, a.workflowID = b.workflowID ∧
        a.signal.clusterUUID = b.signal.clusterUUID ∧ a.signal.clusterID ≠ b.signal.clusterID := by
  refine ⟨_, rfl, _, List.mem_cons_self, _, List.mem_cons_of_mem _ List.mem_cons_self, rfl, ?_, ?_⟩
  · decide
  · decide

end CloudCredit.Gateway
