import CloudCredit.TigerBeetle.Books

/-!
# Deterministic identifiers

Transfer identifiers are the first sixteen bytes of a BLAKE3 digest. The hash
is a parameter; what is hashed is written out byte by byte. The four layouts
are concatenations without length fields, of which only three carry a tag, yet
they have four different lengths, so one byte string belongs to one layout and
one choice of its fields.
-/
namespace CloudCredit.Ledger

open TigerBeetle

/-- The hash function: any function with 32-byte digests. -/
structure Blake3 where
  sum : List UInt8 → List UInt8
  length_sum : ∀ m, (sum m).length = 32

/-- The `k` low bytes of `n`, least significant first. -/
def littleEndian : ℕ → ℕ → List UInt8
  | 0, _ => []
  | k + 1, n => UInt8.ofNat n :: littleEndian k (n / 256)

@[simp] theorem length_littleEndian (k n : ℕ) : (littleEndian k n).length = k := by
  induction k generalizing n with
  | zero => rfl
  | succ k ih => simp [littleEndian, ih]

theorem littleEndian_injective {k m n : ℕ} (hm : m < 256 ^ k) (hn : n < 256 ^ k)
    (h : littleEndian k m = littleEndian k n) : m = n := by
  induction k generalizing m n with
  | zero =>
    simp only [Nat.pow_zero] at hm hn
    omega
  | succ k ih =>
    simp only [littleEndian, List.cons.injEq] at h
    have hlow : m % 256 = n % 256 := by
      have := congrArg UInt8.toNat h.1
      simpa using this
    have hhigh : m / 256 = n / 256 := by
      apply ih _ _ h.2
      · exact Nat.div_lt_of_lt_mul (by rw [Nat.pow_succ] at hm; omega)
      · exact Nat.div_lt_of_lt_mul (by rw [Nat.pow_succ] at hn; omega)
    omega

def le64 (n : UInt64) : List UInt8 := littleEndian 8 n.toNat

def le32 (n : UInt32) : List UInt8 := littleEndian 4 n.toNat

@[simp] theorem length_le64 (n : UInt64) : (le64 n).length = 8 := length_littleEndian 8 _

@[simp] theorem length_le32 (n : UInt32) : (le32 n).length = 4 := length_littleEndian 4 _

theorem le64_injective {a b : UInt64} (h : le64 a = le64 b) : a = b := by
  apply UInt64.toNat.inj
  exact littleEndian_injective (by simpa using a.toNat_lt) (by simpa using b.toNat_lt) h

theorem le32_injective {a b : UInt32} (h : le32 a = le32 b) : a = b := by
  apply UInt32.toNat.inj
  exact littleEndian_injective (by simpa using a.toNat_lt) (by simpa using b.toNat_lt) h

/-- What an identifier is derived from. -/
inductive Preimage
  | transfer (clusterID : Uint128) (seq : UInt64) (ledgerID : UInt32)
  | allocation (tenantUUID : Uint128) (seqNo : UInt64) (ledgerID : UInt32)
  | gaugePending (tenantUUID : Uint128) (seqNo : UInt64) (clusterUUID : Uint128) (ledgerID : UInt32)
  | gaugeVoid (tenantUUID : Uint128) (seqNo : UInt64) (clusterUUID : Uint128) (ledgerID : UInt32)
  deriving DecidableEq

/-- The bytes of `alloc`. -/
def tagAlloc : List UInt8 := [97, 108, 108, 111, 99]

/-- The bytes of `gauge-pending`. -/
def tagGaugePending : List UInt8 := [103, 97, 117, 103, 101, 45, 112, 101, 110, 100, 105, 110, 103]

/-- The bytes of `gauge-void`. -/
def tagGaugeVoid : List UInt8 := [103, 97, 117, 103, 101, 45, 118, 111, 105, 100]

/-- The bytes written to the hash, in the order of the `Write` calls. -/
def Preimage.encode : Preimage → List UInt8
  | .transfer c s l => c.bytes ++ le64 s ++ le32 l
  | .allocation t s l => tagAlloc ++ t.bytes ++ le64 s ++ le32 l
  | .gaugePending t s c l => tagGaugePending ++ t.bytes ++ le64 s ++ c.bytes ++ le32 l
  | .gaugeVoid t s c l => tagGaugeVoid ++ t.bytes ++ le64 s ++ c.bytes ++ le32 l

theorem Preimage.length_encode (p : Preimage) :
    p.encode.length = match p with
      | .transfer .. => 28
      | .allocation .. => 33
      | .gaugePending .. => 57
      | .gaugeVoid .. => 54 := by
  cases p <;> simp [Preimage.encode, Uint128.length_eq, tagAlloc, tagGaugePending, tagGaugeVoid]

theorem length_bytes_eq (a b : Uint128) : a.bytes.length = b.bytes.length := by
  rw [a.length_eq, b.length_eq]

theorem fields_injective {c c' : Uint128} {s s' : UInt64} {l l' : UInt32}
    (h : c.bytes ++ le64 s ++ le32 l = c'.bytes ++ le64 s' ++ le32 l') :
    c = c' ∧ s = s' ∧ l = l' := by
  obtain ⟨h, hl⟩ := List.append_inj' h (by simp)
  obtain ⟨hc, hs⟩ := List.append_inj h (length_bytes_eq c c')
  exact ⟨Uint128.ext_bytes hc, le64_injective hs, le32_injective hl⟩

theorem gaugeFields_injective {t t' c c' : Uint128} {s s' : UInt64} {l l' : UInt32}
    (h : t.bytes ++ le64 s ++ c.bytes ++ le32 l = t'.bytes ++ le64 s' ++ c'.bytes ++ le32 l') :
    t = t' ∧ s = s' ∧ c = c' ∧ l = l' := by
  obtain ⟨h, hl⟩ := List.append_inj' h (by simp)
  obtain ⟨h, hc⟩ := List.append_inj' h (length_bytes_eq c c')
  obtain ⟨ht, hs⟩ := List.append_inj h (length_bytes_eq t t')
  exact ⟨Uint128.ext_bytes ht, le64_injective hs, Uint128.ext_bytes hc, le32_injective hl⟩

theorem Preimage.encode_injective : Function.Injective Preimage.encode := by
  intro p q h
  have hlen := congrArg List.length h
  rw [p.length_encode, q.length_encode] at hlen
  cases p <;> cases q <;> simp only [Nat.reduceEqDiff] at hlen
  all_goals simp only [encode, List.append_assoc, List.append_cancel_left_eq] at h
  case transfer.transfer c s l c' s' l' =>
    obtain ⟨rfl, rfl, rfl⟩ := fields_injective (by simpa using h)
    rfl
  case allocation.allocation t s l t' s' l' =>
    obtain ⟨rfl, rfl, rfl⟩ := fields_injective (by simpa using h)
    rfl
  case gaugePending.gaugePending t s c l t' s' c' l' =>
    obtain ⟨rfl, rfl, rfl, rfl⟩ := gaugeFields_injective (by simpa using h)
    rfl
  case gaugeVoid.gaugeVoid t s c l t' s' c' l' =>
    obtain ⟨rfl, rfl, rfl, rfl⟩ := gaugeFields_injective (by simpa using h)
    rfl

def bytesToUint128 (b : List UInt8) (h : 16 ≤ b.length) : Uint128 :=
  ⟨b.take 16, by simp [h]⟩

namespace Blake3

variable (h : Blake3)

/-- The first sixteen bytes of the digest of a preimage. -/
def derive (p : Preimage) : Uint128 :=
  bytesToUint128 (h.sum p.encode) (by rw [h.length_sum]; omega)

def deriveTransferID (clusterID : Uint128) (seq : UInt64) (ledgerID : UInt32) : Uint128 :=
  h.derive (.transfer clusterID seq ledgerID)

def deriveAllocationTransferID (tenantUUID : Uint128) (seqNo : UInt64) (ledgerID : UInt32) :
    Uint128 :=
  h.derive (.allocation tenantUUID seqNo ledgerID)

def deriveGaugePendingID (tenantUUID : Uint128) (seqNo : UInt64) (clusterUUID : Uint128)
    (ledgerID : UInt32) : Uint128 :=
  h.derive (.gaugePending tenantUUID seqNo clusterUUID ledgerID)

def deriveGaugeVoidID (tenantUUID : Uint128) (seqNo : UInt64) (clusterUUID : Uint128)
    (ledgerID : UInt32) : Uint128 :=
  h.derive (.gaugeVoid tenantUUID seqNo clusterUUID ledgerID)

/-- The identifier returned by the function that hashes `p`. -/
def identifier : Preimage → Uint128
  | .transfer c s l => h.deriveTransferID c s l
  | .allocation t s l => h.deriveAllocationTransferID t s l
  | .gaugePending t s c l => h.deriveGaugePendingID t s c l
  | .gaugeVoid t s c l => h.deriveGaugeVoidID t s c l

theorem identifier_eq_derive (p : Preimage) : h.identifier p = h.derive p := by
  cases p <;> rfl

/-- A hash that tells one byte string from all others. -/
def marking (b : List UInt8) : Blake3 where
  sum m := List.replicate 32 (if m = b then 1 else 0)
  length_sum _ := List.length_replicate

theorem encode_eq_of_marking {p q : Preimage}
    (he : (marking p.encode).derive p = (marking p.encode).derive q) : p.encode = q.encode := by
  by_contra hne
  have hbytes := congrArg Uint128.bytes he
  simp [derive, marking, bytesToUint128, Ne.symm hne] at hbytes

/-- The four functions hash one byte string only in calls of the same function with the same
arguments, so two different calls have one identifier only where the hash collides. Whatever
bytes a cluster identifier holds, the layout without a tag is none of the others. -/
theorem hashed_bytes_identify_call (p q : Preimage) :
    (p.encode = q.encode ↔ p = q) ∧
      ((∀ h : Blake3, h.identifier p = h.identifier q) ↔ p = q) := by
  have hbytes : p.encode = q.encode ↔ p = q := Preimage.encode_injective.eq_iff
  constructor
  · exact hbytes
  · constructor
    · intro hall
      have hmark := hall (marking p.encode)
      rw [identifier_eq_derive, identifier_eq_derive] at hmark
      exact hbytes.mp (encode_eq_of_marking hmark)
    · intro heq h
      rw [heq]

/-- The digest prefixes of the byte strings hashed for `S` are pairwise
different, and none of them is an identifier the ledger reserves. -/
structure CollisionFree (S : Set Preimage) : Prop where
  injective : ∀ p ∈ S, ∀ q ∈ S, h.derive p = h.derive q → p.encode = q.encode
  usable : ∀ p ∈ S, (h.derive p).usable = true

theorem CollisionFree.eq {h : Blake3} {S : Set Preimage} (hS : h.CollisionFree S) {p q : Preimage}
    (hp : p ∈ S) (hq : q ∈ S) (he : h.derive p = h.derive q) : p = q :=
  Preimage.encode_injective (hS.injective p hp q hq he)

theorem CollisionFree.mono {h : Blake3} {S T : Set Preimage} (hT : h.CollisionFree T) (hST : S ⊆ T) :
    h.CollisionFree S :=
  ⟨fun p hp q hq => hT.injective p (hST hp) q (hST hq), fun p hp => hT.usable p (hST hp)⟩

theorem CollisionFree.derive_ne_zero {h : Blake3} {S : Set Preimage} (hS : h.CollisionFree S)
    {p : Preimage} (hp : p ∈ S) : h.derive p ≠ 0 := by
  intro hzero
  have husable := hS.usable p hp
  rw [hzero] at husable
  cases husable

/-- A hash that can be evaluated: the message read as a number in base 257. -/
def positional : Blake3 where
  sum m := littleEndian 32 (m.foldl (fun n b => n * 257 + b.toNat + 1) 0)
  length_sum _ := length_littleEndian 32 _

end Blake3
end CloudCredit.Ledger
