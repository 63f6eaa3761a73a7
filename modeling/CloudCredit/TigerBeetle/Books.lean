import Mathlib.Tactic
import Mathlib.Algebra.BigOperators.Group.List.Basic

/-!
# Double-entry books with two-phase transfers

Accounts, transfers and the books they are kept in. A regular transfer moves
its amount at once; a pending transfer only reserves it, and a void transfer
releases the reservation it names. The books keep the four balance columns of
every account next to the list of committed transfers, newest first, and the
identifiers of events that failed for a reason that may go away.

`Books.Wf` ties the columns to the transfers. Conservation and the hard limit
are read off it at the end of the module.
-/
namespace CloudCredit.TigerBeetle

/-- A 128-bit value as the sixteen bytes the client library exchanges. -/
structure Uint128 where
  bytes : List UInt8
  length_eq : bytes.length = 16
  deriving DecidableEq

namespace Uint128

instance : Zero Uint128 := ⟨⟨List.replicate 16 0, by simp⟩⟩

def intMax : Uint128 := ⟨List.replicate 16 255, by simp⟩

/-- Neither of the two identifiers the ledger reserves. -/
def usable (i : Uint128) : Bool := i ≠ 0 && i ≠ intMax

theorem ext_bytes {a b : Uint128} (h : a.bytes = b.bytes) : a = b := by
  cases a
  cases b
  simpa using h

end Uint128

structure AccountFlags where
  debitsMustNotExceedCredits : Bool := false
  history : Bool := false
  deriving DecidableEq

/-- The fields of an account that never change. -/
structure Account where
  id : Uint128
  ledger : UInt32
  code : UInt16
  flags : AccountFlags := {}
  userData128 : Uint128 := 0
  deriving DecidableEq

structure Balance where
  debitsPending : ℕ := 0
  debitsPosted : ℕ := 0
  creditsPending : ℕ := 0
  creditsPosted : ℕ := 0
  deriving DecidableEq

structure TransferFlags where
  pending : Bool := false
  voidPendingTransfer : Bool := false
  deriving DecidableEq

structure Transfer where
  id : Uint128
  debitAccountID : Uint128
  creditAccountID : Uint128
  amount : ℕ
  pendingID : Uint128 := 0
  userData128 : Uint128 := 0
  userData64 : UInt64 := 0
  ledger : UInt32
  code : UInt16
  flags : TransferFlags := {}
  deriving DecidableEq

/-- A transfer that moves its amount at once. -/
def Transfer.posts (t : Transfer) : Bool := !t.flags.pending && !t.flags.voidPendingTransfer

structure Books where
  accounts : List Account := []
  balance : Uint128 → Balance := fun _ => {}
  transfers : List Transfer := []
  failed : List Uint128 := []

namespace Books

def account? (L : Books) (i : Uint128) : Option Account := L.accounts.find? (·.id = i)

def transfer? (L : Books) (i : Uint128) : Option Transfer := L.transfers.find? (·.id = i)

/-- Some committed transfer voids the reservation `i`. -/
def isVoided (L : Books) (i : Uint128) : Bool :=
  L.transfers.any fun v => v.flags.voidPendingTransfer && v.pendingID = i

/-- The reservations that are neither voided nor posted. -/
def live (L : Books) : List Transfer :=
  L.transfers.filter fun p => p.flags.pending && !L.isVoided p.id

/-- Open an account. Its balance columns start at zero. -/
def openAccount (L : Books) (a : Account) : Books := { L with accounts := L.accounts ++ [a] }

/-- Remember an identifier whose event failed for a transient reason. -/
def fail (L : Books) (i : Uint128) : Books := { L with failed := i :: L.failed }

/-- Commit a regular transfer. -/
def post (L : Books) (t : Transfer) : Books :=
  { L with
    transfers := t :: L.transfers
    balance := fun a =>
      { L.balance a with
        debitsPosted := (L.balance a).debitsPosted + if t.debitAccountID = a then t.amount else 0
        creditsPosted :=
          (L.balance a).creditsPosted + if t.creditAccountID = a then t.amount else 0 } }

/-- Commit a pending transfer. -/
def reserve (L : Books) (t : Transfer) : Books :=
  { L with
    transfers := t :: L.transfers
    balance := fun a =>
      { L.balance a with
        debitsPending := (L.balance a).debitsPending + if t.debitAccountID = a then t.amount else 0
        creditsPending :=
          (L.balance a).creditsPending + if t.creditAccountID = a then t.amount else 0 } }

/-- Commit the void `v` of the reservation `p`. -/
def release (L : Books) (v p : Transfer) : Books :=
  { L with
    transfers := v :: L.transfers
    balance := fun a =>
      { L.balance a with
        debitsPending := (L.balance a).debitsPending - if p.debitAccountID = a then p.amount else 0
        creditsPending :=
          (L.balance a).creditsPending - if p.creditAccountID = a then p.amount else 0 } }

end Books

/-- The sum of the amounts of the transfers selected by `p`. -/
def total (p : Transfer → Bool) (ts : List Transfer) : ℕ := ((ts.filter p).map (·.amount)).sum

@[simp] theorem total_nil (p : Transfer → Bool) : total p [] = 0 := rfl

@[simp] theorem total_cons (p : Transfer → Bool) (t : Transfer) (ts : List Transfer) :
    total p (t :: ts) = (if p t then t.amount else 0) + total p ts := by
  by_cases h : p t <;> simp [total, h]

theorem total_append (p : Transfer → Bool) (ts ts' : List Transfer) :
    total p (ts ++ ts') = total p ts + total p ts' := by
  simp [total]

theorem total_perm (p : Transfer → Bool) {ts ts' : List Transfer} (h : ts.Perm ts') :
    total p ts = total p ts' :=
  ((h.filter p).map _).sum_eq

theorem total_filter_ne {ts : List Transfer} (hn : (ts.map (·.id)).Nodup) {x : Transfer}
    (hx : x ∈ ts) (p : Transfer → Bool) :
    total p ts = total p (ts.filter (·.id ≠ x.id)) + if p x then x.amount else 0 := by
  induction ts with
  | nil => simp at hx
  | cons t ts ih =>
    simp only [List.map_cons, List.nodup_cons] at hn
    rcases List.mem_cons.mp hx with rfl | hx
    · have hrest : ts.filter (·.id ≠ x.id) = ts := by
        rw [List.filter_eq_self]
        intro t ht
        have : t.id ≠ x.id := fun he => hn.1 (he ▸ List.mem_map_of_mem ht)
        simpa using this
      rw [List.filter_cons_of_neg (by simp), hrest, total_cons]
      omega
    · have hne : t.id ≠ x.id := fun he => hn.1 (he ▸ List.mem_map_of_mem hx)
      rw [List.filter_cons_of_pos (by simpa using hne), total_cons, total_cons, ih hn.2 hx]
      omega

namespace Books

/-- Both ends of `t` are open accounts of its ledger, and they differ. -/
def Ends (L : Books) (t : Transfer) : Prop :=
  t.debitAccountID ≠ t.creditAccountID ∧
    (∃ a ∈ L.accounts, a.id = t.debitAccountID ∧ a.ledger = t.ledger) ∧
    ∃ a ∈ L.accounts, a.id = t.creditAccountID ∧ a.ledger = t.ledger

/-- Invariant of the books: unique identifiers, every transfer between two
different accounts of its own ledger, every void naming a reservation that no
other void names, and balance columns that are the sums they claim to be. -/
structure Wf (L : Books) : Prop where
  accounts_nodup : (L.accounts.map (·.id)).Nodup
  accounts_usable : ∀ a ∈ L.accounts, a.id.usable = true
  transfers_nodup : (L.transfers.map (·.id)).Nodup
  failed_fresh : ∀ t ∈ L.transfers, t.id ∉ L.failed
  ends : ∀ t ∈ L.transfers, L.Ends t
  pending_not_void : ∀ t ∈ L.transfers, t.flags.pending = true → t.flags.voidPendingTransfer = false
  voids : ∀ v ∈ L.transfers, v.flags.voidPendingTransfer = true →
    ∃ p ∈ L.transfers, p.id = v.pendingID ∧ p.flags.pending = true
  voids_once : ∀ v ∈ L.transfers, ∀ w ∈ L.transfers, v.flags.voidPendingTransfer = true →
    w.flags.voidPendingTransfer = true → v.pendingID = w.pendingID → v.id = w.id
  debitsPosted_eq : ∀ a, (L.balance a).debitsPosted =
    total (fun t => t.posts && t.debitAccountID = a) L.transfers
  creditsPosted_eq : ∀ a, (L.balance a).creditsPosted =
    total (fun t => t.posts && t.creditAccountID = a) L.transfers
  debitsPending_eq : ∀ a, (L.balance a).debitsPending =
    total (fun t => t.debitAccountID = a) L.live
  creditsPending_eq : ∀ a, (L.balance a).creditsPending =
    total (fun t => t.creditAccountID = a) L.live
  limit : ∀ a ∈ L.accounts, a.flags.debitsMustNotExceedCredits = true →
    (L.balance a.id).debitsPosted + (L.balance a.id).debitsPending ≤ (L.balance a.id).creditsPosted

theorem Wf.empty : Wf {} := by
  constructor <;> simp [live]

theorem transfer?_some {L : Books} {i : Uint128} {t : Transfer} (h : L.transfer? i = some t) :
    t ∈ L.transfers ∧ t.id = i :=
  ⟨List.mem_of_find?_eq_some h, by simpa using List.find?_some h⟩

theorem transfer?_none {L : Books} {i : Uint128} :
    L.transfer? i = none ↔ ∀ t ∈ L.transfers, t.id ≠ i := by
  simp [transfer?]

theorem account?_some {L : Books} {i : Uint128} {a : Account} (h : L.account? i = some a) :
    a ∈ L.accounts ∧ a.id = i :=
  ⟨List.mem_of_find?_eq_some h, by simpa using List.find?_some h⟩

theorem account?_none {L : Books} {i : Uint128} :
    L.account? i = none ↔ ∀ a ∈ L.accounts, a.id ≠ i := by
  simp [account?]

theorem Wf.transfer?_eq {L : Books} (h : L.Wf) {t : Transfer} (ht : t ∈ L.transfers) :
    L.transfer? t.id = some t := by
  cases hf : L.transfer? t.id with
  | none => exact absurd rfl (transfer?_none.mp hf t ht)
  | some e =>
    obtain ⟨he, hid⟩ := transfer?_some hf
    rw [List.inj_on_of_nodup_map h.transfers_nodup he ht hid]

theorem Wf.account?_eq {L : Books} (h : L.Wf) {a : Account} (ha : a ∈ L.accounts) :
    L.account? a.id = some a := by
  cases hf : L.account? a.id with
  | none => exact absurd rfl (account?_none.mp hf a ha)
  | some e =>
    obtain ⟨he, hid⟩ := account?_some hf
    rw [List.inj_on_of_nodup_map h.accounts_nodup he ha hid]

theorem Wf.account_ne_zero {L : Books} (h : L.Wf) {a : Account} (ha : a ∈ L.accounts) :
    a.id ≠ 0 := by
  intro hzero
  have husable := h.accounts_usable a ha
  rw [hzero] at husable
  cases husable

theorem mem_live {L : Books} {p : Transfer} :
    p ∈ L.live ↔ p ∈ L.transfers ∧ p.flags.pending = true ∧ L.isVoided p.id = false := by
  simp [live]

theorem Wf.live_nodup {L : Books} (h : L.Wf) : (L.live.map (·.id)).Nodup :=
  h.transfers_nodup.sublist (List.filter_sublist.map _)

theorem Wf.isVoided_fresh {L : Books} (h : L.Wf) {i : Uint128} (hi : L.transfer? i = none) :
    L.isVoided i = false := by
  rw [isVoided, List.any_eq_false]
  intro v hv hcon
  simp only [Bool.and_eq_true, decide_eq_true_eq] at hcon
  obtain ⟨p, hp, hid, -⟩ := h.voids v hv hcon.1
  exact transfer?_none.mp hi p hp (hid.trans hcon.2)

section Preservation

variable {L : Books} {t v p : Transfer}

/-- A new debit of `t` keeps every limited account within its credits. -/
def WithinLimit (L : Books) (t : Transfer) : Prop :=
  ∀ a ∈ L.accounts, a.id = t.debitAccountID → a.flags.debitsMustNotExceedCredits = true →
    (L.balance a.id).debitsPosted + (L.balance a.id).debitsPending + t.amount ≤
      (L.balance a.id).creditsPosted

theorem live_post (ht : t.posts = true) : (L.post t).live = L.live := by
  simp only [Transfer.posts, Bool.and_eq_true, Bool.not_eq_true'] at ht
  simp [live, isVoided, post, ht.1, ht.2]

theorem live_reserve (h : L.Wf) (hf : L.transfer? t.id = none) (hp : t.flags.pending = true)
    (hv : t.flags.voidPendingTransfer = false) : (L.reserve t).live = t :: L.live := by
  have hi := h.isVoided_fresh hf
  simp only [isVoided] at hi
  simp [live, isVoided, reserve, hp, hv, hi]

theorem live_release (hv : v.flags.voidPendingTransfer = true) (hn : v.flags.pending = false)
    (hid : v.pendingID = p.id) : (L.release v p).live = L.live.filter (·.id ≠ p.id) := by
  simp only [live, release, isVoided, List.filter_filter, List.filter_cons, hn, Bool.false_and,
    Bool.false_eq_true, if_false, List.any_cons, hv, hid, Bool.true_and]
  apply List.filter_congr
  intro q _
  by_cases hq : q.id = p.id
  · simp [hq]
  · simp [hq, Ne.symm hq]

theorem Wf.openAccount (h : L.Wf) {a : Account} (hf : L.account? a.id = none)
    (hu : a.id.usable = true) : (L.openAccount a).Wf := by
  have hfresh := account?_none.mp hf
  have hunused : ∀ t ∈ L.transfers, t.debitAccountID ≠ a.id ∧ t.creditAccountID ≠ a.id := by
    intro t ht
    obtain ⟨-, ⟨d, hd, hde, -⟩, c, hc, hce, -⟩ := h.ends t ht
    exact ⟨hde ▸ hfresh d hd, hce ▸ hfresh c hc⟩
  have hzero : ∀ q : Transfer → Bool, (∀ t ∈ L.transfers, q t = false) →
      ∀ ts, (∀ t ∈ ts, t ∈ L.transfers) → total q ts = 0 := by
    intro q hq ts hts
    have : ts.filter q = [] := List.filter_eq_nil_iff.mpr fun t ht => by simp [hq t (hts t ht)]
    rw [total, this]
    rfl
  have hposted : (L.balance a.id).debitsPosted = 0 := by
    rw [h.debitsPosted_eq]
    exact hzero _ (fun t ht => by simp [(hunused t ht).1]) _ fun _ ht => ht
  have hpending : (L.balance a.id).debitsPending = 0 := by
    rw [h.debitsPending_eq]
    exact hzero _ (fun t ht => by simp [(hunused t ht).1]) _ fun _ ht => (mem_live.mp ht).1
  refine ⟨?_, ?_, h.transfers_nodup, h.failed_fresh, ?_, h.pending_not_void, h.voids, h.voids_once,
    h.debitsPosted_eq, h.creditsPosted_eq, h.debitsPending_eq, h.creditsPending_eq, ?_⟩
  · simp only [Books.openAccount, List.map_append, List.map_cons, List.map_nil]
    refine List.nodup_append.mpr ⟨h.accounts_nodup, by simp, ?_⟩
    intro i hi j hj hij
    obtain ⟨b, hb, rfl⟩ := List.mem_map.mp hi
    exact hfresh b hb (hij.trans (by simpa using hj))
  · intro b hb
    rcases List.mem_append.mp hb with hb | hb
    · exact h.accounts_usable b hb
    · rw [List.mem_singleton.mp hb]
      exact hu
  · intro t ht
    obtain ⟨hne, ⟨d, hd, hd'⟩, c, hc, hc'⟩ := h.ends t ht
    exact ⟨hne, ⟨d, List.mem_append_left _ hd, hd'⟩, c, List.mem_append_left _ hc, hc'⟩
  · intro b hb hflag
    rcases List.mem_append.mp hb with hb | hb
    · exact h.limit b hb hflag
    · rw [List.mem_singleton.mp hb]
      show (L.balance a.id).debitsPosted + (L.balance a.id).debitsPending ≤ _
      omega

theorem Wf.fail (h : L.Wf) {i : Uint128} (hf : L.transfer? i = none) : (L.fail i).Wf := by
  refine { h with failed_fresh := ?_ }
  intro t ht hmem
  rcases List.mem_cons.mp hmem with he | hmem
  · exact transfer?_none.mp hf t ht he
  · exact h.failed_fresh t ht hmem

theorem nodup_cons_of_fresh (h : L.Wf) (hf : L.transfer? t.id = none) :
    ((t :: L.transfers).map (·.id)).Nodup := by
  simp only [List.map_cons, List.nodup_cons]
  refine ⟨fun hm => ?_, h.transfers_nodup⟩
  obtain ⟨s, hs, he⟩ := List.mem_map.mp hm
  exact transfer?_none.mp hf s hs he

theorem voids_cons (h : L.Wf)
    (ht : t.flags.voidPendingTransfer = true →
      ∃ p ∈ L.transfers, p.id = t.pendingID ∧ p.flags.pending = true) :
    ∀ v ∈ t :: L.transfers, v.flags.voidPendingTransfer = true →
      ∃ p ∈ t :: L.transfers, p.id = v.pendingID ∧ p.flags.pending = true := by
  intro v hv hvoid
  rcases List.mem_cons.mp hv with rfl | hv
  · obtain ⟨p, hp, hp'⟩ := ht hvoid
    exact ⟨p, List.mem_cons_of_mem _ hp, hp'⟩
  · obtain ⟨p, hp, hp'⟩ := h.voids v hv hvoid
    exact ⟨p, List.mem_cons_of_mem _ hp, hp'⟩

theorem voids_once_cons (h : L.Wf)
    (ht : t.flags.voidPendingTransfer = true → L.isVoided t.pendingID = false) :
    ∀ v ∈ t :: L.transfers, ∀ w ∈ t :: L.transfers, v.flags.voidPendingTransfer = true →
      w.flags.voidPendingTransfer = true → v.pendingID = w.pendingID → v.id = w.id := by
  have hother : ∀ w ∈ L.transfers, t.flags.voidPendingTransfer = true →
      w.flags.voidPendingTransfer = true → t.pendingID ≠ w.pendingID := by
    intro w hw htv hwv he
    have hno := List.any_eq_false.mp (ht htv) w hw
    simp [hwv, he] at hno
  intro v hv w hw hvv hwv he
  rcases List.mem_cons.mp hv with hvt | hvL <;> rcases List.mem_cons.mp hw with hwt | hwL
  · rw [hvt, hwt]
  · subst hvt
    exact absurd he (hother w hwL hvv hwv)
  · subst hwt
    exact absurd he.symm (hother v hvL hwv hvv)
  · exact h.voids_once v hvL w hwL hvv hwv he

theorem Wf.post (h : L.Wf) (hf : L.transfer? t.id = none) (hnf : t.id ∉ L.failed)
    (he : L.Ends t) (ht : t.posts = true) (hl : L.WithinLimit t) : (L.post t).Wf := by
  have hflags : t.flags.pending = false ∧ t.flags.voidPendingTransfer = false := by
    simpa [Transfer.posts] using ht
  refine ⟨h.accounts_nodup, h.accounts_usable, nodup_cons_of_fresh h hf, ?_, ?_, ?_,
    voids_cons h (by simp [hflags.2]), voids_once_cons h (by simp [hflags.2]), ?_, ?_, ?_, ?_, ?_⟩
  · exact List.forall_mem_cons.mpr ⟨hnf, h.failed_fresh⟩
  · exact List.forall_mem_cons.mpr ⟨he, h.ends⟩
  · exact List.forall_mem_cons.mpr ⟨by simp [hflags.1], h.pending_not_void⟩
  · intro a
    simp [Books.post, ht, h.debitsPosted_eq, Nat.add_comm]
  · intro a
    simp [Books.post, ht, h.creditsPosted_eq, Nat.add_comm]
  · intro a
    rw [live_post ht]
    exact h.debitsPending_eq a
  · intro a
    rw [live_post ht]
    exact h.creditsPending_eq a
  · intro a ha hflag
    have hold := h.limit a ha hflag
    have hnew := hl a ha
    simp only [Books.post]
    by_cases hd : t.debitAccountID = a.id
    · have := hnew hd.symm hflag
      have hc : t.creditAccountID ≠ a.id := fun hc => he.1 (hd.trans hc.symm)
      simp only [hd, hc, if_true, if_false]
      omega
    · simp only [hd, if_false]
      omega

theorem Wf.reserve (h : L.Wf) (hf : L.transfer? t.id = none) (hnf : t.id ∉ L.failed)
    (he : L.Ends t) (hp : t.flags.pending = true) (hv : t.flags.voidPendingTransfer = false)
    (hl : L.WithinLimit t) : (L.reserve t).Wf := by
  have hlive := live_reserve h hf hp hv
  have hpost : t.posts = false := by simp [Transfer.posts, hp]
  refine ⟨h.accounts_nodup, h.accounts_usable, nodup_cons_of_fresh h hf, ?_, ?_, ?_,
    voids_cons h (by simp [hv]), voids_once_cons h (by simp [hv]), ?_, ?_, ?_, ?_, ?_⟩
  · exact List.forall_mem_cons.mpr ⟨hnf, h.failed_fresh⟩
  · exact List.forall_mem_cons.mpr ⟨he, h.ends⟩
  · exact List.forall_mem_cons.mpr ⟨fun _ => hv, h.pending_not_void⟩
  · intro a
    simp [Books.reserve, hpost, h.debitsPosted_eq]
  · intro a
    simp [Books.reserve, hpost, h.creditsPosted_eq]
  · intro a
    rw [hlive]
    simp [Books.reserve, h.debitsPending_eq, Nat.add_comm]
  · intro a
    rw [hlive]
    simp [Books.reserve, h.creditsPending_eq, Nat.add_comm]
  · intro a ha hflag
    have hold := h.limit a ha hflag
    have hnew := hl a ha
    simp only [Books.reserve]
    by_cases hd : t.debitAccountID = a.id
    · have := hnew hd.symm hflag
      simp only [hd, if_true]
      omega
    · simp only [hd, if_false]
      omega

theorem Wf.release (h : L.Wf) (hf : L.transfer? v.id = none) (hnf : v.id ∉ L.failed)
    (he : L.Ends v) (hv : v.flags.voidPendingTransfer = true) (hn : v.flags.pending = false)
    (hid : v.pendingID = p.id) (hp : p ∈ L.live) : (L.release v p).Wf := by
  have hlive := live_release (L := L) hv hn hid
  have hpost : v.posts = false := by simp [Transfer.posts, hv]
  have hmem := mem_live.mp hp
  have hsum := total_filter_ne h.live_nodup hp
  refine ⟨h.accounts_nodup, h.accounts_usable, nodup_cons_of_fresh h hf, ?_, ?_, ?_,
    voids_cons h fun _ => ⟨p, hmem.1, hid.symm, hmem.2.1⟩,
    voids_once_cons h fun _ => hid ▸ hmem.2.2, ?_, ?_, ?_, ?_, ?_⟩
  · exact List.forall_mem_cons.mpr ⟨hnf, h.failed_fresh⟩
  · exact List.forall_mem_cons.mpr ⟨he, h.ends⟩
  · exact List.forall_mem_cons.mpr ⟨by simp [hn], h.pending_not_void⟩
  · intro a
    simp [Books.release, hpost, h.debitsPosted_eq]
  · intro a
    simp [Books.release, hpost, h.creditsPosted_eq]
  · intro a
    have := hsum (fun t => t.debitAccountID = a)
    rw [hlive]
    simp only [Books.release, h.debitsPending_eq, decide_eq_true_eq] at this ⊢
    omega
  · intro a
    have := hsum (fun t => t.creditAccountID = a)
    rw [hlive]
    simp only [Books.release, h.creditsPending_eq, decide_eq_true_eq] at this ⊢
    omega
  · intro a ha hflag
    have hold := h.limit a ha hflag
    simp only [Books.release]
    omega

end Preservation

/-- The sum of one balance column over the accounts of a ledger. -/
def column (L : Books) (f : Balance → ℕ) (l : UInt32) : ℕ :=
  ((L.accounts.filter (·.ledger = l)).map fun a => f (L.balance a.id)).sum

theorem sum_indicator {as : List Account} (hn : (as.map (·.id)).Nodup) {a : Account} (ha : a ∈ as)
    (l : UInt32) (n : ℕ) :
    ((as.filter (·.ledger = l)).map fun b => if a.id = b.id then n else 0).sum =
      if a.ledger = l then n else 0 := by
  induction as with
  | nil => simp at ha
  | cons b bs ih =>
    simp only [List.map_cons, List.nodup_cons] at hn
    rcases List.mem_cons.mp ha with rfl | ha
    · have hrest : ((bs.filter (·.ledger = l)).map fun b => if a.id = b.id then n else 0).sum = 0 := by
        apply List.sum_eq_zero
        intro x hx
        obtain ⟨b, hb, rfl⟩ := List.mem_map.mp hx
        have : a.id ≠ b.id := fun he =>
          hn.1 (he ▸ List.mem_map_of_mem (List.mem_of_mem_filter hb))
        simp [this]
      by_cases hl : a.ledger = l <;> simp [hl, hrest]
    · have hne : a.id ≠ b.id := fun he => hn.1 (he ▸ List.mem_map_of_mem ha)
      by_cases hl : b.ledger = l <;> simp [hl, hne, ih hn.2 ha]

theorem sum_ends {as : List Account} (hn : (as.map (·.id)).Nodup) (q : Transfer → Bool)
    (side : Transfer → Uint128) (ts : List Transfer)
    (hends : ∀ t ∈ ts, ∃ a ∈ as, a.id = side t ∧ a.ledger = t.ledger) (l : UInt32) :
    ((as.filter (·.ledger = l)).map fun a => total (fun t => q t && side t = a.id) ts).sum =
      total (fun t => q t && t.ledger = l) ts := by
  induction ts with
  | nil => simp
  | cons t ts ih =>
    obtain ⟨a, ha, hid, hled⟩ := hends t List.mem_cons_self
    have hrest := ih fun s hs => hends s (List.mem_cons_of_mem _ hs)
    have hone := sum_indicator hn ha l t.amount
    simp only [total_cons, List.sum_map_add, hrest]
    rw [← hid, ← hled]
    by_cases hq : q t <;> simp [hq, hone]

theorem Wf.column_debitsPosted {L : Books} (h : L.Wf) (l : UInt32) :
    L.column (·.debitsPosted) l = total (fun t => t.posts && t.ledger = l) L.transfers := by
  simp only [column, h.debitsPosted_eq]
  exact sum_ends h.accounts_nodup _ (·.debitAccountID) _ (fun t ht => (h.ends t ht).2.1) l

theorem Wf.column_creditsPosted {L : Books} (h : L.Wf) (l : UInt32) :
    L.column (·.creditsPosted) l = total (fun t => t.posts && t.ledger = l) L.transfers := by
  simp only [column, h.creditsPosted_eq]
  exact sum_ends h.accounts_nodup _ (·.creditAccountID) _ (fun t ht => (h.ends t ht).2.2) l

theorem Wf.posted_balanced {L : Books} (h : L.Wf) (l : UInt32) :
    L.column (·.debitsPosted) l = L.column (·.creditsPosted) l := by
  rw [h.column_debitsPosted, h.column_creditsPosted]

theorem Wf.pending_balanced {L : Books} (h : L.Wf) (l : UInt32) :
    L.column (·.debitsPending) l = L.column (·.creditsPending) l := by
  have hd := sum_ends h.accounts_nodup (fun _ => true) (·.debitAccountID) L.live
    (fun t ht => (h.ends t (mem_live.mp ht).1).2.1) l
  have hc := sum_ends h.accounts_nodup (fun _ => true) (·.creditAccountID) L.live
    (fun t ht => (h.ends t (mem_live.mp ht).1).2.2) l
  simp only [Bool.true_and] at hd hc
  simp only [column, h.debitsPending_eq, h.creditsPending_eq, hd, hc]

end Books
end CloudCredit.TigerBeetle
