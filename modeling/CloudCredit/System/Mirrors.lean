import CloudCredit.System.FirstLoads
import CloudCredit.System.LiveReservations
import CloudCredit.TigerBeetle.Parts

/-!
# The books as one tenant sees them

What a tenant has written, with the global accounts and its own, is a part of the books.
Identifiers tell tenants apart, and a committed transfer that touches an account of the
tenant was submitted by the tenant, so the part is closed. A transfer of the tenant is
answered on its part as on the whole books, and those of the others leave the part alone.
-/
namespace CloudCredit.System

open Library TigerBeetle Domain Ledger Accounting

/-- The accounts a tenant uses: the global ones and its own. -/
def keptAccount (u : Uint128) (a : Account) : Bool :=
  !a.flags.debitsMustNotExceedCredits || a.userData128 = u

@[simp] theorem keptAccount_global (u : Uint128) (k : ResourceType × AccountType) (i : Uint128) :
    keptAccount u (globalAccount k i) = true := rfl

@[simp] theorem keptAccount_quota (u v : Uint128) (r : ResourceType) (i : Uint128) :
    keptAccount u (quotaAccount v r i) = decide (v = u) := rfl

/-- The decisions about a tenant's transfers. -/
def ownEntries (u : Uint128) (J : List (Entry Source)) : List (Entry Source) :=
  J.filter (·.origin.tenant = u)

/-- The tenant has submitted a transfer under the identifier. -/
def ownID (u : Uint128) (J : List (Entry Source)) (i : Uint128) : Bool :=
  (ownEntries u J).any (·.transfer.id = i)

/-- Identifiers tell tenants apart. -/
def Separate (J : List (Entry Source)) : Prop :=
  ∀ x ∈ J, ∀ y ∈ J, x.transfer.id = y.transfer.id → x.origin.tenant = y.origin.tenant

section Entries

variable {u : Uint128} {J J' : List (Entry Source)} {i : Uint128} {x : Entry Source}

theorem ownID_iff : ownID u J i = true ↔
    ∃ x ∈ J, x.origin.tenant = u ∧ x.transfer.id = i := by
  simp [ownID, ownEntries]

theorem ownEntries_cons_own (hx : x.origin.tenant = u) :
    ownEntries u (x :: J) = x :: ownEntries u J := by
  simp [ownEntries, hx]

theorem ownEntries_cons_other (hx : x.origin.tenant ≠ u) :
    ownEntries u (x :: J) = ownEntries u J := by
  simp [ownEntries, hx]

theorem ownID_mono (hi : ownID u J i = true) : ownID u (x :: J) i = true := by
  obtain ⟨y, hy, hyu, hyi⟩ := ownID_iff.mp hi
  exact ownID_iff.mpr ⟨y, List.mem_cons_of_mem _ hy, hyu, hyi⟩

theorem Separate.mono (hs : Separate J') (hJ : J ⊆ J') : Separate J :=
  fun x hx y hy => hs x (hJ hx) y (hJ hy)

theorem Separate.ownID_cons (hs : Separate (x :: J)) (hi : ∃ y ∈ J, y.transfer.id = i) :
    ownID u (x :: J) i = ownID u J i := by
  obtain ⟨y, hy, hyi⟩ := hi
  rw [Bool.eq_iff_iff, ownID_iff, ownID_iff]
  constructor
  · rintro ⟨z, hz, hzu, hzi⟩
    have htenant := hs y (List.mem_cons_of_mem _ hy) z hz (hyi.trans hzi.symm)
    exact ⟨y, hy, htenant.trans hzu, hyi⟩
  · rintro ⟨z, hz, hzu, hzi⟩
    exact ⟨z, List.mem_cons_of_mem _ hz, hzu, hzi⟩

end Entries

/-- A transfer of a tenant goes from its account to a sink, or from an operator to its
account. -/
theorem Own.ends {h : Blake3} {p : Provisioning} {x : Source} {tr : Transfer}
    (hown : Own h p x tr) : ∃ r,
      (p.accountIDs r = some tr.debitAccountID ∧
        p.input.globalSinkIDs r = some tr.creditAccountID) ∨
      (p.input.globalOperatorIDs r = some tr.debitAccountID ∧
        p.accountIDs r = some tr.creditAccountID) := by
  cases hown with
  | usage hg hquota hsink => exact ⟨_, .inl ⟨hquota, hsink⟩⟩
  | gaugeNew hid hg hquota hsink => exact ⟨_, .inl ⟨hquota, hsink⟩⟩
  | gaugeVoid hid hg hquota hsink => exact ⟨_, .inl ⟨hquota, hsink⟩⟩
  | provision hid hcredits hquota hoperator => exact ⟨_, .inr ⟨hoperator, hquota⟩⟩
  | credit hid hquota hoperator => exact ⟨_, .inr ⟨hoperator, hquota⟩⟩

namespace State

variable {h : Blake3} {tb : Service} {s s' : State} {u v i : Uint128} {t : Tenant}
  {r : ResourceType}

theorem Sound.own_ends (hs : s.Sound h) (hv : s.tenants v = some t) {x : Source} {tr : Transfer}
    (hown : Own h t.provisioning x tr) : ∃ r,
      (s.books.account? tr.debitAccountID = some (quotaAccount v r tr.debitAccountID) ∧
        s.books.account? tr.creditAccountID = some (globalAccount (r, .sink) tr.creditAccountID)) ∨
      (s.books.account? tr.debitAccountID =
          some (globalAccount (r, .operator) tr.debitAccountID) ∧
        s.books.account? tr.creditAccountID = some (quotaAccount v r tr.creditAccountID)) := by
  obtain ⟨r, ⟨hquota, hsink⟩ | ⟨hoperator, hquota⟩⟩ := hown.ends
  · exact ⟨r, .inl ⟨hs.quota_open hv hquota, hs.sink_open hv hsink⟩⟩
  · exact ⟨r, .inr ⟨hs.operator_open hv hoperator, hs.quota_open hv hquota⟩⟩

theorem Sound.own_touches (hs : s.Sound h) (hv : s.tenants v = some t) {x : Source} {tr : Transfer}
    (hown : Own h t.provisioning x tr) (hi : s.books.account? i = some (quotaAccount u r i))
    (htouch : tr.debitAccountID = i ∨ tr.creditAccountID = i) : v = u := by
  have hquota : ∀ {q}, s.books.account? i = some (quotaAccount v q i) → v = u := by
    intro q hq
    rw [hi] at hq
    exact (quotaAccount_inj (Option.some.inj hq)).1.symm
  have hglobal : ∀ {k : ResourceType × AccountType}, k.2 ≠ .tenantQuota →
      s.books.account? i = some (globalAccount k i) → v = u := by
    intro k hk hq
    rw [hi] at hq
    exact absurd (Option.some.inj hq).symm (globalAccount_ne_quotaAccount hk _ _ _)
  obtain ⟨q, ⟨hd, hc⟩ | ⟨hd, hc⟩⟩ := hs.own_ends hv hown
  · rcases htouch with rfl | rfl
    · exact hquota hd
    · exact hglobal (by simp) hc
  · rcases htouch with rfl | rfl
    · exact hglobal (by simp) hd
    · exact hquota hc

theorem Sound.committed_ends (hs : s.Sound h) (hfill : Filled s.books s.journal) {e : Transfer}
    (he : e ∈ s.books.transfers) : ∃ x ∈ s.journal, x.transfer.id = e.id ∧
      x.transfer.debitAccountID = e.debitAccountID ∧
      x.transfer.creditAccountID = e.creditAccountID := by
  obtain ⟨x, hx, -, hid, hflags, -, hsame⟩ := hs.recorded.find he
  by_cases hv : e.flags.voidPendingTransfer = true
  · obtain ⟨y, hy, hyid, p, -, -, rfl⟩ := hfill e he hv
    obtain ⟨t, ht, hown⟩ := hs.journal y hy
    obtain ⟨q, hends⟩ := hs.own_ends ht hown
    have hne : y.transfer.debitAccountID ≠ 0 ∧ y.transfer.creditAccountID ≠ 0 := by
      rcases hends with ⟨hd, hc⟩ | ⟨hd, hc⟩
      · exact ⟨hs.account_ne_zero hd, hs.account_ne_zero hc⟩
      · exact ⟨hs.account_ne_zero hd, hs.account_ne_zero hc⟩
    exact ⟨y, hy, hyid, by simp [Transfer.fill, hne.1], by simp [Transfer.fill, hne.2]⟩
  · rw [hflags, Bool.not_eq_true] at hv
    rw [hsame hv]
    exact ⟨x, hx, rfl, rfl, rfl⟩

theorem Sound.ownID_of_touch (hs : s.Sound h) (hfill : Filled s.books s.journal)
    (hi : s.books.account? i = some (quotaAccount u r i)) {e : Transfer}
    (he : e ∈ s.books.transfers) (htouch : e.debitAccountID = i ∨ e.creditAccountID = i) :
    ownID u s.journal e.id = true := by
  obtain ⟨x, hx, hid, hd, hc⟩ := hs.committed_ends hfill he
  obtain ⟨t, ht, hown⟩ := hs.journal x hx
  exact ownID_iff.mpr ⟨x, hx, hs.own_touches ht hown hi (by rwa [hd, hc]), hid⟩

/-- Only the tenant voids its reservations. -/
theorem Sound.closed (hs : s.Sound h) (hfill : Filled s.books s.journal)
    (hsep : Separate s.journal) (u : Uint128) : s.books.Closed (ownID u s.journal) := by
  intro v hv hvoid hpending
  obtain ⟨x, hx, hxu, hxid⟩ := ownID_iff.mp hpending
  obtain ⟨y, hy, hyid, p, hp, hfits, rfl⟩ := hfill v hv hvoid
  obtain ⟨hpmem, hpid⟩ := Books.transfer?_some hp
  obtain ⟨z, hz, hzid, hzd, hzc⟩ := hs.committed_ends hfill hpmem
  have hzu : z.origin.tenant = u :=
    (hsep z hz x hx (hzid.trans (hpid.trans hxid.symm))).trans hxu
  obtain ⟨t, ht, hown⟩ := hs.journal z hz
  rw [hzu] at ht
  obtain ⟨hfd, hfc, -⟩ := Answers.fill_of_fits hfits
  obtain ⟨q, ⟨hd, -⟩ | ⟨-, hc⟩⟩ := hs.own_ends ht hown
  · exact hs.ownID_of_touch hfill hd hv (.inl (hfd.trans hzd.symm))
  · exact hs.ownID_of_touch hfill hc hv (.inr (hfc.trans hzc.symm))

theorem Sound.closed_cons (hs : s.Sound h) (hfill : Filled s.books s.journal) {x : Entry Source}
    (hsep : Separate (x :: s.journal)) (u : Uint128) :
    s.books.Closed (ownID u (x :: s.journal)) := by
  intro v hv hvoid hpending
  obtain ⟨p, hp, hpid, -⟩ := hs.wf.voids v hv hvoid
  obtain ⟨y, hy, -, hid, -⟩ := hs.recorded.find hp
  rw [hsep.ownID_cons ⟨y, hy, hid.symm.trans hpid⟩] at hpending
  exact ownID_mono (hs.closed hfill (hsep.mono (List.subset_cons_self _ _)) u v hv hvoid hpending)

theorem Sound.part_cons {M : Books} (hs : s.Sound h) (hrefused : Refused s.books s.journal)
    {x : Entry Source} (hsep : Separate (x :: s.journal))
    (hp : Books.Part (keptAccount u) (ownID u s.journal) s.books M) :
    Books.Part (keptAccount u) (ownID u (x :: s.journal)) s.books M := by
  refine ⟨hp.accounts, hp.transfers.trans (List.filter_congr fun e he => ?_),
    hp.failed.trans (List.filter_congr fun i hi => ?_)⟩
  · obtain ⟨y, hy, -, hid, -⟩ := hs.recorded.find he
    exact (hsep.ownID_cons ⟨y, hy, hid.symm⟩).symm
  · obtain ⟨y, hy, hid, -⟩ := hrefused i hi
    exact (hsep.ownID_cons ⟨y, hy, hid⟩).symm

/-- A transfer of the tenant that does not overflow passes the checks. -/
theorem Sound.passes (hs : s.Sound h) (hu : s.tenants u = some t) {x : Source} {tr : Transfer}
    (hown : Own h t.provisioning x tr) (husable : tr.id.usable = true)
    (hvoid : tr.flags.voidPendingTransfer = true → tr.validVoid = true ∧
      ∃ p, s.books.transfer? tr.pendingID = some p ∧ tr.fits p = true)
    (hroom : (tb.createTransfer s.books tr).1.overflow = false) : s.books.Passes tr where
  regular := fun hv => by
    have hvalid := hs.own_valid hu hown husable hv
    refine ⟨hvalid, fun hf => ?_⟩
    by_contra ho
    rw [(tb.transfer_documented s.books tr).overflow_of hf hv hvalid (by simpa using ho)] at hroom
    cases hroom
  void := hvoid

end State

/-- What the proofs below know of a reachable state. -/
structure Tidy (h : Blake3) (s : State) : Prop where
  sound : s.Sound h
  filled : Filled s.books s.journal
  refused : Refused s.books s.journal

/-- The state after a request. -/
def State.submit (tb : Service) (s : State) (xs : List (Source × Transfer)) : State :=
  { s with
    books := (tb.createTransfers s.books (xs.map Prod.snd)).2
    journal := (tb.record (s.books, s.journal) xs).2 }

theorem Tidy.submit {h : Blake3} {s : State} (ht : Tidy h s) (tb : Service) {v : Uint128}
    {t : Tenant} (hv : s.tenants v = some t) {x : Source × Transfer}
    (hown : Own h t.provisioning x.1 x.2) : Tidy h (s.submit tb [x]) where
  sound := ht.sound.submit hv (by simpa using hown)
  filled := ht.filled.decide (x := ⟨x.1, x.2, _⟩) ht.sound.wf (tb.transfer_documented s.books x.2)
  refused := ht.refused.decide (x := ⟨x.1, x.2, _⟩) (tb.transfer_documented s.books x.2)
    fun hregular husable => ht.sound.own_valid hv hown husable hregular

theorem State.run_tidy {h : Blake3} {tb : Service} {s : State} {es : List SystemEvent}
    (hr : runSteps (step h tb) initial es = some s) : Tidy h s :=
  ⟨run_sound hr, run_filled hr, run_refused hr⟩

/-- The state `s'` is what the tenant sees of the state `s`. -/
structure Mirrors (u : Uint128) (s s' : State) : Prop where
  part : Books.Part (keptAccount u) (ownID u s.journal) s.books s'.books
  journal : s'.journal = ownEntries u s.journal
  globals : s'.globals = s.globals
  tenant : s'.tenants u = s.tenants u

namespace Mirrors

variable {h : Blake3} {tb : Service} {s s' : State} {u i : Uint128} {t : Tenant} {r : ResourceType}

/-- The accounts of the tenant have the same balances. -/
theorem balance (hm : Mirrors u s s') (hs : s.Sound h) (hs' : s'.Sound h)
    (hfill : Filled s.books s.journal) (hsep : Separate s.journal)
    (hi : s.books.account? i = some (quotaAccount u r i)) :
    s'.books.balance i = s.books.balance i :=
  hm.part.balance (hs.closed hfill hsep u) hs.wf hs'.wf fun _ he htouch =>
    hs.ownID_of_touch hfill hi he htouch

/-- A transfer of the tenant exceeds its limit in both states or in none. -/
theorem exceeds (hm : Mirrors u s s') (hs : s.Sound h) (hs' : s'.Sound h)
    (hfill : Filled s.books s.journal) (hsep : Separate s.journal) (hu : s.tenants u = some t)
    {x : Source} {tr : Transfer} (hown : Own h t.provisioning x tr) :
    s'.books.exceeds tr = s.books.exceeds tr := by
  obtain ⟨q, ⟨hd, -⟩ | ⟨hd, -⟩⟩ := hs.own_ends hu hown
  · have hd' := hm.part.account? hs'.wf hd (by simp)
    have hbalance := hm.balance hs hs' hfill hsep hd
    simp only [Books.exceeds, hd, hd', quotaAccount, hbalance]
  · have hd' := hm.part.account? hs'.wf hd rfl
    simp [Books.exceeds, hd, hd', globalAccount]

/-- One transfer of the tenant. -/
theorem decide (hm : Mirrors u s s') (ht : Tidy h s) (hs' : s'.Sound h)
    (hu : s.tenants u = some t) {x : Source × Transfer} (hown : Own h t.provisioning x.1 x.2)
    (husable : x.2.id.usable = true)
    (hvoid : x.2.flags.voidPendingTransfer = true → ownID u s.journal x.2.pendingID = true ∧
      x.2.validVoid = true ∧ ∃ p, s.books.transfer? x.2.pendingID = some p ∧ x.2.fits p = true)
    (hroom : (tb.createTransfer s.books x.2).1.overflow = false)
    (hsep : Separate (⟨x.1, x.2, (tb.createTransfer s.books x.2).1⟩ :: s.journal)) :
    (tb.createTransfer s'.books x.2).1 = (tb.createTransfer s.books x.2).1 ∧
      Mirrors u (s.submit tb [x]) (s'.submit tb [x]) := by
  obtain ⟨hs, hfill, hrefused⟩ := ht
  have hu' : s'.tenants u = some t := hm.tenant.trans hu
  have htenant : x.1.tenant = u := by rw [hown.tenant, hs.uuid u t hu]
  have hold : Separate s.journal := hsep.mono (List.subset_cons_self _ _)
  have hpasses := hs.passes hu hown husable (fun hv => (hvoid hv).2) hroom
  have hpart := hs.part_cons hrefused hsep hm.part
  have hclosed := hs.closed_cons hfill hsep u
  have hid : ownID u (⟨x.1, x.2, (tb.createTransfer s.books x.2).1⟩ :: s.journal) x.2.id = true :=
    ownID_iff.mpr ⟨_, List.mem_cons_self, htenant, rfl⟩
  have hpasses' : s'.books.Passes x.2 := by
    refine ⟨fun hv => ⟨hs'.own_valid hu' hown husable hv, fun hf => ?_⟩, fun hv => ?_⟩
    · refine hpart.overflows hclosed hs.wf hs'.wf ((hpasses.regular hv).2 ⟨?_, fun hmem => ?_⟩)
      · rw [← hpart.transfer? hid]
        exact hf.1
      · exact hf.2 ((hpart.mem_failed hid).mpr hmem)
    · obtain ⟨hpending, hvalid, p, hp, hfits⟩ := hvoid hv
      exact ⟨hvalid, p, (hm.part.transfer? hpending).trans hp, hfits⟩
  obtain ⟨hanswer, hnext⟩ := hpart.createTransfer tb hclosed hid
    (fun hv => ownID_mono (hvoid hv).1) hpasses hpasses'
    fun _ => hm.exceeds hs hs' hfill hold hu hown
  refine ⟨hanswer, hnext, ?_, hm.globals, hm.tenant⟩
  simp only [State.submit, Service.record, hanswer, hm.journal]
  exact (ownEntries_cons_own htenant).symm

/-- The transfers of a request of the tenant. -/
theorem request {S : Set Preimage} (hfree : h.CollisionFree S) {xs : List (Source × Transfer)}
    (hm : Mirrors u s s') (ht : Tidy h s) (ht' : Tidy h s') (hJ : preimages s.journal ⊆ S)
    (hu : s.tenants u = some t) (hown : ∀ x ∈ xs, Own h t.provisioning x.1 x.2)
    (hxs : ∀ x ∈ xs, x.1.preimage ∈ S)
    (hvoid : ∀ x ∈ xs, x.2.flags.voidPendingTransfer = true →
      ∃ n cluster, Reserved u s.journal n cluster x.1.resource x.2.pendingID)
    (hroom : ∀ y ∈ (s.submit tb xs).journal, y.answer.overflow = false)
    (hsep : Separate (s.submit tb xs).journal) :
    (tb.createTransfers s'.books (xs.map Prod.snd)).1 =
        (tb.createTransfers s.books (xs.map Prod.snd)).1 ∧
      Mirrors u (s.submit tb xs) (s'.submit tb xs) := by
  induction xs generalizing s s' with
  | nil => exact ⟨rfl, hm⟩
  | cons x xs ih =>
    simp only [List.forall_mem_cons] at hown hxs hvoid
    have hgrows : (s.submit tb [x]).journal ⊆ (s.submit tb (x :: xs)).journal :=
      (tb.record_suffix _ xs).subset
    have hid := hown.1.id_eq (hfree.derive_ne_zero hxs.1)
    have hfits : x.2.flags.voidPendingTransfer = true → ownID u s.journal x.2.pendingID = true ∧
        x.2.validVoid = true ∧
          ∃ p, s.books.transfer? x.2.pendingID = some p ∧ x.2.fits p = true := by
      intro hv
      obtain ⟨n, cluster, hres⟩ := hvoid.1 hv
      have hfits := ht.sound.void_fits hfree hJ hu hown.1 hxs.1 hv hres
      obtain ⟨y, hy, -, hyo, hyid⟩ := hres
      exact ⟨ownID_iff.mpr ⟨y, hy, by rw [hyo]; rfl, hyid⟩, hfits⟩
    obtain ⟨hanswer, hnext⟩ := hm.decide ht ht'.sound hu hown.1 (hid ▸ hfree.usable _ hxs.1) hfits
      (hroom _ (hgrows List.mem_cons_self)) (hsep.mono hgrows)
    have hJ' : preimages (s.submit tb [x]).journal ⊆ S := by
      rintro p ⟨y, hy, rfl⟩
      rcases List.mem_cons.mp hy with rfl | hy
      · exact hxs.1
      · exact hJ ⟨y, hy, rfl⟩
    have hvoid' : ∀ y ∈ xs, y.2.flags.voidPendingTransfer = true → ∃ n cluster,
        Reserved u (s.submit tb [x]).journal n cluster y.1.resource y.2.pendingID := by
      intro y hy hv
      obtain ⟨n, cluster, hres⟩ := hvoid.2 y hy hv
      exact ⟨n, cluster, hres.mono (List.subset_cons_self _ _)⟩
    have hu' : s'.tenants u = some t := hm.tenant.trans hu
    obtain ⟨hrest, hlast⟩ := ih hnext (ht.submit tb hu hown.1) (ht'.submit tb hu' hown.1) hJ' hu
      hown.2 hxs.2 hvoid' hroom hsep
    refine ⟨?_, hlast⟩
    simp only [List.map_cons, Service.createTransfers, List.cons.injEq]
    exact ⟨hanswer, hrest⟩

/-- The transfers of a request of another tenant. -/
theorem others {v : Uint128} (hne : v ≠ u) {xs : List (Source × Transfer)} (hm : Mirrors u s s')
    (ht : Tidy h s) (hv : s.tenants v = some t) (hown : ∀ x ∈ xs, Own h t.provisioning x.1 x.2)
    (hsep : Separate (s.submit tb xs).journal) : Mirrors u (s.submit tb xs) s' := by
  induction xs generalizing s with
  | nil => exact hm
  | cons x xs ih =>
    simp only [List.forall_mem_cons] at hown
    have hgrows : (s.submit tb [x]).journal ⊆ (s.submit tb (x :: xs)).journal :=
      (tb.record_suffix _ xs).subset
    refine ih (s := s.submit tb [x]) ?_ (ht.submit tb hv hown.1) hv hown.2 hsep
    have htenant : x.1.tenant ≠ u := by
      rw [hown.1.tenant, ht.sound.uuid v t hv]
      exact hne
    have hsep' := hsep.mono hgrows
    refine ⟨(ht.sound.part_cons ht.refused hsep' hm.part).other ?_
      (tb.transfer_documented s.books x.2), ?_, hm.globals, hm.tenant⟩
    · rw [Bool.eq_false_iff]
      intro hid
      obtain ⟨y, hy, hyu, hyid⟩ := ownID_iff.mp hid
      exact htenant ((hsep' _ List.mem_cons_self y hy hyid.symm).trans hyu)
    · rw [hm.journal]
      exact (ownEntries_cons_other htenant).symm

end Mirrors

end CloudCredit.System
