import CloudCredit.System.BatchAnswers
import CloudCredit.System.Plan

/-!
# A first load is never refused

Whatever attempts came before it, an attempt to load a tenant's wallet that is
answered succeeds: its transfers are new to the service or committed exactly as they
are sent, their identifiers are not used up, the operator has no limit and the
amounts fit into the balances.
-/
namespace CloudCredit.System

open Library TigerBeetle Domain Ledger Accounting

namespace State

variable {h : Blake3} {tb : Service} {s s' : State} {u : Uint128} {t : Tenant}

theorem Sound.submit_keeps {P : Books → List (Entry Source) → Prop} (hs : s.Sound h)
    (hu : s.tenants u = some t) {xs : List (Source × Transfer)}
    (hown : ∀ x ∈ xs, Own h t.provisioning x.1 x.2)
    (hdecide : ∀ (M : State) (x : Source × Transfer), M.Sound h → M.tenants = s.tenants →
      Own h t.provisioning x.1 x.2 → P M.books M.journal → P (tb.createTransfer M.books x.2).2
        (⟨x.1, x.2, (tb.createTransfer M.books x.2).1⟩ :: M.journal))
    (hP : P s.books s.journal) :
    P (tb.createTransfers s.books (xs.map Prod.snd)).2 (tb.record (s.books, s.journal) xs).2 := by
  induction xs generalizing s with
  | nil => exact hP
  | cons x xs ih =>
    simp only [List.forall_mem_cons] at hown
    have hnext : Sound h { s with
        books := (tb.createTransfers s.books ([x].map Prod.snd)).2
        journal := (tb.record (s.books, s.journal) [x]).2 } :=
      hs.submit hu (by simpa using hown.1)
    exact ih (s := { s with
        books := (tb.createTransfer s.books x.2).2
        journal := ⟨x.1, x.2, (tb.createTransfer s.books x.2).1⟩ :: s.journal })
      hnext hu hown.2 hdecide (hdecide s x hs rfl hown.1 hP)

/-- The same for every step of the system. -/
theorem Sound.step_keeps {P : Books → List (Entry Source) → Prop} (hs : s.Sound h)
    (haccounts : ∀ L J as, P L J → P (tb.createAccounts L as).2 J)
    (hdecide : ∀ (M : State) (v : Uint128) (t : Tenant) (x : Source × Transfer), M.Sound h →
      M.tenants v = some t → Own h t.provisioning x.1 x.2 → P M.books M.journal →
      P (tb.createTransfer M.books x.2).2
        (⟨x.1, x.2, (tb.createTransfer M.books x.2).1⟩ :: M.journal))
    {ev : SystemEvent} (hstep : s.step h tb ev = some s') (hP : P s.books s.journal) :
    P s'.books s'.journal := by
  cases stepped_of_step hstep with
  | @started fate rand =>
    obtain ⟨as, hbooks⟩ := startServer_books tb s fate rand
    rw [hbooks]
    exact haccounts _ _ as hP
  | registered => exact hP
  | @acted v w t o hv ho =>
    have heff := Tenant.act_effect (hs.tenants v t hv) ho
    obtain ⟨t', L', xs⟩ := o
    dsimp only at heff
    cases heff with
    | accounts has => exact haccounts _ _ _ hP
    | transfers hxs =>
      refine hs.submit_keeps hv hxs (fun M x hM htenants hown hP => ?_) hP
      exact hdecide M v t x hM (by rw [htenants]; exact hv) hown hP

end State

/-- An identifier is used up by a void, by a rejection for lack of credits, or because
it was not usable in the first place. -/
def Refused (L : Books) (J : List (Entry Source)) : Prop :=
  ∀ i ∈ L.failed, ∃ x ∈ J, x.transfer.id = i ∧
    (x.transfer.flags.voidPendingTransfer = true ∨ x.answer = .exceedsCredits ∨
      x.transfer.id.usable = false)

theorem Refused.decide {L L' : Books} {J : List (Entry Source)} {x : Entry Source}
    (hr : Refused L J) (ha : Answers L x.transfer x.answer L')
    (hvalid : x.transfer.flags.voidPendingTransfer = false → x.transfer.id.usable = true →
      L.validRegular x.transfer = true) : Refused L' (x :: J) := by
  have hold : ∀ i ∈ L.failed, ∃ y ∈ x :: J, y.transfer.id = i ∧
      (y.transfer.flags.voidPendingTransfer = true ∨ y.answer = .exceedsCredits ∨
        y.transfer.id.usable = false) := by
    intro i hi
    obtain ⟨y, hy, hid, hcase⟩ := hr i hi
    exact ⟨y, List.mem_cons_of_mem _ hy, hid, hcase⟩
  have hnew : (x.transfer.flags.voidPendingTransfer = true ∨ x.answer = .exceedsCredits ∨
      x.transfer.id.usable = false) → ∀ i ∈ (L.fail x.transfer.id).failed,
      ∃ y ∈ x :: J, y.transfer.id = i ∧
        (y.transfer.flags.voidPendingTransfer = true ∨ y.answer = .exceedsCredits ∨
          y.transfer.id.usable = false) := by
    intro hcase i hi
    rcases List.mem_cons.mp hi with rfl | hi
    · exact ⟨x, List.mem_cons_self, rfl, hcase⟩
    · exact hold i hi
  obtain ⟨origin, tr, answer⟩ := x
  dsimp only at ha hvalid hold hnew ⊢
  cases ha with
  | invalid hf hv hi hinv hL =>
    rcases hL with rfl | rfl
    · exact hold
    · refine hnew (.inr (.inr ?_))
      by_contra husable
      rw [hvalid hv (by simpa using husable)] at hi
      cases hi
  | exceedsCredits => exact hnew (.inr (.inl rfl))
  | pendingNotFound hf hv => exact hnew (.inl hv)
  | _ => exact hold

namespace State

variable {h : Blake3} {tb : Service} {s s' : State} {u : Uint128} {t : Tenant}

theorem step_refused (hs : s.Sound h) (hr : Refused s.books s.journal) {ev : SystemEvent}
    (hstep : s.step h tb ev = some s') : Refused s'.books s'.journal := by
  refine hs.step_keeps (fun L J as hr => ?_) (fun M v t x hM hv hown hr => ?_) hstep hr
  · unfold Refused
    rw [(tb.createAccounts_frame L as).2.1]
    exact hr
  · exact hr.decide (x := ⟨x.1, x.2, _⟩) (tb.transfer_documented M.books x.2)
      fun hregular husable => hM.own_valid hv hown husable hregular

theorem run_refused {es : List SystemEvent} (hr : runSteps (step h tb) initial es = some s) :
    Refused s.books s.journal := by
  refine (invariant_of_steps (step h tb) (P := fun s => s.Sound h ∧ Refused s.books s.journal)
    (fun s ev s' hs hstep => ⟨step_sound hs.1 hstep, step_refused hs.1 hs.2 hstep⟩)
    ⟨initial_sound, ?_⟩ hr).2
  simp [Refused, initial]

theorem Sound.posted_amount (hs : s.Sound h) {e : Transfer} (he : e ∈ s.books.transfers)
    (hposts : e.posts = true)
    (hside : (∃ q, s.books.account? e.debitAccountID =
        some (globalAccount (q, .operator) e.debitAccountID)) ∨
      ∃ v q, s.books.account? e.creditAccountID = some (quotaAccount v q e.creditAccountID)) :
    e.amount ≤ 2 ^ 64 := by
  obtain ⟨x, hx, -, -, hflags, -, hsame⟩ := hs.recorded.find he
  obtain ⟨t, ht, hown⟩ := hs.journal x hx
  obtain ⟨origin, tr, answer⟩ := x
  dsimp only at hown ht hflags hsame
  simp only [Transfer.posts, hflags, Bool.and_eq_true, Bool.not_eq_true'] at hposts
  obtain rfl := hsame hposts.2
  cases hown with
  | usage hg hquota hsink =>
    rcases hside with ⟨q, hq⟩ | ⟨v, q, hq⟩
    · exact absurd rfl (global_ne_quota (hs.quota_open ht hquota) (by decide) hq)
    · exact absurd rfl (global_ne_quota hq (by decide) (hs.sink_open ht hsink))
  | gaugeNew => simp at hposts
  | gaugeVoid => simp at hposts
  | provision => exact (UInt64.toNat_lt _).le
  | credit => exact (UInt64.toNat_lt _).le

theorem Sound.operator_debitsPending (hs : s.Sound h) {i : Uint128} {r : ResourceType}
    (hacc : s.books.account? i = some (globalAccount (r, .operator) i)) :
    (s.books.balance i).debitsPending = 0 := by
  rw [hs.wf.debitsPending_eq, total, List.filter_eq_nil_iff.mpr]
  · rfl
  intro p hp hi
  obtain ⟨v, q, hquota, -⟩ := hs.live_ends hp
  exact global_ne_quota hquota (by simp) hacc (by simpa [eq_comm] using hi)

theorem total_le {p : Transfer → Bool} {ts : List Transfer} {B : ℕ}
    (hB : ∀ t ∈ ts, p t = true → t.amount ≤ B) : total p ts ≤ ts.length * B := by
  induction ts with
  | nil => simp
  | cons t ts ih =>
    simp only [List.forall_mem_cons] at hB
    have hrest := ih hB.2
    rw [total_cons, List.length_cons, Nat.add_mul, Nat.one_mul]
    split_ifs with hp
    · have hhead := hB.1 hp
      omega
    · omega

theorem Sound.provision_fits (hs : s.Sound h) (hu : s.tenants u = some t)
    (hroom : s.books.transfers.length < 2 ^ 63) {period : Int64} {r : ResourceType}
    {credits : Int64} {tr : Transfer}
    (hown : Own h t.provisioning (.provision u period r credits) tr) :
    s.books.overflows tr = false := by
  cases hown with
  | @provision id r quota operator credits hid hcredits hquota hoperator =>
    have hopen := hs.operator_open hu hoperator
    have hquotaOpen := hs.quota_open hu hquota
    have hdebits : (s.books.balance operator).debitsPosted ≤ s.books.transfers.length * 2 ^ 64 := by
      rw [hs.wf.debitsPosted_eq]
      refine total_le fun e he hp => ?_
      simp only [Bool.and_eq_true, decide_eq_true_eq] at hp
      exact hs.posted_amount he hp.1 (.inl ⟨r, by rw [hp.2]; exact hopen⟩)
    have hcredits : (s.books.balance quota).creditsPosted ≤ s.books.transfers.length * 2 ^ 64 := by
      rw [hs.wf.creditsPosted_eq]
      refine total_le fun e he hp => ?_
      simp only [Bool.and_eq_true, decide_eq_true_eq] at hp
      exact hs.posted_amount he hp.1 (.inr ⟨_, r, by rw [hp.2]; exact hquotaOpen⟩)
    have hpending := hs.operator_debitsPending hopen
    have hpending' := hs.quota_creditsPending hquotaOpen
    have hamount := UInt64.toNat_lt credits.toUInt64
    simp only [Books.overflows, hpending, hpending', Bool.or_eq_false_iff, decide_eq_false_iff_not]
    constructor <;> omega

/-- The transfers of a tenant's first load. -/
def LoadEntry (h : Blake3) (u : Uint128) (p : Provisioning) (x : Source × Transfer) : Prop :=
  Own h p x.1 x.2 ∧ ∃ period r credits, x.1 = .provision u period r credits

/-- The transfers an attempt of the first load submits, with their sources. -/
def loadEntries (h : Blake3) (p : Provisioning) (att : RequestAttempt) :
    List (Source × Transfer) :=
  allocationEntries (fun r =>
    .provision p.input.tenantUUID p.input.periodStartNs r ((p.input.credits r).getD 0))
    (p.allocationInput h) att

theorem loadEntries_transfers (h : Blake3) (p : Provisioning) (att : RequestAttempt) :
    (loadEntries h p att).map Prod.snd =
      allocationTransfers att.rand 0 (allocations att.resources (p.allocationInput h)) :=
  allocationEntriesFrom_transfers _ _ _ _

theorem loadEntries_length (h : Blake3) (p : Provisioning) (att : RequestAttempt) :
    (loadEntries h p att).length ≤ 3 := by
  have hlength : ∀ (source : ResourceType → Source) n as,
      (allocationEntriesFrom source att.rand n as).length = as.length := by
    intro source n as
    induction as generalizing n with
    | nil => rfl
    | cons a as ih => simp [allocationEntriesFrom, ih]
  rw [loadEntries, allocationEntries, hlength]
  calc (allocations att.resources (p.allocationInput h)).length
      ≤ (att.resources.order (allResources.filter fun r =>
          ((p.allocationInput h).credits r).isSome)).length := List.length_filterMap_le _ _
    _ = (allResources.filter fun r => ((p.allocationInput h).credits r).isSome).length :=
        (att.resources.perm _).length_eq
    _ ≤ 3 := List.length_filter_le _ allResources

/-- What is known while a tenant's wallet is loaded. -/
structure Loading (h : Blake3) (u : Uint128) (S : Set Preimage) (s : State) : Prop where
  sound : s.Sound h
  decided : Decided s.books s.journal
  refused : Refused s.books s.journal
  uncredited : ∀ x ∈ s.journal, ∀ issue, x.origin ≠ .credit u issue
  known : preimages s.journal ⊆ S

namespace Loading

variable {S : Set Preimage} {x : Source × Transfer}

/-- A decision about a transfer of the load, as an entry of the journal. -/
theorem origin (hl : Loading h u S s) (hfree : h.CollisionFree S)
    (hx : LoadEntry h u t.provisioning x) (hS : x.1.preimage ∈ S) {z : Entry Source}
    (hz : z ∈ s.journal) (hid : z.transfer.id = x.2.id) :
    ∃ period credits, z.origin = .provision u period x.1.resource credits := by
  obtain ⟨hown, period, r, credits, ho⟩ := hx
  obtain ⟨tz, -, hoz⟩ := hl.sound.journal z hz
  have hzS := hl.known ⟨z, hz, rfl⟩
  have hpre : z.origin.preimage = x.1.preimage := by
    refine hfree.eq hzS hS ?_
    rw [← hoz.id_eq (hfree.derive_ne_zero hzS), ← hown.id_eq (hfree.derive_ne_zero hS), hid]
  rw [ho] at hpre ⊢
  rcases provision_of_preimage hpre with hz' | ⟨issue, hz'⟩
  · exact hz'
  · exact absurd hz' (hl.uncredited z hz issue)

theorem digestible_turn (hl : Loading h u S s) (hfree : h.CollisionFree S)
    (hu : s.tenants u = some t) (hroom : s.books.transfers.length < 2 ^ 63)
    (hx : LoadEntry h u t.provisioning x) (hS : x.1.preimage ∈ S) :
    digestible s.books x.2 = true := by
  unfold digestible
  cases he : s.books.transfer? x.2.id with
  | some e =>
    obtain ⟨hmem, hid⟩ := Books.transfer?_some he
    obtain ⟨z, hz, -, hstored⟩ := hl.sound.recorded.find hmem
    obtain ⟨period', credits', hzo⟩ := hl.origin hfree hx hS hz (hstored.1.symm.trans hid)
    obtain ⟨tz, htz, hoz⟩ := hl.sound.journal z hz
    rw [hzo] at htz hoz
    cases hu.symm.trans htz
    obtain ⟨hown, period, r, credits, ho⟩ := hx
    obtain ⟨source, tr⟩ := x
    dsimp only at ho hown hoz
    subst ho
    have hsame := hstored.2.2.2
    generalize z.transfer = w at hoz hsame
    cases hoz with
    | provision hid₁ hcredits₁ hquota₁ hoperator₁ =>
      obtain rfl := hsame rfl
      cases hown with
      | provision hid₂ hcredits₂ hquota₂ hoperator₂ => simp
  | none =>
    have hfresh : x.2.id ∉ s.books.failed := by
      intro hfailed
      obtain ⟨z, hz, hid, hcase⟩ := hl.refused _ hfailed
      obtain ⟨period', credits', hzo⟩ := hl.origin hfree hx hS hz hid
      have hzS := hl.known ⟨z, hz, rfl⟩
      obtain ⟨tz, htz, hoz⟩ := hl.sound.journal z hz
      rcases hcase with hvoid | hexceeds | husable
      · rw [hzo] at hoz
        generalize z.transfer = w at hoz hvoid
        cases hoz
        cases hvoid
      · exact hl.sound.provision_unlimited hl.decided hz hzo hexceeds
      · rw [hoz.id_eq (hfree.derive_ne_zero hzS), hfree.usable _ hzS] at husable
        cases husable
    obtain ⟨hown, period, r, credits, ho⟩ := hx
    rw [ho] at hown
    simp [hfresh, hl.sound.provision_fits hu hroom hown]

theorem classified_turn (hl : Loading h u S s) (hfree : h.CollisionFree S)
    (hu : s.tenants u = some t) (hroom : s.books.transfers.length < 2 ^ 63)
    (hx : LoadEntry h u t.provisioning x) (hS : x.1.preimage ∈ S) :
    classified (tb.createTransfer s.books x.2).1 = true := by
  have hdigest := hl.digestible_turn hfree hu hroom hx hS
  obtain ⟨hown, period, r, credits, ho⟩ := hx
  have hregular : x.2.flags.voidPendingTransfer = false := by
    rw [ho] at hown
    generalize x.2 = tr at hown
    cases hown
    rfl
  have husable : x.2.id.usable = true := by
    rw [hown.id_eq (hfree.derive_ne_zero hS)]
    exact hfree.usable _ hS
  rw [classified_regular (tb.transfer_documented s.books x.2) hregular
    (hl.sound.own_valid hu hown husable hregular), hdigest]
  intro e he
  obtain ⟨z, hz, -, hstored, hpre⟩ := hl.sound.known hfree hl.known hown hS he
  obtain ⟨tz, -, hoz⟩ := hl.sound.journal z hz
  have hkind := hown.same_kind hoz hpre
  rw [hstored.2.2.2 (hkind.1 ▸ hregular)]
  exact hkind

theorem next (tb : Service) (hl : Loading h u S s) (hu : s.tenants u = some t)
    (hx : LoadEntry h u t.provisioning x) (hS : x.1.preimage ∈ S) :
    Loading h u S { s with
      books := (tb.createTransfer s.books x.2).2
      journal := ⟨x.1, x.2, (tb.createTransfer s.books x.2).1⟩ :: s.journal } := by
  have hdoc := tb.transfer_documented s.books x.2
  obtain ⟨hown, period, r, credits, ho⟩ := hx
  have hsound : Sound h { s with
      books := (tb.createTransfers s.books ([x].map Prod.snd)).2
      journal := (tb.record (s.books, s.journal) [x]).2 } :=
    hl.sound.submit hu (by simpa using hown)
  refine ⟨hsound, hl.decided.decide (x := ⟨x.1, x.2, _⟩) hdoc,
    hl.refused.decide (x := ⟨x.1, x.2, _⟩) hdoc
      fun hregular husable => hl.sound.own_valid hu hown husable hregular, ?_, ?_⟩
  · intro z hz issue
    rcases List.mem_cons.mp hz with rfl | hz
    · simp [ho]
    · exact hl.uncredited z hz issue
  · rintro p ⟨z, hz, rfl⟩
    rcases List.mem_cons.mp hz with rfl | hz
    · exact hS
    · exact hl.known ⟨z, hz, rfl⟩

theorem request_turns (hl : Loading h u S s) (hfree : h.CollisionFree S)
    (hu : s.tenants u = some t) {xs : List (Source × Transfer)}
    (hroom : s.books.transfers.length + xs.length ≤ 2 ^ 63)
    (hxs : ∀ x ∈ xs, LoadEntry h u t.provisioning x ∧ x.1.preimage ∈ S) :
    ∀ r ∈ (tb.createTransfers s.books (xs.map Prod.snd)).1, classified r = true := by
  induction xs generalizing s with
  | nil => simp [Service.createTransfers]
  | cons x xs ih =>
    simp only [List.forall_mem_cons, List.length_cons] at hxs hroom
    obtain ⟨hx, hS⟩ := hxs.1
    have hlength : (tb.createTransfer s.books x.2).2.transfers.length ≤
        s.books.transfers.length + 1 := by
      rw [(tb.transfer_documented s.books x.2).transfers_eq]
      split_ifs <;> simp
    simp only [List.map_cons, Service.createTransfers, List.mem_cons, forall_eq_or_imp]
    refine ⟨hl.classified_turn hfree hu (by omega) hx hS, ?_⟩
    exact ih (hl.next tb hu hx hS) hu (by dsimp only; omega) hxs.2

theorem submit_ok (hl : Loading h u S s) (hfree : h.CollisionFree S) (hu : s.tenants u = some t)
    (hlate : t.provisioning.phase.late = true)
    (hcredits : ∀ r, (t.provisioning.input.credits r).isSome) {att : RequestAttempt}
    (hfate : att.fate = .answered) (hroom : s.books.transfers.length + 3 ≤ 2 ^ 63)
    (hS : ∀ x ∈ loadEntries h t.provisioning att, x.1.preimage ∈ S) :
    (submitAllocationTransfers tb att (t.provisioning.allocationInput h) s.books).1 = .ok () := by
  obtain ⟨a, ha, -⟩ := allocations_mem h att.resources (hl.sound.tenants u t hu).known hlate hcredits
    .cpuHours
  refine (submitAllocationTransfers_ok_iff tb att _ s.books (List.ne_nil_of_mem ha)).mpr
    ⟨hfate, ?_⟩
  rw [allocationRequest, ← loadEntries_transfers]
  refine hl.request_turns hfree hu ?_ fun x hx => ⟨⟨provisionEntries_own hx, ?_⟩, hS x hx⟩
  · have := loadEntries_length h t.provisioning att
    omega
  · obtain ⟨k, b, -, rfl⟩ := mem_allocationEntriesFrom hx
    exact ⟨_, _, _, by rw [← hl.sound.uuid u t hu]⟩

end Loading

end State
end CloudCredit.System
