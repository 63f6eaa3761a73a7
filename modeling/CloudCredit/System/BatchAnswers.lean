import CloudCredit.System.Gauges

/-!
# Which batches get through

A batch succeeds when every answer of the service has a case. For the transfers
a workflow submits this comes down to what the books know of their identifiers:
an identifier that was used up by a rejection, or one that is committed with
another heartbeat time, fails the whole batch however often it is repeated.
-/
namespace CloudCredit.System

open Library TigerBeetle Domain Ledger Accounting

/-- What the books know of the identifier lets the transfer pass. If it is
committed, then for the same reservation, and either between other accounts or with
another amount or with the same user data; if not, it is not used up either and the
amount fits into the balances. A void takes its amount and user data over. -/
def digestible (L : Books) (t : Transfer) : Bool :=
  match L.transfer? t.id with
  | some e => t.pendingID = e.pendingID &&
      (t.flags.voidPendingTransfer || t.debitAccountID ≠ e.debitAccountID ||
        t.creditAccountID ≠ e.creditAccountID || t.amount ≠ e.amount ||
        t.userData128 = e.userData128 && t.userData64 = e.userData64)
  | none => t.id ∉ L.failed && (t.flags.voidPendingTransfer || !L.overflows t)

/-- Every transfer of a request is digestible at its turn. -/
def digests (tb : Service) : Books → List Transfer → Bool
  | _, [] => true
  | L, t :: ts => digestible L t && digests tb (tb.createTransfer L t).2 ts

section Turn

variable {L L' : Books} {t e p : Transfer} {r : CreateTransferResult}

theorem classified_existsResult (hflags : t.flags = e.flags) (hledger : t.ledger = e.ledger)
    (hcode : t.code = e.code) :
    classified (existsResult t e) = (decide (t.pendingID = e.pendingID) &&
      (t.debitAccountID ≠ e.debitAccountID || t.creditAccountID ≠ e.creditAccountID ||
        t.amount ≠ e.amount || t.userData128 = e.userData128 && t.userData64 = e.userData64)) := by
  unfold existsResult
  simp only [hflags, hledger, hcode, ne_eq, not_true_eq_false, if_false]
  split_ifs <;> simp_all [classified]

theorem classified_regular (ha : Answers L t r L') (hv : t.flags.voidPendingTransfer = false)
    (hvalid : L.validRegular t = true)
    (hknown : ∀ e, L.transfer? t.id = some e →
      t.flags = e.flags ∧ t.ledger = e.ledger ∧ t.code = e.code) :
    classified r = digestible L t := by
  unfold digestible
  cases ha with
  | @repeated e he =>
    obtain ⟨hflags, hledger, hcode⟩ := hknown e he
    rw [he, stored_regular hv, classified_existsResult hflags hledger hcode, hv]
    simp only [Bool.false_or]
  | alreadyFailed hn hf => simp [hn, hf, classified]
  | invalid hf hv' hi => simp [hvalid] at hi
  | overflow hf hv' hi ho hr =>
    rw [hf.1]
    cases r <;> simp_all [classified, CreateTransferResult.overflow]
  | exceedsCredits hf hv' hi ho => simp [hf.1, hf.2, ho, classified]
  | posted hf hv' hi ho => simp [hf.1, hf.2, ho, classified]
  | reserved hf hv' hi ho => simp [hf.1, hf.2, ho, classified]
  | _ => simp_all

theorem classified_void (ha : Answers L t r L') (hv : t.flags.voidPendingTransfer = true)
    (hvalid : t.validVoid = true) (hp : L.transfer? t.pendingID = some p) (hfits : t.fits p = true)
    (hknown : ∀ e, L.transfer? t.id = some e → t.flags = e.flags ∧
      (t.pendingID = e.pendingID → e = t.fill p)) :
    gaugeClassified t.flags.voidPendingTransfer r = digestible L t := by
  unfold digestible
  rw [hv]
  cases ha with
  | @repeated e he =>
    obtain ⟨hflags, hsame⟩ := hknown e he
    have hstored : L.stored t = t.fill p := by simp [Books.stored, hv, hp]
    rw [he, hstored]
    by_cases hpend : t.pendingID = e.pendingID
    · simp [hsame hpend, Transfer.fill, gaugeClassified, classified]
    · have hdiff : existsResult (t.fill p) e = .existsWithDifferentPendingID := by
        simp [existsResult, Transfer.fill, hflags, hpend]
      simp [hdiff, hpend, gaugeClassified, classified]
  | alreadyFailed hn hf => simp [hn, hf, gaugeClassified, classified]
  | voidInvalid hf hv' hi => simp [hvalid] at hi
  | pendingMismatch hf hv' hi hp' hm =>
    cases hp.symm.trans hp'
    simp [hfits] at hm
  | pendingNotFound hf => simp [hf.1, hf.2, gaugeClassified]
  | alreadyVoided hf => simp [hf.1, hf.2, gaugeClassified]
  | voided hf => simp [hf.1, hf.2, gaugeClassified, classified]
  | _ => simp_all

end Turn

theorem reservation_of_accepted {L L' : Books} {t : Transfer} {r : CreateTransferResult}
    (ha : Answers L t r L') (hok : r = .ok) (hv : t.flags.voidPendingTransfer = true) :
    ∃ p, L.transfer? t.pendingID = some p ∧ t.fits p = true := by
  cases ha with
  | @repeated e he =>
    have hfound := existsResult_found (L.stored t) e
    rw [hok] at hfound
    cases hfound
  | voided hf hv' hi hp hm => exact ⟨_, hp, hm⟩
  | voidInvalid hf hv' hi hr => simp [hok, CreateTransferResult.invalid] at hr
  | pendingMismatch hf hv' hi hp hm hr => simp [hok, CreateTransferResult.mismatch] at hr
  | _ => simp_all

/-- A stored void is its event with the open fields taken from the reservation it fits. -/
def Filled (L : Books) (J : List (Entry Source)) : Prop :=
  ∀ e ∈ L.transfers, e.flags.voidPendingTransfer = true → ∃ x ∈ J, x.transfer.id = e.id ∧
    ∃ p, L.transfer? x.transfer.pendingID = some p ∧ x.transfer.fits p = true ∧
      e = x.transfer.fill p

theorem Filled.decide {L L' : Books} {J : List (Entry Source)} {x : Entry Source} (hL : L.Wf)
    (hf : Filled L J) (ha : Answers L x.transfer x.answer L') : Filled L' (x :: J) := by
  intro e he hv
  have hold : e ∈ L.transfers → ∃ y ∈ x :: J, y.transfer.id = e.id ∧
      ∃ p, L'.transfer? y.transfer.pendingID = some p ∧ y.transfer.fits p = true ∧
        e = y.transfer.fill p := by
    intro hmem
    obtain ⟨y, hy, hid, p, hp, hfits, hfill⟩ := hf e hmem hv
    exact ⟨y, List.mem_cons_of_mem _ hy, hid, p, ha.grows.transfer? (ha.wf hL) hp, hfits, hfill⟩
  have htransfers := ha.transfers_eq
  split_ifs at htransfers with hok
  · rw [htransfers] at he
    rcases List.mem_cons.mp he with rfl | he
    · rw [stored_flags] at hv
      obtain ⟨p, hp, hfits⟩ := reservation_of_accepted ha hok hv
      refine ⟨x, List.mem_cons_self, (stored_id L _).symm, p, ?_, hfits,
        by simp [Books.stored, hv, hp]⟩
      exact ha.grows.transfer? (ha.wf hL) hp
    · exact hold he
  · rw [htransfers] at he
    exact hold he

namespace State

variable {h : Blake3} {tb : Service} {s : State} {u : Uint128} {t : Tenant}

theorem run_filled {es : List SystemEvent} (hr : runSteps (step h tb) initial es = some s) :
    Filled s.books s.journal := by
  refine (invariant_of_steps (step h tb) (P := fun s => s.Sound h ∧ Filled s.books s.journal)
    (fun s ev s' hs hstep => ⟨step_sound hs.1 hstep, ?_⟩) ⟨initial_sound, by simp [Filled, initial]⟩
    hr).2
  refine (step_ledger (P := fun L J => L.Wf ∧ Filled L J) ?_ ?_ hstep ⟨hs.1.wf, hs.2⟩).2
  · rintro L J as ⟨hL, hf⟩
    refine ⟨tb.createAccounts_wf hL as, ?_⟩
    obtain ⟨htransfers, -⟩ := tb.createAccounts_frame L as
    unfold Filled Books.transfer?
    rw [htransfers]
    exact hf
  · rintro L J x L' ⟨hL, hf⟩ ha
    exact ⟨ha.wf hL, hf.decide hL ha⟩

theorem validRegular_of_open {L : Books} (hL : L.Wf) {tr : Transfer} {d c : Account}
    (hid : tr.id.usable = true) (hd : L.account? tr.debitAccountID = some d)
    (hc : L.account? tr.creditAccountID = some c) (hdl : d.ledger = tr.ledger)
    (hcl : c.ledger = tr.ledger) (hne : tr.debitAccountID ≠ tr.creditAccountID)
    (hp : tr.pendingID = 0) (hledger : tr.ledger ≠ 0) (hcode : tr.code ≠ 0) :
    L.validRegular tr = true := by
  obtain ⟨hdm, hdi⟩ := Books.account?_some hd
  obtain ⟨hcm, hci⟩ := Books.account?_some hc
  have hdu := hL.accounts_usable d hdm
  have hcu := hL.accounts_usable c hcm
  rw [hdi] at hdu
  rw [hci] at hcu
  simp [Books.validRegular, hid, hdu, hcu, hne, hp, hledger, hcode, Books.onLedger, hd, hc, hdl, hcl]

theorem Sound.own_valid (hs : s.Sound h) (hu : s.tenants u = some t) {x : Source} {tr : Transfer}
    (hown : Own h t.provisioning x tr) (hid : tr.id.usable = true)
    (hv : tr.flags.voidPendingTransfer = false) : s.books.validRegular tr = true := by
  have hledger : ∀ r : ResourceType, r.ledgerID ≠ 0 := by
    intro r
    cases r <;> decide
  cases hown with
  | usage hg hquota hsink =>
    have hq := hs.quota_open hu hquota
    have hk := hs.sink_open hu hsink
    exact validRegular_of_open hs.wf hid hq hk rfl rfl
      (global_ne_quota hq (by decide) hk).symm rfl (hledger _)
      (show codeUsageRecord ≠ 0 by decide)
  | gaugeNew hid' hg hquota hsink hpos =>
    have hq := hs.quota_open hu hquota
    have hk := hs.sink_open hu hsink
    exact validRegular_of_open hs.wf hid hq hk rfl rfl
      (global_ne_quota hq (by decide) hk).symm rfl (hledger _)
      (show codeGaugeReservation ≠ 0 by decide)
  | gaugeVoid => cases hv
  | provision hid' hcredits hquota hoperator =>
    have hq := hs.quota_open hu hquota
    have hk := hs.operator_open hu hoperator
    exact validRegular_of_open hs.wf hid hk hq rfl rfl
      (global_ne_quota hq (by decide) hk) rfl (hledger _)
      (show codeQuotaAllocation ≠ 0 by decide)
  | credit hid' hquota hoperator =>
    have hq := hs.quota_open hu hquota
    have hk := hs.operator_open hu hoperator
    exact validRegular_of_open hs.wf hid hk hq rfl rfl
      (global_ne_quota hq (by decide) hk) rfl (hledger _)
      (show codeQuotaAllocation ≠ 0 by decide)

/-- A committed transfer under the identifier of another has the same source for it. -/
theorem Sound.known (hs : s.Sound h) {S : Set Preimage} (hfree : h.CollisionFree S)
    (hJ : preimages s.journal ⊆ S) {x : Source} {tr e : Transfer}
    (hown : Own h t.provisioning x tr) (hx : x.preimage ∈ S)
    (he : s.books.transfer? tr.id = some e) :
    ∃ z ∈ s.journal, accepted z = true ∧ StoredAs e z ∧ z.origin.preimage = x.preimage := by
  obtain ⟨hmem, hid⟩ := Books.transfer?_some he
  obtain ⟨z, hz, hok, hstored⟩ := hs.recorded.find hmem
  obtain ⟨tz, -, hoz⟩ := hs.journal z hz
  have hzS := hJ ⟨z, hz, rfl⟩
  refine ⟨z, hz, hok, hstored, hfree.eq hzS hx ?_⟩
  rw [← hoz.id_eq (hfree.derive_ne_zero hzS), ← hown.id_eq (hfree.derive_ne_zero hx), ← hstored.1, hid]

end State

theorem Own.same_kind {h : Blake3} {p q : Provisioning} {x y : Source} {tr tr' : Transfer}
    (hx : Own h p x tr) (hy : Own h q y tr') (hpre : y.preimage = x.preimage) :
    tr.flags = tr'.flags ∧ tr.ledger = tr'.ledger ∧ tr.code = tr'.code := by
  cases hx <;> cases hy <;> simp_all [Source.preimage]

theorem Own.void_eq {h : Blake3} {p : Provisioning} {x : Source} {tr tr' : Transfer}
    (hx : Own h p x tr) (hy : Own h p x tr') (hv : tr.flags.voidPendingTransfer = true)
    (hid : tr.id = tr'.id) (hpending : tr.pendingID = tr'.pendingID) : tr = tr' := by
  cases hx with
  | gaugeVoid hid' hg hquota hsink =>
    cases hy with
    | gaugeVoid hid'' hg' hquota' hsink' =>
      cases hquota.symm.trans hquota'
      cases hsink.symm.trans hsink'
      cases hid
      cases hpending
      rfl
  | _ => cases hv

theorem gaugeVoid_source {x : Source} {u cluster : Uint128} {seqNo : UInt64} {r : ResourceType}
    (hx : x.preimage = .gaugeVoid u seqNo cluster r.ledgerID) :
    x = .gaugeVoid u seqNo cluster r := by
  cases x with
  | gaugeVoid t n c q =>
    simp only [Source.preimage, Preimage.gaugeVoid.injEq] at hx
    obtain ⟨rfl, rfl, rfl, hl⟩ := hx
    rw [ResourceType.ledgerID_injective hl]
  | _ => cases hx

theorem Journaled.stored {L : Books} {J : List (Entry Source)} (hr : Journaled L J)
    {x : Entry Source} (hx : x ∈ J) (hok : accepted x = true) :
    ∃ t ∈ L.transfers, StoredAs t x := by
  unfold Journaled at hr
  have hmem : x ∈ J.filter accepted := List.mem_filter.mpr ⟨hx, hok⟩
  generalize L.transfers = ts at hr ⊢
  generalize J.filter accepted = ys at hr hmem
  induction hr with
  | nil => cases hmem
  | @cons t y ts ys hy _ ih =>
    rcases List.mem_cons.mp hmem with rfl | hmem
    · exact ⟨t, List.mem_cons_self, hy⟩
    · obtain ⟨t', ht', hstored⟩ := ih hmem
      exact ⟨t', List.mem_cons_of_mem _ ht', hstored⟩

namespace State

variable {h : Blake3} {tb : Service} {s : State} {u : Uint128} {t : Tenant}

/-- A reservation of the tenant is in the books as it was submitted. -/
theorem Sound.reservation (hs : s.Sound h) {n : UInt64} {cluster : Uint128} {r : ResourceType}
    {id : Uint128} (hres : Reserved u s.journal n cluster r id) :
    ∃ y ∈ s.journal, accepted y = true ∧ y.origin = .gaugeNew u n cluster r ∧
      s.books.transfer? id = some y.transfer := by
  obtain ⟨y, hy, hok, ho, hid⟩ := hres
  obtain ⟨t', -, hown⟩ := hs.journal y hy
  obtain ⟨p, hp, hstored⟩ := hs.recorded.stored hy hok
  have hregular : y.transfer.flags.voidPendingTransfer = false := by
    rw [ho] at hown
    generalize y.transfer = tr at hown
    cases hown
    rfl
  have hpy := hstored.2.2.2 hregular
  subst hpy
  exact ⟨y, hy, hok, ho, by rw [← hid]; exact hs.wf.transfer?_eq hp⟩

theorem Sound.void_fits (hs : s.Sound h) {S : Set Preimage} (hfree : h.CollisionFree S)
    (hJ : preimages s.journal ⊆ S) (hu : s.tenants u = some t) {x : Source} {tr : Transfer}
    (hown : Own h t.provisioning x tr) (hx : x.preimage ∈ S)
    (hv : tr.flags.voidPendingTransfer = true) {n : UInt64} {cluster : Uint128}
    (hres : Reserved u s.journal n cluster x.resource tr.pendingID) :
    tr.validVoid = true ∧ ∃ p, s.books.transfer? tr.pendingID = some p ∧ tr.fits p = true := by
  obtain ⟨y, hy, -, hyo, hp⟩ := hs.reservation hres
  obtain ⟨ty, hty, hyown⟩ := hs.journal y hy
  have hyS := hJ ⟨y, hy, rfl⟩
  have hyid := hyown.id_eq (hfree.derive_ne_zero hyS)
  have hpid := (Books.transfer?_some hp).2
  rw [hyo] at hty hyown
  cases hu.symm.trans hty
  have hid := hown.id_eq (hfree.derive_ne_zero hx)
  have husable : tr.id.usable = true := hid ▸ hfree.usable _ hx
  have hpusable : tr.pendingID.usable = true := by
    rw [← hpid, hyid]
    exact hfree.usable _ hyS
  have hne : tr.pendingID ≠ tr.id := by
    intro hsame
    rw [← hpid, hyid, hid] at hsame
    have hpre := hfree.eq hyS hx hsame
    rw [hyo] at hpre
    cases hown with
    | gaugeVoid => cases hpre
    | _ => cases hv
  refine ⟨?_, y.transfer, hp, ?_⟩
  · cases hown with
    | gaugeVoid => simp [Transfer.validVoid, husable, hpusable, hne]
    | _ => cases hv
  · generalize y.transfer = p at hyown
    cases hown with
    | gaugeVoid hid' hg hquota hsink =>
      cases hyown with
      | gaugeNew hid'' hg' hquota' hsink' =>
        cases hquota.symm.trans hquota'
        cases hsink.symm.trans hsink'
        simp [Transfer.fits, Source.resource]
    | _ => cases hv

theorem Sound.void_turn (hs : s.Sound h) (hfill : Filled s.books s.journal) {S : Set Preimage}
    (hfree : h.CollisionFree S) (hJ : preimages s.journal ⊆ S) (hu : s.tenants u = some t)
    {x : Source} {tr : Transfer} (hown : Own h t.provisioning x tr) (hx : x.preimage ∈ S)
    (hv : tr.flags.voidPendingTransfer = true) {n : UInt64} {cluster : Uint128}
    (hres : Reserved u s.journal n cluster x.resource tr.pendingID) :
    Classified tr (tb.createTransfer s.books tr).1 ↔ digestible s.books tr = true := by
  obtain ⟨hvalid, p, hp, hfits⟩ := hs.void_fits hfree hJ hu hown hx hv hres
  have hid := hown.id_eq (hfree.derive_ne_zero hx)
  rw [Classified, classified_void (tb.transfer_documented s.books tr) hv hvalid hp hfits ?_]
  · intro e he
    obtain ⟨z, hz, -, hstored, hpre⟩ := hs.known hfree hJ hown hx he
    obtain ⟨tz, htz, hoz⟩ := hs.journal z hz
    have hkind := hown.same_kind hoz hpre
    refine ⟨hkind.1.trans hstored.2.1.symm, fun hpend => ?_⟩
    obtain ⟨hmem, heid⟩ := Books.transfer?_some he
    obtain ⟨w, hw, hwid, p, hpw, -, rfl⟩ := hfill e hmem (by rw [hstored.2.1, ← hkind.1]; exact hv)
    obtain ⟨tw, htw, how⟩ := hs.journal w hw
    have hwS := hJ ⟨w, hw, rfl⟩
    have hwpre : w.origin.preimage = x.preimage := by
      refine hfree.eq hwS hx ?_
      rw [← how.id_eq (hfree.derive_ne_zero hwS), ← hid, ← heid]
      rfl
    have hworigin : w.origin = x := by
      cases hown with
      | gaugeVoid => exact gaugeVoid_source hwpre
      | _ => cases hv
    rw [hworigin, hown.tenant, hs.uuid u t hu] at htw
    cases hu.symm.trans htw
    rw [hworigin] at how
    have hsame : tr = w.transfer := Own.void_eq hown how hv heid.symm hpend
    rw [← hsame] at hpw ⊢
    rw [Option.some.inj (hp.symm.trans hpw)]

/-- A transfer of the tenant at its turn. -/
theorem Sound.turn (hs : s.Sound h) (hfill : Filled s.books s.journal) {S : Set Preimage}
    (hfree : h.CollisionFree S) (hJ : preimages s.journal ⊆ S) (hu : s.tenants u = some t)
    {x : Source} {tr : Transfer} (hown : Own h t.provisioning x tr) (hx : x.preimage ∈ S)
    (hvoid : tr.flags.voidPendingTransfer = true →
      ∃ n cluster, Reserved u s.journal n cluster x.resource tr.pendingID) :
    Classified tr (tb.createTransfer s.books tr).1 ↔ digestible s.books tr = true := by
  by_cases hv : tr.flags.voidPendingTransfer = true
  · obtain ⟨n, cluster, hres⟩ := hvoid hv
    exact hs.void_turn hfill hfree hJ hu hown hx hv hres
  · rw [Bool.not_eq_true] at hv
    have husable : tr.id.usable = true := by
      rw [hown.id_eq (hfree.derive_ne_zero hx)]
      exact hfree.usable _ hx
    rw [classified_of_regular hv, classified_regular (tb.transfer_documented s.books tr) hv
      (hs.own_valid hu hown husable hv)]
    intro e he
    obtain ⟨z, hz, -, hstored, hpre⟩ := hs.known hfree hJ hown hx he
    obtain ⟨tz, -, hoz⟩ := hs.journal z hz
    have hkind := hown.same_kind hoz hpre
    rw [hstored.2.2.2 (hkind.1 ▸ hv)]
    exact hkind

theorem Sound.request_turns (hs : s.Sound h) (hfill : Filled s.books s.journal) {S : Set Preimage}
    (hfree : h.CollisionFree S) (hJ : preimages s.journal ⊆ S) (hu : s.tenants u = some t)
    {xs : List (Source × Transfer)} (hown : ∀ x ∈ xs, Own h t.provisioning x.1 x.2)
    (hxs : ∀ x ∈ xs, x.1.preimage ∈ S)
    (hvoid : ∀ x ∈ xs, x.2.flags.voidPendingTransfer = true →
      ∃ n cluster, Reserved u s.journal n cluster x.1.resource x.2.pendingID) :
    Classifies tb s.books (xs.map Prod.snd) ↔ digests tb s.books (xs.map Prod.snd) = true := by
  induction xs generalizing s with
  | nil => simp [Classifies, digests]
  | cons x xs ih =>
    simp only [List.forall_mem_cons] at hown hxs hvoid
    have hdoc := tb.transfer_documented s.books x.2
    have hnext : Sound h { s with
        books := (tb.createTransfers s.books ([x].map Prod.snd)).2
        journal := (tb.record (s.books, s.journal) [x]).2 } :=
      hs.submit hu (by simpa using hown.1)
    have hmono : s.journal ⊆ ⟨x.1, x.2, (tb.createTransfer s.books x.2).1⟩ :: s.journal :=
      List.subset_cons_self _ _
    have hrest := ih (s := { s with
        books := (tb.createTransfer s.books x.2).2
        journal := ⟨x.1, x.2, (tb.createTransfer s.books x.2).1⟩ :: s.journal })
      hnext (hfill.decide hs.wf hdoc) ?_ hu hown.2 hxs.2 ?_
    · simp only [List.map_cons, Classifies, digests, Bool.and_eq_true, hrest,
        hs.turn hfill hfree hJ hu hown.1 hxs.1 hvoid.1]
    · rintro p ⟨y, hy, rfl⟩
      rcases List.mem_cons.mp hy with rfl | hy
      · exact hxs.1
      · exact hJ ⟨y, hy, rfl⟩
    · intro y hy hv
      obtain ⟨n, cluster, hres⟩ := hvoid.2 y hy hv
      exact ⟨n, cluster, hres.mono hmono⟩

end State

/-- The transfers of both requests of an attempt with their sources. -/
def batchEntries (h : Blake3) (flight : Flight) (att : BatchAttempt) : List (Source × Transfer) :=
  usageEntries h flight.input ++ gaugeEntries flight.seqNo flight.input att

theorem batchEntries_transfers (h : Blake3) (flight : Flight) (att : BatchAttempt) :
    (batchEntries h flight att).map Prod.snd = batchRequest h flight.input att := by
  rw [batchEntries, List.map_append, usageEntries_transfers, gaugeEntries_transfers, batchRequest]

theorem Noted.void_reserved {h : Blake3} {u : Uint128} {J : List (Entry Source)} {e : Execution}
    {flight : Flight} {att : BatchAttempt} (hn : Noted u J e) {p : Provisioning}
    (hinput : flight.input =
      p.accountingInput.flushInput h flight.seqNo e.state.curBatch e.state.pendingGaugeIDs)
    {x : Source × Transfer} (hx : x ∈ batchEntries h flight att)
    (hv : x.2.flags.voidPendingTransfer = true) :
    ∃ n cluster, Reserved u J n cluster x.1.resource x.2.pendingID := by
  rcases List.mem_append.mp hx with hx | hx
  · obtain ⟨y, -, rfl⟩ := List.mem_map.mp hx
    cases hv
  · obtain ⟨k, y, hy, ⟨old, hold, rfl⟩ | ⟨-, rfl⟩⟩ := mem_gaugeEntriesFrom hx
    · rw [hinput] at hy
      obtain ⟨hb, cluster, quota, sink, -, -, -, -, -, he⟩ := mem_flushUpdates hy
      rw [he] at hold
      obtain ⟨n, cluster, hres, -⟩ := hn.recorded y.1 y.2.resource old hold
      exact ⟨n, cluster, hres⟩
    · cases hv

namespace State

variable {h : Blake3} {tb : Service} {s : State} {u : Uint128} {t : Tenant} {e : Execution}
  {site : FlushSite} {flight : Flight} {att : BatchAttempt}

/-- The three steps of a batch whose requests are both answered. -/
def batchSteps (u : Uint128) (att : BatchAttempt) (continuing : Bool) : List SystemEvent :=
  [.tenant u (.submitUsage att true), .tenant u (.submitGauges true),
    .tenant u (.workflow (.deliver continuing))]

section Steps

variable {per : Table ResourceType ResourceBatchResult} {R : TBBatchResult}

theorem step_submitUsage (hu : s.tenants u = some t) (he : t.accounting = some e)
    (hhalf : t.halfway = none) (hmain : e.main = .submitting site flight)
    (hout : flight.run.outcome = none)
    (hok : (submitUsage h flight.input tb att s.books).1 = .ok per) :
    ∃ s', s.step h tb (.tenant u (.submitUsage att true)) = some s' ∧
      s'.tenants u = some { t with halfway := some (att, per) } ∧
      s'.books = (submitUsage h flight.input tb att s.books).2 :=
  ⟨s.commit tb u ⟨{ t with halfway := some (att, per) },
      (submitUsage h flight.input tb att s.books).2,
      reachedEntries att.usageFate (usageEntries h flight.input)⟩,
    by simp [step, hu, Tenant.act, Tenant.submitUsage, he, hhalf, hmain, hok, heard, hout],
    Table.set_same _ _ _, rfl⟩

theorem step_submitGauges (h : Blake3) (hu : s.tenants u = some t) (he : t.accounting = some e)
    (hhalf : t.halfway = some (att, per)) (hmain : e.main = .submitting site flight)
    (hout : flight.run.outcome = none)
    (hok : (submitGauges flight.input tb att per s.books).1 = .ok R) :
    ∃ s' run, s.step h tb (.tenant u (.submitGauges true)) = some s' ∧
      run.outcome = some (.ok R) ∧
      s'.tenants u = some { t with
        accounting := some { e with main := .submitting site { flight with run := run } }
        halfway := none } ∧
      s'.books = (submitGauges flight.input tb att per s.books).2 := by
  obtain ⟨run, hrun, hdone⟩ : ∃ run, flight.run.attempt maximumAttempts
      (att.usageFate.reached || att.gaugeFate.reached) (.ok R) = some run ∧
      run.outcome = some (.ok R) := by
    simp [ActivityRun.attempt, hout, ActivityRun.decided]
  refine ⟨s.commit tb u ⟨_, (submitGauges flight.input tb att per s.books).2,
    reachedEntries att.gaugeFate (gaugeEntries flight.seqNo flight.input att)⟩, run, ?_, hdone,
    Table.set_same _ _ _, rfl⟩
  simp [step, hu, Tenant.act, Tenant.submitGauges, he, hhalf, hmain, hok, heard, Execution.step,
    Execution.attempt, hrun]

/-- A step of the workflow that asks the ledger nothing. -/
theorem step_workflow {h : Blake3} (tb : Service) {w : Event} {e' : Execution}
    (hu : s.tenants u = some t) (he : t.accounting = some e) (hask : w.asksLedger = false)
    (hw : e.step h w = some e') :
    ∃ s', s.step h tb (.tenant u (.workflow w)) = some s' ∧
      s'.tenants u = some { t with accounting := some e' } ∧
      s'.books = s.books ∧ s'.journal = s.journal :=
  ⟨s.commit tb u (Tenant.alone { t with accounting := some e' } s.books),
    by simp [step, hu, Tenant.act, Tenant.workflow, hask, Tenant.advance, he, hw],
    Table.set_same _ _ _, rfl, rfl⟩

theorem step_deliver (h : Blake3) (tb : Service) (hu : s.tenants u = some t) (he : t.accounting = some e)
    (hmain : e.main = .submitting site flight) (hout : flight.run.outcome = some (.ok R))
    (continuing : Bool) :
    ∃ s', s.step h tb (.tenant u (.workflow (.deliver continuing))) = some s' ∧
      s'.tenants u = some { t with accounting := some (e.batchSubmitted site flight.input R) } ∧
      s'.books = s.books ∧ s'.journal = s.journal :=
  step_workflow tb hu he rfl (by simp [Execution.step, Execution.deliver, hmain, hout])

theorem batch_cleared (hu : s.tenants u = some t) (he : t.accounting = some e)
    (hhalf : t.halfway = none) (hmain : e.main = .submitting site flight)
    (hout : flight.run.outcome = none)
    (hok : (submitTBBatch h flight.input tb att s.books).1 = .ok R) (continuing : Bool) :
    ∃ s' t' e', runSteps (step h tb) s (batchSteps u att continuing) = some s' ∧
      s'.tenants u = some t' ∧ t'.accounting = some e' ∧ e'.state = e.state.applyBatchResult R ∧
      e'.main.flight = none ∧ e'.history.delivered = e.history.delivered ∧
      e'.history.succeeded = flight.input.heartbeats ++ e.history.succeeded ∧
      s'.books = (submitTBBatch h flight.input tb att s.books).2 := by
  rcases husage : submitUsage h flight.input tb att s.books with ⟨err | per, L₁⟩
  · simp [submitTBBatch, husage] at hok
  · rw [submitTBBatch, husage] at hok
    dsimp only at hok
    obtain ⟨s₁, hs₁, hu₁, hbooks⟩ :=
      step_submitUsage hu he hhalf hmain hout (congrArg Prod.fst husage)
    rw [husage] at hbooks
    dsimp only at hbooks
    rw [← hbooks] at hok
    obtain ⟨s₂, run, hs₂, hrun, hu₂, hbooks₂⟩ := step_submitGauges h hu₁ he rfl hmain hout hok
    obtain ⟨s₃, hs₃, hu₃, hbooks₃, -⟩ := step_deliver h tb hu₂ rfl rfl hrun continuing
    refine ⟨s₃, _, _, ?_, hu₃, rfl, rfl, rfl, rfl, rfl, ?_⟩
    · simp only [batchSteps, runSteps, hs₁, hs₂, hs₃, Option.bind_some]
    · rw [hbooks₃, hbooks₂, hbooks, submitTBBatch, husage]

end Steps

/-- An attempt whose requests are answered succeeds exactly if every transfer of
the batch is digestible at its turn, and then the workflow clears the batch. -/
theorem batch_succeeds_iff (es : List SystemEvent)
    (hr : runSteps (step h tb) initial es = some s) (hu : s.tenants u = some t)
    (he : t.accounting = some e) (hmain : e.main = .submitting site flight) (att : BatchAttempt)
    (husage : att.usageFate = .answered) (hgauge : att.gaugeFate = .answered)
    (hfree : h.CollisionFree
      (preimages (tb.record (s.books, s.journal) (batchEntries h flight att)).2)) :
    ((∃ R, (submitTBBatch h flight.input tb att s.books).1 = .ok R) ↔
        digests tb s.books (batchRequest h flight.input att) = true) ∧
      (digests tb s.books (batchRequest h flight.input att) = true → t.halfway = none →
        flight.run.outcome = none → ∀ continuing, ∃ s' t' e',
          runSteps (step h tb) s (batchSteps u att continuing) = some s' ∧
            s'.tenants u = some t' ∧ t'.accounting = some e' ∧ e'.state.curBatch = []) := by
  have hs := run_sound hr
  have hsub : preimages s.journal ⊆
      preimages (tb.record (s.books, s.journal) (batchEntries h flight att)).2 :=
    preimages_mono (tb.record_suffix (s.books, s.journal) _).subset
  have hnoted := run_noted hr (hfree.mono hsub) hu he
  have hinput := ((hs.tenants u t hu).handed e he).flight flight (by rw [hmain]; rfl)
  have hown : ∀ x ∈ batchEntries h flight att, Own h t.provisioning x.1 x.2 := by
    intro x hx
    rw [batchEntries, hinput] at hx
    rcases List.mem_append.mp hx with hx | hx
    · exact usageEntries_own hx
    · exact gaugeEntries_own hx
  have hsent : ∀ x ∈ batchEntries h flight att, x.1.preimage ∈
      preimages (tb.record (s.books, s.journal) (batchEntries h flight att)).2 := by
    intro x hx
    obtain ⟨r, -, hmem⟩ := tb.record_answer (s.books, s.journal) hx
    exact ⟨_, hmem, rfl⟩
  have hturns : Classifies tb s.books (batchRequest h flight.input att) ↔
      digests tb s.books (batchRequest h flight.input att) = true := by
    rw [← batchEntries_transfers]
    exact hs.request_turns (run_filled hr) hfree hsub hu hown hsent
      fun x hx hv => hnoted.void_reserved hinput hx hv
  have hiff : (∃ R, (submitTBBatch h flight.input tb att s.books).1 = .ok R) ↔
      digests tb s.books (batchRequest h flight.input att) = true := by
    simp only [submitTBBatch_ok_iff, husage, hgauge, or_true, true_and, hturns, exists_and_left,
      exists_eq, and_true]
  refine ⟨hiff, fun hd hhalf hout continuing => ?_⟩
  obtain ⟨R, hok⟩ := hiff.mpr hd
  obtain ⟨s', t', e', hrun, hu', he', hstate, -⟩ :=
    batch_cleared hu he hhalf hmain hout hok continuing
  exact ⟨s', t', e', hrun, hu', he', by rw [hstate]; rfl⟩

/-- The batch the tenant has in flight. -/
def flight? (s : State) (u : Uint128) : Option Flight :=
  ((s.tenants u).bind (·.accounting)).bind (·.main.flight)

theorem flight?_some {f : Flight} (hf : s.flight? u = some f) :
    ∃ t e site, s.tenants u = some t ∧ t.accounting = some e ∧ e.main = .submitting site f := by
  obtain ⟨e, he, hf⟩ := Option.bind_eq_some_iff.mp hf
  obtain ⟨t, ht, he⟩ := Option.bind_eq_some_iff.mp he
  cases hm : e.main with
  | submitting site flight =>
    rw [hm] at hf
    cases hf
    exact ⟨t, e, site, ht, he, hm⟩
  | _ =>
    rw [hm] at hf
    cases hf

/-- A heartbeat within the credits of the tenant is in flight. -/
def creditedBatch : List SystemEvent :=
  sampleProvisioning 100 20 ++ (sampleBatchOf [sampleHeartbeat 1] 0).map (.tenant sampleTenant)

theorem creditedBatch_succeeds :
    ∃ s flight, runSteps (step .positional Reference.service) initial creditedBatch = some s ∧
      s.flight? sampleTenant = some flight ∧ flight.input.heartbeats = [sampleHeartbeat 1] ∧
      ∃ R, (submitTBBatch .positional flight.input Reference.service {} s.books).1 = .ok R := by
  obtain ⟨s, hr, hp⟩ := runSteps_any (step .positional Reference.service) initial creditedBatch
    (fun s => (s.flight? sampleTenant).any fun flight =>
      flight.input.heartbeats = [sampleHeartbeat 1] &&
      digests Reference.service s.books (batchRequest .positional flight.input {}) &&
      collisionTest .positional (Reference.service.record (s.books, s.journal)
        (batchEntries .positional flight {})).2) (by decide +kernel)
  obtain ⟨flight, hf, hp⟩ := Option.any_eq_true _ _ |>.mp hp
  simp only [Bool.and_eq_true, decide_eq_true_eq] at hp
  obtain ⟨t, e, site, hu, he, hmain⟩ := flight?_some hf
  exact ⟨s, flight, hr, hf, hp.1.1, (batch_succeeds_iff creditedBatch hr hu he hmain {} rfl rfl
    (collisionFree_of_collisionTest hp.2)).1.mpr hp.1.2⟩

/-- The same heartbeat is received twice before the timer flushes it, and its usage
exceeds the credits. Every attempt of the flush fails, and a second flush begins. -/
def poisonedBatch : List SystemEvent :=
  sampleProvisioning 4 20 ++ (sampleBatchOf [sampleHeartbeat 1, sampleHeartbeat 1] 0 ++
    List.replicate 5 (TenantEvent.submitUsage {} true) ++ [TenantEvent.workflow (.deliver false),
      .workflow (.timerFires 1), .workflow (.timerBranch false)]).map (.tenant sampleTenant)

/-- The service answers, and the batch fails again: the second copy of the usage
transfer has an identifier that the rejection of the first has used up. -/
theorem poisonedBatch_fails :
    ∃ s flight, runSteps (step .positional Reference.service) initial poisonedBatch = some s ∧
      s.flight? sampleTenant = some flight ∧ flight.seqNo = 2 ∧
      flight.input.heartbeats = [sampleHeartbeat 1, sampleHeartbeat 1] ∧
      (submitTBBatch .positional flight.input Reference.service {} s.books).1 =
        .error (.submitUsageBatch (.unexpectedResult 0 .cpuHours .idAlreadyFailed)) := by
  obtain ⟨s, hr, hp⟩ := runSteps_any (step .positional Reference.service) initial poisonedBatch
    (fun s => (s.flight? sampleTenant).any fun flight : Flight => flight.seqNo = 2 &&
      flight.input.heartbeats = [sampleHeartbeat 1, sampleHeartbeat 1] &&
      match (submitTBBatch .positional flight.input Reference.service {} s.books).1 with
      | .error err =>
        err = .submitUsageBatch (.unexpectedResult 0 .cpuHours .idAlreadyFailed)
      | .ok _ => false) (by decide +kernel)
  obtain ⟨flight, hf, hp⟩ := Option.any_eq_true _ _ |>.mp hp
  simp only [Bool.and_eq_true, decide_eq_true_eq] at hp
  refine ⟨s, flight, hr, hf, hp.1.1, hp.1.2, ?_⟩
  revert hp
  cases (submitTBBatch .positional flight.input Reference.service {} s.books).1 with
  | error err => simp
  | ok R => simp

end State
end CloudCredit.System
