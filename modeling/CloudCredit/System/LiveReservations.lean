import CloudCredit.System.GaugeOrder

/-!
# The live reservations of a tenant

Between two flushes the live reservations on a gauge account are all written
down, as long as no flush failed for good and left one of its own behind. The
invariant also has what a batch in flight that has succeeded will bring: the old
reservations of its clusters are gone, and the new ones are in its result.
-/
namespace CloudCredit.System

open Library TigerBeetle Domain Ledger Accounting

/-- A reservation of a tenant debits one of its own accounts. -/
theorem Own.pending {h : Blake3} {p : Provisioning} {x : Source} {tr : Transfer}
    (hown : Own h p x tr) (hp : tr.flags.pending = true) :
    tr.flags.voidPendingTransfer = false ∧ ∃ n cluster r,
      x = .gaugeNew p.input.tenantUUID n cluster r ∧ p.accountIDs r = some tr.debitAccountID := by
  cases hown with
  | gaugeNew hid hg hquota => exact ⟨rfl, _, _, _, rfl, hquota⟩
  | _ => cases hp

theorem Own.reservation {h : Blake3} {p : Provisioning} {u cluster : Uint128} {n : UInt64}
    {r : ResourceType} {tr : Transfer} (hown : Own h p (.gaugeNew u n cluster r) tr) :
    tr.flags.pending = true ∧ p.accountIDs r = some tr.debitAccountID := by
  cases hown with
  | gaugeNew hid hg hquota => exact ⟨rfl, hquota⟩

theorem createTransfers_held (tb : Service) {L : Books} (hL : L.Wf) {i : Uint128}
    {ts : List Transfer} (hts : ∀ t ∈ ts, t.debitAccountID ≠ i ∧ t.debitAccountID ≠ 0) :
    (tb.createTransfers L ts).2.held i = L.held i := by
  induction ts generalizing L with
  | nil => rfl
  | cons t ts ih =>
    simp only [List.forall_mem_cons] at hts
    have hdoc := tb.transfer_documented L t
    have hrest := ih (hdoc.wf hL) hts.2
    rw [hdoc.held_of_ne hL hts.1.1 hts.1.2] at hrest
    exact hrest

namespace State

variable {h : Blake3} {tb : Service} {s s' : State} {u : Uint128} {t : Tenant} {e : Execution}

theorem Sound.account_ne_zero (hs : s.Sound h) {i : Uint128} {a : Account}
    (ha : s.books.account? i = some a) : i ≠ 0 := by
  obtain ⟨hmem, rfl⟩ := Books.account?_some ha
  exact hs.wf.account_ne_zero hmem

theorem Sound.debit_apart (hs : s.Sound h) (hu : s.tenants u = some t) {r : ResourceType}
    {i : Uint128} (hg : r.isGauge = true) (hi : t.provisioning.accountIDs r = some i)
    {v : Uint128} {t' : Tenant} (hv : s.tenants v = some t') {x : Source} {tr : Transfer}
    (hown : Own h t'.provisioning x tr) (hx : x.tenant ≠ u ∨ x.flushNumber = none) :
    tr.debitAccountID ≠ i ∧ tr.debitAccountID ≠ 0 := by
  have hquotas : ∀ q j, t'.provisioning.accountIDs q = some j → (v = u → q ≠ r) → j ≠ i ∧ j ≠ 0 := by
    intro q j hj hne
    refine ⟨fun heq => ?_, hs.account_ne_zero (hs.quota_open hv hj)⟩
    obtain ⟨hvu, hq⟩ := (hs.quota_eq_iff hu hi hv hj).mp heq
    exact hne hvu hq
  have hoperators : ∀ q j, t'.provisioning.input.globalOperatorIDs q = some j → j ≠ i ∧ j ≠ 0 := by
    intro q j hj
    have ha := hs.operator_open hv hj
    exact ⟨global_ne_quota (hs.quota_open hu hi) (by decide) ha, hs.account_ne_zero ha⟩
  have htenant : x.tenant = v := by rw [hown.tenant, hs.uuid v t' hv]
  cases hown with
  | usage hg' hquota hsink =>
    refine hquotas _ _ hquota fun _ hq => ?_
    rw [hq, hg] at hg'
    cases hg'
  | gaugeNew hid hg' hquota hsink hpos =>
    refine hquotas _ _ hquota fun hvu => ?_
    rcases hx with hne | hnone
    · exact absurd (htenant.trans hvu) hne
    · cases hnone
  | gaugeVoid hid hg' hquota hsink =>
    refine hquotas _ _ hquota fun hvu => ?_
    rcases hx with hne | hnone
    · exact absurd (htenant.trans hvu) hne
    · cases hnone
  | provision hid hcredits hquota hoperator => exact hoperators _ _ hoperator
  | credit hid hquota hoperator => exact hoperators _ _ hoperator

end State

theorem Apart.held {h : Blake3} {tb : Service} {s s' : State} {u : Uint128} {t : Tenant}
    (ha : Apart h tb u s s') (hs : s.Sound h) (hu : s.tenants u = some t) {r : ResourceType}
    {i : Uint128} (hg : r.isGauge = true) (hi : t.provisioning.accountIDs r = some i) :
    s'.books.held i = s.books.held i := by
  cases ha with
  | accounts as hbooks hjournal =>
    obtain ⟨htransfers, -⟩ := tb.createAccounts_frame s.books as
    simp only [Books.held, Books.live, Books.isVoided, hbooks, htransfers]
  | transfers hv hown hxs hbooks hjournal =>
    rw [hbooks]
    refine createTransfers_held tb hs.wf fun tr htr => ?_
    obtain ⟨x, hx, rfl⟩ := List.mem_map.mp htr
    exact hs.debit_apart hu hg hi hv (hown x hx) (hxs x hx)

theorem Apart.grows {h : Blake3} {tb : Service} {s s' : State} {u : Uint128}
    (ha : Apart h tb u s s') : s.books.Grows s'.books := by
  cases ha with
  | accounts as hbooks hjournal => exact hbooks ▸ tb.createAccounts_grows s.books as
  | transfers hv hown hxs hbooks hjournal => exact hbooks ▸ tb.createTransfers_grows s.books _

namespace State

variable {h : Blake3} {tb : Service} {s s' : State} {u : Uint128} {t : Tenant} {e : Execution}

theorem Sound.held_reserved (hs : s.Sound h) (hu : s.tenants u = some t) {r : ResourceType}
    {i : Uint128} (hi : t.provisioning.accountIDs r = some i) {p : Transfer}
    (hp : p ∈ s.books.held i) : ∃ x ∈ s.journal, accepted x = true ∧ x.transfer = p ∧
      ∃ n cluster, x.origin = .gaugeNew u n cluster r := by
  obtain ⟨hmem, hpending, -, hdebit⟩ := Books.mem_held.mp hp
  obtain ⟨x, hx, hok, hstored⟩ := hs.recorded.find hmem
  obtain ⟨t', ht', hown⟩ := hs.journal x hx
  rw [hstored.2.1] at hpending
  obtain ⟨hregular, n, cluster, q, ho, hquota⟩ := hown.pending hpending
  have hpx := hstored.2.2.2 hregular
  subst hpx
  rw [hdebit] at hquota
  obtain ⟨htenant, rfl⟩ := (hs.quota_eq_iff hu hi ht' hquota).mp rfl
  rw [← hown.tenant, htenant] at ho
  exact ⟨x, hx, hok, rfl, n, cluster, ho⟩

end State

/-- What ties the live reservations on the accounts `ids` to the workflow. They are
written down, or belong to the batch in flight; when that has succeeded, the old ones
of its clusters are gone and the new ones are in its result. -/
structure Live (u : Uint128) (ids : Table ResourceType Uint128) (L : Books)
    (J : List (Entry Source)) (e : Execution) : Prop where
  covered : ∀ r i, r.isGauge = true → ids r = some i → ∀ p ∈ L.held i,
    (∃ c, (e.state.pendingGaugeIDs c).bind (· r) = some p.id) ∨
      ∃ f cluster, e.main.flight = some f ∧ Reserved u J f.seqNo cluster r p.id
  released : ∀ f R, e.main.flight = some f → f.run.outcome = some (.ok R) → ∀ c r old id,
    (e.state.pendingGaugeIDs c).bind (· r) = some old →
      (R.gaugeUpdates c).bind (· r) = some id → L.isVoided old = true
  reported : ∀ f R, e.main.flight = some f → f.run.outcome = some (.ok R) → ∀ cluster r id,
    Reserved u J f.seqNo cluster r id → id ≠ 0 ∧ ∃ c, (R.gaugeUpdates c).bind (· r) = some id
  complete : ∀ f R, e.main.flight = some f → f.run.outcome = some (.ok R) →
    ∀ hb ∈ f.input.heartbeats, ∀ r i, r.isGauge = true → ids r = some i →
      ((R.gaugeUpdates hb.clusterID).bind (· r)).isSome = true

/-- A batch that failed for good left none of its reservations behind. -/
def Traceless (u : Uint128) (ids : Table ResourceType Uint128) (L : Books)
    (J : List (Entry Source)) (e : Execution) : Prop :=
  ∀ f err, e.main.flight = some f → f.run.outcome = some (.error err) → ∀ r i,
    r.isGauge = true → ids r = some i → ∀ p ∈ L.held i, ∀ cluster,
      ¬Reserved u J f.seqNo cluster r p.id

namespace Live

variable {h : Blake3} {tb : Service} {s s' : State} {u : Uint128}
  {ids : Table ResourceType Uint128} {L L' : Books} {J J' : List (Entry Source)}
  {e e' : Execution}

theorem carry (hl : Live u ids L J e)
    (hpending : e'.state.pendingGaugeIDs = e.state.pendingGaugeIDs)
    (hflight : e'.main.flight = e.main.flight) : Live u ids L J e' := by
  refine ⟨?_, ?_, ?_, ?_⟩
  · rw [hpending, hflight]
    exact hl.covered
  · rw [hpending, hflight]
    exact hl.released
  · rw [hflight]
    exact hl.reported
  · rw [hflight]
    exact hl.complete

theorem flush {site : FlushSite} (hl : Live u ids L J e) (hidle : e.main.flight = none) :
    Live u ids L J (e.beginFlush h site) := by
  refine ⟨fun r i hg hi p hp => ?_, ?_, ?_, ?_⟩
  · rcases hl.covered r i hg hi p hp with hrec | ⟨f, cluster, hf, -⟩
    · exact .inl hrec
    · rw [hidle] at hf
      cases hf
  all_goals
    intro f R hf hR
    cases hf
    cases hR

theorem succeed {site : FlushSite} {flight : Flight} {R : TBBatchResult} (hl : Live u ids L J e)
    (hmain : e.main = .submitting site flight) (hout : flight.run.outcome = some (.ok R)) :
    Live u ids L J (e.batchSubmitted site flight.input R) := by
  have hflight : e.main.flight = some flight := by rw [hmain]; rfl
  refine ⟨fun r i hg hi p hp => .inl ?_, fun f R hf => (by cases hf), fun f R hf => (by cases hf),
    fun f R hf => (by cases hf)⟩
  change ∃ c, (applyGaugeUpdates e.state.pendingGaugeIDs R.gaugeUpdates c).bind (· r) = some p.id
  simp only [applyGaugeUpdates_apply]
  rcases hl.covered r i hg hi p hp with ⟨c, hrec⟩ | ⟨f, cluster, hf, hres⟩
  · refine ⟨c, ?_⟩
    cases hrep : (R.gaugeUpdates c).bind (· r) with
    | none => exact hrec
    | some id =>
      have hvoid := hl.released flight R hflight hout c r p.id id hrec hrep
      rw [(Books.mem_held.mp hp).2.2.1] at hvoid
      cases hvoid
  · cases hf.symm.trans hflight
    obtain ⟨hne, c, hrep⟩ := hl.reported flight R hflight hout cluster r p.id hres
    exact ⟨c, by simp [hrep, hne]⟩

theorem fail {site : FlushSite} {flight : Flight} {err : ActivityError} {main : Main}
    (hl : Live u ids L J e) (ht : Traceless u ids L J e)
    (hmain : e.main = .submitting site flight) (hout : flight.run.outcome = some (.error err))
    (hidle : main.flight = none) : Live u ids L J { e with main := main } := by
  refine ⟨fun r i hg hi p hp => ?_, ?_, ?_, ?_⟩
  · rcases hl.covered r i hg hi p hp with hrec | ⟨f, cluster, hf, hres⟩
    · exact .inl hrec
    · have hflight : e.main.flight = some flight := by rw [hmain]; rfl
      cases hf.symm.trans hflight
      exact absurd hres (ht flight err hflight hout r i hg hi p hp cluster)
  all_goals
    intro f R hf
    rw [hidle] at hf
    cases hf

theorem move {w : Event} (hw : ∀ reached reply, w ≠ .attempt reached (.batch reply))
    (hm : Move h w e e') (hl : Live u ids L J e) (ht : Traceless u ids L J e) :
    Live u ids L J e' ∧ Traceless u ids L J e' := by
  have hkeep : ∀ m : Execution, m.state.pendingGaugeIDs = e.state.pendingGaugeIDs →
      m.main.flight = e.main.flight → Live u ids L J m ∧ Traceless u ids L J m := by
    intro m hp hf
    refine ⟨hl.carry hp hf, ?_⟩
    unfold Traceless
    rw [hf]
    exact ht
  cases hm with
  | quiet same => exact hkeep _ (by rw [same.state]) same.flight
  | register sig => exact hkeep _ (e.state.registerCluster_pendingGaugeIDs sig) rfl
  | flush site hbatch hidle =>
    refine ⟨hl.flush hidle, fun f err hf herr => ?_⟩
    cases hf
    cases herr
  | attempt hev => exact absurd hev (hw _ _)
  | succeed hev hmain hout => exact ⟨hl.succeed hmain hout, fun f err hf => by cases hf⟩
  | fail hev hmain hout hidle =>
    refine ⟨hl.fail ht hmain hout hidle, fun f err hf => ?_⟩
    rw [hidle] at hf
    cases hf
  | _ => exact hkeep _ rfl rfl

theorem rests (hr : Rests h e e') (hl : Live u ids L J e) (ht : Traceless u ids L J e) :
    Live u ids L J e' := by
  refine (hr.keeps (P := fun m => Live u ids L J m ∧ Traceless u ids L J m)
    (fun w m m' hw hm _ hp => hp.1.move hw hm hp.2) (fun hmain hp => ?_) ⟨hl, ht⟩).1
  have hidle : e.main.flight = none := by rw [hmain]; rfl
  refine ⟨hp.1.carry rfl (by rw [hidle]; rfl), fun f err hf => by cases hf⟩

theorem extend (hl : Live u ids L J e) (hJ : J ⊆ J')
    (hnew : ∀ x ∈ J', x ∈ J ∨ x.origin.tenant ≠ u ∨ x.origin.flushNumber = none)
    (hheld : ∀ r i, r.isGauge = true → ids r = some i → L'.held i = L.held i)
    (hgrows : L.Grows L') : Live u ids L' J' e := by
  refine ⟨fun r i hg hi p hp => ?_, fun f R hf hR c r old id hold hid =>
    hgrows.isVoided (hl.released f R hf hR c r old id hold hid),
    fun f R hf hR cluster r id hres => ?_, hl.complete⟩
  · rw [hheld r i hg hi] at hp
    refine (hl.covered r i hg hi p hp).imp id ?_
    rintro ⟨f, cluster, hf, hres⟩
    exact ⟨f, cluster, hf, hres.mono hJ⟩
  · obtain ⟨x, hx, hok, ho, hid⟩ := hres
    refine hl.reported f R hf hR cluster r id ⟨x, ?_, hok, ho, hid⟩
    rcases hnew x hx with hx | hu | hnone
    · exact hx
    · rw [ho] at hu
      exact absurd rfl hu
    · rw [ho] at hnone
      cases hnone

theorem attempt_fails {site : FlushSite} {flight : Flight} {run : Run TBBatchResult}
    (hl : Live u ids L J e) (hmain : e.main = .submitting site flight)
    (hrun : ∀ R, run.outcome ≠ some (.ok R)) :
    Live u ids L J { e with main := .submitting site { flight with run := run } } := by
  refine ⟨fun r i hg hi p hp => ?_, ?_, ?_, ?_⟩
  · refine (hl.covered r i hg hi p hp).imp id ?_
    rintro ⟨f, cluster, hf, hres⟩
    rw [hmain] at hf
    cases hf
    exact ⟨_, cluster, rfl, hres⟩
  all_goals
    intro f R hf hR
    cases hf
    exact absurd hR (hrun R)

end Live

namespace GaugesAnswered

variable {h : Blake3} {tb : Service} {s s' : State} {p : Provisioning} {seqNo : UInt64}
  {batch : List HeartbeatSignal} {pending : GaugeIDs} {att : BatchAttempt} {R : TBBatchResult}

/-- The old reservation of a reported cluster is gone. -/
theorem released
    (ha : GaugesAnswered tb seqNo (p.accountingInput.flushInput h seqNo batch pending) att s s' R)
    (hs : s.Sound h) (hfree : h.CollisionFree (preimages s'.journal))
    {c : String} {r : ResourceType} {old id : Uint128} (hold : (pending c).bind (· r) = some old)
    (hid : (R.gaugeUpdates c).bind (· r) = some id) {n : UInt64} {cluster : Uint128}
    (hres : Reserved p.input.tenantUUID s.journal n cluster r old) :
    s'.books.isVoided old = true := by
  obtain ⟨per, hok⟩ := ha.ok
  obtain ⟨y, hy, hkey⟩ : ∃ y ∈ gaugeUpdates (p.accountingInput.flushInput h seqNo batch pending)
      att.clusters, updateKey y = (c, r) := by
    by_contra hno
    push Not at hno
    rw [reported_of_notMem hs.wf (ha.newPendingID_ne_zero hfree) hok hno] at hid
    cases hid
  cases hkey
  obtain ⟨hb, cluster', quota, sink, -, -, -, -, -, he⟩ := mem_flushUpdates hy
  have hyold : y.2.oldPendingID = some old := by rw [he]; exact hold
  obtain ⟨k, hsent⟩ := gaugeEntries_update seqNo hy
  have hvoid := hsent (y.2.voidTransfer att.rand k old, ⟨k, true⟩)
    (List.mem_append_left _ (by simp [hyold]))
  have hmem : y.2.voidTransfer att.rand k old ∈
      gaugeRequest (p.accountingInput.flushInput h seqNo batch pending) att := by
    rw [← gaugeEntries_transfers seqNo]
    exact List.mem_map.mpr ⟨_, hvoid, rfl⟩
  obtain ⟨-, hclass, -⟩ := (submitGauges_ok_iff _ tb att s.books per R).mp hok
  obtain ⟨M, hM, hgrow, hrest, hc⟩ := hclass.turn hs.wf hmem
  obtain ⟨x, -, -, -, hx⟩ := hs.reservation hres
  rcases classified_void_settles (tb.transfer_documented M _) rfl hc with hnone | hvoided
  · have hfound : M.transfer? old = some x.transfer := hgrow.transfer? hM hx
    have hnone' : M.transfer? old = none := hnone
    rw [hfound] at hnone'
    cases hnone'
  · rw [ha.books]
    exact hrest.isVoided hvoided

theorem reported_of_reserved
    (ha : GaugesAnswered tb seqNo (p.accountingInput.flushInput h seqNo batch pending) att s s' R)
    (hs : s.Sound h) (hs' : s'.Sound h) (hfree : h.CollisionFree (preimages s'.journal))
    {x : Entry Source} (hx : x ∈ s'.journal) (hok : accepted x = true) {u cluster : Uint128}
    {n : UInt64} {r : ResourceType} (ho : x.origin = .gaugeNew u n cluster r) {att' : BatchAttempt}
    (hsent : (x.origin, x.transfer) ∈ gaugeEntries seqNo
      (p.accountingInput.flushInput h seqNo batch pending) att') :
    x.transfer.id ≠ 0 ∧ ∃ y ∈ gaugeUpdates (p.accountingInput.flushInput h seqNo batch pending)
      att.clusters, 0 < y.2.newAmount ∧ y.2.resource = r ∧ y.2.newPendingID = x.transfer.id ∧
        (∃ k, x.transfer = y.2.newTransfer att'.rand k) ∧
        (R.gaugeUpdates y.1).bind (· r) = some x.transfer.id := by
  obtain ⟨k, y, hy, ⟨old, -, heq⟩ | ⟨hpos, heq⟩⟩ := mem_gaugeEntriesFrom hsent
  · simp [gaugeSource, ho] at heq
  · simp only [Prod.mk.injEq] at heq
    have hr : y.2.resource = r := by
      have hsource := heq.1
      rw [ho] at hsource
      simp only [gaugeSource, Bool.false_eq_true, if_false, Source.gaugeNew.injEq] at hsource
      exact hsource.2.2.2.symm
    have hy' : y ∈ gaugeUpdates (p.accountingInput.flushInput h seqNo batch pending) att.clusters :=
      mem_gaugeUpdates.mpr (mem_gaugeUpdates.mp hy)
    have hne := ha.newPendingID_ne_zero hfree y hy' hpos
    have hid : x.transfer.id = y.2.newPendingID := by
      rw [heq.2]
      exact if_pos hne
    obtain ⟨t', -, hown⟩ := hs'.journal x hx
    obtain ⟨tr, htr, hstored⟩ := hs'.recorded.stored hx hok
    have hfound : (s'.books.transfer? y.2.newPendingID).isSome = true := by
      rw [← hid, ← hstored.1, hs'.wf.transfer?_eq htr]
      rfl
    refine ⟨hid ▸ hne, y, hy', hpos, hr, hid.symm, ⟨k, heq.2⟩, ?_⟩
    rw [← hr, ha.reported hs.wf hfree hy', committedID, if_pos ⟨hpos, hfound⟩, hid]

end GaugesAnswered

theorem flushUpdate_of_mem {h : Blake3} {L : Books} {p : Provisioning} {seqNo : UInt64}
    {batch : List HeartbeatSignal} {pending : GaugeIDs} (o : IterationOrder String)
    (hk : KnowsAccounts L p) {hb : HeartbeatSignal}
    (hmem : hb ∈ (p.accountingInput.flushInput h seqNo batch pending).heartbeats)
    {r : ResourceType} {i : Uint128} (hg : r.isGauge = true) (hi : p.accountIDs r = some i) :
    ∃ y ∈ gaugeUpdates (p.accountingInput.flushInput h seqNo batch pending) o,
      updateKey y = (hb.clusterID, r) := by
  obtain ⟨l, hl, -⟩ := exists_latest hmem
  obtain ⟨sink, hsink, -⟩ := hk.sinks r
  have hi' : (p.accountingInput.flushInput h seqNo batch pending).accountMap.tenantQuotaIDs r =
      some i := hi
  have hsink' : (p.accountingInput.flushInput h seqNo batch pending).globalSinkIDs r =
      some sink := hsink
  have hupdate : ∃ y, gaugeUpdate? (p.accountingInput.flushInput h seqNo batch pending)
      hb.clusterID l r = some y := by
    simp [gaugeUpdate?, hg, hi', hsink']
  obtain ⟨y, hy⟩ := hupdate
  have hr : y.resource = r := by
    obtain ⟨-, quota, sink, -, -, he⟩ := gaugeUpdate?_some hy
    rw [he]
  refine ⟨(hb.clusterID, y), mem_gaugeUpdates.mpr ⟨l, hl, ?_⟩, by simp [updateKey, hr]⟩
  rw [hr]
  exact hy

/-- The second request of an attempt. -/
theorem Live.gauges {h : Blake3} {tb : Service} {s s' : State} {t t' : Tenant} {e : Execution}
    {site : FlushSite} {flight : Flight} {att : BatchAttempt}
    {per : Table ResourceType ResourceBatchResult} {run : Run TBBatchResult} {u : Uint128}
    (hl : Live u t.provisioning.accountIDs s.books s.journal e)
    (hn : Noted u s.journal e) (hs : s.Sound h) (hs' : s'.Sound h) (hu : s.tenants u = some t)
    (hu' : s'.tenants u = some t') (hsame : t'.provisioning = t.provisioning)
    (hfree : h.CollisionFree (preimages s'.journal))
    (ho : FlushOrder u s'.journal { e with main := .submitting site { flight with run := run } })
    (hmain : e.main = .submitting site flight)
    (hinput : flight.input = t.provisioning.accountingInput.flushInput h flight.seqNo
      e.state.curBatch e.state.pendingGaugeIDs)
    (hrun : ∀ R, run.outcome = some (.ok R) →
      (submitGauges flight.input tb att per s.books).1 = .ok R)
    (hbooks : s'.books = (tb.createTransfers s.books
      ((reachedEntries att.gaugeFate (gaugeEntries flight.seqNo flight.input att)).map Prod.snd)).2)
    (hjournal : s'.journal = (tb.record (s.books, s.journal)
      (reachedEntries att.gaugeFate (gaugeEntries flight.seqNo flight.input att))).2) :
    Live u t.provisioning.accountIDs s'.books s'.journal
      { e with main := .submitting site { flight with run := run } } := by
  have hflight : e.main.flight = some flight := by rw [hmain]; rfl
  have hgrows : s.books.Grows s'.books := hbooks ▸ tb.createTransfers_grows s.books _
  have hsub : s.journal ⊆ s'.journal := by
    rw [hjournal]
    exact (tb.record_suffix (s.books, s.journal) _).subset
  have hanswered : ∀ R, run.outcome = some (.ok R) → GaugesAnswered tb flight.seqNo
      (t.provisioning.accountingInput.flushInput h flight.seqNo e.state.curBatch
        e.state.pendingGaugeIDs) att s s' R := by
    intro R hR
    rw [← hinput]
    exact .of_ok (hrun R hR) hbooks hjournal
  refine ⟨fun r i hg hi p hp => ?_, fun f R hf hR c r old id hold hid => ?_,
    fun f R hf hR cluster r id hres => ?_, fun f R hf hR hb hmem r i hg hi => ?_⟩
  · obtain ⟨x, hx, hok, rfl, n, cluster, hxo⟩ := hs'.held_reserved hu' (hsame ▸ hi) hp
    rw [hjournal] at hx
    rcases mem_record hx with hx | hsent
    · obtain ⟨hmem, hpending, hvoid, hdebit⟩ := Books.mem_held.mp hp
      have hheld : x.transfer ∈ s.books.held i := by
        refine Books.mem_held.mpr ⟨?_, hpending, ?_, hdebit⟩
        · obtain ⟨t'', -, hown⟩ := hs.journal x hx
          obtain ⟨tr, htr, hstored⟩ := hs.recorded.stored hx hok
          rwa [← hstored.2.2.2 (hown.pending hpending).1]
        · by_contra hv
          rw [Bool.not_eq_false] at hv
          rw [hgrows.isVoided hv] at hvoid
          cases hvoid
      refine (hl.covered r i hg hi _ hheld).imp id ?_
      rintro ⟨f, cluster', hf, hres⟩
      cases hf.symm.trans hflight
      exact ⟨_, cluster', rfl, hres.mono hsub⟩
    · have hnumber := gaugeEntries_flushNumber (mem_reachedEntries hsent).1
      rw [hxo] at hnumber
      cases hnumber
      exact .inr ⟨_, cluster, rfl, x, hjournal ▸ hx, hok, hxo, rfl⟩
  · cases hf
    obtain ⟨n, cluster, hres, -⟩ := hn.recorded c r old hold
    rw [← hs.uuid u t hu] at hres
    exact (hanswered R hR).released hs hfree hold hid hres
  · cases hf
    obtain ⟨x, hx, hok, hxo, rfl⟩ := hres
    rcases ho.flight _ rfl x hx (by rw [hxo]; rfl) flight.seqNo (by rw [hxo]; rfl) with hlt | ⟨-, att', hsent⟩
    · exact absurd hlt (UInt64.lt_irrefl _)
    · dsimp only at hsent
      rw [hinput] at hsent
      obtain ⟨hne, y, -, -, -, -, -, hrep⟩ :=
        (hanswered R hR).reported_of_reserved hs hs' hfree hx hok hxo hsent
      exact ⟨hne, y.1, hrep⟩
  · cases hf
    dsimp only at hmem
    rw [hinput] at hmem
    obtain ⟨y, hy, hkey⟩ := flushUpdate_of_mem att.clusters (hs.tenants u t hu).known hmem hg hi
    simp only [updateKey, Prod.mk.injEq] at hkey
    rw [← hkey.1, ← hkey.2, (hanswered R hR).reported hs.wf hfree hy]
    rfl

/-- The identifiers a flush has prepared for its new reservations. -/
def preparedIDs (input : TBBatchInput) : List Uint128 :=
  (clusterKeys input.heartbeats).flatMap fun c =>
    allResources.filterMap fun r => (input.newGaugePendingIDs c).bind (· r)

theorem prepared_of_sent {h : Blake3} {p : Provisioning} {seqNo : UInt64}
    {batch : List HeartbeatSignal} {pending : GaugeIDs} {att : BatchAttempt}
    {x : Source × Transfer} {u cluster : Uint128} {n : UInt64} {r : ResourceType}
    (hx : x ∈ gaugeEntries seqNo (p.accountingInput.flushInput h seqNo batch pending) att)
    (ho : x.1 = .gaugeNew u n cluster r) (hne : h.derive x.1.preimage ≠ 0) :
    x.2.id ∈ preparedIDs (p.accountingInput.flushInput h seqNo batch pending) := by
  have hown := gaugeEntries_own hx
  obtain ⟨k, y, hy, ⟨old, -, rfl⟩ | ⟨hpos, rfl⟩⟩ := mem_gaugeEntriesFrom hx
  · simp [gaugeSource] at ho
  · obtain ⟨hb, cluster', quota, sink, hlatest, hkey, hg, -, -, he⟩ := mem_flushUpdates hy
    obtain ⟨hmem, hc⟩ := latestByCluster_mem hlatest
    have hid := hown.id_eq hne
    dsimp only at hid ⊢
    rw [hid, gaugeSource_new hkey k]
    refine List.mem_flatMap.mpr ⟨y.1, List.mem_dedup.mpr (List.mem_map.mpr ⟨hb, hmem, hc⟩),
      List.mem_filterMap.mpr ⟨y.2.resource, mem_allResources _, ?_⟩⟩
    have hnew := gaugeIDs_apply h.deriveGaugePendingID p.input.tenantUUID seqNo batch y.1 hg
    rw [hkey] at hnew
    exact hnew

namespace State

variable {h : Blake3} {tb : Service} {s s' : State} {u : Uint128} {t : Tenant} {e : Execution}
  {es : List SystemEvent}

theorem flight?_eq (hu : s.tenants u = some t) (he : t.accounting = some e) :
    s.flight? u = e.main.flight := by
  simp [flight?, hu, he]

/-- If a flush of the tenant has failed for good, none of the reservations it
prepared is live. -/
def LeavesNothing (u : Uint128) (s : State) : Prop :=
  ∀ f err, s.flight? u = some f → f.run.outcome = some (.error err) →
    ∀ p ∈ s.books.live, p.id ∉ preparedIDs f.input

instance (u : Uint128) : DecidablePred (LeavesNothing u) := fun s =>
  decidable_of_iff ((s.flight? u).all fun f => f.run.outcome.all fun outcome =>
    outcome.toBool || decide (∀ p ∈ s.books.live, p.id ∉ preparedIDs f.input)) (by
      simp only [Option.all_eq_true, Bool.or_eq_true, decide_eq_true_eq, LeavesNothing]
      refine ⟨fun hall f err hf herr => (hall f hf _ herr).resolve_left (by simp [Except.toBool]),
        fun hall f hf outcome hout => ?_⟩
      cases outcome with
      | ok R => exact .inl rfl
      | error err => exact .inr (hall f err hf hout))

theorem LeavesNothing.traceless (hl : s.LeavesNothing u) (hs : s.Sound h)
    (hfree : h.CollisionFree (preimages s.journal)) (hu : s.tenants u = some t)
    (he : t.accounting = some e) (ho : FlushOrder u s.journal e) :
    Traceless u t.provisioning.accountIDs s.books s.journal e := by
  rintro f err hf herr r i - - p hp cluster ⟨x, hx, -, hxo, hid⟩
  refine hl f err ((flight?_eq hu he).trans hf) herr p (List.mem_of_mem_filter hp) ?_
  rcases ho.flight f hf x hx (by rw [hxo]; rfl) f.seqNo (by rw [hxo]; rfl) with hlt | ⟨-, att, hsent⟩
  · exact absurd hlt (UInt64.lt_irrefl _)
  · rw [((hs.tenants u t hu).handed e he).flight f hf] at hsent ⊢
    rw [← hid]
    exact prepared_of_sent hsent hxo (hfree.derive_ne_zero ⟨x, hx, rfl⟩)

theorem run_live (hr : runSteps (step h tb) initial es = some s)
    (hclean : Along (step h tb) (fun s _ => s.Counting u ∧ s.LeavesNothing u) initial es)
    (hfree : h.CollisionFree (preimages s.journal)) (hu : s.tenants u = some t)
    (he : t.accounting = some e) :
    Live u t.provisioning.accountIDs s.books s.journal e := by
  refine run_induction (step h tb) (P := fun es s =>
    Along (step h tb) (fun s _ => s.Counting u ∧ s.LeavesNothing u) initial es →
    h.CollisionFree (preimages s.journal) → ∀ t e, s.tenants u = some t →
      t.accounting = some e → Live u t.provisioning.accountIDs s.books s.journal e)
    ?_ ?_ hr hclean hfree t e hu he
  · intro _ _ t e hu
    cases hu
  · intro xs s ev s' hr hold hstep hclean hfree t' e' hu' he'
    have hr' : runSteps (step h tb) initial (xs ++ [ev]) = some s' :=
      (runSteps_concat _ hr).mpr hstep
    have hcount' := Along.mono (step h tb) (fun _ _ hc => hc.1) hclean
    obtain ⟨hclean, hlast⟩ := hclean.append _ hr
    have hcount := Along.mono (step h tb) (fun _ _ hc => hc.1) hclean
    have hs := run_sound hr
    have hs' := step_sound hs hstep
    have hJ := (step_journal hstep).subset
    have hfree' := hfree.mono (preimages_mono hJ)
    rcases step_gauges hs hstep hu' he' with ⟨t, e, hu, he, hsame, hstep'⟩ | ⟨hsame, hnone, p, rfl⟩
    · have hl := hold hclean hfree' t e hu he
      rw [hsame]
      have hextend : ∀ {m}, Apart h tb u s s' →
          Live u t.provisioning.accountIDs s.books s.journal m →
          Live u t.provisioning.accountIDs s'.books s'.journal m := fun hapart hm =>
        hm.extend hJ hapart.new (fun r i hg hi => hapart.held hs hu hg hi) hapart.grows
      cases hstep' with
      | rests hrests hapart =>
        have htrace := hlast.1.2.traceless hs hfree' hu he (run_inOrder hr hcount hfree' hu he)
        exact hextend hapart (hl.rests hrests htrace)
      | fails hmain hend hrun hapart =>
        subst hend
        exact hextend hapart (hl.attempt_fails hmain hrun)
      | gauges per hmain hout hend hrun hbooks hjournal =>
        subst hend
        exact hl.gauges (run_noted hr hfree' hu he) hs hs' hu hu' hsame hfree
          (run_inOrder hr' hcount' hfree hu' he') hmain
          (((hs.tenants u t hu).handed e he).flight _ (by rw [hmain]; rfl)) hrun hbooks hjournal
    · refine ⟨fun r i hg hi q hq => ?_, fun f R hf => (by cases hf), fun f R hf => (by cases hf),
        fun f R hf => (by cases hf)⟩
      obtain ⟨x, hx, -, -, n, cluster, hxo⟩ := hs'.held_reserved hu' hi hq
      rw [hsame] at hx
      have hno := run_unstarted hr hnone x hx (by rw [hxo]; rfl)
      rw [hxo] at hno
      cases hno

end State

end CloudCredit.System
