import CloudCredit.Accounting.GaugeRecords
import CloudCredit.System.UniqueIDs

/-!
# The reservations a workflow knows

A workflow writes down the identifiers its gauge requests report. Whatever it has
written down, or is about to, names a reservation the service committed for it.
As long as the counter does not wrap around, the gauge transfers of a flush are
later than those of every flush before it, so a void never names a reservation
of its own flush.
-/
namespace CloudCredit.System

open Library TigerBeetle Domain Ledger Accounting

/-- A running workflow makes a step that is no attempt of its batch. -/
inductive Rests (h : Blake3) (e e' : Execution) : Prop
  | moves {w : Event} (hw : ∀ reached reply, w ≠ .attempt reached (.batch reply))
      (hmoves : Moves h w e e') : Rests h e e'
  | restarted (hmain : e.main = .continuing) (he : e' = e.restarted) : Rests h e e'

namespace Rests

variable {h : Blake3} {e e' : Execution}

theorem refl (e : Execution) : Rests h e e :=
  .moves (w := .continueAsNew) (by simp) .none

theorem same (hsame : SameCore e e') : Rests h e e' :=
  .moves (w := .continueAsNew) (by simp) (.last (.quiet hsame))

theorem step {w : Event} (hw : ∀ reached reply, w ≠ .attempt reached (.batch reply))
    (hs : e.step h w = some e') : Rests h e e' := by
  by_cases hc : w = .continueAsNew
  · subst hc
    obtain ⟨hmain, he⟩ := Execution.continueAsNew_some hs
    exact .restarted hmain he
  · exact .moves hw (Execution.step_moves hs hc)

theorem keeps {P : Execution → Prop}
    (hP : ∀ w m m', (∀ reached reply, w ≠ .attempt reached (.batch reply)) → Move h w m m' →
      m.state.flushSeqNo = e.state.flushSeqNo → P m → P m')
    (hC : e.main = .continuing → P e → P e.restarted) (hr : Rests h e e') (he : P e) : P e' := by
  cases hr with
  | moves hw hmoves =>
    exact Execution.Moves.keeps (fun m m' hm hn => hP _ m m' hw hm hn) hmoves rfl he
  | restarted hmain he' =>
    subst he'
    exact hC hmain he

theorem delivered (hr : Rests h e e') : e.history.delivered ⊆ e'.history.delivered := by
  refine hr.keeps (P := fun m => e.history.delivered ⊆ m.history.delivered) ?_ (fun _ hm => hm)
    (fun _ hx => hx)
  intro w m m' _ hm _ hsub
  cases hm with
  | quiet same =>
    rw [same.delivered]
    exact hsub
  | arrive sig => exact fun x hx => List.mem_cons_of_mem _ (hsub hx)
  | _ => exact hsub

end Rests

/-- Nothing is written, or something else than gauges of the tenant `u`. -/
inductive Apart (h : Blake3) (tb : Service) (u : Uint128) (s s' : State) : Prop
  | accounts (as : List Account) (hbooks : s'.books = (tb.createAccounts s.books as).2)
      (hjournal : s'.journal = s.journal) : Apart h tb u s s'
  | transfers {v : Uint128} {t : Tenant} {xs : List (Source × Transfer)} (hv : s.tenants v = some t)
      (hown : ∀ x ∈ xs, Own h t.provisioning x.1 x.2)
      (hxs : ∀ x ∈ xs, x.1.tenant ≠ u ∨ x.1.flushNumber = none)
      (hbooks : s'.books = (tb.createTransfers s.books (xs.map Prod.snd)).2)
      (hjournal : s'.journal = (tb.record (s.books, s.journal) xs).2) : Apart h tb u s s'

theorem Apart.new {h : Blake3} {tb : Service} {u : Uint128} {s s' : State}
    (ha : Apart h tb u s s') :
    ∀ x ∈ s'.journal, x ∈ s.journal ∨ x.origin.tenant ≠ u ∨ x.origin.flushNumber = none := by
  cases ha with
  | accounts as hbooks hjournal =>
    rw [hjournal]
    exact fun x hx => .inl hx
  | transfers hv hown hxs hbooks hjournal =>
    rw [hjournal]
    exact fun x hx => (mem_record hx).imp id fun hsent => hxs _ hsent

/-- What a step of the system is to the gauges of the tenant `u`. -/
inductive GaugeStep (h : Blake3) (tb : Service) (u : Uint128) (s s' : State)
    (e e' : Execution) : Prop
  | rests (hrests : Rests h e e') (hapart : Apart h tb u s s')
  | fails {site : FlushSite} {flight : Flight} {run : Run TBBatchResult}
      (hmain : e.main = .submitting site flight)
      (he : e' = { e with main := .submitting site { flight with run := run } })
      (hrun : ∀ R, run.outcome ≠ some (.ok R)) (hapart : Apart h tb u s s')
  | gauges {site : FlushSite} {flight : Flight} {att : BatchAttempt}
      (per : Table ResourceType ResourceBatchResult) {run : Run TBBatchResult}
      (hmain : e.main = .submitting site flight) (hout : flight.run.outcome = none)
      (he : e' = { e with main := .submitting site { flight with run := run } })
      (hrun : ∀ R, run.outcome = some (.ok R) → (submitGauges flight.input tb att per s.books).1 = .ok R)
      (hbooks : s'.books = (tb.createTransfers s.books
        ((reachedEntries att.gaugeFate (gaugeEntries flight.seqNo flight.input att)).map Prod.snd)).2)
      (hjournal : s'.journal = (tb.record (s.books, s.journal)
        (reachedEntries att.gaugeFate (gaugeEntries flight.seqNo flight.input att))).2)

namespace State

variable {h : Blake3} {tb : Service} {s s' : State} {u : Uint128} {t t' : Tenant}
  {e e' : Execution}

/-- Every step of the system rests the gauges of a running workflow or is an
attempt of its batch. -/
theorem step_gauges {ev : SystemEvent} (hs : s.Sound h) (hstep : s.step h tb ev = some s')
    (hu' : s'.tenants u = some t') (he' : t'.accounting = some e') :
    (∃ t e, s.tenants u = some t ∧ t.accounting = some e ∧ t'.provisioning = t.provisioning ∧
        GaugeStep h tb u s s' e e') ∨
      s'.journal = s.journal ∧ (∀ t, s.tenants u = some t → t.accounting = none) ∧
        ∃ p : Provisioning, e' = .start p.accountingInput := by
  cases step_seen hs hstep hu' with
  | registered hnone haccounting =>
    rw [haccounting] at he'
    cases he'
  | elsewhere hu helse =>
    refine .inl ⟨t', e', hu, he', rfl, .rests (.refl e') ?_⟩
    cases helse with
    | accounts as hbooks hjournal => exact .accounts as hbooks hjournal
    | transfers hv ht hxs hbooks hjournal =>
      refine .transfers ht hxs (fun x hx => .inl ?_) hbooks hjournal
      rw [(hxs x hx).tenant, hs.uuid _ _ ht]
      exact hv
  | @own t ev o hu hacts heff =>
    have hapart : (∀ x ∈ o.sent, x.1.flushNumber = none) → Apart h tb u s (s.commit tb u o) := by
      intro hnone
      obtain ⟨t', L', xs⟩ := o
      dsimp only at heff hnone
      cases heff with
      | accounts has => exact .accounts _ rfl rfl
      | transfers hxs => exact .transfers hu hxs (fun x hx => .inr (hnone x hx)) rfl rfl
    cases hacts with
    | provisioning hnone =>
      rw [show t.accounting = none from hnone] at he'
      cases he'
    | start hnone =>
      refine .inr ⟨rfl, fun t₁ hu₁ => ?_, _, (Option.some.inj he').symm⟩
      cases hu.symm.trans hu₁
      exact hnone
    | @workflow w e _ he hask hw =>
      cases he'
      refine .inl ⟨t, e, hu, he, rfl, .rests (.step ?_ hw) (hapart (by simp [Tenant.alone]))⟩
      rintro reached reply rfl
      cases hask
    | @lookup _ e _ he same =>
      cases he'
      exact .inl ⟨t, e, hu, he, rfl, .rests (.same same) (hapart (by simp [Tenant.alone]))⟩
    | usage he =>
      cases he.symm.trans he'
      exact .inl ⟨t, e', hu, he, rfl, .rests (.refl e') (hapart fun x hx =>
        usageEntries_flushNumber (mem_reachedEntries hx).1)⟩
    | @usageFails att reported e site flight err run he hhalf hmain herr hrun =>
      cases he'
      refine .inl ⟨t, e, hu, he, rfl, .fails hmain rfl (fun R hR => ?_) (hapart fun x hx =>
        usageEntries_flushNumber (mem_reachedEntries hx).1)⟩
      obtain ⟨-, rfl⟩ := ActivityRun.attempt_some hrun
      have hok : (Except.error err : Except ActivityError TBBatchResult) = .ok R :=
        ActivityRun.decided_ok hR
      cases hok
    | @gauges reported e site flight att per run he hhalf hmain hrun =>
      cases he'
      obtain ⟨hout, rfl⟩ := ActivityRun.attempt_some hrun
      refine .inl ⟨t, e, hu, he, rfl, .gauges per hmain hout rfl (fun R hR => ?_) ?_ rfl⟩
      · exact (Tenant.heard_ok (ActivityRun.decided_ok hR)).2
      · exact submitGauges_sent tb flight.input att per flight.seqNo s.books
    | @credit i att reported e c run he hc hrun =>
      cases he'
      have hw : e.step h (.creditAttempt i att.fate.reached
          (heard reported (submitAllocationTransfers tb att c.input s.books).1)) =
          some { e with credits := e.credits.set i { c with run := run } } := by
        simp [Execution.step, Execution.creditAttempt, hc, hrun]
      refine .inl ⟨t, e, hu, he, rfl, .rests (.step (by simp) hw) (hapart fun x hx => ?_)⟩
      obtain ⟨k, a, -, rfl⟩ := mem_allocationEntriesFrom (mem_reachedEntries hx).1
      rfl

/-- Before the workflow of a tenant starts its only transfers are those of its
provisioning. -/
theorem run_provisions {es : List SystemEvent} (hr : runSteps (step h tb) initial es = some s)
    (hnone : ∀ t, s.tenants u = some t → t.accounting = none) :
    ∀ x ∈ s.journal, x.origin.tenant = u →
      ∃ periodStartNs r credits, x.origin = .provision u periodStartNs r credits := by
  refine (invariant_of_steps (step h tb) (P := fun s => s.Sound h ∧
    ((∀ t, s.tenants u = some t → t.accounting = none) →
      ∀ x ∈ s.journal, x.origin.tenant = u →
        ∃ periodStartNs r credits, x.origin = .provision u periodStartNs r credits)) ?_
    ⟨initial_sound, fun _ => by simp [initial]⟩ hr).2 hnone
  rintro s ev s' ⟨hs, hold⟩ hstep
  refine ⟨step_sound hs hstep, fun hnone x hx hu => ?_⟩
  have hnone' : ∀ t, s.tenants u = some t → t.accounting = none := by
    intro t ht
    by_contra hsome
    obtain ⟨e, he⟩ := Option.ne_none_iff_exists'.mp hsome
    obtain ⟨t', e', hu', he', -⟩ := step_execution hs hstep ht he
    rw [hnone t' hu'] at he'
    cases he'
  obtain ⟨new, hnew⟩ := step_journal hstep
  rw [← hnew] at hx
  rcases List.mem_append.mp hx with hx | hx
  · obtain ⟨w, t, o, -, ht, hacts, hsent⟩ := step_new hs hstep hnew.symm hx
    rw [hu] at ht
    obtain ⟨periodStartNs, r, credits, ho⟩ := hacts.provision_of_none (hnone' t ht) hsent
    rw [hs.uuid u t ht] at ho
    exact ⟨periodStartNs, r, credits, ho⟩
  · exact hold hnone' x hx hu

theorem run_unstarted {es : List SystemEvent} (hr : runSteps (step h tb) initial es = some s)
    (hnone : ∀ t, s.tenants u = some t → t.accounting = none) :
    ∀ x ∈ s.journal, x.origin.tenant = u → x.origin.flushNumber = none := by
  intro x hx hu
  obtain ⟨periodStartNs, r, credits, ho⟩ := run_provisions hr hnone x hx hu
  rw [ho]
  rfl

end State

theorem gaugeEntriesFrom_update {seqNo : UInt64} {input : TBBatchInput} {rand : ℕ → Uint128}
    {y : String × GaugePendingUpdate} {ys : List (String × GaugePendingUpdate)} (hy : y ∈ ys)
    (n : ℕ) : ∃ k, ∀ z ∈ y.2.transfers rand k,
      (gaugeSource seqNo input y z.2, z.1) ∈ gaugeEntriesFrom seqNo input rand n ys := by
  induction ys generalizing n with
  | nil => cases hy
  | cons y' ys ih =>
    rcases List.mem_cons.mp hy with rfl | hy
    · exact ⟨n, fun z hz => List.mem_append_left _ (List.mem_map.mpr ⟨z, hz, rfl⟩)⟩
    · obtain ⟨k, hk⟩ := ih hy (n + 1)
      exact ⟨k, fun z hz => List.mem_append_right _ (hk z hz)⟩

theorem gaugeEntries_update (seqNo : UInt64) {input : TBBatchInput} {att : BatchAttempt}
    {y : String × GaugePendingUpdate} (hy : y ∈ gaugeUpdates input att.clusters) :
    ∃ k, ∀ z ∈ y.2.transfers att.rand k,
      (gaugeSource seqNo input y z.2, z.1) ∈ gaugeEntries seqNo input att :=
  gaugeEntriesFrom_update hy 0

theorem gaugeNew_source {x : Source} {u cluster : Uint128} {seqNo : UInt64} {r : ResourceType}
    (hx : x.preimage = .gaugePending u seqNo cluster r.ledgerID) :
    x = .gaugeNew u seqNo cluster r := by
  cases x with
  | gaugeNew t n c q =>
    simp only [Source.preimage, Preimage.gaugePending.injEq] at hx
    obtain ⟨rfl, rfl, rfl, hl⟩ := hx
    rw [ResourceType.ledgerID_injective hl]
  | _ => cases hx

/-- The source of an update's new reservation. -/
theorem gaugeSource_new {h : Blake3} {p : Provisioning} {seqNo : UInt64}
    {batch : List HeartbeatSignal} {pending : GaugeIDs} {y : String × GaugePendingUpdate}
    {cluster : Uint128} (hk : keyCluster batch y.1 = some cluster) (k : ℕ) :
    gaugeSource seqNo (p.accountingInput.flushInput h seqNo batch pending) y ⟨k, false⟩ =
      .gaugeNew p.input.tenantUUID seqNo cluster y.2.resource := by
  have hkey : keyCluster (p.accountingInput.flushInput h seqNo batch pending).heartbeats y.1 =
      some cluster := hk
  simp only [gaugeSource, hkey, Option.getD_some, Bool.false_eq_true, if_false]
  rfl

/-- The service committed this reservation of the tenant. -/
def Reserved (u : Uint128) (J : List (Entry Source)) (n : UInt64) (cluster : Uint128)
    (r : ResourceType) (id : Uint128) : Prop :=
  ∃ x ∈ J, accepted x = true ∧ x.origin = .gaugeNew u n cluster r ∧ x.transfer.id = id

theorem Reserved.mono {u : Uint128} {J J' : List (Entry Source)} {n : UInt64} {cluster : Uint128}
    {r : ResourceType} {id : Uint128} (hr : Reserved u J n cluster r id) (hJ : J ⊆ J') :
    Reserved u J' n cluster r id := by
  obtain ⟨x, hx, hrest⟩ := hr
  exact ⟨x, hJ hx, hrest⟩

/-- The gauge request of a flush was answered, and the activity reports `R`. -/
structure GaugesAnswered (tb : Service) (seqNo : UInt64) (input : TBBatchInput)
    (att : BatchAttempt) (s s' : State) (R : TBBatchResult) : Prop where
  ok : ∃ per, (submitGauges input tb att per s.books).1 = .ok R
  books : s'.books = (tb.createTransfers s.books (gaugeRequest input att)).2
  journal : s'.journal = (tb.record (s.books, s.journal) (gaugeEntries seqNo input att)).2

namespace GaugesAnswered

variable {h : Blake3} {tb : Service} {s s' : State} {p : Provisioning} {seqNo : UInt64}
  {input : TBBatchInput} {batch : List HeartbeatSignal} {pending : GaugeIDs} {att : BatchAttempt}
  {R : TBBatchResult} {y : String × GaugePendingUpdate}

theorem of_ok {per : Table ResourceType ResourceBatchResult}
    (hok : (submitGauges input tb att per s.books).1 = .ok R)
    (hbooks : s'.books = (tb.createTransfers s.books
      ((reachedEntries att.gaugeFate (gaugeEntries seqNo input att)).map Prod.snd)).2)
    (hjournal : s'.journal = (tb.record (s.books, s.journal)
      (reachedEntries att.gaugeFate (gaugeEntries seqNo input att))).2) :
    GaugesAnswered tb seqNo input att s s' R := by
  have hall : reachedEntries att.gaugeFate (gaugeEntries seqNo input att) =
      gaugeEntries seqNo input att := by
    obtain ⟨hnil | hfate, -⟩ := (submitGauges_ok_iff input tb att s.books per R).mp hok
    · rw [← gaugeEntries_transfers seqNo, List.map_eq_nil_iff] at hnil
      rw [hnil]
      exact ite_self []
    · rw [hfate]
      rfl
  rw [hall] at hbooks hjournal
  exact ⟨⟨per, hok⟩, by rw [hbooks, gaugeEntries_transfers], hjournal⟩

theorem new_decided
    (ha : GaugesAnswered tb seqNo (p.accountingInput.flushInput h seqNo batch pending) att s s' R)
    (hfree : h.CollisionFree (preimages s'.journal))
    (hy : y ∈ gaugeUpdates (p.accountingInput.flushInput h seqNo batch pending) att.clusters)
    (hpos : 0 < y.2.newAmount) {cluster : Uint128} (hk : keyCluster batch y.1 = some cluster) :
    y.2.newPendingID ≠ 0 ∧ ∃ k, ∃ x ∈ s'.journal,
      x.origin = .gaugeNew p.input.tenantUUID seqNo cluster y.2.resource ∧
      x.transfer = y.2.newTransfer att.rand k ∧ x.transfer.id = y.2.newPendingID := by
  obtain ⟨k, hsent⟩ := gaugeEntries_update seqNo hy
  have hnew := hsent (y.2.newTransfer att.rand k, ⟨k, false⟩)
    (List.mem_append_right _ (by simp [hpos]))
  dsimp only at hnew
  rw [gaugeSource_new hk k] at hnew
  obtain ⟨r, -, hmem⟩ := tb.record_answer (s.books, s.journal) hnew
  rw [← ha.journal] at hmem
  obtain ⟨hb, cluster', quota, sink, -, hcluster, -, -, -, he⟩ := mem_flushUpdates hy
  cases hk.symm.trans hcluster
  have hid : y.2.newPendingID =
      h.derive (.gaugePending p.input.tenantUUID seqNo cluster y.2.resource.ledgerID) := by rw [he]
  have hne : y.2.newPendingID ≠ 0 := by
    rw [hid]
    exact hfree.derive_ne_zero ⟨_, hmem, rfl⟩
  exact ⟨hne, k, _, hmem, rfl, rfl, if_pos hne⟩

theorem newPendingID_ne_zero
    (ha : GaugesAnswered tb seqNo (p.accountingInput.flushInput h seqNo batch pending) att s s' R)
    (hfree : h.CollisionFree (preimages s'.journal)) :
    ∀ y ∈ gaugeUpdates (p.accountingInput.flushInput h seqNo batch pending) att.clusters,
      0 < y.2.newAmount → y.2.newPendingID ≠ 0 := by
  intro y hy hpos
  obtain ⟨hb, cluster, quota, sink, -, hcluster, -⟩ := mem_flushUpdates hy
  exact (ha.new_decided hfree hy hpos hcluster).1

/-- For an update the report has what the books have now. -/
theorem reported
    (ha : GaugesAnswered tb seqNo (p.accountingInput.flushInput h seqNo batch pending) att s s' R)
    (hL : s.books.Wf) (hfree : h.CollisionFree (preimages s'.journal))
    (hy : y ∈ gaugeUpdates (p.accountingInput.flushInput h seqNo batch pending) att.clusters) :
    (R.gaugeUpdates y.1).bind (· y.2.resource) = some (committedID s'.books y.2) := by
  obtain ⟨per, hok⟩ := ha.ok
  rw [ha.books]
  exact reported_of_mem hL (ha.newPendingID_ne_zero hfree) hok hy

/-- What is reported is the reservation of an update, and it is committed. -/
theorem reserved
    (ha : GaugesAnswered tb seqNo (p.accountingInput.flushInput h seqNo batch pending) att s s' R)
    (hL : s.books.Wf) (hs : s'.Sound h) (hfree : h.CollisionFree (preimages s'.journal))
    {c : String} {r : ResourceType} {id : Uint128} (hid : (R.gaugeUpdates c).bind (· r) = some id)
    (hne : id ≠ 0) : ∃ cluster, keyCluster batch c = some cluster ∧
      Reserved p.input.tenantUUID s'.journal seqNo cluster r id := by
  by_cases hno : ∀ y ∈ gaugeUpdates (p.accountingInput.flushInput h seqNo batch pending)
      att.clusters, updateKey y ≠ (c, r)
  · obtain ⟨per, hok⟩ := ha.ok
    rw [reported_of_notMem hL (ha.newPendingID_ne_zero hfree) hok hno] at hid
    cases hid
  · push Not at hno
    obtain ⟨y, hy, hkey⟩ := hno
    cases hkey
    rw [ha.reported hL hfree hy] at hid
    unfold committedID at hid
    split_ifs at hid with hcom
    · obtain ⟨hb, cluster, quota, sink, -, hcluster, -⟩ := mem_flushUpdates hy
      obtain ⟨-, k, x, hx, hxo, -, hxid⟩ := ha.new_decided hfree hy hcom.1 hcluster
      obtain ⟨tr, htr⟩ := Option.isSome_iff_exists.mp hcom.2
      obtain ⟨hmem, htrid⟩ := Books.transfer?_some htr
      obtain ⟨z, hz, hzok, hstored⟩ := hs.recorded.find hmem
      have hzid : z.transfer.id = y.2.newPendingID := hstored.1.symm.trans htrid
      have hpre := hs.preimage_eq hfree hz hx (hzid.trans hxid.symm)
      rw [hxo] at hpre
      cases hid
      exact ⟨cluster, hcluster, z, hz, hzok, gaugeNew_source hpre, hzid⟩
    · cases hid
      exact absurd rfl hne

end GaugesAnswered

/-- A delivered heartbeat has this name and this identifier for its cluster. -/
def Names (e : Execution) (c : String) (cluster : Uint128) : Prop :=
  ∃ hb ∈ e.history.delivered, hb.clusterID = c ∧ hb.clusterUUID = cluster

theorem Names.mono {e e' : Execution} {c : String} {cluster : Uint128} (hn : Names e c cluster)
    (hd : e.history.delivered ⊆ e'.history.delivered) : Names e' c cluster := by
  obtain ⟨hb, hmem, hrest⟩ := hn
  exact ⟨hb, hd hmem, hrest⟩

theorem names_of_key {e : Execution} (hbatch : e.state.curBatch ⊆ e.history.delivered) {c : String}
    {cluster : Uint128} (hk : keyCluster e.state.curBatch c = some cluster) :
    Names e c cluster := by
  obtain ⟨hb, hlast, rfl⟩ := Option.map_eq_some_iff.mp hk
  obtain ⟨hmem, hc⟩ := List.mem_filter.mp (List.mem_of_getLast? hlast)
  exact ⟨hb, hbatch hmem, by simpa using hc, rfl⟩

/-- Every identifier the workflow has written down, or is told of, is that of a
reservation committed for the cluster it stands under. Every reservation of the
tenant carries the identifier of its cluster. -/
structure Noted (u : Uint128) (J : List (Entry Source)) (e : Execution) : Prop where
  recorded : ∀ c r id, (e.state.pendingGaugeIDs c).bind (· r) = some id →
    ∃ n cluster, Reserved u J n cluster r id ∧ Names e c cluster
  reported : ∀ f R, e.main.flight = some f → f.run.outcome = some (.ok R) →
    ∀ c r id, (R.gaugeUpdates c).bind (· r) = some id → id ≠ 0 →
      ∃ cluster, Reserved u J f.seqNo cluster r id ∧ Names e c cluster
  tagged : ∀ x ∈ J, ∀ n cluster r, x.origin = .gaugeNew u n cluster r →
    ∃ c, Names e c cluster ∧ Names e c x.transfer.userData128

namespace Noted

variable {h : Blake3} {tb : Service} {s s' : State} {u : Uint128} {J J' : List (Entry Source)}
  {e e' : Execution}

theorem start (p : Provisioning)
    (hJ : ∀ x ∈ J, x.origin.tenant = u → x.origin.flushNumber = none) :
    Noted u J (.start p.accountingInput) where
  recorded := by
    simp [Execution.start, TenantAccountingInput.initialState, Provisioning.accountingInput,
      Table.empty]
  reported := by simp [Execution.start, Main.flight]
  tagged := by
    intro x hx n cluster r ho
    have hnone := hJ x hx (by rw [ho]; rfl)
    rw [ho] at hnone
    cases hnone

/-- The same identifiers, under a later journal with no gauge transfer of the
tenant in addition. -/
theorem carry (hn : Noted u J e) (hJ : J ⊆ J')
    (hnew : ∀ x ∈ J', x ∈ J ∨ x.origin.tenant ≠ u ∨ x.origin.flushNumber = none)
    (hpending : e'.state.pendingGaugeIDs = e.state.pendingGaugeIDs)
    (hflight : ∀ f R, e'.main.flight = some f → f.run.outcome = some (.ok R) →
      e.main.flight = some f)
    (hd : e.history.delivered ⊆ e'.history.delivered) : Noted u J' e' where
  recorded := by
    intro c r id hid
    rw [hpending] at hid
    obtain ⟨n, cluster, hres, hname⟩ := hn.recorded c r id hid
    exact ⟨n, cluster, hres.mono hJ, hname.mono hd⟩
  reported := by
    intro f R hf hR c r id hid hne
    obtain ⟨cluster, hres, hname⟩ := hn.reported f R (hflight f R hf hR) hR c r id hid hne
    exact ⟨cluster, hres.mono hJ, hname.mono hd⟩
  tagged := by
    intro x hx n cluster r ho
    rcases hnew x hx with hx | hu | hnone
    · obtain ⟨c, hc, hc'⟩ := hn.tagged x hx n cluster r ho
      exact ⟨c, hc.mono hd, hc'.mono hd⟩
    · rw [ho] at hu
      exact absurd rfl hu
    · rw [ho] at hnone
      cases hnone

theorem move {w : Event} (hw : ∀ reached reply, w ≠ .attempt reached (.batch reply))
    (hm : Move h w e e') (hn : Noted u J e) : Noted u J e' := by
  have hkeep : ∀ m : Execution, m.state.pendingGaugeIDs = e.state.pendingGaugeIDs →
      (∀ f R, m.main.flight = some f → f.run.outcome = some (.ok R) → e.main.flight = some f) →
      e.history.delivered ⊆ m.history.delivered → Noted u J m :=
    fun m hp hf hd => hn.carry (fun _ hx => hx) (fun _ hx => .inl hx) hp hf hd
  cases hm with
  | quiet same =>
    refine hkeep _ (by rw [same.state]) (fun f R hf _ => ?_) (by rw [same.delivered]; exact fun _ hx => hx)
    rw [← same.flight]
    exact hf
  | arrive sig => exact hkeep _ rfl (fun f R hf _ => hf) (List.subset_cons_self _ _)
  | register sig =>
    exact hkeep _ (e.state.registerCluster_pendingGaugeIDs sig) (fun f R hf _ => hf) (fun _ hx => hx)
  | flush site hbatch hidle =>
    refine hkeep _ rfl (fun f R hf hR => ?_) (fun _ hx => hx)
    cases hf
    cases hR
  | attempt hev => exact absurd hev (hw _ _)
  | @succeed site flight result continuing hev hmain hout =>
    refine ⟨fun c r id hid => ?_, fun f R hf => (by cases hf), hn.tagged⟩
    have hid' : (applyGaugeUpdates e.state.pendingGaugeIDs result.gaugeUpdates c).bind (· r) =
        some id := hid
    rw [applyGaugeUpdates_apply] at hid'
    split at hid'
    · rename_i id' hrep
      split_ifs at hid' with hzero
      cases hid'
      obtain ⟨cluster, hres, hname⟩ :=
        hn.reported flight result (by rw [hmain]; rfl) hout c r id hrep hzero
      exact ⟨_, cluster, hres, hname⟩
    · exact hn.recorded c r id hid'
  | fail hev hmain hout hidle =>
    refine hkeep _ rfl (fun f R hf _ => ?_) (fun _ hx => hx)
    rw [hidle] at hf
    cases hf
  | _ => exact hkeep _ rfl (fun f R hf _ => hf) (fun _ hx => hx)

theorem restarted (hn : Noted u J e) : Noted u J e.restarted :=
  hn.carry (fun _ hx => hx) (fun _ hx => .inl hx) rfl (fun _ _ hf => by cases hf) (fun _ hx => hx)

theorem rests (hr : Rests h e e') (hn : Noted u J e) (hJ : J ⊆ J')
    (hnew : ∀ x ∈ J', x ∈ J ∨ x.origin.tenant ≠ u ∨ x.origin.flushNumber = none) :
    Noted u J' e' := by
  have hmoved : Noted u J e' :=
    hr.keeps (fun w m m' hw hm _ hn => hn.move hw hm) (fun _ hn => hn.restarted) hn
  exact hmoved.carry hJ hnew rfl (fun f R hf _ => hf) (fun _ hx => hx)

theorem new_tagged {p : Provisioning} {seqNo : UInt64} {att : BatchAttempt}
    (hbatch : e.state.curBatch ⊆ e.history.delivered) {x : Source × Transfer}
    (hx : x ∈ gaugeEntries seqNo
      (p.accountingInput.flushInput h seqNo e.state.curBatch e.state.pendingGaugeIDs) att)
    {n : UInt64} {cluster : Uint128} {r : ResourceType} (ho : x.1 = .gaugeNew u n cluster r) :
    ∃ c, Names e c cluster ∧ Names e c x.2.userData128 := by
  obtain ⟨k, y, hy, ⟨old, -, rfl⟩ | ⟨-, rfl⟩⟩ := mem_gaugeEntriesFrom hx
  · simp [gaugeSource] at ho
  · obtain ⟨hb, cluster', quota, sink, hlatest, hcluster, -, -, -, he⟩ := mem_flushUpdates hy
    rw [gaugeSource_new hcluster k, Source.gaugeNew.injEq] at ho
    obtain ⟨-, -, rfl, -⟩ := ho
    obtain ⟨hmem, hid⟩ := latestByCluster_mem hlatest
    have howner : y.2.clusterUUID = hb.clusterUUID := by rw [he]
    exact ⟨y.1, names_of_key hbatch hcluster, hb, hbatch hmem, hid, howner.symm⟩

theorem gauges {p : Provisioning} {site : FlushSite} {flight : Flight} {att : BatchAttempt}
    {per : Table ResourceType ResourceBatchResult} {run : Run TBBatchResult}
    (hn : Noted p.input.tenantUUID s.journal e) (hs : s.Sound h) (hs' : s'.Sound h)
    (hfree : h.CollisionFree (preimages s'.journal))
    (hbatch : e.state.curBatch ⊆ e.history.delivered)
    (hinput : flight.input =
      p.accountingInput.flushInput h flight.seqNo e.state.curBatch e.state.pendingGaugeIDs)
    (hrun : ∀ R, run.outcome = some (.ok R) →
      (submitGauges flight.input tb att per s.books).1 = .ok R)
    (hbooks : s'.books = (tb.createTransfers s.books
      ((reachedEntries att.gaugeFate (gaugeEntries flight.seqNo flight.input att)).map Prod.snd)).2)
    (hjournal : s'.journal = (tb.record (s.books, s.journal)
      (reachedEntries att.gaugeFate (gaugeEntries flight.seqNo flight.input att))).2) :
    Noted p.input.tenantUUID s'.journal
      { e with main := .submitting site { flight with run := run } } where
  recorded := by
    intro c r id hid
    obtain ⟨n, cluster, hres, hname⟩ := hn.recorded c r id hid
    rw [hjournal]
    exact ⟨n, cluster, hres.mono (tb.record_suffix (s.books, s.journal) _).subset, hname⟩
  reported := by
    intro f R hf hR c r id hid hne
    cases hf
    have hok := GaugesAnswered.of_ok (hrun R hR) hbooks hjournal
    rw [hinput] at hok
    obtain ⟨cluster, hkey, hres⟩ := hok.reserved hs.wf hs' hfree hid hne
    exact ⟨cluster, hres, names_of_key hbatch hkey⟩
  tagged := by
    intro x hx n cluster r ho
    rw [hjournal] at hx
    rcases mem_record hx with hx | hx
    · exact hn.tagged x hx n cluster r ho
    · have hsent := (mem_reachedEntries hx).1
      rw [hinput] at hsent
      exact new_tagged hbatch hsent ho

end Noted

theorem batch_delivered {e : Execution} (hb : Execution.Balanced e) :
    e.state.curBatch ⊆ e.history.delivered := by
  intro x hmem
  have hcount := hb x
  simp only [Execution.accounted, List.count_append] at hcount
  have hpos := List.count_pos_iff.mpr hmem
  exact List.count_pos_iff.mp (by omega)

namespace State

variable {h : Blake3} {tb : Service} {s : State} {u : Uint128} {t : Tenant} {e : Execution}
  {es : List SystemEvent}

/-- In every reachable state the batch is made of delivered heartbeats. -/
theorem run_batch (hr : runSteps (step h tb) initial es = some s) (hu : s.tenants u = some t)
    (he : t.accounting = some e) : e.state.curBatch ⊆ e.history.delivered := by
  refine batch_delivered (run_execution (P := fun e => Execution.Dedup e ∧ Execution.Balanced e)
    (fun base => ⟨Execution.start_dedup base, fun _ => rfl⟩) (fun e w e' hp hw => ?_) hr hu he).2
  exact Execution.step_keeps (P := fun e => Execution.Dedup e ∧ Execution.Balanced e)
    (fun _ _ hm _ hp => ⟨Execution.move_dedup hm hp.1, Execution.move_balanced hm hp.1 hp.2⟩)
    (fun _ _ hp => ⟨Execution.restarted_dedup hp.1, Execution.restarted_balanced hp.2⟩) hw hp

theorem run_noted (hr : runSteps (step h tb) initial es = some s)
    (hfree : h.CollisionFree (preimages s.journal)) (hu : s.tenants u = some t)
    (he : t.accounting = some e) : Noted u s.journal e := by
  refine run_induction (step h tb) (P := fun _ s => h.CollisionFree (preimages s.journal) →
    ∀ t e, s.tenants u = some t → t.accounting = some e → Noted u s.journal e) ?_ ?_ hr hfree t e hu he
  · intro _ t e hu
    cases hu
  · intro xs s ev s' hr hold hstep hfree t' e' hu' he'
    have hs := run_sound hr
    have hs' := step_sound hs hstep
    have hJ := (step_journal hstep).subset
    rcases step_gauges hs hstep hu' he' with ⟨t, e, hu, he, -, hstep'⟩ | ⟨hsame, hnone, p, rfl⟩
    · have hn := hold (hfree.mono (preimages_mono hJ)) t e hu he
      cases hstep' with
      | rests hrests hapart => exact hn.rests hrests hJ hapart.new
      | fails hmain hend hrun hapart =>
        subst hend
        refine hn.carry hJ hapart.new rfl (fun f R hf hR => ?_) (fun _ hx => hx)
        cases hf
        exact absurd hR (hrun R)
      | gauges per hmain hout hend hrun hbooks hjournal =>
        subst hend
        have hinput := ((hs.tenants u t hu).handed e he).flight _ (by rw [hmain]; rfl)
        rw [← hs.uuid u t hu] at hn ⊢
        exact hn.gauges hs hs' hfree (run_batch hr hu he) hinput hrun hbooks hjournal
    · rw [hsame]
      exact .start p (run_unstarted hr hnone)

end State
end CloudCredit.System
