import CloudCredit.System.LiveReservations

/-!
# Reservations after a successful flush

From a flush that succeeds up to the next one nothing happens to the tenant's
reservations. So the reservation of each cluster of the batch is exactly the one
written down for it, unless an earlier flush failed for good and left one behind.
-/
namespace CloudCredit.System

open Library TigerBeetle Domain Ledger Accounting

/-- What a workflow has written down about the clusters it has heard of. -/
structure SameRecords (a b : TenantAccountingState) : Prop where
  pending : b.pendingGaugeIDs = a.pendingGaugeIDs
  processed : ∀ c q, a.processedSeqs c = some q → b.processedSeqs c = some q

theorem SameRecords.refl (a : TenantAccountingState) : SameRecords a a := ⟨rfl, fun _ _ hq => hq⟩

theorem SameRecords.trans {a b c : TenantAccountingState} (hab : SameRecords a b)
    (hbc : SameRecords b c) : SameRecords a c :=
  ⟨hbc.pending.trans hab.pending, fun i q hq => hbc.processed i q (hab.processed i q hq)⟩

theorem registerCluster_records (a : TenantAccountingState) (sig : RegisterClusterSignal) :
    SameRecords a (a.registerCluster sig) := by
  refine ⟨a.registerCluster_pendingGaugeIDs sig, fun c q hq => ?_⟩
  rcases a.registerCluster_processedSeqs sig with he | ⟨hnone, he⟩
  · rw [he]
    exact hq
  · rw [he, Table.set_other]
    · exact hq
    · rintro rfl
      rw [hnone] at hq
      cases hq

/-- The workflow's records stay while no batch is in flight. -/
theorem Rests.records {h : Blake3} {e e' : Execution} (hr : Rests h e e')
    (hidle : e.main.flight = none) : SameRecords e.state e'.state := by
  refine (hr.keeps (P := fun m => SameRecords e.state m.state ∧
    (m.main.flight = none ∨ m.state.flushSeqNo ≠ e.state.flushSeqNo)) ?_
    (fun _ _ => ⟨⟨rfl, fun _ _ hq => hq⟩, .inl rfl⟩) ⟨.refl _, .inl hidle⟩).1
  rintro w m m' - hm hseq ⟨hp, hcase⟩
  have hidle : m.main.flight = none := hcase.resolve_right fun hne => hne hseq
  have hnext : m.state.countFlush.flushSeqNo ≠ e.state.flushSeqNo := by
    rw [← hseq]
    intro hsame
    simp [TenantAccountingState.countFlush] at hsame
  cases hm with
  | quiet same =>
    refine ⟨hp.trans ?_, .inl (same.flight.trans hidle)⟩
    rw [same.state]
    exact ⟨rfl, fun _ _ hq => hq⟩
  | register sig => exact ⟨hp.trans (registerCluster_records m.state sig), .inl hidle⟩
  | flush site hbatch => exact ⟨hp.trans ⟨rfl, fun _ _ hq => hq⟩, .inr hnext⟩
  | attempt hev hmain =>
    rw [hmain] at hidle
    cases hidle
  | succeed hev hmain =>
    rw [hmain] at hidle
    cases hidle
  | fail hev hmain hout hidle' => exact ⟨hp, .inl hidle'⟩
  | accept => exact ⟨hp.trans ⟨rfl, fun _ _ hq => hq⟩, .inr hnext⟩
  | _ => exact ⟨hp.trans ⟨rfl, fun _ _ hq => hq⟩, .inl hidle⟩

namespace State

variable {h : Blake3} {tb : Service} {s s' : State} {u : Uint128} {t t' : Tenant} {e e' : Execution}
  {es : List SystemEvent}

theorem idle_run (hs : s.Sound h) (hr : runSteps (step h tb) s es = some s')
    (hidle : Throughout (step h tb) (fun s => s.flight? u = none) s es)
    (hu : s.tenants u = some t) (he : t.accounting = some e) :
    ∃ t' e', s'.tenants u = some t' ∧ t'.accounting = some e' ∧
      t'.provisioning = t.provisioning ∧
      SameRecords e.state e'.state ∧ e.history.delivered ⊆ e'.history.delivered ∧
      ∀ r i, r.isGauge = true → t.provisioning.accountIDs r = some i →
        s'.books.held i = s.books.held i := by
  induction es generalizing s t e with
  | nil =>
    cases hr
    exact ⟨t, e, hu, he, rfl, .refl _, fun _ hx => hx, fun _ _ _ _ => rfl⟩
  | cons ev es ih =>
    obtain ⟨m, hm, hr⟩ := runSteps_cons (step h tb) hr
    obtain ⟨t₁, e₁, hu₁, he₁, -⟩ := step_execution hs hm hu he
    obtain ⟨t', e', hu', he', hp', hrecords', hd', hheld'⟩ :=
      ih (step_sound hs hm) hr (hidle.2 m hm) hu₁ he₁
    have hflight : e.main.flight = none := by
      rw [← flight?_eq hu he]
      exact hidle.1
    rcases step_gauges hs hm hu₁ he₁ with ⟨t₂, e₂, hu₂, he₂, hsame, hstep'⟩ | ⟨-, hnone, -⟩
    · cases hu.symm.trans hu₂
      cases he.symm.trans he₂
      cases hstep' with
      | rests hrests hapart =>
        refine ⟨t', e', hu', he', hp'.trans hsame, (hrests.records hflight).trans hrecords',
          fun _ hx => hd' (hrests.delivered hx), fun r i hg hi => ?_⟩
        rw [hheld' r i hg (hsame ▸ hi), hapart.held hs hu hg hi]
      | fails hmain =>
        rw [hmain] at hflight
        cases hflight
      | gauges per hmain =>
        rw [hmain] at hflight
        cases hflight
    · rw [hnone t hu] at he
      cases he

end State

/-- Every cluster was delivered under one spelling of its identifier. -/
def OneSpelling (e : Execution) : Prop :=
  ∀ a ∈ e.history.delivered, ∀ b ∈ e.history.delivered,
    a.clusterID = b.clusterID ↔ a.clusterUUID = b.clusterUUID

instance : DecidablePred OneSpelling := fun e => by
  unfold OneSpelling
  infer_instance

theorem OneSpelling.cluster {e : Execution} (ho : OneSpelling e) {c : String} {k k' : Uint128}
    (hk : Names e c k) (hk' : Names e c k') : k = k' := by
  obtain ⟨a, ha, hac, rfl⟩ := hk
  obtain ⟨b, hb, hbc, rfl⟩ := hk'
  exact (ho a ha b hb).mp (hac.trans hbc.symm)

theorem OneSpelling.name {e : Execution} (ho : OneSpelling e) {c c' : String} {k : Uint128}
    (hk : Names e c k) (hk' : Names e c' k) : c = c' := by
  obtain ⟨a, ha, rfl, rfl⟩ := hk
  obtain ⟨b, hb, rfl, hbk⟩ := hk'
  exact (ho a ha b hb).mpr hbk.symm

/-- The live reservations on an account that were made for a cluster. -/
def liveFor (L : Books) (i cluster : Uint128) : List Uint128 :=
  ((L.held i).filter (·.userData128 = cluster)).map (·.id)

theorem liveFor_nodup {L : Books} (hL : L.Wf) (i cluster : Uint128) : (liveFor L i cluster).Nodup :=
  hL.transfers_nodup.sublist (((List.filter_sublist.trans List.filter_sublist).trans
    List.filter_sublist).map _)

namespace State

variable {h : Blake3} {tb : Service} {s s₁ s' : State} {u : Uint128} {t t' : Tenant}
  {e e' : Execution} {es fs : List SystemEvent} {site : FlushSite} {flight : Flight}
  {R : TBBatchResult}

theorem recorded_of_live (hs : s.Sound h) (hfree : h.CollisionFree (preimages s.journal))
    (hn : Noted u s.journal e) (hspell : OneSpelling e) (hu : s.tenants u = some t)
    (hl : Live u t.provisioning.accountIDs s.books s.journal e) (hidle : e.main.flight = none)
    {c : String} {cluster : Uint128} (hname : Names e c cluster) {r : ResourceType} {i : Uint128}
    (hg : r.isGauge = true) (hi : t.provisioning.accountIDs r = some i) {id : Uint128}
    (hid : id ∈ liveFor s.books i cluster) :
    (e.state.pendingGaugeIDs c).bind (· r) = some id := by
  obtain ⟨p, hp, rfl⟩ := List.mem_map.mp hid
  obtain ⟨hp, htag⟩ := List.mem_filter.mp hp
  rw [decide_eq_true_eq] at htag
  rcases hl.covered r i hg hi p hp with ⟨c', hrec⟩ | ⟨f, -, hf, -⟩
  · obtain ⟨n, k, hres, hk⟩ := hn.recorded c' r p.id hrec
    obtain ⟨x, hx, hok, rfl, m, k', hxo⟩ := hs.held_reserved hu hi hp
    obtain ⟨-, rfl, -⟩ := hs.reserved_eq hfree hres ⟨x, hx, hok, hxo, rfl⟩
    obtain ⟨c'', hc, hc'⟩ := hn.tagged x hx m k r hxo
    rw [htag] at hc'
    rw [hspell.name hname hc', ← hspell.name hk hc]
    exact hrec
  · rw [hidle] at hf
    cases hf

theorem live_of_reported (hs : s.Sound h) (hfill : Filled s.books s.journal)
    (hfree : h.CollisionFree (preimages s.journal)) (hn : Noted u s.journal e)
    (ho : FlushOrder u s.journal e) (hu : s.tenants u = some t) (hf : e.main.flight = some flight)
    (hout : flight.run.outcome = some (.ok R)) {c : String} {r : ResourceType} {id i : Uint128}
    (hi : t.provisioning.accountIDs r = some i) (hid : (R.gaugeUpdates c).bind (· r) = some id)
    (hne : id ≠ 0) : ∃ p ∈ s.books.held i, p.id = id ∧
      ∃ c' k, Names e c k ∧ Names e c' k ∧ Names e c' p.userData128 := by
  obtain ⟨k, hres, hname⟩ := hn.reported flight R hf hout c r id hid hne
  have hlive := hs.new_live hfill hfree ho hf hres
  obtain ⟨y, hy, -, hyo, hbooks⟩ := hs.reservation hres
  obtain ⟨hmem, hyid⟩ := Books.transfer?_some hbooks
  obtain ⟨c', hc, hc'⟩ := hn.tagged y hy _ k r hyo
  obtain ⟨ty, hty, hown⟩ := hs.journal y hy
  rw [hyo] at hty hown
  cases hty.symm.trans hu
  obtain ⟨hpending, hdebit⟩ := hown.reservation
  rw [hi] at hdebit
  exact ⟨y.transfer, Books.mem_held.mpr ⟨hmem, hpending, hyid ▸ hlive, Option.some.inj hdebit.symm⟩,
    hyid, c', k, hname, hc, hc'⟩

/-- What has changed and what is the same when nothing was in flight since the result `R`
of a flush was taken over. -/
structure Quiet (s s' : State) (t t' : Tenant) (e e' : Execution) (R : TBBatchResult) : Prop where
  journal : s.journal ⊆ s'.journal
  provisioning : t'.provisioning = t.provisioning
  records : SameRecords (e.state.applyBatchResult R) e'.state
  delivered : e.history.delivered ⊆ e'.history.delivered
  held : ∀ r i, r.isGauge = true → t.provisioning.accountIDs r = some i →
    s'.books.held i = s.books.held i

theorem quiet_after_flush (hr : runSteps (step h tb) initial es = some s)
    (hu : s.tenants u = some t) (he : t.accounting = some e)
    (hmain : e.main = .submitting site flight) (hout : flight.run.outcome = some (.ok R))
    {continuing : Bool} (hs₁ : s.step h tb (.tenant u (.workflow (.deliver continuing))) = some s₁)
    (hfs : runSteps (step h tb) s₁ fs = some s')
    (hidle : Throughout (step h tb) (fun s => s.flight? u = none) s₁ fs)
    (hu' : s'.tenants u = some t') (he' : t'.accounting = some e') :
    runSteps (step h tb) initial (es ++ .tenant u (.workflow (.deliver continuing)) :: fs) =
        some s' ∧
      Quiet s s' t t' e e' R := by
  obtain ⟨m, hm, hu₁, hbooks, hjournal⟩ := step_deliver h tb hu he hmain hout continuing
  cases hs₁.symm.trans hm
  obtain ⟨t₂, e₂, hu₂, he₂, hp, hrecords, hd, hheld⟩ :=
    idle_run (step_sound (run_sound hr) hs₁) hfs hidle hu₁ rfl
  cases hu₂.symm.trans hu'
  cases he₂.symm.trans he'
  refine ⟨(runSteps_append _).mpr ⟨s, hr, by simp [runSteps, hs₁, hfs]⟩, ?_, hp, hrecords, hd, ?_⟩
  · exact hjournal ▸ (run_journal hfs).subset
  · intro r i hg hi
    rw [hheld r i hg hi, hbooks]

/-- From a flush that succeeds up to the next one, the live reservations of a cluster
of its batch are the one written down for it, and they make up what is reserved on the
account. -/
theorem reservations_exact (es fs : List SystemEvent)
    (hr : runSteps (step h tb) initial es = some s) (hu : s.tenants u = some t)
    (he : t.accounting = some e) (hmain : e.main = .submitting site flight)
    (hout : flight.run.outcome = some (.ok R)) (continuing : Bool)
    (hs₁ : s.step h tb (.tenant u (.workflow (.deliver continuing))) = some s₁)
    (hfs : runSteps (step h tb) s₁ fs = some s')
    (hidle : Throughout (step h tb) (fun s => s.flight? u = none) s₁ fs)
    (hclean : Along (step h tb) (fun s _ => s.Counting u ∧ s.LeavesNothing u) initial
      (es ++ .tenant u (.workflow (.deliver continuing)) :: fs))
    (hfree : h.CollisionFree (preimages s'.journal)) (hu' : s'.tenants u = some t')
    (he' : t'.accounting = some e') (hspell : OneSpelling e') {hb : HeartbeatSignal}
    (hmem : hb ∈ flight.input.heartbeats) {r : ResourceType} {i : Uint128}
    (hg : r.isGauge = true) (hi : t'.provisioning.accountIDs r = some i) :
    liveFor s'.books i hb.clusterUUID =
        ((e'.state.pendingGaugeIDs hb.clusterID).bind (· r)).toList ∧
      (s'.books.balance i).debitsPending = ((s'.books.held i).map (·.amount)).sum := by
  obtain ⟨hr', hq⟩ := quiet_after_flush hr hu he hmain hout hs₁ hfs hidle hu' he'
  have hs := run_sound hr
  have hs' := run_sound hr'
  have hflight : e.main.flight = some flight := by rw [hmain]; rfl
  have hfree' := hfree.mono (preimages_mono hq.journal)
  have hi' : t.provisioning.accountIDs r = some i := hq.provisioning ▸ hi
  have hrests : e'.main.flight = none := (flight?_eq hu' he').symm.trans (hidle.last _ hfs)
  have hinput : flight.input.heartbeats = e.state.curBatch := by
    rw [((hs.tenants u t hu).handed e he).flight flight hflight]
    rfl
  have hname : Names e' hb.clusterID hb.clusterUUID :=
    ⟨hb, hq.delivered (run_batch hr hu he (hinput ▸ hmem)), rfl, rfl⟩
  have hrecorded : ∀ id ∈ liveFor s'.books i hb.clusterUUID,
      (e'.state.pendingGaugeIDs hb.clusterID).bind (· r) = some id := fun id hid =>
    recorded_of_live hs' hfree (run_noted hr' hfree hu' he') hspell hu'
      (run_live hr' hclean hfree hu' he') hrests hname hg hi hid
  obtain ⟨hclean', -⟩ := hclean.append _ hr
  refine ⟨?_, hs'.wf.debitsPending_eq i⟩
  cases hrec : (e'.state.pendingGaugeIDs hb.clusterID).bind (· r) with
  | none =>
    refine List.eq_nil_iff_forall_not_mem.mpr fun id hid => ?_
    rw [hrecorded id hid] at hrec
    cases hrec
  | some id =>
    have hall : ∀ b ∈ liveFor s'.books i hb.clusterUUID, b = id := fun b hb' =>
      Option.some.inj ((hrecorded b hb').symm.trans hrec)
    refine eq_singleton_of_forall (liveFor_nodup hs'.wf i _) ?_ hall
    obtain ⟨id', hrep⟩ := Option.isSome_iff_exists.mp
      ((run_live hr hclean' hfree' hu he).complete flight R hflight hout hb hmem r i hg hi')
    have happlied : (applyGaugeUpdates e.state.pendingGaugeIDs R.gaugeUpdates hb.clusterID).bind
        (· r) = some id := by
      rw [← hrec, hq.records.pending]
      rfl
    rw [applyGaugeUpdates_apply, hrep] at happlied
    dsimp only at happlied
    split_ifs at happlied with hzero
    cases happlied
    obtain ⟨p, hp', rfl, c', k, hk, hc, hc'⟩ := live_of_reported hs (run_filled hr) hfree'
      (run_noted hr hfree' hu he)
      (run_inOrder hr (Along.mono (step h tb) (fun _ _ hc => hc.1) hclean') hfree' hu he)
      hu hflight hout hi' hrep hzero
    have hsame := hspell.name (hk.mono hq.delivered) (hc.mono hq.delivered)
    have htag := hspell.cluster (hsame ▸ hname) (hc'.mono hq.delivered)
    refine List.mem_map.mpr ⟨p, List.mem_filter.mpr ⟨?_, by simpa using htag.symm⟩, rfl⟩
    rw [hq.held r i hg hi']
    exact hp'

/-- All attempts of a flush come to their gauge request, and the flush fails; the next
flush has the same batch, and both of its requests are answered. -/
def repeatedFlush (fate : Fate) : List SystemEvent :=
  sampleProvisioning 100 20 ++ (sampleBatchOf [sampleHeartbeat 1] 0 ++
    (List.replicate 5 [TenantEvent.submitUsage { gaugeFate := fate } true, .submitGauges true]).flatten ++
    [TenantEvent.workflow (.deliver false), .workflow (.timerFires 1), .workflow (.timerBranch false),
      .submitUsage {} true, .submitGauges true]).map (.tenant sampleTenant)

/-- The result of the repeated flush is delivered: its heartbeat is processed, one
reservation is written down, and so many nodes are reserved. -/
structure Reflushed (nodes : ℕ) (s : State) (t : Tenant) (e : Execution) (i id : Uint128) :
    Prop where
  tenant : s.tenants sampleTenant = some t
  accounting : t.accounting = some e
  succeeded : e.history.succeeded = [sampleHeartbeat 1]
  account : t.provisioning.accountIDs .activeNodes = some i
  recorded : (e.state.pendingGaugeIDs "c").bind (· .activeNodes) = some id
  reserved : (s.books.balance i).debitsPending = nodes

def reflushedTest (nodes : ℕ) (s : State) : Bool :=
  (s.tenants sampleTenant).any fun t => t.accounting.any fun e =>
    e.history.succeeded = [sampleHeartbeat 1] &&
    (t.provisioning.accountIDs .activeNodes).any fun i =>
      ((e.state.pendingGaugeIDs "c").bind (· .activeNodes)).isSome &&
        (s.books.balance i).debitsPending = nodes

theorem reflushed_of_test {nodes : ℕ} (ht : reflushedTest nodes s = true) :
    ∃ t e i id, Reflushed nodes s t e i id := by
  simp only [reflushedTest, Option.any_eq_true, Bool.and_eq_true, decide_eq_true_eq] at ht
  obtain ⟨t, hu, e, he, hdone, i, hi, hid, hnodes⟩ := ht
  obtain ⟨id, hid⟩ := Option.isSome_iff_exists.mp hid
  exact ⟨t, e, i, id, hu, he, hdone, hi, hid, hnodes⟩

theorem lost_requests_reserve_once :
    ∃ s' t' e' i id, runSteps (step .positional Reference.service) initial
        (repeatedFlush (.lostRequest "unreachable") ++
          [.tenant sampleTenant (.workflow (.deliver false))]) = some s' ∧
      Reflushed 1 s' t' e' i id ∧ liveFor s'.books i (sampleID 2) = [id] := by
  obtain ⟨s, hr, hp⟩ := runSteps_any (step .positional Reference.service) initial
    (repeatedFlush (.lostRequest "unreachable"))
    (fun s => (s.flight? sampleTenant).any fun flight =>
      flight.input.heartbeats = [sampleHeartbeat 1] && flight.run.outcome.any (·.toBool))
    (by decide +kernel)
  obtain ⟨s', hr', hp'⟩ := runSteps_any (step .positional Reference.service) initial
    (repeatedFlush (.lostRequest "unreachable") ++
      [.tenant sampleTenant (.workflow (.deliver false))])
    (fun s => reflushedTest 1 s && collisionTest .positional s.journal &&
      (s.flight? sampleTenant).isNone &&
      (s.tenants sampleTenant).any fun t => t.accounting.any fun e => decide (OneSpelling e))
    (by decide +kernel)
  have hs₁ := (runSteps_concat _ hr).mp hr'
  obtain ⟨flight, hf, hp⟩ := Option.any_eq_true _ _ |>.mp hp
  simp only [Bool.and_eq_true, decide_eq_true_eq, Option.any_eq_true] at hp hp'
  obtain ⟨hinput, outcome, hout, hok⟩ := hp
  obtain ⟨⟨⟨htest, hfree⟩, hidle⟩, t', hu', e', he', hspell⟩ := hp'
  obtain ⟨t₂, e₂, i, id, hreflushed⟩ := reflushed_of_test htest
  cases hu'.symm.trans hreflushed.tenant
  cases he'.symm.trans hreflushed.accounting
  obtain ⟨t, e, site, hu, he, hmain⟩ := flight?_some hf
  cases outcome with
  | error err => cases hok
  | ok R =>
    refine ⟨s', t', e', i, id, hr', hreflushed, ?_⟩
    have hexact := (reservations_exact (repeatedFlush (.lostRequest "unreachable")) [] hr hu he hmain
      hout false hs₁ rfl (Option.isNone_iff_eq_none.mp hidle)
      (along_of_alongTest _ (by decide +kernel)) (collisionFree_of_collisionTest hfree) hu' he' hspell
      (show sampleHeartbeat 1 ∈ _ by rw [hinput]; exact List.mem_singleton_self _) rfl
      hreflushed.account).1
    have hrec : (e'.state.pendingGaugeIDs (sampleHeartbeat 1).clusterID).bind (· .activeNodes) =
        some id := hreflushed.recorded
    rw [hrec] at hexact
    exact hexact

/-- Every attempt reserves the nodes, and none is heard of: the flush fails, and the
repeated flush reserves them a second time under another identifier. -/
theorem lost_replies_reserve_twice :
    ∃ s' t' e' i id, runSteps (step .positional Reference.service) initial
        (repeatedFlush (.lostReply "reset") ++
          [.tenant sampleTenant (.workflow (.deliver false))]) = some s' ∧
      Reflushed 2 s' t' e' i id ∧ (liveFor s'.books i (sampleID 2)).length = 2 := by
  obtain ⟨s', hr', hp⟩ := runSteps_any (step .positional Reference.service) initial
    (repeatedFlush (.lostReply "reset") ++ [.tenant sampleTenant (.workflow (.deliver false))])
    (fun s => reflushedTest 2 s && (s.tenants sampleTenant).all fun t =>
      (t.provisioning.accountIDs .activeNodes).all fun i =>
        (liveFor s.books i (sampleID 2)).length = 2) (by decide +kernel)
  obtain ⟨htest, hlive⟩ := Bool.and_eq_true_iff.mp hp
  obtain ⟨t', e', i, id, hreflushed⟩ := reflushed_of_test htest
  rw [hreflushed.tenant, Option.all_some, hreflushed.account, Option.all_some,
    decide_eq_true_eq] at hlive
  exact ⟨s', t', e', i, id, hr', hreflushed, hlive⟩

end State
end CloudCredit.System
