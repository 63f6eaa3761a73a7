import CloudCredit.System.ExactReservations

/-!
# The reservation shows the newest value

A result that reaches the workflow is that of an answered gauge request of its own
flush. After the flush the reservation written down for a cluster has the amount of
the cluster's latest heartbeat, and none is written down if there are no nodes or
the request was rejected for lack of credits. All of this is up to the counter of
the flushes, whose numbers must not come round again.
-/
namespace CloudCredit.System

open Library TigerBeetle Domain Ledger Accounting

/-- A result in flight is that of an answered gauge request of the flush. -/
def ResultAnswered (h : Blake3) (tb : Service) (L : Books) (J : List (Entry Source))
    (e : Execution) : Prop :=
  ∀ f R, e.main.flight = some f → f.run.outcome = some (.ok R) →
    ∃ s s' att, State.Sound h s ∧ State.Sound h s' ∧ s'.journal ⊆ J ∧ s'.books.Grows L ∧
      GaugesAnswered tb f.seqNo f.input att s s' R

/-- A workflow gets no result but by an attempt of its batch. -/
theorem Rests.result {h : Blake3} {e e' : Execution} (hr : Rests h e e') :
    ∀ f R, e'.main.flight = some f → f.run.outcome = some (.ok R) → e.main.flight = some f := by
  refine hr.keeps (P := fun m => ∀ f R, m.main.flight = some f → f.run.outcome = some (.ok R) →
    e.main.flight = some f) ?_ (fun _ _ f R hf => by cases hf) (fun f R hf _ => hf)
  intro w m m' hw hm _ hold f R hf hR
  cases hm with
  | quiet same => exact hold f R (same.flight ▸ hf) hR
  | flush site hbatch hidle =>
    cases hf
    cases hR
  | attempt hev => exact absurd hev (hw _ _)
  | succeed => cases hf
  | fail hev hmain hout hidle =>
    rw [hidle] at hf
    cases hf
  | _ => exact hold f R hf hR

namespace State

variable {h : Blake3} {tb : Service} {s : State} {u : Uint128} {t : Tenant} {e : Execution}
  {es : List SystemEvent}

theorem run_answered (hr : runSteps (step h tb) initial es = some s) (hu : s.tenants u = some t)
    (he : t.accounting = some e) : ResultAnswered h tb s.books s.journal e := by
  refine run_induction (step h tb) (P := fun _ s => ∀ t e, s.tenants u = some t →
    t.accounting = some e → ResultAnswered h tb s.books s.journal e) ?_ ?_ hr t e hu he
  · intro t e hu
    cases hu
  · intro xs s ev s' hr hold hstep t' e' hu' he' f R hf hR
    have hs := run_sound hr
    have hJ := (step_journal hstep).subset
    rcases step_gauges hs hstep hu' he' with ⟨t, e, hu, he, -, hstep'⟩ | ⟨-, -, p, rfl⟩
    · cases hstep' with
      | rests hrests hapart =>
        obtain ⟨a, b, att, ha, hb, hjournal, hgrows, hanswered⟩ :=
          hold t e hu he f R (hrests.result f R hf hR) hR
        exact ⟨a, b, att, ha, hb, fun _ hx => hJ (hjournal hx), hgrows.trans hapart.grows,
          hanswered⟩
      | fails hmain hend hrun hapart =>
        subst hend
        cases hf
        exact absurd hR (hrun R)
      | gauges per hmain hout hend hrun hbooks hjournal =>
        subst hend
        cases hf
        exact ⟨s, s', _, hs, step_sound hs hstep, fun _ hx => hx, .refl _,
          .of_ok (hrun R hR) hbooks hjournal⟩
    · cases hf

end State

/-- A zero identifier for a gauge with nodes was a rejection. -/
theorem GaugesAnswered.rejected {h : Blake3} {tb : Service} {s s' : State} {p : Provisioning}
    {seqNo : UInt64} {batch : List HeartbeatSignal} {pending : GaugeIDs} {att : BatchAttempt}
    {R : TBBatchResult} {y : String × GaugePendingUpdate}
    (ha : GaugesAnswered tb seqNo (p.accountingInput.flushInput h seqNo batch pending) att s s' R)
    (hs : s.Sound h) (hs' : s'.Sound h) (hfree : h.CollisionFree (preimages s'.journal))
    (hy : y ∈ gaugeUpdates (p.accountingInput.flushInput h seqNo batch pending) att.clusters)
    (hpos : 0 < y.2.newAmount) {cluster : Uint128} (hk : keyCluster batch y.1 = some cluster)
    (hid : (R.gaugeUpdates y.1).bind (· y.2.resource) = some 0) :
    ∃ x ∈ s'.journal, x.origin = .gaugeNew p.input.tenantUUID seqNo cluster y.2.resource ∧
      x.answer = .exceedsCredits := by
  obtain ⟨per, hok⟩ := ha.ok
  obtain ⟨-, hclass, -⟩ := (submitGauges_ok_iff _ tb att s.books per R).mp hok
  rw [← gaugeEntries_transfers seqNo] at hclass
  obtain ⟨k, hsent⟩ := gaugeEntries_update seqNo hy
  have hnew := hsent (y.2.newTransfer att.rand k, ⟨k, false⟩)
    (List.mem_append_right _ (by simp [hpos]))
  dsimp only at hnew
  rw [gaugeSource_new hk k] at hnew
  obtain ⟨M, hc, hgrow, hmem⟩ := hclass.recorded hs.wf hnew s.journal
  rw [← ha.journal] at hmem
  rw [gaugeEntries_transfers, ← ha.books] at hgrow
  refine ⟨_, hmem, rfl, ?_⟩
  have hregular : (y.2.newTransfer att.rand k).flags.voidPendingTransfer = false := rfl
  rcases classified_new_settles (tb.transfer_documented M _) hregular
    ((classified_of_regular hregular _).mp hc) with ⟨hx, -⟩ | ⟨-, x, hx⟩
  · exact hx
  · have hne := ha.newPendingID_ne_zero hfree y hy hpos
    have hfound : s'.books.transfer? y.2.newPendingID = some x := by
      have hx' := hgrow.transfer? hs'.wf hx
      rwa [show (y.2.newTransfer att.rand k).id = y.2.newPendingID from if_pos hne] at hx'
    rw [ha.reported hs.wf hfree hy, committedID, if_pos ⟨hpos, by rw [hfound]; rfl⟩] at hid
    exact absurd (Option.some.inj hid) hne

theorem nodes_amount {a : Int32} (ha : 0 ≤ a) : (a.toInt64.toUInt64.toNat : ℤ) = a.toInt := by
  have hnonneg : 0 ≤ a.toInt := Int32.le_iff_toInt_le.mp ha
  by_cases hzero : a = 0
  · subst hzero
    rfl
  · have hpos : 0 < a.toInt64 := by
      rw [Int64.lt_iff_toInt_lt, Int32.toInt_toInt64]
      have hne : a.toInt ≠ 0 := fun h0 => hzero (Int32.toInt_inj.mp h0)
      change 0 < a.toInt
      omega
    rw [toUInt64_of_pos hpos, Int32.toInt_toInt64]

theorem nodes_positive {a : Int32} (ha : a ≠ 0) : 0 < a.toInt64.toUInt64 := by
  refine UInt64.pos_iff_ne_zero.mpr fun hzero => ha ?_
  have hint : a.toInt64 = 0 := Int64.toBitVec_inj.mp (congrArg UInt64.toBitVec hzero)
  rw [← Int32.toInt_inj, ← Int32.toInt_toInt64, hint]
  rfl

theorem OneSpelling.anti {e e' : Execution} (ho : OneSpelling e')
    (hd : e.history.delivered ⊆ e'.history.delivered) : OneSpelling e :=
  fun a ha b hb => ho a (hd ha) b (hd hb)

namespace State

variable {h : Blake3} {tb : Service} {s s₁ s' : State} {u : Uint128} {t t' : Tenant}
  {e e' : Execution} {es fs : List SystemEvent} {site : FlushSite} {flight : Flight}
  {R : TBBatchResult}

/-- A running workflow has an account for every resource. -/
theorem Sound.account (hs : s.Sound h) (hu : s.tenants u = some t) (he : t.accounting = some e)
    (r : ResourceType) : ∃ i, t.provisioning.accountIDs r = some i := by
  have hlate : t.provisioning.phase.late = true := by
    rw [(hs.tenants u t hu).completed e he]
    rfl
  obtain ⟨i, hi, -⟩ := (hs.tenants u t hu).known.late hlate r
  exact ⟨i, hi⟩

theorem Sound.reported_amount (hs : s.Sound h) (hfill : Filled s.books s.journal)
    (hfree : h.CollisionFree (preimages s.journal)) (hn : Noted u s.journal e)
    (ho : FlushOrder u s.journal e) (hbatch : e.state.curBatch ⊆ e.history.delivered)
    (hspell : OneSpelling e) (hu : s.tenants u = some t) (he : t.accounting = some e)
    (hf : e.main.flight = some flight) (hout : flight.run.outcome = some (.ok R)) {c : String}
    {r : ResourceType} {id i : Uint128} (hi : t.provisioning.accountIDs r = some i)
    (hid : (R.gaugeUpdates c).bind (· r) = some id) (hne : id ≠ 0) {hb : HeartbeatSignal}
    (hlatest : latestByCluster e.state.curBatch c = some hb) :
    ∃ p ∈ s.books.held i, p.id = id ∧ p.amount = (heartbeatAmount hb r).toUInt64.toNat := by
  obtain ⟨cluster, hres, hname⟩ := hn.reported flight R hf hout c r id hid hne
  obtain ⟨p, hp, rfl, -⟩ := live_of_reported hs hfill hfree hn ho hu hf hout hi hid hne
  refine ⟨p, hp, rfl, ?_⟩
  obtain ⟨x, hx, hok, rfl, n, cluster', hxo⟩ := hs.held_reserved hu hi hp
  obtain ⟨rfl, rfl, -⟩ := hs.reserved_eq hfree hres ⟨x, hx, hok, hxo, rfl⟩
  rcases ho.flight flight hf x hx (by rw [hxo]; rfl) _ (by rw [hxo]; rfl) with hlt | ⟨-, att, hsent⟩
  · exact absurd hlt (UInt64.lt_irrefl _)
  · rw [((hs.tenants u t hu).handed e he).flight flight hf] at hsent
    obtain ⟨k, y, hy, ⟨old, -, heq⟩ | ⟨-, heq⟩⟩ := mem_gaugeEntriesFrom hsent
    · simp [gaugeSource, hxo] at heq
    · simp only [Prod.mk.injEq] at heq
      obtain ⟨hb', cluster', quota, sink, hlatest', hkey, -, -, -, hy'⟩ := mem_flushUpdates hy
      have hsource := heq.1
      rw [hxo, gaugeSource_new hkey k, Source.gaugeNew.injEq] at hsource
      obtain ⟨-, -, rfl, rfl⟩ := hsource
      cases hspell.name hname (names_of_key hbatch hkey)
      cases hlatest.symm.trans hlatest'
      have hamount : y.2.newAmount = (heartbeatAmount hb y.2.resource).toUInt64 := by rw [hy']
      rw [heq.2, ← hamount]
      rfl

theorem Sound.reported_zero (hs : s.Sound h) (hfree : h.CollisionFree (preimages s.journal))
    (ha : ResultAnswered h tb s.books s.journal e) (hu : s.tenants u = some t)
    (he : t.accounting = some e) (hf : e.main.flight = some flight)
    (hout : flight.run.outcome = some (.ok R)) {hb : HeartbeatSignal}
    (hlatest : latestByCluster e.state.curBatch hb.clusterID = some hb) {r : ResourceType}
    (hg : r.isGauge = true) {cluster : Uint128}
    (hkey : keyCluster e.state.curBatch hb.clusterID = some cluster) :
    ∃ id, (R.gaugeUpdates hb.clusterID).bind (· r) = some id ∧
      (id = 0 → (heartbeatAmount hb r).toUInt64 = 0 ∨
        ∃ x ∈ s.journal, x.origin = .gaugeNew u flight.seqNo cluster r ∧
          x.answer = .exceedsCredits) := by
  obtain ⟨a, b, att, hsa, hsb, hJ, -, hanswered⟩ := ha flight R hf hout
  rw [((hs.tenants u t hu).handed e he).flight flight hf] at hanswered
  obtain ⟨i, hi⟩ := hs.account hu he r
  have hmem := (latestByCluster_mem hlatest).1
  obtain ⟨y, hy, hyk⟩ := flushUpdate_of_mem att.clusters (hs.tenants u t hu).known hmem hg hi
  simp only [updateKey, Prod.mk.injEq] at hyk
  have hfree' := hfree.mono (preimages_mono hJ)
  have hrep := hanswered.reported hsa.wf hfree' hy
  rw [hyk.1, hyk.2] at hrep
  refine ⟨_, hrep, fun hzero => ?_⟩
  obtain ⟨hb', cluster', quota, sink, hlatest', -, -, -, -, hy'⟩ := mem_flushUpdates hy
  rw [hyk.1] at hlatest'
  cases hlatest.symm.trans hlatest'
  have hamount : y.2.newAmount = (heartbeatAmount hb r).toUInt64 := by rw [hy', ← hyk.2]
  by_cases hpos : 0 < y.2.newAmount
  · rw [hzero] at hrep
    obtain ⟨x, hx, hxo, hans⟩ := hanswered.rejected hsa hsb hfree' hy hpos
      (hyk.1 ▸ hkey) (by rw [hyk.1, hyk.2]; exact hrep)
    rw [hs.uuid u t hu, hyk.2] at hxo
    exact .inr ⟨x, hJ hx, hxo, hans⟩
  · left
    rw [← hamount]
    exact UInt64.le_zero_iff.mp (UInt64.not_lt.mp hpos)

theorem run_ahead (hr : runSteps (step h tb) initial es = some s) (hu : s.tenants u = some t)
    (he : t.accounting = some e) : Execution.Ahead e :=
  run_execution (fun _ _ hmem => by cases hmem) (fun _ _ _ ha hw =>
    Execution.step_keeps (fun _ _ hm _ ha => Execution.move_ahead hm ha)
      (fun _ _ _ => Execution.restarted_ahead _) hw ha) hr hu he

theorem run_dedup (hr : runSteps (step h tb) initial es = some s) (hu : s.tenants u = some t)
    (he : t.accounting = some e) : Execution.Dedup e :=
  run_execution Execution.start_dedup (fun _ _ _ hd hw =>
    Execution.step_keeps (fun _ _ hm _ hd => Execution.move_dedup hm hd)
      (fun _ _ hd => Execution.restarted_dedup hd) hw hd) hr hu he

/-- From a flush that succeeds up to the next one: the latest heartbeat of a cluster of
its batch is the highest one ever processed, and the reservation written down for the
cluster is live and shows its nodes. If none is written down, there are no nodes or the
reservation was rejected in this flush. -/
theorem reservation_shows_newest (es fs : List SystemEvent)
    (hr : runSteps (step h tb) initial es = some s) (hu : s.tenants u = some t)
    (he : t.accounting = some e) (hmain : e.main = .submitting site flight)
    (hout : flight.run.outcome = some (.ok R)) (continuing : Bool)
    (hs₁ : s.step h tb (.tenant u (.workflow (.deliver continuing))) = some s₁)
    (hfs : runSteps (step h tb) s₁ fs = some s')
    (hidle : Throughout (step h tb) (fun s => s.flight? u = none) s₁ fs)
    (hcount : Along (step h tb) (fun s _ => s.Counting u) initial es)
    (hfree : h.CollisionFree (preimages s'.journal)) (hu' : s'.tenants u = some t')
    (he' : t'.accounting = some e') (hspell : OneSpelling e')
    {pre post : List HeartbeatSignal} {hb : HeartbeatSignal}
    (hbatch : flight.input.heartbeats = pre ++ hb :: post)
    (hpre : ∀ x ∈ pre, x.clusterID = hb.clusterID → x.sequenceNumber < hb.sequenceNumber)
    (hpost : ∀ x ∈ post, x.clusterID = hb.clusterID → x.sequenceNumber ≤ hb.sequenceNumber) :
    e'.state.processedSeqs hb.clusterID = some hb.sequenceNumber ∧
      (∀ x ∈ e'.history.succeeded, x.clusterID = hb.clusterID →
        x.sequenceNumber ≤ hb.sequenceNumber) ∧
      ∃ i, t'.provisioning.accountIDs .activeNodes = some i ∧
        (∀ id, (e'.state.pendingGaugeIDs hb.clusterID).bind (· .activeNodes) = some id →
          ∃ p ∈ s'.books.held i, p.id = id ∧
            (0 ≤ hb.activeNodes → (p.amount : ℤ) = hb.activeNodes.toInt)) ∧
        ((e'.state.pendingGaugeIDs hb.clusterID).bind (· .activeNodes) = none →
          hb.activeNodes = 0 ∨ ∃ x ∈ s'.journal,
            x.origin = .gaugeNew u flight.seqNo hb.clusterUUID .activeNodes ∧
              x.answer = .exceedsCredits) := by
  obtain ⟨hr', hq⟩ := quiet_after_flush hr hu he hmain hout hs₁ hfs hidle hu' he'
  have hs := run_sound hr
  have hflight : e.main.flight = some flight := by rw [hmain]; rfl
  have hfree' := hfree.mono (preimages_mono hq.journal)
  rw [((hs.tenants u t hu).handed e he).flight flight hflight] at hbatch
  have hbatch' : e.state.curBatch = pre ++ hb :: post := hbatch
  have hdelivered := run_batch hr hu he
  have hmem : hb ∈ e.state.curBatch := by rw [hbatch']; simp
  have hhighest : ∀ x ∈ e.state.curBatch, x.clusterID = hb.clusterID →
      x.sequenceNumber ≤ hb.sequenceNumber := by
    rw [hbatch']
    intro x hx hc
    rcases List.mem_append.mp hx with hx | hx
    · exact UInt64.le_of_lt (hpre x hx hc)
    · rcases List.mem_cons.mp hx with rfl | hx
      · exact UInt64.le_refl _
      · exact hpost x hx hc
  have hlatest : latestByCluster e.state.curBatch hb.clusterID = some hb :=
    hbatch' ▸ latestByCluster_first hpre hpost
  have hprocessed := hq.records.processed hb.clusterID hb.sequenceNumber
    (foldl_markProcessed_highest hmem (run_ahead hr hu he hb hmem) hhighest)
  refine ⟨hprocessed, fun x hx hc => ?_, ?_⟩
  · obtain ⟨n, hn, hle⟩ := (run_dedup hr' hu' he').recorded x hx
    rw [hc, hprocessed] at hn
    cases hn
    exact hle
  obtain ⟨i, hi⟩ := hs.account hu he .activeNodes
  obtain ⟨cluster, hkey⟩ := keyCluster_of_latest hlatest
  have hcluster : cluster = hb.clusterUUID := hspell.cluster
    ((names_of_key hdelivered hkey).mono hq.delivered) ⟨hb, hq.delivered (hdelivered hmem), rfl, rfl⟩
  obtain ⟨id, hrep, hzero⟩ :=
    hs.reported_zero (r := .activeNodes) hfree' (run_answered hr hu he) hu he hflight hout hlatest
      rfl hkey
  have hpending : (e'.state.pendingGaugeIDs hb.clusterID).bind (· .activeNodes) =
      if id = 0 then none else some id := by
    rw [hq.records.pending]
    exact (applyGaugeUpdates_apply _ _ _ _).trans (by rw [hrep])
  rw [hpending]
  refine ⟨i, hq.provisioning ▸ hi, fun id' hid => ?_, fun hnone => ?_⟩
  · split_ifs at hid with hne
    cases hid
    obtain ⟨p, hp', hpid, hamount⟩ := hs.reported_amount (run_filled hr) hfree'
      (run_noted hr hfree' hu he) (run_inOrder hr hcount hfree' hu he) hdelivered
      (hspell.anti hq.delivered) hu he hflight hout hi hrep hne hlatest
    refine ⟨p, ?_, hpid, fun hnonneg => ?_⟩
    · rw [hq.held .activeNodes i rfl hi]
      exact hp'
    · rw [hamount]
      exact nodes_amount hnonneg
  · split_ifs at hnone with hne
    rcases hzero hne with hamount | ⟨x, hx, hxo, hans⟩
    · left
      by_contra hnodes
      have hpos := nodes_positive hnodes
      rw [show hb.activeNodes.toInt64.toUInt64 = 0 from hamount] at hpos
      exact UInt64.lt_irrefl _ hpos
    · exact .inr ⟨x, hq.journal hx, hcluster ▸ hxo, hans⟩

def nodeHeartbeat (seq : UInt64) (nodes : Int32) : HeartbeatSignal :=
  { sampleHeartbeat seq with activeNodes := nodes }

/-- A flush, and then one with two heartbeats in the wrong order. -/
def reorderedNodes : List SystemEvent :=
  sampleProvisioning 100 20 ++ (sampleBatchOf [nodeHeartbeat 1 1] 0 ++ sampleSubmission ++
    sampleProjection ++ sampleBatchOf [nodeHeartbeat 3 4, nodeHeartbeat 2 2] 1 ++
    [TenantEvent.submitUsage {} true, .submitGauges true]).map (.tenant sampleTenant)

theorem reorderedNodes_newest :
    ∃ s' t' e' i id, runSteps (step .positional Reference.service) initial
        (reorderedNodes ++ [.tenant sampleTenant (.workflow (.deliver false))]) = some s' ∧
      s'.tenants sampleTenant = some t' ∧ t'.accounting = some e' ∧
      e'.state.processedSeqs "c" = some 3 ∧ t'.provisioning.accountIDs .activeNodes = some i ∧
      (e'.state.pendingGaugeIDs "c").bind (· .activeNodes) = some id ∧
      ∃ p ∈ s'.books.held i, p.id = id ∧ p.amount = 4 := by
  obtain ⟨s, hr, hp⟩ := runSteps_any (step .positional Reference.service) initial reorderedNodes
    (fun s => (s.flight? sampleTenant).any fun flight =>
      flight.input.heartbeats = [nodeHeartbeat 3 4, nodeHeartbeat 2 2] &&
        flight.run.outcome.any (·.toBool)) (by decide +kernel)
  obtain ⟨s', hr', hp'⟩ := runSteps_any (step .positional Reference.service) initial
    (reorderedNodes ++ [.tenant sampleTenant (.workflow (.deliver false))])
    (fun s => collisionTest .positional s.journal && (s.flight? sampleTenant).isNone &&
      (s.tenants sampleTenant).any fun t => t.accounting.any fun e => decide (OneSpelling e) &&
        ((e.state.pendingGaugeIDs "c").bind (· .activeNodes)).isSome) (by decide +kernel)
  have hs₁ := (runSteps_concat _ hr).mp hr'
  obtain ⟨flight, hf, hp⟩ := Option.any_eq_true _ _ |>.mp hp
  simp only [Bool.and_eq_true, decide_eq_true_eq, Option.any_eq_true] at hp hp'
  obtain ⟨hinput, outcome, hout, hok⟩ := hp
  obtain ⟨⟨hfree, hidle⟩, t', hu', e', he', hspell, hid⟩ := hp'
  obtain ⟨id, hid⟩ := Option.isSome_iff_exists.mp hid
  obtain ⟨t, e, site, hu, he, hmain⟩ := flight?_some hf
  cases outcome with
  | error err => cases hok
  | ok R =>
    obtain ⟨hseq, -, i, hi, hlive, -⟩ := reservation_shows_newest reorderedNodes [] hr hu he hmain
      hout false hs₁ rfl (Option.isNone_iff_eq_none.mp hidle)
      (along_of_alongTest _ (by decide +kernel)) (collisionFree_of_collisionTest hfree) hu' he'
      hspell (show flight.input.heartbeats = [] ++ nodeHeartbeat 3 4 :: [nodeHeartbeat 2 2] from
        hinput) (by simp) (by decide)
    obtain ⟨p, hp, hpid, hamount⟩ := hlive id hid
    refine ⟨s', t', e', i, id, hr', hu', he', hseq, hi, hid, p, hp, hpid, ?_⟩
    have hfour : (p.amount : ℤ) = 4 := hamount (by decide)
    exact_mod_cast hfour

section Rounds

variable {sig : QuotaAdjustmentSignal} {r : ResourceType} {k : ℕ}

/-- An allocation whose requests are all lost, and the failure is delivered. -/
def lostCredit (u : Uint128) (sig : QuotaAdjustmentSignal) : List SystemEvent :=
  .tenant u (.workflow (.update sig)) ::
    List.replicate 5 (.tenant u (.credit 0 { fate := .lostRequest "unreachable" } false)) ++
    [.tenant u (.workflow (.creditDeliver 0))]

/-- The same but for the counter, and for what no flush depends on. -/
structure SameButCount (n : ℕ) (e e' : Execution) : Prop where
  main : e'.main = e.main
  hbCh : e'.hbCh = e.hbCh
  credits : e'.credits = e.credits
  delivered : e'.history.delivered = e.history.delivered
  succeeded : e'.history.succeeded = e.history.succeeded
  state : ∃ interval, e'.state = { e.state with
    flushSeqNo := e.state.flushSeqNo + UInt64.ofNat n
    currentFlushInterval := interval }

theorem submitAllocationTransfers_lost (tb : Service) (input : SubmitAllocationInput) (L : Books)
    (cause : String) :
    (submitAllocationTransfers tb { fate := .lostRequest cause } input L).2 = L := by
  unfold submitAllocationTransfers
  dsimp only
  split_ifs
  · rfl
  · simp [submitAllocations, submitBatch, Service.request]

theorem step_lostCredit (h : Blake3) (tb : Service) {c : Credit} {run : Run Unit}
    (hu : s.tenants u = some t) (he : t.accounting = some e) (hc : e.credits = [c])
    (hrun : c.run.attempt maximumAttempts false (.error .timeout) = some run) :
    ∃ s', s.step h tb (.tenant u (.credit 0 { fate := .lostRequest "unreachable" } false)) = some s' ∧
      s'.tenants u = some { t with
        accounting := some { e with credits := [{ c with run := run }] } } ∧ s'.books = s.books :=
  ⟨{ s with tenants := s.tenants.set u { t with
      accounting := some { e with credits := [{ c with run := run }] } } },
    by simp [step, hu, Tenant.act, Tenant.credit, he, hc, heard, Execution.step,
      Execution.creditAttempt, Fate.reached, hrun, commit, submitAllocationTransfers_lost,
      reachedEntries, Service.record],
    Table.set_same _ _ _, rfl⟩

theorem run_lostCredit (h : Blake3) (tb : Service) {c : Credit} {k n : ℕ}
    (hu : s.tenants u = some t) (he : t.accounting = some e) (hc : e.credits = [c])
    (hrun : c.run = ⟨k, false, none⟩) (hn : k + (n + 1) = maximumAttempts) :
    ∃ s', runSteps (step h tb) s (List.replicate (n + 1)
        (.tenant u (.credit 0 { fate := .lostRequest "unreachable" } false))) = some s' ∧
      s'.tenants u = some { t with accounting := some { e with
        credits := [{ c with run := ⟨maximumAttempts, false, some (.error .timeout)⟩ }] } } ∧
      s'.books = s.books := by
  induction n generalizing s t e c k with
  | zero =>
    have hlast : c.run.attempt maximumAttempts false (.error .timeout) =
        some ⟨maximumAttempts, false, some (.error .timeout)⟩ := by
      simp [hrun, ActivityRun.attempt, ActivityRun.decided, ← hn]
    obtain ⟨s', hs', hu', hbooks⟩ := step_lostCredit h tb hu he hc hlast
    exact ⟨s', by simp [runSteps, hs'], hu', hbooks⟩
  | succ n ih =>
    have hnext : c.run.attempt maximumAttempts false (.error .timeout) =
        some ⟨k + 1, false, none⟩ := by
      simp [hrun, ActivityRun.attempt, ActivityRun.decided, ← hn]
    obtain ⟨s₁, hs₁, hu₁, hbooks₁⟩ := step_lostCredit h tb hu he hc hnext
    obtain ⟨s', hs', hu', hbooks'⟩ := ih hu₁ rfl rfl rfl (by omega)
    exact ⟨s', by rw [List.replicate_succ, runSteps, hs₁]; exact hs', hu', hbooks'.trans hbooks₁⟩

/-- Before and after a flush the main loop waits for signals, with nothing to do. -/
structure Waiting (e : Execution) : Prop where
  main : ∃ timer, e.main = .selecting timer
  hbCh : e.hbCh = []
  credits : e.credits = []

theorem round_lostCredit (h : Blake3) (tb : Service) (hu : s.tenants u = some t)
    (he : t.accounting = some e) (hw : Waiting e) (hsig : e.state.validateAdjustment sig = some r) :
    ∃ s' e', runSteps (step h tb) s (lostCredit u sig) = some s' ∧
      s'.tenants u = some { t with accounting := some e' } ∧ s'.books = s.books ∧
      SameButCount 1 e e' := by
  obtain ⟨timer, hmain⟩ := hw.main
  obtain ⟨s₁, hs₁, hu₁, hbooks₁, -⟩ := step_workflow tb hu he (w := .update sig) rfl
    (show e.step h (.update sig) = some _ by
      simp only [Execution.step, Execution.update, hmain, hsig]
      rfl)
  obtain ⟨s₂, hs₂, hu₂, hbooks₂⟩ := run_lostCredit h tb (k := 0) (n := 4) hu₁ rfl
    (by simp only [hw.credits, List.nil_append]; rfl) rfl rfl
  obtain ⟨s₃, hs₃, hu₃, hbooks₃, -⟩ := step_workflow tb hu₂ rfl (w := .creditDeliver 0) rfl
    (show Execution.step h _ (.creditDeliver 0) = some _ by
      simp only [Execution.step, Execution.creditDeliver]; rfl)
  refine ⟨s₃, _, ?_, hu₃, hbooks₃.trans (hbooks₂.trans hbooks₁), ?_⟩
  · simp only [lostCredit, List.cons_append, runSteps, hs₁, Option.bind_some]
    exact (runSteps_concat _ hs₂).mpr hs₃
  · exact ⟨rfl, rfl, hw.credits.symm, rfl, rfl, _, rfl⟩

theorem SameButCount.waiting {n : ℕ} (hc : SameButCount n e e') (hw : Waiting e) : Waiting e' :=
  ⟨hc.main ▸ hw.main, hc.hbCh.trans hw.hbCh, hc.credits.trans hw.credits⟩

theorem SameButCount.trans {m n : ℕ} {e'' : Execution} (hm : SameButCount m e e') (hn : SameButCount n e' e'') :
    SameButCount (m + n) e e'' := by
  obtain ⟨i, hi⟩ := hm.state
  obtain ⟨j, hj⟩ := hn.state
  refine ⟨hn.main.trans hm.main, hn.hbCh.trans hm.hbCh, hn.credits.trans hm.credits,
    hn.delivered.trans hm.delivered, hn.succeeded.trans hm.succeeded, j, ?_⟩
  rw [hj, hi, UInt64.ofNat_add, UInt64.add_assoc]

theorem rounds_lostCredit (h : Blake3) (tb : Service) (n : ℕ) (hu : s.tenants u = some t)
    (he : t.accounting = some e) (hw : Waiting e) (hsig : e.state.validateAdjustment sig = some r) :
    ∃ s' e', runSteps (step h tb) s (List.replicate n (lostCredit u sig)).flatten = some s' ∧
      s'.tenants u = some { t with accounting := some e' } ∧ s'.books = s.books ∧
      SameButCount n e e' := by
  induction n generalizing s t e with
  | zero =>
    refine ⟨s, e, rfl, by rw [hu, ← he], rfl, rfl, rfl, rfl, rfl, rfl, e.state.currentFlushInterval, ?_⟩
    rw [show UInt64.ofNat 0 = 0 from rfl, UInt64.add_zero]
  | succ n ih =>
    obtain ⟨s₁, e₁, hs₁, hu₁, hbooks₁, hc₁⟩ := round_lostCredit h tb hu he hw hsig
    have hsig₁ : e₁.state.validateAdjustment sig = some r := by
      obtain ⟨i, hi⟩ := hc₁.state
      rw [hi]
      exact hsig
    obtain ⟨s', e', hs', hu', hbooks', hc'⟩ := ih hu₁ rfl (hc₁.waiting hw) hsig₁
    refine ⟨s', e', ?_, hu', hbooks'.trans hbooks₁, by rw [Nat.add_comm]; exact hc₁.trans hc'⟩
    rw [List.replicate_succ, List.flatten_cons]
    exact (runSteps_append _).mpr ⟨s₁, hs₁, hs'⟩

theorem step_receiveHeartbeat (h : Blake3) {timer : ℕ} {hb : HeartbeatSignal}
    {rest : List HeartbeatSignal} (hmain : e.main = .selecting timer) (hch : e.hbCh = hb :: rest)
    (hnew : e.state.alreadyProcessed hb = false)
    (hsize : e.state.curBatch.length + 1 < batchSizeThreshold) :
    e.step h (.receiveHeartbeat false) = some { e with
      hbCh := rest
      state := e.state.appendHeartbeat hb
      main := .selecting e.timer } := by
  have hsmall : ¬batchSizeThreshold ≤ (e.state.appendHeartbeat hb).curBatch.length := by
    simpa [TenantAccountingState.appendHeartbeat] using hsize
  simp [Execution.step, Execution.receiveHeartbeat, hmain, hch, hnew, hsmall, Execution.endIteration]

theorem step_timerBranch (h : Blake3) {timer : ℕ} (hmain : e.main = .selecting timer)
    (hresolved : timer ∈ e.resolved) (hbatch : e.state.curBatch ≠ []) (continuing : Bool) :
    e.step h (.timerBranch continuing) = some (e.beginFlush h .timer) := by
  simp [Execution.step, Execution.timerBranch, hmain, hresolved, hbatch]

/-- A heartbeat arrives at a workflow that waits, and is flushed. -/
theorem run_flush (h : Blake3) (tb : Service) (hu : s.tenants u = some t)
    (he : t.accounting = some e) (hw : Waiting e) (hempty : e.state.curBatch = [])
    {hb : HeartbeatSignal} (hnew : e.state.alreadyProcessed hb = false) :
    ∃ s' e', runSteps (step h tb) s ((sampleBatchOf [hb] e.timer).map (.tenant u)) = some s' ∧
      s'.tenants u = some { t with accounting := some e' } ∧ s'.books = s.books ∧
      e'.state = (e.state.appendHeartbeat hb).countFlush ∧
      e'.main = .submitting .timer ⟨e.state.flushSeqNo + 1,
        (e.state.appendHeartbeat hb).countFlush.batchInput h, {}⟩ ∧
      e'.history.delivered = hb :: e.history.delivered ∧
      e'.history.succeeded = e.history.succeeded := by
  obtain ⟨timer, hmain⟩ := hw.main
  obtain ⟨s₁, hs₁, hu₁, hbooks₁, -⟩ := step_workflow tb hu he (w := .heartbeat hb) rfl
    (show e.step h (.heartbeat hb) = some _ from rfl)
  obtain ⟨s₂, hs₂, hu₂, hbooks₂, -⟩ := step_workflow tb hu₁ rfl (w := .receiveHeartbeat false) rfl
    (step_receiveHeartbeat h hmain (by simp only [hw.hbCh, List.nil_append]; rfl) hnew
      (by simp [hempty, batchSizeThreshold]))
  obtain ⟨s₃, hs₃, hu₃, hbooks₃, -⟩ := step_workflow tb hu₂ rfl (w := .timerFires e.timer) rfl
    (show Execution.step h _ (.timerFires e.timer) = some _ from if_pos (le_refl e.timer))
  obtain ⟨s₄, hs₄, hu₄, hbooks₄, -⟩ := step_workflow tb hu₃ rfl (w := .timerBranch false) rfl
    (step_timerBranch h rfl List.mem_cons_self (by simp [TenantAccountingState.appendHeartbeat])
      false)
  refine ⟨s₄, _, ?_, hu₄, ?_, rfl, rfl, rfl, rfl⟩
  · simp [sampleBatchOf, runSteps, hs₁, hs₂, hs₃, hs₄]
  · rw [hbooks₄, hbooks₃, hbooks₂, hbooks₁]

end Rounds

/-- A cluster has one node, and then two. -/
def growingNodes : List SystemEvent :=
  sampleProvisioning 100 20 ++ (sampleBatchOf [nodeHeartbeat 1 1] 0 ++ sampleSubmission ++
    sampleProjection ++ sampleBatchOf [nodeHeartbeat 2 2] 1 ++ sampleSubmission ++
    sampleProjection).map (.tenant sampleTenant)

/-- Then a number of allocations are lost, and the cluster has three nodes. -/
def laterNodes (rounds timer : ℕ) : List SystemEvent :=
  growingNodes ++ ((List.replicate rounds (lostCredit sampleTenant sampleCredit)).flatten ++
    ((sampleBatchOf [nodeHeartbeat 3 3] timer).map (.tenant sampleTenant) ++
      batchSteps sampleTenant {} false))

/-- The flush that would follow if the counter were zero again. -/
def restartedBatch (e : Execution) : TBBatchInput :=
  TenantAccountingState.batchInput .positional
    (TenantAccountingState.appendHeartbeat { e.state with flushSeqNo := 0 }
      (nodeHeartbeat 3 3)).countFlush

/-- What `growingNodes` comes to, and what the flush would leave written down. -/
def growingNodesTest (s : State) : Bool :=
  (s.tenants sampleTenant).any fun t => t.halfway.isNone && t.accounting.any fun e =>
    (match e.main with | .selecting _ => true | _ => false) && e.hbCh = [] && e.credits.isEmpty &&
    e.state.curBatch = [] && e.state.flushSeqNo = 2 &&
    !e.state.alreadyProcessed (nodeHeartbeat 3 3) &&
    e.state.validateAdjustment sampleCredit = some .cpuHours &&
    e.history.delivered = [nodeHeartbeat 2 2, nodeHeartbeat 1 1] &&
    match submitTBBatch .positional (restartedBatch e) Reference.service {} s.books with
    | (.ok R, L) => ((applyGaugeUpdates e.state.pendingGaugeIDs R.gaugeUpdates "c").bind
        (· .activeNodes)).any L.isVoided
    | _ => false

/-- When the counter has come round, the third flush has the number of the first. The
service knows the identifier, the flush succeeds, and what it writes down is the
reservation of one node that the second flush has voided. -/
theorem wrapped_reservation_is_void :
    ∃ timer s t e id, runSteps (step .positional Reference.service) initial
        (laterNodes (2 ^ 64 - 2) timer) = some s ∧
      s.tenants sampleTenant = some t ∧ t.accounting = some e ∧ OneSpelling e ∧
      e.state.curBatch = [] ∧ e.main.flight = none ∧
      (∃ rest, e.history.succeeded = nodeHeartbeat 3 3 :: rest) ∧
      (e.state.pendingGaugeIDs "c").bind (· .activeNodes) = some id ∧
      s.books.isVoided id = true := by
  obtain ⟨s, hr, hp⟩ := runSteps_any (step .positional Reference.service) initial growingNodes
    growingNodesTest (by decide +kernel)
  simp only [growingNodesTest, Option.any_eq_true, Bool.and_eq_true, decide_eq_true_eq,
    Option.isNone_iff_eq_none, List.isEmpty_iff, Bool.not_eq_true'] at hp
  obtain ⟨t, hu, hhalf, e, he, ⟨⟨⟨⟨⟨⟨⟨hmain, hch⟩, hcredits⟩, hempty⟩, hseq⟩, hnew⟩, hsig⟩, hdelivered⟩,
    hbatch⟩ := hp
  have hw : Waiting e := by
    refine ⟨?_, hch, hcredits⟩
    split at hmain
    · rename_i timer hm
      exact ⟨timer, hm⟩
    · cases hmain
  obtain ⟨s₁, e₁, hr₁, hu₁, hbooks₁, hcounted⟩ :=
    rounds_lostCredit .positional Reference.service (2 ^ 64 - 2) hu he hw hsig
  obtain ⟨interval, hstate⟩ := hcounted.state
  have hzero : e.state.flushSeqNo + UInt64.ofNat (2 ^ 64 - 2) = 0 := by
    rw [hseq]
    decide
  rw [hzero] at hstate
  have hinput : (e₁.state.appendHeartbeat (nodeHeartbeat 3 3)).countFlush.batchInput .positional =
      restartedBatch e := by
    rw [hstate]
    rfl
  obtain ⟨s₂, e₂, hr₂, hu₂, hbooks₂, hstate₂, hmain₂, hdelivered₂, hsucceeded₂⟩ :=
    run_flush .positional Reference.service hu₁ rfl (hcounted.waiting hw) (by rw [hstate]; exact hempty)
      (show e₁.state.alreadyProcessed (nodeHeartbeat 3 3) = false by rw [hstate]; exact hnew)
  split at hbatch
  · rename_i R L hok
    obtain ⟨id, hid, hvoid⟩ := Option.any_eq_true _ _ |>.mp hbatch
    rw [hinput] at hmain₂
    have hok₂ : submitTBBatch .positional (restartedBatch e) Reference.service {} s₂.books =
        (.ok R, L) := by
      rw [hbooks₂, hbooks₁]
      exact hok
    obtain ⟨s₃, t₃, e₃, hr₃, hu₃, he₃, hstate₃, hidle, hdelivered₃, hsucceeded₃, hbooks₃⟩ :=
      batch_cleared hu₂ rfl hhalf hmain₂ rfl (congrArg Prod.fst hok₂) false
    rw [hok₂] at hbooks₃
    have hheartbeats : (restartedBatch e).heartbeats = [nodeHeartbeat 3 3] := by
      change e.state.curBatch ++ [nodeHeartbeat 3 3] = _
      rw [hempty, List.nil_append]
    rw [hheartbeats] at hsucceeded₃
    refine ⟨e₁.timer, s₃, t₃, e₃, id, ?_, hu₃, he₃, ?_, ?_, hidle, ⟨_, hsucceeded₃⟩, ?_, ?_⟩
    · exact (runSteps_append _).mpr ⟨s, hr, (runSteps_append _).mpr ⟨s₁, hr₁,
        (runSteps_append _).mpr ⟨s₂, hr₂, hr₃⟩⟩⟩
    · unfold OneSpelling
      rw [hdelivered₃, hdelivered₂, hcounted.delivered, hdelivered]
      decide
    · rw [hstate₃]
      rfl
    · rw [hstate₃, hstate₂, hstate]
      exact hid
    · rw [hbooks₃]
      exact hvoid
  · cases hbatch

end State
end CloudCredit.System
