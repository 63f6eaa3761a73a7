import CloudCredit.Accounting.Flags
import CloudCredit.Accounting.Writers
import CloudCredit.System.Gauges
import CloudCredit.System.Plan
import CloudCredit.System.Rulings
import CloudCredit.TigerBeetle.Reference

/-!
# The exceeded flag and the order of the ledger

The flag of a resource is set and deleted by two coroutines, from results that may reach
the workflow in another order than the ledger has decided them in. The flag agrees with the
ledger as long as a batch that touches the resource and a credit for it do not overlap,
an activity that reached the ledger does not fail for good, the handler of a credit is
not left behind by a Continue-As-New, and no gauge of the resource is reported as zero.
-/
namespace CloudCredit.System

open Library TigerBeetle Domain Ledger Accounting

/-- The batch has a transfer or a gauge on the resource. -/
def Touches (h : Blake3) (r : ResourceType) (input : TBBatchInput) : Prop :=
  (∃ x ∈ usageTransfers h input, x.2.resource = r) ∨
    ∃ x ∈ gaugeUpdates input (.listed String), x.2.resource = r

instance (h : Blake3) (r : ResourceType) : DecidablePred (Touches h r) := fun _ =>
  inferInstanceAs (Decidable (_ ∨ _))

/-- An activity that reached the ledger does not fail for good. -/
def NotLost {α : Type} (run : Run α) : Prop :=
  run.reached = true → run.outcome.all Except.toBool = true

instance {α : Type} : DecidablePred (NotLost (α := α)) := fun _ =>
  inferInstanceAs (Decidable (_ → _))

/-- While a batch that touches the resource is in flight there is no credit for it, and
the batch reports no gauge of it as zero. -/
def BatchApart (h : Blake3) (r : ResourceType) (e : Execution) (f : Flight) : Prop :=
  Touches h r f.input → NotLost f.run ∧
    (∀ x ∈ gaugeUpdates f.input (.listed String), x.2.resource = r → 0 < x.2.newAmount) ∧
    ∀ c ∈ e.credits, c.issue.resource ≠ r

instance (h : Blake3) (r : ResourceType) (e : Execution) : DecidablePred (BatchApart h r e) :=
  fun _ => inferInstanceAs (Decidable (_ → _))

/-- Batches and credits on the resource do not overlap, and none of them is lost. -/
def Orderly (h : Blake3) (r : ResourceType) (e : Execution) : Prop :=
  (∀ f ∈ e.main.flight.toList, BatchApart h r e f) ∧
    ∀ c ∈ e.credits, c.issue.resource = r → c.abandoned = false ∧ NotLost c.run

instance (h : Blake3) (r : ResourceType) : DecidablePred (Orderly h r) := fun _ =>
  inferInstanceAs (Decidable (_ ∧ _))

/-- The flag of the resource is set. -/
def Flagged (r : ResourceType) (e : Execution) : Prop := e.state.exceededResources r = some true

instance (r : ResourceType) : DecidablePred (Flagged r) := fun _ =>
  inferInstanceAs (Decidable (_ = _))

/-- No batch touches the resource: a rejection shows in the flag, and a flag without a
rejection waits for a credit that is already in the ledger. -/
structure Calm (r : ResourceType) (last : Option Bool) (e : Execution) : Prop where
  rejected : last = some true → Flagged r e
  flagged : Flagged r e → last = some true ∨
    ∃ c ∈ e.credits, c.issue.resource = r ∧ c.run.reached = true
  credited : ∀ c ∈ e.credits, c.issue.resource = r → c.run.outcome = some (.ok ()) →
    last ≠ some true

/-- A batch that touches the resource: the flag is as before until the batch reaches the
ledger, and what the activity has learnt of the resource is the newest ruling. -/
structure Busy (h : Blake3) (r : ResourceType) (last : Option Bool)
    (half : Option (BatchAttempt × Table ResourceType ResourceBatchResult)) (e : Execution)
    (f : Flight) : Prop where
  unsent : f.run.reached = false → (∀ x, half = some x → x.1.usageFate.reached = false) →
    (Flagged r e ↔ last = some true)
  halfway : (∃ y ∈ usageTransfers h f.input, y.2.resource = r) → ∀ x, half = some x →
    Reports r last x.2
  result : ∀ R, f.run.outcome = some (.ok R) → Reports r last R.perResource

/-- The flag and the newest ruling, with an attempt of the batch activity between its two
requests in `half`. -/
inductive Agrees (h : Blake3) (r : ResourceType) (last : Option Bool)
    (half : Option (BatchAttempt × Table ResourceType ResourceBatchResult)) (e : Execution) : Prop
  | calm (huntouched : ∀ f, e.main.flight = some f → ¬Touches h r f.input) (hcalm : Calm r last e)
      (hhalf : ∀ x, half = some x → x.2 r = none)
      (hresult : ∀ f R, e.main.flight = some f → f.run.outcome = some (.ok R) →
        R.perResource r = none)
  | busy {f : Flight} (hflight : e.main.flight = some f) (htouches : Touches h r f.input)
      (hbusy : Busy h r last half e f)

section Flags

variable {h : Blake3} {r : ResourceType} {last : Option Bool}
  {half : Option (BatchAttempt × Table ResourceType ResourceBatchResult)} {e e' : Execution}
  {f : Flight}

theorem flagged_congr (hflags : e'.state.exceededResources r = e.state.exceededResources r) :
    Flagged r e' ↔ Flagged r e := by
  rw [Flagged, hflags, Flagged]

theorem Orderly.batch (ho : Orderly h r e) (hflight : e.main.flight = some f)
    (htouches : Touches h r f.input) : NotLost f.run ∧
      (∀ x ∈ gaugeUpdates f.input (.listed String), x.2.resource = r → 0 < x.2.newAmount) ∧
      ∀ c ∈ e.credits, c.issue.resource ≠ r :=
  ho.1 f (by simp [hflight]) htouches

theorem calm_of_iff (hcredits : ∀ c ∈ e.credits, c.issue.resource ≠ r)
    (hiff : Flagged r e ↔ last = some true) : Calm r last e where
  rejected := hiff.mpr
  flagged := fun hf => .inl (hiff.mp hf)
  credited := fun c hc hr => absurd hr (hcredits c hc)

theorem Calm.iff (hc : Calm r last e) (hcredits : ∀ c ∈ e.credits, c.issue.resource ≠ r) :
    Flagged r e ↔ last = some true := by
  refine ⟨fun hf => ?_, hc.rejected⟩
  rcases hc.flagged hf with hlast | ⟨c, hmem, hr, -⟩
  · exact hlast
  · exact absurd hr (hcredits c hmem)

theorem Calm.congr (hc : Calm r last e)
    (hflags : e'.state.exceededResources r = e.state.exceededResources r)
    (hcredits : e'.credits = e.credits) : Calm r last e' where
  rejected := fun hlast => (flagged_congr hflags).mpr (hc.rejected hlast)
  flagged := fun hf => by
    rw [hcredits]
    exact hc.flagged ((flagged_congr hflags).mp hf)
  credited := by
    rw [hcredits]
    exact hc.credited

theorem Calm.goesOn (hc : Calm r last e) (ho : Orderly h r e)
    (hfresh : ∀ f, e.main.flight = some f → f.run = {}) (hhalf : half = none) :
    Agrees h r last half e := by
  subst hhalf
  by_cases htouched : ∃ f, e.main.flight = some f ∧ Touches h r f.input
  · obtain ⟨f, hflight, htouches⟩ := htouched
    have hrun := hfresh f hflight
    have hiff := hc.iff (ho.batch hflight htouches).2.2
    exact .busy hflight htouches ⟨fun _ _ => hiff, by simp, by simp [hrun]⟩
  · refine .calm (fun f hf ht => htouched ⟨f, hf, ht⟩) hc (by simp) fun f R hf hout => ?_
    rw [hfresh f hf] at hout
    cases hout

theorem Agrees.calm_of_idle (ha : Agrees h r last half e) (hidle : e.main.flight = none) :
    Calm r last e := by
  cases ha with
  | calm huntouched hcalm => exact hcalm
  | busy hflight =>
    rw [hidle] at hflight
    cases hflight

/-- An idle credit for the resource joins, or a credit leaves without having decided
anything. -/
theorem Agrees.credits (ha : Agrees h r last half e)
    (hflags : e'.state.exceededResources r = e.state.exceededResources r)
    (hflight : e'.main.flight = e.main.flight)
    (hsub : ∀ c ∈ e'.credits, c.issue.resource = r → c.run.outcome = some (.ok ()) →
      ∃ c' ∈ e.credits, c'.issue.resource = r ∧ c'.run.outcome = some (.ok ()))
    (hkeep : ∀ c ∈ e.credits, c.issue.resource = r → c.run.reached = true →
      ∃ c' ∈ e'.credits, c'.issue.resource = r ∧ c'.run.reached = true) :
    Agrees h r last half e' := by
  cases ha with
  | calm huntouched hcalm hhalf hresult =>
    refine .calm (by rwa [hflight]) ⟨?_, fun hf => ?_, fun c hc hr hout => ?_⟩ hhalf (by rwa [hflight])
    · exact fun hlast => (flagged_congr hflags).mpr (hcalm.rejected hlast)
    · rcases hcalm.flagged ((flagged_congr hflags).mp hf) with hlast | ⟨c, hc, hr, hreached⟩
      · exact .inl hlast
      · exact .inr (hkeep c hc hr hreached)
    · obtain ⟨c', hc', hr', hout'⟩ := hsub c hc hr hout
      exact hcalm.credited c' hc' hr' hout'
  | busy hfl htouches hbusy =>
    refine .busy (hflight.trans hfl) htouches ⟨fun hreached hhalf => ?_, hbusy.halfway, hbusy.result⟩
    exact (flagged_congr hflags).trans (hbusy.unsent hreached hhalf)

theorem flagged_applyExceeded {per : Table ResourceType ResourceBatchResult}
    (hrep : Reports r last per)
    (hflags : e'.state.exceededResources = applyExceeded e.state.exceededResources per) :
    Flagged r e' ↔ last = some true := by
  obtain ⟨rr, hper, hdual, rfl⟩ := hrep
  cases hx : rr.exceedsCredits <;> simp [Flagged, hflags, applyExceeded, hper, hdual, hx]

/-- The result of the batch is delivered. -/
theorem Agrees.succeeds (ha : Agrees h r last half e) (ho : Orderly h r e)
    {R : TBBatchResult} (hflight : e.main.flight = some f) (hout : f.run.outcome = some (.ok R))
    (hflags : e'.state.exceededResources = applyExceeded e.state.exceededResources R.perResource)
    (hcredits : e'.credits = e.credits) : Calm r last e' := by
  cases ha with
  | calm huntouched hcalm hhalf hresult =>
    refine hcalm.congr ?_ hcredits
    rw [hflags, applyExceeded, hresult f R hflight hout]
  | busy hfl htouches hbusy =>
    cases hflight.symm.trans hfl
    refine calm_of_iff ?_ (flagged_applyExceeded (hbusy.result R hout) hflags)
    rw [hcredits]
    exact (ho.batch hflight htouches).2.2

theorem NotLost.unreached {α : Type} {run : Run α} {err : ActivityError} (hs : NotLost run)
    (hout : run.outcome = some (.error err)) : run.reached = false := by
  cases hreached : run.reached with
  | false => rfl
  | true =>
    have hall := hs hreached
    rw [hout] at hall
    cases hall

/-- The batch has failed for good without having reached the ledger. -/
theorem Agrees.fails (ha : Agrees h r last none e) (ho : Orderly h r e) {err : ActivityError}
    (hflight : e.main.flight = some f) (hout : f.run.outcome = some (.error err))
    (hflags : e'.state.exceededResources = e.state.exceededResources)
    (hcredits : e'.credits = e.credits) : Calm r last e' := by
  cases ha with
  | calm huntouched hcalm => exact hcalm.congr (by rw [hflags]) hcredits
  | busy hfl htouches hbusy =>
    cases hflight.symm.trans hfl
    obtain ⟨hsettles, -, hapart⟩ := ho.batch hflight htouches
    have hiff := hbusy.unsent (hsettles.unreached hout) (by simp)
    exact calm_of_iff (by rwa [hcredits]) ((flagged_congr (by rw [hflags])).trans hiff)

theorem Agrees.confirms (ha : Agrees h r last half e) (ho : Orderly h r e) {i : ℕ} {c : Credit}
    (hi : e.credits[i]? = some c) (hout : c.run.outcome = some (.ok ()))
    (hflags : e'.state.exceededResources = e.state.exceededResources.erase c.issue.resource)
    (hflight : e'.main.flight = e.main.flight) (hcredits : e'.credits = e.credits.eraseIdx i) :
    Agrees h r last half e' := by
  have hmem := List.mem_of_getElem? hi
  have hsub : ∀ c' ∈ e'.credits, c' ∈ e.credits := fun c' hc' =>
    List.mem_of_mem_eraseIdx (hcredits ▸ hc')
  by_cases hr : c.issue.resource = r
  · have hnot : ¬Flagged r e' := by
      simp [Flagged, hflags, hr]
    cases ha with
    | calm huntouched hcalm hhalf hresult =>
      have hlast := hcalm.credited c hmem hr hout
      exact .calm (by rwa [hflight]) ⟨fun h => absurd h hlast, fun h => absurd h hnot,
        fun _ _ _ _ => hlast⟩ hhalf (by rwa [hflight])
    | busy hfl htouches => exact absurd hr ((ho.batch hfl htouches).2.2 c hmem)
  · refine ha.credits ?_ hflight (fun c' hc' hr' hout' => ⟨c', hsub c' hc', hr', hout'⟩)
      fun c' hc' hr' hreached => ⟨c', ?_, hr', hreached⟩
    · rw [hflags, Table.erase_other _ (Ne.symm hr)]
    · rw [hcredits]
      refine mem_eraseIdx_of_ne hi hc' fun heq => hr ?_
      rw [← heq, hr']

theorem Agrees.step (ha : Agrees h r last half e) (ho : Orderly h r e) (ho' : Orderly h r e')
    (hhalf : ∀ x, half = some x → ∃ f, e.main.flight = some f ∧ f.run.outcome = none)
    (hs : FlagStep e e') : Agrees h r last half e' := by
  have hnone : (∀ f, e.main.flight = some f → f.run.outcome ≠ none) → half = none := by
    intro hall
    cases half with
    | none => rfl
    | some x =>
      obtain ⟨f, hf, hout⟩ := hhalf x rfl
      exact absurd hout (hall f hf)
  cases hs with
  | rests hflags hflight hcredits =>
    refine ha.credits (by rw [hflags]) hflight ?_ ?_
    · rw [hcredits]
      exact fun c hc hr hout => ⟨c, hc, hr, hout⟩
    · rw [hcredits]
      exact fun c hc hr hreached => ⟨c, hc, hr, hreached⟩
  | moves hidle hflags hfresh hcredits =>
    exact ((ha.calm_of_idle hidle).congr (by rw [hflags]) hcredits).goesOn ho' hfresh
      (hnone (by simp [hidle]))
  | @succeeds f R hflight hout hflags hidle hcredits =>
    refine (ha.succeeds ho hflight hout hflags hcredits).goesOn ho' (by simp [hidle]) (hnone ?_)
    intro g hg
    cases hflight.symm.trans hg
    simp [hout]
  | @fails f err hflight hout hflags hfresh hcredits =>
    have hhalf := hnone fun g hg => by
      cases hflight.symm.trans hg
      simp [hout]
    subst hhalf
    exact (ha.fails ho hflight hout hflags hcredits).goesOn ho' hfresh rfl
  | @accepts c hrun hflags hflight hcredits =>
    refine ha.credits (by rw [hflags]) hflight ?_ ?_
    · rw [hcredits]
      intro c' hc' hr hout
      rcases List.mem_append.mp hc' with hc' | hc'
      · exact ⟨c', hc', hr, hout⟩
      · rw [List.mem_singleton.mp hc', hrun] at hout
        cases hout
    · rw [hcredits]
      exact fun c' hc' hr hreached => ⟨c', List.mem_append_left _ hc', hr, hreached⟩
  | @ends i c outcome hi hout hend hflags hflight hcredits =>
    refine ha.credits (by rw [hflags]) hflight ?_ fun c' hc' hr hreached => ⟨c', ?_, hr, hreached⟩
    · rw [hcredits]
      exact fun c' hc' hr hout => ⟨c', List.mem_of_mem_eraseIdx hc', hr, hout⟩
    · rw [hcredits]
      refine mem_eraseIdx_of_ne hi hc' ?_
      rintro rfl
      obtain ⟨hgone, hsettles⟩ := ho.2 c' hc' hr
      rcases hend with habandoned | ⟨err, rfl⟩
      · rw [hgone] at habandoned
        cases habandoned
      · rw [hsettles.unreached hout] at hreached
        cases hreached
  | confirms hi hout hflags hflight hcredits => exact ha.confirms ho hi hout hflags hflight hcredits
  | restarts hidle hidle' hflags hcredits =>
    refine ha.credits (by rw [hflags]) (hidle'.trans hidle.symm) ?_ ?_
    · rw [hcredits]
      intro c hc hr hout
      obtain ⟨c', hc', rfl⟩ := List.mem_map.mp hc
      exact ⟨c', hc', hr, hout⟩
    · rw [hcredits]
      exact fun c hc hr hreached => ⟨_, List.mem_map_of_mem hc, hr, hreached⟩

end Flags

section Requests

variable {h : Blake3} {tb : Service} {r : ResourceType} {u : Uint128} {L : Books}
  {J : List (Entry Source)} {e : Execution} {site : FlushSite} {f : Flight}

theorem lastRuling_of_none {fate : Fate} {xs : List (Source × Transfer)}
    (hxs : ∀ x ∈ xs, x.1.tenant ≠ u ∨ x.1.resource ≠ r) :
    lastRuling u r (tb.record (L, J) (reachedEntries fate xs)).2 = lastRuling u r J :=
  congrArg List.head? (record_rulings_of_none fun x hx => hxs x (mem_reachedEntries hx).1)

theorem lastRuling_of_unreached {fate : Fate} {xs : List (Source × Transfer)}
    (hfate : fate.reached = false) :
    lastRuling u r (tb.record (L, J) (reachedEntries fate xs)).2 = lastRuling u r J := by
  rw [reachedEntries, hfate]
  rfl

theorem exists_gaugeUpdates {input : TBBatchInput} {P : String × GaugePendingUpdate → Prop}
    (o : IterationOrder String) :
    (∃ x ∈ gaugeUpdates input o, P x) ↔ ∃ x ∈ gaugeUpdates input (.listed String), P x := by
  simp only [mem_gaugeUpdates]

/-- The first request of an attempt goes well. -/
theorem Agrees.usage {att : BatchAttempt} {per : Table ResourceType ResourceBatchResult}
    (ha : Agrees h r (lastRuling u r J) none e) (hflight : e.main.flight = some f)
    (hout : f.run.outcome = none) (htenant : f.input.tenantUUID = u)
    (hper : (submitUsage h f.input tb att L).1 = .ok per) :
    Agrees h r (lastRuling u r (tb.record (L, J)
      (reachedEntries att.usageFate (usageEntries h f.input))).2) (some (att, per)) e := by
  cases ha with
  | calm huntouched hcalm hhalf hresult =>
    have hno : ¬∃ x ∈ usageTransfers h f.input, x.2.resource = r :=
      fun hx => huntouched f hflight (.inl hx)
    rw [lastRuling_of_none (usageEntries_resource hno)]
    refine .calm huntouched hcalm (fun x hx => ?_) hresult
    cases hx
    exact submitUsage_silent hper hno
  | busy hfl htouches hbusy =>
    cases hflight.symm.trans hfl
    refine .busy hflight htouches ⟨fun hreached hhalf => ?_, fun htouched x hx => ?_, fun R hR => ?_⟩
    · rw [lastRuling_of_unreached (hhalf _ rfl)]
      exact hbusy.unsent hreached (by simp)
    · cases hx
      obtain ⟨hfate, hrep⟩ := submitUsage_reports (J := J) htenant hper htouched
      rw [hfate]
      exact hrep
    · rw [hout] at hR
      cases hR

/-- The attempt ends after the first request. -/
theorem Agrees.usageFails {att : BatchAttempt} {err : ActivityError} {run : Run TBBatchResult}
    (ha : Agrees h r (lastRuling u r J) none e) (hmain : e.main = .submitting site f)
    (hrun : f.run.attempt maximumAttempts att.usageFate.reached (.error err) = some run) :
    Agrees h r (lastRuling u r (tb.record (L, J)
      (reachedEntries att.usageFate (usageEntries h f.input))).2) none
      { e with main := .submitting site { f with run := run } } := by
  have hflight : e.main.flight = some f := by rw [hmain]; rfl
  obtain ⟨-, rfl⟩ := ActivityRun.attempt_some hrun
  have hfails : ∀ R, ActivityRun.decided maximumAttempts (f.run.attempts + 1)
      (.error err : Except ActivityError TBBatchResult) ≠ some (.ok R) := by
    intro R hR
    cases ActivityRun.decided_ok hR
  cases ha with
  | calm huntouched hcalm hhalf hresult =>
    have hno : ¬∃ x ∈ usageTransfers h f.input, x.2.resource = r :=
      fun hx => huntouched f hflight (.inl hx)
    rw [lastRuling_of_none (usageEntries_resource hno)]
    refine .calm (fun g hg => ?_) (hcalm.congr rfl rfl) (by simp) fun g R hg hR => ?_
    · cases hg
      exact huntouched f hflight
    · cases hg
      exact absurd hR (hfails R)
  | busy hfl htouches hbusy =>
    cases hflight.symm.trans hfl
    refine .busy rfl htouches ⟨fun hreached _ => ?_, by simp, fun R hR => ?_⟩
    · rw [Bool.or_eq_false_iff] at hreached
      rw [lastRuling_of_unreached hreached.2]
      exact hbusy.unsent hreached.1 (by simp)
    · exact absurd hR (hfails R)

/-- The second request ends the attempt. -/
theorem Agrees.gauges {att : BatchAttempt} {per : Table ResourceType ResourceBatchResult}
    {reported : Bool} {run : Run TBBatchResult} (ha : Agrees h r (lastRuling u r J) (some (att, per)) e)
    (ho : Orderly h r e) (hmain : e.main = .submitting site f) (htenant : f.input.tenantUUID = u)
    (hrun : f.run.attempt maximumAttempts (att.usageFate.reached || att.gaugeFate.reached)
      (heard reported (submitGauges f.input tb att per L).1) = some run) :
    Agrees h r (lastRuling u r (tb.record (L, J)
      (reachedEntries att.gaugeFate (gaugeEntries f.seqNo f.input att))).2) none
      { e with main := .submitting site { f with run := run } } := by
  have hflight : e.main.flight = some f := by rw [hmain]; rfl
  obtain ⟨-, rfl⟩ := ActivityRun.attempt_some hrun
  have hok : ∀ {R}, ActivityRun.decided maximumAttempts (f.run.attempts + 1)
      (heard reported (submitGauges f.input tb att per L).1) = some (.ok R) →
      (submitGauges f.input tb att per L).1 = .ok R :=
    fun hR => (Tenant.heard_ok (ActivityRun.decided_ok hR)).2
  cases ha with
  | calm huntouched hcalm hhalf hresult =>
    have hno : ¬∃ x ∈ gaugeUpdates f.input att.clusters, x.2.resource = r :=
      fun hx => huntouched f hflight (.inr ((exists_gaugeUpdates _).mp hx))
    rw [lastRuling_of_none (gaugeEntries_resource hno)]
    refine .calm (fun g hg => ?_) (hcalm.congr rfl rfl) (by simp) fun g R hg hR => ?_
    · cases hg
      exact huntouched f hflight
    · cases hg
      rw [submitGauges_silent (hok hR) hno]
      exact hhalf _ rfl
  | busy hfl htouches hbusy =>
    cases hflight.symm.trans hfl
    obtain ⟨-, hpos, -⟩ := ho.batch hflight htouches
    refine .busy rfl htouches ⟨fun hreached _ => ?_, by simp, fun R hR => ?_⟩
    · simp only [Bool.or_eq_false_iff] at hreached
      rw [lastRuling_of_unreached hreached.2.2]
      refine hbusy.unsent hreached.1 fun x hx => ?_
      cases hx
      exact hreached.2.1
    · by_cases hgauge : ∃ x ∈ gaugeUpdates f.input att.clusters, x.2.resource = r
      · obtain ⟨hfate, hrep⟩ := submitGauges_reports (J := J) htenant (hok hR) hgauge
          fun x hx => hpos x (mem_gaugeUpdates.mpr (mem_gaugeUpdates.mp hx))
        rw [hfate]
        exact hrep
      · have husage := htouches.resolve_right fun hx => hgauge ((exists_gaugeUpdates _).mpr hx)
        obtain ⟨rr, hrr, hdual, hlast⟩ := hbusy.halfway husage _ rfl
        rw [lastRuling_of_none (gaugeEntries_resource hgauge)]
        exact ⟨rr, (submitGauges_silent (hok hR) hgauge).trans hrr, hdual, hlast⟩

theorem mem_set_of_ne {α : Type} {l : List α} {i : ℕ} {a b x : α} (hi : l[i]? = some a)
    (hx : x ∈ l) (hne : x ≠ a) : x ∈ l.set i b := by
  obtain ⟨j, hj⟩ := List.mem_iff_getElem?.mp hx
  refine List.mem_iff_getElem?.mpr ⟨j, ?_⟩
  rw [List.getElem?_set_ne, hj]
  rintro rfl
  exact hne (Option.some.inj (hj.symm.trans hi))

variable {s : State} {t : Tenant}
  {half : Option (BatchAttempt × Table ResourceType ResourceBatchResult)}

theorem ruling_credit {issue : Issue} {tr : Transfer} {a : CreateTransferResult}
    (hne : a ≠ .exceedsCredits) : ruling u r ⟨.credit u issue, tr, a⟩ =
      if issue.resource = r ∧ classified a = true then some false else none := by
  simp [ruling, Source.tenant, Source.resource, Source.isVoid, hne]

/-- An allocation that reaches the ledger takes a rejection back at most. -/
theorem Calm.credit {last last' : Option Bool} (hcalm : Calm r last e) {i : ℕ} {c : Credit}
    (hi : e.credits[i]? = some c) (hr : c.issue.resource = r) {run : Run Unit} {reached : Bool}
    (hrun : run.reached = (c.run.reached || reached)) (hdrop : last' = some true → last = some true)
    (hsame : reached = false → last' = last)
    (hout : run.outcome = some (.ok ()) → last' ≠ some true) :
    Calm r last' { e with credits := e.credits.set i { c with run := run } } := by
  have hnew : { c with run := run } ∈ e.credits.set i { c with run := run } :=
    List.mem_set (List.getElem?_eq_some_iff.mp hi).1 _
  refine ⟨fun hlast => hcalm.rejected (hdrop hlast), fun hf => ?_, fun c' hc' hr' hout' => ?_⟩
  · rcases hcalm.flagged hf with hlast | ⟨c', hc', hr', hreached⟩
    · cases hreach : reached with
      | false => exact .inl ((hsame hreach).trans hlast)
      | true => exact .inr ⟨_, hnew, hr, by simp [hrun, hreach]⟩
    · by_cases heq : c' = c
      · exact .inr ⟨_, hnew, hr, by simp [hrun, ← heq, hreached]⟩
      · exact .inr ⟨c', mem_set_of_ne hi hc' heq, hr', hreached⟩
  · rcases List.mem_or_eq_of_mem_set hc' with hc' | rfl
    · exact fun hlast => hcalm.credited c' hc' hr' hout' (hdrop hlast)
    · exact hout hout'

/-- An attempt of an allocation. -/
theorem Agrees.credit (ha : Agrees h r (lastRuling u r s.journal) half e) (ho : Orderly h r e)
    (hs : s.Sound h) (hu : s.tenants u = some t) (he : t.accounting = some e) {i : ℕ} {c : Credit}
    (hi : e.credits[i]? = some c) {att : RequestAttempt} {reported : Bool} {run : Run Unit}
    (hrun : c.run.attempt maximumAttempts att.fate.reached
      (heard reported (submitAllocationTransfers tb att c.input s.books).1) = some run) :
    Agrees h r (lastRuling u r (tb.record (s.books, s.journal) (reachedEntries att.fate
      (allocationEntries (fun _ => .credit c.input.tenantUUID c.issue) c.input att))).2) half
      { e with credits := e.credits.set i { c with run := run } } := by
  obtain ⟨tr, hentries, hne⟩ := hs.credit_sent hu he hi tb att
  have hmem := List.mem_of_getElem? hi
  by_cases hr : c.issue.resource = r
  · cases ha with
    | busy hflight htouches => exact absurd hr ((ho.batch hflight htouches).2.2 c hmem)
    | calm huntouched hcalm hhalf hresult =>
      have hattempt := (ActivityRun.attempt_some hrun).2
      refine .calm huntouched (hcalm.credit hi hr (by rw [hattempt]) ?_ lastRuling_of_unreached ?_)
        hhalf hresult
      · rw [hentries]
        cases hfate : att.fate.reached with
        | false => exact fun hlast => (lastRuling_of_unreached hfate).symm.trans hlast
        | true =>
          rw [reachedEntries, hfate, if_pos rfl]
          simp only [Service.record, lastRuling, rulings_cons, ruling_credit hne]
          split_ifs <;> simp
      · intro hout
        rw [hattempt] at hout
        obtain ⟨tr', hsent, hclass, hne'⟩ :=
          hs.credit_answer hu he hi (Tenant.heard_ok (ActivityRun.decided_ok hout)).2
        rw [hsent]
        simp [Service.record, lastRuling, rulings_cons, ruling_credit hne', hr, hclass]
  · rw [lastRuling_of_none (by simp [hentries, Source.resource, hr])]
    refine ha.credits rfl rfl (fun c' hc' hr' hout => ?_) fun c' hc' hr' hreached =>
      ⟨c', mem_set_of_ne hi hc' fun heq => hr (heq ▸ hr'), hr', hreached⟩
    rcases List.mem_or_eq_of_mem_set hc' with hc' | rfl
    · exact ⟨c', hc', hr', hout⟩
    · exact absurd hr' hr

end Requests

theorem Tenant.Sound.halfway_none {h : Blake3} {L : Books} {t : Tenant} (ht : t.Sound h L)
    (hnone : t.accounting = none) : t.halfway = none := by
  cases hhalf : t.halfway with
  | none => rfl
  | some x =>
    obtain ⟨e, _, _, he, -⟩ := ht.halfway x hhalf
    rw [hnone] at he
    cases he

namespace State

variable {h : Blake3} {tb : Service} {s s' : State} {u : Uint128} {r : ResourceType} {t : Tenant}
  {e : Execution} {es : List SystemEvent}

/-- The tenant's workflow, if it runs, is orderly on the resource. -/
def OrderlyFor (h : Blake3) (u : Uint128) (r : ResourceType) (s : State) : Prop :=
  ∀ t e, s.tenants u = some t → t.accounting = some e → Orderly h r e

instance (h : Blake3) (u : Uint128) (r : ResourceType) : DecidablePred (OrderlyFor h u r) :=
  fun s => decidable_of_iff ((s.tenants u).all fun t => t.accounting.all fun e =>
    decide (Orderly h r e)) (by
      simp only [Option.all_eq_true, decide_eq_true_eq, OrderlyFor]
      exact ⟨fun hall t e ht he => hall t ht e he, fun hall t ht e he => hall t e ht he⟩)

/-- Provisioning is never rejected for a lack of credits. -/
theorem run_unrejected (hr : runSteps (step h tb) initial es = some s)
    (hnone : ∀ t, s.tenants u = some t → t.accounting = none) :
    lastRuling u r s.journal ≠ some true := by
  intro hlast
  obtain ⟨x, hx, hruling⟩ := List.mem_filterMap.mp (List.mem_of_mem_head? hlast)
  unfold ruling at hruling
  split_ifs at hruling with hcond
  obtain ⟨period, r', credits, ho⟩ := run_provisions hr hnone x hx hcond.1
  exact (run_sound hr).provision_unlimited (run_decided hr) hx ho (by simpa using hruling)

theorem Elsewhere.lastRuling_eq (hs : s.Sound h) (he : Elsewhere h tb s u s') :
    lastRuling u r s'.journal = lastRuling u r s.journal := by
  cases he with
  | accounts as hbooks hjournal => rw [hjournal]
  | transfers hv ht hxs hbooks hjournal =>
    rw [hjournal]
    refine congrArg List.head? (record_rulings_of_none fun x hx => .inl ?_)
    rw [(hxs x hx).tenant, hs.uuid _ _ ht]
    exact hv

/-- The flag of the tenant's workflow and the journal, when the workflow is orderly. -/
def FlagAgrees (h : Blake3) (u : Uint128) (r : ResourceType) (s : State) : Prop :=
  ∀ t e, s.tenants u = some t → t.accounting = some e → Orderly h r e →
    Agrees h r (lastRuling u r s.journal) t.halfway e

theorem step_flagAgrees (hr : runSteps (step h tb) initial es = some s) {ev : SystemEvent}
    (hstep : s.step h tb ev = some s') (ho : s.OrderlyFor h u r) (ha : s.FlagAgrees h u r) :
    s'.FlagAgrees h u r := by
  intro t' e' hu' he' ho'
  have hs := run_sound hr
  cases step_seen hs hstep hu' with
  | registered hnone haccounting =>
    rw [haccounting] at he'
    cases he'
  | elsewhere hu helse =>
    rw [helse.lastRuling_eq hs]
    exact ha t' e' hu he' ho'
  | @own t ev o hu hacts heff =>
    have htenant : ∀ {e f}, t.accounting = some e → e.main.flight = some f →
        f.input.tenantUUID = u := by
      intro e f he hf
      rw [((hs.tenants u t hu).handed e he).flight f hf]
      exact hs.uuid u t hu
    have hold : ∀ {e}, t.accounting = some e → Orderly h r e ∧
        Agrees h r (lastRuling u r s.journal) t.halfway e := fun he =>
      ⟨ho t _ hu he, ha t _ hu he (ho t _ hu he)⟩
    cases hacts with
    | provisioning hnone =>
      rw [show t.accounting = none from hnone] at he'
      cases he'
    | start hnone =>
      cases he'
      have hlast := run_unrejected (r := r) hr fun t' ht' => by
        cases hu.symm.trans ht'
        exact hnone
      have hempty : ¬Flagged r (.start t.provisioning.accountingInput) := by
        simp [Flagged, Execution.start, TenantAccountingInput.initialState,
          Provisioning.accountingInput]
      refine Calm.goesOn ⟨fun hx => absurd hx hlast, fun hx => absurd hx hempty, ?_⟩ ho' ?_ ?_
      · simp [Execution.start]
      · simp [Execution.start, Main.flight]
      · exact (hs.tenants u t hu).halfway_none hnone
    | workflow he hask hw =>
      cases he'
      obtain ⟨ho, ha⟩ := hold he
      refine ha.step ho ho' (fun x hx => ?_) (Execution.step_flags hask hw)
      obtain ⟨e₁, site, f, he₁, hmain, hout⟩ := (hs.tenants u t hu).halfway x hx
      cases he.symm.trans he₁
      exact ⟨f, by rw [hmain]; rfl, hout⟩
    | lookup he same =>
      cases he'
      refine (hold he).2.credits (by rw [same.state]) same.flight ?_ ?_
      · rw [same.credits]
        exact fun c hc hcr hout => ⟨c, hc, hcr, hout⟩
      · rw [same.credits]
        exact fun c hc hcr hreached => ⟨c, hc, hcr, hreached⟩
    | @usage att reported e site flight per he hhalf hmain hout hper =>
      cases he.symm.trans he'
      have hflight : e'.main.flight = some flight := by rw [hmain]; rfl
      have ha := (hold he).2
      rw [hhalf] at ha
      exact ha.usage hflight hout (htenant he hflight) (Tenant.heard_ok hper).2
    | usageFails he hhalf hmain herr hrun =>
      cases he'
      have ha := (hold he).2
      rw [hhalf] at ha
      dsimp only
      rw [hhalf]
      exact ha.usageFails hmain hrun
    | gauges he hhalf hmain hrun =>
      cases he'
      obtain ⟨ho, ha⟩ := hold he
      rw [hhalf] at ha
      exact ha.gauges ho hmain (htenant he (by rw [hmain]; rfl)) hrun
    | credit he hc hrun =>
      cases he'
      obtain ⟨ho, ha⟩ := hold he
      exact ha.credit ho hs hu he hc hrun

theorem run_flagAgrees (hr : runSteps (step h tb) initial es = some s)
    (ho : Throughout (step h tb) (OrderlyFor h u r) initial es) : s.FlagAgrees h u r := by
  refine (invariant_throughout (step h tb) (P := OrderlyFor h u r)
    (I := fun s => (∃ xs, runSteps (step h tb) initial xs = some s) ∧ s.FlagAgrees h u r)
    ?_ ⟨⟨[], rfl⟩, fun t e hu => by cases hu⟩ ho hr).2
  rintro s ev s' ⟨⟨xs, hxs⟩, ha⟩ ho hstep
  exact ⟨⟨xs ++ [ev], (runSteps_concat _ hxs).mpr hstep⟩, step_flagAgrees hxs hstep ho ha⟩

end State

def Source.isAllocation : Source → Bool
  | provision .. | credit .. => true
  | _ => false

/-- A committed allocation of the tenant on the resource: the first load or a credit. -/
def Allocates (u : Uint128) (r : ResourceType) (x : Entry Source) : Prop :=
  x.origin.tenant = u ∧ x.origin.resource = r ∧ x.origin.isAllocation = true ∧ accepted x = true

instance (u : Uint128) (r : ResourceType) : DecidablePred (Allocates u r) := fun _ =>
  inferInstanceAs (Decidable (_ ∧ _))

theorem Allocates.ruling {u : Uint128} {r : ResourceType} {x : Entry Source}
    (hx : Allocates u r x) : ruling u r x = some false := by
  obtain ⟨htenant, hresource, halloc, hok⟩ := hx
  have hvoid : x.origin.isVoid = false := by
    cases ho : x.origin <;> simp [ho, Source.isAllocation, Source.isVoid] at halloc ⊢
  have hanswer : x.answer = .ok := by simpa [accepted] using hok
  simp [System.ruling, htenant, hresource, hvoid, hanswer, classified]

theorem lastRuling_eq_some {u : Uint128} {r : ResourceType} {J : List (Entry Source)} {b : Bool} :
    lastRuling u r J = some b ↔ ∃ pre x post, J = pre ++ x :: post ∧ ruling u r x = some b ∧
      ∀ y ∈ pre, ruling u r y = none := by
  rw [lastRuling, rulings, List.head?_filterMap, List.findSome?_eq_some_iff]

namespace State

variable {h : Blake3} {tb : Service} {s : State} {u : Uint128} {r : ResourceType} {t : Tenant}
  {e : Execution}

/-- In every run that is orderly on the resource, when nothing is being written: a flag
stands for a rejection with no later allocation, and a rejection that is the last of the
rejections and allocations shows in the flag unless a later transfer was accepted. -/
theorem exceeded_flag_agrees (es : List SystemEvent)
    (hr : runSteps (step h tb) initial es = some s)
    (ho : Throughout (step h tb) (OrderlyFor h u r) initial es) (hu : s.tenants u = some t)
    (he : t.accounting = some e) (hidle : e.writers = 0) :
    (e.state.exceededResources r = some true →
      ∃ pre x post, s.journal = pre ++ x :: post ∧ ruling u r x = some true ∧
        ∀ y ∈ pre, ruling u r y ≠ some true ∧ ¬Allocates u r y) ∧
    ∀ pre x post, s.journal = pre ++ x :: post → ruling u r x = some true →
      (∀ y ∈ pre, ruling u r y ≠ some true ∧ ¬Allocates u r y) →
      e.state.exceededResources r = some true ∨ ∃ y ∈ pre, ruling u r y = some false := by
  obtain ⟨hcredits, hflight⟩ := Execution.idle_of_writers hidle
  have hiff := ((run_flagAgrees hr ho t e hu he (ho.last _ hr t e hu he)).calm_of_idle hflight).iff
    (by simp [hcredits])
  rw [lastRuling_eq_some] at hiff
  refine ⟨fun hf => ?_, fun pre x post hj hx hpre => ?_⟩
  · obtain ⟨pre, x, post, hj, hx, hpre⟩ := hiff.mp hf
    refine ⟨pre, x, post, hj, hx, fun y hy => ⟨by simp [hpre y hy], fun hall => ?_⟩⟩
    cases (hpre y hy).symm.trans hall.ruling
  · by_cases hlater : ∃ y ∈ pre, ruling u r y = some false
    · exact .inr hlater
    · refine .inl (hiff.mpr ⟨pre, x, post, hj, hx, fun y hy => ?_⟩)
      match hy' : ruling u r y with
      | none => rfl
      | some false => exact absurd ⟨y, hy, hy'⟩ hlater
      | some true => exact absurd hy' (hpre y hy).1

/-- A batch is rejected, and the flag is set. -/
def rejectedBatch : List SystemEvent :=
  sampleProvisioning 4 20 ++
    (sampleBatchOf [sampleHeartbeat 1] 0 ++ sampleSubmission).map (.tenant sampleTenant)

theorem rejectedBatch_flagged : ∃ s t e pre x post,
    runSteps (step .positional Reference.service) initial rejectedBatch = some s ∧
      s.tenants sampleTenant = some t ∧ t.accounting = some e ∧ e.writers = 0 ∧
      e.state.exceededResources .cpuHours = some true ∧ s.journal = pre ++ x :: post ∧
      ruling sampleTenant .cpuHours x = some true ∧
      ∀ y ∈ pre, ruling sampleTenant .cpuHours y ≠ some true ∧
        ¬Allocates sampleTenant .cpuHours y := by
  obtain ⟨s, hr, hp⟩ := runSteps_any (step .positional Reference.service) initial rejectedBatch
    (fun s => (s.tenants sampleTenant).any fun t => t.accounting.any fun e =>
      e.writers = 0 && e.state.exceededResources .cpuHours = some true) (by decide +kernel)
  simp only [Option.any_eq_true, Bool.and_eq_true, decide_eq_true_eq] at hp
  obtain ⟨t, hu, e, he, hidle, hflag⟩ := hp
  have ho : Throughout (step .positional Reference.service)
      (OrderlyFor .positional sampleTenant .cpuHours) initial rejectedBatch :=
    throughout_of_throughoutTest _ (by decide +kernel)
  obtain ⟨pre, x, post, hj, hx, hpre⟩ :=
    (exceeded_flag_agrees rejectedBatch hr ho hu he hidle).1 hflag
  exact ⟨s, t, e, pre, x, post, hr, hu, he, hidle, hflag, hj, hx, hpre⟩

/-- A credit wakes the main loop into a flush. The ledger rejects the batch and then
commits the credit; the workflow hears of the credit first. -/
def crossedResults : List SystemEvent :=
  sampleProvisioning 4 20 ++
    ([.workflow (.heartbeat (sampleHeartbeat 1)), .workflow (.receiveHeartbeat false),
      .workflow (.update sampleCredit), .workflow (.timerBranch false),
      .submitUsage {} true, .submitGauges true, .credit 0 {} true,
      .workflow (.creditDeliver 0), .workflow (.deliver false),
      .lookup {}, .workflow (.deliver false),
      .workflow (.attempt false (.done (.ok ()))), .workflow (.deliver false),
      .workflow (.attempt false (.done (.ok ()))), .workflow (.deliver false),
      .refreshLookup 0 {}, .workflow (.refreshDeliver 0),
      .workflow (.refreshAttempt 0 (.done (.ok ()))), .workflow (.refreshDeliver 0),
      .workflow (.refreshAttempt 0 (.done (.ok ()))), .workflow (.refreshDeliver 0)] :
        List TenantEvent).map (.tenant sampleTenant)

/-- The flag is set and nothing is in flight, although the credit was committed after the
only rejection. -/
theorem flag_outlives_credit : ∃ s t e timer pre x post,
    runSteps (step .positional Reference.service) initial crossedResults = some s ∧
      s.tenants sampleTenant = some t ∧ t.accounting = some e ∧ e.main = .selecting timer ∧
      e.credits = [] ∧ e.refreshing = [] ∧ e.state.exceededResources .cpuHours = some true ∧
      s.journal = pre ++ x :: post ∧ ruling sampleTenant .cpuHours x = some true ∧
      (∀ y ∈ pre, ruling sampleTenant .cpuHours y ≠ some true) ∧
      ∃ y ∈ pre, Allocates sampleTenant .cpuHours y := by
  obtain ⟨s, hr, hp⟩ := runSteps_any (step .positional Reference.service) initial crossedResults
    (fun s => (s.tenants sampleTenant).any fun t => t.accounting.any fun e =>
      e.main.timer?.isSome && e.credits.isEmpty &&
        e.refreshing.isEmpty && e.state.exceededResources .cpuHours = some true &&
        (s.journal[3]?).any fun x => ruling sampleTenant .cpuHours x = some true &&
          (s.journal.take 3).all (fun y => ruling sampleTenant .cpuHours y ≠ some true) &&
          (s.journal.take 3).any fun y => Allocates sampleTenant .cpuHours y) (by decide +kernel)
  simp only [Option.any_eq_true, Bool.and_eq_true, decide_eq_true_eq, List.isEmpty_iff,
    List.all_eq_true, List.any_eq_true] at hp
  obtain ⟨t, hu, e, he, ⟨⟨⟨hmain, hcredits⟩, hrefreshing⟩, hflag⟩, x, hx, ⟨hrejected, hnone⟩,
    y, hy, halloc⟩ := hp
  have hsplit : s.journal = s.journal.take 3 ++ x :: s.journal.drop 4 := by
    obtain ⟨hlt, rfl⟩ := List.getElem?_eq_some_iff.mp hx
    simp
  obtain ⟨timer, htimer⟩ := Option.isSome_iff_exists.mp hmain
  exact ⟨s, t, e, timer, _, x, _, hr, hu, he, Main.timer?_some htimer, hcredits, hrefreshing,
    hflag, hsplit, hrejected, hnone, y, hy, halloc⟩

end State

end CloudCredit.System
