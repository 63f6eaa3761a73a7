import CloudCredit.Gateway.AdminHandler
import CloudCredit.System.Credits

/-!
# Credits that fail

A call that ends in an error does not tell whether its credit is in the books:
the last attempt of the allocation may have been applied without a reply, and an
execution that continues as new aborts the updates it was working on. If neither
happens, a failed call left nothing behind and never will, and repeating it until
it succeeds credits the tenant once.
-/
namespace CloudCredit.System

open Library TigerBeetle Domain Ledger Accounting Gateway

namespace State

variable {h : Blake3} {tb : Service} {s s' : State} {u : Uint128} {t : Tenant} {e : Execution}

/-- The step leaves no doubt about an update of the tenant. -/
def Definite (u : Uint128) (s : State) : SystemEvent → Prop
  | .tenant v (.workflow ev) => v = u → ∀ t ∈ s.tenants u, ∀ e ∈ t.accounting, e.Definite ev
  | .tenant v (.credit i att _) => v = u → ∀ t ∈ s.tenants u, ∀ e ∈ t.accounting,
      e.Definite (.creditAttempt i att.fate.reached (.ok ()))
  | _ => True

theorem Definite.execution {ev : SystemEvent} {w : Event} (hd : Definite u s ev)
    (hw : Induces u ev w) (hu : s.tenants u = some t) (he : t.accounting = some e) :
    e.Definite w := by
  cases hw with
  | workflow w => exact hd rfl t hu e he
  | credit i att reported reply => exact hd rfl t hu e he
  | _ => trivial

/-- What ties the updates of a tenant to the decisions about their credits. -/
structure CreditsAccounted (u : Uint128) (s : State) : Prop where
  traced : ∀ t e, s.tenants u = some t → t.accounting = some e → e.progress.Traced
  accounted : ∀ t, s.tenants u = some t → ∀ x ∈ s.journal, ∀ issue, x.origin = .credit u issue →
    ∃ e, t.accounting = some e ∧ e.progress.Accounted issue

theorem step_traced {ev : SystemEvent} (hs : s.Sound h) (hstep : s.step h tb ev = some s')
    (ht : ∀ t e, s.tenants u = some t → t.accounting = some e → e.progress.Traced) :
    ∀ t e, s'.tenants u = some t → t.accounting = some e → e.progress.Traced := by
  intro t' e' hu' he'
  obtain ⟨t, hu, ⟨e, he⟩ | rfl⟩ := step_started hs hstep hu' he'
  · obtain ⟨t₁, e₁, hu₁, he₁, hcase⟩ := step_execution hs hstep hu he
    cases hu'.symm.trans hu₁
    cases he'.symm.trans he₁
    rcases hcase with ⟨-, rfl⟩ | ⟨w, -, hw⟩
    · exact ht t _ hu he
    · exact (ht t e hu he).step (Execution.step_progress hw)
  · exact ⟨.nil, by simp [Progress.issues, Execution.progress, Execution.start],
      by simp [Execution.progress, Execution.start]⟩

/-- The decisions there were stay accounted for. -/
theorem CreditsAccounted.old {ev : SystemEvent} (hs : s.Sound h) (hd : Definite u s ev)
    (ha : s.CreditsAccounted u) (hstep : s.step h tb ev = some s') (hu : s.tenants u = some t)
    {t' : Tenant} (hu' : s'.tenants u = some t') {x : Entry Source} (hx : x ∈ s.journal)
    {issue : Issue} (ho : x.origin = .credit u issue) :
    ∃ e, t'.accounting = some e ∧ e.progress.Accounted issue := by
  obtain ⟨e, he, hacc⟩ := ha.accounted t hu x hx issue ho
  obtain ⟨t₁, e', hu₁, he', hcase⟩ := step_execution hs hstep hu he
  cases hu'.symm.trans hu₁
  refine ⟨e', he', ?_⟩
  rcases hcase with ⟨-, rfl⟩ | ⟨w, hw, hstep'⟩
  · exact hacc
  · exact hacc.step (hd.execution hw hu he) (Execution.step_progress hstep')

theorem step_accounted {ev : SystemEvent} (hs : s.Sound h) (hd : Definite u s ev)
    (ha : s.CreditsAccounted u) (hstep : s.step h tb ev = some s') : s'.CreditsAccounted u := by
  refine ⟨step_traced hs hstep ha.traced, fun t' hu' x hx issue ho => ?_⟩
  cases step_seen hs hstep hu' with
  | registered hnone haccounting hhalf hbooks hjournal =>
    rw [hjournal] at hx
    obtain ⟨t, ht, -⟩ := hs.journal x hx
    rw [ho, Source.tenant, hnone] at ht
    cases ht
  | elsewhere hu helse =>
    rcases (helse.journal hs).2 x hx with hx | hne
    · exact ha.old hs hd hstep hu hu' hx ho
    · exact absurd (by rw [ho]; rfl) hne
  | @own t ev o hu hacts heff =>
    rcases mem_record hx with hx | hsent
    · exact ha.old hs hd hstep hu hu' hx ho
    · rw [ho] at hsent
      obtain ⟨i, att, reported, e, c, run, rfl, he, hc, hissue, hfate, hreached, he'⟩ :=
        Tenant.sends_credit hacts hsent
      have hlt := (List.getElem?_eq_some_iff.mp hc).1
      refine ⟨_, he', .inl ⟨_, List.mem_set hlt _, ?_, hreached, hissue⟩⟩
      cases hgone : c.abandoned with
      | false => rfl
      | true =>
        rw [hd rfl t hu e he c hc hgone] at hfate
        cases hfate

theorem run_accounted {es : List SystemEvent} (hr : runSteps (step h tb) initial es = some s)
    (hd : Along (step h tb) (Definite u) initial es) : s.Sound h ∧ s.CreditsAccounted u := by
  refine invariant_along (step h tb) (P := fun s => s.Sound h ∧ s.CreditsAccounted u)
    (fun s ev s' hs hd hstep => ?_) ⟨initial_sound, fun t e hu => ?_, fun t hu => ?_⟩ hd hr
  · exact ⟨step_sound hs.1 hstep, step_accounted hs.1 hd hs.2 hstep⟩
  · cases hu
  · cases hu

/-- A failed update stays one. -/
theorem run_failed {es : List SystemEvent} (hs : s.Sound h)
    (htraced : ∀ t e, s.tenants u = some t → t.accounting = some e → e.progress.Traced)
    (hr : runSteps (step h tb) s es = some s') (hu : s.tenants u = some t)
    (he : t.accounting = some e) {issue : Issue} (hf : e.progress.Failed issue) :
    ∃ t' e', s'.tenants u = some t' ∧ t'.accounting = some e' ∧ e'.progress.Failed issue := by
  refine (invariant_of_steps (step h tb) (P := fun s => (s.Sound h ∧
    ∀ t e, s.tenants u = some t → t.accounting = some e → e.progress.Traced) ∧
    ∃ t e, s.tenants u = some t ∧ t.accounting = some e ∧ e.progress.Failed issue) ?_
    ⟨⟨hs, htraced⟩, t, e, hu, he, hf⟩ hr).2
  rintro s ev s' ⟨⟨hs, htraced⟩, t, e, hu, he, hf⟩ hstep
  refine ⟨⟨step_sound hs hstep, step_traced hs hstep htraced⟩, ?_⟩
  obtain ⟨t', e', hu', he', hcase⟩ := step_execution hs hstep hu he
  refine ⟨t', e', hu', he', ?_⟩
  rcases hcase with ⟨-, rfl⟩ | ⟨w, -, hw⟩
  · exact hf
  · exact hf.step (Execution.step_progress hw) (htraced t e hu he)

theorem failed_of_updateResult (ht : e.progress.Traced) {issue : Issue} {err : UpdateError}
    (hissue : issue ∈ e.history.issued) (hr : updateResult e issue = some (.error err)) :
    e.progress.Failed issue := by
  unfold updateResult at hr
  split_ifs at hr with hrunning
  have hhandlers : issue ∉ e.handlers := hrunning
  simp only [Execution.handlers, List.mem_append, not_or] at hhandlers
  refine ⟨hissue, fun c hc hown heq => hhandlers.1 ?_, hhandlers.2, fun result hret => ?_⟩
  · exact List.mem_map.mpr ⟨c, List.mem_filter.mpr ⟨hc, by simp [hown]⟩, heq⟩
  · have hnodup : (e.history.returned.map Prod.fst).Nodup := (List.nodup_append.mp ht.nodup).2.1
    cases hfind : e.history.returned.find? (·.1 = issue) with
    | none =>
      have := List.find?_eq_none.mp hfind _ hret
      simp at this
    | some x =>
      have hx := List.find?_some hfind
      have heq : x = (issue, .ok result) := List.inj_on_of_nodup_map hnodup
        (List.mem_of_find?_eq_some hfind) hret (by simpa using hx)
      rw [hfind, heq] at hr
      cases hr

theorem CreditsAccounted.not_applied (ha : s.CreditsAccounted u) (hu : s.tenants u = some t)
    (he : t.accounting = some e) {issue : Issue} (hf : e.progress.Failed issue) :
    issue ∉ s.appliedIssues u := by
  intro hmem
  obtain ⟨x, hx, -, ho⟩ := mem_appliedIssues.mp hmem
  obtain ⟨e₁, he₁, hacc⟩ := ha.accounted t hu x hx issue ho
  cases he.symm.trans he₁
  exact hf.not_accounted hacc

theorem returned_of_updateResult {issue : Issue} {result : IssueCreditResult}
    (hr : updateResult e issue = some (.ok result)) : (issue, .ok result) ∈ e.history.returned := by
  unfold updateResult at hr
  split_ifs at hr
  cases hfind : e.history.returned.find? (·.1 = issue) with
  | none =>
    rw [hfind] at hr
    cases hr
  | some x =>
    obtain ⟨issue', outcome⟩ := x
    have hx : issue' = issue := by simpa using List.find?_some hfind
    subst hx
    cases outcome with
    | error err =>
      rw [hfind] at hr
      cases hr
    | ok result' =>
      rw [hfind] at hr
      cases hr
      exact List.mem_of_find?_eq_some hfind

theorem refused_update (hu : s.tenants u = some t) (he : t.accounting = some e)
    {sig : QuotaAdjustmentSignal} (hv : e.state.validateAdjustment sig = none)
    (hstep : s.step h tb (.tenant u (.workflow (.update sig))) = some s') :
    s'.books = s.books ∧ s'.journal = s.journal ∧ s'.tenants u = some t := by
  obtain ⟨t₁, o, hu₁, ho, rfl⟩ := step_tenant hstep
  cases hu.symm.trans hu₁
  simp only [Tenant.act, Tenant.workflow, Event.asksLedger, Bool.false_eq_true, if_false] at ho
  obtain ⟨e₁, e', he₁, hw, rfl⟩ := Tenant.advance_some ho
  cases he.symm.trans he₁
  simp only [Execution.step, Execution.update, hv] at hw
  split at hw
  · cases hw
  · cases hw
    refine ⟨rfl, rfl, ?_⟩
    simp only [commit, Tenant.alone, Table.set_same, ← he]

/-- In every run in which no doubt is left about an update, a call that ends in an
error has not credited the tenant and never will. A refused update changes
nothing. So if calls fail and are repeated until one succeeds, exactly the last one is
credited; the posted credits of the tenant are those of its provisioning and the amounts
of its applied issues. -/
theorem failed_credit_not_applied (es es' : List SystemEvent)
    (hr : runSteps (step h tb) initial es = some s) (hr' : runSteps (step h tb) s es' = some s')
    (hd : Along (step h tb) (Definite u) initial (es ++ es'))
    (hu : s.tenants u = some t) (he : t.accounting = some e) :
    (∀ issue ∈ e.history.issued, ∀ result, updateResult e issue = some result →
      ∀ order req err, req.amount = issue.amount →
        issueTenantCredit order (fun _ => .ok result) req = .error err →
        issue ∉ s'.appliedIssues u) ∧
    (∀ sig s₁, e.state.validateAdjustment sig = none →
      s.step h tb (.tenant u (.workflow (.update sig))) = some s₁ →
      s₁.books = s.books ∧ s₁.journal = s.journal ∧ s₁.tenants u = some t) ∧
    (h.CollisionFree (preimages s.journal) → Throughout (step h tb) (BelowPeriod u) initial es →
      ∀ failed : List Issue, (∀ issue ∈ failed, issue ∈ e.history.issued ∧
        ∃ err, updateResult e issue = some (.error err)) →
      ∀ last result, updateResult e last = some (.ok result) →
        (s.appliedIssues u).filter (· ∈ last :: failed) = [last]) ∧
    ∀ r i, t.provisioning.accountIDs r = some i →
      (s.books.balance i).creditsPosted = s.provisionedCredits u r +
        (((s.appliedIssues u).filter (·.resource = r)).map (·.amount.toUInt64.toNat)).sum := by
  obtain ⟨hs, ha⟩ := run_accounted hr (hd.append _ hr).1
  obtain ⟨-, ha'⟩ := run_accounted ((runSteps_append (step h tb)).mpr ⟨s, hr, hr'⟩) hd
  have htraced := ha.traced t e hu he
  refine ⟨fun issue hissue result hresult order req err hreq hcall => ?_,
    fun sig s₁ hv hstep => refused_update hu he hv hstep,
    fun hfree hbelow failed hfailed last result hlast => ?_, fun r i hi => ?_⟩
  · have hpos := (((hs.tenants u t hu).handed e he).issued issue hissue).positive
    rcases (issueTenantCredit_fails_iff order result req).mp ⟨err, hcall⟩ with hneg | ⟨err', rfl⟩
    · rw [hreq] at hneg
      exact absurd hpos (Int64.not_lt.mpr hneg)
    · have hf := failed_of_updateResult htraced hissue hresult
      obtain ⟨t', e', hu', he', hf'⟩ := run_failed hs ha.traced hr' hu he hf
      exact ha'.not_applied hu' he' hf'
  · have hcredited := (run_credited hr hbelow hfree t hu).1 e he
    have happlied : last ∈ s.appliedIssues u := mem_appliedIssues.mpr
      (hcredited.confirmed last (returned_confirmed (returned_of_updateResult hlast)))
    have honly : ∀ issue ∈ s.appliedIssues u, issue ∈ last :: failed ↔ issue = last := by
      intro issue hmem
      refine ⟨fun hcase => (List.mem_cons.mp hcase).resolve_right fun hin => ?_,
        fun heq => heq ▸ List.mem_cons_self⟩
      obtain ⟨hissue, err, herr⟩ := hfailed issue hin
      exact ha.not_applied hu he (failed_of_updateResult htraced hissue herr) hmem
    rw [List.filter_congr fun issue hmem => decide_eq_decide.mpr (honly issue hmem)]
    exact filter_key_eq (f := id) (by simpa using hs.appliedIssues_nodup hfree u) happlied
  · rw [hs.creditsPosted hu hi, issuedCredits_eq]

instance (e : Execution) (ev : Event) : Decidable (e.Definite ev) :=
  match ev with
  | .creditDeliver i => inferInstanceAs (Decidable (∀ c ∈ e.credits[i]?, c.abandoned = false →
      c.run.outcome.any (·.toBool) = false → c.run.reached = false))
  | .creditAttempt i reached _ =>
    inferInstanceAs (Decidable (∀ c ∈ e.credits[i]?, c.abandoned = true → reached = false))
  | .continueAsNew => decidable_of_iff (e.refreshing.isEmpty = true ∧
      ∀ c ∈ e.credits, c.abandoned = false → c.run.reached = false) (by
        rw [List.isEmpty_iff]
        rfl)
  | .heartbeat _ | .register _ | .update _ | .receiveHeartbeat _ | .receiveRegistration _
  | .timerFires _ | .timerBranch _ | .attempt _ _ | .deliver _ | .refreshAttempt _ _
  | .refreshDeliver _ => .isTrue trivial

instance (u : Uint128) (s : State) (ev : SystemEvent) : Decidable (Definite u s ev) :=
  match ev with
  | .tenant v (.workflow ev) => inferInstanceAs (Decidable (v = u →
      ∀ t ∈ s.tenants u, ∀ e ∈ t.accounting, e.Definite ev))
  | .tenant v (.credit i att _) => inferInstanceAs (Decidable (v = u →
      ∀ t ∈ s.tenants u, ∀ e ∈ t.accounting,
        e.Definite (.creditAttempt i att.fate.reached (.ok ()))))
  | .startServer _ _ | .registerTenant _ _ _ | .tenant _ (.rowAttempt _)
  | .tenant _ (.createAccounts _ _) | .tenant _ (.allocate _ _) | .tenant _ .deliverProvisioning
  | .tenant _ (.startAccounting _) | .tenant _ (.submitUsage _ _) | .tenant _ (.submitGauges _)
  | .tenant _ (.lookup _) | .tenant _ (.refreshLookup _ _) => .isTrue trivial

/-- An issue whose five attempts to allocate it all end the same way. -/
def failingIssue (fate : Fate) : List TenantEvent :=
  .workflow (.update sampleCredit) :: List.replicate 5 (.credit 0 { fate := fate } true) ++
    [.workflow (.creditDeliver 0)]

/-- A call fails, and is repeated with success. -/
def repeatedCall (fate : Fate) : List SystemEvent :=
  sampleProvisioning 8 20 ++ (failingIssue fate ++ sampleIssue).map (.tenant sampleTenant)

/-- After the repeated call, `first` has failed, `last` has succeeded, and these
are the credits of the tenant. -/
structure RepeatedCall (credits : ℕ) (s : State) (t : Tenant) (e : Execution) (i : Uint128)
    (first last : Issue) : Prop where
  tenant : s.tenants sampleTenant = some t
  accounting : t.accounting = some e
  account : t.provisioning.accountIDs .cpuHours = some i
  issued : e.history.issued = [last, first]
  failed : ∃ err, updateResult e first = some (.error err)
  succeeded : ∃ result, updateResult e last = some (.ok result)
  credits : (s.books.balance i).creditsPosted = credits

/-- Evaluate what became of the two calls. -/
def repeatedCallTest (credits : ℕ) (s : State) : Bool :=
  (s.tenants sampleTenant).any fun t => t.accounting.any fun e =>
    (t.provisioning.accountIDs .cpuHours).any fun i =>
      match e.history.issued with
      | [last, first] => (updateResult e first).any (!·.toBool) &&
          (updateResult e last).any (·.toBool) && (s.books.balance i).creditsPosted = credits
      | _ => false

theorem repeatedCall_of_test {credits : ℕ} (ht : repeatedCallTest credits s = true) :
    ∃ t e i first last, RepeatedCall credits s t e i first last := by
  simp only [repeatedCallTest, Option.any_eq_true] at ht
  obtain ⟨t, hu, e, he, i, hi, ht⟩ := ht
  split at ht
  · rename_i last first hissued
    simp only [Bool.and_eq_true, Option.any_eq_true, decide_eq_true_eq] at ht
    obtain ⟨⟨⟨x, hx, hfailed⟩, y, hy, hsucceeded⟩, hcredits⟩ := ht
    refine ⟨t, e, i, first, last, hu, he, hi, hissued, ?_, ?_, hcredits⟩
    · cases x with
      | error err => exact ⟨err, hx⟩
      | ok result => cases hfailed
    · cases y with
      | error err => cases hsucceeded
      | ok result => exact ⟨result, hy⟩
  · cases ht

theorem lost_requests_credit_once :
    ∃ s t e i first last, runSteps (step .positional Reference.service) initial
        (repeatedCall (.lostRequest "unreachable")) = some s ∧
      RepeatedCall 108 s t e i first last ∧
      (s.appliedIssues sampleTenant).filter (· ∈ [last, first]) = [last] := by
  obtain ⟨s, hr, hp⟩ := runSteps_any (step .positional Reference.service) initial
    (repeatedCall (.lostRequest "unreachable"))
    (fun s => collisionTest .positional s.journal && repeatedCallTest 108 s) (by decide +kernel)
  obtain ⟨hfree, htest⟩ := Bool.and_eq_true_iff.mp hp
  obtain ⟨t, e, i, first, last, hcall⟩ := repeatedCall_of_test htest
  obtain ⟨result, hlast⟩ := hcall.succeeded
  have hd : Along (step .positional Reference.service) (Definite sampleTenant) initial
      (repeatedCall (.lostRequest "unreachable") ++ []) :=
    along_of_alongTest _ (by decide +kernel)
  obtain ⟨-, -, hretry, -⟩ := failed_credit_not_applied _ [] hr rfl hd hcall.tenant hcall.accounting
  refine ⟨s, t, e, i, first, last, hr, hcall, hretry (collisionFree_of_collisionTest hfree)
    (throughout_of_throughoutTest _ (by decide +kernel)) [first] ?_ last result hlast⟩
  intro issue hissue
  rw [List.mem_singleton.mp hissue, hcall.issued]
  exact ⟨by simp, hcall.failed⟩

/-- Every attempt credits the tenant, and none is heard of: the call fails, and
the repeated call credits the tenant a second time. -/
theorem lost_replies_credit_twice :
    ∃ s t e i first last, runSteps (step .positional Reference.service) initial
        (repeatedCall (.lostReply "reset")) = some s ∧
      RepeatedCall 208 s t e i first last ∧ first ∈ s.appliedIssues sampleTenant := by
  obtain ⟨s, hr, hp⟩ := runSteps_any (step .positional Reference.service) initial
    (repeatedCall (.lostReply "reset")) (fun s => repeatedCallTest 208 s &&
      (s.tenants sampleTenant).any fun t => t.accounting.any fun e =>
        e.history.issued.all (· ∈ s.appliedIssues sampleTenant)) (by decide +kernel)
  obtain ⟨htest, hall⟩ := Bool.and_eq_true_iff.mp hp
  obtain ⟨t, e, i, first, last, hcall⟩ := repeatedCall_of_test htest
  rw [hcall.tenant, Option.any_some, hcall.accounting, Option.any_some, hcall.issued] at hall
  simp only [List.all_cons, Bool.and_eq_true, decide_eq_true_eq] at hall
  exact ⟨s, t, e, i, first, last, hr, hcall, hall.2.1⟩

end State
end CloudCredit.System
