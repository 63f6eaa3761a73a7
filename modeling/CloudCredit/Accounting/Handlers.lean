import CloudCredit.Accounting.Continuation

/-!
# The life of an update handler

What a step does to the handlers, and to nothing else: an update is accepted, an
attempt of its allocation ends, the handler fails or goes on, returns, or is
abandoned by Continue-As-New. All other steps leave every handler where it is.
-/
namespace CloudCredit.Accounting

open Library TigerBeetle Domain Ledger

/-- How far the updates of a tenant have come. -/
structure Progress where
  credits : List Credit
  refreshing : List Issue
  returned : List (Issue × Except ActivityError IssueCreditResult)
  issued : List Issue

def Execution.progress (e : Execution) : Progress :=
  ⟨e.credits, e.refreshing.map (·.issue), e.history.returned, e.history.issued⟩

/-- What a step on an event can do to the handlers. -/
inductive Progress.Step : Event → Progress → Progress → Prop
  | same {ev : Event} {p : Progress} : Step ev p p
  | accept {p : Progress} {sig : QuotaAdjustmentSignal} {c : Credit}
      (hnew : c.issue.update = p.issued.length) (hrun : c.run = {}) (hown : c.abandoned = false) :
      Step (.update sig) p { p with credits := p.credits ++ [c], issued := c.issue :: p.issued }
  | attempt {p : Progress} {i : ℕ} {c : Credit} {run : Run Unit} {reached : Bool}
      {reply : Except ActivityError Unit} (hi : p.credits[i]? = some c)
      (hrun : c.run.attempt maximumAttempts reached reply = some run) :
      Step (.creditAttempt i reached reply) p
        { p with credits := p.credits.set i { c with run := run } }
  | ends {p : Progress} {i : ℕ} {c : Credit} (hi : p.credits[i]? = some c)
      (hgone : c.abandoned = true) :
      Step (.creditDeliver i) p { p with credits := p.credits.eraseIdx i }
  | fail {p : Progress} {i : ℕ} {c : Credit} {err : ActivityError} (hi : p.credits[i]? = some c)
      (hown : c.abandoned = false) (hout : c.run.outcome = some (.error err)) :
      Step (.creditDeliver i) p { p with
        credits := p.credits.eraseIdx i
        returned := (c.issue, .error err) :: p.returned }
  | confirm {p : Progress} {i : ℕ} {c : Credit} (hi : p.credits[i]? = some c)
      (hown : c.abandoned = false) (hout : c.run.outcome = some (.ok ())) :
      Step (.creditDeliver i) p { p with
        credits := p.credits.eraseIdx i
        refreshing := p.refreshing ++ [c.issue] }
  | return_ {p : Progress} {i : ℕ} {issue : Issue} {result : IssueCreditResult}
      (hi : p.refreshing[i]? = some issue) :
      Step (.refreshDeliver i) p { p with
        refreshing := p.refreshing.eraseIdx i
        returned := (issue, .ok result) :: p.returned }
  | abandon {p : Progress} :
      Step .continueAsNew p { p with
        credits := p.credits.map fun c => { c with abandoned := true }
        refreshing := [] }

namespace Execution

variable {h : Blake3} {e e' : Execution} {ev : Event}

theorem endIteration_progress (continuing : Bool) :
    (e.endIteration h continuing).progress = e.progress := by
  unfold endIteration
  split_ifs <;> rfl

theorem afterFlush_progress (site : FlushSite) (continuing : Bool) :
    (e.afterFlush h site continuing).progress = e.progress := by
  cases site with
  | threshold => exact endIteration_progress (e := (e.setInterval _).resetTimer) continuing
  | timer => exact endIteration_progress (e := (e.setInterval _).resetTimer) continuing
  | continueAsNew => rfl

theorem receiveHeartbeat_progress {continuing : Bool}
    (hs : e.receiveHeartbeat h continuing = some e') : e'.progress = e.progress := by
  cases receiveHeartbeat_cases hs with
  | skipped hm hch hseen =>
    rw [endIteration_progress]
    rfl
  | filled hm hch hseen hfull => rfl
  | appended hm hch hseen hroom =>
    rw [endIteration_progress]
    rfl

theorem receiveRegistration_progress {continuing : Bool}
    (hs : e.receiveRegistration h continuing = some e') : e'.progress = e.progress := by
  obtain ⟨timer, sig, rest, hm, hch, rfl⟩ := receiveRegistration_cases hs
  rw [endIteration_progress]
  rfl

theorem timerBranch_progress {continuing : Bool} (hs : e.timerBranch h continuing = some e') :
    e'.progress = e.progress := by
  cases timerBranch_cases hs with
  | idle hm hres hb =>
    rw [endIteration_progress]
    rfl
  | flushed hm hres hb => rfl

theorem attempt_progress {reached : Bool} {reply : Reply} (hs : e.attempt reached reply = some e') :
    e'.progress = e.progress := by
  cases attempt_cases hs <;> rfl

theorem deliver_progress {continuing : Bool} (hs : e.deliver h continuing = some e') :
    e'.progress = e.progress := by
  cases deliver_cases hs with
  | submitted hm hout => rfl
  | failed hm hout => exact afterFlush_progress _ _
  | lookedUp hm hout => rfl
  | notFound hm hout => exact afterFlush_progress _ _
  | snapshotted hm hout => rfl
  | checked hm hout => exact afterFlush_progress _ _

theorem refreshing_progress {i : ℕ} {f : Refresh} (hi : e.refreshing[i]? = some f)
    (phase : RefreshPhase) :
    ({ e with refreshing := e.refreshing.set i { f with phase := phase } } : Execution).progress =
      e.progress := by
  have hsame : (e.refreshing.set i { f with phase := phase }).map (·.issue) =
      e.refreshing.map (·.issue) := map_set_of_eq hi rfl
  simp only [progress, hsame]

theorem refreshAttempt_progress {i : ℕ} {reply : Reply} (hs : e.refreshAttempt i reply = some e') :
    e'.progress = e.progress := by
  obtain ⟨f, hi, hs⟩ := Option.bind_eq_some_iff.mp hs
  obtain ⟨phase, -, rfl⟩ := Option.map_eq_some_iff.mp hs
  exact refreshing_progress hi phase

theorem update_progress {sig : QuotaAdjustmentSignal} (hs : e.update h sig = some e') :
    Progress.Step (.update sig) e.progress e'.progress := by
  cases update_cases hs with
  | refused hm hvalid => exact .same
  | accepted hm hvalid => exact .accept rfl rfl rfl

theorem creditDeliver_progress {i : ℕ} (hs : e.creditDeliver i = some e') :
    Progress.Step (.creditDeliver i) e.progress e'.progress := by
  cases creditDeliver_cases hs with
  | abandoned hi hout hgone => exact .ends hi hgone
  | failed hi hout hown => exact .fail hi hown hout
  | confirmed hi hout hown =>
    have hstep := Progress.Step.confirm (p := e.progress) hi hown hout
    simpa [progress] using hstep

theorem refreshDeliver_progress {i : ℕ} (hs : e.refreshDeliver i = some e') :
    Progress.Step (.refreshDeliver i) e.progress e'.progress := by
  have hreturn : ∀ f result, e.refreshing[i]? = some f →
      Progress.Step (.refreshDeliver i) e.progress
        (handlerReturns { e with refreshing := e.refreshing.eraseIdx i } f.issue
          (.ok result)).progress := by
    intro f result hi
    have hissue : e.progress.refreshing[i]? = some f.issue := by simp [progress, hi]
    have hstep : Progress.Step (.refreshDeliver i) e.progress { e.progress with
        refreshing := e.progress.refreshing.eraseIdx i
        returned := (f.issue, .ok result) :: e.progress.returned } := .return_ hissue
    simpa [progress, handlerReturns, resetTimer, setInterval, List.eraseIdx_map] using hstep
  cases refreshDeliver_cases hs with
  | lookedUp hi hphase hout =>
    rw [refreshing_progress hi]
    exact .same
  | notFound hi hphase hout => exact hreturn _ _ hi
  | snapshotted hi hphase hout =>
    rw [refreshing_progress hi]
    exact .same
  | reset hi hphase hout => exact hreturn _ _ hi

theorem step_progress (hs : e.step h ev = some e') :
    Progress.Step ev e.progress e'.progress := by
  cases ev with
  | heartbeat sig =>
    cases hs
    exact .same
  | register sig =>
    cases hs
    exact .same
  | update sig => exact update_progress hs
  | receiveHeartbeat continuing => exact receiveHeartbeat_progress hs ▸ .same
  | receiveRegistration continuing => exact receiveRegistration_progress hs ▸ .same
  | timerFires timer =>
    simp only [step] at hs
    split_ifs at hs
    cases hs
    exact .same
  | timerBranch continuing => exact timerBranch_progress hs ▸ .same
  | attempt reached reply => exact attempt_progress hs ▸ .same
  | deliver continuing => exact deliver_progress hs ▸ .same
  | creditAttempt i reached reply =>
    obtain ⟨c, hi, hs⟩ := Option.bind_eq_some_iff.mp hs
    obtain ⟨run, hrun, rfl⟩ := Option.map_eq_some_iff.mp hs
    exact .attempt hi hrun
  | creditDeliver i => exact creditDeliver_progress hs
  | refreshAttempt i reply => exact refreshAttempt_progress hs ▸ .same
  | refreshDeliver i => exact refreshDeliver_progress hs
  | continueAsNew =>
    obtain ⟨-, rfl⟩ := continueAsNew_some hs
    exact .abandon

end Execution

namespace Progress

variable {p p' : Progress} {ev : Event}

/-- The updates in the books of the workflow: at work or returned. -/
def issues (p : Progress) : List Issue :=
  p.credits.map (·.issue) ++ p.refreshing ++ p.returned.map Prod.fst

/-- Every update was issued under its own number and is in one place at most. -/
structure Traced (p : Progress) : Prop where
  nodup : p.issues.Nodup
  issued : p.issues ⊆ p.issued
  updates : ∀ issue ∈ p.issued, issue.update < p.issued.length

/-- An update that ended without success: no handler works on it, and none
returned a result for it. -/
structure Failed (p : Progress) (issue : Issue) : Prop where
  issued : issue ∈ p.issued
  credits : ∀ c ∈ p.credits, c.abandoned = false → c.issue ≠ issue
  refreshing : issue ∉ p.refreshing
  returned : ∀ result, (issue, .ok result) ∉ p.returned

/-- The allocation of the update may be in the books, and its handler will tell
or has told so. -/
def Accounted (p : Progress) (issue : Issue) : Prop :=
  (∃ c ∈ p.credits, c.abandoned = false ∧ c.run.reached = true ∧ c.issue = issue) ∨
    issue ∈ p.refreshing ∨ ∃ result, (issue, .ok result) ∈ p.returned

theorem Failed.not_accounted {issue : Issue} (hf : p.Failed issue) : ¬p.Accounted issue := by
  rintro (⟨c, hc, hown, -, rfl⟩ | hr | ⟨result, hr⟩)
  · exact hf.credits c hc hown rfl
  · exact hf.refreshing hr
  · exact hf.returned result hr

theorem map_issue_set {i : ℕ} {c : Credit} (hi : p.credits[i]? = some c) (run : Run Unit) :
    (p.credits.set i { c with run := run }).map (·.issue) = p.credits.map (·.issue) :=
  map_set_of_eq hi rfl

theorem eraseIdx_perm {i : ℕ} {c : Credit} (hi : p.credits[i]? = some c) :
    (p.credits.map (·.issue)).Perm (c.issue :: (p.credits.eraseIdx i).map (·.issue)) := by
  obtain ⟨hlt, rfl⟩ := List.getElem?_eq_some_iff.mp hi
  exact ((List.getElem_cons_eraseIdx_perm hlt).map (·.issue)).symm

theorem Traced.step (hs : Step ev p p') (ht : p.Traced) : p'.Traced := by
  have hperm : ∀ q : Progress, q.issued = p.issued → q.issues.Perm p.issues → q.Traced :=
    fun q hissued hq => ⟨hq.nodup_iff.mpr ht.nodup,
      fun x hx => hissued ▸ ht.issued (hq.mem_iff.mp hx), hissued ▸ ht.updates⟩
  have hsub : ∀ q : Progress, q.issued = p.issued → q.issues.Sublist p.issues → q.Traced :=
    fun q hissued hq => ⟨ht.nodup.sublist hq,
      fun x hx => hissued ▸ ht.issued (hq.subset hx), hissued ▸ ht.updates⟩
  cases hs with
  | same => exact ht
  | @accept _ _ c hnew hrun hown =>
    have hperm : (issues { p with credits := p.credits ++ [c], issued := c.issue :: p.issued }).Perm
        (c.issue :: p.issues) := by
      simp only [issues, List.map_append, List.map_cons, List.map_nil, List.append_assoc]
      exact List.perm_middle
    have hfresh : c.issue ∉ p.issues := fun hmem =>
      absurd (ht.updates _ (ht.issued hmem)) (by omega)
    refine ⟨hperm.nodup_iff.mpr (List.nodup_cons.mpr ⟨hfresh, ht.nodup⟩), fun x hx => ?_, ?_⟩
    · rcases List.mem_cons.mp (hperm.mem_iff.mp hx) with rfl | hx
      · exact List.mem_cons_self
      · exact List.mem_cons_of_mem _ (ht.issued hx)
    · intro issue hi
      rcases List.mem_cons.mp hi with rfl | hi
      · simp [hnew]
      · exact Nat.lt_succ_of_lt (ht.updates issue hi)
  | attempt hi hrun => exact hperm _ rfl (by simp only [issues, map_issue_set hi]; exact .refl _)
  | ends hi hgone =>
    refine hsub _ rfl ?_
    simp only [issues]
    exact (((List.eraseIdx_sublist _ _).map _).append_right _).append_right _
  | fail hi hown hout =>
    refine hperm _ rfl ?_
    simp only [issues, List.map_cons]
    exact List.perm_middle.trans (((eraseIdx_perm hi).symm.append_right _).append_right _)
  | @confirm _ i c hi hown hout =>
    refine hperm _ rfl ?_
    have hmove : (p.refreshing ++ [c.issue]).Perm (c.issue :: p.refreshing) :=
      List.perm_append_singleton _ _
    refine .append_right _ ((hmove.append_left _).trans (List.perm_middle.trans ?_))
    exact (eraseIdx_perm hi).symm.append_right _
  | @return_ _ i issue result hi =>
    refine hperm _ rfl ?_
    obtain ⟨hlt, rfl⟩ := List.getElem?_eq_some_iff.mp hi
    simp only [issues, List.map_cons, List.append_assoc]
    refine .append_left _ (List.perm_middle.trans ?_)
    exact (List.getElem_cons_eraseIdx_perm hlt).append_right _
  | abandon =>
    refine hsub _ rfl ?_
    simp only [issues, List.map_map, Function.comp_def, List.append_nil]
    exact (List.sublist_append_left _ _).append_right _

theorem Failed.step (hs : Step ev p p') (ht : p.Traced) {issue : Issue} (hf : p.Failed issue) :
    p'.Failed issue := by
  have herase : ∀ i, ∀ c ∈ p.credits.eraseIdx i, c.abandoned = false → c.issue ≠ issue :=
    fun i c hc => hf.credits c (List.mem_of_mem_eraseIdx hc)
  cases hs with
  | same => exact hf
  | @accept _ _ c hnew hrun hown =>
    refine ⟨List.mem_cons_of_mem _ hf.issued, fun c' hc' hown' => ?_, hf.refreshing, hf.returned⟩
    rcases List.mem_append.mp hc' with hc' | hc'
    · exact hf.credits c' hc' hown'
    · rw [List.mem_singleton.mp hc']
      rintro rfl
      exact absurd (ht.updates _ hf.issued) (by omega)
  | @attempt _ i c run reached reply hi hrun =>
    refine ⟨hf.issued, fun c' hc' hown' => ?_, hf.refreshing, hf.returned⟩
    rcases List.mem_or_eq_of_mem_set hc' with hc' | rfl
    · exact hf.credits c' hc' hown'
    · exact hf.credits c (List.mem_of_getElem? hi) hown'
  | ends hi hgone => exact ⟨hf.issued, herase _, hf.refreshing, hf.returned⟩
  | fail hi hown hout =>
    exact ⟨hf.issued, herase _, hf.refreshing, fun result => by simpa using hf.returned result⟩
  | confirm hi hown hout =>
    refine ⟨hf.issued, herase _, fun hmem => ?_, hf.returned⟩
    rcases List.mem_append.mp hmem with hmem | hmem
    · exact hf.refreshing hmem
    · exact hf.credits _ (List.mem_of_getElem? hi) hown (List.mem_singleton.mp hmem).symm
  | return_ hi =>
    refine ⟨hf.issued, hf.credits, fun hmem => hf.refreshing (List.mem_of_mem_eraseIdx hmem),
      fun result hmem => ?_⟩
    rcases List.mem_cons.mp hmem with heq | hmem
    · cases heq
      exact hf.refreshing (List.mem_of_getElem? hi)
    · exact hf.returned result hmem
  | abandon =>
    refine ⟨hf.issued, fun c hc hown => ?_, by simp, hf.returned⟩
    obtain ⟨c', -, rfl⟩ := List.mem_map.mp hc
    cases hown

end Progress

namespace Execution

/-- The step leaves no doubt about an update. A handler is told of a failure only
if no attempt of its allocation got through, no handler that is past that point
or in doubt is abandoned, and no attempt of an abandoned allocation gets through. -/
def Definite (e : Execution) : Event → Prop
  | .creditDeliver i => ∀ c ∈ e.credits[i]?, c.abandoned = false →
      c.run.outcome.any (·.toBool) = false → c.run.reached = false
  | .creditAttempt i reached _ => ∀ c ∈ e.credits[i]?, c.abandoned = true → reached = false
  | .continueAsNew => e.refreshing = [] ∧
      ∀ c ∈ e.credits, c.abandoned = false → c.run.reached = false
  | _ => True

end Execution

theorem Progress.Accounted.step {e : Execution} {ev : Event} {p' : Progress} (hd : e.Definite ev)
    (hs : Step ev e.progress p') {issue : Issue} (ha : e.progress.Accounted issue) :
    p'.Accounted issue := by
  have hkeep : ∀ {i : ℕ} {c : Credit}, e.credits[i]? = some c →
      (c.abandoned = true ∨ c.run.reached = false) →
      ∀ c' ∈ e.credits, c'.abandoned = false → c'.run.reached = true →
        c' ∈ e.credits.eraseIdx i := by
    intro i c hi hc c' hc' hown hreached
    refine mem_eraseIdx_of_ne hi hc' ?_
    rintro rfl
    rcases hc with hc | hc
    · rw [hc] at hown
      cases hown
    · rw [hc] at hreached
      cases hreached
  rcases ha with ⟨c', hc', hown, hreached, rfl⟩ | hr | ⟨result, hr⟩
  · cases hs with
    | same => exact .inl ⟨c', hc', hown, hreached, rfl⟩
    | accept => exact .inl ⟨c', List.mem_append_left _ hc', hown, hreached, rfl⟩
    | @attempt _ i c run reached reply hi hrun =>
      obtain ⟨j, hj⟩ := List.mem_iff_getElem?.mp hc'
      by_cases hij : i = j
      · subst hij
        cases hi.symm.trans hj
        obtain ⟨-, rfl⟩ := ActivityRun.attempt_some hrun
        have hlt := (List.getElem?_eq_some_iff.mp hi).1
        exact .inl ⟨_, List.mem_set hlt _, hown, by simp [hreached], rfl⟩
      · have hset := (List.getElem?_set_ne hij (a := { c with run := run })).trans hj
        exact .inl ⟨c', List.mem_of_getElem? hset, hown, hreached, rfl⟩
    | ends hi hgone => exact .inl ⟨c', hkeep hi (.inl hgone) c' hc' hown hreached, hown, hreached, rfl⟩
    | fail hi hown' hout =>
      have hc := hd _ hi hown' (by simp [hout, Except.toBool])
      exact .inl ⟨c', hkeep hi (.inr hc) c' hc' hown hreached, hown, hreached, rfl⟩
    | @confirm _ i c hi hown' hout =>
      by_cases heq : c' = c
      · subst heq
        exact .inr (.inl (List.mem_append_right _ List.mem_cons_self))
      · exact .inl ⟨c', mem_eraseIdx_of_ne hi hc' heq, hown, hreached, rfl⟩
    | return_ hi => exact .inl ⟨c', hc', hown, hreached, rfl⟩
    | abandon =>
      rw [hd.2 c' hc' hown] at hreached
      cases hreached
  · cases hs with
    | confirm => exact .inr (.inl (List.mem_append_left _ hr))
    | @return_ _ i issue' result hi =>
      by_cases heq : issue = issue'
      · subst heq
        exact .inr (.inr ⟨result, List.mem_cons_self⟩)
      · exact .inr (.inl (mem_eraseIdx_of_ne hi hr heq))
    | abandon =>
      rw [show e.progress.refreshing = [] by simp [Execution.progress, hd.1]] at hr
      cases hr
    | _ => exact .inr (.inl hr)
  · cases hs with
    | fail => exact .inr (.inr ⟨result, List.mem_cons_of_mem _ hr⟩)
    | return_ => exact .inr (.inr ⟨result, List.mem_cons_of_mem _ hr⟩)
    | _ => exact .inr (.inr ⟨result, hr⟩)

end CloudCredit.Accounting
