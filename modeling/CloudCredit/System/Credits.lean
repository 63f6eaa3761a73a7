import CloudCredit.Accounting.Counter
import CloudCredit.System.Acts
import CloudCredit.System.Balances
import CloudCredit.System.Decisions

/-!
# Issued credits

A handler that returns without error has its credit in the books, once. The
transfer of an issue has the identifier derived from the number of the issue;
an answer that the identifier is known already is read as success, and it is
one, because no other allocation of the tenant has that number: the other
issues have other numbers, and provisioning used the start of the period, which
the counter stays below.
-/
namespace CloudCredit.System

open Library TigerBeetle Domain Ledger Accounting

theorem issueInput_keys (base : TenantAccountingInput) (h : Blake3) (issue : Issue) :
    (allResources.filter fun r => ((base.issueInput h issue).credits r).isSome) =
      [issue.resource] := by
  simp only [TenantAccountingInput.issueInput, TenantAccountingState.allocationInput]
  cases issue.resource <;> rfl

theorem creditEntries_single (h : Blake3) (base : TenantAccountingInput) (issue : Issue)
    (source : ResourceType → Source) (att : RequestAttempt) :
    ∃ tr, allocationEntries source (base.issueInput h issue) att =
      [(source issue.resource, tr)] := by
  have horder : att.resources.order [issue.resource] = [issue.resource] :=
    List.perm_singleton.mp (att.resources.perm _)
  have hsome : ∃ a, allocation? (base.issueInput h issue) issue.resource = some a ∧
      a.resource = issue.resource := by
    simp only [allocation?, TenantAccountingInput.issueInput,
      TenantAccountingState.allocationInput, Table.set_same]
    exact ⟨_, rfl, rfl⟩
  obtain ⟨a, ha, hr⟩ := hsome
  refine ⟨a.toTransfer (att.rand 0), ?_⟩
  rw [allocationEntries, allocations, issueInput_keys, horder]
  simp [ha, allocationEntriesFrom, hr]

/-- The issue of `u` a source credits. -/
def Source.issue? (u : Uint128) : Source → Option Issue
  | credit t issue => if t = u then some issue else none
  | _ => none

theorem Source.issue?_some {u : Uint128} {x : Source} {issue : Issue}
    (hx : x.issue? u = some issue) : x = .credit u issue := by
  cases x with
  | credit t issue' =>
    simp only [issue?] at hx
    split_ifs at hx with ht
    cases hx
    rw [ht]
  | _ => cases hx

/-- The issues of a tenant whose credit was committed, newest first. -/
def State.appliedIssues (s : State) (u : Uint128) : List Issue :=
  s.committed.filterMap (·.origin.issue? u)

theorem toUInt64_of_pos {a : Int64} (ha : 0 < a) : (a.toUInt64.toNat : ℤ) = a.toInt := by
  have hpos : 0 < a.toBitVec.toInt := Int64.lt_iff_toInt_lt.mp ha
  have hlt := a.toBitVec.isLt
  change (a.toBitVec.toNat : ℤ) = a.toBitVec.toInt
  rw [BitVec.toInt_eq_toNat_cond] at hpos ⊢
  split_ifs at hpos ⊢ with hc
  · rfl
  · omega

/-- The credit of an issue is in the books. -/
def Applied (u : Uint128) (J : List (Entry Source)) (issue : Issue) : Prop :=
  ∃ x ∈ J, accepted x = true ∧ x.origin = .credit u issue

theorem Applied.mono {u : Uint128} {J J' : List (Entry Source)} {issue : Issue}
    (ha : Applied u J issue) (hJ : J ⊆ J') : Applied u J' issue := by
  obtain ⟨x, hx, hok, ho⟩ := ha
  exact ⟨x, hJ hx, hok, ho⟩

/-- What ties the handlers of a tenant to the journal. -/
structure Credited (u : Uint128) (J : List (Entry Source)) (e : Execution) : Prop where
  counted : Counted e
  issued : ∀ x ∈ J, ∀ issue, x.origin = .credit u issue → issue ∈ e.history.issued
  decided : ∀ c ∈ e.credits, c.run.outcome = some (.ok ()) → Applied u J c.issue
  confirmed : ∀ issue ∈ e.confirmed, Applied u J issue

namespace Credited

variable {h : Blake3} {ev : Event} {u : Uint128} {J J' : List (Entry Source)} {e e' : Execution}

theorem mono (hc : Credited u J e) (hJ : J ⊆ J')
    (hnew : ∀ x ∈ J', x ∈ J ∨ ∀ issue, x.origin = .credit u issue → issue ∈ e.history.issued) :
    Credited u J' e where
  counted := hc.counted
  issued := by
    intro x hx
    rcases hnew x hx with hx | hx
    · exact hc.issued x hx
    · exact hx
  decided := fun c hmem hout => (hc.decided c hmem hout).mono hJ
  confirmed := fun issue hi => (hc.confirmed issue hi).mono hJ

theorem start (base : TenantAccountingInput) (hJ : ∀ x ∈ J, ∀ issue, x.origin ≠ .credit u issue) :
    Credited u J (.start base) where
  counted := .start base
  issued := fun x hx issue ho => absurd ho (hJ x hx issue)
  decided := by simp [Execution.start]
  confirmed := by simp [Execution.start, Execution.confirmed]

theorem restarted (hc : Credited u J e) : Credited u J e.restarted where
  counted := hc.counted.restarted
  issued := hc.issued
  decided := by
    intro c hmem hout
    obtain ⟨c', hmem', rfl⟩ := List.mem_map.mp hmem
    exact hc.decided c' hmem' hout
  confirmed := fun issue hi => hc.confirmed issue (List.mem_append_right _ hi)

theorem move (hm : Move h ev e e') (hw : e.state.flushSeqNo < e.state.flushSeqNo + 1)
    (hev : ∀ i reached reply, ev ≠ .creditAttempt i reached reply) (hc : Credited u J e) :
    Credited u J e' := by
  have hcounted := hc.counted.move hm hw
  cases hm with
  | quiet same =>
    refine ⟨hcounted, ?_, ?_, fun issue hi => hc.confirmed issue (same.confirmed hi)⟩
    · rw [show e'.history.issued = e.history.issued by rw [← same.history]]
      exact hc.issued
    · rw [same.credits]
      exact hc.decided
  | accept hev hvalid hissue =>
    refine ⟨hcounted, fun x hx issue ho => List.mem_cons_of_mem _ (hc.issued x hx issue ho), ?_,
      hc.confirmed⟩
    intro c hmem hout
    rcases List.mem_append.mp hmem with hmem | hmem
    · exact hc.decided c hmem hout
    · rw [List.mem_singleton.mp hmem] at hout
      cases hout
  | creditAttempt hcredit => exact absurd hcredit (hev _ _ _)
  | creditEnds =>
    exact ⟨hcounted, hc.issued, fun c hmem => hc.decided c (List.mem_of_mem_eraseIdx hmem),
      hc.confirmed⟩
  | confirm _ hi hout _ =>
    refine ⟨hcounted, hc.issued, fun c hmem => hc.decided c (List.mem_of_mem_eraseIdx hmem), ?_⟩
    intro issue hmem
    simp only [Execution.confirmed, List.map_append, List.map_cons, List.map_nil, List.mem_append,
      List.mem_singleton] at hmem
    rcases hmem with (hmem | rfl) | hmem
    · exact hc.confirmed issue (List.mem_append_left _ hmem)
    · exact hc.decided _ (List.mem_of_getElem? hi) hout
    · exact hc.confirmed issue (List.mem_append_right _ hmem)
  | _ => exact ⟨hcounted, hc.issued, hc.decided, hc.confirmed⟩

theorem step (hs : e.step h ev = some e') (hw : e.state.flushSeqNo < e.state.flushSeqNo + 1)
    (hev : ∀ i reached reply, ev ≠ .creditAttempt i reached reply) (hc : Credited u J e) :
    Credited u J e' := by
  refine Execution.step_keeps (fun m m' hm hn hc => hc.move hm ?_ hev)
    (fun _ _ hc => hc.restarted) hs hc
  rw [hn]
  exact hw

/-- An attempt of an allocation: success means that the credit is in the books. -/
theorem creditAttempt {i : ℕ} {c : Credit} {run : Run Unit} {reached : Bool}
    {reply : Except ActivityError Unit}
    (hrun : c.run.attempt maximumAttempts reached reply = some run)
    (hok : reply = .ok () → Applied u J c.issue) (hc : Credited u J e) :
    Credited u J { e with credits := e.credits.set i { c with run := run } } := by
  obtain ⟨-, rfl⟩ := ActivityRun.attempt_some hrun
  refine ⟨⟨hc.counted.issued, hc.counted.updates, hc.counted.bound, hc.counted.flight⟩, hc.issued,
    ?_, hc.confirmed⟩
  intro c' hmem hout
  rcases List.mem_or_eq_of_mem_set hmem with hmem | rfl
  · exact hc.decided c' hmem hout
  · exact hok (ActivityRun.decided_ok hout)

end Credited

theorem classified_cases {r : CreateTransferResult} (hr : classified r = true) :
    r = .ok ∨ r = .exceedsCredits ∨ r.found = true := by
  cases r <;> simp_all [classified, CreateTransferResult.found]

/-- What the identifiers of the decided transfers are derived from. -/
def preimages (J : List (Entry Source)) : Set Preimage := { p | ∃ x ∈ J, x.origin.preimage = p }

theorem preimages_mono {J J' : List (Entry Source)} (hJ : J ⊆ J') : preimages J ⊆ preimages J' := by
  rintro p ⟨x, hx, hp⟩
  exact ⟨x, hJ hx, hp⟩

/-- Evaluate the assumption on the hash for a journal. -/
def collisionTest (h : Blake3) (J : List (Entry Source)) : Bool :=
  J.all fun x => (h.derive x.origin.preimage).usable && J.all fun y =>
    h.derive x.origin.preimage ≠ h.derive y.origin.preimage ||
      x.origin.preimage.encode = y.origin.preimage.encode

theorem collisionFree_of_collisionTest {h : Blake3} {J : List (Entry Source)}
    (ht : collisionTest h J = true) : h.CollisionFree (preimages J) := by
  simp only [collisionTest, List.all_eq_true, Bool.and_eq_true, Bool.or_eq_true,
    decide_eq_true_eq] at ht
  constructor
  · rintro p ⟨x, hx, rfl⟩ q ⟨y, hy, rfl⟩ hsame
    exact ((ht x hx).2 y hy).resolve_left fun hne => hne hsame
  · rintro p ⟨x, hx, rfl⟩
    exact (ht x hx).1

theorem allocation_source {x : Source} {u : Uint128} {seqNo : UInt64} {ledger : UInt32}
    (hx : x.preimage = .allocation u seqNo ledger) :
    (∃ periodStartNs r credits, x = .provision u periodStartNs r credits ∧
        periodStartNs.toUInt64 = seqNo) ∨
      ∃ issue, x = .credit u issue ∧ issue.seqNo = seqNo := by
  cases x with
  | provision t periodStartNs r credits =>
    simp only [Source.preimage, Preimage.allocation.injEq] at hx
    obtain ⟨rfl, hseq, -⟩ := hx
    exact .inl ⟨_, _, _, rfl, hseq⟩
  | credit t issue =>
    simp only [Source.preimage, Preimage.allocation.injEq] at hx
    obtain ⟨rfl, hseq, -⟩ := hx
    exact .inr ⟨issue, rfl, hseq⟩
  | _ => cases hx

namespace State

variable {h : Blake3} {tb : Service} {s s' : State} {u : Uint128} {t : Tenant} {e : Execution}

/-- Two decisions about one identifier have one source for it. -/
theorem Sound.preimage_eq (hs : s.Sound h) (hfree : h.CollisionFree (preimages s.journal))
    {x y : Entry Source} (hx : x ∈ s.journal) (hy : y ∈ s.journal)
    (hid : x.transfer.id = y.transfer.id) : x.origin.preimage = y.origin.preimage := by
  obtain ⟨tx, -, hox⟩ := hs.journal x hx
  obtain ⟨ty, -, hoy⟩ := hs.journal y hy
  refine hfree.eq ⟨x, hx, rfl⟩ ⟨y, hy, rfl⟩ ?_
  rw [← hox.id_eq (hfree.derive_ne_zero ⟨x, hx, rfl⟩),
    ← hoy.id_eq (hfree.derive_ne_zero ⟨y, hy, rfl⟩), hid]

/-- The provisioning of a tenant has one period. -/
theorem Sound.period (hs : s.Sound h) {x : Entry Source} (hx : x ∈ s.journal) {t : Tenant}
    (hu : s.tenants u = some t) {p : Int64} {r : ResourceType} {c : Int64}
    (ho : x.origin = .provision u p r c) : p = t.provisioning.input.periodStartNs := by
  obtain ⟨t', ht', hown⟩ := hs.journal x hx
  rw [ho] at ht' hown
  cases hu.symm.trans ht'
  generalize x.transfer = tr at hown
  cases hown
  rfl

theorem Sound.applied_of_preimage (hs : s.Sound h) (hu : s.tenants u = some t)
    (hc : Credited u s.journal e)
    (hbelow : e.state.flushSeqNo < t.provisioning.input.periodStartNs.toUInt64) {issue : Issue}
    (hissue : issue ∈ e.history.issued) {y : Entry Source} (hy : y ∈ s.journal)
    (hyok : accepted y = true)
    (hpre : y.origin.preimage = .allocation u issue.seqNo issue.resource.ledgerID) :
    Applied u s.journal issue := by
  rcases allocation_source hpre with ⟨period, r, credits, ho, hseq⟩ | ⟨issue', ho, hseq⟩
  · have hlt := UInt64.lt_of_le_of_lt (hc.counted.bound issue hissue) hbelow
    rw [← hseq, hs.period hy hu ho] at hlt
    exact absurd hlt (UInt64.lt_irrefl _)
  · have hsame := hc.counted.issue_eq (hc.issued y hy issue' ho) hissue hseq
    exact ⟨y, hy, hyok, hsame ▸ ho⟩

theorem global_not_exceeds {L : Books} {tr : Transfer} {k : ResourceType × AccountType}
    (hacc : L.account? tr.debitAccountID = some (globalAccount k tr.debitAccountID)) :
    L.exceeds tr = false := by
  simp [Books.exceeds, hacc, globalAccount]

theorem Sound.credit_not_exceeds (hs : s.Sound h) (hu : s.tenants u = some t) {issue : Issue}
    {tr : Transfer} (hown : Own h t.provisioning (.credit u issue) tr) :
    s.books.exceeds tr = false := by
  cases hown with
  | credit hid hquota hoperator => exact global_not_exceeds (hs.operator_open hu hoperator)

theorem Sound.credit_sent (hs : s.Sound h) (hu : s.tenants u = some t)
    (he : t.accounting = some e) {i : ℕ} {c : Credit} (hi : e.credits[i]? = some c)
    (tb : Service) (att : RequestAttempt) :
    ∃ tr, allocationEntries (fun _ => .credit c.input.tenantUUID c.issue) c.input att =
        [(.credit u c.issue, tr)] ∧
      (tb.createTransfer s.books tr).1 ≠ .exceedsCredits := by
  have ht := hs.tenants u t hu
  have hown := (ht.handed e he).credits c (List.mem_of_getElem? hi)
  have huuid := hs.uuid u t hu
  obtain ⟨op, hop, -⟩ := ht.known.operators c.issue.resource
  obtain ⟨tr, htr⟩ := creditEntries_single h t.provisioning.accountingInput c.issue
    (fun _ => .credit t.provisioning.input.tenantUUID c.issue) att
  have htransfer : Own h t.provisioning (.credit u c.issue) tr := by
    have hentry := creditEntries_own ((ht.handed e he).issued _ hown.issued).account
      (by rw [hop]; rfl) (htr ▸ List.mem_cons_self)
    rwa [huuid] at hentry
  have htenant : c.input.tenantUUID = t.provisioning.input.tenantUUID := by rw [hown.input]; rfl
  rw [← hown.input, ← htenant] at htr
  refine ⟨tr, by rw [htr, htenant, huuid], fun hr => ?_⟩
  obtain ⟨⟨-, hcase⟩, -⟩ := (tb.transfer_documented s.books tr).exceeds_transient hr
  have hexceeds := hs.credit_not_exceeds hu htransfer
  have hregular : tr.flags.voidPendingTransfer = false := by
    cases htransfer
    rfl
  rcases hcase with ⟨-, -, -, hx⟩ | ⟨hv, -⟩
  · rw [hexceeds] at hx
    cases hx
  · rw [hregular] at hv
    cases hv

theorem Sound.credit_answer (hs : s.Sound h) (hu : s.tenants u = some t)
    (he : t.accounting = some e) {i : ℕ} {c : Credit} (hi : e.credits[i]? = some c)
    {att : RequestAttempt} (hok : (submitAllocationTransfers tb att c.input s.books).1 = .ok ()) :
    ∃ tr, reachedEntries att.fate (allocationEntries
        (fun _ => .credit c.input.tenantUUID c.issue) c.input att) = [(.credit u c.issue, tr)] ∧
      classified (tb.createTransfer s.books tr).1 = true ∧
      (tb.createTransfer s.books tr).1 ≠ .exceedsCredits := by
  obtain ⟨tr, htr, hne⟩ := hs.credit_sent hu he hi tb att
  have hsome : allocations att.resources c.input ≠ [] := by
    intro hnil
    simp [allocationEntries, hnil, allocationEntriesFrom] at htr
  have hreq : allocationRequest att c.input = [tr] := by
    rw [allocationRequest, ← allocationEntriesFrom_transfers fun _ =>
      .credit c.input.tenantUUID c.issue, ← allocationEntries, htr]
    rfl
  obtain ⟨hfate, hclass⟩ := (submitAllocationTransfers_ok_iff tb att c.input s.books hsome).mp hok
  rw [hreq] at hclass
  rw [htr, reachedEntries, hfate]
  exact ⟨tr, rfl, hclass _ List.mem_cons_self, hne⟩

theorem Sound.credit_applied (hs : s.Sound h) (hs' : s'.Sound h)
    (hfree : h.CollisionFree (preimages s'.journal)) (hu : s.tenants u = some t)
    (he : t.accounting = some e) (hc : Credited u s.journal e)
    (hbelow : e.state.flushSeqNo < t.provisioning.input.periodStartNs.toUInt64)
    {i : ℕ} {c : Credit} (hi : e.credits[i]? = some c) {att : RequestAttempt}
    (hj : s'.journal = (tb.record (s.books, s.journal) (reachedEntries att.fate (allocationEntries
      (fun _ => .credit c.input.tenantUUID c.issue) c.input att))).2)
    (hok : (submitAllocationTransfers tb att c.input s.books).1 = .ok ()) :
    Applied u s'.journal c.issue := by
  obtain ⟨tr, hsent, hclass, hne⟩ := hs.credit_answer hu he hi hok
  rw [hsent] at hj
  have hnew : ⟨.credit u c.issue, tr, (tb.createTransfer s.books tr).1⟩ ∈ s'.journal := by
    rw [hj]
    exact List.mem_cons_self
  have hold : s.journal ⊆ s'.journal := by
    rw [hj]
    exact (tb.record_suffix (s.books, s.journal) _).subset
  rcases classified_cases hclass with hr | hr | hr
  · exact ⟨_, hnew, by simp [accepted, hr], rfl⟩
  · exact absurd hr hne
  · obtain ⟨committed, hcommitted⟩ := found_committed (tb.transfer_documented s.books tr) hr
    obtain ⟨hmem, hid⟩ := Books.transfer?_some hcommitted
    obtain ⟨y, hy, hyok, hstored⟩ := hs.recorded.find hmem
    have hissued := ((hs.tenants u t hu).handed e he).credits c (List.mem_of_getElem? hi) |>.issued
    refine (hs.applied_of_preimage hu hc hbelow hissued hy hyok ?_).mono hold
    exact hs'.preimage_eq hfree (hold hy) hnew (hstored.1.symm.trans hid)

/-- The counter of the tenant is below the start of its period. -/
def BelowPeriod (u : Uint128) (s : State) : Prop :=
  ∀ t e, s.tenants u = some t → t.accounting = some e →
    e.state.flushSeqNo < t.provisioning.input.periodStartNs.toUInt64

instance (u : Uint128) : DecidablePred (BelowPeriod u) := fun s =>
  decidable_of_iff ((s.tenants u).all fun t => t.accounting.all fun e =>
    e.state.flushSeqNo < t.provisioning.input.periodStartNs.toUInt64) (by
      simp only [Option.all_eq_true, decide_eq_true_eq, BelowPeriod]
      exact ⟨fun hall t e ht he => hall t ht e he, fun hall t ht e he => hall t e ht he⟩)

/-- The tenant's handlers, if it has any, are tied to the journal. -/
def TenantCredited (u : Uint128) (s : State) : Prop :=
  ∀ t, s.tenants u = some t → (∀ e, t.accounting = some e → Credited u s.journal e) ∧
    (t.accounting = none → ∀ x ∈ s.journal, ∀ issue, x.origin ≠ .credit u issue)

theorem commit_credited (hs : s.Sound h) (hb : s.BelowPeriod u) (hc : s.TenantCredited u)
    (hu : s.tenants u = some t) {ev : TenantEvent} {o : Outcome}
    (hacts : Acts h tb t s.books ev o) (hs' : (s.commit tb u o).Sound h)
    (hfree : h.CollisionFree (preimages (s.commit tb u o).journal)) :
    (∀ e, o.tenant.accounting = some e → Credited u (s.commit tb u o).journal e) ∧
      (o.tenant.accounting = none →
        ∀ x ∈ (s.commit tb u o).journal, ∀ issue, x.origin ≠ .credit u issue) := by
  obtain ⟨hrunning, hidle⟩ := hc t hu
  have hold : s.journal ⊆ (s.commit tb u o).journal :=
    (tb.record_suffix (s.books, s.journal) o.sent).subset
  have hnew : ∀ x ∈ (s.commit tb u o).journal, x ∈ s.journal ∨ (x.origin, x.transfer) ∈ o.sent :=
    fun x hx => mem_record hx
  have hgrow : ∀ e, t.accounting = some e → (∀ x ∈ o.sent, ∀ issue, x.1 ≠ .credit u issue) →
      Credited u (s.commit tb u o).journal e := fun e he hother =>
    (hrunning e he).mono hold fun x hx =>
      (hnew x hx).imp id fun hsent issue ho => absurd ho (hother _ hsent issue)
  have hcount : ∀ e, t.accounting = some e → e.state.flushSeqNo < e.state.flushSeqNo + 1 :=
    fun e he => counter_lt_succ (hb t e hu he)
  cases hacts with
  | provisioning hnone hxs =>
    refine ⟨fun e he => absurd he (by simp [hnone]), fun _ x hx issue ho => ?_⟩
    rcases hnew x hx with hx | hx
    · exact hidle hnone x hx issue ho
    · obtain ⟨_, _, _, hp⟩ := hxs _ hx
      cases ho.symm.trans hp
  | start hnone =>
    refine ⟨fun e he => ?_, fun he => by cases he⟩
    cases he
    exact .start _ (hidle hnone)
  | workflow he hask hstep =>
    refine ⟨fun f hf => ?_, fun hf => by cases hf⟩
    cases hf
    refine (hgrow _ he (by simp [Tenant.alone])).step hstep (hcount _ he) ?_
    rintro i reached reply rfl
    cases hask
  | @lookup _ e e' he same =>
    refine ⟨fun f hf => ?_, fun hf => by cases hf⟩
    cases hf
    have hmove : Move h .continueAsNew e e' := .quiet same
    exact (hgrow e he (by simp [Tenant.alone])).move hmove (hcount e he) (by simp)
  | usage he hhalf hmain hout hper =>
    refine ⟨fun f hf => ?_, fun hf => absurd hf (by simp [he])⟩
    exact hgrow f hf fun x hx issue => usageEntries_not_credit (mem_reachedEntries hx).1
  | usageFails he hhalf hmain herr hrun =>
    refine ⟨fun f hf => ?_, fun hf => by cases hf⟩
    cases hf
    exact (hgrow _ he fun x hx issue => usageEntries_not_credit (mem_reachedEntries hx).1).move
      (h := h) (.attempt rfl hmain hrun) (hcount _ he) (by simp)
  | gauges he hhalf hmain hrun =>
    refine ⟨fun f hf => ?_, fun hf => by cases hf⟩
    cases hf
    exact (hgrow _ he fun x hx issue => gaugeEntries_not_credit (mem_reachedEntries hx).1).move
      (h := h) (.attempt rfl hmain hrun) (hcount _ he) (by simp)
  | @credit i att reported e c run he hi hrun =>
    refine ⟨fun f hf => ?_, fun hf => by cases hf⟩
    cases hf
    have hgrown : Credited u _ e := (hrunning e he).mono hold fun x hx => by
      refine (hnew x hx).imp id fun hsent issue ho => ?_
      obtain ⟨k, a, -, hx⟩ := mem_allocationEntriesFrom (mem_reachedEntries hsent).1
      simp only [Prod.mk.injEq, ho, Source.credit.injEq] at hx
      rw [hx.1.2]
      exact ((hs.tenants u t hu).handed e he).credits c (List.mem_of_getElem? hi) |>.issued
    refine hgrown.creditAttempt hrun fun hok => ?_
    exact hs.credit_applied hs' hfree hu he (hrunning e he) (hb t e hu he) hi rfl
      (Tenant.heard_ok hok).2

theorem step_credited {ev : SystemEvent} (hs : s.Sound h) (hb : s.BelowPeriod u) (hc : s.TenantCredited u)
    (hstep : s.step h tb ev = some s') (hfree : h.CollisionFree (preimages s'.journal)) :
    s'.TenantCredited u := by
  have hs' := step_sound hs hstep
  intro t' hu'
  cases step_seen hs hstep hu' with
  | registered hnone haccounting hhalf hbooks hjournal =>
    refine ⟨fun e he => absurd he (by simp [haccounting]), fun _ x hx issue ho => ?_⟩
    rw [hjournal] at hx
    obtain ⟨t, ht, -⟩ := hs.journal x hx
    rw [ho, Source.tenant, hnone] at ht
    cases ht
  | elsewhere hu helse =>
    obtain ⟨hold, hnew⟩ := helse.journal hs
    obtain ⟨hrunning, hidle⟩ := hc t' hu
    refine ⟨fun e he => (hrunning e he).mono hold fun x hx => ?_, fun he x hx issue ho => ?_⟩
    · exact (hnew x hx).imp id fun hne issue ho => absurd (by rw [ho]; rfl) hne
    · rcases hnew x hx with hx | hne
      · exact hidle he x hx issue ho
      · exact hne (by rw [ho]; rfl)
  | own hu hacts heff => exact commit_credited hs hb hc hu hacts hs' hfree

theorem run_credited {es : List SystemEvent} (hr : runSteps (step h tb) initial es = some s)
    (hb : Throughout (step h tb) (BelowPeriod u) initial es)
    (hfree : h.CollisionFree (preimages s.journal)) : s.TenantCredited u := by
  refine (invariant_throughout (step h tb) (P := BelowPeriod u) (I := fun s => s.Sound h ∧
    (h.CollisionFree (preimages s.journal) → s.TenantCredited u)) ?_ ⟨initial_sound, fun _ => ?_⟩
    hb hr).2 hfree
  · rintro s ev s' ⟨hs, hc⟩ hbelow hstep
    refine ⟨step_sound hs hstep, fun hfree => ?_⟩
    refine step_credited hs hbelow (hc (hfree.mono (preimages_mono ?_))) hstep hfree
    exact (step_journal hstep).subset
  · intro t hu
    cases hu

theorem filterMap_map_sublist {α β κ : Type} {l : List α} {g : α → Option β} {f : α → κ} {k : β → κ}
    (hk : ∀ x ∈ l, ∀ b, g x = some b → f x = k b) : ((l.filterMap g).map k).Sublist (l.map f) := by
  induction l with
  | nil => exact .slnil
  | cons x l ih =>
    have ih := ih fun y hy => hk y (List.mem_cons_of_mem _ hy)
    cases hg : g x with
    | none => simpa [hg] using ih.cons (f x)
    | some b => simpa [hg, hk x List.mem_cons_self b hg] using ih.cons_cons (f x)

theorem Sound.appliedIssues_nodup (hs : s.Sound h) (hfree : h.CollisionFree (preimages s.journal))
    (u : Uint128) : (s.appliedIssues u).Nodup := by
  refine List.Nodup.of_map (fun issue : Issue =>
    h.derive (Source.credit u issue).preimage) ?_
  refine hs.committed_ids.sublist (filterMap_map_sublist fun x hx issue hissue => ?_)
  obtain ⟨hx, -⟩ := List.mem_filter.mp hx
  obtain ⟨t, -, hown⟩ := hs.journal x hx
  rw [hown.id_eq (hfree.derive_ne_zero ⟨x, hx, rfl⟩), Source.issue?_some hissue]

theorem issuedCredits_eq (s : State) (u : Uint128) (r : ResourceType) :
    s.issuedCredits u r = (((s.appliedIssues u).filter (·.resource = r)).map
      (·.amount.toUInt64.toNat)).sum := by
  unfold issuedCredits appliedIssues
  induction s.committed with
  | nil => rfl
  | cons x xs ih =>
    rw [List.map_cons, List.sum_cons, ih]
    cases hx : x.origin with
    | credit t issue =>
      by_cases ht : t = u <;> by_cases hr : issue.resource = r <;>
        simp [Source.issues, Source.issue?, hx, ht, hr]
    | _ => simp [Source.issues, Source.issue?, hx]

theorem returned_confirmed {issue : Issue} {result : IssueCreditResult}
    (hret : (issue, .ok result) ∈ e.history.returned) : issue ∈ e.confirmed := by
  refine List.mem_append_right _ (List.mem_map.mpr ⟨(issue, .ok result), ?_, rfl⟩)
  exact List.mem_filter.mpr ⟨hret, rfl⟩

theorem mem_appliedIssues {issue : Issue} :
    issue ∈ s.appliedIssues u ↔ Applied u s.journal issue := by
  constructor
  · intro hmem
    obtain ⟨x, hx, hissue⟩ := List.mem_filterMap.mp hmem
    obtain ⟨hx, hok⟩ := List.mem_filter.mp hx
    exact ⟨x, hx, hok, Source.issue?_some hissue⟩
  · rintro ⟨x, hx, hok, ho⟩
    refine List.mem_filterMap.mpr ⟨x, List.mem_filter.mpr ⟨hx, hok⟩, ?_⟩
    rw [ho, Source.issue?, if_pos rfl]

/-- An issue-credit update that returns without error is credited exactly once.
Its issue is among the applied ones, which are pairwise different, and the posted
credits of every quota account are its provisioning credits and the amounts of
the applied issues of its own tenant and resource. Every accepted update has an
issue of its own, so equal arguments do not matter. -/
theorem confirmed_credit_applied_once (es : List SystemEvent)
    (hr : runSteps (step h tb) initial es = some s)
    (hfree : h.CollisionFree (preimages s.journal))
    (hbelow : Throughout (step h tb) (BelowPeriod u) initial es)
    (hu : s.tenants u = some t) (he : t.accounting = some e) :
    (∀ issue result, (issue, .ok result) ∈ e.history.returned →
      issue ∈ e.history.issued ∧ issue ∈ s.appliedIssues u ∧
        (t.provisioning.accountIDs issue.resource).isSome = true ∧
        (issue.amount.toUInt64.toNat : ℤ) = issue.amount.toInt) ∧
    (s.appliedIssues u).Nodup ∧ (e.history.issued.map (·.update)).Nodup ∧
    ∀ v t' q j, s.tenants v = some t' → t'.provisioning.accountIDs q = some j →
      (s.books.balance j).creditsPosted = s.provisionedCredits v q +
        (((s.appliedIssues v).filter (·.resource = q)).map (·.amount.toUInt64.toNat)).sum := by
  have hs := run_sound hr
  have hc := (run_credited hr hbelow hfree t hu).1 e he
  refine ⟨fun issue result hret => ?_, hs.appliedIssues_nodup hfree u, hc.counted.updates_nodup, ?_⟩
  · have happlied := hc.confirmed issue (returned_confirmed hret)
    have hissued : issue ∈ e.history.issued := by
      obtain ⟨x, hx, -, ho⟩ := happlied
      exact hc.issued x hx issue ho
    have hvalid := ((hs.tenants u t hu).handed e he).issued issue hissued
    exact ⟨hissued, mem_appliedIssues.mpr happlied, hvalid.account,
      toUInt64_of_pos hvalid.positive⟩
  · intro v t' q j hv hj
    rw [hs.creditsPosted hv hj, issuedCredits_eq]

/-- A credit is issued, and the first attempt to allocate it is not heard of. -/
def sampleIssue : List TenantEvent :=
  [.workflow (.update sampleCredit), .credit 0 { fate := .lostReply "reset" } true,
    .credit 0 {} true, .workflow (.creditDeliver 0), .refreshLookup 0 {},
    .workflow (.refreshDeliver 0), .workflow (.refreshAttempt 0 (.done (.ok ()))),
    .workflow (.refreshDeliver 0), .workflow (.refreshAttempt 0 (.done (.ok ()))),
    .workflow (.refreshDeliver 0)]

/-- The same credit is issued twice. -/
def repeatedCredit : List SystemEvent :=
  sampleProvisioning 8 20 ++ (sampleIssue ++ sampleIssue).map (.tenant sampleTenant)

theorem repeatedCredit_applied_twice :
    ∃ s t e i, runSteps (step .positional Reference.service) initial repeatedCredit = some s ∧
      s.tenants sampleTenant = some t ∧ t.accounting = some e ∧
      t.provisioning.accountIDs .cpuHours = some i ∧
      (e.history.returned.map fun x => (x.1.amount, x.2.toBool)) = [(100, true), (100, true)] ∧
      (s.appliedIssues sampleTenant).Nodup ∧ (s.books.balance i).creditsPosted = 208 := by
  obtain ⟨s, hr, hp⟩ := runSteps_any (step .positional Reference.service) initial repeatedCredit
    (fun s => collisionTest .positional s.journal && (s.tenants sampleTenant).any fun t =>
      (t.accounting.any fun e => (e.history.returned.map fun x => (x.1.amount, x.2.toBool)) =
        [(100, true), (100, true)]) && (t.provisioning.accountIDs .cpuHours).any fun i =>
          (s.books.balance i).creditsPosted = 208) (by decide +kernel)
  simp only [Bool.and_eq_true, Option.any_eq_true, decide_eq_true_eq] at hp
  obtain ⟨hfree, t, ht, ⟨e, he, hreturned⟩, i, hi, hcredits⟩ := hp
  have hbelow : Throughout (step .positional Reference.service) (BelowPeriod sampleTenant) initial
    repeatedCredit := throughout_of_throughoutTest _ (by decide +kernel)
  obtain ⟨-, hnodup, -⟩ := confirmed_credit_applied_once repeatedCredit hr
    (collisionFree_of_collisionTest hfree) hbelow ht he
  exact ⟨s, t, e, i, hr, ht, he, hi, hreturned, hnodup, hcredits⟩

end State
end CloudCredit.System
