import CloudCredit.System.Known
import CloudCredit.System.Requests
import CloudCredit.TigerBeetle.Resubmission

/-!
# Every reachable state is sound

The books are well formed, every account in them was opened by the server or
for a tenant, every tenant knows its own accounts, every decision in the journal
is about a transfer of its tenant, and the committed transfers are exactly those
the journal has as accepted. One step keeps all of it, so every run does.
-/
namespace CloudCredit.System

open Library TigerBeetle Domain Ledger Accounting

namespace Tenant

variable {h : Blake3} {tb : Service} {t : Tenant} {L : Books} {o : Outcome}

theorem advance_some {ev : Event} (hs : t.advance h L ev = some o) :
    ∃ e e', t.accounting = some e ∧ e.step h ev = some e' ∧
      o = alone { t with accounting := some e' } L := by
  obtain ⟨e, he, hs⟩ := Option.bind_eq_some_iff.mp hs
  obtain ⟨e', hstep, rfl⟩ := Option.map_eq_some_iff.mp hs
  exact ⟨e, e', he, hstep, rfl⟩

theorem submitUsage_some {att : BatchAttempt} {reported : Bool}
    (hs : t.submitUsage h tb L att reported = some o) :
    ∃ e site flight, t.accounting = some e ∧ t.halfway = none ∧ e.main = .submitting site flight ∧
      o.books = (Accounting.submitUsage h flight.input tb att L).2 ∧
      o.sent = reachedEntries att.usageFate (usageEntries h flight.input) ∧
      ((∃ per, heard reported (Accounting.submitUsage h flight.input tb att L).1 = .ok per ∧
          flight.run.outcome = none ∧ o.tenant = { t with halfway := some (att, per) }) ∨
        ∃ err e', heard reported (Accounting.submitUsage h flight.input tb att L).1 = .error err ∧
          e.step h (.attempt att.usageFate.reached (.batch (.error err))) = some e' ∧
          o.tenant = { t with accounting := some e' }) := by
  unfold submitUsage at hs
  split at hs
  · rename_i e he hhalf
    split at hs
    · rename_i site flight hmain
      refine ⟨e, site, flight, he, hhalf, hmain, ?_⟩
      dsimp only at hs
      split at hs
      · rename_i per hper
        split_ifs at hs with hout
        cases hs
        exact ⟨rfl, rfl, .inl ⟨per, hper, by simpa using hout, rfl⟩⟩
      · rename_i err herr
        obtain ⟨e', hstep, rfl⟩ := Option.map_eq_some_iff.mp hs
        exact ⟨rfl, rfl, .inr ⟨err, e', herr, hstep, rfl⟩⟩
    · cases hs
  · cases hs

theorem submitGauges_some {reported : Bool} (hs : t.submitGauges h tb L reported = some o) :
    ∃ e site flight att per e', t.accounting = some e ∧ t.halfway = some (att, per) ∧
      e.main = .submitting site flight ∧
      e.step h (.attempt (att.usageFate.reached || att.gaugeFate.reached) (.batch (heard reported
        (Accounting.submitGauges flight.input tb att per L).1))) = some e' ∧
      o = ⟨{ t with accounting := some e', halfway := none },
        (Accounting.submitGauges flight.input tb att per L).2,
        reachedEntries att.gaugeFate (gaugeEntries flight.seqNo flight.input att)⟩ := by
  unfold submitGauges at hs
  split at hs
  · rename_i e att per he hhalf
    split at hs
    · rename_i site flight hmain
      obtain ⟨e', hstep, rfl⟩ := Option.map_eq_some_iff.mp hs
      exact ⟨e, site, flight, att, per, e', he, hhalf, hmain, hstep, rfl⟩
    · cases hs
  · cases hs

theorem credit_some {i : ℕ} {att : RequestAttempt} {reported : Bool}
    (hs : t.credit h tb L i att reported = some o) :
    ∃ e c e', t.accounting = some e ∧ e.credits[i]? = some c ∧
      e.step h (.creditAttempt i att.fate.reached
        (heard reported (submitAllocationTransfers tb att c.input L).1)) = some e' ∧
      o = ⟨{ t with accounting := some e' }, (submitAllocationTransfers tb att c.input L).2,
        reachedEntries att.fate (allocationEntries
          (fun _ => .credit c.input.tenantUUID c.issue) c.input att)⟩ := by
  obtain ⟨e, he, hs⟩ := Option.bind_eq_some_iff.mp hs
  obtain ⟨c, hc, hs⟩ := Option.bind_eq_some_iff.mp hs
  obtain ⟨e', hstep, rfl⟩ := Option.map_eq_some_iff.mp hs
  exact ⟨e, c, e', he, hc, hstep, rfl⟩

/-- A tenant knows its accounts, its activities were handed them, and an attempt
between two requests belongs to the batch in flight. -/
structure Sound (h : Blake3) (L : Books) (t : Tenant) : Prop where
  known : KnowsAccounts L t.provisioning
  handed : ∀ e, t.accounting = some e → Handed h t.provisioning.accountingInput e
  completed : ∀ e, t.accounting = some e → t.provisioning.phase = .completed
  halfway : ∀ x, t.halfway = some x → ∃ e site flight, t.accounting = some e ∧
    e.main = .submitting site flight ∧ flight.run.outcome = none

end Tenant

/-- What a step of a tenant does to the books: it opens quota accounts of the
tenant, or submits transfers of the tenant. -/
inductive Effect (h : Blake3) (tb : Service) (L : Books) (p : Provisioning) :
    Books → List (Source × Transfer) → Prop
  | accounts {as : List Account}
      (has : ∀ a ∈ as, ∃ r i, a = quotaAccount p.input.tenantUUID r i) :
      Effect h tb L p (tb.createAccounts L as).2 []
  | transfers {xs : List (Source × Transfer)} (hxs : ∀ x ∈ xs, Own h p x.1 x.2) :
      Effect h tb L p (tb.createTransfers L (xs.map Prod.snd)).2 xs

namespace Effect

variable {h : Blake3} {tb : Service} {L L' : Books} {p : Provisioning}
  {xs : List (Source × Transfer)}

theorem none (h : Blake3) (tb : Service) (L : Books) (p : Provisioning) : Effect h tb L p L [] :=
  (.transfers (by simp) : Effect h tb L p (tb.createTransfers L (List.map Prod.snd [])).2 [])

theorem grows (he : Effect h tb L p L' xs) : L.Grows L' := by
  cases he with
  | accounts has => exact tb.createAccounts_grows L _
  | transfers hxs => exact tb.createTransfers_grows L _

theorem own (he : Effect h tb L p L' xs) {x : Source × Transfer} (hx : x ∈ xs) :
    Own h p x.1 x.2 := by
  cases he with
  | accounts has => cases hx
  | transfers hxs => exact hxs x hx

theorem reached {fate : Fate} (hbooks : L' = (tb.createTransfers L
      ((reachedEntries fate xs).map Prod.snd)).2) (hxs : ∀ x ∈ xs, Own h p x.1 x.2) :
    Effect h tb L p L' (reachedEntries fate xs) := by
  rw [hbooks]
  exact .transfers fun x hx => hxs x (mem_reachedEntries hx).1

end Effect

namespace Tenant

variable {h : Blake3} {tb : Service} {t : Tenant} {L : Books} {o : Outcome}

theorem act_effect (ht : t.Sound h L) {ev : TenantEvent} (hs : t.act h tb L ev = some o) :
    Effect h tb L t.provisioning o.books o.sent := by
  have hflight : ∀ e site flight, t.accounting = some e → e.main = .submitting site flight →
      flight.input = t.provisioning.accountingInput.flushInput h flight.seqNo e.state.curBatch
        e.state.pendingGaugeIDs := fun e site flight he hmain =>
    (ht.handed e he).flight flight (by rw [hmain]; rfl)
  cases ev with
  | rowAttempt reply =>
    obtain ⟨p, -, rfl⟩ := Option.map_eq_some_iff.mp hs
    exact .none h tb L _
  | createAccounts att reported =>
    obtain ⟨p, -, rfl⟩ := Option.map_eq_some_iff.mp hs
    obtain ⟨as, has, hbooks⟩ :=
      createTenantTBAccounts_books tb att L t.provisioning.input.tenantUUID
    dsimp only
    rw [hbooks]
    exact .accounts has
  | allocate att reported =>
    obtain ⟨p, -, rfl⟩ := Option.map_eq_some_iff.mp hs
    exact .reached (submitAllocationTransfers_sent tb _ _ att L) fun x hx => provisionEntries_own hx
  | deliverProvisioning =>
    obtain ⟨p, -, rfl⟩ := Option.map_eq_some_iff.mp hs
    exact .none h tb L _
  | startAccounting reply =>
    obtain ⟨p, -, rfl⟩ := Option.map_eq_some_iff.mp hs
    exact .none h tb L _
  | workflow ev =>
    simp only [act, workflow] at hs
    split_ifs at hs
    obtain ⟨e, e', -, -, rfl⟩ := advance_some hs
    exact .none h tb L _
  | submitUsage att reported =>
    obtain ⟨e, site, flight, he, -, hmain, hbooks, hsent, -⟩ := submitUsage_some hs
    rw [hsent]
    refine .reached (hbooks.trans (submitUsage_sent h tb _ att L)) fun x hx => ?_
    rw [hflight e site flight he hmain] at hx
    exact usageEntries_own hx
  | submitGauges reported =>
    obtain ⟨e, site, flight, att, per, e', he, -, hmain, -, rfl⟩ := submitGauges_some hs
    refine .reached (submitGauges_sent tb _ att per _ L) fun x hx => ?_
    rw [hflight e site flight he hmain] at hx
    exact gaugeEntries_own hx
  | credit i att reported =>
    obtain ⟨e, c, e', he, hc, -, rfl⟩ := credit_some hs
    have hown := (ht.handed e he).credits c (List.mem_of_getElem? hc)
    refine .reached (submitAllocationTransfers_sent tb _ _ att L) fun x hx => ?_
    obtain ⟨op, hop, -⟩ := ht.known.operators c.issue.resource
    rw [hown.input] at hx
    exact creditEntries_own ((ht.handed e he).issued _ hown.issued).account (by rw [hop]; rfl) hx
  | lookup att =>
    obtain ⟨_, -, hs⟩ := Option.bind_eq_some_iff.mp hs
    obtain ⟨e, e', -, -, rfl⟩ := advance_some hs
    exact .none h tb L _
  | refreshLookup i att =>
    obtain ⟨_, -, hs⟩ := Option.bind_eq_some_iff.mp hs
    obtain ⟨e, e', -, -, rfl⟩ := advance_some hs
    exact .none h tb L _

theorem heard_ok {α : Type} {reported : Bool} {reply : Except ActivityError α} {a : α}
    (hh : heard reported reply = .ok a) : reported = true ∧ reply = .ok a := by
  unfold heard at hh
  split_ifs at hh with hr
  · exact ⟨hr, hh⟩

theorem Sound.grows {L' : Books} (ht : t.Sound h L) (hg : L.Grows L') : t.Sound h L' :=
  ⟨ht.known.grows hg, ht.handed, ht.completed, ht.halfway⟩

/-- A tenant whose provisioning still moves has no accounting workflow yet. -/
theorem Sound.provisioning {p : Provisioning} {L' : Books} (ht : t.Sound h L)
    (hp : t.provisioning.phase ≠ .completed) (hk : KnowsAccounts L' p) :
    Sound h L' { t with provisioning := p } := by
  have hnone : ∀ e, t.accounting ≠ some e := fun e he => hp (ht.completed e he)
  refine ⟨hk, fun e he => absurd he (hnone e), fun e he => absurd he (hnone e), fun x hx => ?_⟩
  obtain ⟨e, -, -, he, -⟩ := ht.halfway x hx
  exact absurd he (hnone e)

/-- A step of the accounting workflow other than an attempt of its batch. -/
theorem Sound.accounting {e e' : Execution} {ev : Event} (ht : t.Sound h L)
    (he : t.accounting = some e) (hs : e.step h ev = some e')
    (hev : ∀ reached reply, ev ≠ .attempt reached (.batch reply)) :
    Sound h L { t with accounting := some e' } := by
  refine ⟨ht.known, fun f hf => ?_, fun f _ => ht.completed e he, fun x hx => ?_⟩
  · cases hf
    exact Execution.step_handed hs (ht.handed e he)
  · obtain ⟨f, site, flight, hf, hmain, hout⟩ := ht.halfway x hx
    cases he.symm.trans hf
    exact ⟨e', site, flight, rfl, Execution.step_waits hmain hout hev hs, hout⟩

/-- An attempt of the batch activity ends. -/
theorem Sound.attempt {e e' : Execution} {ev : Event} (ht : t.Sound h L)
    (he : t.accounting = some e) (hs : e.step h ev = some e') :
    Sound h L { t with accounting := some e', halfway := none } := by
  refine ⟨ht.known, fun f hf => ?_, fun f _ => ht.completed e he, fun x hx => by cases hx⟩
  cases hf
  exact Execution.step_handed hs (ht.handed e he)

theorem act_sound (ht : t.Sound h L) {ev : TenantEvent} (hs : t.act h tb L ev = some o) :
    o.tenant.Sound h o.books ∧ Extends t.provisioning o.tenant.provisioning := by
  have hg := (act_effect ht hs).grows
  cases ev with
  | rowAttempt reply =>
    obtain ⟨p, hp, rfl⟩ := Option.map_eq_some_iff.mp hs
    obtain ⟨hk, hx⟩ := ht.known.rowAttempt hp
    refine ⟨ht.provisioning (fun hc => ?_) hk, hx⟩
    rw [(completed_ends hc).1] at hp
    cases hp
  | createAccounts att reported =>
    obtain ⟨p, hp, rfl⟩ := Option.map_eq_some_iff.mp hs
    obtain ⟨hk, hx⟩ := (ht.known.grows hg).accountsAttempt hp fun ids hids =>
      createTenantTBAccounts_ok tb att L (heard_ok hids).2
    refine ⟨ht.provisioning (fun hc => ?_) hk, hx⟩
    rw [(completed_ends hc).2.1] at hp
    cases hp
  | allocate att reported =>
    obtain ⟨p, hp, rfl⟩ := Option.map_eq_some_iff.mp hs
    obtain ⟨hk, hx⟩ := (ht.known.grows hg).allocationAttempt hp
    refine ⟨ht.provisioning (fun hc => ?_) hk, hx⟩
    rw [(completed_ends hc).2.2.1] at hp
    cases hp
  | deliverProvisioning =>
    obtain ⟨p, hp, rfl⟩ := Option.map_eq_some_iff.mp hs
    obtain ⟨hk, hx⟩ := ht.known.deliver hp
    refine ⟨ht.provisioning (fun hc => ?_) hk, hx⟩
    rw [(completed_ends hc).2.2.2.1] at hp
    cases hp
  | startAccounting reply =>
    obtain ⟨p, hp, rfl⟩ := Option.map_eq_some_iff.mp hs
    obtain ⟨hk, hx, hinput, hdone⟩ := ht.known.accountingStarted hp
    have hnone : ∀ e, t.accounting ≠ some e := fun e he => by
      rw [(completed_ends (ht.completed e he)).2.2.2.2] at hp
      cases hp
    have hhalf : ∀ x, t.halfway ≠ some x := fun x hx => by
      obtain ⟨e, -, -, he, -⟩ := ht.halfway x hx
      exact hnone e he
    have hstart : ∀ e, (if reply.toBool then some (Execution.start t.provisioning.accountingInput)
        else none) = some e → reply.toBool = true ∧ e = .start t.provisioning.accountingInput := by
      intro e he
      split_ifs at he with hok
      exact ⟨hok, (Option.some.inj he).symm⟩
    refine ⟨⟨hk, fun e he => ?_, fun e he => hdone (hstart e he).1,
      fun x hx => absurd hx (hhalf x)⟩, hx⟩
    rw [(hstart e he).2, ← hinput]
    exact Execution.start_handed
  | workflow ev =>
    simp only [act, workflow] at hs
    split_ifs at hs with hask
    obtain ⟨e, e', he, hstep, rfl⟩ := advance_some hs
    refine ⟨ht.accounting he hstep fun reached reply hev => hask ?_, .refl _⟩
    rw [hev]
    rfl
  | submitUsage att reported =>
    obtain ⟨e, site, flight, he, hhalf, hmain, -, -, hcase⟩ := submitUsage_some hs
    rcases hcase with ⟨per, -, hout, ho⟩ | ⟨err, e', -, hstep, ho⟩
    · rw [ho]
      refine ⟨⟨ht.known.grows hg, ht.handed, ht.completed, fun x _ => ?_⟩, .refl _⟩
      exact ⟨e, site, flight, he, hmain, hout⟩
    · rw [ho]
      have := (ht.grows hg).attempt he hstep
      rw [← hhalf] at this
      exact ⟨this, .refl _⟩
  | submitGauges reported =>
    obtain ⟨e, site, flight, att, per, e', he, -, hmain, hstep, rfl⟩ := submitGauges_some hs
    exact ⟨(ht.grows hg).attempt he hstep, .refl _⟩
  | credit i att reported =>
    obtain ⟨e, c, e', he, hc, hstep, rfl⟩ := credit_some hs
    exact ⟨(ht.grows hg).accounting he hstep (by simp), .refl _⟩
  | lookup att =>
    obtain ⟨_, -, hs⟩ := Option.bind_eq_some_iff.mp hs
    obtain ⟨e, e', he, hstep, rfl⟩ := advance_some hs
    exact ⟨ht.accounting he hstep (by simp), .refl _⟩
  | refreshLookup i att =>
    obtain ⟨_, -, hs⟩ := Option.bind_eq_some_iff.mp hs
    obtain ⟨e, e', he, hstep, rfl⟩ := advance_some hs
    exact ⟨ht.accounting he hstep (by simp), .refl _⟩

end Tenant

/-- The service committed the transfer. -/
def accepted (x : Entry Source) : Bool := x.answer = .ok

/-- What is in the books for a committed transfer. A void takes over the fields
of its reservation. -/
def StoredAs (t : Transfer) (x : Entry Source) : Prop :=
  t.id = x.transfer.id ∧ t.flags = x.transfer.flags ∧ t.pendingID = x.transfer.pendingID ∧
    (x.transfer.flags.voidPendingTransfer = false → t = x.transfer)

/-- The committed transfers are those the journal has as accepted, in order. -/
def Journaled (L : Books) (J : List (Entry Source)) : Prop :=
  List.Forall₂ StoredAs L.transfers (J.filter accepted)

theorem stored_storedAs (L : Books) (x : Entry Source) : StoredAs (L.stored x.transfer) x :=
  ⟨stored_id L _, stored_flags L _, stored_pendingID L _, fun hv => stored_regular hv⟩

/-- One decision of the service keeps books and journal in step. -/
theorem Journaled.decide {L L' : Books} {J : List (Entry Source)} {x : Entry Source}
    (hr : Journaled L J) (ha : Answers L x.transfer x.answer L') : Journaled L' (x :: J) := by
  unfold Journaled
  rw [ha.transfers_eq, List.filter_cons]
  by_cases hok : x.answer = .ok
  · simp only [hok, accepted, if_true, decide_true]
    exact .cons (stored_storedAs L x) hr
  · simp only [hok, accepted, if_false, decide_false, Bool.false_eq_true]
    exact hr

theorem Journaled.record {L : Books} {J : List (Entry Source)} (hr : Journaled L J) (tb : Service)
    (xs : List (Source × Transfer)) :
    Journaled (tb.record (L, J) xs).1 (tb.record (L, J) xs).2 :=
  tb.record_keeps (P := fun y => Journaled y.1 y.2) (fun _ _ _ _ hr _ _ ha => hr.decide ha) hr

/-- A committed transfer is one the journal has as accepted. -/
theorem Journaled.find {L : Books} {J : List (Entry Source)} (hr : Journaled L J) {t : Transfer}
    (ht : t ∈ L.transfers) : ∃ x ∈ J, accepted x = true ∧ StoredAs t x := by
  unfold Journaled at hr
  generalize L.transfers = ts at hr ht
  suffices ∃ x ∈ J.filter accepted, StoredAs t x by
    obtain ⟨x, hx, hstored⟩ := this
    exact ⟨x, (List.mem_filter.mp hx).1, (List.mem_filter.mp hx).2, hstored⟩
  generalize J.filter accepted = ys at hr ⊢
  induction hr with
  | nil => simp at ht
  | @cons t' x ts xs hx _ ih =>
    rcases List.mem_cons.mp ht with rfl | ht
    · exact ⟨x, List.mem_cons_self, hx⟩
    · obtain ⟨y, hy, hstored⟩ := ih ht
      exact ⟨y, List.mem_cons_of_mem _ hy, hstored⟩

theorem mem_record_new {tb : Service} {L : Books} {J new : List (Entry Source)}
    {xs : List (Source × Transfer)} (hJ : (tb.record (L, J) xs).2 = new ++ J) {x : Entry Source}
    (hx : x ∈ new) : (x.origin, x.transfer) ∈ xs := by
  obtain ⟨new', hnew', hxs⟩ := tb.record_keeps (s := (L, J))
    (P := fun y => ∃ new, y.2 = new ++ J ∧ ∀ x ∈ new, (x.origin, x.transfer) ∈ xs) (by
      rintro M K y hy ⟨new, rfl, hnew⟩ r L' -
      refine ⟨⟨y.1, y.2, r⟩ :: new, rfl, fun z hz => ?_⟩
      rcases List.mem_cons.mp hz with rfl | hz
      · exact hy
      · exact hnew z hz) ⟨[], rfl, by simp⟩
  rw [List.append_cancel_right (hJ.symm.trans hnew')] at hx
  exact hxs x hx

theorem mem_record {tb : Service} {L : Books} {J : List (Entry Source)}
    {xs : List (Source × Transfer)} {x : Entry Source} (hx : x ∈ (tb.record (L, J) xs).2) :
    x ∈ J ∨ (x.origin, x.transfer) ∈ xs := by
  obtain ⟨new, hnew⟩ := tb.record_suffix (L, J) xs
  rw [← hnew] at hx
  rcases List.mem_append.mp hx with hx | hx
  · exact .inr (mem_record_new hnew.symm hx)
  · exact .inl hx

namespace State

/-- The invariant of every reachable state. -/
structure Sound (h : Blake3) (s : State) : Prop where
  wf : s.books.Wf
  accounts : ∀ a ∈ s.books.accounts, (∃ u r i, a = quotaAccount u r i) ∨
    ∃ k i, k ∈ globalKeys ∧ a = globalAccount k i
  globals : ∀ g, s.globals = some g → GlobalOpen s.books .operator (g · .operator) ∧
    GlobalOpen s.books .sink (g · .sink)
  uuid : ∀ u t, s.tenants u = some t → t.provisioning.input.tenantUUID = u
  tenants : ∀ u t, s.tenants u = some t → t.Sound h s.books
  journal : ∀ x ∈ s.journal, ∃ t, s.tenants x.origin.tenant = some t ∧
    Own h t.provisioning x.origin x.transfer
  recorded : Journaled s.books s.journal

variable {h : Blake3} {tb : Service} {s s' : State}

theorem initial_sound : Sound h initial where
  wf := Books.Wf.empty
  accounts := by simp [initial]
  globals := by simp [initial]
  uuid := by simp [initial]
  tenants := by simp [initial]
  journal := by simp [initial]
  recorded := .nil

/-- Later books with the same transfers keep a state sound. -/
theorem Sound.openAccounts (hs : s.Sound h) {as : List Account}
    (has : ∀ a ∈ as, (∃ u r i, a = quotaAccount u r i) ∨
      ∃ k i, k ∈ globalKeys ∧ a = globalAccount k i) :
    Sound h { s with books := (tb.createAccounts s.books as).2 } := by
  have hg := tb.createAccounts_grows s.books as
  obtain ⟨ht, -, -, hacc⟩ := tb.createAccounts_frame s.books as
  refine ⟨tb.createAccounts_wf hs.wf as, ?_, ?_, hs.uuid, ?_, hs.journal, ?_⟩
  · intro a ha
    rcases hacc a ha with ha | ha
    · exact hs.accounts a ha
    · exact has a ha
  · intro g hglob
    exact ⟨(hs.globals g hglob).1.grows hg, (hs.globals g hglob).2.grows hg⟩
  · intro u t hu
    exact (hs.tenants u t hu).grows hg
  · unfold Journaled
    rw [ht]
    exact hs.recorded

/-- A request of a tenant keeps a state sound. -/
theorem Sound.submit (hs : s.Sound h) {u : Uint128} {t : Tenant} (hu : s.tenants u = some t)
    {xs : List (Source × Transfer)} (hxs : ∀ x ∈ xs, Own h t.provisioning x.1 x.2) :
    Sound h { s with
      books := (tb.createTransfers s.books (xs.map Prod.snd)).2
      journal := (tb.record (s.books, s.journal) xs).2 } := by
  have hg := tb.createTransfers_grows s.books (xs.map Prod.snd)
  refine ⟨tb.createTransfers_wf hs.wf _, ?_, ?_, hs.uuid, ?_, ?_, ?_⟩
  · dsimp only
    rw [tb.createTransfers_accounts]
    exact hs.accounts
  · intro g hglob
    exact ⟨(hs.globals g hglob).1.grows hg, (hs.globals g hglob).2.grows hg⟩
  · intro v t' hv
    exact (hs.tenants v t' hv).grows hg
  · intro x hx
    rcases mem_record hx with hx | hx
    · exact hs.journal x hx
    · have hown := hxs _ hx
      refine ⟨t, ?_, hown⟩
      rw [hown.tenant, hs.uuid u t hu]
      exact hu
  · have := hs.recorded.record tb xs
    rwa [tb.record_books] at this

theorem Sound.setTenant (hs : s.Sound h) {u : Uint128} {t t' : Tenant} (hu : s.tenants u = some t)
    (ht : t'.Sound h s.books) (hx : Extends t.provisioning t'.provisioning) :
    Sound h { s with tenants := s.tenants.set u t' } := by
  refine ⟨hs.wf, hs.accounts, hs.globals, ?_, ?_, ?_, hs.recorded⟩
  · intro v t'' hv
    rcases Table.set_eq_some.mp hv with ⟨rfl, rfl⟩ | ⟨-, hv⟩
    · rw [hx.input]
      exact hs.uuid v t hu
    · exact hs.uuid v t'' hv
  · intro v t'' hv
    rcases Table.set_eq_some.mp hv with ⟨rfl, rfl⟩ | ⟨-, hv⟩
    · exact ht
    · exact hs.tenants v t'' hv
  · intro x hmem
    obtain ⟨t'', ht'', hown⟩ := hs.journal x hmem
    by_cases hv : x.origin.tenant = u
    · subst hv
      cases hu.symm.trans ht''
      exact ⟨t', Table.set_same _ _ _, hown.mono hx.input hx.ids⟩
    · exact ⟨t'', by rw [← ht'']; exact Table.set_other _ hv _, hown⟩

theorem Sound.commit (hs : s.Sound h) {u : Uint128} {t : Tenant} (hu : s.tenants u = some t)
    {ev : TenantEvent} {o : Outcome} (ha : t.act h tb s.books ev = some o) :
    Sound h (s.commit tb u o) := by
  have ht := hs.tenants u t hu
  obtain ⟨ht', hx⟩ := Tenant.act_sound ht ha
  have heff := Tenant.act_effect ht ha
  obtain ⟨t', L', xs⟩ := o
  dsimp only at heff
  cases heff with
  | accounts has =>
    exact (hs.openAccounts fun a ha => .inl ⟨_, has a ha⟩).setTenant hu ht' hx
  | transfers hxs => exact (hs.submit hu hxs).setTenant hu ht' hx

theorem Sound.startServer (hs : s.Sound h) (fate : Fate) (rand : ℕ → Uint128) :
    Sound h (s.startServer tb fate rand) := by
  obtain ⟨as, has, hbooks⟩ := createGlobalAccounts_books tb fate rand (L := s.books) fun _ _ => none
  have hnext : Sound h { s with
      books := (createGlobalAccounts tb fate rand (fun _ _ => none) s.books).2 } := by
    rcases hbooks with hb | hb
    · rw [hb]
      exact hs
    · rw [hb]
      exact hs.openAccounts fun a ha => .inr (by simpa only [and_comm] using has a ha)
  refine ⟨hnext.wf, hnext.accounts, ?_, hs.uuid, hnext.tenants, hs.journal, hnext.recorded⟩
  intro g hg
  have hok : (createGlobalAccounts tb fate rand (fun _ _ => none) s.books).1 = .ok g := by
    simp only [State.startServer] at hg
    cases hc : (createGlobalAccounts tb fate rand (fun _ _ => none) s.books).1 with
    | error err =>
      rw [hc] at hg
      cases hg
    | ok g' =>
      rw [hc] at hg
      cases hg
      rfl
  exact ⟨fun r => createGlobalAccounts_ok tb fate rand hok r (by simp),
    fun r => createGlobalAccounts_ok tb fate rand hok r (by simp)⟩

theorem Sound.registerTenant (hs : s.Sound h) {u : Uint128} {g : GlobalAccounts}
    (hg : s.globals = some g) (hnone : s.tenants u = none) (req : RegisterTenantRequest)
    (now : Int64) : Sound h { s with
      tenants := s.tenants.set u
        ⟨{ input := Accounting.registerTenant req u g now }, none, none⟩ } := by
  obtain ⟨hop, hsink⟩ := hs.globals g hg
  refine ⟨hs.wf, hs.accounts, hs.globals, ?_, ?_, ?_, hs.recorded⟩
  · intro v t hv
    rcases Table.set_eq_some.mp hv with ⟨rfl, rfl⟩ | ⟨-, hv⟩
    · rfl
    · exact hs.uuid v t hv
  · intro v t hv
    rcases Table.set_eq_some.mp hv with ⟨rfl, rfl⟩ | ⟨-, hv⟩
    · exact ⟨⟨hop, hsink, fun _ => rfl, by simp, by simp [ProvisioningPhase.late], by simp⟩,
        by simp, by simp, by simp⟩
    · exact hs.tenants v t hv
  · intro x hx
    obtain ⟨t, ht, hown⟩ := hs.journal x hx
    exact ⟨t, Table.set_fresh hnone ht _, hown⟩

/-- The quota account a tenant knows for a resource is open and its own. -/
theorem Sound.quota_open (hs : s.Sound h) {u : Uint128} {t : Tenant} {r : ResourceType}
    {i : Uint128} (hu : s.tenants u = some t) (hi : t.provisioning.accountIDs r = some i) :
    s.books.account? i = some (quotaAccount u r i) := by
  rw [← hs.uuid u t hu]
  exact (hs.tenants u t hu).known.quota r i hi

/-- So are the sink and the operator it was given. -/
theorem Sound.sink_open (hs : s.Sound h) {u : Uint128} {t : Tenant} {r : ResourceType}
    {i : Uint128} (hu : s.tenants u = some t)
    (hi : t.provisioning.input.globalSinkIDs r = some i) :
    s.books.account? i = some (globalAccount (r, .sink) i) :=
  (hs.tenants u t hu).known.sinks.account? hi

theorem Sound.operator_open (hs : s.Sound h) {u : Uint128} {t : Tenant} {r : ResourceType}
    {i : Uint128} (hu : s.tenants u = some t)
    (hi : t.provisioning.input.globalOperatorIDs r = some i) :
    s.books.account? i = some (globalAccount (r, .operator) i) :=
  (hs.tenants u t hu).known.operators.account? hi

theorem step_sound {ev : SystemEvent} (hs : s.Sound h) (hstep : s.step h tb ev = some s') :
    Sound h s' := by
  cases stepped_of_step hstep with
  | @started fate rand => exact hs.startServer fate rand
  | @registered u req now g hg hnone => exact hs.registerTenant hg hnone req now
  | acted hu ho => exact hs.commit hu ho

/-- Decisions are only added to the journal. -/
theorem step_journal {ev : SystemEvent} (hstep : s.step h tb ev = some s') :
    s.journal <:+ s'.journal := by
  cases stepped_of_step hstep with
  | started => exact List.suffix_rfl
  | registered => exact List.suffix_rfl
  | @acted _ _ _ o => exact tb.record_suffix (s.books, s.journal) o.sent

theorem run_journal {es : List SystemEvent} (hr : runSteps (step h tb) s es = some s') :
    s.journal <:+ s'.journal :=
  relation_of_steps (step h tb) (P := fun _ => True) (R := fun s s' => s.journal <:+ s'.journal)
    (fun _ => List.suffix_rfl) (fun _ _ _ => List.IsSuffix.trans) (fun _ _ _ _ _ => trivial)
    (fun _ _ _ _ hstep => step_journal hstep) trivial hr

theorem run_sound {es : List SystemEvent} (hr : runSteps (step h tb) initial es = some s) :
    s.Sound h :=
  invariant_of_steps (step h tb) (fun _ _ _ hs hstep => step_sound hs hstep) initial_sound hr

end State
end CloudCredit.System
