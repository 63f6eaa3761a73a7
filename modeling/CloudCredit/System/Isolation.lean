import CloudCredit.System.GlobalAccounts
import CloudCredit.System.Mirrors

/-!
# Tenants do not see each other

All tenants share the global accounts and one space of transfer identifiers. Still a
run without the steps of the other tenants leads a tenant through the same states, with
the same answers and the same results of its activities: the shorter run mirrors the
longer one, step by step.
-/
namespace CloudCredit.System

open Library TigerBeetle Domain Ledger Accounting

/-- What an attempt of an activity that asks the ledger returns. -/
inductive ActivityResult
  | accounts (reply : Except ActivityError (Table ResourceType Uint128))
  | allocation (reply : Except ActivityError Unit)
  | usage (reply : Except ActivityError (Table ResourceType ResourceBatchResult))
  | batch (reply : Except ActivityError TBBatchResult)
  | balances (reply : Except ActivityError (Table ResourceType QuotaSnapshotData))

/-- The input of the batch in flight. -/
def Tenant.flightInput (t : Tenant) : Option TBBatchInput :=
  t.accounting.bind fun e => e.main.flight.map (·.input)

/-- What the attempt of a step returns. -/
def Tenant.result (h : Blake3) (tb : Service) (t : Tenant) (L : Books) :
    TenantEvent → Option ActivityResult
  | .createAccounts att _ =>
    some (.accounts (createTenantTBAccounts tb att t.provisioning.input.tenantUUID L).1)
  | .allocate att _ =>
    some (.allocation (submitAllocationTransfers tb att (t.provisioning.allocationInput h) L).1)
  | .submitUsage att _ => t.flightInput.map fun input =>
      .usage (Accounting.submitUsage h input tb att L).1
  | .submitGauges _ => t.flightInput.bind fun input => t.halfway.map fun x =>
      .batch (Accounting.submitGauges input tb x.1 x.2 L).1
  | .credit i att _ => t.accounting.bind fun e => e.credits[i]?.map fun c =>
      .allocation (submitAllocationTransfers tb att c.input L).1
  | .lookup att | .refreshLookup _ att => t.accounting.map fun e =>
      .balances (lookupAccountBalances att e.state.accountMap L)
  | _ => none

/-- The result of a tenant's activity in a step of the system. -/
def State.result (h : Blake3) (tb : Service) (u : Uint128) (s : State) :
    SystemEvent → Option ActivityResult
  | .tenant v ev => if v = u then (s.tenants u).bind fun t => t.result h tb s.books ev else none
  | _ => none

/-- Two outcomes of one act that differ in the books the act found. -/
inductive Parallel (tb : Service) (v : Uint128) (L M : Books) : Outcome → Outcome → Prop
  | accounts {t : Tenant} {as : List Account} (has : ∀ a ∈ as, ∃ r i, a = quotaAccount v r i) :
      Parallel tb v L M ⟨t, { L with accounts := L.accounts ++ as }, []⟩
        ⟨t, { M with accounts := M.accounts ++ as }, []⟩
  | transfers {t : Tenant} {xs : List (Source × Transfer)} :
      Parallel tb v L M ⟨t, (tb.createTransfers L (xs.map Prod.snd)).2, xs⟩
        ⟨t, (tb.createTransfers M (xs.map Prod.snd)).2, xs⟩

theorem Parallel.sent {tb : Service} {v : Uint128} {L M L' M' : Books} {t : Tenant}
    {xs : List (Source × Transfer)} (hL : L' = (tb.createTransfers L (xs.map Prod.snd)).2)
    (hM : M' = (tb.createTransfers M (xs.map Prod.snd)).2) :
    Parallel tb v L M ⟨t, L', xs⟩ ⟨t, M', xs⟩ := by
  subst hL hM
  exact .transfers

theorem Parallel.alone {tb : Service} {v : Uint128} {L M : Books} (t : Tenant) :
    Parallel tb v L M (Tenant.alone t L) (Tenant.alone t M) :=
  .sent rfl rfl

/-- The two books answer what was sent in the same way. -/
def SameAnswers (tb : Service) (L M : Books) (xs : List (Source × Transfer)) : Prop :=
  (tb.createTransfers M (xs.map Prod.snd)).1 = (tb.createTransfers L (xs.map Prod.snd)).1

theorem SameAnswers.reached {tb : Service} {L M : Books} {fate : Fate}
    {xs : List (Source × Transfer)} {ts : List Transfer} (hts : xs.map Prod.snd = ts)
    (ha : SameAnswers tb L M (reachedEntries fate xs)) (hfate : fate.reached = true) :
    (tb.createTransfers M ts).1 = (tb.createTransfers L ts).1 := by
  simp only [SameAnswers, reachedEntries, hfate, if_true] at ha
  rwa [hts] at ha

namespace Tenant

variable {h : Blake3} {tb : Service} {t : Tenant} {L M : Books} {o : Outcome}

theorem act_parallel {ev : TenantEvent} (ho : t.act h tb L ev = some o)
    (hread : ∀ e, t.accounting = some e → ∀ r i, e.state.accountMap r = some i →
      M.account? i = L.account? i ∧ M.balance i = L.balance i)
    (hdrawn : ∀ att reported, ev = .createAccounts att reported →
      NewIDs L att.rand 3 ∧ NewIDs M att.rand 3)
    (hanswers : SameAnswers tb L M o.sent) :
    t.result h tb M ev = t.result h tb L ev ∧
      ∃ o', t.act h tb M ev = some o' ∧ Parallel tb t.provisioning.input.tenantUUID L M o o' := by
  have hadvance : ∀ {w : Event} {o : Outcome}, t.advance h L w = some o →
      ∃ o', t.advance h M w = some o' ∧
        Parallel tb t.provisioning.input.tenantUUID L M o o' := by
    intro w o ho
    obtain ⟨e, e', he, hstep, rfl⟩ := advance_some ho
    refine ⟨alone { t with accounting := some e' } M, ?_, .alone _⟩
    simp only [advance, he, Option.bind_some, hstep, Option.map_some]
  cases ev with
  | rowAttempt reply =>
    obtain ⟨p, hp, rfl⟩ := Option.map_eq_some_iff.mp ho
    exact ⟨rfl, _, Option.map_eq_some_iff.mpr ⟨p, hp, rfl⟩, .alone _⟩
  | createAccounts att reported =>
    obtain ⟨reply, as, has, hopened⟩ :=
      createTenantTBAccounts_opened tb att t.provisioning.input.tenantUUID
    obtain ⟨hL, hM⟩ := hdrawn att reported rfl
    simp only [act, createAccounts, result, hopened L hL, hopened M hM] at ho ⊢
    obtain ⟨p, hp, rfl⟩ := Option.map_eq_some_iff.mp ho
    exact ⟨trivial, _, Option.map_eq_some_iff.mpr ⟨p, hp, rfl⟩, .accounts has⟩
  | allocate att reported =>
    obtain ⟨p, hp, rfl⟩ := Option.map_eq_some_iff.mp ho
    have hreply := submitAllocationTransfers_congr tb att (t.provisioning.allocationInput h) L
      (M := M) (hanswers.reached (allocationEntriesFrom_transfers _ _ _ _))
    refine ⟨by simp only [result, hreply], _,
      Option.map_eq_some_iff.mpr ⟨p, by rw [hreply]; exact hp, rfl⟩, ?_⟩
    exact .sent (submitAllocationTransfers_sent tb _ _ att L)
      (submitAllocationTransfers_sent tb _ _ att M)
  | deliverProvisioning =>
    obtain ⟨p, hp, rfl⟩ := Option.map_eq_some_iff.mp ho
    exact ⟨rfl, _, Option.map_eq_some_iff.mpr ⟨p, hp, rfl⟩, .alone _⟩
  | startAccounting reply =>
    obtain ⟨p, hp, rfl⟩ := Option.map_eq_some_iff.mp ho
    exact ⟨rfl, _, Option.map_eq_some_iff.mpr ⟨p, hp, rfl⟩, .alone _⟩
  | workflow w =>
    simp only [act, workflow] at ho ⊢
    split_ifs at ho ⊢
    exact ⟨rfl, hadvance ho⟩
  | submitUsage att reported =>
    obtain ⟨e, site, flight, he, hhalf, hmain, hbooks, hsent, hcase⟩ := submitUsage_some ho
    obtain ⟨t', L', xs⟩ := o
    dsimp only at hbooks hsent hcase
    subst hbooks hsent
    have hreply := submitUsage_congr h flight.input tb att L (M := M)
      (hanswers.reached (usageEntries_transfers h flight.input))
    refine ⟨?_, ⟨t', (Accounting.submitUsage h flight.input tb att M).2, _⟩, ?_,
      .sent (submitUsage_sent h tb _ att L) (submitUsage_sent h tb _ att M)⟩
    · simp [result, flightInput, he, hmain, Main.flight, hreply]
    · rcases hcase with ⟨per, hper, hout, rfl⟩ | ⟨err, e', herr, hstep, rfl⟩
      · simp [act, submitUsage, he, hhalf, hmain, hreply, hper, hout]
      · simp [act, submitUsage, he, hhalf, hmain, hreply, herr, hstep]
  | submitGauges reported =>
    obtain ⟨e, site, flight, att, per, e', he, hhalf, hmain, hstep, rfl⟩ := submitGauges_some ho
    have hreply := submitGauges_congr flight.input tb att L per (M := M)
      (hanswers.reached (gaugeEntries_transfers flight.seqNo flight.input att))
    refine ⟨?_, ⟨_, (Accounting.submitGauges flight.input tb att per M).2, _⟩, ?_,
      .sent (submitGauges_sent tb _ att per _ L) (submitGauges_sent tb _ att per _ M)⟩
    · simp [result, flightInput, he, hmain, hhalf, Main.flight, hreply]
    · simp [act, submitGauges, he, hhalf, hmain, hreply, hstep]
  | credit i att reported =>
    obtain ⟨e, c, e', he, hc, hstep, rfl⟩ := credit_some ho
    have hreply := submitAllocationTransfers_congr tb att c.input L (M := M)
      (hanswers.reached (allocationEntriesFrom_transfers _ _ _ _))
    refine ⟨?_, ⟨_, (submitAllocationTransfers tb att c.input M).2, _⟩, ?_,
      .sent (submitAllocationTransfers_sent tb _ _ att L)
        (submitAllocationTransfers_sent tb _ _ att M)⟩
    · simp [result, he, hc, hreply]
    · simp [act, credit, he, hc, hreply, hstep]
  | lookup att =>
    obtain ⟨e, he, hs⟩ := Option.bind_eq_some_iff.mp ho
    have hreply := lookupAccountBalances_congr (L := L) (M := M) att (hread e he)
    refine ⟨by simp [result, he, hreply], ?_⟩
    simp only [act, lookup, he, Option.bind_some, hreply]
    exact hadvance hs
  | refreshLookup i att =>
    obtain ⟨e, he, hs⟩ := Option.bind_eq_some_iff.mp ho
    have hreply := lookupAccountBalances_congr (L := L) (M := M) att (hread e he)
    refine ⟨by simp [result, he, hreply], ?_⟩
    simp only [act, refreshLookup, he, Option.bind_some, hreply]
    exact hadvance hs

end Tenant

namespace Source

/-- The cluster whose usage a transfer records. -/
def usageCluster : Source → Option Uint128
  | .usage _ cluster _ _ => some cluster
  | _ => none

theorem tenant_of_preimage {x y : Source} (hp : x.preimage = y.preimage) :
    x.tenant = y.tenant ∨ x.usageCluster ≠ none ∧ x.usageCluster = y.usageCluster := by
  cases x <;> cases y <;> simp only [preimage, reduceCtorEq, Preimage.transfer.injEq,
    Preimage.gaugePending.injEq, Preimage.gaugeVoid.injEq, Preimage.allocation.injEq] at hp
  · exact .inr ⟨by simp [usageCluster], by simp [usageCluster, hp.1]⟩
  all_goals exact .inl hp.1

end Source

/-- Every cluster belongs to one tenant. -/
def ClustersOwned (J : List (Entry Source)) : Prop :=
  ∀ x ∈ J, ∀ y ∈ J, x.origin.usageCluster ≠ none →
    x.origin.usageCluster = y.origin.usageCluster → x.origin.tenant = y.origin.tenant

instance (J : List (Entry Source)) : Decidable (ClustersOwned J) :=
  inferInstanceAs (Decidable (∀ x ∈ J, ∀ y ∈ J, _ → _ → _))

/-- No balance ran out of its 128 bits. -/
def NoOverflow (J : List (Entry Source)) : Prop := ∀ x ∈ J, x.answer.overflow = false

instance (J : List (Entry Source)) : Decidable (NoOverflow J) :=
  inferInstanceAs (Decidable (∀ x ∈ J, _))

theorem State.Sound.separate {h : Blake3} {s : State} (hs : s.Sound h)
    (hfree : h.CollisionFree (preimages s.journal)) (hclusters : ClustersOwned s.journal) :
    Separate s.journal := by
  have hid : ∀ x ∈ s.journal, x.transfer.id = h.derive x.origin.preimage := by
    intro x hx
    obtain ⟨t, -, hown⟩ := hs.journal x hx
    exact hown.id_eq (hfree.derive_ne_zero ⟨x, hx, rfl⟩)
  intro x hx y hy hxy
  rw [hid x hx, hid y hy] at hxy
  rcases Source.tenant_of_preimage (hfree.eq ⟨x, hx, rfl⟩ ⟨y, hy, rfl⟩ hxy) with ht | ⟨hne, hc⟩
  · exact ht
  · exact hclusters x hx y hy hne hc

/-- All events but the steps of the other tenants. -/
def SystemEvent.concerns (u : Uint128) : SystemEvent → Bool
  | .startServer _ _ => true
  | .registerTenant v _ _ | .tenant v _ => v = u

/-- Accounts are opened under new identifiers. -/
def State.DrawsNew (s : State) : SystemEvent → Prop
  | .startServer _ rand => NewIDs s.books rand 6
  | .tenant _ (.createAccounts att _) => NewIDs s.books att.rand 3
  | _ => True

instance (s : State) : ∀ ev, Decidable (s.DrawsNew ev)
  | .startServer _ rand => inferInstanceAs (Decidable (NewIDs s.books rand 6))
  | .registerTenant _ _ _ => instDecidableTrue
  | .tenant _ ev => by
    cases ev <;> first
      | exact instDecidableTrue
      | exact inferInstanceAs (Decidable (NewIDs s.books _ 3))

theorem Acts.void_reserved {h : Blake3} {tb : Service} {t : Tenant} {L : Books} {ev : TenantEvent}
    {o : Outcome} {u : Uint128} {J : List (Entry Source)} (hacts : Acts h tb t L ev o)
    (ht : t.Sound h L) (hnoted : ∀ e, t.accounting = some e → Noted u J e)
    {x : Source × Transfer} (hown : Own h t.provisioning x.1 x.2) (hx : x ∈ o.sent)
    (hv : x.2.flags.voidPendingTransfer = true) :
    ∃ n cluster, Reserved u J n cluster x.1.resource x.2.pendingID := by
  have hsource : ∃ v n c r, x.1 = .gaugeVoid v n c r := by
    obtain ⟨x, tr⟩ := x
    dsimp only at hown hv
    cases hown with
    | gaugeVoid => exact ⟨_, _, _, _, rfl⟩
    | usage => cases hv
    | gaugeNew => cases hv
    | provision => cases hv
    | credit => cases hv
  obtain ⟨v, n, c, r, hsource⟩ := hsource
  have husage : ∀ {flight : Flight}, x ∉ usageEntries h flight.input := by
    intro flight hx
    obtain ⟨y, -, rfl⟩ := List.mem_map.mp hx
    cases hsource
  cases hacts with
  | provisioning hnone hxs =>
    obtain ⟨_, _, _, hp⟩ := hxs x hx
    rw [hsource] at hp
    cases hp
  | start => cases hx
  | workflow => cases hx
  | lookup => cases hx
  | usage => exact absurd (mem_reachedEntries hx).1 husage
  | usageFails => exact absurd (mem_reachedEntries hx).1 husage
  | @gauges reported e site flight att per run he hhalf hmain hrun =>
    have hflight := (ht.handed e he).flight flight (by rw [hmain]; rfl)
    have hbatch : x ∈ batchEntries h flight att :=
      List.mem_append_right _ (mem_reachedEntries hx).1
    exact (hnoted e he).void_reserved hflight hbatch hv
  | credit he hc hrun =>
    obtain ⟨k, a, -, rfl⟩ := mem_allocationEntriesFrom (mem_reachedEntries hx).1
    cases hsource

namespace Mirrors

variable {h : Blake3} {tb : Service} {s s' : State} {u v : Uint128} {t : Tenant}
  {ev : TenantEvent} {o : Outcome}

theorem newIDs (hm : Mirrors u s s') {rand : ℕ → Uint128} {n : ℕ} (hnew : NewIDs s.books rand n) :
    NewIDs s'.books rand n :=
  ⟨fun k hk => ⟨(hnew.1 k hk).1, hm.part.account?_none (hnew.1 k hk).2⟩, hnew.2⟩

/-- A step of the tenant does the same in both states. -/
theorem own (hm : Mirrors u s s') (ht : Tidy h s) (ht' : Tidy h s') (hu : s.tenants u = some t)
    (ho : t.act h tb s.books ev = some o) (hdraws : s.DrawsNew (.tenant u ev))
    (hnoted : ∀ e, t.accounting = some e → Noted u s.journal e)
    (hfree : h.CollisionFree (preimages (s.commit tb u o).journal))
    (hroom : NoOverflow (s.commit tb u o).journal) (hsep : Separate (s.commit tb u o).journal) :
    t.result h tb s'.books ev = t.result h tb s.books ev ∧
      ∃ o', t.act h tb s'.books ev = some o' ∧
        Mirrors u (s.commit tb u o) (s'.commit tb u o') := by
  have hsound := ht.sound.tenants u t hu
  have hacts := Tenant.act_acts hsound.unstarted ho
  have hown : ∀ x ∈ o.sent, Own h t.provisioning x.1 x.2 := fun x hx =>
    (Tenant.act_effect hsound ho).own hx
  have hgrows : s.journal ⊆ (s.commit tb u o).journal :=
    (tb.record_suffix (s.books, s.journal) o.sent).subset
  have hxs : ∀ x ∈ o.sent, x.1.preimage ∈ preimages (s.commit tb u o).journal := by
    intro x hx
    obtain ⟨r, -, hr⟩ := tb.record_answer (s.books, s.journal) hx
    exact ⟨_, hr, rfl⟩
  obtain ⟨hanswers, hnext⟩ := hm.request hfree ht ht' (preimages_mono hgrows) hu hown hxs
    (fun x hx hv => hacts.void_reserved hsound hnoted (hown x hx) hx hv) hroom hsep
  have hread : ∀ e, t.accounting = some e → ∀ r i, e.state.accountMap r = some i →
      s'.books.account? i = s.books.account? i ∧ s'.books.balance i = s.books.balance i := by
    intro e he r i hi
    rw [(hsound.handed e he).tenant.accountMap] at hi
    have hopen := ht.sound.quota_open hu hi
    refine ⟨?_, hm.balance ht.sound ht'.sound ht.filled (hsep.mono hgrows) hopen⟩
    rw [hm.part.account? ht'.sound.wf hopen (by simp), hopen]
  have hdrawn : ∀ att reported, ev = .createAccounts att reported →
      NewIDs s.books att.rand 3 ∧ NewIDs s'.books att.rand 3 := by
    rintro att reported rfl
    exact ⟨hdraws, hm.newIDs hdraws⟩
  obtain ⟨hresult, o', ho', hpar⟩ := Tenant.act_parallel ho hread hdrawn hanswers
  refine ⟨hresult, o', ho', ?_⟩
  rw [ht.sound.uuid u t hu] at hpar
  cases hpar with
  | accounts has =>
    refine ⟨hm.part.openAccounts fun a ha => ?_, hm.journal, hm.globals, by simp [State.commit]⟩
    obtain ⟨r, i, rfl⟩ := has a ha
    simp
  | transfers => exact ⟨hnext.part, hnext.journal, hnext.globals, by simp [State.commit]⟩

/-- A step of another tenant is not seen. -/
theorem other (hne : v ≠ u) (hm : Mirrors u s s') (ht : Tidy h s) (hv : s.tenants v = some t)
    (ho : t.act h tb s.books ev = some o) (hsep : Separate (s.commit tb v o).journal) :
    Mirrors u (s.commit tb v o) s' := by
  have htenant : (s.commit tb v o).tenants u = s.tenants u := Table.set_other _ hne.symm _
  have heff := Tenant.act_effect (ht.sound.tenants v t hv) ho
  obtain ⟨t', L', xs⟩ := o
  dsimp only at heff
  cases heff with
  | accounts has =>
    refine ⟨hm.part.otherAccounts tb fun a ha => ?_, hm.journal, hm.globals,
      hm.tenant.trans htenant.symm⟩
    obtain ⟨r, i, rfl⟩ := has a ha
    rw [ht.sound.uuid v t hv]
    simpa using hne
  | transfers hxs =>
    have hnext := hm.others hne ht hv hxs hsep
    exact ⟨hnext.part, hnext.journal, hnext.globals, hm.tenant.trans htenant.symm⟩

/-- A start of the server opens the same global accounts in both states. -/
theorem startServer (hm : Mirrors u s s') {fate : Fate} {rand : ℕ → Uint128}
    (hnew : NewIDs s.books rand 6) :
    Mirrors u (s.startServer tb fate rand) (s'.startServer tb fate rand) := by
  obtain ⟨reply, as, has, hopened⟩ := createGlobalAccounts_opened tb fate rand
  simp only [State.startServer, hopened s.books hnew, hopened s'.books (hm.newIDs hnew)]
  refine ⟨hm.part.openAccounts fun a ha => ?_, hm.journal, rfl, hm.tenant⟩
  obtain ⟨k, i, rfl⟩ := has a ha
  exact keptAccount_global u k i

theorem held (hm : Mirrors u s s') (ht : Tidy h s) (hsep : Separate s.journal) {r : ResourceType}
    {i : Uint128} (hi : s.books.account? i = some (quotaAccount u r i)) :
    s'.books.held i = s.books.held i := by
  unfold Books.held
  rw [hm.part.live (ht.sound.closed ht.filled hsep u), List.filter_filter]
  refine List.filter_congr fun p hp => ?_
  by_cases hd : p.debitAccountID = i
  · simp [hd, ht.sound.ownID_of_touch ht.filled hi (Books.mem_live.mp hp).1 (.inl hd)]
  · simp [hd]

theorem account_iff (hm : Mirrors u s s') (ht : Tidy h s) (ht' : Tidy h s') {r : ResourceType}
    {i : Uint128} : s'.books.account? i = some (quotaAccount u r i) ↔
      s.books.account? i = some (quotaAccount u r i) := by
  refine ⟨fun hi => ?_, fun hi => hm.part.account? ht'.sound.wf hi (by simp)⟩
  have hmem := (Books.account?_some hi).1
  rw [hm.part.accounts] at hmem
  exact ht.sound.wf.account?_eq (List.mem_filter.mp hmem).1

end Mirrors

namespace State

variable {h : Blake3} {tb : Service} {s s' n : State} {u : Uint128} {ev : SystemEvent}
  {es : List SystemEvent}

/-- A step of the tenant or of the server happens in both runs. -/
theorem step_concerned (hm : Mirrors u s s') (ht : Tidy h s) (ht' : Tidy h s')
    (hstep : s.step h tb ev = some n) (hc : ev.concerns u = true) (hdraws : s.DrawsNew ev)
    (hnoted : ∀ t e, s.tenants u = some t → t.accounting = some e → Noted u s.journal e)
    (hfree : h.CollisionFree (preimages n.journal)) (hroom : NoOverflow n.journal)
    (hsep : Separate n.journal) :
    s'.result h tb u ev = s.result h tb u ev ∧
      ∃ n', s'.step h tb ev = some n' ∧ Mirrors u n n' := by
  cases stepped_of_step hstep with
  | started => exact ⟨rfl, _, rfl, hm.startServer hdraws⟩
  | @registered v req now g hg hnone =>
    obtain rfl : v = u := of_decide_eq_true hc
    have hnext : s'.step h tb (.registerTenant v req now) = some { s' with
        tenants := s'.tenants.set v
          ⟨{ input := Accounting.registerTenant req v g now }, none, none⟩ } := by
      simp only [step, registerTenant, hm.globals, hm.tenant, hg, hnone]
    exact ⟨rfl, _, hnext, hm.part, hm.journal, hm.globals, by simp⟩
  | @acted v w t o hv ho =>
    obtain rfl : v = u := of_decide_eq_true hc
    obtain ⟨hresult, o', ho', hnext⟩ :=
      hm.own ht ht' hv ho hdraws (fun e he => hnoted t e hv he) hfree hroom hsep
    have hv' : s'.tenants v = some t := hm.tenant.trans hv
    refine ⟨?_, s'.commit tb v o', ?_, hnext⟩
    · simp only [result, if_true, hv, hv', Option.bind_some, hresult]
    · simp only [step, hv', Option.bind_some, ho', Option.map_some]

/-- A step of another tenant happens in the whole run only. -/
theorem step_unconcerned (hm : Mirrors u s s') (ht : Tidy h s) (hstep : s.step h tb ev = some n)
    (hc : ev.concerns u = false) (hsep : Separate n.journal) :
    s.result h tb u ev = none ∧ Mirrors u n s' := by
  cases stepped_of_step hstep with
  | started => cases hc
  | @registered v =>
    have hne : v ≠ u := of_decide_eq_false hc
    exact ⟨rfl, hm.part, hm.journal, hm.globals, hm.tenant.trans (Table.set_other _ hne.symm _).symm⟩
  | @acted v w t o hv ho =>
    have hne : v ≠ u := of_decide_eq_false hc
    exact ⟨if_neg hne, hm.other hne ht hv ho hsep⟩

/-- The run without the steps of the other tenants mirrors the whole run. -/
theorem run_mirrors (u : Uint128) (hr : runSteps (step h tb) initial es = some s)
    (hdraws : Along (step h tb) DrawsNew initial es)
    (hfree : h.CollisionFree (preimages s.journal)) (hclusters : ClustersOwned s.journal)
    (hroom : NoOverflow s.journal) :
    ∃ s', runSteps (step h tb) initial (es.filter (·.concerns u)) = some s' ∧ Mirrors u s s' ∧
      outputs (step h tb) (result h tb u) initial (es.filter (·.concerns u)) =
        outputs (step h tb) (result h tb u) initial es := by
  refine run_induction (step h tb) (P := fun es s => Along (step h tb) DrawsNew initial es →
    h.CollisionFree (preimages s.journal) → ClustersOwned s.journal → NoOverflow s.journal →
    ∃ s', runSteps (step h tb) initial (es.filter (·.concerns u)) = some s' ∧ Mirrors u s s' ∧
      outputs (step h tb) (result h tb u) initial (es.filter (·.concerns u)) =
        outputs (step h tb) (result h tb u) initial es) ?_ ?_ hr hdraws hfree hclusters hroom
  · intro _ _ _ _
    exact ⟨initial, rfl, ⟨⟨rfl, rfl, rfl⟩, rfl, rfl, rfl⟩, rfl⟩
  · intro xs s ev n hr hold hstep hdraws hfree hclusters hroom
    obtain ⟨hdraws, hdraw, -⟩ := hdraws.append _ hr
    have hJ : s.journal ⊆ n.journal := (step_journal hstep).subset
    have hfree' := hfree.mono (preimages_mono hJ)
    obtain ⟨s', hr', hm, hout⟩ := hold hdraws hfree' (fun x hx y hy => hclusters x (hJ hx) y (hJ hy))
      fun x hx => hroom x (hJ hx)
    have ht := run_tidy hr
    have hsep := (step_sound ht.sound hstep).separate hfree hclusters
    rw [List.filter_append, outputs_concat _ _ hr]
    cases hc : ev.concerns u with
    | true =>
      obtain ⟨hresult, n', hstep', hnext⟩ := step_concerned hm ht (run_tidy hr') hstep hc hdraw
        (fun t e hu he => run_noted hr hfree' hu he) hfree hroom hsep
      have hlast : [ev].filter (·.concerns u) = [ev] := by simp [hc]
      rw [hlast, outputs_concat _ _ hr', hout, hresult]
      exact ⟨n', (runSteps_concat _ hr').mpr hstep', hnext, rfl⟩
    | false =>
      obtain ⟨hresult, hnext⟩ := step_unconcerned hm ht hstep hc hsep
      have hlast : [ev].filter (·.concerns u) = [] := by simp [hc]
      rw [hlast, List.append_nil, hout, hresult]
      exact ⟨s', hr', hnext, (List.append_nil _).symm⟩

/-- Without the steps of the other tenants a tenant has the same state, the same quota
accounts with the same balances and reservations, and its activities returned the same
results, as long as accounts are opened under new identifiers, transfer identifiers do
not collide, every cluster belongs to one tenant and no balance overflows. -/
theorem tenant_isolation (u : Uint128) (es : List SystemEvent) (s : State)
    (hr : runSteps (step h tb) initial es = some s)
    (hdraws : Along (step h tb) DrawsNew initial es)
    (hfree : h.CollisionFree (preimages s.journal)) (hclusters : ClustersOwned s.journal)
    (hroom : NoOverflow s.journal) :
    ∃ s', runSteps (step h tb) initial (es.filter (·.concerns u)) = some s' ∧
      s'.tenants u = s.tenants u ∧
      (∀ r i, s'.books.account? i = some (quotaAccount u r i) ↔
        s.books.account? i = some (quotaAccount u r i)) ∧
      (∀ r i, s.books.account? i = some (quotaAccount u r i) →
        s'.books.balance i = s.books.balance i ∧ s'.books.held i = s.books.held i) ∧
      outputs (step h tb) (result h tb u) initial (es.filter (·.concerns u)) =
        outputs (step h tb) (result h tb u) initial es := by
  obtain ⟨s', hr', hm, hout⟩ := run_mirrors u hr hdraws hfree hclusters hroom
  have ht := run_tidy hr
  have ht' := run_tidy hr'
  have hsep := ht.sound.separate hfree hclusters
  refine ⟨s', hr', hm.tenant, fun r i => hm.account_iff ht ht', fun r i hi => ?_, hout⟩
  exact ⟨hm.balance ht.sound ht'.sound ht.filled hsep hi, hm.held ht hsep hi⟩

/-- Two tenants flush one heartbeat each, in turns. -/
def interleavedBatches : List SystemEvent :=
  let start : List TenantEvent := [.deliverProvisioning, .startAccounting (.ok ())]
  let other := { sampleHeartbeat 1 with clusterUUID := sampleID 9 }
  twoTenants [] ++ (start ++ sampleBatchOf [sampleHeartbeat 1] 0).map (.tenant (sampleID 1)) ++
    (start ++ sampleBatchOf [other] 0 ++ sampleSubmission).map (.tenant (sampleID 2)) ++
    sampleSubmission.map (.tenant (sampleID 1))

/-- The second tenant's flush between the first one's timer and its submission leaves the
first tenant as it would be alone. -/
theorem interleavedBatches_isolated :
    ∃ s s', runSteps (step .positional Reference.service) initial interleavedBatches = some s ∧
      runSteps (step .positional Reference.service) initial
        (interleavedBatches.filter (·.concerns (sampleID 1))) = some s' ∧
      (s.tenants (sampleID 1)).isSome = true ∧ (s.tenants (sampleID 2)).isSome = true ∧
      s'.tenants (sampleID 1) = s.tenants (sampleID 1) := by
  obtain ⟨s, hr, hp⟩ := runSteps_any (step .positional Reference.service) initial
    interleavedBatches (fun s => collisionTest .positional s.journal &&
      decide (ClustersOwned s.journal) && decide (NoOverflow s.journal) &&
      (s.tenants (sampleID 1)).isSome && (s.tenants (sampleID 2)).isSome) (by decide +kernel)
  simp only [Bool.and_eq_true, decide_eq_true_eq] at hp
  obtain ⟨⟨⟨⟨hfree, hclusters⟩, hroom⟩, hfirst⟩, hsecond⟩ := hp
  obtain ⟨s', hr', htenant, -⟩ := tenant_isolation (sampleID 1) interleavedBatches s hr
    (along_of_alongTest _ (by decide +kernel)) (collisionFree_of_collisionTest hfree) hclusters hroom
  exact ⟨s, s', hr, hr', hfirst, hsecond, htenant⟩

end State

end CloudCredit.System
