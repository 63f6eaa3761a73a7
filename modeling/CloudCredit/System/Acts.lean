import CloudCredit.System.Sound

/-!
# What a step does to one tenant

A step of a tenant is one of a few acts: provisioning moves on, the accounting
workflow starts or advances by itself, or one of its activities makes a request.
A step of the system, seen from one tenant, registers it, happens elsewhere, or
is an act of its own.
-/
namespace CloudCredit.System

open Library TigerBeetle Domain Ledger Accounting

/-- What a tenant's step on an event can do on the books `L`. -/
inductive Acts (h : Blake3) (tb : Service) (t : Tenant) (L : Books) : TenantEvent → Outcome → Prop
  | provisioning {ev : TenantEvent} {p : Provisioning} {L' : Books} {xs : List (Source × Transfer)}
      (hnone : t.accounting = none)
      (hxs : ∀ x ∈ xs, ∃ periodStartNs r credits,
        x.1 = .provision t.provisioning.input.tenantUUID periodStartNs r credits) :
      Acts h tb t L ev ⟨{ t with provisioning := p }, L', xs⟩
  | start {ev : TenantEvent} {p : Provisioning} (hnone : t.accounting = none) :
      Acts h tb t L ev (Tenant.alone { t with
        provisioning := p
        accounting := some (.start t.provisioning.accountingInput) } L)
  | workflow {ev : Event} {e e' : Execution} (he : t.accounting = some e)
      (hask : ev.asksLedger = false) (hstep : e.step h ev = some e') :
      Acts h tb t L (.workflow ev) (Tenant.alone { t with accounting := some e' } L)
  | lookup {ev : TenantEvent} {e e' : Execution} (he : t.accounting = some e)
      (same : SameCore e e') : Acts h tb t L ev (Tenant.alone { t with accounting := some e' } L)
  | usage {att : BatchAttempt} {reported : Bool} {e : Execution} {site : FlushSite}
      {flight : Flight} {per : Table ResourceType ResourceBatchResult}
      (he : t.accounting = some e) (hhalf : t.halfway = none)
      (hmain : e.main = .submitting site flight) (hout : flight.run.outcome = none)
      (hper : heard reported (submitUsage h flight.input tb att L).1 = .ok per) :
      Acts h tb t L (.submitUsage att reported)
        ⟨{ t with halfway := some (att, per) }, (submitUsage h flight.input tb att L).2,
          reachedEntries att.usageFate (usageEntries h flight.input)⟩
  | usageFails {att : BatchAttempt} {reported : Bool} {e : Execution} {site : FlushSite}
      {flight : Flight} {err : ActivityError} {run : Run TBBatchResult}
      (he : t.accounting = some e) (hhalf : t.halfway = none)
      (hmain : e.main = .submitting site flight)
      (herr : heard reported (submitUsage h flight.input tb att L).1 = .error err)
      (hrun : flight.run.attempt maximumAttempts att.usageFate.reached (.error err) = some run) :
      Acts h tb t L (.submitUsage att reported)
        ⟨{ t with accounting := some { e with main := .submitting site { flight with run := run } } },
          (submitUsage h flight.input tb att L).2,
          reachedEntries att.usageFate (usageEntries h flight.input)⟩
  | gauges {reported : Bool} {e : Execution} {site : FlushSite} {flight : Flight}
      {att : BatchAttempt} {per : Table ResourceType ResourceBatchResult} {run : Run TBBatchResult}
      (he : t.accounting = some e) (hhalf : t.halfway = some (att, per))
      (hmain : e.main = .submitting site flight)
      (hrun : flight.run.attempt maximumAttempts (att.usageFate.reached || att.gaugeFate.reached)
        (heard reported (submitGauges flight.input tb att per L).1) = some run) :
      Acts h tb t L (.submitGauges reported)
        ⟨{ t with
            accounting := some { e with main := .submitting site { flight with run := run } }
            halfway := none },
          (submitGauges flight.input tb att per L).2,
          reachedEntries att.gaugeFate (gaugeEntries flight.seqNo flight.input att)⟩
  | credit {i : ℕ} {att : RequestAttempt} {reported : Bool} {e : Execution} {c : Credit}
      {run : Run Unit} (he : t.accounting = some e) (hc : e.credits[i]? = some c)
      (hrun : c.run.attempt maximumAttempts att.fate.reached
        (heard reported (submitAllocationTransfers tb att c.input L).1) = some run) :
      Acts h tb t L (.credit i att reported)
        ⟨{ t with accounting := some { e with credits := e.credits.set i { c with run := run } } },
          (submitAllocationTransfers tb att c.input L).2,
          reachedEntries att.fate (allocationEntries
            (fun _ => .credit c.input.tenantUUID c.issue) c.input att)⟩

namespace Tenant

variable {h : Blake3} {tb : Service} {t : Tenant} {L : Books} {o : Outcome}

theorem Sound.unstarted (ht : t.Sound h L) (hp : t.provisioning.phase ≠ .completed) :
    t.accounting = none := by
  cases he : t.accounting with
  | none => rfl
  | some e => exact absurd (ht.completed e he) hp

theorem attempt_balances {e e' : Execution} {reached : Bool} {reply : Except ActivityError Balances}
    (hs : e.step h (.attempt reached (.balances reply)) = some e') : SameCore e e' := by
  simp only [Execution.step, Execution.attempt] at hs
  split at hs
  · rename_i heq
    cases heq
  · rename_i site run r hm heq
    obtain ⟨run', -, rfl⟩ := Option.map_eq_some_iff.mp hs
    exact ⟨rfl, rfl, by rw [hm]; rfl, rfl, rfl, fun _ hx => hx⟩
  · rename_i heq
    cases heq
  · rename_i heq
    cases heq
  · cases hs

theorem refreshAttempt_same {e e' : Execution} {i : ℕ} {reply : Reply}
    (hs : e.step h (.refreshAttempt i reply) = some e') : SameCore e e' := by
  obtain ⟨f, hi, hs⟩ := Option.bind_eq_some_iff.mp hs
  obtain ⟨phase, -, rfl⟩ := Option.map_eq_some_iff.mp hs
  exact ⟨rfl, rfl, rfl, rfl, rfl, Execution.confirmed_set hi rfl⟩

theorem attempt_batch {e e' : Execution} {site : FlushSite} {flight : Flight} {reached : Bool}
    {reply : Except ActivityError TBBatchResult} (hmain : e.main = .submitting site flight)
    (hs : e.step h (.attempt reached (.batch reply)) = some e') :
    ∃ run, flight.run.attempt maximumAttempts reached reply = some run ∧
      e' = { e with main := .submitting site { flight with run := run } } := by
  simp only [Execution.step, Execution.attempt, hmain] at hs
  obtain ⟨run, hrun, rfl⟩ := Option.map_eq_some_iff.mp hs
  exact ⟨run, hrun, rfl⟩

theorem creditAttempt_some {e e' : Execution} {i : ℕ} {c : Credit} {reached : Bool}
    {reply : Except ActivityError Unit} (hc : e.credits[i]? = some c)
    (hs : e.step h (.creditAttempt i reached reply) = some e') :
    ∃ run, c.run.attempt maximumAttempts reached reply = some run ∧
      e' = { e with credits := e.credits.set i { c with run := run } } := by
  obtain ⟨c', hc', hs⟩ := Option.bind_eq_some_iff.mp hs
  cases hc.symm.trans hc'
  obtain ⟨run, hrun, rfl⟩ := Option.map_eq_some_iff.mp hs
  exact ⟨run, hrun, rfl⟩

theorem act_acts (hun : t.provisioning.phase ≠ .completed → t.accounting = none)
    {ev : TenantEvent} (hs : t.act h tb L ev = some o) : Acts h tb t L ev o := by
  cases ev with
  | rowAttempt reply =>
    obtain ⟨p, hp, rfl⟩ := Option.map_eq_some_iff.mp hs
    refine .provisioning (hun fun hc => ?_) (by simp)
    rw [(completed_ends hc).1] at hp
    cases hp
  | createAccounts att reported =>
    obtain ⟨p, hp, rfl⟩ := Option.map_eq_some_iff.mp hs
    refine .provisioning (hun fun hc => ?_) (by simp)
    rw [(completed_ends hc).2.1] at hp
    cases hp
  | allocate att reported =>
    obtain ⟨p, hp, rfl⟩ := Option.map_eq_some_iff.mp hs
    refine .provisioning (hun fun hc => ?_) fun x hx => ?_
    · rw [(completed_ends hc).2.2.1] at hp
      cases hp
    · obtain ⟨k, a, -, rfl⟩ := mem_allocationEntriesFrom (mem_reachedEntries hx).1
      exact ⟨_, _, _, rfl⟩
  | deliverProvisioning =>
    obtain ⟨p, hp, rfl⟩ := Option.map_eq_some_iff.mp hs
    refine .provisioning (hun fun hc => ?_) (by simp)
    rw [(completed_ends hc).2.2.2.1] at hp
    cases hp
  | startAccounting reply =>
    obtain ⟨p, hp, rfl⟩ := Option.map_eq_some_iff.mp hs
    have hnone := hun fun hc => by
      rw [(completed_ends hc).2.2.2.2] at hp
      cases hp
    cases reply with
    | ok u => exact .start hnone
    | error err =>
      have hsame : ({ t with provisioning := p, accounting := none } : Tenant) =
          { t with provisioning := p } := by rw [hnone]
      simp only [Except.toBool, Bool.false_eq_true, if_false, alone, hsame]
      exact .provisioning hnone (by simp)
  | workflow ev =>
    simp only [act, workflow] at hs
    split_ifs at hs with hask
    obtain ⟨e, e', he, hstep, rfl⟩ := advance_some hs
    exact .workflow he (by simpa using hask) hstep
  | submitUsage att reported =>
    obtain ⟨e, site, flight, he, hhalf, hmain, hbooks, hsent, hcase⟩ := submitUsage_some hs
    obtain ⟨t', L', xs⟩ := o
    dsimp only at hbooks hsent hcase
    subst hbooks hsent
    rcases hcase with ⟨per, hper, hout, rfl⟩ | ⟨err, e', herr, hstep, rfl⟩
    · exact .usage he hhalf hmain hout hper
    · obtain ⟨run, hrun, rfl⟩ := attempt_batch hmain hstep
      exact .usageFails he hhalf hmain herr hrun
  | submitGauges reported =>
    obtain ⟨e, site, flight, att, per, e', he, hhalf, hmain, hstep, rfl⟩ := submitGauges_some hs
    obtain ⟨run, hrun, rfl⟩ := attempt_batch hmain hstep
    exact .gauges he hhalf hmain hrun
  | credit i att reported =>
    obtain ⟨e, c, e', he, hc, hstep, rfl⟩ := credit_some hs
    obtain ⟨run, hrun, rfl⟩ := creditAttempt_some hc hstep
    exact .credit he hc hrun
  | lookup att =>
    obtain ⟨_, -, hs⟩ := Option.bind_eq_some_iff.mp hs
    obtain ⟨e, e', he, hstep, rfl⟩ := advance_some hs
    exact .lookup he (attempt_balances hstep)
  | refreshLookup i att =>
    obtain ⟨_, -, hs⟩ := Option.bind_eq_some_iff.mp hs
    obtain ⟨e, e', he, hstep, rfl⟩ := advance_some hs
    exact .lookup he (refreshAttempt_same hstep)

theorem sends_credit {ev : TenantEvent} (hacts : Acts h tb t L ev o)
    {v : Uint128} {issue : Issue} {tr : Transfer} (hx : (.credit v issue, tr) ∈ o.sent) :
    ∃ i att reported e c run, ev = .credit i att reported ∧ t.accounting = some e ∧
      e.credits[i]? = some c ∧ c.issue = issue ∧ att.fate.reached = true ∧
      run.reached = true ∧
      o.tenant.accounting = some { e with credits := e.credits.set i { c with run := run } } := by
  cases hacts with
  | provisioning hnone hxs =>
    obtain ⟨_, _, _, hp⟩ := hxs _ hx
    cases hp
  | start => simp [alone] at hx
  | workflow => simp [alone] at hx
  | lookup => simp [alone] at hx
  | usage => exact absurd rfl (usageEntries_not_credit (mem_reachedEntries hx).1)
  | usageFails => exact absurd rfl (usageEntries_not_credit (mem_reachedEntries hx).1)
  | gauges => exact absurd rfl (gaugeEntries_not_credit (mem_reachedEntries hx).1)
  | @credit i att reported e c run he hc hrun =>
    obtain ⟨hx, hreached⟩ := mem_reachedEntries hx
    obtain ⟨k, a, -, heq⟩ := mem_allocationEntriesFrom hx
    simp only [Prod.mk.injEq, Source.credit.injEq] at heq
    obtain ⟨-, rfl⟩ := ActivityRun.attempt_some hrun
    exact ⟨i, att, reported, e, c, _, rfl, he, hc, heq.1.2.symm, hreached, by simp [hreached], rfl⟩

end Tenant

theorem Acts.provision_of_none {h : Blake3} {tb : Service} {t : Tenant} {L : Books}
    {ev : TenantEvent} {o : Outcome} (hacts : Acts h tb t L ev o) (hnone : t.accounting = none)
    {x : Source × Transfer} (hx : x ∈ o.sent) : ∃ periodStartNs r credits,
      x.1 = .provision t.provisioning.input.tenantUUID periodStartNs r credits := by
  have hcontra : ∀ {e : Execution}, t.accounting = some e → False := by
    intro e he
    rw [hnone] at he
    cases he
  cases hacts with
  | provisioning hnone hxs => exact hxs x hx
  | start => cases hx
  | workflow he => exact (hcontra he).elim
  | lookup he => exact (hcontra he).elim
  | usage he => exact (hcontra he).elim
  | usageFails he => exact (hcontra he).elim
  | gauges he => exact (hcontra he).elim
  | credit he => exact (hcontra he).elim

namespace State

variable {h : Blake3} {tb : Service} {s s' : State} {u : Uint128}

/-- What happens away from a tenant: accounts are opened, or another tenant
submits transfers of its own. -/
inductive Elsewhere (h : Blake3) (tb : Service) (s : State) (u : Uint128) : State → Prop
  | accounts {s' : State} (as : List Account) (hbooks : s'.books = (tb.createAccounts s.books as).2)
      (hjournal : s'.journal = s.journal) : Elsewhere h tb s u s'
  | transfers {s' : State} {v : Uint128} {t : Tenant} {xs : List (Source × Transfer)} (hv : v ≠ u)
      (ht : s.tenants v = some t) (hxs : ∀ x ∈ xs, Own h t.provisioning x.1 x.2)
      (hbooks : s'.books = (tb.createTransfers s.books (xs.map Prod.snd)).2)
      (hjournal : s'.journal = (tb.record (s.books, s.journal) xs).2) : Elsewhere h tb s u s'

theorem Elsewhere.journal (hs : s.Sound h) (he : Elsewhere h tb s u s') :
    s.journal ⊆ s'.journal ∧ ∀ x ∈ s'.journal, x ∈ s.journal ∨ x.origin.tenant ≠ u := by
  cases he with
  | accounts as hbooks hjournal =>
    rw [hjournal]
    exact ⟨fun _ hx => hx, fun _ hx => .inl hx⟩
  | transfers hv ht hxs hbooks hjournal =>
    rw [hjournal]
    refine ⟨(tb.record_suffix (s.books, s.journal) _).subset, fun x hx => ?_⟩
    refine (mem_record hx).imp id fun hsent => ?_
    rw [(hxs _ hsent).tenant, hs.uuid _ _ ht]
    exact hv

/-- A step of the system as the tenant `u` sees it, who is `t` afterwards. -/
inductive Seen (h : Blake3) (tb : Service) (s : State) (u : Uint128) :
    SystemEvent → State → Tenant → Prop
  | registered {ev : SystemEvent} {s' : State} {t : Tenant} (hnone : s.tenants u = none)
      (haccounting : t.accounting = none) (hhalf : t.halfway = none)
      (hbooks : s'.books = s.books) (hjournal : s'.journal = s.journal) : Seen h tb s u ev s' t
  | elsewhere {ev : SystemEvent} {s' : State} {t : Tenant} (hu : s.tenants u = some t)
      (helse : Elsewhere h tb s u s') : Seen h tb s u ev s' t
  | own {t : Tenant} {ev : TenantEvent} {o : Outcome} (hu : s.tenants u = some t)
      (hacts : Acts h tb t s.books ev o) (heff : Effect h tb s.books t.provisioning o.books o.sent) :
      Seen h tb s u (.tenant u ev) (s.commit tb u o) o.tenant

theorem step_seen {ev : SystemEvent} (hs : s.Sound h) (hstep : s.step h tb ev = some s')
    {t' : Tenant} (hu : s'.tenants u = some t') : Seen h tb s u ev s' t' := by
  cases stepped_of_step hstep with
  | @started fate rand =>
    obtain ⟨as, hbooks⟩ := startServer_books tb s fate rand
    exact .elsewhere hu (.accounts as hbooks rfl)
  | registered _ hnone =>
    rcases Table.set_eq_some.mp hu with ⟨rfl, rfl⟩ | ⟨-, hu⟩
    · exact .registered hnone rfl rfl rfl rfl
    · exact .elsewhere hu (.accounts [] rfl rfl)
  | @acted v ev t o hv ho =>
    have ht := hs.tenants v t hv
    have heff := Tenant.act_effect ht ho
    rcases Table.set_eq_some.mp hu with ⟨rfl, rfl⟩ | ⟨hne, hu⟩
    · exact .own hv (Tenant.act_acts ht.unstarted ho) heff
    · refine .elsewhere hu ?_
      obtain ⟨t', L', xs⟩ := o
      dsimp only at heff
      cases heff with
      | accounts has => exact .accounts _ rfl rfl
      | transfers hxs => exact .transfers (Ne.symm hne) hv hxs rfl rfl

end State

/-- The event of the tenant's workflow in a step of the system. -/
inductive Induces (u : Uint128) : SystemEvent → Event → Prop
  | workflow (w : Event) : Induces u (.tenant u (.workflow w)) w
  | usage (att : BatchAttempt) (reported reached : Bool) (reply : Reply) :
      Induces u (.tenant u (.submitUsage att reported)) (.attempt reached reply)
  | gauges (reported reached : Bool) (reply : Reply) :
      Induces u (.tenant u (.submitGauges reported)) (.attempt reached reply)
  | credit (i : ℕ) (att : RequestAttempt) (reported : Bool) (reply : Except ActivityError Unit) :
      Induces u (.tenant u (.credit i att reported)) (.creditAttempt i att.fate.reached reply)
  | lookup (att : LookupAttempt) (reached : Bool) (reply : Reply) :
      Induces u (.tenant u (.lookup att)) (.attempt reached reply)
  | refreshLookup (i : ℕ) (att : LookupAttempt) (reply : Reply) :
      Induces u (.tenant u (.refreshLookup i att)) (.refreshAttempt i reply)

/-- The workflow does not move, or it makes the step that the event is for it. -/
def Advances (h : Blake3) (u : Uint128) (ev : SystemEvent) (e e' : Execution) : Prop :=
  ((∀ w, ev ≠ .tenant u (.workflow w)) ∧ e' = e) ∨ ∃ w, Induces u ev w ∧ e.step h w = some e'

theorem Tenant.act_execution {h : Blake3} {tb : Service} {t : Tenant} {L : Books} {o : Outcome}
    (ht : t.Sound h L) (u : Uint128) {ev : TenantEvent} (hs : t.act h tb L ev = some o)
    {e : Execution} (he : t.accounting = some e) :
    ∃ e', o.tenant.accounting = some e' ∧ Advances h u (.tenant u ev) e e' := by
  cases ev with
  | rowAttempt reply =>
    obtain ⟨p, -, rfl⟩ := Option.map_eq_some_iff.mp hs
    exact ⟨e, he, .inl ⟨by simp, rfl⟩⟩
  | createAccounts att reported =>
    obtain ⟨p, -, rfl⟩ := Option.map_eq_some_iff.mp hs
    exact ⟨e, he, .inl ⟨by simp, rfl⟩⟩
  | allocate att reported =>
    obtain ⟨p, -, rfl⟩ := Option.map_eq_some_iff.mp hs
    exact ⟨e, he, .inl ⟨by simp, rfl⟩⟩
  | deliverProvisioning =>
    obtain ⟨p, -, rfl⟩ := Option.map_eq_some_iff.mp hs
    exact ⟨e, he, .inl ⟨by simp, rfl⟩⟩
  | startAccounting reply =>
    obtain ⟨p, hp, rfl⟩ := Option.map_eq_some_iff.mp hs
    rw [(completed_ends (ht.completed e he)).2.2.2.2] at hp
    cases hp
  | workflow w =>
    simp only [act, workflow] at hs
    split_ifs at hs
    obtain ⟨e₁, e', he₁, hstep, rfl⟩ := advance_some hs
    cases he.symm.trans he₁
    exact ⟨e', rfl, .inr ⟨w, .workflow w, hstep⟩⟩
  | submitUsage att reported =>
    obtain ⟨e₁, site, flight, he₁, -, -, -, -, ⟨per, -, -, ho⟩ | ⟨err, e', -, hstep, ho⟩⟩ :=
      submitUsage_some hs
    · exact ⟨e, by rw [ho]; exact he, .inl ⟨by simp, rfl⟩⟩
    · cases he.symm.trans he₁
      exact ⟨e', by rw [ho], .inr ⟨_, .usage _ _ _ _, hstep⟩⟩
  | submitGauges reported =>
    obtain ⟨e₁, site, flight, att, per, e', he₁, -, -, hstep, rfl⟩ := submitGauges_some hs
    cases he.symm.trans he₁
    exact ⟨e', rfl, .inr ⟨_, .gauges _ _ _, hstep⟩⟩
  | credit i att reported =>
    obtain ⟨e₁, c, e', he₁, -, hstep, rfl⟩ := credit_some hs
    cases he.symm.trans he₁
    exact ⟨e', rfl, .inr ⟨_, .credit i att reported _, hstep⟩⟩
  | lookup att =>
    obtain ⟨_, -, hs⟩ := Option.bind_eq_some_iff.mp hs
    obtain ⟨e₁, e', he₁, hstep, rfl⟩ := advance_some hs
    cases he.symm.trans he₁
    exact ⟨e', rfl, .inr ⟨_, .lookup _ _ _, hstep⟩⟩
  | refreshLookup i att =>
    obtain ⟨_, -, hs⟩ := Option.bind_eq_some_iff.mp hs
    obtain ⟨e₁, e', he₁, hstep, rfl⟩ := advance_some hs
    cases he.symm.trans he₁
    exact ⟨e', rfl, .inr ⟨_, .refreshLookup i _ _, hstep⟩⟩

namespace State

variable {h : Blake3} {tb : Service} {s s' : State} {u : Uint128} {t : Tenant} {e : Execution}

/-- A running workflow keeps running, and moves only by its own steps. -/
theorem step_execution {ev : SystemEvent} (hs : s.Sound h) (hstep : s.step h tb ev = some s')
    (hu : s.tenants u = some t) (he : t.accounting = some e) :
    ∃ t' e', s'.tenants u = some t' ∧ t'.accounting = some e' ∧
      Advances h u ev e e' := by
  cases stepped_of_step hstep with
  | started => exact ⟨t, e, hu, he, .inl ⟨by simp, rfl⟩⟩
  | registered _ hnone =>
    exact ⟨t, e, Table.set_fresh hnone hu _, he, .inl ⟨by simp, rfl⟩⟩
  | @acted v ev t₁ o hv ho =>
    by_cases hne : u = v
    · subst hne
      cases hu.symm.trans hv
      obtain ⟨e', he', hcase⟩ := Tenant.act_execution (hs.tenants u t hu) u ho he
      exact ⟨o.tenant, e', Table.set_same _ _ _, he', hcase⟩
    · refine ⟨t, e, by rw [← hu]; exact Table.set_other _ hne _, he, .inl ⟨fun w heq => ?_, rfl⟩⟩
      cases heq
      exact hne rfl

/-- A workflow was running before the step, or starts with it. -/
theorem step_started {ev : SystemEvent} (hs : s.Sound h) (hstep : s.step h tb ev = some s')
    {t' : Tenant} {e' : Execution} (hu' : s'.tenants u = some t') (he : t'.accounting = some e') :
    ∃ t, s.tenants u = some t ∧
      ((∃ e, t.accounting = some e) ∨ e' = .start t.provisioning.accountingInput) := by
  cases step_seen hs hstep hu' with
  | registered hnone haccounting =>
    rw [haccounting] at he
    cases he
  | elsewhere hu => exact ⟨t', hu, .inl ⟨e', he⟩⟩
  | @own t ev o hu hacts =>
    cases hacts with
    | provisioning hnone =>
      rw [show t.accounting = none from hnone] at he
      cases he
    | start => exact ⟨t, hu, .inr (Option.some.inj he).symm⟩
    | workflow hold => exact ⟨t, hu, .inl ⟨_, hold⟩⟩
    | lookup hold => exact ⟨t, hu, .inl ⟨_, hold⟩⟩
    | usage hold => exact ⟨t, hu, .inl ⟨_, hold⟩⟩
    | usageFails hold => exact ⟨t, hu, .inl ⟨_, hold⟩⟩
    | gauges hold => exact ⟨t, hu, .inl ⟨_, hold⟩⟩
    | credit hold => exact ⟨t, hu, .inl ⟨_, hold⟩⟩

/-- What every step of a workflow keeps holds of a tenant's workflow in every
reachable state. -/
theorem run_execution {P : Execution → Prop} (hstart : ∀ base, P (.start base))
    (hkeep : ∀ e w e', P e → e.step h w = some e' → P e') {es : List SystemEvent}
    (hr : runSteps (step h tb) initial es = some s) (hu : s.tenants u = some t)
    (he : t.accounting = some e) : P e := by
  refine (invariant_of_steps (step h tb) (P := fun s => s.Sound h ∧
    ∀ t e, s.tenants u = some t → t.accounting = some e → P e) ?_
    ⟨initial_sound, fun t e hu => by cases hu⟩ hr).2 t e hu he
  rintro s ev s' ⟨hs, hP⟩ hstep
  refine ⟨step_sound hs hstep, fun t' e' hu' he' => ?_⟩
  obtain ⟨t, hu, ⟨e, he⟩ | rfl⟩ := step_started hs hstep hu' he'
  · obtain ⟨t₁, e₁, hu₁, he₁, ⟨-, rfl⟩ | ⟨w, -, hw⟩⟩ := step_execution hs hstep hu he
    · cases hu'.symm.trans hu₁
      cases he'.symm.trans he₁
      exact hP t _ hu he
    · cases hu'.symm.trans hu₁
      cases he'.symm.trans he₁
      exact hkeep e w _ (hP t e hu he) hw
  · exact hstart _

/-- A decision that is added was sent by an act of its tenant. -/
theorem step_new {ev : SystemEvent} (hs : s.Sound h) (hstep : s.step h tb ev = some s')
    {new : List (Entry Source)} (hj : s'.journal = new ++ s.journal) {x : Entry Source}
    (hx : x ∈ new) : ∃ w t o, ev = .tenant x.origin.tenant w ∧
      s.tenants x.origin.tenant = some t ∧ Acts h tb t s.books w o ∧
      (x.origin, x.transfer) ∈ o.sent := by
  have hnone : s'.journal = s.journal → x ∈ ([] : List (Entry Source)) := by
    intro hsame
    rwa [List.self_eq_append_left.mp (hsame.symm.trans hj)] at hx
  cases stepped_of_step hstep with
  | started => cases hnone rfl
  | registered => cases hnone rfl
  | @acted v w t o hv ho =>
    have hsent : (x.origin, x.transfer) ∈ o.sent := mem_record_new hj hx
    have ht := hs.tenants v t hv
    have htenant : x.origin.tenant = v := by
      rw [((Tenant.act_effect ht ho).own hsent).tenant, hs.uuid v t hv]
    rw [htenant]
    exact ⟨w, t, o, rfl, hv, Tenant.act_acts ht.unstarted ho, hsent⟩

end State
end CloudCredit.System
