import CloudCredit.Accounting.Retry
import CloudCredit.Accounting.Stalls
import CloudCredit.System.BatchAnswers

/-!
# A rejected transfer that was not heard of stalls the tenant

TigerBeetle remembers the identifier of a rejected transfer and answers every
repetition with `id_already_failed`, for which `submitBatch` has no case. If the
reply that carried the rejection is lost, the heartbeat stays in the batch and each
later flush fails on it. So nothing that only a successful flush changes moves any
more until the workflow continues as new: the acknowledgement, the recorded
reservations, and the flags, which a credit can clear and nothing can raise.
-/
namespace CloudCredit.System

open Library TigerBeetle Domain Ledger Accounting

/-- A usage transfer of the waiting batch has an identifier that is used up, and no
attempt of the batch has had its usage accepted. -/
structure Poisoned (h : Blake3) (L : Books) (t : Tenant) (e : Execution) : Prop where
  usedUp : ∃ x ∈ usageTransfers h (e.state.batchInput h), x.2.transferID ∈ L.failed
  between : t.halfway = none
  unsettled : e.Unsettled

theorem usageTransfers_flushInput {h : Blake3} {base : TenantAccountingInput} {n m : UInt64}
    {batch batch' : List HeartbeatSignal} {ids ids' : GaugeIDs} (hsub : batch ⊆ batch')
    {x : HeartbeatSignal × UsageTransfer}
    (hx : x ∈ usageTransfers h (base.flushInput h n batch ids)) :
    x ∈ usageTransfers h (base.flushInput h m batch' ids') := by
  rw [mem_usageTransfers] at hx ⊢
  exact ⟨hsub hx.1, hx.2⟩

namespace Poisoned

variable {h : Blake3} {tb : Service} {L L' : Books} {t t' : Tenant} {e e' : Execution}

theorem of_frozen {base : TenantAccountingInput} (hp : Poisoned h L t e) (he : Handed h base e)
    (he' : Handed h base e') (hg : L.Grows L') (hf : Frozen e e') (hu : e'.Unsettled)
    (hbetween : t'.halfway = none) : Poisoned h L' t' e' := by
  obtain ⟨x, hx, hid⟩ := hp.usedUp
  refine ⟨⟨x, ?_, hg.failed.subset hid⟩, hbetween, hu⟩
  rw [he.tenant.batchInput] at hx
  rw [he'.tenant.batchInput]
  exact usageTransfers_flushInput hf.batch hx

/-- The usage request of the batch in flight does not succeed. -/
theorem refused {base : TenantAccountingInput} (hp : Poisoned h L t e) (he : Handed h base e)
    (hL : L.Wf) {flight : Flight} (hf : e.main.flight = some flight) (att : BatchAttempt)
    (per : Table ResourceType ResourceBatchResult) :
    (submitUsage h flight.input tb att L).1 ≠ .ok per := by
  obtain ⟨x, hx, hid⟩ := hp.usedUp
  have hsent : x ∈ usageTransfers h flight.input := by
    rw [he.tenant.batchInput] at hx
    rw [he.flight flight hf]
    exact usageTransfers_flushInput (fun _ hb => hb) hx
  intro hok
  obtain ⟨-, hclassified, -⟩ := (submitUsage_ok_iff h flight.input tb att L per).mp hok
  have hmem : x.2.toTransfer ∈ usageRequest h flight.input := List.mem_map_of_mem hsent
  exact not_classifies_of_blocked hL hmem (.inl hid) hclassified

theorem not_heard {base : TenantAccountingInput} (hp : Poisoned h L t e) (he : Handed h base e)
    (hL : L.Wf) {flight : Flight} (hf : e.main.flight = some flight) {att : BatchAttempt}
    {reported : Bool} {per : Table ResourceType ResourceBatchResult} :
    heard reported (submitUsage h flight.input tb att L).1 ≠ .ok per := by
  unfold heard
  split_ifs
  · exact hp.refused he hL hf att per
  · simp

/-- An act of a poisoned tenant leaves everything a flush protects as it is. -/
theorem act {ev : TenantEvent} {o : Outcome} (hp : Poisoned h L t e) (he : t.accounting = some e)
    {base : TenantAccountingInput} (hd : Handed h base e) (hL : L.Wf)
    (hacts : Acts h tb t L ev o) (hcan : ev ≠ .workflow .continueAsNew) :
    ∃ e', o.tenant.accounting = some e' ∧ o.tenant.provisioning = t.provisioning ∧
      o.tenant.halfway = none ∧ Frozen e e' ∧ e'.Unsettled := by
  have hcontra : ∀ {P : Prop}, t.accounting = none → P := by
    intro P hnone
    rw [hnone] at he
    cases he
  cases hacts with
  | provisioning hnone => exact hcontra hnone
  | start hnone => exact hcontra hnone
  | @workflow w e₁ e₂ he₁ hask hstep =>
    cases he.symm.trans he₁
    have hquiet : ∀ reached R, w ≠ .attempt reached (.batch (.ok R)) := by
      rintro reached R rfl
      cases hask
    have hlive : w ≠ .continueAsNew := fun hw => hcan (by rw [hw])
    obtain ⟨hfrozen, hu⟩ := Execution.step_frozen hstep hlive hquiet hp.unsettled
    exact ⟨e₂, rfl, rfl, hp.between, hfrozen, hu⟩
  | @lookup _ e₁ e₂ he₁ same =>
    cases he.symm.trans he₁
    refine ⟨e₂, rfl, rfl, hp.between, .of_sameCore same, ?_⟩
    intro f R hf
    rw [same.flight] at hf
    exact hp.unsettled f R hf
  | usage he₁ hhalf hmain hout hper =>
    cases he.symm.trans he₁
    exact absurd hper (hp.not_heard hd hL (by rw [hmain]; rfl))
  | usageFails he₁ hhalf hmain herr hrun =>
    cases he.symm.trans he₁
    refine ⟨_, rfl, rfl, hhalf, .of_state rfl rfl, Execution.unsettled_attempt hrun ?_⟩
    intro R hR
    cases hR
  | gauges he₁ hhalf hmain hrun =>
    rw [hp.between] at hhalf
    cases hhalf
  | credit he₁ hc hrun =>
    cases he.symm.trans he₁
    exact ⟨_, rfl, rfl, hp.between, .of_state rfl rfl, hp.unsettled⟩

end Poisoned

namespace State

variable {h : Blake3} {tb : Service} {s s' : State} {u : Uint128} {t : Tenant} {e : Execution}

/-- A poisoned tenant stays poisoned by every step but Continue-As-New. -/
theorem step_poisoned {ev : SystemEvent} (hs : s.Sound h) (hstep : s.step h tb ev = some s')
    (hu : s.tenants u = some t) (he : t.accounting = some e) (hp : Poisoned h s.books t e)
    (hcan : ev ≠ .tenant u (.workflow .continueAsNew)) :
    ∃ t' e', s'.tenants u = some t' ∧ t'.accounting = some e' ∧ Poisoned h s'.books t' e' ∧
      Frozen e e' := by
  have hd := (hs.tenants u t hu).handed e he
  obtain ⟨t', -, hu', -, -⟩ := step_execution hs hstep hu he
  cases step_seen hs hstep hu' with
  | registered hnone =>
    rw [hnone] at hu
    cases hu
  | elsewhere hsame =>
    cases hu.symm.trans hsame
    exact ⟨t, e, hu', he, hp.of_frozen hd hd (step_grows hstep) (.refl e) hp.unsettled hp.between,
      .refl e⟩
  | @own t₁ w o hown hacts heff =>
    cases hu.symm.trans hown
    have hlive : w ≠ .workflow .continueAsNew := fun hw => hcan (by rw [hw])
    obtain ⟨e', he', hbase, hbetween, hfrozen, hunsettled⟩ := hp.act he hd hs.wf hacts hlive
    have hd' := ((step_sound hs hstep).tenants u o.tenant hu').handed e' he'
    rw [hbase] at hd'
    exact ⟨o.tenant, e', hu', he',
      hp.of_frozen hd hd' (step_grows hstep) hfrozen hunsettled hbetween, hfrozen⟩

/-- Once an identifier of the waiting batch is used up, the tenant's accounting stalls: in
every run up to the next Continue-As-New the batch keeps its heartbeats, no flush succeeds,
no acknowledgement and no reservation moves, and no flag is raised, whatever the ledger,
the network, the tenant and the others do. -/
theorem poisoned_batch_stalls_tenant {es es' : List SystemEvent}
    (hr : runSteps (step h tb) initial es = some s) (hu : s.tenants u = some t)
    (he : t.accounting = some e) (hp : Poisoned h s.books t e)
    (hes : .tenant u (.workflow .continueAsNew) ∉ es')
    (hr' : runSteps (step h tb) s es' = some s') :
    ∃ t' e', s'.tenants u = some t' ∧ t'.accounting = some e' ∧ Poisoned h s'.books t' e' ∧
      Frozen e e' := by
  have hinv : s'.Sound h ∧ ∃ t' e', s'.tenants u = some t' ∧ t'.accounting = some e' ∧
      Poisoned h s'.books t' e' ∧ Frozen e e' := by
    apply invariant_along (step h tb) (C := fun _ ev => ev ≠ .tenant u (.workflow .continueAsNew))
      (P := fun m => m.Sound h ∧ ∃ t' e', m.tenants u = some t' ∧ t'.accounting = some e' ∧
        Poisoned h m.books t' e' ∧ Frozen e e') _ _ _ hr'
    · rintro m ev m' ⟨hm, t₁, e₁, hu₁, he₁, hp₁, hf₁⟩ hev hstep
      obtain ⟨t₂, e₂, hu₂, he₂, hp₂, hf₂⟩ := step_poisoned hm hstep hu₁ he₁ hp₁ hev
      exact ⟨step_sound hm hstep, t₂, e₂, hu₂, he₂, hp₂, hf₁.trans hf₂⟩
    · exact ⟨run_sound hr, t, e, hu, he, hp, .refl e⟩
    · exact along_of_forall (step h tb) fun ev hev heq => hes (heq ▸ hev)
  exact hinv.2

/-- The usage of the first heartbeat exceeds the credits, and the reply that says so is lost. -/
def unheardRejection : List SystemEvent :=
  sampleProvisioning 4 20 ++ (sampleBatchOf [sampleHeartbeat 1] 0 ++
    [TenantEvent.submitUsage {} false]).map (.tenant sampleTenant)

/-- The other attempts of the flush and all attempts of the next one are answered. -/
def laterFlushes : List SystemEvent :=
  (List.replicate 4 (TenantEvent.submitUsage {} true) ++ [TenantEvent.workflow (.deliver false)] ++
    sampleBatchOf [sampleHeartbeat 2] 1 ++ List.replicate 5 (TenantEvent.submitUsage {} true) ++
    [TenantEvent.workflow (.deliver false)]).map (.tenant sampleTenant)

theorem laterFlushes_settle_nothing :
    ∃ s t e s' t' e', runSteps (step .positional Reference.service) initial unheardRejection =
        some s ∧ s.tenants sampleTenant = some t ∧ t.accounting = some e ∧
      runSteps (step .positional Reference.service) s laterFlushes = some s' ∧
      s'.tenants sampleTenant = some t' ∧ t'.accounting = some e' ∧
      e.state.curBatch = [sampleHeartbeat 1] ∧ e'.state.curBatch.length = 2 ∧
      e'.history.succeeded = [] ∧ Frozen e e' := by
  obtain ⟨s, hr, hp⟩ := runSteps_any (step .positional Reference.service) initial
    unheardRejection (fun s => (s.tenants sampleTenant).any fun t => t.accounting.any fun e =>
      e.state.curBatch = [sampleHeartbeat 1] && e.history.succeeded = [] && t.halfway.isNone &&
      (e.main.flight.bind (·.run.outcome)).isNone &&
      (usageTransfers .positional (e.state.batchInput .positional)).any
        (fun x => x.2.transferID ∈ s.books.failed) &&
      (runSteps (step .positional Reference.service) s laterFlushes).any fun s' =>
        (s'.tenants sampleTenant).any fun t' => t'.accounting.any fun e' =>
          e'.state.curBatch.length = 2) (by decide +kernel)
  simp only [Option.any_eq_true, Bool.and_eq_true, List.any_eq_true, decide_eq_true_eq,
    Option.isNone_iff_eq_none] at hp
  obtain ⟨t, hu, e, he, ⟨⟨⟨⟨hbatch, hnone⟩, hhalf⟩, hout⟩, hused⟩, hlater⟩ := hp
  obtain ⟨s', hr', t₁, hu₁, e₁, he₁, hlen⟩ := hlater
  have hpoisoned : Poisoned .positional s.books t e :=
    ⟨hused, hhalf, Execution.unsettled_of_undecided hout⟩
  obtain ⟨t', e', hu', he', -, hfrozen⟩ :=
    poisoned_batch_stalls_tenant hr hu he hpoisoned (by simp [laterFlushes, sampleBatchOf]) hr'
  cases hu₁.symm.trans hu'
  cases he₁.symm.trans he'
  exact ⟨s, t, e, s', t₁, e₁, hr, hu, he, hr', hu₁, he₁, hbatch, hlen,
    hfrozen.succeeded.trans hnone, hfrozen⟩

end State
end CloudCredit.System
