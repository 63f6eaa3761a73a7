import CloudCredit.Gateway.InOrder
import CloudCredit.System.Gauges

/-!
# What a tenant is charged for

A usage transfer and a reservation take from a tenant's quota. Each of them that the
service was ever asked for stands for a heartbeat that was delivered to the tenant's
workflow: it is tagged with the cluster and the time of the heartbeat, and its amount is
what the heartbeat has for the resource.
-/
namespace CloudCredit.System

open Library TigerBeetle Domain Ledger Accounting

/-- The event takes from a quota. -/
def Source.isCharge : Source → Bool
  | .usage _ _ _ _ | .gaugeNew _ _ _ _ => true
  | _ => false

/-- The transfer event of this source is made from the heartbeat. -/
structure ChargedFor (hb : HeartbeatSignal) (source : Source) (tr : Transfer) : Prop where
  cluster : tr.userData128 = hb.clusterUUID
  timestamp : tr.userData64 = hb.heartbeatTimestampNs.toUInt64
  amount : tr.amount = (heartbeatAmount hb source.resource).toUInt64.toNat
  usage : ∀ u c q r, source = .usage u c q r → c = hb.clusterUUID ∧ q = hb.sequenceNumber

section Sent

variable {h : Blake3} {p : Provisioning} {seqNo : UInt64} {batch : List HeartbeatSignal}
  {pending : GaugeIDs} {x : Source × Transfer}

theorem usageEntries_charged
    (hx : x ∈ usageEntries h (p.accountingInput.flushInput h seqNo batch pending)) :
    ∃ hb ∈ batch, ChargedFor hb x.1 x.2 := by
  obtain ⟨⟨hb, tr⟩, hmem, rfl⟩ := List.mem_map.mp hx
  obtain ⟨hbatch, hu⟩ := mem_usageTransfers.mp hmem
  obtain ⟨-, -, operator, quota, sink, -, -, he⟩ := usageTransfer?_some hu
  dsimp only at he
  refine ⟨hb, hbatch, ⟨?_, ?_, ?_, ?_⟩⟩
  · exact congrArg UsageTransfer.clusterUUID he
  · exact congrArg UsageTransfer.heartbeatTsNs he
  · exact congrArg UInt64.toNat (congrArg UsageTransfer.amount he)
  · rintro u c q r ho
    cases ho
    exact ⟨rfl, rfl⟩

theorem gaugeEntries_charged {att : BatchAttempt}
    (hx : x ∈ gaugeEntries seqNo (p.accountingInput.flushInput h seqNo batch pending) att)
    (hcharge : x.1.isCharge = true) : ∃ hb ∈ batch, ChargedFor hb x.1 x.2 := by
  obtain ⟨k, y, hy, ⟨old, -, rfl⟩ | ⟨-, rfl⟩⟩ := mem_gaugeEntriesFrom hx
  · simp [gaugeSource, Source.isCharge] at hcharge
  · obtain ⟨hb, cluster, quota, sink, hlatest, hcluster, -, -, -, he⟩ := mem_flushUpdates hy
    have hresource : (gaugeSource seqNo (p.accountingInput.flushInput h seqNo batch pending) y
        ⟨k, false⟩).resource = y.2.resource := by
      rw [gaugeSource_new hcluster]
      rfl
    refine ⟨hb, (latestByCluster_mem hlatest).1, ⟨?_, ?_, ?_, ?_⟩⟩
    · exact congrArg GaugePendingUpdate.clusterUUID he
    · exact congrArg GaugePendingUpdate.heartbeatTsNs he
    · rw [hresource]
      exact congrArg UInt64.toNat (congrArg GaugePendingUpdate.newAmount he)
    · intro u c q r ho
      dsimp only at ho
      rw [gaugeSource_new hcluster] at ho
      cases ho

end Sent

theorem step_delivered {h : Blake3} {e e' : Execution} {ev : Event} (hs : e.step h ev = some e') :
    e.history.delivered ⊆ e'.history.delivered := by
  by_cases hev : ∃ sig, ev = .heartbeat sig
  · obtain ⟨sig, rfl⟩ := hev
    cases hs
    exact List.subset_cons_self _ _
  · rw [Execution.step_arrived hs fun sig heq => hev ⟨sig, heq⟩]
    exact fun _ hx => hx

namespace State

variable {h : Blake3} {tb : Service} {s s' : State} {u : Uint128} {t : Tenant} {e : Execution}
  {ev : SystemEvent} {es : List SystemEvent}

theorem step_delivered_cases (hs : s.Sound h) (hstep : s.step h tb ev = some s') {t' : Tenant}
    {e' : Execution} (hu' : s'.tenants u = some t') (he' : t'.accounting = some e') :
    e'.history.delivered = [] ∨ ∃ t e, s.tenants u = some t ∧ t.accounting = some e ∧
      (e'.history.delivered = e.history.delivered ∨
        ∃ sig, ev = .tenant u (.workflow (.heartbeat sig)) ∧
          e'.history.delivered = sig :: e.history.delivered) := by
  obtain ⟨t, hu, ⟨e, he⟩ | rfl⟩ := step_started hs hstep hu' he'
  · refine .inr ⟨t, e, hu, he, ?_⟩
    obtain ⟨t₁, e₁, hu₁, he₁, hadv⟩ := step_execution hs hstep hu he
    cases hu'.symm.trans hu₁
    cases he'.symm.trans he₁
    rcases hadv with ⟨-, rfl⟩ | ⟨w, hw, hmove⟩
    · exact .inl rfl
    · by_cases hsig : ∃ sig, w = .heartbeat sig
      · obtain ⟨sig, rfl⟩ := hsig
        cases hw
        cases hmove
        exact .inr ⟨sig, rfl, rfl⟩
      · exact .inl (Execution.step_arrived hmove fun sig heq => hsig ⟨sig, heq⟩)
  · exact .inl rfl

theorem step_keeps_delivered (hs : s.Sound h) (hstep : s.step h tb ev = some s')
    (hu : s.tenants u = some t) (he : t.accounting = some e) :
    ∃ t' e', s'.tenants u = some t' ∧ t'.accounting = some e' ∧
      e.history.delivered ⊆ e'.history.delivered := by
  obtain ⟨t', e', hu', he', ⟨-, rfl⟩ | ⟨w, -, hw⟩⟩ := step_execution hs hstep hu he
  · exact ⟨t', _, hu', he', fun _ hx => hx⟩
  · exact ⟨t', e', hu', he', step_delivered hw⟩

theorem acts_charged {w : TenantEvent} {o : Outcome} (hs : s.Sound h) (hu : s.tenants u = some t)
    (ha : Acts h tb t s.books w o) {x : Source × Transfer} (hx : x ∈ o.sent)
    (hcharge : x.1.isCharge = true) :
    ∃ e, t.accounting = some e ∧ ∃ hb ∈ e.state.curBatch, ChargedFor hb x.1 x.2 := by
  have hinput : ∀ {e : Execution} {site : FlushSite} {flight : Flight}, t.accounting = some e →
      e.main = .submitting site flight → flight.input = t.provisioning.accountingInput.flushInput h
        flight.seqNo e.state.curBatch e.state.pendingGaugeIDs := by
    intro e site flight he hmain
    exact ((hs.tenants u t hu).handed e he).flight flight (by rw [hmain]; rfl)
  cases ha with
  | provisioning hnone hxs =>
    obtain ⟨periodStartNs, r, credits, ho⟩ := hxs x hx
    rw [ho] at hcharge
    cases hcharge
  | start => cases hx
  | workflow => cases hx
  | lookup => cases hx
  | usage he hhalf hmain =>
    obtain ⟨hx, -⟩ := mem_reachedEntries hx
    rw [hinput he hmain] at hx
    exact ⟨_, he, usageEntries_charged hx⟩
  | usageFails he hhalf hmain =>
    obtain ⟨hx, -⟩ := mem_reachedEntries hx
    rw [hinput he hmain] at hx
    exact ⟨_, he, usageEntries_charged hx⟩
  | gauges he hhalf hmain =>
    obtain ⟨hx, -⟩ := mem_reachedEntries hx
    rw [hinput he hmain] at hx
    exact ⟨_, he, gaugeEntries_charged hx hcharge⟩
  | credit he =>
    obtain ⟨k, a, -, rfl⟩ := mem_allocationEntriesFrom (mem_reachedEntries hx).1
    cases hcharge

/-- Every charge stands for a heartbeat delivered to the workflow of its tenant. -/
def Backed (s : State) : Prop :=
  ∀ x ∈ s.journal, x.origin.isCharge = true → ∃ t e, s.tenants x.origin.tenant = some t ∧
    t.accounting = some e ∧ ∃ hb ∈ e.history.delivered, ChargedFor hb x.origin x.transfer

theorem run_backed (hr : runSteps (step h tb) initial es = some s) : s.Backed := by
  refine run_induction (step h tb) (P := fun _ s => s.Backed) ?_ ?_ hr
  · intro x hx
    cases hx
  · intro xs s ev s' hr hold hstep x hx hcharge
    have hs := run_sound hr
    obtain ⟨new, hnew⟩ := step_journal hstep
    obtain ⟨t, e, hu, he, hb, hmem, hfor⟩ : ∃ t e, s.tenants x.origin.tenant = some t ∧
        t.accounting = some e ∧ ∃ hb ∈ e.history.delivered, ChargedFor hb x.origin x.transfer := by
      rw [← hnew] at hx
      rcases List.mem_append.mp hx with hx | hx
      · obtain ⟨w, t, o, -, hu, ha, hsent⟩ := step_new hs hstep hnew.symm hx
        obtain ⟨e, he, hb, hbatch, hfor⟩ := acts_charged hs hu ha hsent hcharge
        exact ⟨t, e, hu, he, hb, run_batch hr hu he hbatch, hfor⟩
      · exact hold x hx hcharge
    obtain ⟨t', e', hu', he', hsub⟩ := step_keeps_delivered hs hstep hu he
    exact ⟨t', e', hu', he', hb, hsub hmem, hfor⟩

end State
end CloudCredit.System
