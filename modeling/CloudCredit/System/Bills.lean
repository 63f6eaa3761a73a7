import CloudCredit.Gateway.ReportedAmounts
import CloudCredit.System.Balances
import CloudCredit.System.Routing

/-!
# What a tenant pays is what its clusters reported

Every charge goes back to a request that a gateway received from a cluster of the tenant.
So the posted debits of a quota account are a sum over requests, no two of them for one
heartbeat, and the pending debits are a sum over requests as well. A reported number is
read in 64 bits: a negative one counts as a large one.
-/
namespace CloudCredit.System

open Library TigerBeetle Domain Ledger Accounting Gateway

theorem Own.payer {h : Blake3} {p : Provisioning} {source : Source} {tr : Transfer}
    (ho : Own h p source tr) (hcharge : source.isCharge = true) :
    p.accountIDs source.resource = some tr.debitAccountID := by
  cases ho with
  | usage hg hquota => exact hquota
  | gaugeNew hid hg hquota => exact hquota
  | gaugeVoid => cases hcharge
  | provision => cases hcharge
  | credit => cases hcharge

namespace Deployment

variable {h : Blake3} {tb : Service} {D : Deployment} {es : List DeploymentEvent} {u i : Uint128}
  {t : Tenant} {r : ResourceType}

/-- A gateway received the request, and its cluster is one of the tenant. -/
def ReportedBy (es : List DeploymentEvent) (P : Platform) (u : Uint128) (req : HeartbeatRequest) :
    Prop :=
  (∃ i net, .heartbeat i net req ∈ es) ∧
    ∃ c row, parseUUID req.clusterId = some c ∧ P.clusters c = some row ∧ row.tenantID = u

/-- The heartbeat of a request. -/
def heartbeatKey (req : HeartbeatRequest) : Uint128 × UInt64 :=
  (uuidToBytes req.clusterId, req.sequenceNumber)

theorem charge_reported (hr : runSteps (step h tb) {} es = some D) {x : Entry Source}
    (hx : x ∈ D.platform.stored.state.journal) (hcharge : x.origin.isCharge = true) :
    ∃ req, ReportedBy es D.platform x.origin.tenant req ∧
      (x.transfer.amount : ℤ) = req.reported x.origin.resource % 2 ^ 64 ∧
      ∀ u c q r, x.origin = .usage u c q r → heartbeatKey req = (c, q) := by
  obtain ⟨es', hr'⟩ := run_state hr
  obtain ⟨t, e, hu, he, hb, hmem, hfor⟩ := State.run_backed hr' x hx hcharge
  obtain ⟨i, net, req, hsent, rfl, hparse, row, hrow, howner⟩ := run_routed hr _ t e hu he hb hmem
  refine ⟨req, ⟨⟨i, net, hsent⟩, _, row, hparse, hrow, howner⟩, ?_, ?_⟩
  · rw [hfor.amount, toUInt64_toNat, reported_eq]
  · intro u c q r ho
    obtain ⟨rfl, rfl⟩ := hfor.usage u c q r ho
    rfl

theorem exists_reports {α β : Type} {Q : HeartbeatRequest → Prop} (amount : α → ℕ) (key : α → β)
    (keyOf : HeartbeatRequest → β) (xs : List α) (hall : ∀ x ∈ xs, ∃ req, Q req ∧
      (amount x : ℤ) = req.reported r % 2 ^ 64 ∧ keyOf req = key x) :
    ∃ reqs : List HeartbeatRequest, (∀ req ∈ reqs, Q req) ∧ reqs.map keyOf = xs.map key ∧
      ((xs.map amount).sum : ℤ) = (reqs.map fun req => req.reported r % 2 ^ 64).sum := by
  induction xs with
  | nil => exact ⟨[], by simp, rfl, rfl⟩
  | cons x xs ih =>
    obtain ⟨req, hQ, hamount, hkey⟩ := hall x List.mem_cons_self
    obtain ⟨reqs, hQs, hkeys, hsum⟩ := ih fun y hy => hall y (List.mem_cons_of_mem _ hy)
    refine ⟨req :: reqs, ?_, ?_, ?_⟩
    · simpa [hQ] using hQs
    · rw [List.map_cons, List.map_cons, hkey, hkeys]
    · rw [List.map_cons, List.map_cons, List.sum_cons, List.sum_cons, ← hsum, ← hamount]
      exact Nat.cast_add _ _

theorem live_charged {s : State} (hs : s.Sound h) (hu : s.tenants u = some t)
    (hi : t.provisioning.accountIDs r = some i) {p : Transfer} (hp : p ∈ s.books.live)
    (hdebit : p.debitAccountID = i) : ∃ x ∈ s.journal, x.origin.isCharge = true ∧
      x.transfer = p ∧ x.origin.tenant = u ∧ x.origin.resource = r := by
  obtain ⟨hmem, hpending, -⟩ := Books.mem_live.mp hp
  obtain ⟨x, hx, -, -, hflags, -, hsame⟩ := hs.recorded.find hmem
  obtain ⟨t', hv, hown⟩ := hs.journal x hx
  rw [hflags] at hpending
  have hcharge : x.origin.isCharge = true ∧ x.transfer.flags.voidPendingTransfer = false := by
    obtain ⟨origin, transfer, answer⟩ := x
    dsimp only at hown hpending ⊢
    cases hown with
    | gaugeNew => exact ⟨rfl, rfl⟩
    | _ => cases hpending
  have hpx := hsame hcharge.2
  have hquota := hown.payer hcharge.1
  obtain ⟨htenant, hresource⟩ := (hs.quota_eq_iff hu hi hv hquota).mp (by rw [← hpx, hdebit])
  exact ⟨x, hx, hcharge.1, hpx.symm, htenant, hresource⟩

/-- Whatever the gateways, the workflows and the ledger do, a tenant pays for what its
clusters reported: the posted debits of a quota account add up the reports of different
heartbeats, and the pending debits add up reports as well. -/
theorem tenants_pay_what_was_reported (hr : runSteps (step h tb) {} es = some D)
    (hu : D.platform.stored.state.tenants u = some t)
    (hi : t.provisioning.accountIDs r = some i) :
    (∃ reqs : List HeartbeatRequest, (∀ req ∈ reqs, ReportedBy es D.platform u req) ∧
      (reqs.map heartbeatKey).Nodup ∧
      ((D.platform.stored.state.books.balance i).debitsPosted : ℤ) =
        (reqs.map fun req => req.reported r % 2 ^ 64).sum) ∧
    ∃ reqs : List HeartbeatRequest, (∀ req ∈ reqs, ReportedBy es D.platform u req) ∧
      ((D.platform.stored.state.books.balance i).debitsPending : ℤ) =
        (reqs.map fun req => req.reported r % 2 ^ 64).sum := by
  obtain ⟨es', hr'⟩ := run_state hr
  have hs := State.run_sound hr'
  constructor
  · obtain ⟨reqs, hreqs, hkeys, hsum⟩ := exists_reports (r := r) (Q := ReportedBy es D.platform u)
        (·.transfer.amount) (·.origin.pair) heartbeatKey
        (D.platform.stored.state.charges u r) fun x hx => by
      obtain ⟨hx, hc⟩ := List.mem_filter.mp hx
      have hjournal : x ∈ D.platform.stored.state.journal := List.mem_of_mem_filter hx
      obtain ⟨origin, transfer, answer⟩ := x
      cases origin with
      | usage v c q r' =>
        simp only [Source.charges, Bool.and_eq_true, decide_eq_true_eq] at hc
        obtain ⟨rfl, rfl⟩ := hc
        obtain ⟨req, hreq, hamount, hkey⟩ := charge_reported hr hjournal rfl
        exact ⟨req, hreq, hamount, hkey _ _ _ _ rfl⟩
      | _ => cases hc
    refine ⟨reqs, hreqs, ?_, ?_⟩
    · rw [hkeys]
      exact hs.charges_nodup u r
    · rw [hs.debitsPosted hu hi]
      exact hsum
  · obtain ⟨reqs, hreqs, -, hsum⟩ := exists_reports (r := r) (Q := ReportedBy es D.platform u)
        (·.amount) (fun _ => ()) (fun _ => ())
        (D.platform.stored.state.books.live.filter fun p => p.debitAccountID = i) fun p hp => by
      obtain ⟨hp, hdebit⟩ := List.mem_filter.mp hp
      obtain ⟨x, hx, hcharge, rfl, rfl, rfl⟩ := live_charged hs hu hi hp (by simpa using hdebit)
      obtain ⟨req, hreq, hamount, -⟩ := charge_reported hr hx hcharge
      exact ⟨req, hreq, hamount, rfl⟩
    exact ⟨reqs, hreqs, by rw [hs.wf.debitsPending_eq]; exact hsum⟩

/-- A cluster of a provisioned tenant is registered and reports three milliseconds. -/
def reportedUsage : List DeploymentEvent :=
  (clusterRegistered [{}] ++ [PlatformEvent.signalAccounting sampleCluster]).map .platform ++
    [.heartbeat 0 {} { clusterId := uuidString sampleCluster, sequenceNumber := 1,
                       cpuMillisecondsDelta := 3 }] ++
    ([.workflow (.receiveHeartbeat false), .workflow (.timerFires 0), .workflow (.timerBranch false),
      .submitUsage {} true] : List TenantEvent).map fun ev =>
        .platform (.stored (.system (.tenant sampleTenant ev)))

theorem reportedUsage_is_paid : ∃ D t i,
    runSteps (step .positional Reference.service) {} reportedUsage = some D ∧
      D.platform.stored.state.tenants sampleTenant = some t ∧
      t.provisioning.accountIDs .cpuHours = some i ∧
      (D.platform.stored.state.books.balance i).debitsPosted = 3 ∧
      ∃ reqs : List HeartbeatRequest,
        (∀ req ∈ reqs, ReportedBy reportedUsage D.platform sampleTenant req) ∧
        (reqs.map heartbeatKey).Nodup ∧
        (reqs.map fun req => req.reported .cpuHours % 2 ^ 64).sum = 3 := by
  obtain ⟨D, hr, hd⟩ := runSteps_any (step .positional Reference.service) {} reportedUsage
    (fun D => (D.platform.stored.state.tenants sampleTenant).any fun t =>
      (t.provisioning.accountIDs .cpuHours).any fun i =>
        (D.platform.stored.state.books.balance i).debitsPosted = 3)
    (by decide +kernel)
  simp only [Option.any_eq_true, decide_eq_true_eq] at hd
  obtain ⟨t, ht, i, hi, hthree⟩ := hd
  obtain ⟨⟨reqs, hreqs, hkeys, hsum⟩, -⟩ := tenants_pay_what_was_reported hr ht hi
  exact ⟨D, t, i, hr, ht, hi, hthree, reqs, hreqs, hkeys, by rw [← hsum, hthree]; rfl⟩

end Deployment
end CloudCredit.System
