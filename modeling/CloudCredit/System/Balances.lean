import CloudCredit.System.Sound
import CloudCredit.TigerBeetle.Reference

/-!
# What the balances of a tenant are made of

In every reachable state the posted credits of a quota account are the committed
provisioning credits and issued credits of its tenant and resource, the posted
debits are the committed usage, each heartbeat counted once, and neither the
hard limit nor the balance of a ledger is ever broken.
-/
namespace CloudCredit.System

open Library TigerBeetle Domain Ledger Accounting

namespace Source

/-- What the source loads into the wallet of `u` for `r` at provisioning. -/
def provisions (u : Uint128) (r : ResourceType) : Source → ℕ
  | provision t _ q credits => if t = u ∧ q = r then credits.toUInt64.toNat else 0
  | _ => 0

/-- What the source adds to the wallet of `u` for `r` by an issued credit. -/
def issues (u : Uint128) (r : ResourceType) : Source → ℕ
  | credit t issue => if t = u ∧ issue.resource = r then issue.amount.toUInt64.toNat else 0
  | _ => 0

/-- The source is usage of `r` by a cluster of `u`. -/
def charges (u : Uint128) (r : ResourceType) : Source → Bool
  | usage t _ _ q => t = u && q = r
  | _ => false

/-- The heartbeat of a usage transfer. -/
def pair : Source → Uint128 × UInt64
  | usage _ cluster seq _ => (cluster, seq)
  | _ => (0, 0)

end Source

namespace State

variable (s : State)

/-- The decisions by which the service committed a transfer, newest first. -/
def committed : List (Entry Source) := s.journal.filter accepted

def provisionedCredits (u : Uint128) (r : ResourceType) : ℕ :=
  (s.committed.map (·.origin.provisions u r)).sum

def issuedCredits (u : Uint128) (r : ResourceType) : ℕ :=
  (s.committed.map (·.origin.issues u r)).sum

/-- The committed usage transfers of a tenant for a resource. -/
def charges (u : Uint128) (r : ResourceType) : List (Entry Source) :=
  s.committed.filter (·.origin.charges u r)

/-- The heartbeats, as pairs of cluster and sequence number, for which a usage
transfer was committed. -/
def chargedPairs (u : Uint128) (r : ResourceType) : List (Uint128 × UInt64) :=
  ((s.charges u r).map (·.origin.pair)).dedup

/-- The amount of the first usage transfer committed for a heartbeat. -/
def firstCharge (u : Uint128) (r : ResourceType) (k : Uint128 × UInt64) : ℕ :=
  (((s.charges u r).filter (·.origin.pair = k)).getLast?.map (·.transfer.amount)).getD 0

end State

/-- A column of the books, for transfers that are no voids, summed over the journal. -/
theorem Journaled.total {L : Books} {J : List (Entry Source)} (hr : Journaled L J)
    {p : Transfer → Bool} (hp : ∀ t, p t = true → t.flags.voidPendingTransfer = false) :
    total p L.transfers =
      ((J.filter accepted).map fun x => if p x.transfer then x.transfer.amount else 0).sum := by
  unfold Journaled at hr
  generalize L.transfers = ts at hr ⊢
  generalize J.filter accepted = xs at hr ⊢
  induction hr with
  | nil => rfl
  | @cons t x ts xs hx _ ih =>
    obtain ⟨-, hflags, -, hsame⟩ := hx
    rw [total_cons, List.map_cons, List.sum_cons, ih]
    congr 1
    by_cases hv : x.transfer.flags.voidPendingTransfer = true
    · have hpt : p t = false := Bool.eq_false_iff.mpr fun h => by
        rw [← hflags, hp t h] at hv
        cases hv
      have hpx : p x.transfer = false := Bool.eq_false_iff.mpr fun h => by
        rw [hp _ h] at hv
        cases hv
      rw [hpt, hpx]
      rfl
    · rw [hsame (Bool.eq_false_iff.mpr hv)]

theorem posts_regular {t : Transfer} (ht : t.posts = true) :
    t.flags.voidPendingTransfer = false := by
  simp only [Transfer.posts, Bool.and_eq_true, Bool.not_eq_true'] at ht
  exact ht.2

namespace State

variable {h : Blake3} {tb : Service} {s : State}

/-- Two tenants never share a quota account, nor do two resources. -/
theorem Sound.quota_eq_iff (hs : s.Sound h) {u v : Uint128} {t t' : Tenant} {r q : ResourceType}
    {i j : Uint128} (hu : s.tenants u = some t) (hi : t.provisioning.accountIDs r = some i)
    (hv : s.tenants v = some t') (hj : t'.provisioning.accountIDs q = some j) :
    j = i ↔ v = u ∧ q = r := by
  constructor
  · rintro rfl
    have hacc := hs.quota_open hu hi
    rw [hs.quota_open hv hj] at hacc
    exact quotaAccount_inj (Option.some.inj hacc)
  · rintro ⟨rfl, rfl⟩
    cases hu.symm.trans hv
    exact Option.some.inj (hj.symm.trans hi)

/-- No quota account is a global one. -/
theorem global_ne_quota {L : Books} {u i j : Uint128} {r q : ResourceType} {a : AccountType}
    (hi : L.account? i = some (quotaAccount u r i)) (ha : a ≠ .tenantQuota)
    (hj : L.account? j = some (globalAccount (q, a) j)) : j ≠ i := by
  rintro rfl
  rw [hj] at hi
  exact globalAccount_ne_quotaAccount ha _ _ _ (Option.some.inj hi)

theorem Sound.live_ends (hs : s.Sound h) {p : Transfer} (hp : p ∈ s.books.live) :
    ∃ u r, s.books.account? p.debitAccountID = some (quotaAccount u r p.debitAccountID) ∧
      s.books.account? p.creditAccountID = some (globalAccount (r, .sink) p.creditAccountID) := by
  obtain ⟨hmem, hpending, -⟩ := Books.mem_live.mp hp
  obtain ⟨x, hx, -, -, hflags, -, hsame⟩ := hs.recorded.find hmem
  obtain ⟨t, ht, hown⟩ := hs.journal x hx
  rw [hflags] at hpending
  obtain ⟨origin, transfer, answer⟩ := x
  dsimp only at hown ht hpending hsame
  cases hown with
  | gaugeNew hid hg hquota hsink =>
    rw [hsame rfl]
    exact ⟨_, _, hs.quota_open ht hquota, hs.sink_open ht hsink⟩
  | _ => cases hpending

theorem Sound.credited_known (hs : s.Sound h) {x : Entry Source} (hx : x ∈ s.journal)
    {u i : Uint128} {r : ResourceType} (hacc : s.books.account? i = some (quotaAccount u r i))
    (hp : x.transfer.posts = true) (hc : x.transfer.creditAccountID = i) :
    ∃ t, s.tenants u = some t ∧ t.provisioning.accountIDs r = some i := by
  obtain ⟨t, hv, hown⟩ := hs.journal x hx
  have hknown : ∀ q, t.provisioning.accountIDs q = some i →
      ∃ t, s.tenants u = some t ∧ t.provisioning.accountIDs r = some i := by
    intro q hq
    have hopen := hs.quota_open hv hq
    rw [hacc] at hopen
    obtain ⟨rfl, rfl⟩ := quotaAccount_inj (Option.some.inj hopen)
    exact ⟨t, hv, hq⟩
  obtain ⟨x, y, answer⟩ := x
  cases hown with
  | @usage cluster seq q quota sink amount timestamp hg hquota hsink =>
    exact absurd hc (global_ne_quota hacc (by simp) (hs.sink_open hv hsink))
  | gaugeNew => simp [Transfer.posts] at hp
  | gaugeVoid => simp [Transfer.posts] at hp
  | provision hid hcredits hquota hoperator => exact hknown _ (hquota.trans (congrArg some hc))
  | credit hid hquota hoperator => exact hknown _ (hquota.trans (congrArg some hc))

theorem Sound.credit_value (hs : s.Sound h) {u : Uint128} {t : Tenant} {r : ResourceType}
    {i : Uint128} (hu : s.tenants u = some t) (hi : t.provisioning.accountIDs r = some i)
    {x : Entry Source} (hx : x ∈ s.journal) :
    (if x.transfer.posts && x.transfer.creditAccountID = i then x.transfer.amount else 0) =
      x.origin.provisions u r + x.origin.issues u r := by
  obtain ⟨t', hv, hown⟩ := hs.journal x hx
  have huuid := hs.uuid _ t' hv
  obtain ⟨x, y, answer⟩ := x
  dsimp only at hown hv huuid ⊢
  cases hown with
  | @usage cluster seq q quota sink amount timestamp hg hquota hsink =>
    have hne := global_ne_quota (hs.quota_open hu hi) (by simp) (hs.sink_open hv hsink)
    simp [Source.provisions, Source.issues, hne]
  | gaugeNew => simp [Transfer.posts, Source.provisions, Source.issues]
  | gaugeVoid => simp [Transfer.posts, Source.provisions, Source.issues]
  | @provision id q quota operator credits hid hcredits hquota hoperator =>
    have heq := hs.quota_eq_iff hu hi hv hquota
    simp only [Source.provisions, Source.issues, Transfer.posts, add_zero]
    exact if_congr (by simpa [Source.tenant] using heq) rfl rfl
  | @credit id issue quota operator hid hquota hoperator =>
    have heq := hs.quota_eq_iff hu hi hv hquota
    simp only [Source.provisions, Source.issues, Transfer.posts, zero_add]
    exact if_congr (by simpa [Source.tenant] using heq) rfl rfl

theorem Sound.debit_value (hs : s.Sound h) {u : Uint128} {t : Tenant} {r : ResourceType}
    {i : Uint128} (hu : s.tenants u = some t) (hi : t.provisioning.accountIDs r = some i)
    {x : Entry Source} (hx : x ∈ s.journal) :
    (x.transfer.posts && x.transfer.debitAccountID = i) = x.origin.charges u r := by
  obtain ⟨t', hv, hown⟩ := hs.journal x hx
  obtain ⟨x, y, answer⟩ := x
  dsimp only at hown hv ⊢
  cases hown with
  | @usage cluster seq q quota sink amount timestamp hg hquota hsink =>
    have heq := hs.quota_eq_iff hu hi hv hquota
    rw [Bool.eq_iff_iff]
    simpa [Source.charges, Transfer.posts, Source.tenant] using heq
  | gaugeNew => simp [Transfer.posts, Source.charges]
  | gaugeVoid => simp [Transfer.posts, Source.charges]
  | @provision id q quota operator credits hid hcredits hquota hoperator =>
    have hne := global_ne_quota (hs.quota_open hu hi) (by simp) (hs.operator_open hv hoperator)
    simp [Source.charges, hne]
  | @credit id issue quota operator hid hquota hoperator =>
    have hne := global_ne_quota (hs.quota_open hu hi) (by simp) (hs.operator_open hv hoperator)
    simp [Source.charges, hne]

theorem Sound.creditsPosted (hs : s.Sound h) {u : Uint128} {t : Tenant} {r : ResourceType}
    {i : Uint128} (hu : s.tenants u = some t) (hi : t.provisioning.accountIDs r = some i) :
    (s.books.balance i).creditsPosted = s.provisionedCredits u r + s.issuedCredits u r := by
  rw [hs.wf.creditsPosted_eq, hs.recorded.total fun t ht => posts_regular (by simp_all),
    provisionedCredits, issuedCredits, ← List.sum_map_add]
  congr 1
  exact List.map_congr_left fun x hx => hs.credit_value hu hi (List.mem_of_mem_filter hx)

theorem Sound.debitsPosted (hs : s.Sound h) {u : Uint128} {t : Tenant} {r : ResourceType}
    {i : Uint128} (hu : s.tenants u = some t) (hi : t.provisioning.accountIDs r = some i) :
    (s.books.balance i).debitsPosted = ((s.charges u r).map (·.transfer.amount)).sum := by
  rw [hs.wf.debitsPosted_eq, hs.recorded.total fun t ht => posts_regular (by simp_all), charges,
    sum_filter s.committed]
  congr 1
  refine List.map_congr_left fun x hx => ?_
  rw [hs.debit_value hu hi (List.mem_of_mem_filter hx)]

theorem Sound.committed_ids (hs : s.Sound h) : (s.committed.map (·.transfer.id)).Nodup := by
  have hids : s.committed.map (·.transfer.id) = s.books.transfers.map (·.id) := by
    have hr := hs.recorded
    unfold Journaled at hr
    rw [← committed] at hr
    generalize s.books.transfers = ts at hr ⊢
    generalize s.committed = xs at hr ⊢
    induction hr with
    | nil => rfl
    | cons hx _ ih => rw [List.map_cons, List.map_cons, ih, hx.1]
  rw [hids]
  exact hs.wf.transfers_nodup

theorem Sound.charge_id (hs : s.Sound h) {u : Uint128} {r : ResourceType} {x : Entry Source}
    (hx : x ∈ s.charges u r) :
    x.transfer.id = h.deriveTransferID x.origin.pair.1 x.origin.pair.2 r.ledgerID := by
  obtain ⟨hx, hc⟩ := List.mem_filter.mp hx
  obtain ⟨t', -, hown⟩ := hs.journal x (List.mem_of_mem_filter hx)
  obtain ⟨x, y, answer⟩ := x
  cases hown with
  | usage hg hquota hsink =>
    simp only [Source.charges, Bool.and_eq_true, decide_eq_true_eq] at hc
    rw [← hc.2]
    rfl
  | _ => cases hc

theorem Sound.charges_nodup (hs : s.Sound h) (u : Uint128) (r : ResourceType) :
    ((s.charges u r).map (·.origin.pair)).Nodup := by
  have hids : ((s.charges u r).map (·.transfer.id)).Nodup :=
    hs.committed_ids.sublist (List.filter_sublist.map _)
  rw [List.map_congr_left fun x hx => hs.charge_id hx] at hids
  refine List.Nodup.of_map (fun k => h.deriveTransferID k.1 k.2 r.ledgerID) ?_
  rw [List.map_map]
  exact hids

theorem Sound.firstCharge_eq (hs : s.Sound h) {u : Uint128} {r : ResourceType} {x : Entry Source}
    (hx : x ∈ s.charges u r) : s.firstCharge u r x.origin.pair = x.transfer.amount := by
  rw [firstCharge, filter_key_eq (hs.charges_nodup u r) hx]
  rfl

/-- Every heartbeat is charged at most once: the posted debits of a quota account
are the sum, over the different heartbeats for which a usage transfer was
committed, of the first amount committed for it, and there is no second one. -/
theorem charged_at_most_once (es : List SystemEvent)
    (hr : runSteps (step h tb) initial es = some s) {u : Uint128} {t : Tenant} {r : ResourceType}
    {i : Uint128} (hu : s.tenants u = some t) (hi : t.provisioning.accountIDs r = some i) :
    (s.books.balance i).debitsPosted = ((s.chargedPairs u r).map (s.firstCharge u r)).sum ∧
      ∀ k, ((s.charges u r).filter (·.origin.pair = k)).length ≤ 1 := by
  have hs := run_sound hr
  constructor
  · rw [hs.debitsPosted hu hi, chargedPairs, (hs.charges_nodup u r).dedup, List.map_map]
    congr 1
    exact List.map_congr_left fun x hx => (hs.firstCharge_eq hx).symm
  · intro k
    by_cases hk : ∃ x ∈ s.charges u r, x.origin.pair = k
    · obtain ⟨x, hx, rfl⟩ := hk
      rw [filter_key_eq (hs.charges_nodup u r) hx]
      rfl
    · have hnil : (s.charges u r).filter (·.origin.pair = k) = [] := by
        rw [List.filter_eq_nil_iff]
        exact fun x hx he => hk ⟨x, hx, by simpa using he⟩
      rw [hnil]
      exact Nat.zero_le 1

/-- A heartbeat comes twice, and the first attempt to submit it is not heard of. -/
def repeatedHeartbeat : List SystemEvent :=
  sampleProvisioning 100 20 ++ (sampleBatchOf [sampleHeartbeat 1, sampleHeartbeat 1] 0 ++
    TenantEvent.submitUsage { usageFate := .lostReply "reset" } true :: sampleSubmission).map
      (.tenant sampleTenant)

theorem repeatedHeartbeat_charged_once :
    ∃ s t i, runSteps (step .positional Reference.service) initial repeatedHeartbeat = some s ∧
      s.tenants sampleTenant = some t ∧ t.provisioning.accountIDs .cpuHours = some i ∧
      (s.books.balance i).debitsPosted = 5 ∧
      (s.books.balance i).debitsPosted = ((s.chargedPairs sampleTenant .cpuHours).map
        (s.firstCharge sampleTenant .cpuHours)).sum := by
  obtain ⟨s, hr, hp⟩ := runSteps_any (step .positional Reference.service) initial repeatedHeartbeat
    (fun s => (s.tenants sampleTenant).any fun t =>
      (t.provisioning.accountIDs .cpuHours).any fun i => (s.books.balance i).debitsPosted = 5)
    (by decide +kernel)
  simp only [Option.any_eq_true, decide_eq_true_eq] at hp
  obtain ⟨t, ht, i, hi, hfive⟩ := hp
  exact ⟨s, t, i, hr, ht, hi, hfive, (charged_at_most_once repeatedHeartbeat hr ht hi).1⟩

theorem Sound.within_limit (hs : s.Sound h) {a : Account} (ha : a ∈ s.books.accounts)
    (hcode : a.code = accountCodeFromType .tenantQuota) :
    (s.books.balance a.id).debitsPosted + (s.books.balance a.id).debitsPending ≤
      (s.books.balance a.id).creditsPosted := by
  refine hs.wf.limit a ha ?_
  rcases hs.accounts a ha with ⟨u, r, i, rfl⟩ | ⟨k, i, hk, rfl⟩
  · rfl
  · exact absurd (accountCodeFromType_injective hcode) (globalKeys_not_quota k hk)

theorem Sound.unknown_quota (hs : s.Sound h) {u i : Uint128} {r : ResourceType}
    (hacc : s.books.account? i = some (quotaAccount u r i))
    (hunknown : ∀ t, s.tenants u = some t → t.provisioning.accountIDs r ≠ some i) :
    (s.books.balance i).creditsPosted = 0 := by
  rw [hs.wf.creditsPosted_eq, hs.recorded.total fun t ht => posts_regular (by simp_all)]
  refine List.sum_eq_zero fun n hn => ?_
  obtain ⟨x, hx, rfl⟩ := List.mem_map.mp hn
  refine if_neg fun hp => ?_
  simp only [Bool.and_eq_true, decide_eq_true_eq] at hp
  obtain ⟨t, ht, hi⟩ := hs.credited_known (List.mem_of_mem_filter hx) hacc hp.1 hp.2
  exact hunknown t ht hi

/-- In every reachable state: every quota account keeps within its credits; the
posted credits of a tenant's account are its committed provisioning credits and
issued credits, and an account its tenant does not know of has none; and every
ledger balances, for posted and for pending amounts. -/
theorem hard_limit_and_conservation (es : List SystemEvent)
    (hr : runSteps (step h tb) initial es = some s) :
    (∀ a ∈ s.books.accounts, a.code = accountCodeFromType .tenantQuota →
      (s.books.balance a.id).debitsPosted + (s.books.balance a.id).debitsPending ≤
        (s.books.balance a.id).creditsPosted) ∧
    (∀ u t r i, s.tenants u = some t → t.provisioning.accountIDs r = some i →
      s.books.account? i = some (quotaAccount u r i) ∧
      (s.books.balance i).creditsPosted = s.provisionedCredits u r + s.issuedCredits u r) ∧
    (∀ u r i, s.books.account? i = some (quotaAccount u r i) →
      (∀ t, s.tenants u = some t → t.provisioning.accountIDs r ≠ some i) →
      (s.books.balance i).creditsPosted = 0) ∧
    ∀ ledger, s.books.column (·.debitsPosted) ledger = s.books.column (·.creditsPosted) ledger ∧
      s.books.column (·.debitsPending) ledger = s.books.column (·.creditsPending) ledger := by
  have hs := run_sound hr
  exact ⟨fun a ha hcode => hs.within_limit ha hcode,
    fun u t r i hu hi => ⟨hs.quota_open hu hi, hs.creditsPosted hu hi⟩,
    fun u r i hacc hunknown => hs.unknown_quota hacc hunknown,
    fun ledger => ⟨hs.wf.posted_balanced ledger, hs.wf.pending_balanced ledger⟩⟩

theorem repeatedHeartbeat_balances :
    ∃ s, runSteps (step .positional Reference.service) initial repeatedHeartbeat = some s ∧
      (∃ t i, s.tenants sampleTenant = some t ∧ t.provisioning.accountIDs .cpuHours = some i ∧
        (s.books.balance i).creditsPosted = s.provisionedCredits sampleTenant .cpuHours +
          s.issuedCredits sampleTenant .cpuHours) ∧
      ∀ ledger, s.books.column (·.debitsPosted) ledger = s.books.column (·.creditsPosted) ledger := by
  obtain ⟨s, hr, hp⟩ := runSteps_any (step .positional Reference.service) initial repeatedHeartbeat
    (fun s => (s.tenants sampleTenant).any fun t => (t.provisioning.accountIDs .cpuHours).isSome)
    (by decide +kernel)
  simp only [Option.any_eq_true] at hp
  obtain ⟨t, ht, hi⟩ := hp
  obtain ⟨i, hi⟩ := Option.isSome_iff_exists.mp hi
  obtain ⟨-, hcredits, -, hbalanced⟩ := hard_limit_and_conservation repeatedHeartbeat hr
  exact ⟨s, hr, ⟨t, i, ht, hi, (hcredits _ t .cpuHours i ht hi).2⟩, fun l => (hbalanced l).1⟩

end State
end CloudCredit.System
