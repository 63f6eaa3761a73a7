import CloudCredit.Gateway.AdminHandler
import CloudCredit.Library.Integers
import CloudCredit.System.Snapshots

/-!
# What is reported of a wallet

A cumulative resource is only ever posted and a gauge only ever reserved, so one
of the two debit columns of every quota account stays empty, and the other one is
what is used. A reading carries the low words of the balances in signed columns:
it is exact as long as the credits of the account are below 2^63, and a wallet
with more credits is reported as overdrawn.
-/
namespace CloudCredit.System

open Library TigerBeetle Domain Ledger Accounting Gateway

namespace State

variable {h : Blake3} {tb : Service} {s : State} {u i : Uint128} {r : ResourceType}

theorem Sound.debited_quota (hs : s.Sound h) {x : Entry Source} (hx : x ∈ s.journal)
    (hacc : s.books.account? i = some (quotaAccount u r i)) (hd : x.transfer.debitAccountID = i) :
    r.isGauge = !x.transfer.posts := by
  obtain ⟨t, hv, hown⟩ := hs.journal x hx
  have hsame : ∀ q, t.provisioning.accountIDs q = some i → q = r := by
    intro q hq
    have hopen := hs.quota_open hv hq
    rw [hacc] at hopen
    exact (quotaAccount_inj (Option.some.inj hopen)).2.symm
  obtain ⟨x, y, answer⟩ := x
  dsimp only at hd hv hown hsame ⊢
  cases hown with
  | usage hg hquota hsink =>
    rw [← hsame _ (hquota.trans (congrArg some hd)), hg]
    rfl
  | gaugeNew hid hg hquota hsink hpos =>
    rw [← hsame _ (hquota.trans (congrArg some hd)), hg]
    rfl
  | gaugeVoid hid hg hquota hsink =>
    rw [← hsame _ (hquota.trans (congrArg some hd)), hg]
    rfl
  | @provision id q quota operator credits hid hcredits hquota hoperator =>
    exact absurd hd (global_ne_quota hacc (by simp) (hs.operator_open hv hoperator))
  | @credit id issue quota operator hid hquota hoperator =>
    exact absurd hd (global_ne_quota hacc (by simp) (hs.operator_open hv hoperator))

theorem Sound.gauge_debitsPosted (hs : s.Sound h)
    (hacc : s.books.account? i = some (quotaAccount u r i)) (hg : r.isGauge = true) :
    (s.books.balance i).debitsPosted = 0 := by
  rw [hs.wf.debitsPosted_eq, hs.recorded.total fun t ht => posts_regular (by simp_all)]
  refine List.sum_eq_zero fun n hn => ?_
  obtain ⟨x, hx, rfl⟩ := List.mem_map.mp hn
  refine if_neg fun hp => ?_
  simp only [Bool.and_eq_true, decide_eq_true_eq] at hp
  have hkind := hs.debited_quota (List.mem_of_mem_filter hx) hacc hp.2
  rw [hg, hp.1] at hkind
  cases hkind

theorem Sound.cumulative_debitsPending (hs : s.Sound h)
    (hacc : s.books.account? i = some (quotaAccount u r i)) (hg : r.isGauge = false) :
    (s.books.balance i).debitsPending = 0 := by
  rw [hs.wf.debitsPending_eq, total, List.filter_eq_nil_iff.mpr]
  · rfl
  intro p hp hi
  obtain ⟨hmem, hpending, -⟩ := Books.mem_live.mp hp
  have hvoid := hs.wf.pending_not_void p hmem hpending
  obtain ⟨x, hx, -, -, hflags, -, hsame⟩ := hs.recorded.find hmem
  rw [hflags] at hpending hvoid
  rw [hsame hvoid] at hi
  have hkind := hs.debited_quota hx hacc (by simpa using hi)
  rw [hg, Transfer.posts, hpending] at hkind
  cases hkind

end State

/-- The reading has the values of the balance, and their difference is what the
account has left. -/
structure Exact (b : Balance) (d : QuotaSnapshotData) : Prop where
  creditsTotal : d.creditsTotal.toInt = b.creditsPosted
  debitsPosted : d.debitsPosted.toInt = b.debitsPosted
  debitsPending : d.debitsPending.toInt = b.debitsPending
  available : (d.creditsTotal - d.debitsPosted - d.debitsPending).toInt =
    b.creditsPosted - b.debitsPosted - b.debitsPending

theorem projected_exact_iff {b : Balance} (hlimit : b.debitsPosted + b.debitsPending ≤ b.creditsPosted) :
    Exact b (projected b) ↔ b.creditsPosted < 2 ^ 63 := by
  constructor
  · intro he
    have hlt := (projected b).creditsTotal.toInt_lt
    rw [he.creditsTotal] at hlt
    omega
  · intro hlt
    have hcredits : (projected b).creditsTotal.toInt = b.creditsPosted := uint128Lo_toInt hlt
    have hposted : (projected b).debitsPosted.toInt = b.debitsPosted := uint128Lo_toInt (by omega)
    have hpending : (projected b).debitsPending.toInt = b.debitsPending := uint128Lo_toInt (by omega)
    have hrest := toInt_sub_of_le (show 0 ≤ (projected b).debitsPosted.toInt by omega)
      (show _ ≤ (projected b).creditsTotal.toInt by omega)
    refine ⟨hcredits, hposted, hpending, ?_⟩
    rw [toInt_sub_of_le (by omega) (by omega), hrest, hcredits, hposted, hpending]

theorem lookupAccountBalances_finds {att : LookupAttempt} {ids : Table ResourceType Uint128}
    {L : Books} {balances : Balances} (hok : lookupAccountBalances att ids L = .ok balances)
    {r : ResourceType} {i : Uint128} (hi : ids r = some i) {a : Account}
    (ha : L.account? i = some a) : balances r = some (projected (L.balance i)) := by
  have hreads := lookupAccountBalances_reads hok
  have hfound : (balances r).isSome = true := by
    unfold lookupAccountBalances at hok
    split at hok
    · cases hok
    · cases hok
      have hmem : (a, L.balance i) ∈ att.reply.order
          (lookupAccounts L ((att.resources.order allResources).filterMap ids)) := by
        refine att.reply.mem_order.mpr (List.mem_filterMap.mpr ⟨i, ?_, by rw [ha]; rfl⟩)
        exact List.mem_filterMap.mpr ⟨r, att.resources.mem_order.mpr (by simp), hi⟩
      have hid : (a, L.balance i).1.id = i := (Books.account?_some ha).2
      simp only [lookupBalances, hi, Option.bind_some, Option.isSome_map, List.find?_isSome]
      exact ⟨_, hmem, by simpa using hid⟩
  obtain ⟨d, hd⟩ := Option.isSome_iff_exists.mp hfound
  obtain ⟨j, hj, rfl⟩ := hreads r d hd
  cases hi.symm.trans hj
  exact hd

namespace State

variable {h : Blake3} {tb : Service} {s : State} {u : Uint128} {t : Tenant} {e : Execution}

/-- A running workflow knows an account of every resource, and it is open. -/
theorem Sound.accountMap (hs : s.Sound h) (hu : s.tenants u = some t) (he : t.accounting = some e)
    (r : ResourceType) : ∃ i, e.state.accountMap r = some i ∧
      s.books.account? i = some (quotaAccount u r i) := by
  have ht := hs.tenants u t hu
  obtain ⟨i, hi, hacc⟩ := ht.known.late (by rw [ht.completed e he]; rfl) r
  rw [hs.uuid u t hu] at hacc
  rw [show e.state.accountMap = t.provisioning.accountIDs from (ht.handed e he).tenant.accountMap]
  exact ⟨i, hi, hacc⟩

theorem Sound.quota_limit (hs : s.Sound h) {i : Uint128} {r : ResourceType}
    (hacc : s.books.account? i = some (quotaAccount u r i)) :
    (s.books.balance i).debitsPosted + (s.books.balance i).debitsPending ≤
      (s.books.balance i).creditsPosted :=
  hs.within_limit (Books.account?_some hacc).1 rfl

/-- A reading has every resource of the tenant with the balance of the tenant's own
account, in whatever order the accounts are returned, and its values are exact
exactly if the credits of that account are below 2^63. -/
theorem snapshots_exact_iff (es : List SystemEvent) (hr : runSteps (step h tb) initial es = some s)
    (hu : s.tenants u = some t) (he : t.accounting = some e) {att : LookupAttempt}
    {balances : Balances} (hok : lookupAccountBalances att e.state.accountMap s.books = .ok balances)
    (r : ResourceType) :
    ∃ i d, e.state.accountMap r = some i ∧ s.books.account? i = some (quotaAccount u r i) ∧
      balances r = some d ∧
      (Exact (s.books.balance i) d ↔ (s.books.balance i).creditsPosted < 2 ^ 63) := by
  have hs := run_sound hr
  obtain ⟨i, hi, hacc⟩ := hs.accountMap hu he r
  exact ⟨i, _, hi, hacc, lookupAccountBalances_finds hok hi hacc,
    projected_exact_iff (hs.quota_limit hacc)⟩

theorem sampleProvisioning_read_exactly :
    ∃ s t e balances i d,
      runSteps (step .positional Reference.service) initial (sampleProvisioning 8 20) = some s ∧
      s.tenants sampleTenant = some t ∧ t.accounting = some e ∧
      lookupAccountBalances {} e.state.accountMap s.books = .ok balances ∧
      e.state.accountMap .cpuHours = some i ∧ balances .cpuHours = some d ∧
      (s.books.balance i).creditsPosted = 8 ∧ Exact (s.books.balance i) d := by
  obtain ⟨s, hr, hp⟩ := runSteps_any (step .positional Reference.service) initial
    (sampleProvisioning 8 20) (fun s => (s.tenants sampleTenant).any fun t => t.accounting.any fun e =>
      (e.state.accountMap .cpuHours).any fun i => (s.books.balance i).creditsPosted = 8)
    (by decide +kernel)
  simp only [Option.any_eq_true, decide_eq_true_eq] at hp
  obtain ⟨t, ht, e, he, i, hi, hcredits⟩ := hp
  have hok : lookupAccountBalances {} e.state.accountMap s.books = .ok _ := rfl
  obtain ⟨j, d, hj, -, hd, hexact⟩ :=
    snapshots_exact_iff (sampleProvisioning 8 20) hr ht he hok .cpuHours
  cases hi.symm.trans hj
  refine ⟨s, t, e, _, i, d, hr, ht, he, hok, hi, hd, hcredits, hexact.mpr ?_⟩
  rw [hcredits]
  decide

/-- A tenant with credits is issued the largest amount there is. -/
def largestIssue : List SystemEvent :=
  sampleProvisioning 8 20 ++ ([.workflow (.update { sampleCredit with amount := Int64.maxValue }),
    .credit 0 {} true, .workflow (.creditDeliver 0)] : List TenantEvent).map (.tenant sampleTenant)

/-- The wallet with the most credits is read as one with less than none. -/
theorem largestIssue_read_as_negative :
    ∃ s t e balances i d,
      runSteps (step .positional Reference.service) initial largestIssue = some s ∧
      s.tenants sampleTenant = some t ∧ t.accounting = some e ∧
      lookupAccountBalances {} e.state.accountMap s.books = .ok balances ∧
      e.state.accountMap .cpuHours = some i ∧ balances .cpuHours = some d ∧
      (s.books.balance i).creditsPosted = 2 ^ 63 + 7 ∧ d.creditsTotal < 0 ∧
      d.creditsTotal - d.debitsPosted - d.debitsPending < 0 := by
  obtain ⟨s, hr, hp⟩ := runSteps_any (step .positional Reference.service) initial largestIssue
    (fun s => (s.tenants sampleTenant).any fun t => t.accounting.any fun e =>
      (lookupAccountBalances {} e.state.accountMap s.books).toOption.any fun balances =>
        (e.state.accountMap .cpuHours).any fun i => (balances .cpuHours).any fun d =>
          (s.books.balance i).creditsPosted = 2 ^ 63 + 7 && d.creditsTotal < 0 &&
            d.creditsTotal - d.debitsPosted - d.debitsPending < 0) (by decide +kernel)
  simp only [Option.any_eq_true, Bool.and_eq_true, decide_eq_true_eq] at hp
  obtain ⟨t, ht, e, he, balances, hb, i, hi, d, hd, ⟨hcredits, htotal⟩, havailable⟩ := hp
  exact ⟨s, t, e, balances, i, d, hr, ht, he, congrArg Except.ok (Option.some.inj hb), hi, hd,
    hcredits, htotal, havailable⟩

end State

/-- What is used and what is available add up to the limit. -/
structure AddsUp (q : QuotaInfo) : Prop where
  sum : q.used.toInt + q.available.toInt = q.limit.toInt
  nonneg : 0 ≤ q.used.toInt
  within : q.used.toInt ≤ q.limit.toInt

/-- The row of a reading, with its generated column. -/
def snapshotRow (r : ResourceType) (d : QuotaSnapshotData) : QuotaSnapshot where
  resourceType := r.name
  creditsTotal := d.creditsTotal
  debitsPosted := d.debitsPosted
  debitsPending := d.debitsPending
  available := some (d.creditsTotal - d.debitsPosted - d.debitsPending)

/-- The debits of an account are all in the column of its kind of resource. -/
def OneColumn (r : ResourceType) (b : Balance) : Prop :=
  (r.isGauge = false → b.debitsPending = 0) ∧ (r.isGauge = true → b.debitsPosted = 0)

theorem addsUp_of_exact {b : Balance} {d : QuotaSnapshotData} {r : ResourceType} (hd : Exact b d)
    (hlimit : b.debitsPosted + b.debitsPending ≤ b.creditsPosted) (hone : OneColumn r b)
    {q : QuotaInfo} (hused : q.used = if r.isGauge then d.debitsPending else d.debitsPosted)
    (htotal : q.limit = d.creditsTotal)
    (havailable : q.available = d.creditsTotal - d.debitsPosted - d.debitsPending) : AddsUp q := by
  have hsum := hd.available
  have hcredits := hd.creditsTotal
  have hposted := hd.debitsPosted
  have hpending := hd.debitsPending
  rw [← havailable] at hsum
  rw [← htotal] at hcredits
  cases hg : r.isGauge with
  | true =>
    have hzero := hone.2 hg
    rw [hg, if_pos rfl] at hused
    rw [← hused] at hpending
    constructor <;> omega
  | false =>
    have hzero := hone.1 hg
    rw [hg, if_neg (by simp)] at hused
    rw [← hused] at hposted
    constructor <;> omega

/-- What a handler says of a resource when it sees the reading or its rows. -/
def ReportOf (balances : Balances) (q : QuotaInfo) : Prop :=
  ∃ r d, balances r = some d ∧ (q = creditQuotaInfo r d ∨
    ∃ exceeded, q = (snapshotRow r d).toQuotaInfo exceeded)

/-- The rows are those of a reading. -/
def RowsOf (balances : Balances) (rows : List QuotaSnapshot) : Prop :=
  ∀ row ∈ rows, ∃ r d, balances r = some d ∧ row = snapshotRow r d

theorem issueTenantCredit_reports {order : IterationOrder ResourceType} {balances : Balances}
    {req : IssueTenantCreditRequest} {quotas : List QuotaInfo}
    (hok : issueTenantCredit order (fun _ => .ok (.ok ⟨balances⟩)) req = .ok quotas) :
    ∀ q ∈ quotas, ReportOf balances q := by
  unfold issueTenantCredit at hok
  split_ifs at hok
  cases hok
  intro q hq
  obtain ⟨r, -, hr⟩ := List.mem_filterMap.mp hq
  obtain ⟨d, hd, rfl⟩ := Option.map_eq_some_iff.mp hr
  exact ⟨r, d, hd, .inl rfl⟩

theorem RowsOf.reports {balances : Balances} {rows : List QuotaSnapshot} (hrows : RowsOf balances rows)
    (exceeded : Table ResourceType Bool) :
    ∀ q ∈ rows.map (·.toQuotaInfo exceeded), ReportOf balances q := by
  intro q hq
  obtain ⟨row, hrow, rfl⟩ := List.mem_map.mp hq
  obtain ⟨r, d, hd, rfl⟩ := hrows row hrow
  exact ⟨r, d, hd, .inr ⟨exceeded, rfl⟩⟩

theorem listTenantQuotas_reports {balances : Balances} {rows : List QuotaSnapshot}
    (hrows : RowsOf balances rows) {parseTenantID : Except String Uint128} {quotas : List QuotaInfo}
    (hok : listTenantQuotas parseTenantID (fun _ => .ok rows) = .ok quotas) :
    ∀ q ∈ quotas, ReportOf balances q := by
  unfold listTenantQuotas at hok
  cases parseTenantID with
  | error cause => cases hok
  | ok tenantUUID =>
    cases hok
    exact hrows.reports Table.empty

theorem queryWorkflowState_reports {balances : Balances} {rows : List QuotaSnapshot}
    (hrows : RowsOf balances rows) {c : Calls} (hc : c.getQuotaSnapshots = .ok rows) {ack : UInt64}
    {quotas : List QuotaInfo} (hok : queryWorkflowState c = .ok (ack, quotas)) :
    ∀ q ∈ quotas, ReportOf balances q := by
  simp only [queryWorkflowState, hc] at hok
  split at hok
  · cases hok
  · cases hok
  · split at hok
    · rename_i snapshots heq
      cases heq
      cases hok
      exact hrows.reports _
    · cases hok
      intro q hq
      cases hq

namespace State

variable {h : Blake3} {tb : Service} {s : State}

theorem Sound.oneColumn (hs : s.Sound h) {u i : Uint128} {r : ResourceType}
    (hacc : s.books.account? i = some (quotaAccount u r i)) : OneColumn r (s.books.balance i) :=
  ⟨hs.cumulative_debitsPending hacc, hs.gauge_debitsPosted hacc⟩

theorem Sound.reported_addsUp (hs : s.Sound h) {u : Uint128} {t : Tenant} {e : Execution}
    (hu : s.tenants u = some t) (he : t.accounting = some e)
    (hsmall : ∀ r i, e.state.accountMap r = some i → (s.books.balance i).creditsPosted < 2 ^ 63)
    {att : LookupAttempt} {balances : Balances}
    (hok : lookupAccountBalances att e.state.accountMap s.books = .ok balances) {q : QuotaInfo}
    (hq : ReportOf balances q) : AddsUp q := by
  obtain ⟨r, d, hd, hq⟩ := hq
  obtain ⟨i, hi, hacc⟩ := hs.accountMap hu he r
  rw [lookupAccountBalances_finds hok hi hacc] at hd
  obtain rfl := Option.some.inj hd
  have hlimit := hs.quota_limit hacc
  have hexact := (projected_exact_iff hlimit).mpr (hsmall r i hi)
  rcases hq with rfl | ⟨exceeded, rfl⟩
  · exact addsUp_of_exact hexact hlimit (hs.oneColumn hacc) rfl rfl rfl
  · refine addsUp_of_exact hexact hlimit (hs.oneColumn hacc) ?_ rfl rfl
    simp only [QuotaSnapshot.toQuotaInfo, snapshotRow, isGaugeName, ResourceType.ofName?_name,
      Option.any_some]

/-- In every reachable state, the debits of every quota account are in one column:
nothing is pending for a cumulative resource and nothing posted for a gauge. So
whatever the three handlers report of a reading of a tenant's accounts, with
balances below 2^63, what is used and what is available add up to the limit. -/
theorem used_and_available_are_the_limit (es : List SystemEvent)
    (hr : runSteps (step h tb) initial es = some s) :
    (∀ u r i, s.books.account? i = some (quotaAccount u r i) →
      (r.isGauge = false → (s.books.balance i).debitsPending = 0) ∧
      (r.isGauge = true → (s.books.balance i).debitsPosted = 0)) ∧
    ∀ u t e, s.tenants u = some t → t.accounting = some e →
      (∀ r i, e.state.accountMap r = some i → (s.books.balance i).creditsPosted < 2 ^ 63) →
      ∀ att balances, lookupAccountBalances att e.state.accountMap s.books = .ok balances →
        (∀ order req quotas,
          issueTenantCredit order (fun _ => .ok (.ok ⟨balances⟩)) req = .ok quotas →
          ∀ q ∈ quotas, AddsUp q) ∧
        ∀ rows, RowsOf balances rows →
          (∀ parseTenantID quotas,
            listTenantQuotas parseTenantID (fun _ => .ok rows) = .ok quotas →
            ∀ q ∈ quotas, AddsUp q) ∧
          ∀ c ack quotas, c.getQuotaSnapshots = .ok rows →
            queryWorkflowState c = .ok (ack, quotas) → ∀ q ∈ quotas, AddsUp q := by
  have hs := run_sound hr
  refine ⟨fun u r i hacc => hs.oneColumn hacc, ?_⟩
  intro u t e hu he hsmall att balances hok
  have hadds : ∀ q, ReportOf balances q → AddsUp q :=
    fun q hq => hs.reported_addsUp hu he hsmall hok hq
  refine ⟨fun order req quotas hissue q hq => hadds q (issueTenantCredit_reports hissue q hq), ?_⟩
  intro rows hrows
  exact ⟨fun _ quotas hlist q hq => hadds q (listTenantQuotas_reports hrows hlist q hq),
    fun c ack quotas hc hquery q hq => hadds q (queryWorkflowState_reports hrows hc hquery q hq)⟩

/-- A heartbeat is charged and its nodes are reserved. -/
def chargedBatch : List SystemEvent :=
  sampleProvisioning 100 20 ++
    (sampleBatchOf [sampleHeartbeat 1] 0 ++ sampleSubmission).map (.tenant sampleTenant)

theorem chargedBatch_adds_up :
    ∃ s t e i balances quotas,
      runSteps (step .positional Reference.service) initial chargedBatch = some s ∧
      s.tenants sampleTenant = some t ∧ t.accounting = some e ∧
      e.state.accountMap .activeNodes = some i ∧ (s.books.balance i).debitsPending = 1 ∧
      lookupAccountBalances {} e.state.accountMap s.books = .ok balances ∧
      issueTenantCredit (.listed _) (fun _ => .ok (.ok ⟨balances⟩)) ⟨"cpu_hours", 1, ""⟩ =
        .ok quotas ∧ (∀ q ∈ quotas, AddsUp q) ∧
      (ResourceType.isGauge .activeNodes = true → (s.books.balance i).debitsPosted = 0) := by
  obtain ⟨s, hr, hp⟩ := runSteps_any (step .positional Reference.service) initial chargedBatch
    (fun s => (s.tenants sampleTenant).any fun t => t.accounting.any fun e =>
      (e.state.accountMap .activeNodes).any fun i => (s.books.balance i).debitsPending = 1 &&
        allResources.all fun r => (e.state.accountMap r).all fun i =>
          (s.books.balance i).creditsPosted < 2 ^ 63) (by decide +kernel)
  simp only [Option.any_eq_true, Bool.and_eq_true, decide_eq_true_eq, List.all_eq_true,
    Option.all_eq_true] at hp
  obtain ⟨t, ht, e, he, i, hi, hpending, hsmall⟩ := hp
  obtain ⟨hcolumn, hreports⟩ := used_and_available_are_the_limit chargedBatch hr
  have hacc := (run_sound hr).accountMap ht he .activeNodes
  rw [hi] at hacc
  obtain ⟨j, ⟨⟩, hopen⟩ := hacc
  exact ⟨s, t, e, i, _, _, hr, ht, he, hi, hpending, rfl, rfl,
    (hreports _ t e ht he (fun r j hj => hsmall r (by simp) j hj) {} _ rfl).1 (.listed _)
      ⟨"cpu_hours", 1, ""⟩ _ rfl,
    (hcolumn _ _ i hopen).2⟩

end State
end CloudCredit.System
