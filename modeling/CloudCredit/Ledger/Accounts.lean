import CloudCredit.TigerBeetle.Requests
import CloudCredit.Domain.Resource

/-!
# Creating accounts

The operator and sink accounts of every ledger are created at server start, the
quota accounts of a tenant when it is provisioned. Only the quota accounts carry
the hard limit. `rand` is the supply of `RandomID`.
-/
namespace CloudCredit.Ledger

open TigerBeetle Domain

/-- Identifiers of the global accounts; only operators and sinks have one. -/
abbrev GlobalAccounts := ResourceType → AccountType → Option Uint128

inductive AccountError
  | createGlobal (cause : String)
  | global (resource : ResourceType) (accountType : AccountType) (result : CreateAccountResult)
  | createTenant (tenantUUID : Uint128) (cause : String)
  | tenant (resource : ResourceType) (result : CreateAccountResult)
  deriving DecidableEq

/-- The keys of the global accounts in the order of the two loops. -/
def globalKeys : List (ResourceType × AccountType) :=
  allResources.flatMap fun r => [(r, .operator), (r, .sink)]

theorem globalKeys_not_quota : ∀ k ∈ globalKeys, k.2 ≠ .tenantQuota := by
  decide

def globalAccount (key : ResourceType × AccountType) (id : Uint128) : Account where
  id := id
  ledger := key.1.ledgerID
  code := accountCodeFromType key.2

def quotaAccount (tenantUUID : Uint128) (r : ResourceType) (id : Uint128) : Account where
  id := id
  ledger := r.ledgerID
  code := accountCodeFromType .tenantQuota
  flags := { debitsMustNotExceedCredits := true, history := true }
  userData128 := tenantUUID

theorem quotaAccount_inj {u v i : Uint128} {r q : ResourceType}
    (h : quotaAccount u r i = quotaAccount v q i) : u = v ∧ r = q := by
  simp only [quotaAccount, Account.mk.injEq] at h
  exact ⟨h.2.2.2.2, ResourceType.ledgerID_injective h.2.1⟩

theorem globalAccount_ne_quotaAccount {k : ResourceType × AccountType} (hk : k.2 ≠ .tenantQuota)
    (i u : Uint128) (r : ResourceType) : globalAccount k i ≠ quotaAccount u r i := by
  intro h
  simp only [globalAccount, quotaAccount, Account.mk.injEq] at h
  exact hk (accountCodeFromType_injective h.2.2.1)

/-- Give every key its identifier: the one provided, or the next random one. -/
def chooseIDs {κ : Type} (existing : κ → Option Uint128) (rand : ℕ → Uint128) :
    ℕ → List κ → List (κ × Uint128)
  | _, [] => []
  | n, k :: ks => (k, (existing k).getD (rand n)) :: chooseIDs existing rand (n + 1) ks

/-- The identifier chosen for a key, as the returned map has it. -/
def idOf {κ : Type} [DecidableEq κ] (ids : List (κ × Uint128)) (k : κ) : Option Uint128 :=
  (ids.find? (·.1 = k)).map Prod.snd

/-- Any failure other than `exists` ends the call with an error. -/
def checkAccountResults {κ ε : Type} (keys : List κ) (error : κ → CreateAccountResult → ε)
    (missing : ε) : List (ℕ × CreateAccountResult) → Except ε Unit
  | [] => .ok ()
  | r :: rs =>
    if r.2 ≠ .ok ∧ r.2 ≠ .exists then
      match keys[r.1]? with
      | some k => .error (error k r.2)
      | none => .error missing
    else checkAccountResults keys error missing rs

def createGlobalAccounts (tb : Service) (fate : Fate) (rand : ℕ → Uint128)
    (idMap : GlobalAccounts) (L : Books) : Except AccountError GlobalAccounts × Books :=
  let ids := chooseIDs (fun k => idMap k.1 k.2) rand 0 globalKeys
  match tb.requestAccounts fate L (ids.map fun x => globalAccount x.1 x.2) with
  | (.error cause, L') => (.error (.createGlobal cause), L')
  | (.ok results, L') =>
    ((checkAccountResults (ids.map Prod.fst) (fun k r => .global k.1 k.2 r)
        (.createGlobal "index out of range") results).map fun _ r a => idOf ids (r, a), L')

def createTenantQuotaAccounts (tb : Service) (fate : Fate) (rand : ℕ → Uint128)
    (tenantUUID : Uint128) (existingIDs : ResourceType → Option Uint128) (L : Books) :
    Except AccountError (ResourceType → Option Uint128) × Books :=
  let ids := chooseIDs existingIDs rand 0 allResources
  match tb.requestAccounts fate L (ids.map fun x => quotaAccount tenantUUID x.1 x.2) with
  | (.error cause, L') => (.error (.createTenant tenantUUID cause), L')
  | (.ok results, L') =>
    ((checkAccountResults (ids.map Prod.fst) (fun r a => .tenant r a)
        (.createTenant tenantUUID "index out of range") results).map fun _ r => idOf ids r, L')

/-- A balance in the 64-bit columns of the ledger package. -/
structure BalanceSnapshot where
  creditsPosted : UInt64
  debitsPosted : UInt64
  debitsPending : UInt64
  deriving DecidableEq

/-- The low word of a 128-bit amount. -/
def uint128Lo (n : ℕ) : UInt64 := UInt64.ofNat n

/-- The service's reply to a lookup: the accounts it found, with their balances. -/
def lookupAccounts (L : Books) (ids : List Uint128) : List (Account × Balance) :=
  ids.filterMap fun i => (L.account? i).map fun a => (a, L.balance i)

/-- Match the accounts of a reply with the resources they were asked for. -/
def lookupBalances (accounts : List (Account × Balance))
    (accountIDs : ResourceType → Option Uint128) (r : ResourceType) : Option BalanceSnapshot :=
  (accountIDs r).bind fun wantID => (accounts.find? (·.1.id = wantID)).map fun acc =>
    ⟨uint128Lo acc.2.creditsPosted, uint128Lo acc.2.debitsPosted, uint128Lo acc.2.debitsPending⟩

theorem checkAccountResults_ok {κ ε : Type} {keys : List κ} {error : κ → CreateAccountResult → ε}
    {missing : ε} {rs : List (ℕ × CreateAccountResult)}
    (h : checkAccountResults keys error missing rs = .ok ()) :
    ∀ r ∈ rs, r.2 = .ok ∨ r.2 = .exists := by
  induction rs with
  | nil => simp
  | cons r rs ih =>
    simp only [checkAccountResults] at h
    split_ifs at h with hbad
    · split at h <;> cases h
    · refine List.forall_mem_cons.mpr ⟨?_, ih h⟩
      by_contra hcon
      exact hbad (not_or.mp hcon)

theorem answers_of_failures {rs : List CreateAccountResult}
    (h : ∀ f ∈ failures .ok rs, f.2 = .ok ∨ f.2 = .exists) :
    ∀ r ∈ rs, r = .ok ∨ r = .exists := by
  intro r hr
  by_cases hok : r = .ok
  · exact .inl hok
  · obtain ⟨i, hi⟩ := mem_failuresFrom .ok (n := 0) hr hok
    exact h _ hi

theorem map_fst_chooseIDs {κ : Type} (existing : κ → Option Uint128) (rand : ℕ → Uint128) (n : ℕ)
    (ks : List κ) : (chooseIDs existing rand n ks).map Prod.fst = ks := by
  induction ks generalizing n with
  | nil => rfl
  | cons k ks ih => simp [chooseIDs, ih]

theorem idOf_mem {κ : Type} [DecidableEq κ] {ids : List (κ × Uint128)} {k : κ} {i : Uint128}
    (h : idOf ids k = some i) : (k, i) ∈ ids := by
  unfold idOf at h
  obtain ⟨x, hx, rfl⟩ := Option.map_eq_some_iff.mp h
  have hk : x.1 = k := by simpa using List.find?_some hx
  rw [← hk]
  exact List.mem_of_find?_eq_some hx

theorem idOf_chooseIDs {κ : Type} [DecidableEq κ] (existing : κ → Option Uint128)
    (rand : ℕ → Uint128) (n : ℕ) {ks : List κ} {k : κ} (hk : k ∈ ks) :
    ∃ i, idOf (chooseIDs existing rand n ks) k = some i := by
  have hmem : k ∈ (chooseIDs existing rand n ks).map Prod.fst := by rwa [map_fst_chooseIDs]
  obtain ⟨x, hx, rfl⟩ := List.mem_map.mp hmem
  unfold idOf
  cases hf : (chooseIDs existing rand n ks).find? (·.1 = x.1) with
  | some y => exact ⟨y.2, rfl⟩
  | none => simpa using List.find?_eq_none.mp hf x hx

section Spec

variable (tb : Service) (fate : Fate) (rand : ℕ → Uint128) {L : Books}

theorem createGlobalAccounts_ok {idMap : GlobalAccounts} {g : GlobalAccounts}
    (h : (createGlobalAccounts tb fate rand idMap L).1 = .ok g) (r : ResourceType)
    {a : AccountType} (ha : a ≠ .tenantQuota) :
    ∃ i, g r a = some i ∧
      (createGlobalAccounts tb fate rand idMap L).2.account? i = some (globalAccount (r, a) i) := by
  have hkey : (r, a) ∈ globalKeys := by
    cases r <;> cases a <;> first | exact absurd rfl ha | decide
  obtain ⟨i, hi⟩ := idOf_chooseIDs (fun k => idMap k.1 k.2) rand 0 hkey
  cases fate with
  | lostRequest e => cases h
  | lostReply e => cases h
  | answered =>
    simp only [createGlobalAccounts, Service.requestAccounts] at h ⊢
    cases hc : checkAccountResults ((chooseIDs (fun k => idMap k.1 k.2) rand 0 globalKeys).map Prod.fst)
        (fun k r => AccountError.global k.1 k.2 r) (.createGlobal "index out of range")
        (failures .ok (tb.createAccounts L ((chooseIDs (fun k => idMap k.1 k.2) rand 0
          globalKeys).map fun x => globalAccount x.1 x.2)).1) with
    | error e =>
      rw [hc] at h
      cases h
    | ok u =>
      rw [hc] at h
      cases h
      refine ⟨i, hi, ?_⟩
      have hmem := List.mem_map_of_mem (f := fun x => globalAccount x.1 x.2) (idOf_mem hi)
      exact tb.createAccounts_found (answers_of_failures (checkAccountResults_ok hc)) hmem

theorem createTenantQuotaAccounts_ok {tenantUUID : Uint128}
    {existingIDs m : ResourceType → Option Uint128}
    (h : (createTenantQuotaAccounts tb fate rand tenantUUID existingIDs L).1 = .ok m)
    (r : ResourceType) :
    ∃ i, m r = some i ∧
      (createTenantQuotaAccounts tb fate rand tenantUUID existingIDs L).2.account? i =
        some (quotaAccount tenantUUID r i) := by
  obtain ⟨i, hi⟩ := idOf_chooseIDs existingIDs rand 0 (mem_allResources r)
  cases fate with
  | lostRequest e => cases h
  | lostReply e => cases h
  | answered =>
    simp only [createTenantQuotaAccounts, Service.requestAccounts] at h ⊢
    cases hc : checkAccountResults ((chooseIDs existingIDs rand 0 allResources).map Prod.fst)
        (fun r a => AccountError.tenant r a) (.createTenant tenantUUID "index out of range")
        (failures .ok (tb.createAccounts L ((chooseIDs existingIDs rand 0 allResources).map
          fun x => quotaAccount tenantUUID x.1 x.2)).1) with
    | error e =>
      rw [hc] at h
      cases h
    | ok u =>
      rw [hc] at h
      cases h
      refine ⟨i, hi, ?_⟩
      have hmem := List.mem_map_of_mem (f := fun x => quotaAccount tenantUUID x.1 x.2) (idOf_mem hi)
      exact tb.createAccounts_found (answers_of_failures (checkAccountResults_ok hc)) hmem

/-- The next random identifiers are usable, differ, and belong to no account. -/
def NewIDs (L : Books) (rand : ℕ → Uint128) (n : ℕ) : Prop :=
  (∀ k ∈ List.range n, (rand k).usable = true ∧ L.account? (rand k) = none) ∧
    ((List.range n).map rand).Nodup

instance (L : Books) (rand : ℕ → Uint128) (n : ℕ) : Decidable (NewIDs L rand n) :=
  inferInstanceAs (Decidable (_ ∧ _))

theorem map_snd_chooseIDs {κ : Type} (n : ℕ) (ks : List κ) :
    (chooseIDs (fun _ => none) rand n ks).map Prod.snd = (List.range' n ks.length).map rand := by
  induction ks generalizing n with
  | nil => rfl
  | cons k ks ih => simp [chooseIDs, ih, List.range'_succ]

theorem NewIDs.chosen {κ : Type} (f : κ → Uint128 → Account) (ks : List κ) {rand : ℕ → Uint128}
    (hnew : NewIDs L rand ks.length) (hid : ∀ k i, (f k i).id = i)
    (hvalid : ∀ k i, i.usable = true → (f k i).valid = true) :
    (∀ a ∈ (chooseIDs (fun _ => none) rand 0 ks).map fun x => f x.1 x.2,
        a.valid = true ∧ L.account? a.id = none) ∧
      (((chooseIDs (fun _ => none) rand 0 ks).map fun x => f x.1 x.2).map (·.id)).Nodup := by
  have hids := map_snd_chooseIDs rand 0 ks
  rw [← List.range_eq_range'] at hids
  constructor
  · intro a ha
    obtain ⟨x, hx, rfl⟩ := List.mem_map.mp ha
    have hmem := List.mem_map_of_mem (f := Prod.snd) hx
    rw [hids] at hmem
    obtain ⟨k, hk, hxk⟩ := List.mem_map.mp hmem
    obtain ⟨husable, hnone⟩ := hnew.1 k hk
    rw [hxk] at husable hnone
    exact ⟨hvalid _ _ husable, by rw [hid]; exact hnone⟩
  · rw [List.map_map]
    have hcomp : ((·.id) ∘ fun x : κ × Uint128 => f x.1 x.2) = Prod.snd := by
      funext x
      exact hid _ _
    rw [hcomp, hids]
    exact hnew.2

theorem quotaAccount_valid (tenantUUID : Uint128) (r : ResourceType) {i : Uint128}
    (hi : i.usable = true) : (quotaAccount tenantUUID r i).valid = true := by
  have hledger : r.ledgerID ≠ 0 := by cases r <;> decide
  have hcode : accountCodeFromType .tenantQuota ≠ 0 := by decide
  simp [Account.valid, quotaAccount, hi, hledger, hcode]

theorem globalAccount_valid (k : ResourceType × AccountType) {i : Uint128} (hi : i.usable = true) :
    (globalAccount k i).valid = true := by
  have hledger : k.1.ledgerID ≠ 0 := by cases k.1 <;> decide
  have hcode : accountCodeFromType k.2 ≠ 0 := by cases k.2 <;> decide
  simp [Account.valid, globalAccount, hi, hledger, hcode]

theorem createTenantQuotaAccounts_new (tenantUUID : Uint128) (hnew : NewIDs L rand 3) :
    ∃ m, (createTenantQuotaAccounts tb .answered rand tenantUUID (fun _ => none) L).1 = .ok m := by
  obtain ⟨hvalid, hnodup⟩ := NewIDs.chosen (quotaAccount tenantUUID) allResources hnew
    (fun _ _ => rfl) fun r _ hi => quotaAccount_valid tenantUUID r hi
  have hok := tb.createAccounts_new hvalid hnodup
  simp only [createTenantQuotaAccounts, Service.requestAccounts, failures]
  rw [failuresFrom_nil _ 0 hok]
  exact ⟨_, rfl⟩

theorem requestAccounts_chosen {κ : Type} (f : κ → Uint128 → Account) (ks : List κ)
    (hid : ∀ k i, (f k i).id = i) (hvalid : ∀ k i, i.usable = true → (f k i).valid = true) :
    ∃ reply, ∃ as : List Account, (∀ a ∈ as, ∃ k i, a = f k i) ∧
      ∀ L : Books, NewIDs L rand ks.length →
        tb.requestAccounts fate L ((chooseIDs (fun _ => none) rand 0 ks).map fun x => f x.1 x.2) =
          (reply, { L with accounts := L.accounts ++ as }) := by
  obtain ⟨reply, as, has, hopened⟩ := tb.requestAccounts_opened fate
    ((chooseIDs (fun _ => none) rand 0 ks).map fun x => f x.1 x.2)
  refine ⟨reply, as, fun a ha => ?_, fun L hnew => ?_⟩
  · obtain ⟨x, -, rfl⟩ := List.mem_map.mp (has ha)
    exact ⟨x.1, x.2, rfl⟩
  · obtain ⟨hfresh, hnodup⟩ := NewIDs.chosen f ks hnew hid hvalid
    exact hopened L hfresh hnodup

theorem createTenantQuotaAccounts_opened (tenantUUID : Uint128) : ∃ reply, ∃ as : List Account,
    (∀ a ∈ as, ∃ r i, a = quotaAccount tenantUUID r i) ∧ ∀ L : Books, NewIDs L rand 3 →
      createTenantQuotaAccounts tb fate rand tenantUUID (fun _ => none) L =
        (reply, { L with accounts := L.accounts ++ as }) := by
  obtain ⟨reply, as, has, hrequest⟩ := requestAccounts_chosen tb fate rand
    (quotaAccount tenantUUID) allResources (fun _ _ => rfl)
    fun r _ hi => quotaAccount_valid tenantUUID r hi
  cases reply with
  | error cause =>
    refine ⟨.error (.createTenant tenantUUID cause), as, has, fun L hnew => ?_⟩
    simp only [createTenantQuotaAccounts, hrequest L hnew]
  | ok results =>
    refine ⟨(checkAccountResults ((chooseIDs (fun _ => none) rand 0 allResources).map Prod.fst)
        (fun r a => .tenant r a) (.createTenant tenantUUID "index out of range") results).map
          fun _ r => idOf (chooseIDs (fun _ => none) rand 0 allResources) r,
      as, has, fun L hnew => ?_⟩
    simp only [createTenantQuotaAccounts, hrequest L hnew]

theorem createGlobalAccounts_opened : ∃ reply, ∃ as : List Account,
    (∀ a ∈ as, ∃ k i, a = globalAccount k i) ∧ ∀ L : Books, NewIDs L rand 6 →
      createGlobalAccounts tb fate rand (fun _ _ => none) L =
        (reply, { L with accounts := L.accounts ++ as }) := by
  obtain ⟨reply, as, has, hrequest⟩ := requestAccounts_chosen tb fate rand globalAccount globalKeys
    (fun _ _ => rfl) fun k _ hi => globalAccount_valid k hi
  cases reply with
  | error cause =>
    refine ⟨.error (.createGlobal cause), as, has, fun L hnew => ?_⟩
    simp only [createGlobalAccounts, hrequest L hnew]
  | ok results =>
    refine ⟨(checkAccountResults ((chooseIDs (fun _ => none) rand 0 globalKeys).map Prod.fst)
        (fun k r => .global k.1 k.2 r) (.createGlobal "index out of range") results).map
          fun _ r a => idOf (chooseIDs (fun _ => none) rand 0 globalKeys) (r, a),
      as, has, fun L hnew => ?_⟩
    simp only [createGlobalAccounts, hrequest L hnew]

theorem createGlobalAccounts_books (idMap : GlobalAccounts) :
    ∃ as, (∀ a ∈ as, ∃ k i, k ∈ globalKeys ∧ a = globalAccount k i) ∧
      ((createGlobalAccounts tb fate rand idMap L).2 = L ∨
        (createGlobalAccounts tb fate rand idMap L).2 = (tb.createAccounts L as).2) := by
  refine ⟨(chooseIDs (fun k => idMap k.1 k.2) rand 0 globalKeys).map fun x => globalAccount x.1 x.2,
    ?_, ?_⟩
  · intro a ha
    obtain ⟨x, hx, rfl⟩ := List.mem_map.mp ha
    refine ⟨x.1, x.2, ?_, rfl⟩
    rw [← map_fst_chooseIDs (fun k => idMap k.1 k.2) rand 0 globalKeys]
    exact List.mem_map_of_mem hx
  · cases fate with
    | lostRequest e => exact .inl rfl
    | lostReply e => exact .inr rfl
    | answered => exact .inr rfl

theorem createTenantQuotaAccounts_books (tenantUUID : Uint128)
    (existingIDs : ResourceType → Option Uint128) :
    ∃ as, (∀ a ∈ as, ∃ r i, a = quotaAccount tenantUUID r i) ∧
      ((createTenantQuotaAccounts tb fate rand tenantUUID existingIDs L).2 = L ∨
        (createTenantQuotaAccounts tb fate rand tenantUUID existingIDs L).2 =
          (tb.createAccounts L as).2) := by
  refine ⟨(chooseIDs existingIDs rand 0 allResources).map fun x => quotaAccount tenantUUID x.1 x.2,
    ?_, ?_⟩
  · intro a ha
    obtain ⟨x, -, rfl⟩ := List.mem_map.mp ha
    exact ⟨x.1, x.2, rfl⟩
  · cases fate with
    | lostRequest e => exact .inl rfl
    | lostReply e => exact .inr rfl
    | answered => exact .inr rfl

end Spec
end CloudCredit.Ledger
