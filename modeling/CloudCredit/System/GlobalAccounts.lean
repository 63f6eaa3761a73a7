import CloudCredit.System.Acts
import CloudCredit.TigerBeetle.Reference

/-!
# The accounts all tenants share

Every start of the server asks for operator and sink accounts under new
identifiers; nothing is kept of the identifiers of an earlier start. So all
tenants share one operator and one sink of each ledger only as long as the server
has been started once.
-/
namespace CloudCredit.System

open Library TigerBeetle Domain Ledger Accounting

/-- The role of the global account of a transfer, and its identifier. -/
def globalSide (x : Entry Source) : AccountType × Uint128 :=
  match x.origin with
  | .provision _ _ _ _ | .credit _ _ => (.operator, x.transfer.debitAccountID)
  | .usage _ _ _ _ | .gaugeNew _ _ _ _ | .gaugeVoid _ _ _ _ => (.sink, x.transfer.creditAccountID)

/-- Of every ledger and role there is at most one global account. -/
def SingleAccounts (accounts : List Account) : Prop :=
  ∀ a ∈ accounts, ∀ b ∈ accounts, a.code ≠ accountCodeFromType .tenantQuota →
    a.ledger = b.ledger → a.code = b.code → a = b

theorem globalAccount_key {k l : ResourceType × AccountType} {i j : Uint128}
    (hledger : (globalAccount k i).ledger = (globalAccount l j).ledger)
    (hcode : (globalAccount k i).code = (globalAccount l j).code) : k = l :=
  Prod.ext (ResourceType.ledgerID_injective hledger) (accountCodeFromType_injective hcode)

theorem chosen_singleAccounts (rand : ℕ → Uint128) :
    SingleAccounts ((chooseIDs (fun _ => none) rand 0 globalKeys).map fun x =>
      globalAccount x.1 x.2) := by
  intro a ha b hb _ hledger hcode
  obtain ⟨x, hx, rfl⟩ := List.mem_map.mp ha
  obtain ⟨y, hy, rfl⟩ := List.mem_map.mp hb
  have hnodup : ((chooseIDs (fun _ => none) rand 0 globalKeys).map Prod.fst).Nodup := by
    rw [map_fst_chooseIDs]
    decide
  rw [List.inj_on_of_nodup_map hnodup hx hy (globalAccount_key hledger hcode)]

namespace State

variable {h : Blake3} {tb : Service} {s s' : State}

/-- A start that reaches the ledger finds no global account there. -/
def OnlyStart (s : State) : SystemEvent → Prop
  | .startServer fate _ => fate.reached = true →
      ∀ a ∈ s.books.accounts, a.code = accountCodeFromType .tenantQuota
  | _ => True

instance (s : State) : DecidablePred s.OnlyStart
  | .startServer fate _ => inferInstanceAs (Decidable (fate.reached = true →
      ∀ a ∈ s.books.accounts, a.code = accountCodeFromType .tenantQuota))
  | .registerTenant _ _ _ => .isTrue trivial
  | .tenant _ _ => .isTrue trivial

theorem startServer_accounts (fate : Fate) (rand : ℕ → Uint128) :
    (s.startServer tb fate rand).books = s.books ∨ fate.reached = true ∧
      (s.startServer tb fate rand).books = (tb.createAccounts s.books
        ((chooseIDs (fun _ => none) rand 0 globalKeys).map fun x => globalAccount x.1 x.2)).2 := by
  cases fate with
  | lostRequest e => exact .inl rfl
  | lostReply e => exact .inr ⟨rfl, rfl⟩
  | answered => exact .inr ⟨rfl, rfl⟩

theorem startServer_singleAccounts {fate : Fate} {rand : ℕ → Uint128}
    (hsingle : SingleAccounts s.books.accounts) (hC : s.OnlyStart (.startServer fate rand)) :
    SingleAccounts (s.startServer tb fate rand).books.accounts := by
  rcases s.startServer_accounts fate rand with hbooks | ⟨hreached, hbooks⟩
  · rw [hbooks]
    exact hsingle
  · rw [hbooks]
    have hnew := (tb.createAccounts_frame s.books
      ((chooseIDs (fun _ => none) rand 0 globalKeys).map fun x => globalAccount x.1 x.2)).2.2.2
    intro a ha b hb hquota hledger hcode
    rcases hnew a ha with ha | ha
    · exact absurd (hC hreached a ha) hquota
    rcases hnew b hb with hb | hb
    · rw [hcode] at hquota
      exact absurd (hC hreached b hb) hquota
    exact chosen_singleAccounts rand a ha b hb hquota hledger hcode

theorem step_singleAccounts {ev : SystemEvent} (hs : s.Sound h)
    (hsingle : SingleAccounts s.books.accounts) (hC : s.OnlyStart ev)
    (hstep : s.step h tb ev = some s') : SingleAccounts s'.books.accounts := by
  cases stepped_of_step hstep with
  | started => exact startServer_singleAccounts hsingle hC
  | registered => exact hsingle
  | @acted v w t o hv ho =>
    have heff := Tenant.act_effect (hs.tenants v t hv) ho
    obtain ⟨t', L', xs⟩ := o
    dsimp only at heff
    simp only [commit]
    cases heff with
    | @accounts as has =>
      have hnew := (tb.createAccounts_frame s.books as).2.2.2
      have hold : ∀ a ∈ (tb.createAccounts s.books as).2.accounts,
          a.code ≠ accountCodeFromType .tenantQuota → a ∈ s.books.accounts := by
        intro a ha hquota
        rcases hnew a ha with ha | ha
        · exact ha
        · obtain ⟨r, i, rfl⟩ := has a ha
          exact absurd rfl hquota
      intro a ha b hb hquota hledger hcode
      exact hsingle a (hold a ha hquota) b (hold b hb (hcode ▸ hquota)) hquota hledger hcode
    | transfers hxs =>
      rw [tb.createTransfers_accounts]
      exact hsingle

theorem Sound.globalSide_open (hs : s.Sound h) {x : Entry Source} (hx : x ∈ s.journal) :
    ∃ a ∈ s.books.accounts, a.id = (globalSide x).2 ∧ a.ledger = x.transfer.ledger ∧
      a.code = accountCodeFromType (globalSide x).1 ∧ (globalSide x).1 ≠ .tenantQuota := by
  obtain ⟨t, hv, hown⟩ := hs.journal x hx
  obtain ⟨x, y, answer⟩ := x
  dsimp only at hown hv ⊢
  have hsink : ∀ r i, t.provisioning.input.globalSinkIDs r = some i →
      globalAccount (r, .sink) i ∈ s.books.accounts := fun r i hi =>
    (Books.account?_some (hs.sink_open hv hi)).1
  have hoperator : ∀ r i, t.provisioning.input.globalOperatorIDs r = some i →
      globalAccount (r, .operator) i ∈ s.books.accounts := fun r i hi =>
    (Books.account?_some (hs.operator_open hv hi)).1
  cases hown with
  | usage hg hquota hi => exact ⟨_, hsink _ _ hi, rfl, rfl, rfl, by simp [globalSide]⟩
  | gaugeNew hid hg hquota hi => exact ⟨_, hsink _ _ hi, rfl, rfl, rfl, by simp [globalSide]⟩
  | gaugeVoid hid hg hquota hi => exact ⟨_, hsink _ _ hi, rfl, rfl, rfl, by simp [globalSide]⟩
  | provision hid hcredits hquota hi =>
    exact ⟨_, hoperator _ _ hi, rfl, rfl, rfl, by simp [globalSide]⟩
  | credit hid hquota hi => exact ⟨_, hoperator _ _ hi, rfl, rfl, rfl, by simp [globalSide]⟩

/-- While every start that reaches the ledger finds no global account there, each
ledger has at most one operator and one sink account, and the transfers of all
tenants on a ledger use the same operator and the same sink. -/
theorem one_operator_and_one_sink (es : List SystemEvent)
    (hr : runSteps (step h tb) initial es = some s) (hC : Along (step h tb) OnlyStart initial es) :
    SingleAccounts s.books.accounts ∧ ∀ x ∈ s.journal, ∀ y ∈ s.journal,
      x.transfer.ledger = y.transfer.ledger → (globalSide x).1 = (globalSide y).1 →
        (globalSide x).2 = (globalSide y).2 := by
  obtain ⟨hs, hsingle⟩ := invariant_along (step h tb)
    (P := fun s => s.Sound h ∧ SingleAccounts s.books.accounts)
    (fun _ _ _ hp hC hstep => ⟨step_sound hp.1 hstep, step_singleAccounts hp.1 hp.2 hC hstep⟩)
    ⟨initial_sound, by simp [SingleAccounts, initial]⟩ hC hr
  refine ⟨hsingle, fun x hx y hy hledger hrole => ?_⟩
  obtain ⟨a, ha, hida, hla, hca, hquota⟩ := hs.globalSide_open hx
  obtain ⟨b, hb, hidb, hlb, hcb, -⟩ := hs.globalSide_open hy
  have hab : a = b := by
    refine hsingle a ha b hb ?_ ?_ ?_
    · rw [hca]
      exact fun hcode => hquota (accountCodeFromType_injective hcode)
    · rw [hla, hlb, hledger]
    · rw [hca, hcb, hrole]
  rw [← hida, ← hidb, hab]

/-- A tenant is registered and provisioned. -/
def provisioned (tenantID : Uint128) (n : ℕ) : List SystemEvent :=
  .registerTenant tenantID
      { billingTier := "free", cpuHoursCredits := 10, activeNodesLimit := 20 } 1000 ::
    ([.rowAttempt (.ok ()), .deliverProvisioning,
      .createAccounts { rand := sampleRandom n } true, .deliverProvisioning,
      .rowAttempt (.ok ()), .deliverProvisioning, .allocate {} true] : List TenantEvent).map
        (.tenant tenantID)

/-- Two tenants are provisioned, with the given server starts in between. -/
def twoTenants (restarts : List SystemEvent) : List SystemEvent :=
  .startServer .answered (sampleRandom 50) :: provisioned (sampleID 1) 100 ++ restarts ++
    provisioned (sampleID 2) 150

/-- Two tenants after one start: their credits on a ledger come from one operator. -/
theorem twoTenants_share_an_operator :
    ∃ s x y, runSteps (step .positional Reference.service) initial (twoTenants []) = some s ∧
      x ∈ s.journal ∧ y ∈ s.journal ∧ x.origin.tenant = sampleID 1 ∧
      y.origin.tenant = sampleID 2 ∧ x.transfer.debitAccountID = y.transfer.debitAccountID := by
  obtain ⟨s, hr, hp⟩ := runSteps_any (step .positional Reference.service) initial (twoTenants [])
    (fun s => s.journal.any fun x => s.journal.any fun y => x.origin.tenant = sampleID 1 &&
      y.origin.tenant = sampleID 2 && x.transfer.ledger = y.transfer.ledger &&
      (globalSide x).1 = .operator && (globalSide y).1 = .operator &&
      (globalSide x).2 = x.transfer.debitAccountID &&
      (globalSide y).2 = y.transfer.debitAccountID) (by decide +kernel)
  simp only [List.any_eq_true, Bool.and_eq_true, decide_eq_true_eq] at hp
  obtain ⟨x, hx, y, hy, ⟨⟨⟨⟨⟨hA, hB⟩, hledger⟩, hxr⟩, hyr⟩, hxd⟩, hyd⟩ := hp
  refine ⟨s, x, y, hr, hx, hy, hA, hB, ?_⟩
  rw [← hxd, ← hyd]
  exact (one_operator_and_one_sink (twoTenants []) hr
    (along_of_alongTest _ (by decide +kernel))).2 x hx y hy hledger (hxr.trans hyr.symm)

/-- The server is started again before the second tenant is registered: the
restart opens further operators, and the tenants' credits on one ledger come from
two of them. -/
theorem restarted_server_opens_further_operators :
    (runSteps (step .positional Reference.service) initial
      (twoTenants [.startServer .answered (sampleRandom 70)])).any (fun s =>
        (s.books.accounts.any fun a => s.books.accounts.any fun b =>
          a.code = accountCodeFromType .operator && b.code = accountCodeFromType .operator &&
            a.ledger = b.ledger && a.id != b.id) &&
        s.journal.any fun x => s.journal.any fun y => x.origin.tenant = sampleID 1 &&
          y.origin.tenant = sampleID 2 && x.transfer.ledger = y.transfer.ledger &&
          (globalSide x).1 = .operator && (globalSide y).1 = .operator &&
          (globalSide x).2 != (globalSide y).2) = true := by
  decide +kernel

end State
end CloudCredit.System
