import CloudCredit.System.Mirrors
import CloudCredit.TigerBeetle.Wallets

/-!
# Quota accounts are prepaid wallets

What the components together are for: every quota account is a prepaid wallet. Whatever
tenants, flushes, credits, retries and lost replies do, the rulings in the journal on
requests to one account are the answers of one wallet, served in that order, and the
columns of the account are what the wallet then holds.
-/
namespace CloudCredit.System

open Library TigerBeetle Domain Ledger Accounting

/-- The requests to an account that were ruled on, oldest first, with their rulings. -/
def requestsTo (i : Uint128) (J : List (Entry Source)) : List (Wallet.Request Uint128 × Bool) :=
  J.reverse.filterMap (Entry.ruled i)

/-- One wallet gives all the rulings on an account and holds what its columns show. -/
def KeptAsWallet (i : Uint128) (L : Books) (J : List (Entry Source)) : Prop :=
  ∃ w, Wallet.serveAll .empty ((requestsTo i J).map Prod.fst) =
    ((requestsTo i J).map Prod.snd, w) ∧ L.Shows i w

/-- What is known of the decisions about a quota account: they name the account they
debit, and no payment into it is refused for lack of credits. -/
def Addressed (i : Uint128) (J : List (Entry Source)) : Prop :=
  ∀ x ∈ J, x.transfer.debitAccountID ≠ 0 ∧
    (x.transfer.creditAccountID = i → x.answer ≠ .exceedsCredits)

section Decision

variable {i : Uint128} {L L' : Books} {J : List (Entry Source)} {x : Entry Source}

theorem KeptAsWallet.empty : KeptAsWallet i {} [] :=
  ⟨.empty, rfl, rfl, rfl, rfl⟩

theorem requestsTo_cons (x : Entry Source) (J : List (Entry Source)) :
    requestsTo i (x :: J) = requestsTo i J ++ (x.ruled i).toList := by
  cases hx : x.ruled i <;> simp [requestsTo, hx]

/-- One decision of the service is one answer of the wallet. -/
theorem KeptAsWallet.decide (hk : KeptAsWallet i L J) (hL : L.Wf)
    (hlimit : ∀ a, L.account? i = some a → a.flags.debitsMustNotExceedCredits = true)
    (hzero : x.transfer.debitAccountID ≠ 0)
    (hpaid : x.transfer.creditAccountID = i → x.answer ≠ .exceedsCredits)
    (ha : Answers L x.transfer x.answer L') : KeptAsWallet i L' (x :: J) := by
  obtain ⟨w, hserved, hw⟩ := hk
  unfold KeptAsWallet
  rw [requestsTo_cons]
  cases hq : x.transfer.request i with
  | none =>
    simp only [Entry.ruled, hq, Option.bind_none, Option.toList_none, List.append_nil]
    exact ⟨w, hserved, ha.shows_of_elsewhere hL hzero hq hw⟩
  | some q =>
    cases hr : x.answer.ruling with
    | none =>
      simp only [Entry.ruled, hq, hr, Option.bind_some, Option.map_none, Option.toList_none,
        List.append_nil]
      refine ⟨w, hserved, ha.shows_of_not_ok (fun hok => ?_) hw⟩
      rw [hok] at hr
      cases hr
    | some b =>
      obtain ⟨hb, hshows⟩ := ha.serves hL hw hlimit hzero hpaid hq hr
      simp only [Entry.ruled, hq, hr, Option.bind_some, Option.map_some, Option.toList_some,
        List.map_append, List.map_cons, List.map_nil]
      refine ⟨(w.serve q).2, ?_, hshows⟩
      rw [Wallet.serveAll_concat, hserved, hb]

theorem KeptAsWallet.openAccounts (hk : KeptAsWallet i L J) (tb : Service) (as : List Account) :
    KeptAsWallet i (tb.createAccounts L as).2 J := by
  obtain ⟨w, hserved, hw⟩ := hk
  obtain ⟨ht, -, hb, -⟩ := tb.createAccounts_frame L as
  refine ⟨w, hserved, ?_, ?_, ?_⟩
  · rw [hb]
    exact hw.granted
  · rw [hb]
    exact hw.spent
  · simp only [Books.held, Books.live, Books.isVoided, ht]
    exact hw.holds

end Decision

namespace State

variable {h : Blake3} {tb : Service} {s : State} {u i : Uint128} {r : ResourceType}

theorem Sound.addressed (hs : s.Sound h) (hd : Decided s.books s.journal)
    (hi : s.books.account? i = some (quotaAccount u r i)) : Addressed i s.journal := by
  intro x hx
  obtain ⟨t, hv, hown⟩ := hs.journal x hx
  refine ⟨?_, fun hc hanswer => ?_⟩
  · have hopen : ∃ a, s.books.account? x.transfer.debitAccountID = some a := by
      obtain ⟨q, ⟨hopen, -⟩ | ⟨hopen, -⟩⟩ := hs.own_ends hv hown <;> exact ⟨_, hopen⟩
    obtain ⟨a, ha⟩ := hopen
    obtain ⟨hmem, hid⟩ := Books.account?_some ha
    exact hid ▸ hs.wf.account_ne_zero hmem
  · have hunlimited : ∀ q j, x.transfer.flags.voidPendingTransfer = false →
        t.provisioning.input.globalOperatorIDs q = some j → x.transfer.debitAccountID = j →
        False := by
      intro q j hvoid hj hdebit
      obtain ⟨a, ha, hlimit⟩ := hd.limited x hx hvoid hanswer
      rw [hdebit, hs.operator_open hv hj] at ha
      cases ha
      cases hlimit
    obtain ⟨x, y, answer⟩ := x
    cases hown with
    | usage hg hquota hsink =>
      exact absurd hc (global_ne_quota hi (by simp) (hs.sink_open hv hsink))
    | gaugeNew hid hg hquota hsink =>
      exact absurd hc (global_ne_quota hi (by simp) (hs.sink_open hv hsink))
    | gaugeVoid hid hg hquota hsink =>
      exact absurd hc (global_ne_quota hi (by simp) (hs.sink_open hv hsink))
    | provision hid hcredits hquota hoperator => exact hunlimited _ _ rfl hoperator rfl
    | credit hid hquota hoperator => exact hunlimited _ _ rfl hoperator rfl

/-- Books and journal in which an account is kept as a wallet once it is known to be a
quota account. -/
def WalletLedger (i : Uint128) (L : Books) (J : List (Entry Source)) : Prop :=
  L.Wf ∧ ((∀ a, L.account? i = some a → a.flags.debitsMustNotExceedCredits = true) →
    Addressed i J → KeptAsWallet i L J)

theorem step_walletLedger {s' : State} {ev : SystemEvent} (hstep : s.step h tb ev = some s')
    (hw : WalletLedger i s.books s.journal) : WalletLedger i s'.books s'.journal := by
  refine step_ledger (P := WalletLedger i) ?_ ?_ hstep hw
  · rintro L J as ⟨hL, hk⟩
    refine ⟨tb.createAccounts_wf hL as, fun hlimit haddr => ?_⟩
    have hg := tb.createAccounts_grows L as
    exact (hk (fun a ha => hlimit a (hg.account? ha)) haddr).openAccounts tb as
  · rintro L J x L' ⟨hL, hk⟩ ha
    refine ⟨ha.wf hL, fun hlimit haddr => ?_⟩
    obtain ⟨⟨hzero, hpaid⟩, haddr⟩ := List.forall_mem_cons.mp haddr
    have hlimit : ∀ a, L.account? i = some a → a.flags.debitsMustNotExceedCredits = true :=
      fun a hacc => hlimit a (ha.grows.account? hacc)
    exact (hk hlimit haddr).decide hL hlimit hzero hpaid ha

theorem run_walletLedger {es : List SystemEvent}
    (hr : runSteps (step h tb) initial es = some s) : WalletLedger i s.books s.journal :=
  invariant_of_steps (step h tb) (P := fun s => WalletLedger i s.books s.journal)
    (fun _ _ _ hw hstep => step_walletLedger hstep hw) ⟨.empty, fun _ _ => .empty⟩ hr

/-- In every run, whatever it interleaves, the rulings on the requests to a quota account
are the answers of one prepaid wallet served in that order: it grants what is left and
refuses the rest, it knows each reservation under its identifier, and posted credits, posted
debits and live reservations of the account are what it holds at the end. -/
theorem quota_accounts_are_wallets (es : List SystemEvent)
    (hr : runSteps (step h tb) initial es = some s)
    (hi : s.books.account? i = some (quotaAccount u r i)) :
    ∃ w : Wallet Uint128,
      Wallet.serveAll .empty ((requestsTo i s.journal).map Prod.fst) =
        ((requestsTo i s.journal).map Prod.snd, w) ∧
      s.books.Shows i w := by
  have hs := run_sound hr
  refine (run_walletLedger hr).2 (fun a ha => ?_) (hs.addressed (run_decided hr) hi)
  rw [hi] at ha
  cases ha
  rfl

/-- Two heartbeats ask for five units each, and the wallet has eight. -/
def overspending : List SystemEvent :=
  sampleProvisioning 8 20 ++ (sampleBatchOf [sampleHeartbeat 1, sampleHeartbeat 2] 0 ++
    sampleSubmission).map (.tenant sampleTenant)

theorem overspending_is_refused :
    ∃ s i w, runSteps (step .positional Reference.service) initial overspending = some s ∧
      s.books.account? i = some (quotaAccount sampleTenant .cpuHours i) ∧
      requestsTo i s.journal = [(.grant 8, true), (.spend 5, true), (.spend 5, false)] ∧
      Wallet.serveAll .empty [.grant 8, .spend 5, .spend 5] = ([true, true, false], w) ∧
      s.books.Shows i w := by
  obtain ⟨s, hr, hp⟩ := runSteps_any (step .positional Reference.service) initial overspending
    (fun s => (s.tenants sampleTenant).any fun t =>
      (t.provisioning.accountIDs .cpuHours).any fun i =>
        s.books.account? i = some (quotaAccount sampleTenant .cpuHours i) ∧
          requestsTo i s.journal = [(.grant 8, true), (.spend 5, true), (.spend 5, false)])
    (by decide +kernel)
  simp only [Option.any_eq_true, decide_eq_true_eq] at hp
  obtain ⟨-, -, i, -, hi, hasked⟩ := hp
  obtain ⟨w, hserved, hw⟩ := quota_accounts_are_wallets overspending hr hi
  rw [hasked] at hserved
  exact ⟨s, i, w, hr, hi, hasked, hserved, hw⟩

end State
end CloudCredit.System
