import CloudCredit.System.Acts

/-!
# What a decision leaves behind

A property of books and journal that every single decision keeps holds in every
reachable state. So an identifier the service called accepted or known is
committed, and it rejects a transfer for lack of credits only on an account with
a limit.
-/
namespace CloudCredit.System

open Library TigerBeetle Domain Ledger Accounting

theorem found_committed {L L' : Books} {t : Transfer} {r : CreateTransferResult}
    (ha : Answers L t r L') (hr : r.found = true) : ∃ e, L.transfer? t.id = some e := by
  cases ha with
  | repeated he => exact ⟨_, he⟩
  | invalid hf hv hi hinv => cases r <;> cases hr <;> cases hinv
  | overflow hf hv hi ho hov => cases r <;> cases hr <;> cases hov
  | voidInvalid hf hv hi hinv => cases r <;> cases hr <;> cases hinv
  | pendingMismatch hf hv hi hp hm hmis => cases r <;> cases hr <;> cases hmis
  | _ => cases hr

namespace Tenant

variable {h : Blake3} {tb : Service} {t : Tenant} {L : Books} {o : Outcome}

theorem act_books {ev : TenantEvent} (hs : t.act h tb L ev = some o) :
    (∃ as, o.books = (tb.createAccounts L as).2 ∧ o.sent = []) ∨
      o.books = (tb.createTransfers L (o.sent.map Prod.snd)).2 := by
  cases ev with
  | rowAttempt reply =>
    obtain ⟨p, -, rfl⟩ := Option.map_eq_some_iff.mp hs
    exact .inr rfl
  | createAccounts att reported =>
    obtain ⟨p, -, rfl⟩ := Option.map_eq_some_iff.mp hs
    obtain ⟨as, -, hbooks⟩ := createTenantTBAccounts_books tb att L t.provisioning.input.tenantUUID
    exact .inl ⟨as, hbooks, rfl⟩
  | allocate att reported =>
    obtain ⟨p, -, rfl⟩ := Option.map_eq_some_iff.mp hs
    exact .inr (submitAllocationTransfers_sent tb _ _ att L)
  | deliverProvisioning =>
    obtain ⟨p, -, rfl⟩ := Option.map_eq_some_iff.mp hs
    exact .inr rfl
  | startAccounting reply =>
    obtain ⟨p, -, rfl⟩ := Option.map_eq_some_iff.mp hs
    exact .inr rfl
  | workflow ev =>
    simp only [act, workflow] at hs
    split_ifs at hs
    obtain ⟨e, e', -, -, rfl⟩ := advance_some hs
    exact .inr rfl
  | submitUsage att reported =>
    obtain ⟨e, site, flight, -, -, -, hbooks, hsent, -⟩ := submitUsage_some hs
    rw [hbooks, hsent]
    exact .inr (submitUsage_sent h tb _ att L)
  | submitGauges reported =>
    obtain ⟨e, site, flight, att, per, e', -, -, -, -, rfl⟩ := submitGauges_some hs
    exact .inr (submitGauges_sent tb _ att per _ L)
  | credit i att reported =>
    obtain ⟨e, c, e', -, -, -, rfl⟩ := credit_some hs
    exact .inr (submitAllocationTransfers_sent tb _ _ att L)
  | lookup att =>
    obtain ⟨_, -, hs⟩ := Option.bind_eq_some_iff.mp hs
    obtain ⟨e, e', -, -, rfl⟩ := advance_some hs
    exact .inr rfl
  | refreshLookup i att =>
    obtain ⟨_, -, hs⟩ := Option.bind_eq_some_iff.mp hs
    obtain ⟨e, e', -, -, rfl⟩ := advance_some hs
    exact .inr rfl

theorem act_grows {ev : TenantEvent} (hs : t.act h tb L ev = some o) : L.Grows o.books := by
  rcases act_books hs with ⟨as, hbooks, -⟩ | hbooks
  · rw [hbooks]
    exact tb.createAccounts_grows L as
  · rw [hbooks]
    exact tb.createTransfers_grows L _

end Tenant

namespace State

variable {h : Blake3} {tb : Service} {s s' : State}

theorem step_ledger {P : Books → List (Entry Source) → Prop}
    (haccounts : ∀ L J as, P L J → P (tb.createAccounts L as).2 J)
    (hdecide : ∀ L J (x : Entry Source) L', P L J → Answers L x.transfer x.answer L' →
      P L' (x :: J))
    {ev : SystemEvent} (hstep : s.step h tb ev = some s')
    (hP : P s.books s.journal) : P s'.books s'.journal := by
  cases stepped_of_step hstep with
  | @started fate rand =>
    obtain ⟨as, hbooks⟩ := startServer_books tb s fate rand
    rw [hbooks]
    exact haccounts _ _ as hP
  | registered => exact hP
  | @acted v w t o hv ho =>
    rcases Tenant.act_books ho with ⟨as, hbooks, hsent⟩ | hbooks
    · simp only [commit, hbooks, hsent, Service.record]
      exact haccounts _ _ as hP
    · simp only [commit, hbooks]
      rw [← tb.record_books (s.books, s.journal)]
      exact tb.record_keeps (P := fun y => P y.1 y.2)
        (fun L J x _ hP r L' ha => hdecide L J ⟨x.1, x.2, r⟩ L' hP ha) hP

/-- The books only grow. -/
theorem step_grows {ev : SystemEvent} (hstep : s.step h tb ev = some s') :
    s.books.Grows s'.books :=
  step_ledger (P := fun L _ => s.books.Grows L)
    (fun _ _ as hg => hg.trans (tb.createAccounts_grows _ as))
    (fun _ _ _ _ hg ha => hg.trans ha.grows) hstep (Books.Grows.refl _)

theorem run_grows {es : List SystemEvent} (hr : runSteps (step h tb) s es = some s') :
    s.books.Grows s'.books :=
  relation_of_steps (step h tb) (P := fun _ => True) (R := fun s s' => s.books.Grows s'.books)
    (fun _ => .refl _) (fun _ _ _ => .trans) (fun _ _ _ _ _ => trivial)
    (fun _ _ _ _ hstep => step_grows hstep) trivial hr

end State

/-- What the answers in the journal say about the books. -/
structure Decided (L : Books) (J : List (Entry Source)) : Prop where
  committed : ∀ x ∈ J, x.answer = .ok ∨ x.answer.found = true →
    ∃ c ∈ L.transfers, c.id = x.transfer.id
  limited : ∀ x ∈ J, x.transfer.flags.voidPendingTransfer = false → x.answer = .exceedsCredits →
    ∃ a, L.account? x.transfer.debitAccountID = some a ∧
      a.flags.debitsMustNotExceedCredits = true

namespace Decided

variable {L L' : Books} {J : List (Entry Source)}

theorem grows (hd : Decided L J) (hg : L.Grows L') : Decided L' J where
  committed := fun x hx ha => by
    obtain ⟨c, hc, hid⟩ := hd.committed x hx ha
    exact ⟨c, hg.transfers.subset hc, hid⟩
  limited := fun x hx hv ha => by
    obtain ⟨a, hacc, hflag⟩ := hd.limited x hx hv ha
    exact ⟨a, hg.account? hacc, hflag⟩

theorem decide {x : Entry Source} (hd : Decided L J) (ha : Answers L x.transfer x.answer L') :
    Decided L' (x :: J) := by
  have hold := hd.grows ha.grows
  constructor
  · intro y hy hanswer
    rcases List.mem_cons.mp hy with rfl | hy
    · rcases hanswer with hok | hfound
      · refine ⟨L.stored y.transfer, ?_, stored_id L _⟩
        rw [ha.transfers_eq, if_pos hok]
        exact List.mem_cons_self
      · obtain ⟨c, hc⟩ := found_committed ha hfound
        obtain ⟨hmem, hid⟩ := Books.transfer?_some hc
        exact ⟨c, ha.grows.transfers.subset hmem, hid⟩
    · exact hold.committed y hy hanswer
  · intro y hy hv hanswer
    rcases List.mem_cons.mp hy with rfl | hy
    · obtain ⟨⟨-, ⟨-, -, -, hx⟩ | ⟨hvoid, -⟩⟩, -⟩ := ha.exceeds_transient hanswer
      · unfold Books.exceeds at hx
        split at hx
        · rename_i a hacc
          exact ⟨a, ha.grows.account? hacc, (Bool.and_eq_true_iff.mp hx).1⟩
        · cases hx
      · rw [hv] at hvoid
        cases hvoid
    · exact hold.limited y hy hv hanswer

end Decided

namespace State

variable {h : Blake3} {tb : Service} {s s' : State}

theorem step_decided {ev : SystemEvent} (hd : Decided s.books s.journal)
    (hstep : s.step h tb ev = some s') : Decided s'.books s'.journal :=
  step_ledger (fun _ _ as hd => hd.grows (tb.createAccounts_grows _ as))
    (fun _ _ _ _ hd ha => hd.decide ha) hstep hd

theorem run_decided {es : List SystemEvent} (hr : runSteps (step h tb) initial es = some s) :
    Decided s.books s.journal := by
  refine invariant_of_steps (step h tb) (P := fun s => Decided s.books s.journal)
    (fun s ev s' hd hstep => step_decided hd hstep) ⟨?_, ?_⟩ hr
  · simp [initial]
  · simp [initial]

theorem Sound.accepted_of_decided (hs : s.Sound h) (hd : Decided s.books s.journal)
    {x : Entry Source} (hx : x ∈ s.journal) (ha : x.answer = .ok ∨ x.answer.found = true) :
    ∃ y ∈ s.journal, accepted y = true ∧ y.transfer.id = x.transfer.id := by
  obtain ⟨c, hc, hid⟩ := hd.committed x hx ha
  obtain ⟨y, hy, hok, hstored⟩ := hs.recorded.find hc
  exact ⟨y, hy, hok, hstored.1.symm.trans hid⟩

end State
end CloudCredit.System
