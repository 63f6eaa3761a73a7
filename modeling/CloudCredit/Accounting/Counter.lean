import CloudCredit.Accounting.Moves

/-!
# The flush counter

One counter numbers the flushes and the issued credits of a tenant, through
every Continue-As-New. As long as it does not wrap around, no two issues have
the same number and no flush has the number of an earlier one.
-/
namespace CloudCredit.Accounting

open Library TigerBeetle Domain Ledger

/-- The numbers given out so far. Issues are listed newest first. -/
structure Counted (e : Execution) : Prop where
  issued : e.history.issued.Pairwise fun new old => old.seqNo < new.seqNo ∧ old.update < new.update
  updates : ∀ issue ∈ e.history.issued, issue.update < e.history.issued.length
  bound : ∀ issue ∈ e.history.issued, issue.seqNo ≤ e.state.flushSeqNo
  flight : ∀ f, e.main.flight = some f → f.seqNo ≤ e.state.flushSeqNo

/-- A counter below some other number does not wrap around. -/
theorem counter_lt_succ {a b : UInt64} (h : a < b) : a < a + 1 := by
  rw [UInt64.lt_iff_toNat_lt] at h ⊢
  have hb := b.toNat_lt
  rw [UInt64.toNat_add, UInt64.toNat_one, Nat.mod_eq_of_lt (by omega)]
  omega

namespace Counted

variable {h : Blake3} {ev : Event} {e e' : Execution}

theorem start (base : TenantAccountingInput) : Counted (.start base) where
  issued := .nil
  updates := by simp [Execution.start]
  bound := by simp [Execution.start]
  flight := by simp [Execution.start, Main.flight]

theorem move (hm : Move h ev e e') (hw : e.state.flushSeqNo < e.state.flushSeqNo + 1)
    (hc : Counted e) : Counted e' := by
  have hle : e.state.flushSeqNo ≤ e.state.countFlush.flushSeqNo := UInt64.le_of_lt hw
  cases hm with
  | quiet same =>
    have hissued : e'.history.issued = e.history.issued := by rw [← same.history]
    have hseq : e'.state.flushSeqNo = e.state.flushSeqNo := by rw [same.state]
    constructor
    · rw [hissued]
      exact hc.issued
    · rw [hissued]
      exact hc.updates
    · rw [hissued, hseq]
      exact hc.bound
    · rw [same.flight, hseq]
      exact hc.flight
  | arrive sig => exact ⟨hc.issued, hc.updates, hc.bound, hc.flight⟩
  | skip hch hseen => exact ⟨hc.issued, hc.updates, hc.bound, hc.flight⟩
  | take hch hnew hidle => exact ⟨hc.issued, hc.updates, hc.bound, hc.flight⟩
  | register sig =>
    have hseq := e.state.registerCluster_flushSeqNo sig
    exact ⟨hc.issued, hc.updates, by rw [hseq]; exact hc.bound, by rw [hseq]; exact hc.flight⟩
  | flush site hbatch hidle =>
    refine ⟨hc.issued, hc.updates, fun issue hi => UInt64.le_trans (hc.bound issue hi) hle, ?_⟩
    intro f hf
    cases hf
    exact UInt64.le_refl _
  | @attempt site flight run reached reply hev hmain hrun =>
    refine ⟨hc.issued, hc.updates, hc.bound, ?_⟩
    intro f hf
    cases hf
    exact hc.flight flight (by rw [hmain]; rfl)
  | succeed hev hmain hout => exact ⟨hc.issued, hc.updates, hc.bound, fun f hf => by cases hf⟩
  | fail hev hmain hout hidle =>
    exact ⟨hc.issued, hc.updates, hc.bound, fun f hf => by simp [hidle] at hf⟩
  | accept hev hvalid hissue =>
    subst hissue
    refine ⟨.cons ?_ hc.issued, ?_, ?_, fun f hf => UInt64.le_trans (hc.flight f hf) hle⟩
    · intro old hold
      exact ⟨UInt64.lt_of_le_of_lt (hc.bound old hold) hw, hc.updates old hold⟩
    · intro issue hi
      rcases List.mem_cons.mp hi with rfl | hi
      · simp
      · exact Nat.lt_succ_of_lt (hc.updates issue hi)
    · intro issue hi
      rcases List.mem_cons.mp hi with rfl | hi
      · exact UInt64.le_refl _
      · exact UInt64.le_trans (hc.bound issue hi) hle
  | creditAttempt hev hi hrun => exact ⟨hc.issued, hc.updates, hc.bound, hc.flight⟩
  | creditEnds hev hi hout hend => exact ⟨hc.issued, hc.updates, hc.bound, hc.flight⟩
  | confirm hev hi hout hown => exact ⟨hc.issued, hc.updates, hc.bound, hc.flight⟩

theorem restarted (hc : Counted e) : Counted e.restarted :=
  ⟨hc.issued, hc.updates, hc.bound, fun _ hf => by cases hf⟩

theorem updates_nodup (hc : Counted e) : (e.history.issued.map (·.update)).Nodup := by
  rw [List.Nodup, List.pairwise_map]
  refine hc.issued.imp ?_
  intro new old hlt hsame
  exact Nat.ne_of_gt hlt.2 hsame

/-- An issue is known by its number. -/
theorem issue_eq (hc : Counted e) {a b : Issue} (ha : a ∈ e.history.issued)
    (hb : b ∈ e.history.issued) (hseq : a.seqNo = b.seqNo) : a = b := by
  have hnodup : (e.history.issued.map (·.seqNo)).Nodup := by
    rw [List.Nodup, List.pairwise_map]
    refine hc.issued.imp ?_
    intro new old hlt hsame
    exact UInt64.ne_of_lt hlt.1 hsame.symm
  exact List.inj_on_of_nodup_map hnodup ha hb hseq

end Counted

/-- The number of the flush in flight. -/
def Execution.flushNumber (e : Execution) : Option UInt64 := e.main.flight.map (·.seqNo)

/-- What a step can do to the flush in flight. It stays, it ends, or one begins
under the next number; that happens when there was none or its outcome is delivered. -/
inductive FlushStep (ev : Event) (e e' : Execution) : Prop
  | stays (hsame : e'.flushNumber = e.flushNumber)
      (hseq : e'.state.flushSeqNo = e.state.flushSeqNo ∨
        e'.state.flushSeqNo = e.state.flushSeqNo + 1)
  | ends (hnone : e'.flushNumber = none) (hev : ∃ continuing, ev = .deliver continuing)
      (hseq : e'.state.flushSeqNo = e.state.flushSeqNo)
  | begins (hnew : e'.flushNumber = some (e.state.flushSeqNo + 1))
      (hidle : e.flushNumber = none ∨ ∃ continuing, ev = .deliver continuing)
      (hseq : e'.state.flushSeqNo = e.state.flushSeqNo + 1)

theorem Move.flushStep {h : Blake3} {ev : Event} {e m m' : Execution} (hm : Move h ev m m')
    (hn : m.state.flushSeqNo = e.state.flushSeqNo) (hs : FlushStep ev e m) :
    FlushStep ev e m' := by
  have hkeep : ∀ x : Execution, x.flushNumber = m.flushNumber →
      x.state.flushSeqNo = m.state.flushSeqNo → FlushStep ev e x := by
    intro x hx hseq
    cases hs with
    | stays hsame hseq' => exact .stays (hx.trans hsame) (by rwa [hseq])
    | ends hnone hev hseq' => exact .ends (hx.trans hnone) hev (hseq.trans hseq')
    | begins hnew hidle hseq' => exact .begins (hx.trans hnew) hidle (hseq.trans hseq')
  have hidle : m.flushNumber = none →
      e.flushNumber = none ∨ ∃ continuing, ev = .deliver continuing := by
    intro hnone
    cases hs with
    | stays hsame => exact .inl (hsame.symm.trans hnone)
    | ends _ hev => exact .inr hev
    | begins hnew =>
      rw [hnew] at hnone
      cases hnone
  have hnumber : ∀ {x : Main} {site : FlushSite} {flight : Flight}, x = .submitting site flight →
      x.flight.map (·.seqNo) = some flight.seqNo := by
    rintro _ site flight rfl
    rfl
  cases hm with
  | quiet same =>
    exact hkeep _ (by rw [Execution.flushNumber, same.flight]; rfl) (by rw [same.state])
  | register sig => exact hkeep _ rfl (m.state.registerCluster_flushSeqNo sig)
  | flush site hbatch hnone =>
    refine .begins ?_ (hidle (by rw [Execution.flushNumber, hnone]; rfl)) ?_
    · rw [← hn]
      rfl
    · rw [← hn]
      rfl
  | attempt hev hmain hrun => exact hkeep _ (hnumber hmain).symm rfl
  | succeed hev hmain hout => exact .ends rfl ⟨_, hev⟩ hn
  | fail hev hmain hout hnone => exact .ends (by simp [Execution.flushNumber, hnone]) ⟨_, hev⟩ hn
  | accept hev hvalid hissue =>
    have hcount : m.state.countFlush.flushSeqNo = e.state.flushSeqNo + 1 := by
      rw [← hn]
      rfl
    cases hs with
    | stays hsame => exact .stays hsame (.inr hcount)
    | ends _ hdeliver =>
      obtain ⟨continuing, hdeliver⟩ := hdeliver
      cases hev.symm.trans hdeliver
    | begins _ _ hseq =>
      have := hn.symm.trans hseq
      simp at this
  | _ => exact hkeep _ rfl rfl

theorem Execution.step_flush {h : Blake3} {ev : Event} {e e' : Execution}
    (hs : e.step h ev = some e') : FlushStep ev e e' := by
  refine step_keeps (P := FlushStep ev e) (fun m m' hm hn hP => hm.flushStep hn hP)
    (fun _ hmain _ => .stays ?_ (.inl rfl)) hs (.stays rfl (.inl rfl))
  simp only [flushNumber, hmain]
  rfl

theorem Execution.deliver_flush {h : Blake3} {e e' : Execution} {continuing : Bool} {n : UInt64}
    (hs : e.step h (.deliver continuing) = some e') (hn : e.flushNumber = some n) :
    e'.flushNumber = none ∨ e'.flushNumber = some (e.state.flushSeqNo + 1) := by
  obtain ⟨f, hf, -⟩ := Option.map_eq_some_iff.mp hn
  have hmain : ∃ site, e.main = .submitting site f := by
    cases hm : e.main with
    | submitting site flight =>
      rw [hm] at hf
      cases hf
      exact ⟨site, rfl⟩
    | _ =>
      rw [hm] at hf
      cases hf
  obtain ⟨site, hmain⟩ := hmain
  simp only [step, deliver, hmain] at hs
  split at hs
  · cases hs
    exact .inl rfl
  · cases hs
    cases site with
    | continueAsNew => exact .inl rfl
    | _ =>
      simp only [afterFlush, endIteration]
      split_ifs
      · exact .inl rfl
      · exact .inr rfl
      · exact .inl rfl
  · cases hs

end CloudCredit.Accounting
