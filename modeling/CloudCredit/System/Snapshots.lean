import CloudCredit.System.Credits
import CloudCredit.System.Database

/-!
# The projection of the balances

The main loop and every handler read the balances of the ledger and write them
to the table later. Nothing keeps two of them from reading one after the other
and writing in the opposite order. If no coroutine of a tenant reads while
another still holds what it has read, the values of a row follow the history of
the ledger, and no confirmed credit is ever hidden again.
-/
namespace CloudCredit.Accounting

open Library TigerBeetle Domain Ledger

/-- What an activity that reads the balances was told. -/
def readBalances (run : Run Balances) : Option Balances := run.outcome.bind Except.toOption

/-- The balances the main loop has read and not finished writing. -/
def Main.held : Main → Option Balances
  | .lookingUp _ run => readBalances run
  | .snapshotting _ balances _ => some balances
  | _ => none

/-- The balances a handler has read and not finished writing. -/
def RefreshPhase.held : RefreshPhase → Option Balances
  | .lookingUp run => readBalances run
  | .snapshotting balances _ => some balances
  | .resetting _ _ => none

/-- The event is an attempt to read the balances. -/
def Event.readsBalances : Event → Bool
  | .attempt _ (.balances _) | .refreshAttempt _ (.balances _) => true
  | _ => false

namespace Execution

/-- All balances the coroutines of the workflow hold. -/
def held (e : Execution) : List Balances :=
  e.main.held.toList ++ e.refreshing.filterMap (·.phase.held)

variable {h : Blake3} {e e' : Execution} {ev : Event}

theorem held_sublist (hmain : ∀ b, e'.main.held = some b → e.main.held = some b)
    (hrefresh : (e'.refreshing.filterMap (·.phase.held)).Sublist
      (e.refreshing.filterMap (·.phase.held))) : e'.held.Sublist e.held := by
  refine List.Sublist.append ?_ hrefresh
  cases hb : e'.main.held with
  | none => exact List.nil_sublist _
  | some b => rw [hmain b hb]

theorem held_sublist_of_none (hmain : e'.main.held = none) (hrefresh : e'.refreshing = e.refreshing) :
    e'.held.Sublist e.held := by
  refine held_sublist (fun b hb => ?_) (by rw [hrefresh])
  rw [hmain] at hb
  cases hb

theorem endIteration_held (e : Execution) (continuing : Bool) :
    (e.endIteration h continuing).main.held = none ∧
      (e.endIteration h continuing).refreshing = e.refreshing := by
  unfold endIteration
  split_ifs <;> exact ⟨rfl, rfl⟩

theorem afterFlush_held (e : Execution) (site : FlushSite) (continuing : Bool) :
    (e.afterFlush h site continuing).main.held = none ∧
      (e.afterFlush h site continuing).refreshing = e.refreshing := by
  cases site with
  | threshold => exact endIteration_held _ continuing
  | timer => exact endIteration_held _ continuing
  | continueAsNew => exact ⟨rfl, rfl⟩

theorem receiveHeartbeat_held {continuing : Bool} (hs : e.receiveHeartbeat h continuing = some e') :
    e'.held.Sublist e.held := by
  cases receiveHeartbeat_cases hs with
  | skipped hm hch hseen =>
    exact held_sublist_of_none (endIteration_held _ continuing).1 (endIteration_held _ continuing).2
  | filled hm hch hseen hfull => exact held_sublist_of_none rfl rfl
  | appended hm hch hseen hroom =>
    exact held_sublist_of_none (endIteration_held _ continuing).1 (endIteration_held _ continuing).2

theorem timerBranch_held {continuing : Bool} (hs : e.timerBranch h continuing = some e') :
    e'.held.Sublist e.held := by
  cases timerBranch_cases hs with
  | idle hm hres hb =>
    exact held_sublist_of_none (endIteration_held _ continuing).1 (endIteration_held _ continuing).2
  | flushed hm hres hb => exact held_sublist_of_none rfl rfl

theorem attempt_held {reached : Bool} {reply : Reply} (hs : e.attempt reached reply = some e')
    (hread : ∀ r, reply ≠ .balances r) : e'.held.Sublist e.held := by
  cases attempt_cases hs with
  | batch hm hrun => exact held_sublist_of_none rfl rfl
  | lookup hm hrun => exact absurd rfl (hread _)
  | snapshot hm hrun =>
    refine held_sublist (fun b hb => ?_) (List.Sublist.refl _)
    rw [hm]
    exact hb
  | limits hm hrun => exact held_sublist_of_none rfl rfl

theorem deliver_held {continuing : Bool} (hs : e.deliver h continuing = some e') :
    e'.held.Sublist e.held := by
  have hafter : ∀ site, (e.afterFlush h site continuing).held.Sublist e.held := fun site =>
    held_sublist_of_none (afterFlush_held _ site continuing).1 (afterFlush_held _ site continuing).2
  cases deliver_cases hs with
  | submitted hm hout => exact held_sublist_of_none rfl rfl
  | failed hm hout => exact hafter _
  | lookedUp hm hout =>
    refine held_sublist (fun b hb => ?_) (List.Sublist.refl _)
    rw [hm, ← hb]
    simp [Main.held, readBalances, hout, Except.toOption]
  | notFound hm hout => exact hafter _
  | snapshotted hm hout => exact held_sublist_of_none rfl rfl
  | checked hm hout => exact hafter _

theorem creditDeliver_held {i : ℕ} (hs : e.creditDeliver i = some e') : e'.held.Sublist e.held := by
  cases creditDeliver_cases hs with
  | abandoned hi hout hgone => exact List.Sublist.refl _
  | failed hi hout hown => exact List.Sublist.refl _
  | confirmed hi hout hown =>
    refine held_sublist (fun b hb => hb) ?_
    simp [RefreshPhase.held, readBalances]

theorem refreshAttempt_held {i : ℕ} {reply : Reply} (hs : e.refreshAttempt i reply = some e')
    (hread : ∀ r, reply ≠ .balances r) : e'.held.Sublist e.held := by
  obtain ⟨f, hi, hs⟩ := Option.bind_eq_some_iff.mp hs
  obtain ⟨phase, hphase, rfl⟩ := Option.map_eq_some_iff.mp hs
  refine held_sublist (fun b hb => hb) (filterMap_set_sublist hi fun b hb => ?_)
  split at hphase
  · exact absurd rfl (hread _)
  · rename_i heq _
    obtain ⟨run', -, rfl⟩ := Option.map_eq_some_iff.mp hphase
    rw [heq]
    exact hb
  · obtain ⟨run', -, rfl⟩ := Option.map_eq_some_iff.mp hphase
    cases hb
  · cases hphase

theorem refreshDeliver_held {i : ℕ} (hs : e.refreshDeliver i = some e') :
    e'.held.Sublist e.held := by
  have hreturn : ((e.refreshing.eraseIdx i).filterMap (·.phase.held)).Sublist
      (e.refreshing.filterMap (·.phase.held)) := (List.eraseIdx_sublist _ _).filterMap _
  cases refreshDeliver_cases hs with
  | lookedUp hi hphase hout =>
    refine held_sublist (fun b hb => hb) (filterMap_set_sublist hi fun b hb => ?_)
    rw [hphase, ← hb]
    simp [RefreshPhase.held, readBalances, hout, Except.toOption]
  | notFound hi hphase hout => exact held_sublist (fun b hb => hb) hreturn
  | snapshotted hi hphase hout =>
    exact held_sublist (fun b hb => hb) (filterMap_set_sublist hi fun b hb => by cases hb)
  | reset hi hphase hout => exact held_sublist (fun b hb => hb) hreturn

theorem step_held (hs : e.step h ev = some e') (hev : ev.readsBalances = false) :
    e'.held.Sublist e.held := by
  cases ev with
  | heartbeat sig =>
    cases hs
    exact List.Sublist.refl _
  | register sig =>
    cases hs
    exact List.Sublist.refl _
  | update sig => cases update_cases hs <;> exact List.Sublist.refl _
  | receiveHeartbeat continuing => exact receiveHeartbeat_held hs
  | receiveRegistration continuing =>
    obtain ⟨timer, sig, rest, hm, hch, rfl⟩ := receiveRegistration_cases hs
    exact held_sublist_of_none (endIteration_held _ continuing).1 (endIteration_held _ continuing).2
  | timerFires timer =>
    simp only [step] at hs
    split_ifs at hs
    cases hs
    exact List.Sublist.refl _
  | timerBranch continuing => exact timerBranch_held hs
  | attempt reached reply =>
    refine attempt_held hs ?_
    rintro r rfl
    cases hev
  | deliver continuing => exact deliver_held hs
  | creditAttempt i reached reply =>
    obtain ⟨c, -, hs⟩ := Option.bind_eq_some_iff.mp hs
    obtain ⟨run, -, rfl⟩ := Option.map_eq_some_iff.mp hs
    exact List.Sublist.refl _
  | creditDeliver i => exact creditDeliver_held hs
  | refreshAttempt i reply =>
    refine refreshAttempt_held hs ?_
    rintro r rfl
    cases hev
  | refreshDeliver i => exact refreshDeliver_held hs
  | continueAsNew =>
    obtain ⟨-, rfl⟩ := continueAsNew_some hs
    exact List.nil_sublist _

theorem readBalances_attempt {run run' : Run Balances} {reached : Bool}
    {reply : Except ActivityError Balances}
    (hrun : run.attempt maximumAttempts reached reply = some run') {b : Balances}
    (hb : readBalances run' = some b) : reply = .ok b := by
  obtain ⟨-, rfl⟩ := ActivityRun.attempt_some hrun
  obtain ⟨outcome, hout, hb⟩ := Option.bind_eq_some_iff.mp hb
  cases outcome with
  | error err => cases hb
  | ok b' =>
    cases hb
    exact ActivityRun.decided_ok hout

theorem held_read {o : Option Balances} {reply : Except ActivityError Balances}
    (ho : ∀ b, o = some b → reply = .ok b) : o.toList = [] ∨ ∃ b, reply = .ok b ∧ o.toList = [b] := by
  cases o with
  | none => exact .inl rfl
  | some b => exact .inr ⟨b, ho b rfl, rfl⟩

theorem attempt_read {reached : Bool} {reply : Except ActivityError Balances} (hnone : e.held = [])
    (hs : e.step h (.attempt reached (.balances reply)) = some e') :
    e'.held = [] ∨ ∃ b, reply = .ok b ∧ e'.held = [b] := by
  obtain ⟨-, hrefreshing⟩ := List.append_eq_nil_iff.mp hnone
  cases attempt_cases hs with
  | lookup hm hrun =>
    rw [held, hrefreshing, List.append_nil]
    exact held_read fun b hb => readBalances_attempt hrun hb

theorem refreshAttempt_read {i : ℕ} {reply : Except ActivityError Balances} (hnone : e.held = [])
    (hs : e.step h (.refreshAttempt i (.balances reply)) = some e') :
    e'.held = [] ∨ ∃ b, reply = .ok b ∧ e'.held = [b] := by
  obtain ⟨hmain, hrefreshing⟩ := List.append_eq_nil_iff.mp hnone
  obtain ⟨f, hi, hs⟩ := Option.bind_eq_some_iff.mp hs
  obtain ⟨phase, hphase, rfl⟩ := Option.map_eq_some_iff.mp hs
  rw [held, filterMap_set_of_nil hi hrefreshing, hmain, List.nil_append]
  split at hphase
  · rename_i heq
    cases heq
    obtain ⟨run', hrun, rfl⟩ := Option.map_eq_some_iff.mp hphase
    exact held_read fun b hb => readBalances_attempt hrun hb
  · rename_i heq
    cases heq
  · rename_i heq
    cases heq
  · cases hphase

end Execution
end CloudCredit.Accounting

namespace CloudCredit.System

open Library TigerBeetle Domain Ledger Accounting

/-- What is projected of a balance. -/
def projected (b : Balance) : QuotaSnapshotData :=
  ⟨(uint128Lo b.creditsPosted).toInt64, (uint128Lo b.debitsPosted).toInt64,
    (uint128Lo b.debitsPending).toInt64⟩

theorem uint128Lo_toInt {n : ℕ} (hn : n < 2 ^ 63) : (uint128Lo n).toInt64.toInt = n := by
  change (BitVec.ofNat 64 n).toInt = n
  rw [BitVec.toInt_eq_toNat_cond, BitVec.toNat_ofNat, Nat.mod_eq_of_lt (by omega)]
  split_ifs with hc
  · rfl
  · omega

/-- The balances are those of the accounts in the books. -/
def Reads (L : Books) (ids : Table ResourceType Uint128) (balances : Balances) : Prop :=
  ∀ r d, balances r = some d → ∃ i, ids r = some i ∧ d = projected (L.balance i)

theorem lookupAccountBalances_reads {att : LookupAttempt} {ids : Table ResourceType Uint128}
    {L : Books} {balances : Balances} (hok : lookupAccountBalances att ids L = .ok balances) :
    Reads L ids balances := by
  unfold lookupAccountBalances at hok
  split at hok
  · cases hok
  · cases hok
    intro r d hd
    obtain ⟨snapshot, hsnapshot, rfl⟩ := Option.map_eq_some_iff.mp hd
    obtain ⟨i, hi, hfind⟩ := Option.bind_eq_some_iff.mp hsnapshot
    obtain ⟨x, hx, rfl⟩ := Option.map_eq_some_iff.mp hfind
    have hid : x.1.id = i := by simpa using List.find?_some hx
    obtain ⟨j, -, hj⟩ := List.mem_filterMap.mp
      (att.reply.mem_order.mp (List.mem_of_find?_eq_some hx))
    obtain ⟨a, ha, rfl⟩ := Option.map_eq_some_iff.mp hj
    rw [show j = i from (Books.account?_some ha).2.symm.trans hid]
    exact ⟨i, hi, rfl⟩

/-- The event is an attempt to read the balances. -/
def TenantEvent.reads : TenantEvent → Bool
  | .lookup _ | .refreshLookup _ _ => true
  | _ => false

namespace Tenant

variable {h : Blake3} {tb : Service} {t : Tenant} {L : Books} {o : Outcome} {ev : TenantEvent}

/-- The balances the coroutines of a tenant hold. -/
def held (t : Tenant) : List Balances := (t.accounting.map Execution.held).getD []

theorem held_running {e : Execution} (he : t.accounting = some e) : t.held = e.held := by
  simp [held, he]

theorem act_held (hs : t.act h tb L ev = some o) (hev : ev.reads = false) :
    o.tenant.held.Sublist t.held := by
  have hrunning : ∀ e e' w, t.accounting = some e → o.tenant.accounting = some e' →
      e.step h w = some e' → w.readsBalances = false → o.tenant.held.Sublist t.held := by
    intro e e' w he he' hstep hw
    rw [held_running he, held_running he']
    exact Execution.step_held hstep hw
  cases ev with
  | rowAttempt reply =>
    obtain ⟨p, -, rfl⟩ := Option.map_eq_some_iff.mp hs
    exact List.Sublist.refl _
  | createAccounts att reported =>
    obtain ⟨p, -, rfl⟩ := Option.map_eq_some_iff.mp hs
    exact List.Sublist.refl _
  | allocate att reported =>
    obtain ⟨p, -, rfl⟩ := Option.map_eq_some_iff.mp hs
    exact List.Sublist.refl _
  | deliverProvisioning =>
    obtain ⟨p, -, rfl⟩ := Option.map_eq_some_iff.mp hs
    exact List.Sublist.refl _
  | startAccounting reply =>
    obtain ⟨p, -, rfl⟩ := Option.map_eq_some_iff.mp hs
    cases reply <;> exact List.nil_sublist _
  | workflow w =>
    simp only [act, workflow] at hs
    split_ifs at hs with hask
    obtain ⟨e, e', he, hstep, rfl⟩ := advance_some hs
    refine hrunning e e' w he rfl hstep (Bool.eq_false_iff.mpr fun hread => hask ?_)
    unfold Event.readsBalances at hread
    split at hread <;> first | rfl | cases hread
  | submitUsage att reported =>
    obtain ⟨e, site, flight, he, -, -, -, -, ⟨per, -, -, ho⟩ | ⟨err, e', -, hstep, ho⟩⟩ :=
      submitUsage_some hs
    · rw [ho]
      exact List.Sublist.refl _
    · exact hrunning e e' _ he (by rw [ho]) hstep rfl
  | submitGauges reported =>
    obtain ⟨e, site, flight, att, per, e', he, -, -, hstep, rfl⟩ := submitGauges_some hs
    exact hrunning e e' _ he rfl hstep rfl
  | credit i att reported =>
    obtain ⟨e, c, e', he, -, hstep, rfl⟩ := credit_some hs
    exact hrunning e e' _ he rfl hstep rfl
  | lookup att => cases hev
  | refreshLookup i att => cases hev

theorem act_read (ht : t.Sound h L) (hs : t.act h tb L ev = some o) (hev : ev.reads = true)
    (hnone : t.held = []) :
    o.tenant.held = [] ∨ ∃ b, Reads L t.provisioning.accountIDs b ∧ o.tenant.held = [b] := by
  have hread : ∀ e att b, t.accounting = some e →
      lookupAccountBalances att e.state.accountMap L = .ok b →
      Reads L t.provisioning.accountIDs b := by
    intro e att b he hb
    rw [show e.state.accountMap = t.provisioning.accountIDs from
      (ht.handed e he).tenant.accountMap] at hb
    exact lookupAccountBalances_reads hb
  cases ev with
  | lookup att =>
    obtain ⟨e, he, hs⟩ := Option.bind_eq_some_iff.mp hs
    obtain ⟨e₁, e', he₁, hstep, rfl⟩ := advance_some hs
    cases he.symm.trans he₁
    rw [held_running he] at hnone
    refine (Execution.attempt_read hnone hstep).imp id ?_
    rintro ⟨b, hb, hheld⟩
    exact ⟨b, hread e att b he hb, hheld⟩
  | refreshLookup i att =>
    obtain ⟨e, he, hs⟩ := Option.bind_eq_some_iff.mp hs
    obtain ⟨e₁, e', he₁, hstep, rfl⟩ := advance_some hs
    cases he.symm.trans he₁
    rw [held_running he] at hnone
    refine (Execution.refreshAttempt_read hnone hstep).imp id ?_
    rintro ⟨b, hb, hheld⟩
    exact ⟨b, hread e att b he hb, hheld⟩
  | _ => cases hev

end Tenant

namespace State

variable {h : Blake3} {tb : Service} {s s' : State} {u : Uint128} {ev : SystemEvent}

/-- The balances the coroutines of a tenant hold. -/
def held (s : State) (u : Uint128) : List Balances := ((s.tenants u).map Tenant.held).getD []

/-- The quota account a tenant knows for a resource. -/
def quotaID (s : State) (u : Uint128) (r : ResourceType) : Option Uint128 :=
  (s.tenants u).bind fun t => t.provisioning.accountIDs r

theorem held_registered {t : Tenant} (hu : s.tenants u = some t) : s.held u = t.held := by
  simp [held, hu]

/-- The event is an attempt of the tenant to read its balances. -/
def readsOf (u : Uint128) : SystemEvent → Bool
  | .tenant v w => v = u && w.reads
  | _ => false

theorem step_held (hs : s.Sound h) (hstep : s.step h tb ev = some s')
    (hread : readsOf u ev = true → s.held u = []) :
    (s'.held u).Sublist (s.held u) ∨
      ∃ b, readsOf u ev = true ∧ s'.held u = [b] ∧ Reads s.books (s.quotaID u) b := by
  cases stepped_of_step hstep with
  | started => exact .inl (List.Sublist.refl _)
  | @registered v =>
    left
    by_cases hv : u = v
    · subst hv
      simp [held, Tenant.held]
    · simp [held, Table.set_other _ hv]
  | @acted v w t o hv ho =>
    by_cases huv : u = v
    · subst huv
      have hheld : (s.commit tb u o).held u = o.tenant.held :=
        held_registered (Table.set_same _ _ _)
      rw [hheld, held_registered hv]
      by_cases hw : w.reads = true
      · have hnone := hread (by simp [readsOf, hw])
        rw [held_registered hv] at hnone
        rcases Tenant.act_read (hs.tenants u t hv) ho hw hnone with he | ⟨b, hb, he⟩
        · exact .inl (by rw [he]; exact List.nil_sublist _)
        · refine .inr ⟨b, by simp [readsOf, hw], he, ?_⟩
          rwa [show s.quotaID u = t.provisioning.accountIDs by funext r; simp [quotaID, hv]]
      · exact .inl (Tenant.act_held ho (by simpa using hw))
    · have hsame : (s.commit tb v o).held u = s.held u := by
        simp [held, commit, Table.set_other _ huv]
      exact .inl (by rw [hsame])

theorem step_quotaID (hs : s.Sound h) (hstep : s.step h tb ev = some s') {r : ResourceType}
    {i : Uint128} (hi : s.quotaID u r = some i) : s'.quotaID u r = some i := by
  obtain ⟨t, hu, hi⟩ := Option.bind_eq_some_iff.mp hi
  have hkept : ∀ t', s'.tenants u = some t' → Extends t.provisioning t'.provisioning →
      s'.quotaID u r = some i := by
    intro t' hu' hx
    rw [quotaID, hu', Option.bind_some]
    exact hx.ids r i hi
  cases stepped_of_step hstep with
  | started => exact hkept t hu (.refl _)
  | registered _ hnone => exact hkept t (Table.set_fresh hnone hu _) (.refl _)
  | @acted v w t₁ o hv ho =>
    by_cases huv : u = v
    · subst huv
      cases hu.symm.trans hv
      exact hkept o.tenant (Table.set_same _ _ _) (Tenant.act_sound (hs.tenants u t hu) ho).2
    · exact hkept t (by rw [← hu]; exact Table.set_other _ huv _) (.refl _)

end State

/-- A row of the table of balances. -/
abbrev SnapshotRow := (Uint128 × ResourceType) × QuotaSnapshotData

namespace Stored

variable {h : Blake3} {tb : Service} {S S' : Stored} {u : Uint128} {ev : StoredEvent}

/-- The rows an attempt writes to the table of balances, in their order. -/
def writtenRows (S : Stored) : StoredEvent → List SnapshotRow
  | .updateQuotaSnapshots v att =>
    ((S.snapshotting v).map fun b => (att.rows v b).take att.executed).getD []
  | .refreshQuotaSnapshots v i att =>
    ((S.refreshing v i).map fun b => (att.rows v b).take att.executed).getD []
  | _ => []

theorem step_rows (hs : S.step h tb ev = some S') :
    S'.db.quotaSnapshots = S.db.quotaSnapshots.setAll (S.writtenRows ev) := by
  cases step_writes hs with
  | tenant hu hphase hstep =>
    simp only [Database.insertTenant]
    split_ifs <;> rfl
  | mapping hu hphase hstep => rfl
  | snapshots hb hstep => simp [writtenRows, hb, Database.updateQuotaSnapshots]
  | refresh hb hstep => simp [writtenRows, hb, Database.updateQuotaSnapshots]
  | system hrows hstep => rfl

theorem snapshotting_held {b : Balances} (hb : S.snapshotting u = some b) : b ∈ S.state.held u := by
  obtain ⟨e, he, hb⟩ := Option.bind_eq_some_iff.mp hb
  obtain ⟨t, hu, he⟩ := Option.bind_eq_some_iff.mp he
  rw [State.held_registered hu, Tenant.held_running he, Execution.held]
  split at hb
  · rename_i site balances run hm
    cases hb
    simp [hm, Main.held]
  · cases hb

theorem refreshing_held {i : ℕ} {b : Balances} (hb : S.refreshing u i = some b) :
    b ∈ S.state.held u := by
  obtain ⟨e, he, hb⟩ := Option.bind_eq_some_iff.mp hb
  obtain ⟨t, hu, he⟩ := Option.bind_eq_some_iff.mp he
  obtain ⟨f, hf, hb⟩ := Option.bind_eq_some_iff.mp hb
  rw [State.held_registered hu, Tenant.held_running he, Execution.held]
  split at hb
  · rename_i balances run hm
    cases hb
    refine List.mem_append_right _ (List.mem_filterMap.mpr ⟨f, List.mem_of_getElem? hf, ?_⟩)
    rw [hm]
    rfl
  · cases hb

theorem writtenRows_held {x : SnapshotRow}
    (hx : x ∈ S.writtenRows ev) : ∃ b ∈ S.state.held x.1.1, b x.1.2 = some x.2 := by
  have hrow : ∀ (att : RowsAttempt) (v : Uint128) (b : Balances),
      x ∈ (att.rows v b).take att.executed → x.1.1 = v ∧ b x.1.2 = some x.2 := by
    intro att v b hx
    obtain ⟨r, -, hr⟩ := List.mem_filterMap.mp (List.mem_of_mem_take hx)
    obtain ⟨d, hd, rfl⟩ := Option.map_eq_some_iff.mp hr
    exact ⟨rfl, hd⟩
  unfold writtenRows at hx
  split at hx
  · rename_i v att
    cases hb : S.snapshotting v with
    | none => simp [hb] at hx
    | some b =>
      rw [hb] at hx
      obtain ⟨rfl, hd⟩ := hrow att v b hx
      exact ⟨b, snapshotting_held hb, hd⟩
  · rename_i v i att
    cases hb : S.refreshing v i with
    | none => simp [hb] at hx
    | some b =>
      rw [hb] at hx
      obtain ⟨rfl, hd⟩ := hrow att v b hx
      exact ⟨b, refreshing_held hb, hd⟩
  · cases hx

/-- Nobody of the tenant reads the balances while another coroutine of it still
holds what it has read, and it does not continue as new then. -/
def Exclusive (u : Uint128) (S : Stored) : StoredEvent → Prop
  | .system (.tenant v (.lookup _)) | .system (.tenant v (.refreshLookup _ _))
  | .system (.tenant v (.workflow .continueAsNew)) => v = u → (S.state.held u).isEmpty = true
  | _ => True

instance (u : Uint128) (S : Stored) (ev : StoredEvent) : Decidable (Exclusive u S ev) := by
  unfold Exclusive
  split <;> infer_instance

/-- The step of the system, which reads balances only by an event of its own. -/
theorem Writes.reads (hw : Writes h tb S ev S') (u : Uint128) :
    ∃ w, S.state.step h tb w = some S'.state ∧ (State.readsOf u w = true → ev = .system w) := by
  cases hw with
  | tenant hu hphase hstep => exact ⟨_, hstep, by simp [State.readsOf, TenantEvent.reads]⟩
  | mapping hu hphase hstep => exact ⟨_, hstep, by simp [State.readsOf, TenantEvent.reads]⟩
  | snapshots hb hstep => exact ⟨_, hstep, by simp [State.readsOf, TenantEvent.reads]⟩
  | refresh hb hstep => exact ⟨_, hstep, by simp [State.readsOf, TenantEvent.reads]⟩
  | system hrows hstep => exact ⟨_, hstep, fun _ => rfl⟩

theorem Exclusive.read {w : SystemEvent} (hex : Exclusive u S (.system w))
    (hread : State.readsOf u w = true) : S.state.held u = [] := by
  cases w with
  | tenant v w =>
    simp only [State.readsOf, Bool.and_eq_true, decide_eq_true_eq] at hread
    obtain ⟨rfl, hw⟩ := hread
    cases w with
    | lookup att => exact List.isEmpty_iff.mp (hex rfl)
    | refreshLookup i att => exact List.isEmpty_iff.mp (hex rfl)
    | _ => cases hw
  | _ => cases hread

theorem step_held (hs : S.state.Sound h) (hstep : S.step h tb ev = some S')
    (hex : Exclusive u S ev) :
    (S'.state.held u).Sublist (S.state.held u) ∨
      ∃ b, S.writtenRows ev = [] ∧ S'.state.held u = [b] ∧
        Reads S.state.books (S.state.quotaID u) b := by
  obtain ⟨w, hw, hread⟩ := (step_writes hstep).reads u
  have hturn : State.readsOf u w = true → S.state.held u = [] := by
    intro hr
    rw [hread hr] at hex
    exact hex.read hr
  refine (State.step_held hs hw hturn).imp id ?_
  rintro ⟨b, hr, hheld, hb⟩
  exact ⟨b, by rw [hread hr]; rfl, hheld, hb⟩

end Stored

/-- A run with the books after every step, oldest first, and with every value
that was written to the table of balances, newest first. -/
structure SnapshotTrace where
  stored : Stored := {}
  history : List Books := [{}]
  writes : List SnapshotRow := []

namespace SnapshotTrace

variable (h : Blake3) (tb : Service)

def step (T : SnapshotTrace) (ev : StoredEvent) : Option SnapshotTrace :=
  (T.stored.step h tb ev).map fun S =>
    { stored := S
      history := T.history ++ [S.state.books]
      writes := (T.stored.writtenRows ev).reverse ++ T.writes }

variable {h tb} {T T' : SnapshotTrace} {u : Uint128} {ev : StoredEvent}

theorem exists_of_run {es : List StoredEvent} {S : Stored}
    (hr : runSteps (Stored.step h tb) T.stored es = some S) :
    ∃ T', runSteps (step h tb) T es = some T' ∧ T'.stored = S := by
  induction es generalizing T with
  | nil =>
    cases hr
    exact ⟨T, rfl, rfl⟩
  | cons ev es ih =>
    obtain ⟨m, hm, hr⟩ := runSteps_cons (Stored.step h tb) hr
    obtain ⟨M, hM, rfl⟩ : ∃ M, step h tb T ev = some M ∧ M.stored = m := by
      simp [step, hm]
    obtain ⟨T', hT', hstored⟩ := ih hr
    exact ⟨T', by simp [runSteps, hM, hT'], hstored⟩

/-- The value is that of the tenant's row at a position in the history. -/
def SnapshotOf (u : Uint128) (T : SnapshotTrace) (position : ℕ) (r : ResourceType)
    (d : QuotaSnapshotData) : Prop :=
  ∃ L i, T.history[position]? = some L ∧ T.stored.state.quotaID u r = some i ∧
    d = projected (L.balance i)

/-- The history is that of the ledger, and the table has the newest values. -/
structure Kept (h : Blake3) (T : SnapshotTrace) : Prop where
  sound : T.stored.state.Sound h
  last : T.history.getLast? = some T.stored.state.books
  wf : ∀ L ∈ T.history, L.Wf
  grows : T.history.Pairwise Books.Grows
  current : ∀ L ∈ T.history, L.Grows T.stored.state.books
  rows : ∀ k, T.stored.db.quotaSnapshots k = (T.writes.find? (·.1 = k)).map Prod.snd

/-- The values written to the rows of a tenant, each with a position in the
history it is from. Positions do not decrease, and whoever holds balances has
read them at least as late. -/
structure Ordered (u : Uint128) (T : SnapshotTrace)
    (stamped : List (ℕ × SnapshotRow)) : Prop where
  writes : stamped.map Prod.snd = T.writes.filter (·.1.1 = u)
  ordered : stamped.Pairwise fun newer older => older.1 ≤ newer.1
  shows : ∀ w ∈ stamped, T.SnapshotOf u w.1 w.2.1.2 w.2.2
  single : (T.stored.state.held u).length ≤ 1
  held : ∀ b ∈ T.stored.state.held u, ∃ n, (∀ w ∈ stamped, w.1 ≤ n) ∧
    ∀ r d, b r = some d → T.SnapshotOf u n r d

theorem Kept.step (hk : Kept h T) (hs : step h tb T ev = some T') : Kept h T' := by
  obtain ⟨S, hstep, rfl⟩ := Option.map_eq_some_iff.mp hs
  obtain ⟨w, hw⟩ := (Stored.step_writes hstep).state
  have hsound := State.step_sound hk.sound hw
  have hgrows : ∀ L ∈ T.history, L.Grows S.state.books := fun L hL =>
    (hk.current L hL).trans (State.step_grows hw)
  refine ⟨hsound, by simp, ?_, ?_, ?_, fun k => ?_⟩
  · intro L hL
    rcases List.mem_append.mp hL with hL | hL
    · exact hk.wf L hL
    · rw [List.mem_singleton.mp hL]
      exact hsound.wf
  · refine List.pairwise_append.mpr ⟨hk.grows, List.pairwise_singleton _ _, fun L hL M hM => ?_⟩
    rw [List.mem_singleton.mp hM]
    exact hgrows L hL
  · intro L hL
    rcases List.mem_append.mp hL with hL | hL
    · exact hgrows L hL
    · rw [List.mem_singleton.mp hL]
      exact Books.Grows.refl _
  · rw [Stored.step_rows hstep, Table.setAll_apply, List.find?_append, hk.rows k]
    cases (T.stored.writtenRows ev).reverse.find? (·.1 = k) <;> rfl

theorem SnapshotOf.step (hk : Kept h T) (hs : SnapshotTrace.step h tb T ev = some T') {n : ℕ}
    {r : ResourceType} {d : QuotaSnapshotData} (hd : T.SnapshotOf u n r d) : T'.SnapshotOf u n r d := by
  obtain ⟨S, hstep, rfl⟩ := Option.map_eq_some_iff.mp hs
  obtain ⟨w, hw⟩ := (Stored.step_writes hstep).state
  obtain ⟨L, i, hL, hi, rfl⟩ := hd
  refine ⟨L, i, ?_, State.step_quotaID hk.sound hw hi, rfl⟩
  rw [← hL]
  exact List.getElem?_append_left (List.getElem?_eq_some_iff.mp hL).1

theorem Ordered.unwritten {stamped : List (ℕ × SnapshotRow)}
    (hk : Kept h T) (ho : Ordered u T stamped) (hs : SnapshotTrace.step h tb T ev = some T')
    (hrows : ∀ x ∈ T.stored.writtenRows ev, x.1.1 ≠ u)
    (hsingle : (T'.stored.state.held u).length ≤ 1)
    (hheld : ∀ b ∈ T'.stored.state.held u, ∃ n, (∀ w ∈ stamped, w.1 ≤ n) ∧
      ∀ r d, b r = some d → T'.SnapshotOf u n r d) : Ordered u T' stamped := by
  refine ⟨?_, ho.ordered, fun w hw => (ho.shows w hw).step hk hs, hsingle, hheld⟩
  obtain ⟨S, hstep, rfl⟩ := Option.map_eq_some_iff.mp hs
  rw [List.filter_append, List.filter_eq_nil_iff.mpr, List.nil_append]
  · exact ho.writes
  · intro x hx
    simpa using hrows x (List.mem_reverse.mp hx)

/-- The one coroutine that holds balances writes some of them. -/
theorem Ordered.written {stamped : List (ℕ × SnapshotRow)}
    (hk : Kept h T) (ho : Ordered u T stamped) (hs : SnapshotTrace.step h tb T ev = some T')
    {b : Balances} (hb : T.stored.state.held u = [b])
    (hsub : (T'.stored.state.held u).Sublist [b]) : ∃ stamped', Ordered u T' stamped' := by
  obtain ⟨n, hle, hshows⟩ := ho.held b (by rw [hb]; exact List.mem_singleton_self b)
  have hrow : ∀ x ∈ T.stored.writtenRows ev, x.1.1 = u → T'.SnapshotOf u n x.1.2 x.2 := by
    intro x hx hu
    obtain ⟨b', hb', hd⟩ := Stored.writtenRows_held hx
    rw [hu, hb] at hb'
    rw [List.mem_singleton.mp hb'] at hd
    exact (hshows _ _ hd).step hk hs
  set rows := (T.stored.writtenRows ev).reverse.filter (·.1.1 = u) with hrows
  have hmem : ∀ w ∈ rows.map (fun x => (n, x)), w.1 = n ∧ T'.SnapshotOf u w.1 w.2.1.2 w.2.2 := by
    intro w hw
    obtain ⟨x, hx, rfl⟩ := List.mem_map.mp hw
    obtain ⟨hx, hu⟩ := List.mem_filter.mp hx
    exact ⟨rfl, hrow x (List.mem_reverse.mp hx) (by simpa using hu)⟩
  refine ⟨rows.map (fun x => (n, x)) ++ stamped, ?_, ?_, ?_, hsub.length_le, ?_⟩
  · obtain ⟨S, hstep, rfl⟩ := Option.map_eq_some_iff.mp hs
    rw [List.filter_append, List.map_append, ho.writes, ← hrows, List.map_map]
    simp [Function.comp_def]
  · refine List.pairwise_append.mpr ⟨?_, ho.ordered, fun w hw y hy => ?_⟩
    · refine List.pairwise_of_forall_mem_list fun w hw y hy => ?_
      rw [(hmem w hw).1, (hmem y hy).1]
    · rw [(hmem w hw).1]
      exact hle y hy
  · intro w hw
    rcases List.mem_append.mp hw with hw | hw
    · exact (hmem w hw).2
    · exact (ho.shows w hw).step hk hs
  · intro b' hb'
    rw [List.mem_singleton.mp (hsub.subset hb')]
    refine ⟨n, fun w hw => ?_, fun r d hd => (hshows r d hd).step hk hs⟩
    rcases List.mem_append.mp hw with hw | hw
    · exact (hmem w hw).1.le
    · exact hle w hw

theorem Ordered.step {stamped : List (ℕ × SnapshotRow)}
    (hk : Kept h T) (ho : Ordered u T stamped) (hex : Stored.Exclusive u T.stored ev)
    (hs : SnapshotTrace.step h tb T ev = some T') : ∃ stamped', Ordered u T' stamped' := by
  obtain ⟨S, hstep, hT'⟩ := Option.map_eq_some_iff.mp hs
  have hstate : T'.stored = S := by rw [← hT']
  rcases Stored.step_held hk.sound hstep hex with hsub | ⟨b, hnone, hheld, hread⟩
  · rw [← hstate] at hsub
    cases hheld : T.stored.state.held u with
    | nil =>
      rw [hheld] at hsub
      have hnone := List.sublist_nil.mp hsub
      refine ⟨stamped, ho.unwritten hk hs (fun x hx hu => ?_) (by simp [hnone]) (by simp [hnone])⟩
      obtain ⟨b, hb, -⟩ := Stored.writtenRows_held hx
      rw [hu, hheld] at hb
      cases hb
    | cons b bs =>
      have hsingle := ho.single
      rw [hheld] at hsingle hsub
      obtain rfl : bs = [] := List.eq_nil_of_length_eq_zero (by simpa using hsingle)
      exact ho.written hk hs hheld hsub
  · rw [← hstate] at hheld
    refine ⟨stamped, ho.unwritten hk hs (by simp [hnone]) (by simp [hheld]) fun b' hb' => ?_⟩
    rw [hheld] at hb'
    cases List.mem_singleton.mp hb'
    refine ⟨T.history.length - 1, fun w hw => ?_, fun r d hd => ?_⟩
    · obtain ⟨L, -, hL, -⟩ := ho.shows w hw
      exact Nat.le_sub_one_of_lt (List.getElem?_eq_some_iff.mp hL).1
    · obtain ⟨i, hi, rfl⟩ := hread r d hd
      refine SnapshotOf.step hk hs ⟨T.stored.state.books, i, ?_, hi, rfl⟩
      rw [← hk.last, List.getLast?_eq_getElem?]

theorem initial_kept (h : Blake3) : Kept h {} := by
  refine ⟨State.initial_sound, rfl, ?_, ?_, ?_, fun k => rfl⟩
  · intro L hL
    rw [List.mem_singleton.mp hL]
    exact Books.Wf.empty
  · exact List.pairwise_singleton _ _
  · intro L hL
    rw [List.mem_singleton.mp hL]
    exact Books.Grows.refl _

theorem initial_ordered (u : Uint128) : Ordered u {} [] := by
  constructor <;> simp [State.held, State.initial]

theorem run_ordered {es : List StoredEvent} (hk : Kept h T)
    {stamped : List (ℕ × SnapshotRow)} (ho : Ordered u T stamped)
    (hex : Along (Stored.step h tb) (Stored.Exclusive u) T.stored es)
    (hr : runSteps (SnapshotTrace.step h tb) T es = some T') :
    Kept h T' ∧ ∃ stamped', Ordered u T' stamped' := by
  induction es generalizing T stamped with
  | nil =>
    cases hr
    exact ⟨hk, stamped, ho⟩
  | cons ev es ih =>
    obtain ⟨M, hM, hr⟩ := runSteps_cons (SnapshotTrace.step h tb) hr
    obtain ⟨stamped', ho'⟩ := ho.step hk hex.1 hM
    obtain ⟨S, hstep, hS⟩ := Option.map_eq_some_iff.mp hM
    refine ih (hk.step hM) ho' (hex.2 _ ?_) hr
    rw [hstep, ← hS]

theorem Kept.creditsTotal_le (hk : Kept h T) {m n : ℕ} (hmn : m ≤ n) {r : ResourceType}
    {d d' : QuotaSnapshotData} (hd : T.SnapshotOf u m r d) (hd' : T.SnapshotOf u n r d')
    (hbound : ∀ i, T.stored.state.quotaID u r = some i →
      (T.stored.state.books.balance i).creditsPosted < 2 ^ 63) :
    d.creditsTotal ≤ d'.creditsTotal := by
  obtain ⟨L, i, hL, hi, rfl⟩ := hd
  obtain ⟨M, j, hM, hj, rfl⟩ := hd'
  cases hi.symm.trans hj
  have hLmem := List.mem_of_getElem? hL
  have hMmem := List.mem_of_getElem? hM
  have hgrows : L.Grows M := by
    rcases hmn.eq_or_lt with rfl | hlt
    · cases hL.symm.trans hM
      exact Books.Grows.refl _
    · obtain ⟨hm, rfl⟩ := List.getElem?_eq_some_iff.mp hL
      obtain ⟨hn, rfl⟩ := List.getElem?_eq_some_iff.mp hM
      exact List.pairwise_iff_getElem.mp hk.grows m n hm hn hlt
  have hle := hgrows.creditsPosted_le (hk.wf L hLmem) (hk.wf M hMmem) i
  have hlast := (hk.current M hMmem).creditsPosted_le (hk.wf M hMmem) hk.sound.wf i
  have hlt := hbound i hi
  rw [Int64.le_iff_toInt_le]
  simp only [projected]
  rw [uint128Lo_toInt (by omega), uint128Lo_toInt (by omega)]
  exact_mod_cast hle

end SnapshotTrace

/-- If the coroutines of a tenant take turns from their reading to their writing,
its rows follow the ledger. The values of the rows, newest first, are those of
positions in the history of the ledger that do not decrease; the table has the
newest; and of two values of one row the newer has no lower total of credits. -/
theorem Stored.projection_follows_ledger {h : Blake3} {tb : Service} {S : Stored} {u : Uint128}
    (es : List StoredEvent) (hr : runSteps (step h tb) {} es = some S)
    (hex : Along (step h tb) (Exclusive u) {} es) :
    ∃ (T : SnapshotTrace) (stamped : List (ℕ × SnapshotRow)),
      runSteps (SnapshotTrace.step h tb) {} es = some T ∧ T.stored = S ∧
      (∀ r, S.db.quotaSnapshots (u, r) = (T.writes.find? (·.1 = (u, r))).map Prod.snd) ∧
      stamped.map Prod.snd = T.writes.filter (·.1.1 = u) ∧
      (stamped.Pairwise fun newer older => older.1 ≤ newer.1) ∧
      (∀ w ∈ stamped, T.SnapshotOf u w.1 w.2.1.2 w.2.2) ∧
      ∀ r, (∀ i, S.state.quotaID u r = some i →
          (S.state.books.balance i).creditsPosted < 2 ^ 63) →
        (T.writes.filter (·.1 = (u, r))).Pairwise fun newer older =>
          older.2.creditsTotal ≤ newer.2.creditsTotal := by
  obtain ⟨T, hT, rfl⟩ := SnapshotTrace.exists_of_run (T := {}) hr
  obtain ⟨hk, stamped, ho⟩ := SnapshotTrace.run_ordered (SnapshotTrace.initial_kept h)
    (SnapshotTrace.initial_ordered u) hex hT
  refine ⟨T, stamped, hT, rfl, fun r => hk.rows (u, r), ho.writes, ho.ordered, ho.shows,
    fun r hbound => ?_⟩
  have hrow : T.writes.filter (·.1 = (u, r)) =
      (stamped.filter (·.2.1.2 = r)).map Prod.snd := by
    have hkey : T.writes.filter (·.1 = (u, r)) =
        (T.writes.filter (·.1.1 = u)).filter (·.1.2 = r) := by
      rw [List.filter_filter]
      refine List.filter_congr fun x _ => ?_
      simp [Prod.ext_iff, and_comm]
    rw [hkey, ← ho.writes, List.filter_map]
    rfl
  rw [hrow, List.pairwise_map]
  refine (ho.ordered.filter _).imp_of_mem fun {newer older} hnewer holder hle => ?_
  obtain ⟨hnewer, hr⟩ := List.mem_filter.mp hnewer
  obtain ⟨holder, hr'⟩ := List.mem_filter.mp holder
  have hshows := ho.shows newer hnewer
  have hshows' := ho.shows older holder
  rw [of_decide_eq_true hr] at hshows
  rw [of_decide_eq_true hr'] at hshows'
  exact hk.creditsTotal_le hle hshows' hshows hbound

/-- The flush of one heartbeat, up to its reading of the balances. -/
def readingFlush : List StoredEvent :=
  (sampleBatchOf [sampleHeartbeat 1] 0 ++ sampleSubmission ++
    [TenantEvent.lookup {}, .workflow (.deliver false)]).map (.system ∘ .tenant sampleTenant)

/-- A credit is issued, and its handler reads, writes and returns. -/
def wholeIssue : List StoredEvent :=
  [TenantEvent.workflow (.update sampleCredit), .credit 0 {} true, .workflow (.creditDeliver 0),
    .refreshLookup 0 {}, .workflow (.refreshDeliver 0)].map (.system ∘ .tenant sampleTenant) ++
  .refreshQuotaSnapshots sampleTenant 0 {} ::
    [TenantEvent.workflow (.refreshDeliver 0), .workflow (.refreshAttempt 0 (.done (.ok ()))),
      .workflow (.refreshDeliver 0)].map (.system ∘ .tenant sampleTenant)

/-- The flush writes what it has read before the credit is issued. -/
def turnTaking : List StoredEvent :=
  storedProvisioning 8 20 ++ readingFlush ++ [.updateQuotaSnapshots sampleTenant {},
    .system (.tenant sampleTenant (.workflow (.deliver false)))] ++ wholeIssue

/-- The total of the cpu row of the sample tenant. -/
def Stored.cpuTotal (S : Stored) : Option Int64 :=
  (S.db.quotaSnapshots (sampleTenant, .cpuHours)).map (·.creditsTotal)

theorem turnTaking_follows_ledger :
    ∃ S T, runSteps (Stored.step .positional Reference.service) {} turnTaking = some S ∧
      runSteps (SnapshotTrace.step .positional Reference.service) {} turnTaking = some T ∧
      S.cpuTotal = some 108 ∧
      (T.writes.filter (·.1 = (sampleTenant, .cpuHours))).map (·.2.creditsTotal) = [108, 8] ∧
      (T.writes.filter (·.1 = (sampleTenant, .cpuHours))).Pairwise fun newer older =>
        older.2.creditsTotal ≤ newer.2.creditsTotal := by
  obtain ⟨S, hr, hp⟩ := runSteps_any (Stored.step .positional Reference.service) {} turnTaking
    (fun S => S.cpuTotal = some 108 && (S.state.quotaID sampleTenant .cpuHours).all fun i =>
      (S.state.books.balance i).creditsPosted < 2 ^ 63) (by decide +kernel)
  simp only [Bool.and_eq_true, Option.all_eq_true, decide_eq_true_eq] at hp
  obtain ⟨T, hT, hwrites⟩ := runSteps_any (SnapshotTrace.step .positional Reference.service) {}
    turnTaking (fun T => (T.writes.filter (·.1 = (sampleTenant, .cpuHours))).map
      (·.2.creditsTotal) = [108, 8]) (by decide +kernel)
  have hex : Along (Stored.step .positional Reference.service) (Stored.Exclusive sampleTenant) {}
    turnTaking := along_of_alongTest _ (by decide +kernel)
  obtain ⟨T', -, hT', -, -, -, -, -, hordered⟩ := Stored.projection_follows_ledger turnTaking hr hex
  cases hT.symm.trans hT'
  exact ⟨S, T, hr, hT, hp.1, of_decide_eq_true hwrites, hordered .cpuHours hp.2⟩

/-- Nothing makes the coroutines take turns. The flush reads, the credit is issued
and confirmed with its total in the table, and the flush writes the old total. -/
theorem old_reading_hides_credit :
    ∃ S S' t e, runSteps (Stored.step .positional Reference.service) {}
        (storedProvisioning 8 20 ++ readingFlush ++ wholeIssue) = some S ∧
      S.state.tenants sampleTenant = some t ∧ t.accounting = some e ∧
      (e.history.returned.map fun x => x.2.toOption.bind fun result =>
        (result.balances .cpuHours).map (·.creditsTotal)) = [some 108] ∧
      S.cpuTotal = some 108 ∧
      S.step .positional Reference.service (.updateQuotaSnapshots sampleTenant {}) = some S' ∧
      S'.cpuTotal = some 8 := by
  obtain ⟨S, hr, hp⟩ := runSteps_any (Stored.step .positional Reference.service) {}
    (storedProvisioning 8 20 ++ readingFlush ++ wholeIssue)
    (fun S => ((S.state.tenants sampleTenant).any fun t => t.accounting.any fun e =>
      (e.history.returned.map fun x => x.2.toOption.bind fun result =>
        (result.balances .cpuHours).map (·.creditsTotal)) = [some 108]) && S.cpuTotal = some 108 &&
      (S.step .positional Reference.service (.updateQuotaSnapshots sampleTenant {})).any fun S' =>
        S'.cpuTotal = some 8) (by decide +kernel)
  simp only [Bool.and_eq_true, Option.any_eq_true, decide_eq_true_eq] at hp
  obtain ⟨⟨⟨t, ht, e, he, hreturned⟩, htotal⟩, S', hstep, hhidden⟩ := hp
  exact ⟨S, S', t, e, hr, ht, he, hreturned, htotal, hstep, hhidden⟩

end CloudCredit.System
