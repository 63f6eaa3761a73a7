import CloudCredit.Accounting.Answerable
import CloudCredit.Accounting.GaugeRecords
import CloudCredit.Ledger.GaugeAdmission
import CloudCredit.TigerBeetle.OneLedger

/-!
# The gauge updates of a batch on one account

The clusters of a batch are visited in any order, each giving back its old reservation just
before it asks for the new one. The usage transfers of the batch do not touch the gauge
account, so the new reservations are granted as changes that are admitted one after the
other on the books before the call. What the call returns and leaves behind is a function of
which of them are granted.
-/
namespace CloudCredit.Accounting

open Library TigerBeetle Domain Ledger

section Bypasses

variable {tb : Service} {L L' M : Books} {t : Transfer} {ts : List Transfer}
  {r : CreateTransferResult} {ids : List Uint128} {l : UInt32} {a b : Account}
  {us : List GaugePendingUpdate}

/-- The books `L'` follow on `L` with events that use the identifiers `ids`, reserve nothing
and do not touch the accounts of the ledger `l`. -/
structure Bypasses (L : Books) (ids : List Uint128) (l : UInt32) (L' : Books) : Prop where
  wf : L'.Wf
  accounts : L'.accounts = L.accounts
  live : L'.live = L.live
  fresh : ∀ i, L.Fresh i → i ∉ ids → L'.Fresh i
  balance : ∀ a ∈ L.accounts, a.ledger = l → L'.balance a.id = L.balance a.id

theorem Bypasses.trans {ids' : List Uint128} (h : Bypasses L ids l L') (h' : Bypasses L' ids' l M) :
    Bypasses L (ids ++ ids') l M where
  wf := h'.wf
  accounts := h'.accounts.trans h.accounts
  live := h'.live.trans h.live
  fresh i hi hnot := by
    rw [List.mem_append, not_or] at hnot
    exact h'.fresh i (h.fresh i hi hnot.1) hnot.2
  balance a ha hl := (h'.balance a (h.accounts ▸ ha) hl).trans (h.balance a ha hl)

theorem bypasses_of_answers (ha : Answers L t r L') (hL : L.Wf) (hposts : t.posts = true)
    (hledger : t.ledger ≠ l) : Bypasses L [t.id] l L' := by
  obtain ⟨hp, hv⟩ : t.flags.pending = false ∧ t.flags.voidPendingTransfer = false := by
    simpa [Transfer.posts] using hposts
  have hsame : L'.live = L.live ∧ (∀ i, L.Fresh i → i ∉ [t.id] → L'.Fresh i) ∧
      ∀ a ∈ L.accounts, a.ledger = l → L'.balance a.id = L.balance a.id := by
    cases ha with
    | repeated he => exact ⟨rfl, fun _ hi _ => hi, fun _ _ _ => rfl⟩
    | alreadyFailed hn hf => exact ⟨rfl, fun _ hi _ => hi, fun _ _ _ => rfl⟩
    | overflow hf hv hi ho hr => exact ⟨rfl, fun _ hi _ => hi, fun _ _ _ => rfl⟩
    | invalid hf hv hi hr hbooks =>
      rcases hbooks with rfl | rfl
      · exact ⟨rfl, fun _ hi _ => hi, fun _ _ _ => rfl⟩
      · exact ⟨rfl, fun _ hi hnot => fresh_fail hi (by simpa using hnot), fun _ _ _ => rfl⟩
    | exceedsCredits hf hv hi ho hx =>
      exact ⟨rfl, fun _ hi hnot => fresh_fail hi (by simpa using hnot), fun _ _ _ => rfl⟩
    | posted hf hv hi ho hx hp =>
      refine ⟨Books.live_post hposts, fun i hi hnot => ?_, fun a ha hl => ?_⟩
      · exact fresh_cons hi (by simpa using hnot) rfl rfl
      · obtain ⟨hdebit, hcredit⟩ := Books.ends_ne_of_ledger_ne hL hi ha (hl ▸ hledger)
        simp [Books.post, hdebit, hcredit]
    | _ => simp_all
  exact ⟨ha.wf hL, ha.accounts_eq, hsame.1, hsame.2.1, hsame.2.2⟩

theorem createTransfers_bypasses (hL : L.Wf) (hposts : ∀ t ∈ ts, t.posts = true)
    (hledger : ∀ t ∈ ts, t.ledger ≠ l) :
    Bypasses L (ts.map (·.id)) l (tb.createTransfers L ts).2 := by
  induction ts generalizing L with
  | nil => exact ⟨hL, rfl, rfl, fun _ hi _ => hi, fun _ _ _ => rfl⟩
  | cons t ts ih =>
    rw [List.forall_mem_cons] at hposts hledger
    have hhead := bypasses_of_answers (tb.transfer_documented L t) hL hposts.1 hledger.1
    exact hhead.trans (ih hhead.wf hposts.2 hledger.2)

theorem Bypasses.prepared (h : Bypasses L ids l L') {account : Uint128} (hp : Prepared L account us)
    (hnot : ∀ u ∈ us, u.newPendingID ∉ ids ∧ u.voidTransferID ∉ ids) :
    Prepared L' account us :=
  { hp with
    live := fun i hi => h.live ▸ hp.live i hi
    fresh := fun u hu => ⟨h.fresh _ (hp.fresh u hu).1 (hnot u hu).1,
      h.fresh _ (hp.fresh u hu).2 (hnot u hu).2⟩ }

theorem Bypasses.serviceable (h : Bypasses L ids l L') (hs : Serviceable L a b us) (ha : a.ledger = l)
    (hb : b.ledger = l) : Serviceable L' a b us :=
  { hs with
    quota := h.accounts ▸ hs.quota
    sink := h.accounts ▸ hs.sink
    olds := fun p hpl => hs.olds p (h.live ▸ hpl)
    room := by
      rw [h.balance a hs.quota ha, h.balance b hs.sink hb]
      exact hs.room }

/-- The updates give back and ask for the same. -/
theorem Bypasses.changes (h : Bypasses L ids l L') (hL : L.Wf) {account : Uint128}
    (hp : Prepared L account us) : us.map (·.change L') = us.map (·.change L) := by
  refine List.map_congr_left fun u hu => ?_
  cases hold : u.oldPendingID with
  | none => simp [GaugePendingUpdate.change, hold]
  | some i =>
    obtain ⟨p, hpl, rfl⟩ := hp.live i (List.mem_filterMap.mpr ⟨u, hu, hold⟩)
    simp [GaugePendingUpdate.change, hold, hL.transfer?_eq (Books.mem_live.mp hpl).1,
      h.wf.transfer?_eq (Books.mem_live.mp (h.live ▸ hpl)).1]

end Bypasses

/-- The gauge updates of a batch in the order `o`. -/
def orderedUpdates (input : TBBatchInput) (o : IterationOrder String) : List GaugePendingUpdate :=
  (gaugeUpdates input o).map Prod.snd

/-- The gauge updates of a batch are in order: they go from the account `a` to the account
`b` of the ledger of the gauge, the recorded reservations are live, and the identifiers are
given and used for nothing else. -/
structure GaugesReady (h : Blake3) (L : Books) (a b : Account) (input : TBBatchInput) : Prop where
  wf : L.Wf
  limited : a.flags.debitsMustNotExceedCredits = true
  ledger : a.ledger = ResourceType.activeNodes.ledgerID ∧
    b.ledger = ResourceType.activeNodes.ledgerID
  prepared : Prepared L a.id (orderedUpdates input (.listed String))
  serviceable : Serviceable L a b (orderedUpdates input (.listed String))
  apart : ∀ x ∈ usageTransfers h input, ∀ u ∈ orderedUpdates input (.listed String),
    u.newPendingID ≠ x.2.transferID ∧ u.voidTransferID ≠ x.2.transferID

section Ready

variable {h : Blake3} {input : TBBatchInput} {tb : Service} {att : BatchAttempt} {L : Books}
  {a b : Account} {result : TBBatchResult}

theorem orderedUpdates_perm (input : TBBatchInput) (o o' : IterationOrder String) :
    (orderedUpdates input o).Perm (orderedUpdates input o') :=
  (gaugeUpdates_perm o o').map _

theorem gaugeVerdicts_length (h : Blake3) (input : TBBatchInput) (tb : Service) (att : BatchAttempt)
    (L : Books) :
    (gaugeVerdicts h input tb att L).length = (orderedUpdates input att.clusters).length :=
  gaugeAnswers_length _ _ _ _ _

variable (hready : GaugesReady h L a b input)
include hready

theorem GaugesReady.bypasses (tb : Service) :
    Bypasses L ((usageRequest h input).map (·.id)) ResourceType.activeNodes.ledgerID
      (tb.createTransfers L (usageRequest h input)).2 :=
  createTransfers_bypasses hready.wf (fun _ ht => (mem_usageRequest ht).1) fun _ ht =>
    usage_ledger_ne ht

/-- After the first request the updates are still in order, however they are visited. -/
theorem GaugesReady.after (tb : Service) (o : IterationOrder String) :
    Prepared (tb.createTransfers L (usageRequest h input)).2 a.id (orderedUpdates input o) ∧
      Serviceable (tb.createTransfers L (usageRequest h input)).2 a b (orderedUpdates input o) := by
  have hbypass := hready.bypasses tb
  have hperm := orderedUpdates_perm input (.listed String) o
  refine ⟨(hbypass.prepared hready.prepared fun u hu => ?_).perm hperm,
    (hbypass.serviceable hready.serviceable hready.ledger.1 hready.ledger.2).perm hperm⟩
  simp only [usageRequest, List.map_map, List.mem_map, not_exists, not_and, Function.comp_apply]
  exact ⟨fun x hx he => (hready.apart x hx u hu).1 he.symm,
    fun x hx he => (hready.apart x hx u hu).2 he.symm⟩

theorem GaugesReady.classified (tb : Service) (att : BatchAttempt) :
    ∀ x ∈ gaugeVerdicts h input tb att L, x.Classified :=
  gaugeAnswers_classified (hready.bypasses tb).wf (hready.after tb att.clusters).1
    (hready.after tb att.clusters).2

theorem GaugesReady.settles (tb : Service) (att : BatchAttempt) :
    BatchSettles (tb.createTransfers L (usageRequest h input)).2 a.id
      (orderedUpdates input att.clusters) (gaugeVerdicts h input tb att L)
      (tb.createTransfers (tb.createTransfers L (usageRequest h input)).2
        (gaugeRequest input att)).2 := by
  rw [createTransfers_gaugeRequest]
  exact gaugeAnswers_settles (hready.bypasses tb).wf (hready.after tb att.clusters).1
    (hready.classified tb att)

end Ready

section Order

variable {input : TBBatchInput}

theorem clusterUpdates_of_mem {c : String} {x : String × GaugePendingUpdate}
    (hx : x ∈ clusterUpdates input c) : clusterUpdates input c = [x] := by
  refine eq_singleton_of_forall (clusterUpdates_keys_nodup c).of_map hx fun y hy => ?_
  obtain ⟨hcx, hb, hl, hux⟩ := mem_clusterUpdates.mp hx
  obtain ⟨hcy, hb', hl', huy⟩ := mem_clusterUpdates.mp hy
  have hrx : x.2.resource = .activeNodes := of_decide_eq_true (gaugeUpdate?_some hux).1
  have hry : y.2.resource = .activeNodes := of_decide_eq_true (gaugeUpdate?_some huy).1
  cases hl.symm.trans hl'
  rw [hrx] at hux
  rw [hry, hux, Option.some.injEq] at huy
  exact Prod.ext (hcy.trans hcx.symm) huy.symm

theorem exists_order {ys : List (String × GaugePendingUpdate)}
    (hys : ys.Perm (gaugeUpdates input (.listed String))) :
    ∃ o : IterationOrder String, gaugeUpdates input o = ys := by
  have hkeys : (gaugeUpdates input (.listed String)).map Prod.fst =
      (clusterKeys input.heartbeats).filter (clusterUpdates input · ≠ []) := by
    rw [gaugeUpdates, List.map_flatMap]
    change (clusterKeys input.heartbeats).flatMap _ = _
    induction clusterKeys input.heartbeats with
    | nil => rfl
    | cons c cs ih =>
      rw [List.flatMap_cons, ih, List.filter_cons]
      cases hc : clusterUpdates input c with
      | nil => simp
      | cons x xs =>
        have hx : x ∈ clusterUpdates input c := by simp [hc]
        have hone := clusterUpdates_of_mem hx
        rw [hc] at hone
        simp [hone, (mem_clusterUpdates.mp hx).1]
  have hown : ∀ y ∈ ys, clusterUpdates input y.1 = [y] := by
    intro y hy
    obtain ⟨c, -, hc⟩ := List.mem_flatMap.mp (hys.mem_iff.mp hy)
    obtain rfl := (mem_clusterUpdates.mp hc).1
    exact clusterUpdates_of_mem hc
  have hperm : (ys.map Prod.fst ++ (clusterKeys input.heartbeats).filter
      (fun c => !decide (clusterUpdates input c ≠ []))).Perm (clusterKeys input.heartbeats) := by
    have hfst := hys.map Prod.fst
    rw [hkeys] at hfst
    exact (hfst.append_right _).trans (List.filter_append_perm _ _)
  obtain ⟨o, ho⟩ := IterationOrder.exists_of_perm hperm
  refine ⟨o, ?_⟩
  rw [gaugeUpdates, ho, List.flatMap_append, List.flatMap_map, List.flatMap_congr hown]
  simp

end Order

/-- The credits in use that a list of updates does not give back. -/
def unreturned (L : Books) (i : Uint128) (us : List GaugePendingUpdate) : ℕ :=
  usedCredits L i - ((us.map (·.change L)).map Change.old).sum

/-- The updates that `p` accepts fit next to the most that all others hold at any time, and
the others do not even fit next to the least. -/
def SteadyGauges (L : Books) (i : Uint128) (p : GaugePendingUpdate → Bool)
    (us : List GaugePendingUpdate) : Prop :=
  Steady (L.balance i).creditsPosted (unreturned L i us) (·.change L) p us

/-- Every update fits next to the larger one of the two amounts of every other. -/
def FitsBesidePeaks (L : Books) (i : Uint128) (us : List GaugePendingUpdate) : Prop :=
  ∀ u ∈ us, unreturned L i us + (u.change L).new + (peaks (us.map (·.change L)) - (u.change L).peak) ≤
    (L.balance i).creditsPosted

/-- No update fits, even if all the others give back what they have and get nothing. -/
def NoneFits (L : Books) (i : Uint128) (us : List GaugePendingUpdate) : Prop :=
  ∀ u ∈ us, (L.balance i).creditsPosted < unreturned L i us + (u.change L).new

instance (L : Books) (i : Uint128) (us : List GaugePendingUpdate) :
    Decidable (FitsBesidePeaks L i us) :=
  inferInstanceAs (Decidable (∀ u ∈ us, _))

instance (L : Books) (i : Uint128) (us : List GaugePendingUpdate) : Decidable (NoneFits L i us) :=
  inferInstanceAs (Decidable (∀ u ∈ us, _))

/-- The answers grant the new reservations that `p` accepts. -/
def GrantedBy (p : GaugePendingUpdate → Bool) (us : List GaugePendingUpdate)
    (as : List UpdateAnswer) : Prop :=
  as.map (fun x => decide (x.new ≠ some .exceedsCredits)) = us.map p

/-- In every order the reservations with the property are granted, and no others. -/
def GrantedInAnyOrder (h : Blake3) (input : TBBatchInput) (tb : Service) (att : BatchAttempt)
    (L : Books) (p : GaugePendingUpdate → Bool) : Prop :=
  ∀ o : IterationOrder String,
    GrantedBy p (orderedUpdates input o) (gaugeVerdicts h input tb { att with clusters := o } L)

section Granted

variable {h : Blake3} {input : TBBatchInput} {tb : Service} {att : BatchAttempt} {L : Books}
  {a b : Account} {p : GaugePendingUpdate → Bool} {us : List GaugePendingUpdate}
  {as : List UpdateAnswer}

theorem steadyGauges_true {i : Uint128} :
    SteadyGauges L i (fun _ => true) us ↔ FitsBesidePeaks L i us :=
  steady_true

theorem steadyGauges_false {i : Uint128} :
    SteadyGauges L i (fun _ => false) us ↔ NoneFits L i us :=
  steady_false

theorem GrantedBy.iff_of_mem (hg : GrantedBy p us as) {x : GaugePendingUpdate × UpdateAnswer}
    (hx : x ∈ us.zip as) : p x.1 = true ↔ x.2.new ≠ some .exceedsCredits := by
  obtain ⟨i, hi⟩ := List.mem_iff_getElem?.mp hx
  obtain ⟨hu, ha⟩ := List.getElem?_zip_eq_some.mp hi
  have hat := congrArg (·[i]?) hg
  simp only [List.getElem?_map, hu, ha, Option.map_some, Option.some.injEq] at hat
  rw [← hat, decide_eq_true_eq]

theorem grantedBy_of_forall (hlen : as.length = us.length)
    (hp : ∀ x ∈ us.zip as, p x.1 = true ↔ x.2.new ≠ some .exceedsCredits) : GrantedBy p us as := by
  unfold GrantedBy
  induction us generalizing as with
  | nil => rw [List.length_eq_zero_iff.mp hlen, List.map_nil, List.map_nil]
  | cons u us ih =>
    cases as with
    | nil => cases hlen
    | cons x as =>
      rw [List.zip_cons_cons, List.forall_mem_cons] at hp
      rw [List.map_cons, List.map_cons, ih (Nat.succ.inj hlen) hp.2, Bool.decide_congr hp.1.symm,
        Bool.decide_eq_true]

variable (hready : GaugesReady h L a b input)
include hready

theorem GaugesReady.given (o : IterationOrder String) :
    ∀ x ∈ gaugeUpdates input o, x.2.newPendingID ≠ 0 ∧ x.2.voidTransferID ≠ 0 := fun x hx =>
  (hready.prepared.perm (orderedUpdates_perm input _ o)).given x.2 (List.mem_map_of_mem hx)

/-- The new reservations are granted as the changes are admitted on the books before the
call. -/
theorem GaugesReady.grants (tb : Service) (att : BatchAttempt) :
    (gaugeVerdicts h input tb att L).map (fun x => decide (x.new ≠ some .exceedsCredits)) =
      grants (L.balance a.id).creditsPosted
        (unreturned L a.id (orderedUpdates input (.listed String)) +
          ((orderedUpdates input att.clusters).map fun u => (u.change L).old).sum)
        ((orderedUpdates input att.clusters).map (·.change L)) := by
  have hbypass := hready.bypasses tb
  have hbalance := hbypass.balance a hready.serviceable.quota hready.ledger.1
  obtain ⟨hp, hs⟩ := hready.after tb att.clusters
  have hperm := orderedUpdates_perm input (.listed String) att.clusters
  have hheld := hready.prepared.held_le hready.wf fun p hpl hold =>
    (hready.serviceable.olds p hpl hold).2.1
  have hsum := (hperm.map fun u => (u.change L).old).sum_eq
  have hused : unreturned L a.id (orderedUpdates input (.listed String)) +
      ((orderedUpdates input att.clusters).map fun u => (u.change L).old).sum =
        usedCredits L a.id := by
    rw [← hsum]
    simp only [unreturned, List.map_map, Function.comp_def] at hheld ⊢
    omega
  rw [hused, usedCredits, ← hbalance, ← hbypass.changes hready.wf (hready.prepared.perm hperm)]
  exact gaugeAnswers_grants hbypass.wf hs.quota hp hready.limited (hready.classified tb att)

theorem GaugesReady.granted_of_steady
    (hsteady : SteadyGauges L a.id p (orderedUpdates input (.listed String))) (tb : Service)
    (att : BatchAttempt) :
    GrantedBy p (orderedUpdates input att.clusters) (gaugeVerdicts h input tb att L) := by
  unfold GrantedBy
  rw [hready.grants tb att]
  exact grants_of_steady (hsteady.perm (orderedUpdates_perm input _ _))

theorem GaugesReady.steady_of_granted (tb : Service) (att : BatchAttempt)
    (hgranted : GrantedInAnyOrder h input tb att L p) :
    SteadyGauges L a.id p (orderedUpdates input (.listed String)) := by
  refine (steady_map Prod.snd _).mp (steady_of_grants fun ys hys => ?_)
  obtain ⟨o, rfl⟩ := exists_order hys
  have ho := hgranted o
  unfold GrantedBy at ho
  rw [hready.grants tb { att with clusters := o }] at ho
  simpa [orderedUpdates, Function.comp_def] using ho

theorem GaugesReady.granted_iff_live (tb : Service) (att : BatchAttempt)
    {x : GaugePendingUpdate × UpdateAnswer}
    (hx : x ∈ (orderedUpdates input att.clusters).zip (gaugeVerdicts h input tb att L)) :
    x.2.new ≠ some .exceedsCredits ↔ (0 < x.1.newAmount →
      ∃ p ∈ (tb.createTransfers (tb.createTransfers L (usageRequest h input)).2
        (gaugeRequest input att)).2.live, p.id = x.1.newPendingID ∧
          p.amount = x.1.newAmount.toNat) := by
  have hsettles := hready.settles tb att
  have hlive := fun p => hsettles.live_iff (hready.after tb att.clusters).1
    (gaugeVerdicts_length h input tb att L) hx (p := p)
  rcases hsettles.verdicts x hx with ⟨hnot, hnone⟩ | ⟨hpos, hok | hrefused⟩
  · simp [hnone, hnot]
  · obtain ⟨hmem, hid⟩ := (hlive _).mpr ⟨hok, rfl⟩
    exact ⟨fun _ _ => ⟨_, hmem, hid, rfl⟩, fun _ => by simp [hok]⟩
  · refine ⟨fun hne => absurd hrefused hne, fun hall => ?_⟩
    obtain ⟨p, hmem, hid, -⟩ := hall hpos
    rw [((hlive p).mp ⟨hmem, hid⟩).1]
    simp

end Granted

/-- The result of an update whose new reservation is granted or refused. -/
def settledResult (granted : Bool) (u : GaugePendingUpdate) : GaugePendingResult where
  newPendingID := if granted ∧ 0 < u.newAmount then u.newPendingID else 0
  accepted := granted
  exceedsCredits := !granted

theorem gaugeOutcome_settled {u : GaugePendingUpdate} {new : Option CreateTransferResult}
    (hid : u.newPendingID ≠ 0) (hsome : new.isSome = true ↔ 0 < u.newAmount) (rand : ℕ → Uint128)
    (n : ℕ) : gaugeOutcome rand u n new = settledResult (new ≠ some .exceedsCredits) u := by
  simp [gaugeOutcome, settledResult, hsome, GaugePendingUpdate.newID, hid, and_comm]

/-- The same accounts, balances and live reservations. -/
structure SameStanding (L L' : Books) : Prop where
  accounts : L'.accounts = L.accounts
  live : L'.live.Perm L.live
  balance : L'.balance = L.balance

theorem SameStanding.refl (L : Books) : SameStanding L L := ⟨rfl, .refl _, rfl⟩

theorem balance_ext {x y : Balance} (hdp : x.debitsPending = y.debitsPending)
    (hd : x.debitsPosted = y.debitsPosted) (hcp : x.creditsPending = y.creditsPending)
    (hc : x.creditsPosted = y.creditsPosted) : x = y := by
  cases x
  cases y
  simp_all

section Outcome

variable {h : Blake3} {input : TBBatchInput} {tb : Service} {att att' : BatchAttempt} {L : Books}
  {a b : Account} {p : GaugePendingUpdate → Bool} {us : List GaugePendingUpdate}
  {as : List UpdateAnswer}

theorem madeReservations_granted (hg : GrantedBy p us as)
    (hverdicts : ∀ x ∈ us.zip as, ¬0 < x.1.newAmount ∧ x.2.new = none ∨
      0 < x.1.newAmount ∧ (x.2.new = some .ok ∨ x.2.new = some .exceedsCredits)) :
    madeReservations us as = (us.filter fun u => 0 < u.newAmount ∧ p u).map (·.reservation) := by
  unfold GrantedBy at hg
  induction us generalizing as with
  | nil => rfl
  | cons u us ih =>
    cases as with
    | nil => cases hg
    | cons x as =>
      rw [List.zip_cons_cons, List.forall_mem_cons] at hverdicts
      rw [List.map_cons, List.map_cons, List.cons.injEq] at hg
      rw [madeReservations_cons, ih hg.2 hverdicts.2, List.filter_cons, ← hg.1]
      obtain ⟨hhead, -⟩ := hverdicts
      dsimp only at hhead
      rcases hhead with ⟨hnot, hnone⟩ | ⟨hpos, hok | hrefused⟩
      · simp [hnot, hnone]
      · simp [hpos, hok]
      · simp [hpos, hrefused]

theorem gauge_resource {o : IterationOrder String} {x : String × GaugePendingUpdate}
    (hx : x ∈ gaugeUpdates input o) : x.2.resource = .activeNodes := by
  obtain ⟨hb, -, hu⟩ := mem_gaugeUpdates.mp hx
  exact of_decide_eq_true (gaugeUpdate?_some hu).1

theorem gaugePairs_granted {n : ℕ} {M : Books}
    (hids : ∀ x ∈ gaugeUpdates input att.clusters, x.2.newPendingID ≠ 0)
    (hg : GrantedBy p (orderedUpdates input att.clusters)
      (gaugeAnswers tb att.rand n M (orderedUpdates input att.clusters)).1) :
    (gaugeUpdates input att.clusters).zip (gaugeOutcomes att.rand n
        (orderedUpdates input att.clusters)
        (gaugeAnswers tb att.rand n M (orderedUpdates input att.clusters)).1) =
      (gaugeUpdates input att.clusters).map fun x => (x, settledResult (p x.2) x.2) := by
  unfold GrantedBy orderedUpdates at hg
  unfold orderedUpdates
  generalize gaugeUpdates input att.clusters = xs at hids hg ⊢
  induction xs generalizing n M with
  | nil => rfl
  | cons x xs ih =>
    simp only [List.map_cons, gaugeAnswers, List.forall_mem_cons, List.cons.injEq] at hids hg ⊢
    have hsome := answerNew_isSome tb att.rand n (answerVoid tb att.rand n M x.2).2 x.2
    simp only [gaugeOutcomes, List.zip_cons_cons, ih hids.2 hg.2, gaugeOutcome_settled hids.1 hsome,
      hg.1]

variable (hready : GaugesReady h L a b input)
include hready

/-- The result of an attempt whose new reservations are granted as `p` says. -/
theorem GaugesReady.result
    (hg : GrantedBy p (orderedUpdates input att.clusters) (gaugeVerdicts h input tb att L))
    (per : Table ResourceType ResourceBatchResult) :
    batchResult input att per (gaugeVerdicts h input tb att L) = {
      perResource := per.setAll ((gaugeUpdates input att.clusters).map fun x =>
        (.activeNodes, { accepted := p x.2, exceedsCredits := !p x.2 }))
      gaugeUpdates := Table.empty.setInAll ((gaugeUpdates input att.clusters).map fun x =>
        (updateKey x, (settledResult (p x.2) x.2).newPendingID)) } := by
  have hpairs := gaugePairs_granted (fun x hx => (hready.given att.clusters x hx).1) hg
  have hresources : (gaugeUpdates input att.clusters).map (fun x => (ResourceType.activeNodes,
      ({ accepted := p x.2, exceedsCredits := !p x.2 } : ResourceBatchResult))) =
      (gaugeUpdates input att.clusters).map fun x =>
        (x.2.resource, { accepted := p x.2, exceedsCredits := !p x.2 }) :=
    List.map_congr_left fun x hx => by rw [gauge_resource hx]
  unfold gaugeVerdicts
  simp only [orderedUpdates] at hpairs
  simp only [batchResult, gaugePairs, hpairs, List.map_map, hresources]
  rfl

theorem GaugesReady.live_perm
    (hg : GrantedBy p (orderedUpdates input att.clusters) (gaugeVerdicts h input tb att L)) :
    (tb.createTransfers (tb.createTransfers L (usageRequest h input)).2
        (gaugeRequest input att)).2.live.Perm
      (((orderedUpdates input (.listed String)).filter fun u => 0 < u.newAmount ∧ p u).map
          (·.reservation) ++
        L.live.filter (·.id ∉ oldIDs (orderedUpdates input (.listed String)))) := by
  have hsettles := hready.settles tb att
  have hperm := orderedUpdates_perm input att.clusters (.listed String)
  have hlive := hsettles.live
  rw [madeReservations_granted hg hsettles.verdicts, (hready.bypasses tb).live] at hlive
  refine hlive.trans (((hperm.filter _).map _).append (List.Perm.of_eq ?_))
  refine List.filter_congr fun p _ => ?_
  rw [decide_eq_decide, not_iff_not]
  exact (hperm.filterMap _).mem_iff

theorem GaugesReady.same_standing
    (hg : GrantedBy p (orderedUpdates input att.clusters) (gaugeVerdicts h input tb att L))
    (hg' : GrantedBy p (orderedUpdates input att'.clusters) (gaugeVerdicts h input tb att' L)) :
    SameStanding
      (tb.createTransfers (tb.createTransfers L (usageRequest h input)).2 (gaugeRequest input att)).2
      (tb.createTransfers (tb.createTransfers L (usageRequest h input)).2
        (gaugeRequest input att')).2 := by
  have hsettles := hready.settles tb att
  have hsettles' := hready.settles tb att'
  have hlive := (hready.live_perm hg').trans (hready.live_perm hg).symm
  refine ⟨by simp only [tb.createTransfers_accounts], hlive, funext fun i => ?_⟩
  have hdebits := hsettles'.wf.debitsPending_eq i
  have hcredits := hsettles'.wf.creditsPending_eq i
  rw [total_perm _ hlive, ← hsettles.wf.debitsPending_eq] at hdebits
  rw [total_perm _ hlive, ← hsettles.wf.creditsPending_eq] at hcredits
  have hposted := hsettles'.posted i
  rw [← (hsettles.posted i).1, ← (hsettles.posted i).2] at hposted
  exact balance_ext hdebits hposted.2 hcredits hposted.1

theorem GaugesReady.same_result {granted : Bool}
    (hg : GrantedBy (fun _ => granted) (orderedUpdates input att.clusters)
      (gaugeVerdicts h input tb att L))
    (hg' : GrantedBy (fun _ => granted) (orderedUpdates input att'.clusters)
      (gaugeVerdicts h input tb att' L)) (per : Table ResourceType ResourceBatchResult) :
    batchResult input att' per (gaugeVerdicts h input tb att' L) =
      batchResult input att per (gaugeVerdicts h input tb att L) := by
  have hperm : (gaugeUpdates input att'.clusters).Perm (gaugeUpdates input att.clusters) :=
    gaugeUpdates_perm _ _
  rw [hready.result hg, hready.result hg']
  congr 1
  · rw [List.map_const', List.map_const', hperm.length_eq]
  · refine Table.setInAll_perm (hperm.map _) ?_
    rw [List.map_map]
    exact gaugeUpdates_keys_nodup att'.clusters

theorem GaugesReady.last_verdict
    (hg : GrantedBy p (orderedUpdates input att.clusters) (gaugeVerdicts h input tb att L))
    {xs : List (String × GaugePendingUpdate)} {x : String × GaugePendingUpdate}
    (hlast : gaugeUpdates input att.clusters = xs ++ [x])
    (per : Table ResourceType ResourceBatchResult) :
    (batchResult input att per (gaugeVerdicts h input tb att L)).perResource .activeNodes =
      some { accepted := p x.2, exceedsCredits := !p x.2 } := by
  rw [hready.result hg, hlast]
  simp [Table.setAll_append]

theorem GaugesReady.request_nil (att att' : BatchAttempt) :
    gaugeRequest input att' = [] ↔ gaugeRequest input att = [] := by
  have hown : ∀ att : BatchAttempt,
      gaugeRequest input att = (orderedUpdates input att.clusters).flatMap ownTransfers := by
    intro att
    refine gaugeTransfers_eq_own (fun u hu => ?_) att.rand 0
    obtain ⟨x, hx, rfl⟩ := List.mem_map.mp hu
    exact hready.given att.clusters x hx
  have hperm := (orderedUpdates_perm input att'.clusters att.clusters).flatMap_right
    ownTransfers
  rw [hown att, hown att']
  exact ⟨fun hnil => List.nil_perm.mp (hnil ▸ hperm), fun hnil => List.perm_nil.mp (hnil ▸ hperm)⟩

end Outcome

end CloudCredit.Accounting
