import CloudCredit.System.BatchAnswers

/-!
# The order of gauge transfers

As long as the counter of a tenant does not wrap around, the gauge transfers of
a flush have a higher number than those of every flush before it. So a flush
finds no transfer of its own number, and a void names a reservation of an
earlier flush than its own.
-/
namespace CloudCredit.System

open Library TigerBeetle Domain Ledger Accounting

/-- The gauge transfers of the tenant in the order of their flushes. -/
structure FlushOrder (u : Uint128) (J : List (Entry Source)) (e : Execution) : Prop where
  bound : ∀ x ∈ J, x.origin.tenant = u → ∀ n, x.origin.flushNumber = some n →
    n ≤ e.state.flushSeqNo
  counter : ∀ f, e.main.flight = some f → f.seqNo ≤ e.state.flushSeqNo
  flight : ∀ f, e.main.flight = some f → ∀ x ∈ J, x.origin.tenant = u →
    ∀ n, x.origin.flushNumber = some n → n < f.seqNo ∨
      n = f.seqNo ∧ ∃ att, (x.origin, x.transfer) ∈ gaugeEntries f.seqNo f.input att
  older : ∀ f, e.main.flight = some f → ∀ c r id,
    (e.state.pendingGaugeIDs c).bind (· r) = some id →
      ∃ n cluster, n < f.seqNo ∧ Reserved u J n cluster r id
  voids : ∀ x ∈ J, ∀ n cluster r, x.origin = .gaugeVoid u n cluster r →
    ∃ m cluster', m < n ∧ Reserved u J m cluster' r x.transfer.pendingID

namespace FlushOrder

variable {h : Blake3} {tb : Service} {s s' : State} {u : Uint128} {J J' : List (Entry Source)}
  {e e' : Execution}

theorem start (p : Provisioning)
    (hJ : ∀ x ∈ J, x.origin.tenant = u → x.origin.flushNumber = none) :
    FlushOrder u J (.start p.accountingInput) where
  bound := by
    intro x hx hu n hn
    rw [hJ x hx hu] at hn
    cases hn
  counter := by simp [Execution.start, Main.flight]
  flight := by simp [Execution.start, Main.flight]
  older := by simp [Execution.start, Main.flight]
  voids := by
    intro x hx n cluster r ho
    have hnone := hJ x hx (by rw [ho]; rfl)
    rw [ho] at hnone
    cases hnone

theorem extend (ho : FlushOrder u J e) (hJ : J ⊆ J')
    (hnew : ∀ x ∈ J', x ∈ J ∨ x.origin.tenant ≠ u ∨ x.origin.flushNumber = none) :
    FlushOrder u J' e := by
  have hold : ∀ x ∈ J', x.origin.tenant = u → ∀ n, x.origin.flushNumber = some n → x ∈ J := by
    intro x hx hu n hn
    rcases hnew x hx with hx | hne | hnone
    · exact hx
    · exact absurd hu hne
    · rw [hnone] at hn
      cases hn
  refine ⟨fun x hx hu n hn => ho.bound x (hold x hx hu n hn) hu n hn, ho.counter,
    fun f hf x hx hu n hn => ho.flight f hf x (hold x hx hu n hn) hu n hn,
    fun f hf c r id hid => ?_, fun x hx n cluster r hor => ?_⟩
  · obtain ⟨n, cluster, hlt, hres⟩ := ho.older f hf c r id hid
    exact ⟨n, cluster, hlt, hres.mono hJ⟩
  · obtain ⟨m, cluster', hlt, hres⟩ :=
      ho.voids x (hold x hx (by rw [hor]; rfl) n (by rw [hor]; rfl)) n cluster r hor
    exact ⟨m, cluster', hlt, hres.mono hJ⟩

/-- The batch in flight is the same, up to its attempts. -/
theorem carry (ho : FlushOrder u J e) (hseq : e.state.flushSeqNo ≤ e'.state.flushSeqNo)
    (hpending : e'.state.pendingGaugeIDs = e.state.pendingGaugeIDs)
    (hflight : ∀ f, e'.main.flight = some f → ∃ g, e.main.flight = some g ∧
      g.seqNo = f.seqNo ∧ g.input = f.input) : FlushOrder u J e' := by
  refine ⟨fun x hx hu n hn => UInt64.le_trans (ho.bound x hx hu n hn) hseq, fun f hf => ?_,
    fun f hf x hx hu n hn => ?_, fun f hf c r id hid => ?_, ho.voids⟩
  · obtain ⟨g, hg, hn, -⟩ := hflight f hf
    rw [← hn]
    exact UInt64.le_trans (ho.counter g hg) hseq
  · obtain ⟨g, hg, hseqNo, hinput⟩ := hflight f hf
    rw [← hseqNo, ← hinput]
    exact ho.flight g hg x hx hu n hn
  · obtain ⟨g, hg, hseqNo, -⟩ := hflight f hf
    rw [← hseqNo]
    rw [hpending] at hid
    exact ho.older g hg c r id hid

/-- No batch is in flight any more. -/
theorem idle (ho : FlushOrder u J e) (hseq : e'.state.flushSeqNo = e.state.flushSeqNo)
    (hidle : e'.main.flight = none) : FlushOrder u J e' := by
  refine ⟨?_, ?_, ?_, ?_, ho.voids⟩
  · rw [hseq]
    exact ho.bound
  · simp [hidle]
  · simp [hidle]
  · simp [hidle]

theorem flush {site : FlushSite} (hw : e.state.flushSeqNo < e.state.flushSeqNo + 1)
    (hn : Noted u J e) (ho : FlushOrder u J e) : FlushOrder u J (e.beginFlush h site) := by
  have hlater : ∀ x ∈ J, x.origin.tenant = u → ∀ n, x.origin.flushNumber = some n →
      n < e.state.flushSeqNo + 1 :=
    fun x hx hu n hn => UInt64.lt_of_le_of_lt (ho.bound x hx hu n hn) hw
  refine ⟨fun x hx hu n hn => UInt64.le_of_lt (hlater x hx hu n hn), fun f hf => ?_,
    fun f hf x hx hu n hn => ?_, fun f hf c r id hid => ?_, ho.voids⟩
  · cases hf
    exact UInt64.le_refl _
  · cases hf
    exact .inl (hlater x hx hu n hn)
  · cases hf
    obtain ⟨n, cluster, hres, -⟩ := hn.recorded c r id hid
    have hres' := hres
    obtain ⟨x, hx, -, hxo, -⟩ := hres'
    exact ⟨n, cluster, hlater x hx (by rw [hxo]; rfl) n (by rw [hxo]; rfl), hres⟩

theorem move {w : Event} (hw : ∀ reached reply, w ≠ .attempt reached (.batch reply))
    (hm : Move h w e e') (hcount : e.state.flushSeqNo < e.state.flushSeqNo + 1)
    (hn : Noted u J e) (ho : FlushOrder u J e) : FlushOrder u J e' := by
  have hkeep : ∀ m : Execution, m.state.pendingGaugeIDs = e.state.pendingGaugeIDs →
      m.state.flushSeqNo = e.state.flushSeqNo → m.main.flight = e.main.flight → FlushOrder u J m :=
    fun m hp hseq hf => ho.carry (by rw [hseq]; exact UInt64.le_refl _) hp
      fun f hf' => ⟨f, by rw [← hf]; exact hf', rfl, rfl⟩
  cases hm with
  | quiet same => exact hkeep _ (by rw [same.state]) (by rw [same.state]) same.flight
  | register sig =>
    exact hkeep _ (e.state.registerCluster_pendingGaugeIDs sig)
      (e.state.registerCluster_flushSeqNo sig) rfl
  | flush site hbatch hidle => exact ho.flush hcount hn
  | attempt hev => exact absurd hev (hw _ _)
  | succeed hev hmain hout => exact ho.idle rfl rfl
  | fail hev hmain hout hidle => exact ho.idle rfl hidle
  | accept hev hvalid hissue =>
    exact ho.carry (UInt64.le_of_lt hcount) rfl fun f hf => ⟨f, hf, rfl, rfl⟩
  | _ => exact hkeep _ rfl rfl rfl

theorem rests (hr : Rests h e e') (hcount : e.state.flushSeqNo < e.state.flushSeqNo + 1)
    (hn : Noted u J e) (ho : FlushOrder u J e) : FlushOrder u J e' := by
  refine (hr.keeps (P := fun m => Noted u J m ∧ FlushOrder u J m) ?_ ?_ ⟨hn, ho⟩).2
  · rintro w m m' hw hm hseq ⟨hn, ho⟩
    exact ⟨hn.move hw hm, ho.move hw hm (by rw [hseq]; exact hcount) hn⟩
  · rintro - ⟨hn, ho⟩
    exact ⟨hn.restarted, ho.idle rfl rfl⟩

theorem gauges {p : Provisioning} {site : FlushSite} {flight : Flight} {att : BatchAttempt}
    {run : Run TBBatchResult} (ho : FlushOrder u s.journal e)
    (hmain : e.main = .submitting site flight)
    (hinput : flight.input =
      p.accountingInput.flushInput h flight.seqNo e.state.curBatch e.state.pendingGaugeIDs)
    (hjournal : s'.journal = (tb.record (s.books, s.journal)
      (reachedEntries att.gaugeFate (gaugeEntries flight.seqNo flight.input att))).2) :
    FlushOrder u s'.journal { e with main := .submitting site { flight with run := run } } := by
  have hflight : e.main.flight = some flight := by rw [hmain]; rfl
  have hsub : s.journal ⊆ s'.journal := by
    rw [hjournal]
    exact (tb.record_suffix (s.books, s.journal) _).subset
  have hnew : ∀ x ∈ s'.journal, x ∈ s.journal ∨
      (x.origin, x.transfer) ∈ gaugeEntries flight.seqNo flight.input att := by
    intro x hx
    rw [hjournal] at hx
    exact (mem_record hx).imp id fun hsent => (mem_reachedEntries hsent).1
  refine ⟨fun x hx hu n hn => ?_, fun f hf => ?_, fun f hf x hx hu n hn => ?_,
    fun f hf c r id hid => ?_, fun x hx n cluster r hor => ?_⟩
  · rcases hnew x hx with hx | hsent
    · exact ho.bound x hx hu n hn
    · cases hn.symm.trans (gaugeEntries_flushNumber hsent)
      exact ho.counter flight hflight
  · cases hf
    exact ho.counter flight hflight
  · cases hf
    rcases hnew x hx with hx | hsent
    · exact ho.flight flight hflight x hx hu n hn
    · exact .inr ⟨Option.some.inj (hn.symm.trans (gaugeEntries_flushNumber hsent)), att, hsent⟩
  · cases hf
    obtain ⟨n, cluster, hlt, hres⟩ := ho.older flight hflight c r id hid
    exact ⟨n, cluster, hlt, hres.mono hsub⟩
  · rcases hnew x hx with hx | hsent
    · obtain ⟨m, cluster', hlt, hres⟩ := ho.voids x hx n cluster r hor
      exact ⟨m, cluster', hlt, hres.mono hsub⟩
    · have hnumber := gaugeEntries_flushNumber hsent
      rw [hor] at hnumber
      cases hnumber
      obtain ⟨k, y, hy, ⟨old, hold, heq⟩ | ⟨-, heq⟩⟩ := mem_gaugeEntriesFrom hsent
      · rw [hinput] at hy
        obtain ⟨hb, cluster', quota, sink, -, -, -, -, -, he⟩ := mem_flushUpdates hy
        rw [he] at hold
        simp only [Prod.mk.injEq] at heq
        have hr : y.2.resource = r := by
          have := heq.1
          rw [hor] at this
          simp only [gaugeSource, if_true, Source.gaugeVoid.injEq] at this
          exact this.2.2.2.symm
        rw [hr] at hold
        obtain ⟨m, cluster'', hlt, hres⟩ := ho.older flight hflight y.1 r old hold
        rw [heq.2]
        exact ⟨m, cluster'', hlt, hres.mono hsub⟩
      · simp [gaugeSource, hor] at heq

end FlushOrder

namespace State

variable {h : Blake3} {tb : Service} {s : State} {u : Uint128} {t : Tenant} {e : Execution}
  {es : List SystemEvent}

/-- The next number of the tenant's counter is a new one. -/
def Counting (u : Uint128) (s : State) : Prop :=
  ∀ t e, s.tenants u = some t → t.accounting = some e →
    e.state.flushSeqNo < e.state.flushSeqNo + 1

instance (u : Uint128) : DecidablePred (Counting u) := fun s =>
  decidable_of_iff ((s.tenants u).all fun t => t.accounting.all fun e =>
    e.state.flushSeqNo < e.state.flushSeqNo + 1) (by
      simp only [Option.all_eq_true, decide_eq_true_eq, Counting]
      exact ⟨fun hall t e ht he => hall t ht e he, fun hall t ht e he => hall t e ht he⟩)

theorem run_inOrder (hr : runSteps (step h tb) initial es = some s)
    (hcount : Along (step h tb) (fun s _ => s.Counting u) initial es)
    (hfree : h.CollisionFree (preimages s.journal)) (hu : s.tenants u = some t)
    (he : t.accounting = some e) : FlushOrder u s.journal e := by
  refine run_induction (step h tb) (P := fun es s =>
    Along (step h tb) (fun s _ => s.Counting u) initial es →
    h.CollisionFree (preimages s.journal) → ∀ t e, s.tenants u = some t →
      t.accounting = some e → FlushOrder u s.journal e) ?_ ?_ hr hcount hfree t e hu he
  · intro _ _ t e hu
    cases hu
  · intro xs s ev s' hr hold hstep hcount hfree t' e' hu' he'
    obtain ⟨hcount, hlast⟩ := hcount.append _ hr
    have hs := run_sound hr
    have hJ := (step_journal hstep).subset
    have hfree' := hfree.mono (preimages_mono hJ)
    rcases step_gauges hs hstep hu' he' with ⟨t, e, hu, he, -, hstep'⟩ | ⟨hsame, hnone, p, rfl⟩
    · have ho := hold hcount hfree' t e hu he
      cases hstep' with
      | rests hrests hapart =>
        exact (ho.rests hrests (hlast.1 t e hu he) (run_noted hr hfree' hu he)).extend hJ hapart.new
      | @fails site flight run hmain hend hrun hapart =>
        subst hend
        refine (ho.extend hJ hapart.new).carry (UInt64.le_refl _) rfl fun f hf => ?_
        cases hf
        exact ⟨flight, by rw [hmain]; rfl, rfl, rfl⟩
      | gauges per hmain hout hend hrun hbooks hjournal =>
        subst hend
        exact ho.gauges hmain (((hs.tenants u t hu).handed e he).flight _ (by rw [hmain]; rfl))
          hjournal
    · rw [hsame]
      exact .start p (run_unstarted hr hnone)

theorem Sound.reserved_eq (hs : s.Sound h) (hfree : h.CollisionFree (preimages s.journal))
    {m n : UInt64} {c d : Uint128} {q r : ResourceType} {id : Uint128}
    (hm : Reserved u s.journal m c q id) (hn : Reserved u s.journal n d r id) :
    m = n ∧ c = d ∧ q = r := by
  obtain ⟨x, hx, -, hxo, hxid⟩ := hm
  obtain ⟨y, hy, -, hyo, hyid⟩ := hn
  have hpre := hs.preimage_eq hfree hx hy (hxid.trans hyid.symm)
  rw [hyo] at hpre
  cases hxo.symm.trans (gaugeNew_source hpre)
  exact ⟨rfl, rfl, rfl⟩

theorem Sound.voided_by (hs : s.Sound h) (hfill : Filled s.books s.journal) {n : UInt64}
    {cluster : Uint128} {r : ResourceType} {id : Uint128}
    (hres : Reserved u s.journal n cluster r id) (hv : s.books.isVoided id = true) :
    ∃ x ∈ s.journal, ∃ m cluster', x.origin = .gaugeVoid u m cluster' r ∧
      x.transfer.pendingID = id := by
  obtain ⟨v, hmem, hvoid⟩ := List.any_eq_true.mp hv
  simp only [Bool.and_eq_true, decide_eq_true_eq] at hvoid
  obtain ⟨x, hx, -, p, hp, hfits, rfl⟩ := hfill v hmem hvoid.1
  have hpending : x.transfer.pendingID = id := hvoid.2
  obtain ⟨y, hy, -, hyo, hbooks⟩ := hs.reservation hres
  rw [hpending] at hp
  cases hp.symm.trans hbooks
  obtain ⟨t, ht, hown⟩ := hs.journal x hx
  obtain ⟨ty, hty, hyown⟩ := hs.journal y hy
  have hflag : x.transfer.flags.voidPendingTransfer = true := hvoid.1
  refine ⟨x, hx, ?_⟩
  rw [hyo] at hty hyown
  generalize hx' : x.origin = src at ht hown
  generalize hx'' : x.transfer = tr at hown hfits hflag hpending
  generalize hy' : y.transfer = res at hyown hfits
  cases hown with
  | @gaugeVoid vid old seqNo cluster' q quota sink hid hg hquota hsink =>
    cases hyown with
    | @gaugeNew id' _ _ owner _ quota' sink' _ _ hid' hg' hquota' hsink' hpos =>
      have hquotaID : quota ≠ 0 :=
        hs.wf.account_ne_zero (Books.account?_some (hs.quota_open ht hquota)).1
      have hdebit : quota' = quota := fits_debit hfits hquotaID
      subst hdebit
      obtain ⟨htenant, rfl⟩ := (hs.quota_eq_iff hty hquota' ht hquota).mp rfl
      dsimp only [Source.tenant] at htenant
      exact ⟨seqNo, cluster', by rw [htenant], hpending⟩
  | _ => cases hflag

theorem Sound.new_live (hs : s.Sound h) (hfill : Filled s.books s.journal)
    (hfree : h.CollisionFree (preimages s.journal)) (ho : FlushOrder u s.journal e) {f : Flight}
    (hf : e.main.flight = some f) {cluster : Uint128} {r : ResourceType} {id : Uint128}
    (hres : Reserved u s.journal f.seqNo cluster r id) : s.books.isVoided id = false := by
  by_contra hv
  rw [Bool.not_eq_false] at hv
  obtain ⟨x, hx, n, cluster', hxo, hpending⟩ := hs.voided_by hfill hres hv
  obtain ⟨m, cluster'', hlt, hold⟩ := ho.voids x hx n cluster' r hxo
  rw [hpending] at hold
  obtain ⟨rfl, -, -⟩ := hs.reserved_eq hfree hold hres
  rcases ho.flight f hf x hx (by rw [hxo]; rfl) n (by rw [hxo]; rfl) with hn | ⟨rfl, -⟩
  · exact UInt64.lt_irrefl _ (UInt64.lt_trans hlt hn)
  · exact UInt64.lt_irrefl _ hlt

end State
end CloudCredit.System
