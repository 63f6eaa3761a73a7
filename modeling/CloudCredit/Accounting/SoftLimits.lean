import CloudCredit.Accounting.Execution

/-!
# Soft limit alerts

`CheckSoftLimits` reads the tenant's rows of `quota_configs`, logs a warning for each
row that is at its soft limit and not marked yet, and then marks it. `ResetSoftLimitAlert`
clears the mark of a resource after a credit was issued. Reading the rows, warning and
marking are steps of their own, so a reset may come between any two of them. An alert is
given once between two resets as long as the checks do not overlap and their marks get
through. A reset between a warning and its mark is lost: the mark stays for a warning that
was given before.
-/
namespace CloudCredit.Accounting

open Library TigerBeetle Domain

/-- The columns of `quota_configs` that the alerts use. -/
structure QuotaConfig where
  resourceType : String
  softLimit : Option Int64
  softLimitAlertSent : Bool := false
  deriving DecidableEq

/-- The usage a check warns about: the row has a soft limit and no mark, and the
balances of its resource are known and at the limit. -/
def QuotaConfig.due (cfg : QuotaConfig) (snapshots : Balances) : Option Int64 :=
  match cfg.softLimit, (ResourceType.ofName? cfg.resourceType).bind snapshots with
  | some softLimit, some snap =>
    let used := snap.debitsPosted + snap.debitsPending
    if cfg.softLimitAlertSent = false ∧ softLimit ≤ used then some used else none
  | _, _ => none

/-- An attempt of `CheckSoftLimits` with the rows it has read and not looked at, and the
resource it has warned about and not marked. -/
structure SoftLimitCheck where
  snapshots : Balances
  rest : List QuotaConfig
  marking : Option String := none

/-- A check is still to warn about the resource or to mark it. -/
def SoftLimitCheck.Owes (name : String) (c : SoftLimitCheck) : Prop :=
  (∃ cfg ∈ c.rest, cfg.resourceType = name ∧ (cfg.due c.snapshots).isSome = true) ∨
    c.marking = some name

/-- What happens to the alerts of a tenant. -/
inductive AlertEvent
  /-- An attempt reads the rows, in the order the database returns them. -/
  | listQuotaConfigs (snapshots : Balances) (rows : List QuotaConfig)
  /-- An attempt looks at its next row. -/
  | checkRow (i : ℕ)
  | markSoftLimitAlertSent (i : ℕ) (fate : Fate)
  | returns (i : ℕ)
  | giveUp (i : ℕ)
  | resetSoftLimitAlert (resourceType : String)

/-- The log of the alerts and of the resets between them. -/
inductive Notice
  | warning (resourceType : String) (used : Int64)
  | reset (resourceType : String)
  deriving DecidableEq

def Notice.resourceType : Notice → String
  | warning name _ | reset name => name

def Notice.isWarning : Notice → Bool
  | warning _ _ => true
  | reset _ => false

/-- Write the mark of a resource. -/
def markAlert (configs : List QuotaConfig) (name : String) (sent : Bool) : List QuotaConfig :=
  configs.map fun cfg =>
    if cfg.resourceType = name then { cfg with softLimitAlertSent := sent } else cfg

/-- The rows of a tenant and the attempts that are under way. -/
structure SoftLimits where
  configs : List QuotaConfig
  checks : List SoftLimitCheck := []

namespace SoftLimits

/-- An attempt looks at its next row, and is to mark it if it warns. -/
def checkRow (s : SoftLimits) (i : ℕ) (c : SoftLimitCheck) : Option SoftLimits :=
  match c.marking, c.rest with
  | none, cfg :: rest =>
    let marking := (cfg.due c.snapshots).map fun _ => cfg.resourceType
    some { s with checks := s.checks.set i { c with rest, marking } }
  | _, _ => none

/-- An attempt marks the row it has warned about. A mark that fails ends it with an error. -/
def mark (s : SoftLimits) (i : ℕ) (c : SoftLimitCheck) (fate : Fate) : Option SoftLimits :=
  c.marking.map fun name =>
    { configs := if fate.reached then markAlert s.configs name true else s.configs
      checks := match fate with
        | .answered => s.checks.set i { c with marking := none }
        | _ => s.checks.eraseIdx i }

def step (s : SoftLimits) : AlertEvent → Option SoftLimits
  | .listQuotaConfigs snapshots rows =>
    if rows.isPerm s.configs then some { s with checks := s.checks ++ [⟨snapshots, rows, none⟩] }
    else none
  | .checkRow i => s.checks[i]?.bind fun c => s.checkRow i c
  | .markSoftLimitAlertSent i fate => s.checks[i]?.bind fun c => s.mark i c fate
  | .returns i => s.checks[i]?.bind fun c =>
    if c.rest = [] ∧ c.marking = none then some { s with checks := s.checks.eraseIdx i } else none
  | .giveUp i => s.checks[i]?.map fun _ => { s with checks := s.checks.eraseIdx i }
  | .resetSoftLimitAlert name => some { s with configs := markAlert s.configs name false }

/-- What the event writes into the log. -/
def notice (s : SoftLimits) : AlertEvent → Option Notice
  | .checkRow i => s.checks[i]?.bind fun c => c.rest.head?.bind fun cfg =>
    (cfg.due c.snapshots).map (.warning cfg.resourceType)
  | .resetSoftLimitAlert name => some (.reset name)
  | _ => none

/-- A check is between a warning about the resource and its mark. -/
def Marking (name : String) (s : SoftLimits) : Prop := ∃ c ∈ s.checks, c.marking = some name

/-- The checks do not overlap, none is broken off between a warning and its mark, and a mark
takes effect. -/
def OneAtATime (s : SoftLimits) : AlertEvent → Prop
  | .listQuotaConfigs _ _ => s.checks = []
  | .markSoftLimitAlertSent _ fate => fate.reached = true
  | .giveUp i => ∀ c, s.checks[i]? = some c → c.marking = none
  | _ => True

/-- The resource is not reset between a warning about it and its mark. -/
def NoResetBetween (name : String) (s : SoftLimits) : AlertEvent → Prop
  | .resetSoftLimitAlert resource => resource = name → ¬s.Marking name
  | _ => True

/-- The notices about a resource, in order. -/
def about (name : String) (log : List Notice) : List Notice := log.filter (·.resourceType = name)

/-- A warning was given since the last reset. -/
def warned (name : String) (log : List Notice) : Bool := (about name log).getLast?.any (·.isWarning)

section Log

variable {name : String} {log : List Notice} {n : Notice}

theorem about_same (hn : n.resourceType = name) :
    about name (log ++ [n]) = about name log ++ [n] := by
  simp [about, hn]

theorem about_other (hn : n.resourceType ≠ name) : about name (log ++ [n]) = about name log := by
  simp [about, hn]

theorem warned_same (hn : n.resourceType = name) : warned name (log ++ [n]) = n.isWarning := by
  simp [warned, about_same hn]

end Log

section Marks

variable {configs : List QuotaConfig} {name : String} {sent : Bool}

theorem markAlert_names :
    (markAlert configs name sent).map (·.resourceType) = configs.map (·.resourceType) := by
  simp only [markAlert, List.map_map]
  apply List.map_congr_left
  intro cfg _
  simp only [Function.comp_apply]
  split_ifs <;> rfl

theorem markAlert_same {cfg : QuotaConfig} (hcfg : cfg ∈ markAlert configs name sent)
    (hname : cfg.resourceType = name) : cfg.softLimitAlertSent = sent := by
  obtain ⟨old, -, rfl⟩ := List.mem_map.mp hcfg
  by_cases hold : old.resourceType = name
  · simp [hold]
  · rw [if_neg hold] at hname
    exact absurd hname hold

theorem markAlert_other {cfg : QuotaConfig} (hcfg : cfg ∈ markAlert configs name sent)
    (hname : cfg.resourceType ≠ name) : cfg ∈ configs := by
  obtain ⟨old, hmem, rfl⟩ := List.mem_map.mp hcfg
  by_cases hold : old.resourceType = name
  · rw [if_pos hold] at hname
    exact absurd hold hname
  · rwa [if_neg hold]

end Marks

theorem due_unmarked {cfg : QuotaConfig} {snapshots : Balances} {used : Int64}
    (hdue : cfg.due snapshots = some used) : cfg.softLimitAlertSent = false := by
  unfold QuotaConfig.due at hdue
  split at hdue
  · dsimp only at hdue
    split_ifs at hdue with hboth
    exact hboth.1
  · cases hdue

/-- What an event can do, and what it writes into the log. -/
inductive Course (s : SoftLimits) : AlertEvent → Option Notice → SoftLimits → Prop
  | listed {snapshots : Balances} {rows : List QuotaConfig} (hperm : rows.Perm s.configs) :
      Course s (.listQuotaConfigs snapshots rows) none
        { s with checks := s.checks ++ [⟨snapshots, rows, none⟩] }
  | passed {i : ℕ} {c : SoftLimitCheck} {cfg : QuotaConfig} {rest : List QuotaConfig}
      (hc : s.checks[i]? = some c) (hnone : c.marking = none) (hrest : c.rest = cfg :: rest)
      (hdue : cfg.due c.snapshots = none) :
      Course s (.checkRow i) none
        { s with checks := s.checks.set i { c with rest, marking := none } }
  | warned {i : ℕ} {c : SoftLimitCheck} {cfg : QuotaConfig} {rest : List QuotaConfig}
      {used : Int64} (hc : s.checks[i]? = some c) (hnone : c.marking = none)
      (hrest : c.rest = cfg :: rest) (hdue : cfg.due c.snapshots = some used) :
      Course s (.checkRow i) (some (.warning cfg.resourceType used))
        { s with checks := s.checks.set i { c with rest, marking := some cfg.resourceType } }
  | marked {i : ℕ} {c : SoftLimitCheck} {name : String} (hc : s.checks[i]? = some c)
      (hname : c.marking = some name) :
      Course s (.markSoftLimitAlertSent i .answered) none
        ⟨markAlert s.configs name true, s.checks.set i { c with marking := none }⟩
  | failed {i : ℕ} {c : SoftLimitCheck} {name : String} {fate : Fate}
      (hc : s.checks[i]? = some c) (hname : c.marking = some name) (hfate : fate ≠ .answered) :
      Course s (.markSoftLimitAlertSent i fate) none
        ⟨if fate.reached then markAlert s.configs name true else s.configs, s.checks.eraseIdx i⟩
  | returned {i : ℕ} {c : SoftLimitCheck} (hc : s.checks[i]? = some c) (hrest : c.rest = [])
      (hnone : c.marking = none) :
      Course s (.returns i) none { s with checks := s.checks.eraseIdx i }
  | gaveUp {i : ℕ} {c : SoftLimitCheck} (hc : s.checks[i]? = some c) :
      Course s (.giveUp i) none { s with checks := s.checks.eraseIdx i }
  | reset {name : String} :
      Course s (.resetSoftLimitAlert name) (some (.reset name))
        { s with configs := markAlert s.configs name false }

theorem step_course {s s' : SoftLimits} {ev : AlertEvent} (hstep : s.step ev = some s') :
    ∃ n, s.notice ev = n ∧ Course s ev n s' := by
  cases ev with
  | listQuotaConfigs snapshots rows =>
    simp only [step] at hstep
    split_ifs at hstep with hperm
    cases hstep
    exact ⟨none, rfl, .listed (List.isPerm_iff.mp hperm)⟩
  | checkRow i =>
    obtain ⟨c, hc, hrow⟩ := Option.bind_eq_some_iff.mp hstep
    unfold checkRow at hrow
    split at hrow
    · rename_i cfg rest hnone hrest
      have hnotice : s.notice (.checkRow i) =
          (cfg.due c.snapshots).map (.warning cfg.resourceType) := by simp [notice, hc, hrest]
      refine ⟨_, hnotice, ?_⟩
      cases hrow
      cases hdue : cfg.due c.snapshots with
      | none => exact .passed hc hnone hrest hdue
      | some used => exact .warned hc hnone hrest hdue
    · cases hrow
  | markSoftLimitAlertSent i fate =>
    obtain ⟨c, hc, hmark⟩ := Option.bind_eq_some_iff.mp hstep
    obtain ⟨name, hname, rfl⟩ := Option.map_eq_some_iff.mp hmark
    cases fate with
    | answered => exact ⟨none, rfl, .marked hc hname⟩
    | lostRequest error => exact ⟨none, rfl, .failed hc hname Fate.noConfusion⟩
    | lostReply error => exact ⟨none, rfl, .failed hc hname Fate.noConfusion⟩
  | returns i =>
    obtain ⟨c, hc, hs'⟩ := Option.bind_eq_some_iff.mp hstep
    split_ifs at hs' with hdone
    cases hs'
    exact ⟨none, rfl, .returned hc hdone.1 hdone.2⟩
  | giveUp i =>
    obtain ⟨c, hc, rfl⟩ := Option.map_eq_some_iff.mp hstep
    exact ⟨none, rfl, .gaveUp hc⟩
  | resetSoftLimitAlert name =>
    cases hstep
    exact ⟨_, rfl, .reset⟩

/-- The checks after one of them has gone on or ended: it has no rows that it had not. -/
structure Further (i : ℕ) (cs cs' : List SoftLimitCheck) : Prop where
  length : cs'.length ≤ cs.length
  rest : ∀ c' ∈ cs', ∃ c ∈ cs, c'.rest <:+ c.rest
  others : ∀ j c, j ≠ i → cs[j]? = some c → c ∈ cs'

theorem further_eraseIdx (cs : List SoftLimitCheck) (i : ℕ) : Further i cs (cs.eraseIdx i) where
  length := List.length_eraseIdx_le cs i
  rest c hc := ⟨c, List.mem_of_mem_eraseIdx hc, List.suffix_rfl⟩
  others j _ hj hc := List.mem_eraseIdx_iff_getElem?.mpr ⟨j, hj, hc⟩

theorem further_set {cs : List SoftLimitCheck} {i : ℕ} {c d : SoftLimitCheck}
    (hc : cs[i]? = some c) (hrest : d.rest <:+ c.rest) : Further i cs (cs.set i d) where
  length := (List.length_set ..).le
  rest c' hc' := by
    rcases List.mem_or_eq_of_mem_set hc' with hold | rfl
    · exact ⟨c', hold, List.suffix_rfl⟩
    · exact ⟨c, List.mem_of_getElem? hc, hrest⟩
  others j e hj he := by
    apply List.mem_of_getElem? (i := j)
    rw [List.getElem?_set_ne hj.symm]
    exact he

theorem further_row {cs : List SoftLimitCheck} {i : ℕ} {c : SoftLimitCheck} {cfg : QuotaConfig}
    {rest : List QuotaConfig} (hc : cs[i]? = some c) (hrest : c.rest = cfg :: rest)
    (marking : Option String) : Further i cs (cs.set i { c with rest, marking }) := by
  apply further_set hc
  rw [hrest]
  exact List.suffix_cons cfg rest

theorem Further.marking {i : ℕ} {s s' : SoftLimits} {c : SoftLimitCheck} {name : String}
    (hf : Further i s.checks s'.checks) (hi : s.checks[i]? = some c)
    (hne : c.marking ≠ some name) (hm : s.Marking name) : s'.Marking name := by
  obtain ⟨d, hd, hname⟩ := hm
  obtain ⟨j, hj⟩ := List.mem_iff_getElem?.mp hd
  refine ⟨d, hf.others j d ?_ hj, hname⟩
  rintro rfl
  cases hi.symm.trans hj
  exact hne hname

theorem step_names {s s' : SoftLimits} {ev : AlertEvent} (hstep : s.step ev = some s') :
    s'.configs.map (·.resourceType) = s.configs.map (·.resourceType) := by
  obtain ⟨n, -, hcourse⟩ := step_course hstep
  cases hcourse with
  | marked => exact markAlert_names
  | failed =>
    dsimp only
    split_ifs
    · exact markAlert_names
    · rfl
  | reset => exact markAlert_names
  | _ => rfl

/-- A resource with a warning since the last reset is marked, or a check is to mark it, and
no check that has read its row warns again. No warning follows another one. -/
structure Alerted (name : String) (log : List Notice) (s : SoftLimits) : Prop where
  names : (s.configs.map (·.resourceType)).Nodup
  single : s.checks.length ≤ 1
  rows : ∀ c ∈ s.checks, (c.rest.map (·.resourceType)).Nodup
  flag : warned name log = true → ¬s.Marking name → ∀ cfg ∈ s.configs, cfg.resourceType = name →
    cfg.softLimitAlertSent = true
  read : warned name log = true → ∀ c ∈ s.checks, ∀ cfg ∈ c.rest, cfg.resourceType = name →
    cfg.softLimitAlertSent = true
  alternate : (about name log).IsChain fun a b => ¬(a.isWarning = true ∧ b.isWarning = true)

namespace Alerted

variable {name : String} {log log' : List Notice} {s s' : SoftLimits} {i : ℕ} {c : SoftLimitCheck}

/-- Nothing about the resource is logged, and its row stays as it is or gets its mark. -/
theorem keep (hs : s.Alerted name log) (hlog : about name log' = about name log)
    (hfurther : Further i s.checks s'.checks)
    (hnames : s'.configs.map (·.resourceType) = s.configs.map (·.resourceType))
    (hmarking : s.Marking name → ¬s'.Marking name →
      ∀ cfg ∈ s'.configs, cfg.resourceType = name → cfg.softLimitAlertSent = true)
    (hrow : ∀ cfg ∈ s'.configs, cfg.resourceType = name →
      cfg ∈ s.configs ∨ cfg.softLimitAlertSent = true) : s'.Alerted name log' := by
  have hwarned : warned name log' = warned name log := by rw [warned, hlog, warned]
  refine ⟨hnames ▸ hs.names, hfurther.length.trans hs.single, ?_, ?_, ?_, hlog ▸ hs.alternate⟩
  · intro c' hc'
    obtain ⟨c, hc, hrest⟩ := hfurther.rest c' hc'
    exact (hs.rows c hc).sublist (hrest.sublist.map _)
  · intro hw hnone cfg hcfg hname
    by_cases hm : s.Marking name
    · exact hmarking hm hnone cfg hcfg hname
    · rcases hrow cfg hcfg hname with hold | hsent
      · exact hs.flag (hwarned ▸ hw) hm cfg hold hname
      · exact hsent
  · intro hw c' hc' cfg hcfg
    obtain ⟨c, hc, hrest⟩ := hfurther.rest c' hc'
    exact hs.read (hwarned ▸ hw) c hc cfg (hrest.subset hcfg)

/-- A check that is not to mark the resource goes on or ends. -/
theorem advance (hs : s.Alerted name log) (hlog : about name log' = about name log)
    {checks : List SoftLimitCheck} (hfurther : Further i s.checks checks)
    (hc : s.checks[i]? = some c) (hnone : c.marking = none) :
    Alerted name log' { s with checks := checks } :=
  hs.keep hlog hfurther rfl
    (fun hm hgone => (hgone (hfurther.marking hc (by simp [hnone]) hm)).elim)
    fun _ hcfg _ => .inl hcfg

theorem alternate_concat (hs : s.Alerted name log) {n : Notice} (hname : n.resourceType = name)
    (hn : warned name log = true → n.isWarning = false) :
    (about name (log ++ [n])).IsChain fun a b => ¬(a.isWarning = true ∧ b.isWarning = true) := by
  rw [about_same hname]
  refine List.isChain_append.mpr ⟨hs.alternate, List.isChain_singleton n, ?_⟩
  rintro a ha b hb ⟨hwarning, hagain⟩
  have hlast : warned name log = true := by
    rw [warned, Option.mem_def.mp ha]
    exact hwarning
  cases hb
  rw [hn hlast] at hagain
  cases hagain

theorem warn (hs : s.Alerted name log) {cfg : QuotaConfig} {rest : List QuotaConfig}
    {used : Int64} (hc : s.checks[i]? = some c) (hrest : c.rest = cfg :: rest)
    (hdue : cfg.due c.snapshots = some used) (hname : cfg.resourceType = name) :
    Alerted name (log ++ [.warning cfg.resourceType used])
      { s with checks := s.checks.set i { c with rest, marking := some cfg.resourceType } } := by
  have hmem := List.mem_of_getElem? hc
  have hquiet : warned name log = false := by
    by_contra hw
    have hsent := hs.read (by simpa using hw) c hmem cfg (by simp [hrest]) hname
    rw [due_unmarked hdue] at hsent
    cases hsent
  have hlt : i < s.checks.length := (List.getElem?_eq_some_iff.mp hc).1
  -- the check is the only one, and its other rows are about other resources
  have honly : ∀ c' ∈ s.checks.set i { c with rest, marking := some cfg.resourceType },
      c' = { c with rest, marking := some cfg.resourceType } := by
    have hsingle := hs.single
    obtain ⟨d, hd⟩ := List.length_eq_one_iff.mp (show s.checks.length = 1 by omega)
    have hi : i = 0 := by
      rw [hd, List.length_singleton] at hlt
      omega
    rw [hd, hi]
    simp
  have hrows := hs.rows c hmem
  rw [hrest, List.map_cons, List.nodup_cons] at hrows
  refine ⟨hs.names, (List.length_set ..).trans_le hs.single, ?_, ?_, ?_, ?_⟩
  · intro c' hc'
    rw [honly c' hc']
    exact hrows.2
  · intro _ hnone
    exact absurd ⟨_, List.mem_set hlt _, congrArg some hname⟩ hnone
  · intro _ c' hc' cfg' hcfg' hname'
    rw [honly c' hc'] at hcfg'
    refine absurd ?_ hrows.1
    rw [hname, ← hname']
    exact List.mem_map_of_mem hcfg'
  · apply alternate_concat hs (n := .warning cfg.resourceType used) hname
    intro hw
    rw [hquiet] at hw
    cases hw

theorem mark (hs : s.Alerted name log) {resource : String} (hc : s.checks[i]? = some c)
    (hmark : c.marking = some resource)
    (hconfigs : s'.configs = markAlert s.configs resource true)
    (hfurther : Further i s.checks s'.checks) : s'.Alerted name log := by
  refine hs.keep rfl hfurther (by rw [hconfigs, markAlert_names]) ?_ ?_
  · intro hm hnone cfg hcfg hname
    rw [hconfigs] at hcfg
    by_cases hsame : resource = name
    · exact markAlert_same hcfg (hname.trans hsame.symm)
    · refine absurd (hfurther.marking hc ?_ hm) hnone
      rw [hmark]
      exact fun he => hsame (Option.some.inj he)
  · intro cfg hcfg hname
    rw [hconfigs] at hcfg
    by_cases hsame : cfg.resourceType = resource
    · exact .inr (markAlert_same hcfg hsame)
    · exact .inl (markAlert_other hcfg hsame)

theorem reset (hs : s.Alerted name log) :
    Alerted name (log ++ [.reset name]) { s with configs := markAlert s.configs name false } := by
  have hquiet : warned name (log ++ [.reset name]) = false := warned_same rfl
  refine ⟨?_, hs.single, hs.rows, ?_, ?_, alternate_concat hs rfl fun _ => rfl⟩
  · rw [markAlert_names]
    exact hs.names
  · intro hw
    rw [hquiet] at hw
    cases hw
  · intro hw
    rw [hquiet] at hw
    cases hw

/-- A check that begins reads the rows as they are. -/
theorem begin (hs : s.Alerted name log) (hnone : s.checks = []) (snapshots : Balances)
    {rows : List QuotaConfig} (hperm : rows.Perm s.configs) :
    Alerted name log { s with checks := [⟨snapshots, rows, none⟩] } := by
  have hidle : ¬s.Marking name := by
    rintro ⟨c, hc, -⟩
    rw [hnone] at hc
    cases hc
  refine ⟨hs.names, le_rfl, ?_, fun hw _ => hs.flag hw hidle, ?_, hs.alternate⟩
  · intro c hc
    cases List.mem_singleton.mp hc
    exact (hperm.map _).nodup_iff.mpr hs.names
  · intro hw c hc cfg hcfg hname
    cases List.mem_singleton.mp hc
    exact hs.flag hw hidle cfg (hperm.mem_iff.mp hcfg) hname

theorem step {ev : AlertEvent} (hs : s.Alerted name log) (hev : s.OneAtATime ev)
    (hstep : s.step ev = some s') : s'.Alerted name (log ++ (s.notice ev).toList) := by
  obtain ⟨n, hn, hcourse⟩ := step_course hstep
  rw [hn]
  cases hcourse with
  | @listed snapshots rows hperm =>
    have hnone : s.checks = [] := hev
    have hbegin := hs.begin hnone snapshots hperm
    rw [hnone, List.nil_append]
    simpa using hbegin
  | passed hc hnone hrest hdue =>
    exact hs.advance (by simp) (further_row hc hrest none) hc hnone
  | @warned i c cfg rest used hc hnone hrest hdue =>
    by_cases hname : cfg.resourceType = name
    · exact hs.warn hc hrest hdue hname
    · have hother : about name (log ++ [.warning cfg.resourceType used]) = about name log :=
        about_other hname
      exact hs.advance hother (further_row hc hrest _) hc hnone
  | @marked i c resource hc hname =>
    have hfurther : Further i s.checks (s.checks.set i { c with marking := none }) :=
      further_set hc List.suffix_rfl
    simpa using hs.mark hc hname rfl hfurther
  | failed hc hname =>
    have hreached : _ = true := hev
    simpa using hs.mark hc hname (if_pos hreached) (further_eraseIdx _ _)
  | returned hc hrest hnone => exact hs.advance (by simp) (further_eraseIdx _ _) hc hnone
  | gaveUp hc => exact hs.advance (by simp) (further_eraseIdx _ _) hc (hev _ hc)
  | @reset resource =>
    by_cases hname : resource = name
    · subst hname
      exact hs.reset
    · have hsame : Further 0 s.checks s.checks :=
        ⟨le_rfl, fun c hc => ⟨c, hc, List.suffix_rfl⟩, fun _ _ _ hj => List.mem_of_getElem? hj⟩
      refine hs.keep (about_other hname) hsame markAlert_names
        (fun hm hnone => absurd hm hnone) ?_
      intro cfg hcfg hcfgname
      exact .inl (markAlert_other hcfg (hcfgname.trans_ne (Ne.symm hname)))

end Alerted

/-- Behind a mark, or a check that is to set it, stands a warning since the last reset. -/
structure Founded (name : String) (log : List Notice) (s : SoftLimits) : Prop where
  flag : ∀ cfg ∈ s.configs, cfg.resourceType = name → cfg.softLimitAlertSent = true →
    warned name log = true
  marking : s.Marking name → warned name log = true

namespace Founded

variable {name : String} {log log' : List Notice} {s s' : SoftLimits} {i : ℕ}

theorem keep (hs : s.Founded name log) (hlog : about name log' = about name log)
    (hmarking : s'.Marking name → s.Marking name)
    (hrow : ∀ cfg ∈ s'.configs, cfg.resourceType = name → cfg ∈ s.configs ∨ s.Marking name) :
    s'.Founded name log' := by
  have hwarned : warned name log' = warned name log := by rw [warned, hlog, warned]
  refine ⟨fun cfg hcfg hname hsent => ?_, fun hm => hwarned.trans (hs.marking (hmarking hm))⟩
  rcases hrow cfg hcfg hname with hold | hm
  · exact hwarned.trans (hs.flag cfg hold hname hsent)
  · exact hwarned.trans (hs.marking hm)

theorem of_warned (hw : warned name log = true) : s.Founded name log :=
  ⟨fun _ _ _ _ => hw, fun _ => hw⟩

theorem marking_set {d : SoftLimitCheck} (hd : d.marking ≠ some name)
    (hm : Marking name { s with checks := s.checks.set i d }) : s.Marking name := by
  obtain ⟨c', hc', hname⟩ := hm
  rcases List.mem_or_eq_of_mem_set hc' with hold | rfl
  · exact ⟨c', hold, hname⟩
  · exact absurd hname hd

theorem marking_eraseIdx (hm : Marking name { s with checks := s.checks.eraseIdx i }) :
    s.Marking name := by
  obtain ⟨c', hc', hname⟩ := hm
  exact ⟨c', List.mem_of_mem_eraseIdx hc', hname⟩

theorem step {ev : AlertEvent} (hs : s.Founded name log) (hev : s.NoResetBetween name ev)
    (hstep : s.step ev = some s') : s'.Founded name (log ++ (s.notice ev).toList) := by
  -- a row that a check writes is one it is to mark
  have hrow : ∀ {i : ℕ} {resource : String} {c : SoftLimitCheck} {cfg : QuotaConfig},
      s.checks[i]? = some c → c.marking = some resource →
      cfg ∈ markAlert s.configs resource true → cfg.resourceType = name →
      cfg ∈ s.configs ∨ s.Marking name := by
    intro i resource c cfg hc hresource hcfg hname
    by_cases hsame : cfg.resourceType = resource
    · refine .inr ⟨c, List.mem_of_getElem? hc, ?_⟩
      rw [hresource, ← hsame, hname]
    · exact .inl (markAlert_other hcfg hsame)
  obtain ⟨n, hn, hcourse⟩ := step_course hstep
  rw [hn]
  cases hcourse with
  | listed =>
    refine hs.keep (by simp) ?_ fun _ hcfg _ => .inl hcfg
    rintro ⟨c, hc, hname⟩
    rcases List.mem_append.mp hc with hc | hc
    · exact ⟨c, hc, hname⟩
    · cases List.mem_singleton.mp hc
      cases hname
  | passed => exact hs.keep (by simp) (marking_set (by simp)) fun _ hcfg _ => .inl hcfg
  | @warned i c cfg rest used =>
    by_cases hname : cfg.resourceType = name
    · exact of_warned (warned_same hname)
    · have hother : about name (log ++ [.warning cfg.resourceType used]) = about name log :=
        about_other hname
      exact hs.keep hother (marking_set fun he => hname (Option.some.inj he))
        fun _ hcfg _ => .inl hcfg
  | marked hc hresource =>
    exact hs.keep (by simp) (marking_set (s := s) (by simp)) fun _ => hrow hc hresource
  | failed hc hresource =>
    refine hs.keep (by simp) (marking_eraseIdx (s := s)) fun cfg hcfg hname => ?_
    dsimp only at hcfg
    split_ifs at hcfg
    · exact hrow hc hresource hcfg hname
    · exact .inl hcfg
  | returned => exact hs.keep (by simp) marking_eraseIdx fun _ hcfg _ => .inl hcfg
  | gaveUp => exact hs.keep (by simp) marking_eraseIdx fun _ hcfg _ => .inl hcfg
  | @reset resource =>
    by_cases hname : resource = name
    · refine ⟨fun cfg hcfg hrow hsent => ?_, fun hm => absurd hm (hev hname)⟩
      rw [markAlert_same hcfg (hrow.trans hname.symm)] at hsent
      cases hsent
    · refine hs.keep (about_other hname) id fun cfg hcfg hrow => .inl ?_
      exact markAlert_other hcfg (hrow.trans_ne (Ne.symm hname))

end Founded

section Runs

variable {configs : List QuotaConfig} {s m t : SoftLimits} {es es' : List AlertEvent}

theorem run_alerted (hnames : (configs.map (·.resourceType)).Nodup)
    (hC : Along step OneAtATime { configs } es) (hr : runSteps step { configs } es = some s)
    (name : String) : s.Alerted name (outputs step notice { configs } es) := by
  have hquiet : warned name [] = true → False := by simp [warned, about]
  have hstart : Alerted name [] { configs } :=
    ⟨hnames, Nat.zero_le 1, (fun c hc => by cases hc), fun hw => (hquiet hw).elim,
      fun hw => (hquiet hw).elim, List.isChain_nil⟩
  exact invariant_outputs step notice (P := Alerted name)
    (fun _ _ _ _ hs hev hstep => hs.step hev hstep) hstart hC hr

theorem run_founded (hfresh : ∀ cfg ∈ configs, cfg.softLimitAlertSent = false) {name : String}
    (hC : Along step (NoResetBetween name) { configs } es)
    (hr : runSteps step { configs } es = some s) :
    s.Founded name (outputs step notice { configs } es) := by
  have hstart : Founded name [] { configs } := by
    refine ⟨fun cfg hcfg _ hsent => ?_, ?_⟩
    · rw [hfresh cfg hcfg] at hsent
      cases hsent
    · rintro ⟨c, hc, -⟩
      cases hc
  exact invariant_outputs step notice (P := Founded name)
    (fun _ _ _ _ hs hev hstep => hs.step hev hstep) hstart hC hr

/-- As long as the checks do not overlap, none is broken off before its mark and the marks
take effect, whenever credits reset them: there is a reset between any two warnings about a
resource, and a resource with a warning since the last reset is marked, or about to be. If no reset comes between a
warning and its mark, a marked resource has a warning since the last reset. -/
theorem alerts_alternate_with_resets (hnames : (configs.map (·.resourceType)).Nodup)
    (hfresh : ∀ cfg ∈ configs, cfg.softLimitAlertSent = false)
    (hC : Along step OneAtATime { configs } es) (hr : runSteps step { configs } es = some s)
    (name : String) :
    (about name (outputs step notice { configs } es)).IsChain
        (fun a b => ¬(a.isWarning = true ∧ b.isWarning = true)) ∧
      (warned name (outputs step notice { configs } es) = true → ¬s.Marking name →
        ∀ cfg ∈ s.configs, cfg.resourceType = name → cfg.softLimitAlertSent = true) ∧
      (Along step (NoResetBetween name) { configs } es →
        ∀ cfg ∈ s.configs, cfg.resourceType = name → cfg.softLimitAlertSent = true →
          warned name (outputs step notice { configs } es) = true) := by
  have hs := run_alerted hnames hC hr name
  exact ⟨hs.alternate, hs.flag, fun hU => (run_founded hfresh hU hr).flag⟩

instance (s : SoftLimits) (ev : AlertEvent) : Decidable (OneAtATime s ev) :=
  match ev with
  | .listQuotaConfigs _ _ => decidable_of_iff (s.checks.isEmpty = true) List.isEmpty_iff
  | .markSoftLimitAlertSent _ fate => inferInstanceAs (Decidable (fate.reached = true))
  | .giveUp i =>
    inferInstanceAs (Decidable (∀ c, s.checks[i]? = some c → c.marking = none))
  | .checkRow _ | .returns _ | .resetSoftLimitAlert _ => .isTrue trivial

/-- A soft limit for CPU hours, and none for memory. -/
def sampleConfigs (sent : Bool) : List QuotaConfig :=
  [⟨"cpu_hours", some 80, sent⟩, ⟨"memory_gb_hours", none, false⟩]

/-- All but a few CPU hours are used. -/
def sampleBalances : Balances := Table.empty.set .cpuHours ⟨100, 85, 0⟩

/-- A check that warns and marks. -/
def sampleCheck : List AlertEvent :=
  [.listQuotaConfigs sampleBalances (sampleConfigs false), .checkRow 0,
    .markSoftLimitAlertSent 0 .answered, .checkRow 0, .returns 0]

/-- A check that finds the mark. -/
def silentCheck : List AlertEvent :=
  [.listQuotaConfigs sampleBalances (sampleConfigs true), .checkRow 0, .checkRow 0, .returns 0]

/-- Two checks, a credit while a third one goes on, and a fourth. -/
def checksAroundReset : List AlertEvent :=
  sampleCheck ++ silentCheck ++
    [.listQuotaConfigs sampleBalances (sampleConfigs true), .resetSoftLimitAlert "cpu_hours",
      .checkRow 0, .giveUp 0] ++ sampleCheck

theorem checksAroundReset_warn_twice :
    ∃ s, runSteps step { configs := sampleConfigs false } checksAroundReset = some s ∧
      about "cpu_hours" (outputs step notice { configs := sampleConfigs false } checksAroundReset) =
        [.warning "cpu_hours" 85, .reset "cpu_hours", .warning "cpu_hours" 85] ∧
      ∀ cfg ∈ s.configs, cfg.resourceType = "cpu_hours" → cfg.softLimitAlertSent = true := by
  have hlog : about "cpu_hours"
      (outputs step notice { configs := sampleConfigs false } checksAroundReset) =
        [.warning "cpu_hours" 85, .reset "cpu_hours", .warning "cpu_hours" 85] := by decide +kernel
  obtain ⟨s, hr, hidle⟩ := runSteps_any step { configs := sampleConfigs false } checksAroundReset
    (fun s => s.checks.isEmpty) (by decide +kernel)
  refine ⟨s, hr, hlog, (alerts_alternate_with_resets (by decide) (by decide)
    (along_of_alongTest step (by decide +kernel)) hr "cpu_hours").2.1 ?_ ?_⟩
  · rw [warned, hlog]
    rfl
  · rintro ⟨c, hc, -⟩
    rw [List.isEmpty_iff.mp hidle] at hc
    cases hc

end Runs

/-- The usage is at the soft limit, whether that was reported or not. -/
def atLimit (snapshots : Balances) (cfg : QuotaConfig) : Bool :=
  (QuotaConfig.due { cfg with softLimitAlertSent := false } snapshots).isSome

/-- A check is still to see to the resource, or it is marked. -/
def Owed (name : String) (s : SoftLimits) : Prop :=
  (∃ c ∈ s.checks, c.Owes name) ∨
    ∀ cfg ∈ s.configs, cfg.resourceType = name → cfg.softLimitAlertSent = true

/-- No check is broken off, and the mark of the resource is not reset. -/
def Unbroken (name : String) : AlertEvent → Prop
  | .markSoftLimitAlertSent _ fate => fate = .answered
  | .giveUp _ => False
  | .resetSoftLimitAlert resource => resource ≠ name
  | _ => True

theorem markAlert_keeps {configs : List QuotaConfig} {name resource : String}
    (h : ∀ cfg ∈ configs, cfg.resourceType = name → cfg.softLimitAlertSent = true) :
    ∀ cfg ∈ markAlert configs resource true, cfg.resourceType = name →
      cfg.softLimitAlertSent = true := by
  intro cfg hcfg hname
  by_cases hsame : cfg.resourceType = resource
  · exact markAlert_same hcfg hsame
  · exact h cfg (markAlert_other hcfg hsame) hname

/-- What a check owes is about its next row or one of those after it. -/
theorem owes_next {name : String} {c : SoftLimitCheck} {cfg : QuotaConfig}
    {rest : List QuotaConfig} (ho : c.Owes name) (hnone : c.marking = none)
    (hrest : c.rest = cfg :: rest) :
    (cfg.resourceType = name ∧ (cfg.due c.snapshots).isSome = true) ∨
      ∃ row ∈ rest, row.resourceType = name ∧ (row.due c.snapshots).isSome = true := by
  simpa [SoftLimitCheck.Owes, hnone, hrest] using ho

/-- A check goes on and still owes what it did, or something else has come of it. -/
theorem owes_set {name : String} {cs : List SoftLimitCheck} {i : ℕ} {c d : SoftLimitCheck}
    {done : Prop} (hc : cs[i]? = some c) (hgoes : c.Owes name → d.Owes name ∨ done)
    (howes : ∃ c' ∈ cs, c'.Owes name) : (∃ c' ∈ cs.set i d, c'.Owes name) ∨ done := by
  obtain ⟨c', hc', hname⟩ := howes
  obtain ⟨j, hj⟩ := List.mem_iff_getElem?.mp hc'
  by_cases hij : i = j
  · subst hij
    cases hc.symm.trans hj
    have hlt : i < cs.length := (List.getElem?_eq_some_iff.mp hc).1
    exact (hgoes hname).imp_left fun hd => ⟨d, List.mem_set hlt _, hd⟩
  · refine .inl ⟨c', List.mem_of_getElem? (i := j) ?_, hname⟩
    rw [List.getElem?_set_ne hij]
    exact hj

theorem Owed.step {name : String} {s s' : SoftLimits} {ev : AlertEvent} (hs : s.Owed name)
    (hev : Unbroken name ev) (hstep : s.step ev = some s') : s'.Owed name := by
  obtain ⟨n, -, hcourse⟩ := step_course hstep
  cases hcourse with
  | listed =>
    refine hs.imp_left ?_
    rintro ⟨c, hc, howed⟩
    exact ⟨c, List.mem_append_left _ hc, howed⟩
  | passed hc hnone hrest hdue =>
    rcases hs with howes | hmarked
    · refine owes_set hc (fun ho => ?_) howes
      rcases owes_next ho hnone hrest with ⟨-, hsome⟩ | hrow
      · rw [hdue] at hsome
        cases hsome
      · exact .inl (.inl hrow)
    · exact .inr hmarked
  | warned hc hnone hrest hdue =>
    rcases hs with howes | hmarked
    · refine owes_set hc (fun ho => .inl ?_) howes
      rcases owes_next ho hnone hrest with ⟨hname, -⟩ | hrow
      · exact .inr (congrArg some hname)
      · exact .inl hrow
    · exact .inr hmarked
  | marked hc hmark =>
    rcases hs with howes | hmarked
    · refine owes_set hc ?_ howes
      rintro (hrow | hname)
      · exact .inl (.inl hrow)
      · refine .inr fun cfg hcfg hcfgname => markAlert_same hcfg (hcfgname.trans ?_)
        exact Option.some.inj (hname.symm.trans hmark)
    · exact .inr (markAlert_keeps hmarked)
  | failed _ _ hfate => exact absurd hev hfate
  | returned hc hrest hnone =>
    refine hs.imp_left ?_
    rintro ⟨c', hc', howes⟩
    obtain ⟨j, hj⟩ := List.mem_iff_getElem?.mp hc'
    refine ⟨c', List.mem_eraseIdx_iff_getElem?.mpr ⟨j, ?_, hj⟩, howes⟩
    rintro rfl
    cases hc.symm.trans hj
    simp [SoftLimitCheck.Owes, hrest, hnone] at howes
  | gaveUp => cases hev
  | reset =>
    refine hs.imp_right ?_
    intro hmarked cfg hcfg hname
    refine hmarked cfg (markAlert_other hcfg ?_) hname
    rintro rfl
    exact hev hname

theorem owed_of_list {s m : SoftLimits} {snapshots : Balances} {rows : List QuotaConfig}
    (hnames : (s.configs.map (·.resourceType)).Nodup)
    (hstep : s.step (.listQuotaConfigs snapshots rows) = some m) {cfg : QuotaConfig}
    (hcfg : cfg ∈ s.configs) (hlimit : atLimit snapshots cfg = true) :
    m.Owed cfg.resourceType := by
  simp only [step] at hstep
  split_ifs at hstep with hperm
  cases hstep
  cases hsent : cfg.softLimitAlertSent with
  | true =>
    refine .inr fun cfg' hcfg' hname => ?_
    rw [List.inj_on_of_nodup_map hnames hcfg' hcfg hname, hsent]
  | false =>
    refine .inl ⟨⟨snapshots, rows, none⟩, List.mem_append_right _ (List.mem_singleton_self _),
      .inl ⟨cfg, (List.isPerm_iff.mp hperm).mem_iff.mpr hcfg, rfl, ?_⟩⟩
    rw [atLimit, ← hsent] at hlimit
    exact hlimit

theorem noResetBetween_of_unbroken {name : String} {s : SoftLimits} {ev : AlertEvent}
    (hev : Unbroken name ev) : s.NoResetBetween name ev := by
  cases ev with
  | resetSoftLimitAlert resource => exact fun hname => absurd hname hev
  | _ => trivial

/-- A check that goes through leaves nothing unreported, if no reset came between a warning
and its mark before: every resource that is at its soft limit in the balances it was given has
a warning since the last reset, given by this check or an earlier one. -/
theorem finished_check_has_reported {configs rows : List QuotaConfig} {s m t : SoftLimits}
    {es es' : List AlertEvent} {snapshots : Balances}
    (hnames : (configs.map (·.resourceType)).Nodup)
    (hfresh : ∀ cfg ∈ configs, cfg.softLimitAlertSent = false)
    (hr : runSteps step { configs } es = some s)
    (hbegin : s.step (.listQuotaConfigs snapshots rows) = some m)
    (hr' : runSteps step m es' = some t) {cfg : QuotaConfig} (hcfg : cfg ∈ s.configs)
    (hlimit : atLimit snapshots cfg = true)
    (hC : Along step (NoResetBetween cfg.resourceType) { configs } es)
    (hes' : ∀ ev ∈ es', Unbroken cfg.resourceType ev) (hdone : t.checks = []) :
    warned cfg.resourceType (outputs step notice { configs }
      (es ++ .listQuotaConfigs snapshots rows :: es')) = true := by
  have hrest : runSteps step s (.listQuotaConfigs snapshots rows :: es') = some t := by
    rw [runSteps, hbegin, Option.bind_some, hr']
  have hsame : ∀ {u v : SoftLimits} {xs : List AlertEvent}, runSteps step u xs = some v →
      v.configs.map (·.resourceType) = u.configs.map (·.resourceType) := by
    intro u v xs hxs
    exact invariant_of_steps step
      (P := fun w => w.configs.map (·.resourceType) = u.configs.map (·.resourceType))
      (fun _ _ _ hold hstep => (step_names hstep).trans hold) rfl hxs
  have howed : t.Owed cfg.resourceType :=
    invariant_along step (fun _ _ _ howed hev hstep => howed.step hev hstep)
      (owed_of_list (hsame hr ▸ hnames) hbegin hcfg hlimit) (along_of_forall step hes') hr'
  have hquiet : Along step (NoResetBetween cfg.resourceType) s
      (.listQuotaConfigs snapshots rows :: es') :=
    (along_of_forall step (List.forall_mem_cons.mpr ⟨trivial, hes'⟩)).mono step
      fun _ _ hev => noResetBetween_of_unbroken hev
  have hfounded := invariant_outputs step notice (P := Founded cfg.resourceType)
    (fun _ _ _ _ hs hev hstep => hs.step hev hstep) (run_founded hfresh hC hr) hquiet hrest
  rw [← outputs_append step notice hr] at hfounded
  obtain ⟨row, hrow, hname⟩ : ∃ row ∈ t.configs, row.resourceType = cfg.resourceType := by
    apply List.mem_map.mp
    rw [hsame hrest]
    exact List.mem_map_of_mem hcfg
  rcases howed with ⟨c, hc, -⟩ | hmarked
  · rw [hdone] at hc
    cases hc
  · exact hfounded.flag row hrow hname (hmarked row hrow hname)

theorem sampleCheck_has_reported :
    atLimit sampleBalances ⟨"cpu_hours", some 80, false⟩ = true ∧
      warned "cpu_hours" (outputs step notice { configs := sampleConfigs false } sampleCheck) =
        true := by
  have hlimit : atLimit sampleBalances ⟨"cpu_hours", some 80, false⟩ = true := by decide
  have hstart : runSteps step { configs := sampleConfigs false } [] =
      some { configs := sampleConfigs false } := rfl
  refine ⟨hlimit, finished_check_has_reported (by decide) (by decide) hstart rfl rfl
    (by decide) hlimit trivial ?_ rfl⟩
  simp [Unbroken]

/-- A reset between the warning and the mark: the next check finds the mark and stays silent. -/
example : about "cpu_hours" (outputs step notice { configs := sampleConfigs false }
    ([.listQuotaConfigs sampleBalances (sampleConfigs false), .checkRow 0,
      .resetSoftLimitAlert "cpu_hours", .markSoftLimitAlertSent 0 .answered, .checkRow 0,
      .returns 0] ++ silentCheck)) = [.warning "cpu_hours" 85, .reset "cpu_hours"] := by
  decide +kernel

end SoftLimits
end CloudCredit.Accounting
