import CloudCredit.Gateway.Dedup
import CloudCredit.Library.Transitions

/-!
# How long a number is remembered

The marks of both deduplicators expire. In memory a mark counts from the last number that
passed, and rounds of the prune loop delete the marks that are too old. In Valkey every
call for a cluster sets the expiry of its key anew, whether the number passes or not.
-/
namespace CloudCredit.Gateway

open Library TigerBeetle

/-- A number that passed, and when. -/
structure Pass where
  clusterID : String
  seq : UInt64
  time : ℕ
  deriving DecidableEq

/-- A deduplicator over time. -/
structure MemSession where
  dedup : MemDedup
  now : ℕ := 0
  /-- The time of the last round of the prune loop. -/
  pruned : ℕ := 0

inductive MemEvent
  | check (clusterID : String) (seq : UInt64)
  | prune
  | wait (d : ℕ)

namespace MemSession

variable (s : MemSession)

def step : MemEvent → Option MemSession
  | .check c seq => some { s with dedup := (s.dedup.isDuplicate s.now c seq).2 }
  | .prune => some { s with dedup := s.dedup.prune s.now, pruned := s.now }
  | .wait d => some { s with now := s.now + d }

def passes : MemEvent → Option Pass
  | .check c seq => if (s.dedup.isDuplicate s.now c seq).1 then none else some ⟨c, seq, s.now⟩
  | _ => none

/-- Of two numbers of one cluster the later one is higher if not more than `ttl` lies
between them. -/
def Increase (ttl : ℕ) (a b : Pass) : Prop :=
  a.clusterID = b.clusterID → b.time ≤ a.time + ttl → a.seq < b.seq

/-- The numbers that have passed, and their marks while they are not older than `ttl`. -/
structure Remembers (ttl : ℕ) (ps : List Pass) (s : MemSession) : Prop where
  setting : s.dedup.ttl = ttl
  increase : ps.Pairwise (Increase ttl)
  marked : ∀ p ∈ ps, s.now ≤ p.time + ttl →
    ∃ e, s.dedup.entries p.clusterID = some e ∧ p.seq ≤ e.seq ∧ p.time ≤ e.seenAt
  young : ∀ c e, s.dedup.entries c = some e → s.pruned ≤ e.seenAt + ttl
  past : s.pruned ≤ s.now ∧ ∀ p ∈ ps, p.time ≤ s.now

variable {s} {t : MemSession} {ev : MemEvent} {ttl : ℕ} {ps : List Pass}

theorem Remembers.check (hs : s.Remembers ttl ps) (c : String) (seq : UInt64) :
    Remembers ttl (ps ++ (s.passes (.check c seq)).toList)
      { s with dedup := (s.dedup.isDuplicate s.now c seq).2 } := by
  rcases s.dedup.isDuplicate_cases s.now c seq with ⟨e, he, hle, hout⟩ | ⟨hnew, hout⟩
  · have hnone : s.passes (.check c seq) = none := by simp [passes, hout]
    rw [hnone, hout, Option.toList_none, List.append_nil]
    exact hs
  have hsome : s.passes (.check c seq) = some ⟨c, seq, s.now⟩ := by simp [passes, hout]
  rw [hsome, hout, Option.toList_some]
  constructor
  · exact hs.setting
  · rw [List.pairwise_append]
    refine ⟨hs.increase, List.pairwise_singleton _ _, ?_⟩
    intro p hp q hq hcluster htime
    rw [List.mem_singleton.mp hq] at hcluster htime ⊢
    obtain ⟨e, he, hle, -⟩ := hs.marked p hp htime
    rw [hcluster] at he
    exact UInt64.lt_of_le_of_lt hle (hnew e he)
  · intro p hp htime
    rcases List.mem_append.mp hp with hp | hp
    · obtain ⟨e, he, hle, hseen⟩ := hs.marked p hp htime
      by_cases hcluster : p.clusterID = c
      · rw [hcluster] at he ⊢
        exact ⟨⟨seq, s.now⟩, Table.set_same _ _ _,
          UInt64.le_of_lt (UInt64.lt_of_le_of_lt hle (hnew e he)), hs.past.2 p hp⟩
      · exact ⟨e, (Table.set_other _ hcluster _).trans he, hle, hseen⟩
    · rw [List.mem_singleton.mp hp]
      exact ⟨⟨seq, s.now⟩, Table.set_same _ _ _, UInt64.le_refl _, le_refl _⟩
  · intro c' e he
    rcases Table.set_eq_some.mp he with ⟨-, rfl⟩ | ⟨-, he⟩
    · exact hs.past.1.trans (Nat.le_add_right _ _)
    · exact hs.young c' e he
  · refine ⟨hs.past.1, fun p hp => ?_⟩
    rcases List.mem_append.mp hp with hp | hp
    · exact hs.past.2 p hp
    · rw [List.mem_singleton.mp hp]

theorem Remembers.prune (hs : s.Remembers ttl ps) :
    Remembers ttl ps { s with dedup := s.dedup.prune s.now, pruned := s.now } := by
  constructor
  · exact hs.setting
  · exact hs.increase
  · intro p hp htime
    obtain ⟨e, he, hle, hseen⟩ := hs.marked p hp htime
    refine ⟨e, ?_, hle, hseen⟩
    have hkept : s.now ≤ e.seenAt + s.dedup.ttl := by
      rw [hs.setting]
      exact htime.trans (Nat.add_le_add_right hseen ttl)
    simp [MemDedup.prune, he, hkept]
  · intro c e he
    have hkept := (Option.filter_eq_some_iff.mp he).2
    simp only [hs.setting, decide_eq_true_eq] at hkept
    exact Nat.not_lt.mp hkept
  · exact ⟨le_refl _, hs.past.2⟩

theorem Remembers.step (hs : s.Remembers ttl ps) (hstep : s.step ev = some t) :
    t.Remembers ttl (ps ++ (s.passes ev).toList) := by
  cases ev with
  | check c seq =>
    cases hstep
    exact hs.check c seq
  | prune =>
    cases hstep
    simpa [passes] using hs.prune
  | wait d =>
    cases hstep
    simp only [passes, Option.toList_none, List.append_nil]
    constructor
    · exact hs.setting
    · exact hs.increase
    · intro p hp htime
      exact hs.marked p hp (by dsimp only at htime; omega)
    · exact hs.young
    · exact ⟨hs.past.1.trans (Nat.le_add_right _ _),
        fun p hp => (hs.past.2 p hp).trans (Nat.le_add_right _ _)⟩

theorem remembers_start (ttl : ℕ) : Remembers ttl [] { dedup := { ttl } } := by
  refine ⟨rfl, List.Pairwise.nil, ?_, ?_, le_refl _, ?_⟩
  · intro p hp
    cases hp
  · intro c e he
    cases he
  · intro p hp
    cases hp

theorem run_remembers {es : List MemEvent}
    (hr : runSteps MemSession.step { dedup := { ttl } } es = some s) :
    s.Remembers ttl (outputs MemSession.step passes { dedup := { ttl } } es) :=
  invariant_outputs MemSession.step passes (C := fun _ _ => True) (P := Remembers ttl)
    (fun _ _ _ _ hs _ hstep => hs.step hstep) (remembers_start ttl)
    (along_of_forall MemSession.step fun _ _ => trivial) hr

/-- In every run, the numbers of a cluster that pass within the lifetime of a mark increase.
If the last round of the prune loop is not further back than that, no mark is kept for more
than twice the lifetime. -/
theorem memory_remembers_within_ttl {es : List MemEvent}
    (hr : runSteps MemSession.step { dedup := { ttl } } es = some s) :
    (outputs MemSession.step passes { dedup := { ttl } } es).Pairwise (Increase ttl) ∧
      (s.now ≤ s.pruned + ttl →
        ∀ c e, s.dedup.entries c = some e → s.now ≤ e.seenAt + 2 * ttl) := by
  have hs := run_remembers hr
  refine ⟨hs.increase, ?_⟩
  intro hround c e he
  have hyoung := hs.young c e he
  omega

/-- A number is repeated every 400 seconds, with a round of the prune loop every 600. -/
def repeatedNumber : List MemEvent :=
  [.check "c" 5, .wait 400, .check "c" 5, .wait 200, .prune, .wait 200, .check "c" 5, .wait 400,
    .prune, .check "c" 5]

theorem repeatedNumber_passes_twice :
    (∃ s, runSteps MemSession.step { dedup := { ttl := 600 } } repeatedNumber = some s ∧
      s.now ≤ s.pruned + 600 ∧
      ∀ c e, s.dedup.entries c = some e → s.now ≤ e.seenAt + 2 * 600) ∧
      outputs MemSession.step passes { dedup := { ttl := 600 } } repeatedNumber =
        [⟨"c", 5, 0⟩, ⟨"c", 5, 1200⟩] := by
  obtain ⟨s, hr, hround⟩ := runSteps_any MemSession.step { dedup := { ttl := 600 } }
    repeatedNumber (fun s => s.now ≤ s.pruned + 600) (by decide)
  rw [decide_eq_true_eq] at hround
  exact ⟨⟨s, hr, hround, (memory_remembers_within_ttl hr).2 hround⟩, by decide⟩

end MemSession

/-- When Valkey has dropped a key, by the time of its last `EXPIRE`, the time to live given
there, and the time of the call that looks for it. It may drop a key late but not early. -/
structure KeyExpiry where
  dropped : ℕ → ℕ → ℕ → Bool
  not_early : ∀ setAt ttl now, now < setAt + ttl → dropped setAt ttl now = false

/-- The scores and the times of the last `EXPIRE` of their keys. -/
structure ValkeySession where
  dedup : RedisDedup := {}
  setAt : Table String ℕ := Table.empty
  ttl : ℕ
  now : ℕ := 0

inductive ValkeyEvent
  | check (clusterID : String) (seq : UInt64) (zadd expire : Fate)
  | wait (d : ℕ)

namespace ValkeySession

variable (x : KeyExpiry) (s : ValkeySession)

def expired (c : String) : Bool := (s.setAt c).any fun setAt => x.dropped setAt s.ttl s.now

/-- The key of the cluster is gone when it has expired. -/
def evict (c : String) : ValkeySession :=
  if s.expired x c then { s with dedup := s.dedup.expire c, setAt := s.setAt.erase c } else s

/-- `EXPIRE` follows a `ZADD` that was answered. -/
def refresh (c : String) (zadd expire : Fate) : ValkeySession :=
  match zadd with
  | .answered => if expire.reached then { s with setAt := s.setAt.set c s.now } else s
  | _ => s

def step : ValkeyEvent → Option ValkeySession
  | .check c seq zadd expire =>
    let m := s.evict x c
    some ({ m with dedup := (m.dedup.isDuplicate zadd c seq).2 }.refresh c zadd expire)
  | .wait d => some { s with now := s.now + d }

def passes : ValkeyEvent → Option Pass
  | .check c seq zadd _ =>
    if ((s.evict x c).dedup.isDuplicate zadd c seq).1 then none else some ⟨c, seq, s.now⟩
  | _ => none

/-- The calls for the cluster are answered, and each comes before the time to live that the
one before has set is over. -/
def InSession (c : String) (s : ValkeySession) : ValkeyEvent → Prop
  | .check c' _ zadd expire => c' = c → zadd = .answered ∧ expire = .answered ∧
      (s.setAt c).all (fun setAt => s.now < setAt + s.ttl) = true
  | .wait _ => True

/-- The numbers of the cluster that have passed have increasing scores, and the last one is
the score of the cluster. -/
structure Scores (c : String) (ps : List Pass) (s : ValkeySession) : Prop where
  increase : ((ps.filter (·.clusterID = c)).map fun p => float64 p.seq).Pairwise (· < ·)
  score : ∀ p ∈ ps, p.clusterID = c → ∃ n, s.dedup.scores (dedupKey c) = some n ∧ float64 p.seq ≤ n

variable {x s} {t : ValkeySession} {ev : ValkeyEvent} {c : String} {ps : List Pass}

theorem refresh_dedup (c : String) (zadd expire : Fate) :
    (s.refresh c zadd expire).dedup = s.dedup := by
  unfold refresh
  split
  · split_ifs <;> rfl
  · rfl

theorem check_other {c' : String} (hne : c ≠ c') (seq : UInt64) (zadd : Fate) :
    ((s.evict x c').dedup.isDuplicate zadd c' seq).2.scores (dedupKey c) =
      s.dedup.scores (dedupKey c) := by
  have hkey : dedupKey c ≠ dedupKey c' := fun he => hne (dedupKey_injective he)
  have hevict : (s.evict x c').dedup.scores (dedupKey c) = s.dedup.scores (dedupKey c) := by
    unfold evict
    split_ifs
    · exact Table.erase_other _ hkey
    · rfl
  rcases (s.evict x c').dedup.isDuplicate_cases zadd c' seq with ⟨-, -, -, hout⟩ | ⟨-, hout | hout⟩
  · rw [hout, hevict]
  · rw [hout, hevict]
  · rw [hout]
    exact (Table.set_other _ hkey _).trans hevict

theorem expired_of_all (hall : (s.setAt c).all (fun setAt => s.now < setAt + s.ttl) = true) :
    s.expired x c = false := by
  unfold expired
  cases hset : s.setAt c with
  | none => rfl
  | some setAt =>
    rw [hset, Option.all_some, decide_eq_true_eq] at hall
    exact x.not_early setAt s.ttl s.now hall

theorem Scores.check (hs : Scores c ps s) (seq : UInt64) (hlive : s.expired x c = false) :
    Scores c (ps ++ (s.passes x (.check c seq .answered .answered)).toList)
      { s with dedup := ((s.evict x c).dedup.isDuplicate .answered c seq).2 } := by
  have hevict : s.evict x c = s := by simp [evict, hlive]
  simp only [passes, hevict]
  rcases zaddGreaterChanged_cases s.dedup.scores (dedupKey c) (float64 seq) with
    ⟨old, hold, hle, hout⟩ | ⟨hnew, hout⟩
  · simp only [RedisDedup.isDuplicate, hout, decide_true, if_true, Option.toList_none,
      List.append_nil]
    exact hs
  · simp only [RedisDedup.isDuplicate, hout, Nat.one_ne_zero, decide_false, Bool.false_eq_true,
      if_false, Option.toList_some]
    have hbelow : ∀ p ∈ ps, p.clusterID = c → float64 p.seq < float64 seq := by
      intro p hp hcluster
      obtain ⟨n, hn, hle⟩ := hs.score p hp hcluster
      exact hle.trans_lt (hnew n hn)
    constructor
    · rw [List.filter_append, List.map_append, List.pairwise_append]
      refine ⟨hs.increase, by simp, ?_⟩
      intro x hx y hy
      obtain ⟨p, hp, rfl⟩ := List.mem_map.mp hx
      obtain ⟨hp, hcluster⟩ := List.mem_filter.mp hp
      simp only [decide_true, List.filter_cons_of_pos, List.filter_nil, List.map_cons,
        List.map_nil, List.mem_singleton] at hy
      rw [hy]
      exact hbelow p hp (by simpa using hcluster)
    · intro p hp hcluster
      refine ⟨float64 seq, Table.set_same _ _ _, ?_⟩
      rcases List.mem_append.mp hp with hp | hp
      · exact (hbelow p hp hcluster).le
      · rw [List.mem_singleton.mp hp]

theorem Scores.step (hs : Scores c ps s) (hC : InSession c s ev) (hstep : s.step x ev = some t) :
    Scores c (ps ++ (s.passes x ev).toList) t := by
  cases ev with
  | wait d =>
    cases hstep
    simpa [passes] using (⟨hs.increase, hs.score⟩ : Scores c ps { s with now := s.now + d })
  | check c' seq zadd expire =>
    cases hstep
    by_cases hcluster : c' = c
    · subst hcluster
      obtain ⟨rfl, rfl, hlive⟩ := hC rfl
      obtain ⟨hincrease, hscore⟩ := hs.check seq (expired_of_all hlive)
      refine ⟨hincrease, ?_⟩
      rw [refresh_dedup]
      exact hscore
    · constructor
      · have hnone : ((s.passes x (.check c' seq zadd expire)).toList.filter
            (·.clusterID = c)) = [] := by
          simp only [passes]
          split_ifs <;> simp [hcluster]
        rw [List.filter_append, hnone, List.append_nil]
        exact hs.increase
      · intro p hp hp'
        rw [refresh_dedup, check_other (Ne.symm hcluster)]
        rcases List.mem_append.mp hp with hp | hp
        · exact hs.score p hp hp'
        · simp only [passes] at hp
          split_ifs at hp
          · cases hp
          · rw [Option.mem_toList] at hp
            cases hp
            exact absurd hp' hcluster

/-- As long as the calls for a cluster are answered and come less than a time to live apart,
the scores of its numbers that pass increase, however long that goes on. -/
theorem valkey_remembers_in_session {ttl : ℕ} {es : List ValkeyEvent}
    (hC : Along (ValkeySession.step x) (InSession c) { ttl } es)
    (hr : runSteps (ValkeySession.step x) { ttl } es = some s) :
    (((outputs (ValkeySession.step x) (passes x) { ttl } es).filter (·.clusterID = c)).map
      fun p => float64 p.seq).Pairwise (· < ·) := by
  have hstart : Scores c [] { ttl } := by
    refine ⟨List.Pairwise.nil, ?_⟩
    intro p hp
    cases hp
  exact (invariant_outputs (ValkeySession.step x) (passes x) (P := Scores c)
    (fun _ _ _ _ hs hC hstep => hs.step hC hstep) hstart hC hr).increase

instance (f : Fate) : Decidable (f = .answered) :=
  match f with
  | .answered => isTrue rfl
  | .lostRequest _ => isFalse Fate.noConfusion
  | .lostReply _ => isFalse Fate.noConfusion

instance (c : String) (s : ValkeySession) (ev : ValkeyEvent) : Decidable (InSession c s ev) :=
  match ev with
  | .check c' _ zadd expire => inferInstanceAs (Decidable (c' = c → zadd = .answered ∧
      expire = .answered ∧ (s.setAt c).all (fun setAt => s.now < setAt + s.ttl) = true))
  | .wait _ => isTrue trivial

/-- Keys are dropped when their time is over. -/
def promptExpiry : KeyExpiry where
  dropped setAt ttl now := setAt + ttl ≤ now
  not_early _ _ _ hnow := decide_eq_false (not_le.mpr hnow)

/-- A number is repeated every 400 seconds, and its key lives for 600. -/
def repeatedCalls : List ValkeyEvent :=
  [call, .wait 400, call, .wait 400, call, .wait 400, call]
where
  call : ValkeyEvent := .check "c" 5 .answered .answered

theorem repeatedCalls_pass_once :
    (∃ s, runSteps (ValkeySession.step promptExpiry) { ttl := 600 } repeatedCalls = some s ∧
        s.now = 1200) ∧
      outputs (ValkeySession.step promptExpiry) (passes promptExpiry) { ttl := 600 }
        repeatedCalls = [⟨"c", 5, 0⟩] ∧
      (((outputs (ValkeySession.step promptExpiry) (passes promptExpiry) { ttl := 600 }
        repeatedCalls).filter (·.clusterID = "c")).map fun p => float64 p.seq).Pairwise
          (· < ·) := by
  obtain ⟨s, hr, hnow⟩ := runSteps_any (ValkeySession.step promptExpiry) { ttl := 600 }
    repeatedCalls (fun s => s.now = 1200) (by decide)
  rw [decide_eq_true_eq] at hnow
  exact ⟨⟨s, hr, hnow⟩, by decide,
    valkey_remembers_in_session (along_of_alongTest _ (by decide)) hr⟩

end ValkeySession

end CloudCredit.Gateway
