import CloudCredit.Library.Maps
import CloudCredit.Library.Rounding
import CloudCredit.TigerBeetle.Requests

/-!
# Deduplication at the gateway

Both deduplicators keep one mark for every cluster, the highest sequence number
seen so far, and let a number pass only if it is above the mark. One keeps the
number itself; the other keeps it as the score of a sorted set, a double. So the
two answer differently when a new number has the score of an older one.
-/
namespace CloudCredit.Gateway

open Library TigerBeetle

structure DedupEntry where
  seq : UInt64
  seenAt : ℕ

structure MemDedup where
  entries : Table String DedupEntry := Table.empty
  ttl : ℕ

namespace MemDedup

variable (d : MemDedup) (now : ℕ)

def isDuplicate (clusterID : String) (seq : UInt64) : Bool × MemDedup :=
  let seen := { d with entries := d.entries.set clusterID ⟨seq, now⟩ }
  match d.entries clusterID with
  | none => (false, seen)
  | some e => if e.seq < seq then (false, seen) else (true, d)

theorem isDuplicate_cases (clusterID : String) (seq : UInt64) :
    (∃ e, d.entries clusterID = some e ∧ seq ≤ e.seq ∧
      d.isDuplicate now clusterID seq = (true, d)) ∨
    (∀ e, d.entries clusterID = some e → e.seq < seq) ∧ d.isDuplicate now clusterID seq =
      (false, { d with entries := d.entries.set clusterID ⟨seq, now⟩ }) := by
  unfold isDuplicate
  cases hc : d.entries clusterID with
  | none => exact .inr ⟨fun e he => (by cases he), rfl⟩
  | some e =>
    by_cases hlt : e.seq < seq
    · refine .inr ⟨fun e' he' => ?_, if_pos hlt⟩
      cases he'
      exact hlt
    · exact .inl ⟨e, rfl, UInt64.not_lt.mp hlt, if_neg hlt⟩

/-- One round of the prune loop. -/
def prune : MemDedup :=
  { d with entries := fun c => (d.entries c).filter fun e => ¬e.seenAt + d.ttl < now }

end MemDedup

/-- The value of a sequence number in double precision. -/
def float64 (n : UInt64) : ℕ := roundSignificand 53 n.toNat

theorem float64_mono {m n : UInt64} (h : m ≤ n) : float64 m ≤ float64 n :=
  roundSignificand_mono (by decide) (UInt64.le_iff_toNat_le.mp h)

/-- `ZADD key GT CH score s`: the number of changed members, and the scores. -/
def zaddGreaterChanged (scores : Table String ℕ) (key : String) (score : ℕ) :
    ℕ × Table String ℕ :=
  match scores key with
  | none => (1, scores.set key score)
  | some old => if old < score then (1, scores.set key score) else (0, scores)

theorem zaddGreaterChanged_cases (scores : Table String ℕ) (key : String) (score : ℕ) :
    (∃ old, scores key = some old ∧ score ≤ old ∧
      zaddGreaterChanged scores key score = (0, scores)) ∨
    (∀ old, scores key = some old → old < score) ∧
      zaddGreaterChanged scores key score = (1, scores.set key score) := by
  unfold zaddGreaterChanged
  cases hk : scores key with
  | none => exact .inr ⟨fun old ho => (by cases ho), rfl⟩
  | some old =>
    by_cases hlt : old < score
    · refine .inr ⟨fun old' ho' => ?_, if_pos hlt⟩
      cases ho'
      exact hlt
    · exact .inl ⟨old, rfl, Nat.le_of_not_lt hlt, if_neg hlt⟩

def dedupKey (clusterID : String) : String := "dedup:" ++ clusterID

theorem dedupKey_injective {c c' : String} (h : dedupKey c = dedupKey c') : c = c' := by
  have hlists := congrArg String.toList h
  simp only [dedupKey, String.toList_append] at hlists
  exact String.toList_inj.mp (List.append_cancel_left hlists)

/-- The score of the only member of each sorted set. -/
structure RedisDedup where
  scores : Table String ℕ := Table.empty

namespace RedisDedup

variable (d : RedisDedup)

/-- A command that fails lets the heartbeat pass, whether it was executed or not. -/
def isDuplicate (fate : Fate) (clusterID : String) (seq : UInt64) : Bool × RedisDedup :=
  let out := zaddGreaterChanged d.scores (dedupKey clusterID) (float64 seq)
  match fate with
  | .answered => (out.1 = 0, ⟨out.2⟩)
  | .lostRequest _ => (false, d)
  | .lostReply _ => (false, ⟨out.2⟩)

theorem isDuplicate_cases (fate : Fate) (clusterID : String) (seq : UInt64) :
    (∃ old, d.scores (dedupKey clusterID) = some old ∧ float64 seq ≤ old ∧
      d.isDuplicate fate clusterID seq = (true, d)) ∨
    (d.isDuplicate fate clusterID seq).1 = false ∧
      ((d.isDuplicate fate clusterID seq).2 = d ∨ (d.isDuplicate fate clusterID seq).2 =
        ⟨d.scores.set (dedupKey clusterID) (float64 seq)⟩) := by
  unfold isDuplicate
  rcases zaddGreaterChanged_cases d.scores (dedupKey clusterID) (float64 seq) with
    ⟨old, hold, hle, hout⟩ | ⟨-, hout⟩
  · rw [hout]
    cases fate with
    | answered => exact .inl ⟨old, hold, hle, rfl⟩
    | lostRequest err => exact .inr ⟨rfl, .inl rfl⟩
    | lostReply err => exact .inr ⟨rfl, .inl rfl⟩
  · rw [hout]
    cases fate with
    | answered => exact .inr ⟨rfl, .inr rfl⟩
    | lostRequest err => exact .inr ⟨rfl, .inl rfl⟩
    | lostReply err => exact .inr ⟨rfl, .inr rfl⟩

/-- The key of an idle cluster expires. -/
def expire (clusterID : String) : RedisDedup := ⟨d.scores.erase (dedupKey clusterID)⟩

end RedisDedup

/-- One call of `IsDuplicate` and its time. -/
structure Check where
  clusterID : String
  seq : UInt64
  now : ℕ := 0

def MemDedup.answers (d : MemDedup) : List Check → List Bool
  | [] => []
  | k :: ks =>
    let out := d.isDuplicate k.now k.clusterID k.seq
    out.1 :: out.2.answers ks

/-- The answers when no command fails. -/
def RedisDedup.answers (d : RedisDedup) : List Check → List Bool
  | [] => []
  | k :: ks =>
    let out := d.isDuplicate .answered k.clusterID k.seq
    out.1 :: out.2.answers ks

/-- A number above all earlier ones of its cluster has a score none of them has. -/
def NewScore (earlier : List Check) (k : Check) : Prop :=
  (∀ j ∈ earlier, j.clusterID = k.clusterID → j.seq < k.seq) →
    ∀ j ∈ earlier, j.clusterID = k.clusterID → float64 j.seq ≠ float64 k.seq

/-- Every call of the sequence has a new score after the earlier ones. -/
def NewScores : List Check → List Check → Prop
  | _, [] => True
  | earlier, k :: ks => NewScore earlier k ∧ NewScores (k :: earlier) ks

/-- The entry of a cluster has the highest of its numbers. -/
structure Marks (entries : Table String DedupEntry) (earlier : List Check) : Prop where
  covers : ∀ k ∈ earlier, ∃ e, entries k.clusterID = some e ∧ k.seq ≤ e.seq
  attained : ∀ c e, entries c = some e → ∃ k ∈ earlier, k.clusterID = c ∧ k.seq = e.seq

/-- The score of a cluster is that of its entry. -/
def Scored (d : MemDedup) (r : RedisDedup) : Prop :=
  ∀ c, r.scores (dedupKey c) = (d.entries c).map fun e => float64 e.seq

theorem Marks.check {d : MemDedup} {earlier : List Check} (hm : Marks d.entries earlier) (k : Check) :
    Marks (d.isDuplicate k.now k.clusterID k.seq).2.entries (k :: earlier) := by
  rcases d.isDuplicate_cases k.now k.clusterID k.seq with ⟨e, he, hle, hout⟩ | ⟨hnew, hout⟩
  · rw [hout]
    refine ⟨fun j hj => ?_, fun c e' he' => ?_⟩
    · rcases List.mem_cons.mp hj with rfl | hj
      · exact ⟨e, he, hle⟩
      · exact hm.covers j hj
    · obtain ⟨j, hj, hcluster, hseq⟩ := hm.attained c e' he'
      exact ⟨j, List.mem_cons_of_mem _ hj, hcluster, hseq⟩
  · rw [hout]
    refine ⟨fun j hj => ?_, fun c e' he' => ?_⟩
    · rcases List.mem_cons.mp hj with rfl | hj
      · exact ⟨_, Table.set_same _ _ _, UInt64.le_refl _⟩
      · obtain ⟨e, he, hle⟩ := hm.covers j hj
        by_cases hc : j.clusterID = k.clusterID
        · refine ⟨⟨k.seq, k.now⟩, by rw [hc]; exact Table.set_same _ _ _, ?_⟩
          rw [hc] at he
          exact UInt64.le_of_lt (UInt64.lt_of_le_of_lt hle (hnew e he))
        · exact ⟨e, by rw [← he]; exact Table.set_other _ hc _, hle⟩
    · rcases Table.set_eq_some.mp he' with ⟨rfl, rfl⟩ | ⟨-, he'⟩
      · exact ⟨k, List.mem_cons_self, rfl, rfl⟩
      · obtain ⟨j, hj, hcluster, hseq⟩ := hm.attained c e' he'
        exact ⟨j, List.mem_cons_of_mem _ hj, hcluster, hseq⟩

namespace Scored

variable {d : MemDedup} {r : RedisDedup}

/-- The deduplicators stay in step even where their answers differ. -/
theorem check (hs : Scored d r) (k : Check) :
    Scored (d.isDuplicate k.now k.clusterID k.seq).2
      (r.isDuplicate .answered k.clusterID k.seq).2 := by
  have hset : ∀ c, r.scores.set (dedupKey k.clusterID) (float64 k.seq) (dedupKey c) =
      (d.entries.set k.clusterID ⟨k.seq, k.now⟩ c).map fun e => float64 e.seq := by
    intro c
    by_cases hc : c = k.clusterID
    · rw [hc, Table.set_same, Table.set_same]
      rfl
    · rw [Table.set_other _ (fun he => hc (dedupKey_injective he)), Table.set_other _ hc, hs c]
  rcases d.isDuplicate_cases k.now k.clusterID k.seq with ⟨e, he, hle, hout⟩ | ⟨hnew, hout⟩ <;>
    rcases zaddGreaterChanged_cases r.scores (dedupKey k.clusterID) (float64 k.seq) with
      ⟨old, hold, hscore, hzadd⟩ | ⟨hnewScore, hzadd⟩ <;>
    simp only [RedisDedup.isDuplicate, hout, hzadd]
  · exact hs
  · have hlt := hnewScore (float64 e.seq) (by rw [hs, he]; rfl)
    exact absurd (float64_mono hle) (Nat.not_le_of_lt hlt)
  · intro c
    dsimp only
    rw [← hset c]
    by_cases hc : c = k.clusterID
    · subst hc
      rw [hs] at hold
      obtain ⟨e, he, rfl⟩ := Option.map_eq_some_iff.mp hold
      rw [Table.set_same, hs, he, Option.map_some,
        Nat.le_antisymm hscore (float64_mono (UInt64.le_of_lt (hnew e he)))]
    · rw [Table.set_other _ fun he => hc (dedupKey_injective he)]
  · exact hset

theorem same_answer_iff (hs : Scored d r) {earlier : List Check} (hm : Marks d.entries earlier)
    (k : Check) : (d.isDuplicate k.now k.clusterID k.seq).1 =
      (r.isDuplicate .answered k.clusterID k.seq).1 ↔ NewScore earlier k := by
  rcases d.isDuplicate_cases k.now k.clusterID k.seq with ⟨e, he, hle, hout⟩ | ⟨hnew, hout⟩ <;>
    rcases zaddGreaterChanged_cases r.scores (dedupKey k.clusterID) (float64 k.seq) with
      ⟨old, hold, hscore, hzadd⟩ | ⟨hnewScore, hzadd⟩ <;>
    simp only [RedisDedup.isDuplicate, hout, hzadd]
  · refine iff_of_true rfl fun hall => ?_
    obtain ⟨j, hj, hcluster, hseq⟩ := hm.attained _ e he
    exact absurd (hseq ▸ hall j hj hcluster) (UInt64.not_lt.mpr hle)
  · have hlt := hnewScore (float64 e.seq) (by rw [hs, he]; rfl)
    exact absurd (float64_mono hle) (Nat.not_le_of_lt hlt)
  · rw [hs] at hold
    obtain ⟨e, he, rfl⟩ := Option.map_eq_some_iff.mp hold
    obtain ⟨j, hj, hcluster, hseq⟩ := hm.attained _ e he
    refine iff_of_false (by simp) fun hns => hns (fun i hi hic => ?_) j hj hcluster ?_
    · obtain ⟨e', he', hle⟩ := hm.covers i hi
      rw [hic] at he'
      exact UInt64.lt_of_le_of_lt hle (hnew e' he')
    · rw [hseq]
      exact Nat.le_antisymm (float64_mono (UInt64.le_of_lt (hnew e he))) hscore
  · refine iff_of_true (by simp) fun _ j hj hcluster => ?_
    obtain ⟨e, he, hle⟩ := hm.covers j hj
    rw [hcluster] at he
    have hlt := hnewScore (float64 e.seq) (by rw [hs, he]; rfl)
    exact Nat.ne_of_lt (Nat.lt_of_le_of_lt (float64_mono hle) hlt)

theorem same_answers_iff (hs : Scored d r) {earlier : List Check} (hm : Marks d.entries earlier)
    (ks : List Check) : d.answers ks = r.answers ks ↔ NewScores earlier ks := by
  induction ks generalizing d r earlier with
  | nil => exact iff_of_true rfl trivial
  | cons k ks ih =>
    simp only [MemDedup.answers, RedisDedup.answers, List.cons.injEq, NewScores]
    rw [hs.same_answer_iff hm k, ih (hs.check k) (hm.check k)]

end Scored

/-- For every sequence of calls, the two deduplicators give the same answers
exactly if every number above all earlier ones of its cluster also has a score
none of them has. -/
theorem deduplicators_agree_iff (ttl : ℕ) (ks : List Check) :
    ({ ttl } : MemDedup).answers ks = ({} : RedisDedup).answers ks ↔ NewScores [] ks := by
  refine Scored.same_answers_iff (fun _ => rfl) ⟨fun k hk => ?_, fun c e he => ?_⟩ ks
  · cases hk
  · cases he

/-- The number after 2^53 has the score of 2^53. -/
theorem successor_is_no_duplicate_in_memory_only :
    let ks : List Check := [⟨"c", 9007199254740992, 0⟩, ⟨"c", 9007199254740993, 1⟩]
    ({ ttl := 600 } : MemDedup).answers ks = [false, false] ∧
      ({} : RedisDedup).answers ks = [false, true] := by
  decide

inductive Deduplicator
  | mem (d : MemDedup)
  | redis (d : RedisDedup)

namespace Deduplicator

/-- The call at time `now`, with the fate of the command if there is one. -/
def isDuplicate (clusterID : String) (seq : UInt64) (now : ℕ) (valkey : Fate) :
    Deduplicator → Bool × Deduplicator
  | .mem d => ((d.isDuplicate now clusterID seq).1, .mem (d.isDuplicate now clusterID seq).2)
  | .redis d =>
    ((d.isDuplicate valkey clusterID seq).1, .redis (d.isDuplicate valkey clusterID seq).2)

/-- The marks of idle clusters are given up: all that are old enough, or the key
of the given cluster. -/
def evict (clusterID : String) (now : ℕ) : Deduplicator → Deduplicator
  | .mem d => .mem (d.prune now)
  | .redis d => .redis (d.expire clusterID)

/-- A sequence number as the deduplicator stores it. -/
def score : Deduplicator → UInt64 → ℕ
  | .mem _ => UInt64.toNat
  | .redis _ => float64

/-- The highest number of a cluster as it is stored. -/
def mark : Deduplicator → Table String ℕ
  | .mem d => fun c => (d.entries c).map fun e => e.seq.toNat
  | .redis d => fun c => d.scores (dedupKey c)

theorem score_mono (d : Deduplicator) {m n : UInt64} (h : m ≤ n) : d.score m ≤ d.score n := by
  cases d with
  | mem d => exact UInt64.le_iff_toNat_le.mp h
  | redis d => exact float64_mono h

theorem set_dedupKey (scores : Table String ℕ) (clusterID : String) (score : ℕ) :
    (fun c => scores.set (dedupKey clusterID) score (dedupKey c)) =
      Table.set (fun c => scores (dedupKey c)) clusterID score := by
  funext c
  by_cases hc : c = clusterID
  · rw [hc, Table.set_same, Table.set_same]
  · rw [Table.set_other _ (fun he => hc (dedupKey_injective he)), Table.set_other _ hc]

theorem isDuplicate_cases (d : Deduplicator) (clusterID : String) (seq : UInt64) (now : ℕ)
    (valkey : Fate) :
    (∃ m, d.mark clusterID = some m ∧ d.score seq ≤ m ∧
      d.isDuplicate clusterID seq now valkey = (true, d)) ∨
    (d.isDuplicate clusterID seq now valkey).1 = false ∧
      (d.isDuplicate clusterID seq now valkey).2.score = d.score ∧
      ((d.isDuplicate clusterID seq now valkey).2.mark = d.mark ∨
        (d.isDuplicate clusterID seq now valkey).2.mark = d.mark.set clusterID (d.score seq)) := by
  cases d with
  | mem d =>
    rcases d.isDuplicate_cases now clusterID seq with ⟨e, he, hle, hout⟩ | ⟨-, hout⟩
    · refine .inl ⟨e.seq.toNat, ?_, UInt64.le_iff_toNat_le.mp hle, ?_⟩
      · simp only [mark, he, Option.map_some]
      · simp only [isDuplicate, hout]
    · refine .inr ⟨by simp only [isDuplicate, hout], rfl, .inr ?_⟩
      funext c
      simp only [mark, isDuplicate, hout, score]
      by_cases hc : c = clusterID
      · rw [hc, Table.set_same, Table.set_same]
        rfl
      · rw [Table.set_other _ hc, Table.set_other _ hc]
  | redis d =>
    rcases d.isDuplicate_cases valkey clusterID seq with ⟨old, hold, hle, hout⟩ | ⟨hfalse, hout⟩
    · refine .inl ⟨old, hold, hle, ?_⟩
      simp only [isDuplicate, hout]
    · refine .inr ⟨hfalse, rfl, ?_⟩
      simp only [isDuplicate, mark, score]
      rcases hout with hout | hout
      · exact .inl (by rw [hout])
      · exact .inr (by rw [hout, set_dedupKey])

theorem evict_score (d : Deduplicator) (clusterID : String) (now : ℕ) :
    (d.evict clusterID now).score = d.score := by
  cases d <;> rfl

theorem evict_mark (d : Deduplicator) (clusterID : String) (now : ℕ) {c : String} {m : ℕ}
    (h : (d.evict clusterID now).mark c = some m) : d.mark c = some m := by
  cases d with
  | mem d =>
    obtain ⟨e, he, rfl⟩ := Option.map_eq_some_iff.mp h
    simp only [mark, (Option.filter_eq_some_iff.mp he).1, Option.map_some]
  | redis d =>
    by_cases hc : c = clusterID
    · subst hc
      simp [evict, mark, RedisDedup.expire] at h
    · simp only [evict, mark, RedisDedup.expire] at h
      rwa [Table.erase_other _ fun he => hc (dedupKey_injective he)] at h

end Deduplicator

end CloudCredit.Gateway
