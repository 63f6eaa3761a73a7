import CloudCredit.Library.Rounding
import CloudCredit.Library.Windows

/-!
# Latencies

The gateway keeps the durations of its last 2048 signals in a ring buffer and reports two
of them, the median and the 99th percentile. The places at which they stand in the sorted
buffer are computed in double precision.
-/
namespace CloudCredit.Gateway

open Library

def latRingSize : ℕ := 2048

/-- A duration in nanoseconds, in whole microseconds. -/
def microseconds (d : ℤ) : ℤ := d.tdiv 1000

/-- The buffer of a new handler. -/
def newLatRing : RingBuffer ℤ where
  cells := List.replicate latRingSize 0

def recordLatency (ring : RingBuffer ℤ) (d : ℤ) : RingBuffer ℤ := ring.record (microseconds d)

/-- `int(float64(n) * 0.50)`; the product is exact. -/
def p50Index (n : ℕ) : ℕ := n / 2

/-- `int(float64(n) * 0.99)`, where the constant is the double 8917127262193582 / 2^53. -/
def p99Index (n : ℕ) : ℕ := roundSignificand 53 (n * 8917127262193582) / 2 ^ 53

/-- The reported durations; nothing is reported before the first signal. -/
def percentiles (ring : RingBuffer ℤ) : ℤ × ℤ :=
  let buf := ring.contents.mergeSort (· ≤ ·)
  let n := buf.length
  if n = 0 then (0, 0) else (buf.getD (p50Index n) 0, buf.getD (p99Index n) 0)

theorem p99Index_eq {n : ℕ} (hn : n ≤ latRingSize) : p99Index n = 99 * n / 100 := by
  have hall : (List.range (latRingSize + 1)).all fun n => p99Index n = 99 * n / 100 := by
    decide +kernel
  simpa using List.all_eq_true.mp hall n (List.mem_range.mpr (Nat.lt_succ_of_le hn))

/-- The durations of the last signals, in microseconds. -/
def lastLatencies (ds : List ℤ) : List ℤ := window latRingSize (ds.map microseconds)

/-- The buffer after the signals took the durations `ds`. -/
def latRing (ds : List ℤ) : RingBuffer ℤ := ds.foldl recordLatency newLatRing

theorem latRing_eq (ds : List ℤ) : latRing ds = newLatRing.recordAll (ds.map microseconds) := by
  have hfold : ∀ ring : RingBuffer ℤ,
      ds.foldl recordLatency ring = ring.recordAll (ds.map microseconds) := by
    induction ds with
    | nil => exact fun _ => rfl
    | cons d ds ih => exact fun ring => ih (recordLatency ring d)
  exact hfold newLatRing

theorem latRing_contents (ds : List ℤ) : (latRing ds).contents.Perm (lastLatencies ds) := by
  have hshows : newLatRing.HoldsLast [] := by
    apply RingBuffer.shows_nil
    apply List.ne_nil_of_length_pos
    rw [List.length_replicate]
    decide
  have hperm := (hshows.recordAll (ds.map microseconds)).contents_perm
  rw [List.nil_append, RingBuffer.recordAll_length] at hperm
  rw [latRing_eq]
  simpa [newLatRing, lastLatencies] using hperm

theorem lastLatencies_length (ds : List ℤ) : (lastLatencies ds).length ≤ latRingSize := by
  rw [lastLatencies, window, List.length_drop]
  omega

theorem lastLatencies_pos {ds : List ℤ} (hds : ds ≠ []) : 0 < (lastLatencies ds).length := by
  have hlen := List.length_pos_iff.mpr hds
  rw [lastLatencies, window, List.length_drop, List.length_map]
  simp only [latRingSize]
  omega

/-- Whatever the signals took, the reported durations are among the last 2048, in whole
microseconds: one has the rank of the median and one that of the 99th percentile, and the
median is not the larger one. -/
theorem percentiles_rank_last_latencies (ds : List ℤ) (hds : ds ≠ []) :
    IsRank (lastLatencies ds) ((lastLatencies ds).length / 2) (percentiles (latRing ds)).1 ∧
      IsRank (lastLatencies ds) (99 * (lastLatencies ds).length / 100)
        (percentiles (latRing ds)).2 ∧
      (percentiles (latRing ds)).1 ≤ (percentiles (latRing ds)).2 := by
  have hpos := lastLatencies_pos hds
  have hsize := lastLatencies_length ds
  have hperm : ((latRing ds).contents.mergeSort (· ≤ ·)).Perm (lastLatencies ds) :=
    (List.mergeSort_perm _ _).trans (latRing_contents ds)
  have hsorted : ((latRing ds).contents.mergeSort (· ≤ ·)).Pairwise (· ≤ ·) := by
    have htrans : ∀ a b c : ℤ, decide (a ≤ b) → decide (b ≤ c) → decide (a ≤ c) := by
      intro a b c hab hbc
      simp only [decide_eq_true_eq] at hab hbc ⊢
      exact hab.trans hbc
    have htotal : ∀ a b : ℤ, decide (a ≤ b) || decide (b ≤ a) := by
      intro a b
      simpa using le_total a b
    simpa using List.pairwise_mergeSort htrans htotal (latRing ds).contents
  unfold percentiles
  generalize (latRing ds).contents.mergeSort (· ≤ ·) = buf at hperm hsorted
  dsimp only
  rw [hperm.length_eq, if_neg hpos.ne', p99Index_eq hsize, p50Index]
  have hplace : ∀ k < (lastLatencies ds).length, buf[k]? = some (buf.getD k 0) := by
    intro k hk
    rw [← hperm.length_eq] at hk
    rw [List.getD_eq_getElem?_getD, List.getElem?_eq_getElem hk]
    rfl
  have hmedian := hplace ((lastLatencies ds).length / 2) (by omega)
  have hhigh := hplace (99 * (lastLatencies ds).length / 100) (by omega)
  refine ⟨(isRank_of_sorted hsorted hmedian).perm hperm,
    (isRank_of_sorted hsorted hhigh).perm hperm, ?_⟩
  exact sorted_le_of_le hsorted (by omega) hmedian hhigh

/-- Signals of five, one and three milliseconds. -/
theorem threeSignals_median :
    (percentiles (latRing [5000000, 1000000, 3000000])).1 = 3000 ∧
      (percentiles (latRing [5000000, 1000000, 3000000])).2 = 5000 := by
  obtain ⟨hmedian, hhigh, -⟩ :=
    percentiles_rank_last_latencies [5000000, 1000000, 3000000] (by decide)
  have hlast : lastLatencies [5000000, 1000000, 3000000] = [5000, 1000, 3000] := by decide
  rw [hlast] at hmedian hhigh
  exact ⟨hmedian.unique ⟨by decide, by decide, by decide⟩,
    hhigh.unique ⟨by decide, by decide, by decide⟩⟩

end CloudCredit.Gateway
