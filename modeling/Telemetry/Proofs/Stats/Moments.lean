import Mathlib.Algebra.BigOperators.Ring.List
import Mathlib.Algebra.Order.BigOperators.Group.List
import Mathlib.Algebra.Order.Field.Rat
import Mathlib.Order.WithBotTop
import Mathlib.Tactic.LinearCombination
import Telemetry.Proofs.Registry.SampleOrder

/-!
# Moments number by number

A distribution keeps mean, deviation, least and greatest up to date without looking at earlier numbers
again.  Its update is written once for numbers of any kind (`Summary.add`): with doubles it is what
`Distribution.add` does, and with rational numbers, where nothing is rounded, it gives what the definitions
over all numbers at once give (`Summary.IsBatch`).

The invariant that an update keeps is without quotients: the mean times the number of numbers is their sum,
and the deviation is the sum of the squares less the mean times the sum (`Moments.Tracks`).
-/

namespace Telemetry

/-! ### The update for numbers of any kind -/

/-- What a distribution keeps of numbers, apart from the histogram.  The least and the greatest are among
numbers with infinities `β`. -/
structure Summary (α β : Type) where
  moments : Moments α
  least : β
  greatest : β

namespace Summary

variable {α β : Type} [Add α] [Sub α] [Mul α] [Div α] [LE β] [DecidableLE β]

/-- Takes one more number into account. -/
def add (cast : Nat → α) (embed : α → β) (s : Summary α β) (x : α) : Summary α β where
  moments := s.moments.add cast x
  least := if embed x ≤ s.least then embed x else s.least
  greatest := if s.greatest ≤ embed x then embed x else s.greatest

/-- What is kept of the numbers of `l`, which come one by one. -/
def ofList [Zero α] (cast : Nat → α) (embed : α → β) (infinity negInfinity : β) (l : List α) :
    Summary α β :=
  l.foldl (add cast embed) ⟨⟨0, 0, 0⟩, infinity, negInfinity⟩

/-- The parts of a summary do not depend on each other. -/
theorem foldl_add (cast : Nat → α) (embed : α → β) (s : Summary α β) (l : List α) :
    l.foldl (add cast embed) s =
      ⟨l.foldl (Moments.add cast) s.moments,
        FloatOrder.extreme (fun x y => x ≤ y) s.least (l.map embed),
        FloatOrder.extreme (fun x y => y ≤ x) s.greatest (l.map embed)⟩ := by
  induction l generalizing s with
  | nil => rfl
  | cons x rest ih => exact ih (s.add cast embed x)

end Summary

namespace Distribution

/-- What is kept apart from the histogram. -/
def summary (d : Distribution) : Summary Float Float := ⟨d.moments, d.least, d.greatest⟩

theorem summary_foldl (d : Distribution) (l : List Sample) :
    (l.foldl addSample d).summary =
      (l.map (·.value.toFloat)).foldl (Summary.add Float.ofNat id) d.summary := by
  induction l generalizing d with
  | nil => rfl
  | cons s rest ih => exact ih (d.addSample s)

end Distribution

/-! ### Mean and deviation over rational numbers -/

/-- What holds of the moments of the numbers of `l`, said without quotients. -/
structure Moments.Tracks (m : Moments ℚ) (l : List ℚ) : Prop where
  count : m.count = l.length
  total : m.mean * l.length = l.sum
  deviation : m.deviation = (l.map (· ^ 2)).sum - m.mean * l.sum

namespace Moments.Tracks

variable {m : Moments ℚ} {l : List ℚ}

theorem nil : Tracks ⟨0, 0, 0⟩ [] := ⟨rfl, by simp, by simp⟩

/-- **An update keeps track** of one more number. -/
theorem add (h : m.Tracks l) (x : ℚ) : (m.add Nat.cast x).Tracks (l ++ [x]) := by
  -- With `n` numbers before, the new mean is the old one and `δ / (n + 1)`.
  have hmean : (m.add Nat.cast x).mean * (l.length + 1) = l.sum + x := by
    have hne : (l.length : ℚ) + 1 ≠ 0 := by positivity
    have hstep : (m.add Nat.cast x).mean = m.mean + (x - m.mean) / (l.length + 1) := by
      simp [Moments.add, h.count]
    rw [hstep, add_mul, div_mul_cancel₀ _ hne, ← h.total]
    ring
  constructor
  · simp [Moments.add, h.count]
  · simpa using hmean
  · -- One factor has the old mean and the other the new one.
    have hstep : (m.add Nat.cast x).deviation =
        m.deviation + (x - m.mean) * (x - (m.add Nat.cast x).mean) := rfl
    rw [hstep, h.deviation, List.map_append, List.sum_append, List.sum_append, ← h.total]
    rw [← h.total] at hmean
    simp only [List.map_cons, List.map_nil, List.sum_cons, List.sum_nil]
    linear_combination m.mean * hmean

/-- **The updates keep track** of all numbers. -/
theorem foldl (l : List ℚ) : Tracks (l.foldl (Moments.add Nat.cast) ⟨0, 0, 0⟩) l := by
  induction l using List.reverseRecOn with
  | nil => exact nil
  | append_singleton l x ih =>
    rw [List.foldl_concat]
    exact ih.add x

theorem mean_eq (h : m.Tracks l) (hl : l ≠ []) : m.mean = l.sum / l.length := by
  have hne : (l.length : ℚ) ≠ 0 := by simpa using hl
  exact eq_div_of_mul_eq hne h.total

/-- The squares expanded, the deviation is the sum of the squares of the deviations. -/
theorem deviation_eq (h : m.Tracks l) : m.deviation = (l.map fun x => (x - m.mean) ^ 2).sum := by
  have hexpand : ∀ x : ℚ, (x - m.mean) ^ 2 = x ^ 2 + (-(2 * m.mean) * id x + m.mean ^ 2) :=
    fun x => by rw [id]; ring
  simp only [hexpand, List.sum_map_add, List.sum_map_mul_left, List.map_id, List.map_const',
    List.sum_replicate, nsmul_eq_mul]
  rw [h.deviation]
  linear_combination -m.mean * h.total

theorem deviation_nonneg (h : m.Tracks l) : 0 ≤ m.deviation := by
  rw [h.deviation_eq]
  refine List.sum_nonneg fun y hy => ?_
  obtain ⟨x, -, rfl⟩ := List.mem_map.1 hy
  exact sq_nonneg _

theorem variance_eq (h : m.Tracks l) (hl : l ≠ []) :
    m.variance Nat.cast = m.deviation / max 1 ((l.length : ℚ) - 1) := by
  have hpos : 1 ≤ l.length := List.length_pos_iff.2 hl
  rw [Moments.variance, h.count, Nat.cast_max, Nat.cast_sub hpos, Nat.cast_one, max_comm]

/-- The mean is at least what no number is below. -/
theorem le_mean (h : m.Tracks l) (hl : l ≠ []) {low : ℚ} (hlow : ∀ x ∈ l, low ≤ x) : low ≤ m.mean := by
  have hpos : (0 : ℚ) < l.length := by exact_mod_cast List.length_pos_iff.2 hl
  have hsum : l.length • low ≤ l.sum := List.card_nsmul_le_sum l low hlow
  rw [nsmul_eq_mul, ← h.total, mul_comm] at hsum
  exact le_of_mul_le_mul_right hsum hpos

theorem mean_le (h : m.Tracks l) (hl : l ≠ []) {high : ℚ} (hhigh : ∀ x ∈ l, x ≤ high) :
    m.mean ≤ high := by
  have hpos : (0 : ℚ) < l.length := by exact_mod_cast List.length_pos_iff.2 hl
  have hsum : l.sum ≤ l.length • high := List.sum_le_card_nsmul l high hhigh
  rw [nsmul_eq_mul, ← h.total, mul_comm (l.length : ℚ)] at hsum
  exact le_of_mul_le_mul_right hsum hpos

end Moments.Tracks

/-! ### Against the definitions -/

namespace Summary

/-- Rational numbers and infinities. -/
abbrev Extended := WithBot (WithTop ℚ)

/-- What is kept of rational numbers without rounding. -/
def ofRationals (l : List ℚ) : Summary ℚ Extended :=
  ofList Nat.cast (fun x => ((x : WithTop ℚ) : Extended)) ⊤ ⊥ l

/-- The summary `s` is what the definitions over all numbers of `l` give. -/
structure IsBatch (s : Summary ℚ Extended) (l : List ℚ) : Prop where
  count : s.moments.count = l.length
  /-- The mean is the arithmetic mean. -/
  mean : s.moments.mean = l.sum / l.length
  /-- The deviation is the sum of the squares of the differences from it. -/
  deviation : s.moments.deviation = (l.map fun x => (x - l.sum / l.length) ^ 2).sum
  deviation_nonneg : 0 ≤ s.moments.deviation
  sum : s.moments.sum Nat.cast = l.sum
  variance : s.moments.variance Nat.cast = s.moments.deviation / max 1 ((l.length : ℚ) - 1)
  /-- The least number is one of them and none is below it. -/
  least : ∃ x ∈ l, s.least = ((x : WithTop ℚ) : Extended) ∧ ∀ y ∈ l, x ≤ y
  /-- The greatest number is one of them and none is above it. -/
  greatest : ∃ x ∈ l, s.greatest = ((x : WithTop ℚ) : Extended) ∧ ∀ y ∈ l, y ≤ x
  least_le_mean : s.least ≤ ((s.moments.mean : WithTop ℚ) : Extended)
  mean_le_greatest : ((s.moments.mean : WithTop ℚ) : Extended) ≤ s.greatest

/-- Among the numbers with infinities is each rational number, in the same order. -/
theorem embed_le {x y : ℚ} :
    ((x : WithTop ℚ) : Extended) ≤ ((y : WithTop ℚ) : Extended) ↔ x ≤ y := by
  rw [WithBot.coe_le_coe, WithTop.coe_le_coe]

theorem isBatch_ofRationals {l : List ℚ} (hl : l ≠ []) : (ofRationals l).IsBatch l := by
  let embed (x : ℚ) : Extended := ((x : WithTop ℚ) : Extended)
  have htracks := Moments.Tracks.foldl l
  have hparts : ofRationals l = _ := foldl_add Nat.cast embed ⟨⟨0, 0, 0⟩, ⊤, ⊥⟩ l
  have hne : l.map embed ≠ [] := by simpa using hl
  obtain ⟨hlow, hhigh⟩ : FloatOrder.Direction (fun x y : Extended => x ≤ y) ∧ _ :=
    FloatOrder.direction_of_linearOrder
  obtain ⟨hmem, hle⟩ := FloatOrder.extreme_mem hlow hne fun x _ => le_top
  obtain ⟨hmem', hge⟩ := FloatOrder.extreme_mem hhigh hne fun x _ => bot_le
  obtain ⟨least, hleast, hleast_eq⟩ := List.mem_map.1 hmem
  obtain ⟨greatest, hgreatest, hgreatest_eq⟩ := List.mem_map.1 hmem'
  rw [← hleast_eq, List.forall_mem_map] at hle
  rw [← hgreatest_eq, List.forall_mem_map] at hge
  have hlow_mean := htracks.le_mean hl fun x hx => embed_le.1 (hle x hx)
  have hmean_high := htracks.mean_le hl fun x hx => embed_le.1 (hge x hx)
  rw [hparts]
  exact {
    count := htracks.count
    mean := htracks.mean_eq hl
    deviation := by
      rw [← htracks.mean_eq hl]
      exact htracks.deviation_eq
    deviation_nonneg := htracks.deviation_nonneg
    sum := by
      rw [Moments.sum, htracks.count]
      exact htracks.total
    variance := htracks.variance_eq hl
    least := ⟨least, hleast, hleast_eq.symm, fun y hy => embed_le.1 (hle y hy)⟩
    greatest := ⟨greatest, hgreatest, hgreatest_eq.symm, fun y hy => embed_le.1 (hge y hy)⟩
    least_le_mean := hleast_eq ▸ embed_le.2 hlow_mean
    mean_le_greatest := hgreatest_eq ▸ embed_le.2 hmean_high }

end Summary

/-- **Moments kept number by number are those of all numbers at once.**  What a distribution keeps is made
by one update for numbers of any kind; with rational numbers, mean, deviation, sum and variance are those of
the definitions, and the mean is between the least and the greatest number. -/
theorem Distribution.online_eq_batch :
    (∀ (buckets : Buckets) (samples : List Sample),
        (samples.foldl addSample (empty buckets)).summary =
          Summary.ofList Float.ofNat id (1 / 0) (-1 / 0) (samples.map (·.value.toFloat))) ∧
      ∀ l : List ℚ, l ≠ [] → (Summary.ofRationals l).IsBatch l :=
  ⟨fun buckets samples => summary_foldl (empty buckets) samples,
    fun _ hl => Summary.isBatch_ofRationals hl⟩

/-- Three numbers whose mean is none of them. -/
theorem Distribution.online_eq_batch_three :
    [(1 : ℚ), 2, 4] ≠ [] ∧ (Summary.ofRationals [1, 2, 4]).IsBatch [1, 2, 4] ∧
      (Summary.ofRationals [1, 2, 4]).moments = ⟨3, 7 / 3, 14 / 3⟩ :=
  ⟨by simp, online_eq_batch.2 _ (by simp), by decide +kernel⟩

end Telemetry
