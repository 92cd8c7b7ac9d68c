import Mathlib.Data.List.Perm.Basic
import Telemetry.Proofs.Numeral.FloatOrder
import Telemetry.Proofs.Registry.Cells

/-!
# Cells and the order of samples

The same samples folded in another order, at other times, give a cell that agrees with the first one
(`Cell.Agrees`): counts and sums of whole numbers are equal, and so are the number of samples of a
distribution, the histogram, and as numbers the least and the greatest.  Sums of doubles, means and last
values depend on the order.
-/

namespace Telemetry

/-- Distributions of the same numbers, in whatever order they came. -/
structure Distribution.Agrees (d d' : Distribution) : Prop where
  count : d.moments.count = d'.moments.count
  counts : d.counts = d'.counts
  least : (d.least == d'.least) = true
  greatest : (d.greatest == d'.greatest) = true

/-- Cells into which the same samples were folded, in whatever order they came. -/
def Cell.Agrees : Cell → Cell → Prop
  | .count n, .count n' => n = n'
  | .sum (.int a), .sum (.int a') => a = a'
  | .sum (.float _), .sum (.float _) => True
  | .last _, .last _ => True
  | .distribution d, .distribution d' => d.Agrees d'
  | _, _ => False

/-! ### Distributions -/

namespace Distribution

/-- Takes one more sample into account. -/
def addSample (d : Distribution) (s : Sample) : Distribution :=
  d.add s.value.toFloat s.time s.attachments

/-- Counts one more number in a bucket of a histogram. -/
def tally (buckets : Buckets) (counts : Array Nat) (x : Float) : Array Nat :=
  counts.modify (buckets.index x) (· + 1)

theorem tally_comm (buckets : Buckets) (counts : Array Nat) (x y : Float) :
    tally buckets (tally buckets counts x) y = tally buckets (tally buckets counts y) x := by
  apply Array.ext_getElem?
  intro i
  simp only [tally, Array.getElem?_modify]
  by_cases hx : buckets.index x = i <;> by_cases hy : buckets.index y = i <;> simp [hx, hy]

/-- **What the samples make of a distribution**, part by part. -/
theorem foldl_addSample (d : Distribution) (l : List Sample) :
    (l.foldl addSample d).buckets = d.buckets ∧
      (l.foldl addSample d).moments.count = d.moments.count + l.length ∧
      (l.foldl addSample d).counts =
        (l.map (·.value.toFloat)).foldl (tally d.buckets) d.counts ∧
      (l.foldl addSample d).least =
        FloatOrder.extreme (fun x y => x ≤ y) d.least (l.map (·.value.toFloat)) ∧
      (l.foldl addSample d).greatest =
        FloatOrder.extreme (fun x y => y ≤ x) d.greatest (l.map (·.value.toFloat)) := by
  induction l generalizing d with
  | nil => exact ⟨rfl, rfl, rfl, rfl, rfl⟩
  | cons s rest ih =>
    obtain ⟨hbuckets, hcount, hcounts, hleast, hgreatest⟩ := ih (d.addSample s)
    refine ⟨hbuckets, hcount.trans ?_, hcounts, hleast, hgreatest⟩
    simp only [addSample, add, Moments.add, List.length_cons]
    omega

theorem agrees_foldl_addSample (buckets : Buckets) {l l' : List Sample}
    (h : (l.map (·.value)).Perm (l'.map (·.value))) :
    (l.foldl addSample (empty buckets)).Agrees (l'.foldl addSample (empty buckets)) := by
  obtain ⟨-, hcount, hcounts, hleast, hgreatest⟩ := foldl_addSample (empty buckets) l
  obtain ⟨-, hcount', hcounts', hleast', hgreatest'⟩ := foldl_addSample (empty buckets) l'
  have hfloats : (l.map (·.value.toFloat)).Perm (l'.map (·.value.toFloat)) := by
    simpa [Function.comp_def] using h.map MeasureValue.toFloat
  -- Both infinities are numbers.
  have hleast₀ : (1 / 0 : Float) ≤ 1 / 0 := by decide
  have hgreatest₀ : (-1 / 0 : Float) ≤ -1 / 0 := by decide
  constructor
  · rw [hcount, hcount']
    simpa using h.length_eq
  · rw [hcounts, hcounts']
    exact hfloats.foldl_eq' (fun x _ y _ counts => tally_comm _ counts x y) _
  · rw [hleast, hleast']
    exact FloatOrder.extreme_beq_of_perm FloatOrder.direction_le hleast₀ hfloats
  · rw [hgreatest, hgreatest']
    exact FloatOrder.extreme_beq_of_perm FloatOrder.direction_ge hgreatest₀ hfloats

end Distribution

/-! ### Cells -/

theorem foldl_addSample_distribution (d : Distribution) (l : List Sample) :
    l.foldl Cell.addSample (.distribution d) = .distribution (l.foldl Distribution.addSample d) := by
  induction l generalizing d with
  | nil => rfl
  | cons s rest ih => exact ih (d.addSample s)

theorem sum_eq_of_perm {l l' : List Int64} (h : l.Perm l') : l.sum = l'.sum := by
  have hcomm : LeftCommutative fun a b : Int64 => a + b :=
    ⟨fun a b c => by rw [← Int64.add_assoc, Int64.add_comm a, Int64.add_assoc]⟩
  exact h.foldr_eq 0

/-- **Cells agree whatever the order of the samples.** -/
theorem View.agrees_foldl_addSample (v : View) {l l' : List Sample}
    (h : (l.map (·.value)).Perm (l'.map (·.value)))
    (hkind : ∀ s ∈ l, s.value.kind = v.measure.kind) (hkind' : ∀ s ∈ l', s.value.kind = v.measure.kind) :
    (l.foldl Cell.addSample v.newCell).Agrees (l'.foldl Cell.addSample v.newCell) := by
  have hlength : l.length = l'.length := by simpa using h.length_eq
  cases hagg : v.aggregation with
  | count =>
    have hnew : v.newCell = .count 0 := by simp [newCell, hagg, Aggregation.newCell]
    rw [hnew, Registry.foldl_addSample_count, Registry.foldl_addSample_count, hlength]
    rfl
  | distribution buckets =>
    have hnew : v.newCell = .distribution (.empty buckets) := by
      simp [newCell, hagg, Aggregation.newCell]
    rw [hnew, foldl_addSample_distribution, foldl_addSample_distribution]
    exact Distribution.agrees_foldl_addSample buckets h
  | last =>
    have hnew : v.newCell = .last (.zero v.measure.kind) := by simp [newCell, hagg, Aggregation.newCell]
    rw [hnew, Registry.foldl_addSample_last, Registry.foldl_addSample_last]
    trivial
  | sum =>
    cases hmeasure : v.measure.kind with
    | int =>
      have hnew : v.newCell = .sum (.int 0) := by
        simp [newCell, hagg, Aggregation.newCell, hmeasure, MeasureValue.zero]
      obtain ⟨ints, hints⟩ := Registry.exists_ints fun s hs => (hkind s hs).trans hmeasure
      obtain ⟨ints', hints'⟩ := Registry.exists_ints fun s hs => (hkind' s hs).trans hmeasure
      have hperm : ints.Perm ints' := by
        rw [hints, hints'] at h
        exact (List.map_perm_map_iff fun a b => MeasureValue.int.inj).1 h
      rw [hnew, Registry.foldl_addSample_sum hints, Registry.foldl_addSample_sum hints']
      exact congrArg (0 + ·) (sum_eq_of_perm hperm)
    | float =>
      obtain ⟨x, hx⟩ := ((fits_newCell v).foldl_addSample hkind).eq_sum_float hagg hmeasure
      obtain ⟨x', hx'⟩ := ((fits_newCell v).foldl_addSample hkind').eq_sum_float hagg hmeasure
      rw [hx, hx']
      trivial

end Telemetry
