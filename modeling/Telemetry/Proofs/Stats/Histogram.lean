import Telemetry.Proofs.Registry.SampleOrder
import Telemetry.Proofs.Stats.Buckets

/-!
# Histograms

What a distribution says about the samples it was made of: how many they are, how many of them are in each
bucket, which is the least and which the greatest, and which was the latest in each bucket that came with
attachments (`Distribution.IsHistogram`).  `Distribution.isHistogram_foldl` says that this is so after any
samples that are finite, on buckets with any bounds.

Samples are folded in one by one, so each part has a lemma for its fold: sizes stay as they are, a count
grows by the samples of its bucket, and an exemplar is the last one that was set.
-/

namespace Telemetry

/-- What an exemplar keeps of a sample. -/
def Sample.exemplar (s : Sample) : Exemplar := ⟨s.value.toFloat, s.time, s.attachments⟩

namespace Distribution

/-- The distribution `d` tells of the samples in `l`, the latest of which is the last. -/
structure IsHistogram (d : Distribution) (l : List Sample) : Prop where
  /-- There is one bucket more than bounds. -/
  size_counts : d.counts.size = d.buckets.bounds.size + 1
  /-- Each bucket has a place for an exemplar. -/
  size_exemplars : d.exemplars.size = d.buckets.bounds.size + 1
  /-- All samples are counted. -/
  count : d.moments.count = l.length
  /-- Each of them is counted in one bucket. -/
  sum_counts : d.counts.sum = d.moments.count
  /-- It is counted in the bucket that contains it. -/
  counts : ∀ i ≤ d.buckets.bounds.size,
    d.counts[i]? = some (l.countP fun s => d.buckets.Contains i s.value.toFloat)
  /-- The exemplar of a bucket is the latest of its samples that has attachments, if there is one. -/
  exemplars : ∀ i ≤ d.buckets.bounds.size,
    d.exemplars[i]? = some
      ((l.filter fun s =>
        !s.attachments.isEmpty && d.buckets.Contains i s.value.toFloat).getLast?.map Sample.exemplar)
  /-- The least number is a sample. -/
  least_mem : ∃ s ∈ l, d.least = s.value.toFloat
  /-- No sample is less. -/
  least_le : ∀ s ∈ l, d.least ≤ s.value.toFloat
  /-- The greatest number is a sample. -/
  greatest_mem : ∃ s ∈ l, d.greatest = s.value.toFloat
  /-- No sample is greater. -/
  le_greatest : ∀ s ∈ l, s.value.toFloat ≤ d.greatest

/-! ### Counts -/

section Counts

variable (buckets : Buckets)

/-- A count grows by the numbers of its bucket. -/
theorem getElem?_foldl_tally (counts : Array Nat) (xs : List Float) (i : Nat) :
    (xs.foldl (tally buckets) counts)[i]? =
      counts[i]?.map (· + xs.countP (buckets.index · = i)) := by
  induction xs generalizing counts with
  | nil => simp
  | cons x rest ih =>
    rw [List.foldl_cons, ih, tally, Array.getElem?_modify, List.countP_cons]
    by_cases hx : buckets.index x = i
    · cases counts[i]? <;> simp [hx]
      omega
    · simp [hx]

theorem sum_modify (l : List Nat) {i : Nat} (hi : i < l.length) :
    (l.modify i (· + 1)).sum = l.sum + 1 := by
  induction l generalizing i with
  | nil => simp at hi
  | cons n rest ih =>
    cases i with
    | zero =>
      simp
      omega
    | succ i =>
      have hrest := ih (Nat.lt_of_succ_lt_succ hi)
      simp [hrest]
      omega

/-- Every number is counted once. -/
theorem sum_foldl_tally {counts : Array Nat} (hsize : counts.size = buckets.count)
    (xs : List Float) : (xs.foldl (tally buckets) counts).sum = counts.sum + xs.length := by
  induction xs generalizing counts with
  | nil => rfl
  | cons x rest ih =>
    have hindex : buckets.index x < counts.toList.length := by
      simpa [hsize] using buckets.index_lt_count x
    have hsum : (tally buckets counts x).sum = counts.sum + 1 := by
      rw [← Array.sum_toList, ← Array.sum_toList, tally, Array.toList_modify,
        sum_modify _ hindex]
    have hsize' : (tally buckets counts x).size = buckets.count := Array.size_modify.trans hsize
    have hrest := ih hsize'
    rw [List.foldl_cons, hrest, hsum, List.length_cons]
    omega

end Counts

/-! ### Exemplars -/

theorem buckets_empty (buckets : Buckets) : (empty buckets).buckets = buckets := rfl

theorem exemplars_addSample (d : Distribution) (s : Sample) :
    (d.addSample s).exemplars =
      if s.attachments.isEmpty then d.exemplars
      else d.exemplars.setIfInBounds (d.buckets.index s.value.toFloat) (some s.exemplar) := rfl

/-- The number of buckets stays as it is. -/
theorem size_foldl (d : Distribution) (l : List Sample) :
    (l.foldl addSample d).counts.size = d.counts.size ∧
      (l.foldl addSample d).exemplars.size = d.exemplars.size := by
  induction l generalizing d with
  | nil => exact ⟨rfl, rfl⟩
  | cons s rest ih =>
    obtain ⟨hcounts, hexemplars⟩ := ih (d.addSample s)
    refine ⟨hcounts.trans Array.size_modify, hexemplars.trans ?_⟩
    rw [exemplars_addSample]
    split
    · rfl
    · exact Array.size_setIfInBounds

/-- **The exemplar of a bucket** is the latest sample of the bucket that has attachments, or else the one
that was there before. -/
theorem getElem?_exemplars_foldl (d : Distribution) (l : List Sample) (i : Nat) :
    (l.foldl addSample d).exemplars[i]? =
      d.exemplars[i]?.map fun before =>
        ((l.filter fun s =>
          !s.attachments.isEmpty && d.buckets.index s.value.toFloat = i).getLast?.map
            Sample.exemplar).or before := by
  induction l using List.reverseRecOn with
  | nil => simp
  | append_singleton l s ih =>
    have hbuckets := (foldl_addSample d l).1
    have hsize := (size_foldl d l).2
    rw [List.foldl_concat, exemplars_addSample, hbuckets, List.filter_append]
    by_cases hempty : s.attachments.isEmpty = true
    · simp [hempty, ih]
    · rw [if_neg hempty, Array.getElem?_setIfInBounds]
      by_cases hindex : d.buckets.index s.value.toFloat = i
      · by_cases hlt : i < d.exemplars.size
        · simp [hempty, hindex, hsize, hlt]
        · simp [hempty, hindex, hsize, hlt]
      · simp [hempty, hindex, ih]

/-! ### All parts together -/

variable {buckets : Buckets} {l : List Sample}

/-- **What a distribution tells of its samples**, if the bounds of the buckets are in order. -/
theorem isHistogram_of_sorted (hsorted : buckets.Sorted) (hbounds : ∀ x ∈ buckets.bounds, x ≤ x)
    (hl : l ≠ []) (hnumbers : ∀ s ∈ l, s.value.toFloat ≤ s.value.toFloat) :
    (l.foldl addSample (empty buckets)).IsHistogram l := by
  obtain ⟨hbuckets, hcount, hcounts, hleast, hgreatest⟩ := foldl_addSample (empty buckets) l
  obtain ⟨hsize, hsize'⟩ := size_foldl (empty buckets) l
  have hexemplars := getElem?_exemplars_foldl (empty buckets) l
  rw [buckets_empty] at hbuckets hcounts hexemplars
  have hindex : ∀ i ≤ buckets.bounds.size, ∀ s ∈ l,
      (buckets.index s.value.toFloat = i ↔ buckets.Contains i s.value.toFloat) :=
    fun i hi s hs => hsorted.index_eq_iff hbounds (hnumbers s hs) (Nat.lt_succ_of_le hi)
  have hstart : ∀ i ≤ buckets.bounds.size,
      (empty buckets).counts[i]? = some 0 ∧ (empty buckets).exemplars[i]? = some none := by
    intro i hi
    have hlt : i < buckets.count := Nat.lt_succ_of_le hi
    simp [empty, hlt]
  have hcount' : (l.foldl addSample (empty buckets)).moments.count = l.length :=
    hcount.trans (Nat.zero_add _)
  -- Before the first sample the least number is infinite, and so is the greatest.
  have hfloats : l.map (·.value.toFloat) ≠ [] := by simpa using hl
  have hlow : ∀ x ∈ l.map (·.value.toFloat), x ≤ (empty buckets).least := by
    intro x hx
    obtain ⟨s, hs, rfl⟩ := List.mem_map.1 hx
    exact (FloatOrder.between_infinities (hnumbers s hs)).2
  have hhigh : ∀ x ∈ l.map (·.value.toFloat), (empty buckets).greatest ≤ x := by
    intro x hx
    obtain ⟨s, hs, rfl⟩ := List.mem_map.1 hx
    exact (FloatOrder.between_infinities (hnumbers s hs)).1
  obtain ⟨hmem, hle⟩ := FloatOrder.extreme_mem FloatOrder.direction_le hfloats hlow
  obtain ⟨hmem', hge⟩ := FloatOrder.extreme_mem FloatOrder.direction_ge hfloats hhigh
  rw [← hleast] at hmem hle
  rw [← hgreatest] at hmem' hge
  constructor
  · rw [hsize, hbuckets]
    exact Array.size_replicate
  · rw [hsize', hbuckets]
    exact Array.size_replicate
  · exact hcount'
  · rw [hcount', hcounts, sum_foldl_tally _ (by simp [empty]), List.length_map]
    simp [empty]
  · intro i hi
    rw [hbuckets] at hi ⊢
    rw [hcounts, getElem?_foldl_tally, (hstart i hi).1, List.countP_map, Option.map_some,
      Nat.zero_add]
    exact congrArg some (List.countP_congr fun s hs => by simpa using hindex i hi s hs)
  · intro i hi
    rw [hbuckets] at hi ⊢
    rw [hexemplars, (hstart i hi).2, Option.map_some, Option.or_none]
    have hfilter : ∀ s ∈ l, (!s.attachments.isEmpty && decide (buckets.index s.value.toFloat = i)) =
        (!s.attachments.isEmpty && decide (buckets.Contains i s.value.toFloat)) := by
      intro s hs
      rw [decide_eq_decide.2 (hindex i hi s hs)]
    rw [List.filter_congr hfilter]
  · obtain ⟨s, hs, heq⟩ := List.mem_map.1 hmem
    exact ⟨s, hs, heq.symm⟩
  · intro s hs
    exact hle _ (List.mem_map_of_mem hs)
  · obtain ⟨s, hs, heq⟩ := List.mem_map.1 hmem'
    exact ⟨s, hs, heq.symm⟩
  · intro s hs
    exact hge _ (List.mem_map_of_mem hs)

/-- **A distribution is the histogram of its samples**, whatever bounds were given and whatever finite
numbers were recorded. Every double has a bucket, also one that is no number. -/
theorem isHistogram_foldl (given : List Float) (l : List Sample) (hl : l ≠ [])
    (hfinite : ∀ s ∈ l, s.value.toFloat.isFinite = true) :
    let d := l.foldl addSample (empty (Buckets.ofBounds given).1)
    d.buckets = (Buckets.ofBounds given).1 ∧ d.IsHistogram l ∧
      ∀ x, d.buckets.index x < d.counts.size := by
  intro d
  have hbuckets : d.buckets = (Buckets.ofBounds given).1 := (foldl_addSample _ l).1
  have hd : d.IsHistogram l := isHistogram_of_sorted (Buckets.sorted_ofBounds given)
    (fun x hx => Buckets.number_of_mem_ofBounds hx) hl
    fun s hs => FloatOrder.number_of_isFinite (hfinite s hs)
  refine ⟨hbuckets, hd, ?_⟩
  intro x
  rw [hd.size_counts]
  exact d.buckets.index_lt_count x

/-- Three samples, the last of which equals a bound. -/
def threeSamples : List Sample :=
  [⟨.float 5, default, .ofList [("first", "")]⟩, ⟨.float (-3), default, .empty⟩,
    ⟨.float 10, default, .ofList [("last", "")]⟩]

theorem isHistogram_foldl_threeSamples :
    threeSamples ≠ [] ∧ (∀ s ∈ threeSamples, s.value.toFloat.isFinite = true) ∧
      let d := threeSamples.foldl addSample (empty (Buckets.ofBounds [10, 2, 10, 0]).1)
      d.buckets = (Buckets.ofBounds [10, 2, 10, 0]).1 ∧ d.IsHistogram threeSamples ∧
        ∀ x, d.buckets.index x < d.counts.size := by
  have hl : threeSamples ≠ [] := List.cons_ne_nil _ _
  have hfinite : ∀ s ∈ threeSamples, s.value.toFloat.isFinite = true := by decide +kernel
  exact ⟨hl, hfinite, isHistogram_foldl [10, 2, 10, 0] threeSamples hl hfinite⟩

end Distribution

end Telemetry
