import Telemetry.Proofs.Numeral.FloatOrder
import Telemetry.Stats.Buckets

/-!
# The buckets of a histogram

Whatever doubles are given, the bounds that are kept are positive, finite and strictly increasing
(`sorted_ofBounds`).  On such bounds the comparison with a number is true up to some bound and false from
there on, so bisection finds where it turns, and the bucket of a number is the only one that contains it
(`index_eq_iff`).
-/

namespace Telemetry

theorem number_of_isBound {x : Float} (h : isBound x = true) : x ≤ x := by
  simp only [isBound, Bool.and_eq_true] at h
  exact FloatOrder.number_of_isFinite h.1

/-! ### Bounds -/

theorem mem_of_mem_dropRepeats {x : Float} {l : List Float} (h : x ∈ dropRepeats l) : x ∈ l := by
  fun_induction dropRepeats l with
  | case1 => exact h
  | case2 b => exact h
  | case3 b c rest heq ih => exact List.mem_cons_of_mem _ (ih h)
  | case4 b c rest hne ih =>
    rcases List.mem_cons.1 h with rfl | h
    · exact List.mem_cons_self
    · exact List.mem_cons_of_mem _ (ih h)

/-- Without repeats, what is in order is strictly increasing. -/
theorem pairwise_dropRepeats {l : List Float} (h : l.Pairwise fun x y => x ≤ y) :
    (dropRepeats l).Pairwise fun x y => x < y := by
  fun_induction dropRepeats l with
  | case1 => exact .nil
  | case2 b => exact List.pairwise_singleton _ _
  | case3 b c rest heq ih => exact ih (List.pairwise_cons.1 h).2
  | case4 b c rest hne ih =>
    obtain ⟨hb, hrest⟩ := List.pairwise_cons.1 h
    refine List.pairwise_cons.2 ⟨?_, ih hrest⟩
    intro x hx
    have hbc : b < c := FloatOrder.lt_of_le_of_not_beq (hb c List.mem_cons_self) hne
    rcases List.mem_cons.1 (mem_of_mem_dropRepeats hx) with rfl | hx
    · exact hbc
    · exact FloatOrder.lt_of_lt_of_le hbc ((List.pairwise_cons.1 hrest).1 x hx)

namespace Buckets

/-- The bounds are strictly increasing. -/
def Sorted (b : Buckets) : Prop := b.bounds.toList.Pairwise fun x y => x < y

/-- Bounds are positive and finite. -/
theorem isBound_of_mem_normalize {given : List Float} {x : Float} (h : x ∈ normalize given) :
    isBound x = true := by
  have h := List.mem_mergeSort.1 (mem_of_mem_dropRepeats h)
  exact (List.mem_filter.1 h).2

/-- **The bounds of buckets are strictly increasing**, whatever was given. -/
theorem sorted_ofBounds (given : List Float) : (ofBounds given).1.Sorted := by
  apply pairwise_dropRepeats
  apply FloatOrder.pairwise_mergeSort
  intro x hx
  exact number_of_isBound (List.mem_filter.1 hx).2

theorem number_of_mem_ofBounds {given : List Float} {x : Float}
    (h : x ∈ (ofBounds given).1.bounds) : x ≤ x :=
  number_of_isBound (isBound_of_mem_normalize (Array.mem_toList_iff.2 h))

/-- Of two bounds the one with the smaller index is smaller. -/
theorem Sorted.lt {b : Buckets} (h : b.Sorted) {i j : Nat} (hij : i < j)
    (hj : j < b.bounds.size) : b.bounds.getD i 0 < b.bounds.getD j 0 := by
  have hlt := List.pairwise_iff_getElem.1 h i j (by simp; omega) (by simpa using hj) hij
  simpa [hj, hij.trans hj] using hlt

/-! ### Bisection -/

/-- **Bisection finds the turn**, if `p` is nowhere true after it was false. -/
theorem bisect_spec {p : Nat → Bool} {n low high : Nat}
    (hmono : ∀ i j, i < j → j < n → p j = true → p i = true) (hle : low ≤ high) (hhigh : high ≤ n)
    (hbefore : ∀ i < low, p i = true) (hafter : ∀ i, high ≤ i → i < n → p i = false) :
    (∀ i < bisect p low high, p i = true) ∧
      ∀ i, bisect p low high ≤ i → i < n → p i = false := by
  fun_induction bisect p low high with
  | case1 low high hlt middle hp ih =>
    refine ih (by omega) hhigh ?_ hafter
    intro i hi
    rcases Nat.lt_or_eq_of_le (Nat.le_of_lt_succ hi) with hi | rfl
    · exact hmono i middle hi (by omega) hp
    · exact hp
  | case2 low high hlt middle hp ih =>
    refine ih (by omega) (by omega) hbefore ?_
    intro i hi hn
    rcases Nat.lt_or_eq_of_le hi with hi | rfl
    · by_contra htrue
      exact hp (hmono middle i hi hn (by simpa using htrue))
    · simpa using hp
  | case3 low high hge =>
    obtain rfl : low = high := by omega
    exact ⟨hbefore, hafter⟩

/-- The bounds before the bucket of `x` are below `x`, and those after it are not. -/
theorem Sorted.index_spec {b : Buckets} (h : b.Sorted) (x : Float) :
    (∀ i < b.index x, b.bounds.getD i 0 < x) ∧
      ∀ i, b.index x ≤ i → i < b.bounds.size → ¬b.bounds.getD i 0 < x := by
  have hspec := bisect_spec (p := fun i => b.bounds.getD i 0 < x) (n := b.bounds.size)
    (fun i j hij hj hlt => decide_eq_true (FloatOrder.lt_trans (h.lt hij hj) (by simpa using hlt)))
    (Nat.zero_le _) (Nat.le_refl _) (fun i hi => absurd hi (Nat.not_lt_zero i))
    fun i hi hlt => absurd hlt (Nat.not_lt.2 hi)
  simp only [decide_eq_true_eq, decide_eq_false_iff_not] at hspec
  exact hspec

/-- The number `x` is above the bound before bucket `i` and at most the bound after it, as far as there
are such bounds. -/
def Contains (b : Buckets) (i : Nat) (x : Float) : Prop :=
  (0 < i → b.bounds.getD (i - 1) 0 < x) ∧ (i < b.bounds.size → x ≤ b.bounds.getD i 0)

instance (b : Buckets) (i : Nat) (x : Float) : Decidable (b.Contains i x) :=
  inferInstanceAs (Decidable (_ ∧ _))

/-- **The bucket of a number** is the only one that contains it. -/
theorem Sorted.index_eq_iff {b : Buckets} (h : b.Sorted) (hb : ∀ x ∈ b.bounds, x ≤ x) {x : Float}
    (hx : x ≤ x) {i : Nat} (hi : i < b.count) : b.index x = i ↔ b.Contains i x := by
  obtain ⟨hbelow, habove⟩ := h.index_spec x
  constructor
  · rintro rfl
    refine ⟨fun h0 => hbelow _ (by omega), ?_⟩
    intro hlt
    refine FloatOrder.le_of_not_lt ?_ hx (habove _ (Nat.le_refl _) hlt)
    have hmem := hb _ (Array.getElem_mem hlt)
    simpa [hlt] using hmem
  · rintro ⟨hlow, hhigh⟩
    have hi : i ≤ b.bounds.size := Nat.le_of_lt_succ hi
    rcases Nat.lt_trichotomy (b.index x) i with hlt | heq | hgt
    · exact absurd (hlow (by omega)) (habove (i - 1) (by omega) (by omega))
    · exact heq
    · have hcount : b.index x ≤ b.bounds.size := Nat.le_of_lt_succ (b.index_lt_count x)
      exact absurd (hbelow i hgt) (FloatOrder.not_lt_of_le (hhigh (by omega)))

end Buckets

end Telemetry
