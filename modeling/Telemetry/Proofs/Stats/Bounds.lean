import Mathlib
import Telemetry.Proofs.Stats.Buckets

/-!
# The bounds that are kept

Of the doubles that are given as bounds, those that are positive and finite are kept, in increasing order
and each once.  Apart from zeros, which are no bounds, doubles that are equal as numbers are the same, so
nothing is lost when repeats are dropped, and the bounds that are kept depend on nothing but which doubles
were given (`Buckets.normalize_congr`).  What was dropped is reported with its number
(`Buckets.normalizes_ofBounds`), and bisection on the bounds finds what a scan from the front would.
-/

namespace Telemetry

/-- Bounds that are equal as numbers are the same double, since zeros are no bounds. -/
theorem eq_of_beq_of_isBound {x y : Float} (hx : isBound x = true) (h : (x == y) = true) : x = y := by
  obtain ⟨-, -, heq | ⟨rfl, -⟩ | ⟨rfl, -⟩⟩ := Float.beq_iff_ne_nan_and_eq.1 h
  · exact heq
  · exact absurd hx (by decide)
  · exact absurd hx (by decide)

/-- Of bounds, no value is lost when repeats are dropped. -/
theorem mem_dropRepeats_iff {l : List Float} (hl : ∀ b ∈ l, isBound b = true) {x : Float} :
    x ∈ dropRepeats l ↔ x ∈ l := by
  fun_induction dropRepeats l with
  | case1 => rfl
  | case2 b => rfl
  | case3 b c rest heq ih =>
    obtain ⟨hb, hrest⟩ := List.forall_mem_cons.1 hl
    obtain rfl := eq_of_beq_of_isBound hb heq
    rw [ih hrest, List.mem_cons (b := b) (l := b :: rest), iff_or_self]
    rintro rfl
    exact List.mem_cons_self
  | case4 b c rest hne ih =>
    rw [List.mem_cons, ih (List.forall_mem_cons.1 hl).2, ← List.mem_cons]

instance irrefl_lt_float : Std.Irrefl fun x y : Float => x < y where
  irrefl _ h := FloatOrder.not_lt_of_le (FloatOrder.lt_iff_le_not_ge.1 h).1 h

instance antisymm_lt_float : Std.Antisymm fun x y : Float => x < y where
  antisymm _ _ hxy hyx := absurd hyx (FloatOrder.not_lt_of_le (FloatOrder.lt_iff_le_not_ge.1 hxy).1)

namespace Buckets

section Normalize

variable {given given' : List Float}

/-- **The doubles that are kept** are the bounds among those that were given. -/
theorem mem_normalize_iff {x : Float} : x ∈ normalize given ↔ x ∈ given ∧ isBound x = true := by
  have hbounds : ∀ b ∈ (given.filter isBound).mergeSort fun a b => a ≤ b, isBound b = true :=
    fun b hb => (List.mem_filter.1 (List.mem_mergeSort.1 hb)).2
  rw [normalize, mem_dropRepeats_iff hbounds, List.mem_mergeSort, List.mem_filter]

theorem pairwise_normalize (given : List Float) : (normalize given).Pairwise fun x y => x < y :=
  sorted_ofBounds given

/-- What is kept depends on nothing but which bounds were given. -/
theorem normalize_congr (h : ∀ x, isBound x = true → (x ∈ given ↔ x ∈ given')) :
    normalize given = normalize given' := by
  refine List.Pairwise.eq_of_mem_iff (pairwise_normalize given) (pairwise_normalize given') fun x => ?_
  rw [mem_normalize_iff, mem_normalize_iff]
  exact and_congr_left (h x)

/-- Nothing is done to bounds that are kept already. -/
theorem normalize_normalize (given : List Float) : normalize (normalize given) = normalize given :=
  normalize_congr fun _ hx => mem_normalize_iff.trans (and_iff_left hx)

theorem nodup_normalize (given : List Float) : (normalize given).Nodup :=
  (pairwise_normalize given).nodup

/-- As many are kept as there are distinct bounds. -/
theorem perm_normalize (given : List Float) :
    (normalize given).Perm (given.filter isBound).dedup := by
  refine (List.perm_ext_iff_of_nodup (nodup_normalize given) (List.nodup_dedup _)).2 fun x => ?_
  rw [mem_normalize_iff, List.mem_dedup, List.mem_filter]

theorem sublist_given (given : List Float) : (given.filter isBound).dedup.Sublist given :=
  (List.dedup_sublist _).trans List.filter_sublist

theorem length_normalize_le (given : List Float) : (normalize given).length ≤ given.length := by
  rw [(perm_normalize given).length_eq]
  exact (sublist_given given).length_le

/-- All are kept exactly if each is a bound and none is given twice. -/
theorem length_normalize_eq_iff (given : List Float) :
    (normalize given).length = given.length ↔ (∀ x ∈ given, isBound x = true) ∧ given.Nodup := by
  rw [(perm_normalize given).length_eq]
  constructor
  · intro h
    have heq := (sublist_given given).eq_of_length h
    rw [← heq]
    exact ⟨fun x hx => (List.mem_filter.1 (List.mem_dedup.1 hx)).2, List.nodup_dedup _⟩
  · rintro ⟨hbounds, hnodup⟩
    rw [List.filter_eq_self.2 hbounds, hnodup.dedup]

end Normalize

/-- What becomes of doubles that are given as bounds, and what is reported. -/
structure Normalizes (given : List Float) (b : Buckets) (reports : List Diagnostic) : Prop where
  /-- The bounds are strictly increasing. -/
  sorted : b.Sorted
  /-- They are the positive and finite ones of the doubles that were given. -/
  mem_iff : ∀ x, x ∈ b.bounds ↔ x ∈ given ∧ x.isFinite = true ∧ 0 < x
  /-- Nothing is dropped exactly if each double is positive and finite and none is given twice. -/
  size_eq_iff : b.bounds.size = given.length ↔
    (∀ x ∈ given, x.isFinite = true ∧ 0 < x) ∧ given.Nodup
  /-- If nothing is dropped, nothing is reported, and else the numbers of what was dropped and kept,
  which make up what was given. -/
  reports : b.bounds.size = given.length ∧ reports = [] ∨
    ∃ dropped, 0 < dropped ∧ dropped + b.bounds.size = given.length ∧
      reports = [.boundsNormalized dropped b.bounds.size]

theorem isBound_iff {x : Float} : isBound x = true ↔ x.isFinite = true ∧ 0 < x := by
  simp [isBound]

/-- **What becomes of the doubles that are given.** -/
theorem normalizes (given : List Float) :
    Normalizes given (ofBounds given).1 (ofBounds given).2 where
  sorted := sorted_ofBounds given
  mem_iff x := by
    rw [← isBound_iff, ← mem_normalize_iff, ofBounds]
    exact List.mem_toArray
  size_eq_iff := by
    simp only [← isBound_iff]
    exact length_normalize_eq_iff given
  reports := by
    have hle := length_normalize_le given
    unfold ofBounds
    dsimp only
    rw [List.size_toArray]
    split
    next heq => exact .inl ⟨heq, rfl⟩
    next hne => exact .inr ⟨_, by omega, by omega, rfl⟩

/-- **Bisection finds what a scan finds**: the first bound that the number does not exceed. -/
theorem Sorted.index_eq_findIdx {b : Buckets} (h : b.Sorted) (hb : ∀ x ∈ b.bounds, x ≤ x) {x : Float}
    (hx : x ≤ x) : b.index x = b.bounds.toList.findIdx fun bound => x ≤ bound := by
  obtain ⟨hbelow, habove⟩ := h.index_spec x
  have hle : b.index x ≤ b.bounds.size := Nat.le_of_lt_succ (b.index_lt_count x)
  have hgetD : ∀ i (hi : i < b.bounds.toList.length), b.bounds.toList[i] = b.bounds.getD i 0 := by
    intro i hi
    simp at hi
    simp [hi]
  have hfalse : ∀ i (hi : i < b.bounds.toList.length), i < b.index x →
      decide (x ≤ b.bounds.toList[i]) = false := by
    intro i hi hlt
    rw [hgetD, decide_eq_false_iff_not]
    intro hxb
    exact FloatOrder.not_lt_of_le hxb (hbelow i hlt)
  symm
  rcases Nat.lt_or_eq_of_le hle with hlt | heq
  · have hi : b.index x < b.bounds.toList.length := by simpa using hlt
    refine (List.findIdx_eq hi).2 ⟨?_, fun j hj => hfalse j (hj.trans hi) hj⟩
    rw [hgetD, decide_eq_true_iff]
    refine FloatOrder.le_of_not_lt ?_ hx (habove _ (Nat.le_refl _) hlt)
    rw [← hgetD _ hi]
    exact hb _ (Array.mem_toList_iff.1 (List.getElem_mem hi))
  · rw [heq, ← Array.length_toList, List.findIdx_eq_length]
    intro bound hbound
    obtain ⟨i, hi, rfl⟩ := List.mem_iff_getElem.1 hbound
    exact hfalse i hi (by simpa [heq] using hi)

/-- **Bounds are normalized**: they are the distinct positive finite doubles among those that were given, in
order, whatever the order and the repeats in which these were given, and to normalize them again changes and
reports nothing.  The bucket of a finite number is the one that a scan of the bounds finds. -/
theorem ofBounds_normalizes (given : List Float) :
    let b := (ofBounds given).1
    Normalizes given b (ofBounds given).2 ∧
      (∀ given', (∀ x, x ∈ given' ↔ x ∈ given) → (ofBounds given').1 = b) ∧
      ofBounds b.bounds.toList = (b, []) ∧
      ∀ x, x.isFinite = true → b.index x = b.bounds.toList.findIdx fun bound => x ≤ bound := by
  intro b
  refine ⟨normalizes given, ?_, ?_, ?_⟩
  · intro given' h
    have hkept : normalize given' = normalize given := normalize_congr fun x _ => h x
    rw [ofBounds, hkept]
    rfl
  · have hkept : normalize (normalize given) = normalize given := normalize_normalize given
    show ofBounds (normalize given) = (b, [])
    rw [ofBounds, hkept, if_pos rfl]
    rfl
  · intro x hx
    exact (sorted_ofBounds given).index_eq_findIdx (fun _ => number_of_mem_ofBounds)
      (FloatOrder.number_of_isFinite hx)

end Buckets

end Telemetry
