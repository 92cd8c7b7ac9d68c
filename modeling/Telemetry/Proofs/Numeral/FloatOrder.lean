import Mathlib.Data.List.Sort
import Mathlib.Data.Prod.Lex
import Mathlib.Order.Compare

/-!
# The order of doubles

Doubles that are numbers are ordered by a rank: by sign and size, where the two zeros have one rank.  What
is no number has none and cannot be compared, not even with itself.  So comparison is transitive, any two
numbers can be compared, and numbers each of which is at most the other are equal as numbers, as the two
zeros are.

The least and the greatest of some doubles are found by going through them, and depend on the order in
which they come: of the two zeros the later one is kept.  `extreme_beq_of_perm` says that as a number the
result is the same in any order.
-/

namespace Telemetry.FloatOrder

open Float.Model

/-- The rank of a number. -/
def rank : UnpackedFloat → Option (Int ×ₗ Int ×ₗ Int)
  | .notANumber => none
  | .infinity .negative => some (toLex (-2, toLex (0, 0)))
  | .finite .negative mantissa exponent _ => some (toLex (-1, toLex (-exponent, -mantissa)))
  | .zero _ => some (toLex (0, toLex (0, 0)))
  | .finite .positive mantissa exponent _ => some (toLex (1, toLex (exponent, mantissa)))
  | .infinity .positive => some (toLex (2, toLex (0, 0)))

theorem compare_neg (a b : Int) : compare (-a) (-b) = (compare a b).swap := by
  rcases lt_trichotomy a b with h | rfl | h
  · rw [compare_lt_iff_lt.2 h, compare_gt_iff_gt.2 (Int.neg_lt_neg h)]; rfl
  · simp
  · rw [compare_gt_iff_gt.2 h, compare_lt_iff_lt.2 (Int.neg_lt_neg h)]; rfl

theorem compare_natCast (a b : Nat) : compare (a : Int) (b : Int) = compare a b := by
  rcases lt_trichotomy a b with h | rfl | h
  · rw [compare_lt_iff_lt.2 h, compare_lt_iff_lt.2 (by omega)]
  · simp
  · rw [compare_gt_iff_gt.2 h, compare_gt_iff_gt.2 (by omega)]

theorem compare_toLex {α β : Type} [LinearOrder α] [LinearOrder β] (a a' : α) (b b' : β) :
    compare (toLex (a, b)) (toLex (a', b')) = (compare a a').then (compare b b') := by
  rw [Prod.Lex.compare_def]
  rfl

section Finite

variable (m m' : Nat) (e e' : Int)

theorem compare_positive :
    compare (toLex ((1 : Int), toLex (e, (m : Int)))) (toLex (1, toLex (e', (m' : Int)))) =
      (compare e e').then (compare m m') := by
  simp [compare_toLex, compare_natCast]

/-- Of negative numbers the larger in size comes first. -/
theorem compare_negative :
    compare (toLex ((-1 : Int), toLex (-e, -(m : Int)))) (toLex (-1, toLex (-e', -(m' : Int)))) =
      ((compare e e').then (compare m m')).swap := by
  simp [compare_toLex, compare_neg, compare_natCast, Ordering.swap_then]

end Finite

/-- **Numbers are compared by their ranks.** -/
theorem compare_eq (a b : UnpackedFloat) :
    a.compare b = (rank a).bind fun x => (rank b).map fun y => compare x y := by
  -- What differs in sign or form differs in the first part of the rank.
  rcases a with s | _ | s | ⟨s, m, e, hm⟩ <;> rcases b with s' | _ | s' | ⟨s', m', e', hm'⟩ <;>
    (try cases s) <;> (try cases s')
  case finite.finite.positive.positive => exact congrArg some (compare_positive m m' e e').symm
  case finite.finite.negative.negative => exact congrArg some (compare_negative m m' e e').symm
  all_goals rfl

/-- The rank of a double, if it is a number. -/
def rankOf (x : Float) : Option (Int ×ₗ Int ×ₗ Int) := rank x.toModel.unpack

theorem le_iff {x y : Float} : x ≤ y ↔ ∃ a b, rankOf x = some a ∧ rankOf y = some b ∧ a ≤ b := by
  have hle : x ≤ y ↔ (x.toModel.unpack.compare y.toModel.unpack).any (·.isLE) = true :=
    decide_eq_true_iff
  rw [hle, compare_eq, rankOf, rankOf]
  cases rank x.toModel.unpack with
  | none => simp
  | some a =>
    cases rank y.toModel.unpack with
    | none => simp
    | some b =>
      simp only [Option.bind_some, Option.map_some, Option.any_some, Option.some.injEq,
        exists_and_left, exists_eq_left']
      exact Ordering.isLE_iff_ne_gt.trans compare_le_iff_le

theorem beq_iff {x y : Float} : (x == y) = true ↔ ∃ a, rankOf x = some a ∧ rankOf y = some a := by
  show (x.toModel.unpack.compare y.toModel.unpack == some .eq) = true ↔ _
  rw [beq_iff_eq, compare_eq, rankOf, rankOf]
  cases rank x.toModel.unpack with
  | none => simp
  | some a =>
    cases rank y.toModel.unpack with
    | none => simp
    | some b =>
      simp only [Option.bind_some, Option.map_some, Option.some.injEq, exists_eq_left']
      exact compare_eq_iff_eq.trans eq_comm

theorem trans {x y z : Float} (hxy : x ≤ y) (hyz : y ≤ z) : x ≤ z := by
  rw [le_iff] at *
  obtain ⟨a, b, hx, hy, hab⟩ := hxy
  obtain ⟨b', c, hy', hz, hbc⟩ := hyz
  obtain rfl := Option.some.inj (hy.symm.trans hy')
  exact ⟨a, c, hx, hz, le_trans hab hbc⟩

/-- What can be compared is a number. -/
theorem number_of_le {x y : Float} (h : x ≤ y) : x ≤ x ∧ y ≤ y := by
  obtain ⟨a, b, hx, hy, -⟩ := le_iff.1 h
  exact ⟨le_iff.2 ⟨a, a, hx, hx, le_rfl⟩, le_iff.2 ⟨b, b, hy, hy, le_rfl⟩⟩

/-- Any two numbers can be compared. -/
theorem total {x y : Float} (hx : x ≤ x) (hy : y ≤ y) : x ≤ y ∨ y ≤ x := by
  obtain ⟨a, -, hx, -, -⟩ := le_iff.1 hx
  obtain ⟨b, -, hy, -, -⟩ := le_iff.1 hy
  exact (le_total a b).imp (fun h => le_iff.2 ⟨a, b, hx, hy, h⟩) fun h => le_iff.2 ⟨b, a, hy, hx, h⟩

/-- Numbers each of which is at most the other are equal as numbers. -/
theorem beq_of_le {x y : Float} (hxy : x ≤ y) (hyx : y ≤ x) : (x == y) = true := by
  obtain ⟨a, b, hx, hy, hab⟩ := le_iff.1 hxy
  obtain ⟨b', a', hy', hx', hba⟩ := le_iff.1 hyx
  obtain rfl := Option.some.inj (hx.symm.trans hx')
  obtain rfl := Option.some.inj (hy.symm.trans hy')
  exact beq_iff.2 ⟨a, hx, hy.trans (congrArg some (le_antisymm hba hab))⟩

theorem lt_iff_le_not_ge {x y : Float} : x < y ↔ x ≤ y ∧ ¬y ≤ x := by
  have hlt : x < y ↔ (x.toModel.unpack.compare y.toModel.unpack == some .lt) = true :=
    decide_eq_true_iff
  rw [hlt, le_iff, le_iff, beq_iff_eq, compare_eq, rankOf, rankOf]
  cases rank x.toModel.unpack with
  | none => simp
  | some a =>
    cases rank y.toModel.unpack with
    | none => simp
    | some b => simpa [compare_lt_iff_lt] using le_of_lt

theorem not_lt_of_le {x y : Float} (h : x ≤ y) : ¬y < x :=
  fun hlt => (lt_iff_le_not_ge.1 hlt).2 h

theorem le_of_not_lt {x y : Float} (hx : x ≤ x) (hy : y ≤ y) (h : ¬x < y) : y ≤ x := by
  rcases total hx hy with hle | hle
  · by_contra hnot
    exact h (lt_iff_le_not_ge.2 ⟨hle, hnot⟩)
  · exact hle

theorem lt_of_lt_of_le {x y z : Float} (hxy : x < y) (hyz : y ≤ z) : x < z := by
  obtain ⟨hle, hnot⟩ := lt_iff_le_not_ge.1 hxy
  refine lt_iff_le_not_ge.2 ⟨trans hle hyz, ?_⟩
  intro hzx
  exact hnot (trans hyz hzx)

theorem lt_trans {x y z : Float} (hxy : x < y) (hyz : y < z) : x < z :=
  lt_of_lt_of_le hxy (lt_iff_le_not_ge.1 hyz).1

theorem lt_of_le_of_not_beq {x y : Float} (h : x ≤ y) (hne : ¬(x == y) = true) : x < y :=
  lt_iff_le_not_ge.2 ⟨h, fun hle => hne (beq_of_le h hle)⟩

/-- Finite doubles are numbers. -/
theorem number_of_isFinite {x : Float} (h : x.isFinite = true) : x ≤ x := by
  have hrank : ∃ a, rankOf x = some a := by
    have hfinite : x.toModel.unpack.isFinite = true := h
    unfold rankOf
    generalize x.toModel.unpack = unpacked at hfinite
    match unpacked with
    | .zero _ => exact ⟨_, rfl⟩
    | .finite .positive _ _ _ => exact ⟨_, rfl⟩
    | .finite .negative _ _ _ => exact ⟨_, rfl⟩
  obtain ⟨a, ha⟩ := hrank
  exact le_iff.2 ⟨a, a, ha, ha, le_rfl⟩

theorem rank_le_infinity {x : UnpackedFloat} {a : Int ×ₗ Int ×ₗ Int} (h : rank x = some a) :
    toLex (-2, toLex (0, 0)) ≤ a ∧ a ≤ toLex (2, toLex (0, 0)) := by
  rcases x with s | _ | s | ⟨s, m, e, hm⟩
  case notANumber => cases h
  all_goals
    cases s <;> cases h <;> simp [Prod.Lex.toLex_le_toLex]

/-- Every number is between the infinities. -/
theorem between_infinities {x : Float} (hx : x ≤ x) : -1 / 0 ≤ x ∧ x ≤ 1 / 0 := by
  obtain ⟨a, -, ha, -, -⟩ := le_iff.1 hx
  have hlow : rankOf (-1 / 0) = some (toLex (-2, toLex (0, 0))) := by decide
  have hhigh : rankOf (1 / 0) = some (toLex (2, toLex (0, 0))) := by decide
  obtain ⟨hle, hge⟩ := rank_le_infinity ha
  exact ⟨le_iff.2 ⟨_, a, hlow, ha, hle⟩, le_iff.2 ⟨a, _, ha, hhigh, hge⟩⟩

/-- Numbers are sorted in the usual way, although not all doubles can be compared. -/
theorem pairwise_mergeSort {l : List Float} (hl : ∀ x ∈ l, x ≤ x) :
    (l.mergeSort fun x y => x ≤ y).Pairwise fun x y => x ≤ y := by
  let key (x : Float) : Int ×ₗ Int ×ₗ Int := (rankOf x).getD (toLex (0, toLex (0, 0)))
  have hkey : ∀ x ∈ l, ∀ y ∈ l, (x ≤ y ↔ key x ≤ key y) := by
    intro x hx y hy
    obtain ⟨a, -, ha, -, -⟩ := le_iff.1 (hl x hx)
    obtain ⟨b, -, hb, -, -⟩ := le_iff.1 (hl y hy)
    simp [le_iff, key, ha, hb]
  have hmap : (l.mergeSort fun x y => x ≤ y).map key = (l.map key).mergeSort fun a b => a ≤ b :=
    List.map_mergeSort fun x hx y hy => decide_eq_decide.2 (hkey x hx y hy)
  have hsorted : ((l.map key).mergeSort fun a b => a ≤ b).Pairwise fun a b => a ≤ b :=
    List.pairwise_mergeSort' (fun a b => a ≤ b) _
  rw [← hmap, List.pairwise_map] at hsorted
  refine hsorted.imp_of_mem ?_
  intro x y hx hy h
  exact (hkey x (List.mem_mergeSort.1 hx) y (List.mem_mergeSort.1 hy)).2 h

/-! ### The least and the greatest -/

/-- A direction in which numbers are compared. -/
structure Direction {α : Type*} [BEq α] (before : α → α → Prop) : Prop where
  trans : ∀ {x y z}, before x y → before y z → before x z
  number : ∀ {x y}, before x y → before x x ∧ before y y
  total : ∀ {x y}, before x x → before y y → before x y ∨ before y x
  beq : ∀ {x y}, before x y → before y x → (x == y) = true

theorem direction_le : Direction fun x y : Float => x ≤ y := ⟨trans, number_of_le, total, beq_of_le⟩

theorem direction_ge : Direction fun x y : Float => y ≤ x where
  trans hxy hyz := trans hyz hxy
  number h := (number_of_le h).symm
  total hx hy := total hy hx
  beq hxy hyx := beq_of_le hyx hxy

/-- Where all numbers can be compared and equal ones are the same, each direction is one. -/
theorem direction_of_linearOrder {α : Type*} [LinearOrder α] :
    Direction (fun x y : α => x ≤ y) ∧ Direction fun x y : α => y ≤ x where
  left := ⟨le_trans, fun _ => ⟨le_rfl, le_rfl⟩, fun _ _ => le_total _ _,
    fun hxy hyx => beq_iff_eq.2 (le_antisymm hxy hyx)⟩
  right := ⟨fun hxy hyz => le_trans hyz hxy, fun _ => ⟨le_rfl, le_rfl⟩, fun _ _ => le_total _ _,
    fun hxy hyx => beq_iff_eq.2 (le_antisymm hyx hxy)⟩

section Extreme

variable {α : Type*} [BEq α] {before : α → α → Prop} [DecidableRel before]

omit [BEq α] in
/-- The foremost of some numbers, where a later one is preferred to one that it equals. -/
def extreme (before : α → α → Prop) [DecidableRel before] (start : α) (l : List α) : α :=
  l.foldl (fun m x => if before x m then x else m) start

/-- **The foremost number** is one of them and before all numbers among them. -/
theorem extreme_spec (h : Direction before) {start : α} (hstart : before start start) (l : List α) :
    (extreme before start l = start ∨ extreme before start l ∈ l) ∧
      before (extreme before start l) start ∧
      ∀ x ∈ l, before x x → before (extreme before start l) x := by
  induction l generalizing start with
  | nil => exact ⟨.inl rfl, hstart, by simp⟩
  | cons x rest ih =>
    by_cases hx : before x start
    · have hcons : extreme before start (x :: rest) = extreme before x rest := by
        simp [extreme, hx]
      obtain ⟨hmem, hle, hall⟩ := ih (h.number hx).1
      rw [hcons]
      refine ⟨.inr ?_, h.trans hle hx, ?_⟩
      · rcases hmem with heq | hmem
        · simp [heq]
        · exact List.mem_cons_of_mem _ hmem
      · intro y hy hnumber
        rcases List.mem_cons.1 hy with rfl | hy
        · exact hle
        · exact hall y hy hnumber
    · have hcons : extreme before start (x :: rest) = extreme before start rest := by
        simp [extreme, hx]
      obtain ⟨hmem, hle, hall⟩ := ih hstart
      rw [hcons]
      refine ⟨hmem.imp_right (List.mem_cons_of_mem _), hle, ?_⟩
      intro y hy hnumber
      rcases List.mem_cons.1 hy with rfl | hy
      · -- A number that is not before the start comes after it.
        exact h.trans hle ((h.total hnumber hstart).resolve_left hx)
      · exact hall y hy hnumber

/-- Of numbers that all come before the start, the foremost is one of them and before each of them. -/
theorem extreme_mem (h : Direction before) {start : α} {l : List α} (hl : l ≠ [])
    (hstart : ∀ x ∈ l, before x start) :
    extreme before start l ∈ l ∧ ∀ x ∈ l, before (extreme before start l) x := by
  obtain ⟨x, rest, rfl⟩ := List.exists_cons_of_ne_nil hl
  have hnumber : ∀ y ∈ x :: rest, before y y := fun y hy => (h.number (hstart y hy)).1
  have hcons : extreme before start (x :: rest) = extreme before x rest := by
    simp [extreme, hstart x List.mem_cons_self]
  obtain ⟨hmem, hle, hall⟩ := extreme_spec h (hnumber x List.mem_cons_self) rest
  rw [hcons]
  constructor
  · rcases hmem with heq | hmem
    · simp [heq]
    · exact List.mem_cons_of_mem _ hmem
  · intro y hy
    rcases List.mem_cons.1 hy with rfl | hrest
    · exact hle
    · exact hall y hrest (hnumber y hy)

/-- **As a number, the foremost one does not depend on the order.** -/
theorem extreme_beq_of_perm (h : Direction before) {start : α} (hstart : before start start)
    {l l' : List α} (hperm : l.Perm l') :
    (extreme before start l == extreme before start l') = true := by
  -- The one is among the doubles of which the other is the foremost.
  have hbefore : ∀ {l l' : List α}, l.Perm l' →
      before (extreme before start l) (extreme before start l') := by
    intro l l' hperm
    obtain ⟨-, hle, hall⟩ := extreme_spec h hstart l
    obtain ⟨heq | hmem, hle', -⟩ := extreme_spec h hstart l'
    · rw [heq]; exact hle
    · exact hall _ (hperm.mem_iff.2 hmem) (h.number hle').1
  exact h.beq (hbefore hperm) (hbefore hperm.symm)

end Extreme

end Telemetry.FloatOrder
