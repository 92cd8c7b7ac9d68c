import Mathlib
import Telemetry.Numeral.Binary64
import Telemetry.Proofs.Numeral.FloatOrder

/-!
# Doubles as exact numbers

The number that a double denotes, as an extended real number, where what is not a number denotes none.
`le_iff` says that doubles are compared as these numbers are: the fields of a double have its rank
(`ofFloat_eq`), and as significands are normalized, numbers are ordered as the ranks (`strictMonoOn_value`).
-/

namespace Telemetry.Numeral.Binary64

open Float.Model (Format UnpackedFloat)
open Float.Model.UnpackedFloat (Sign unpackMantissa unpackExponent unpackSign)

/-- The number that a double denotes, an infinity included. -/
noncomputable def number? : Binary64 → Option EReal
  | .nan => none
  | .infinite negative => some (if negative then ⊥ else ⊤)
  | .finite negative significand exponent =>
    some (((if negative then -1 else 1) * (significand * 2 ^ exponent) : ℝ) : EReal)

/-! ### The fields of a double -/

/-- Whether the sign is that of a negative number. -/
def isNegative : Sign → Bool
  | .negative => true
  | .positive => false

/-- What a double denotes that was taken apart. -/
def ofUnpacked : UnpackedFloat → Binary64
  | .notANumber => .nan
  | .infinity sign => .infinite (isNegative sign)
  | .zero sign => .finite (isNegative sign) 0 (-1074)
  | .finite sign significand exponent _ => .finite (isNegative sign) significand exponent

theorem toNat_unpackMantissa (b : BitVec 64) :
    (@unpackMantissa Format.binary64 b).toNat = b.toNat % 2 ^ 52 := by
  simp [unpackMantissa]

theorem toNat_unpackExponent (b : BitVec 64) :
    (@unpackExponent Format.binary64 b).toNat = b.toNat / 2 ^ 52 % 2 ^ 11 := by
  simp [unpackExponent, Nat.shiftRight_eq_div_pow]

theorem toNat_unpackSign (b : BitVec 64) :
    (@unpackSign Format.binary64 b).toNat = b.toNat / 2 ^ 63 % 2 := by
  simp [unpackSign, Nat.shiftRight_eq_div_pow]

theorem isNegative_ofBitVec (b : BitVec 1) : isNegative (Sign.ofBitVec b) = (b.toNat == 1) := by
  revert b
  decide

/-- A one in front of a significand of `width` digits. -/
theorem toNat_one_append {width : Nat} (b : BitVec width) :
    (1#1 ++ b).toNat = 2 ^ width + b.toNat := by
  rw [BitVec.toNat_append, ← Nat.shiftLeft_add_eq_or_of_lt b.isLt, Nat.shiftLeft_eq]
  simp

/-- **The bits of a double are taken apart** into its sign, exponent and significand. -/
theorem ofBits_eq (b : BitVec 64) :
    ofBits b.toNat = ofUnpacked (UnpackedFloat.unpack Format.binary64 b) := by
  have hexponent := toNat_unpackExponent b
  have hmantissa := toNat_unpackMantissa b
  have hsign : isNegative (Sign.ofBitVec (@unpackSign Format.binary64 b)) =
      (b.toNat / 2 ^ 63 % 2 == 1) := by
    rw [isNegative_ofBitVec, toNat_unpackSign]
  have hones : @unpackExponent Format.binary64 b = -1#11 ↔ b.toNat / 2 ^ 52 % 2 ^ 11 = 2047 := by
    rw [← hexponent, ← BitVec.toNat_inj]
    rfl
  have hzeros : @unpackExponent Format.binary64 b = 0#11 ↔ b.toNat / 2 ^ 52 % 2 ^ 11 = 0 := by
    rw [← hexponent, ← BitVec.toNat_inj]
    rfl
  have hzero : @unpackMantissa Format.binary64 b = 0#52 ↔ b.toNat % 2 ^ 52 = 0 := by
    rw [← hmantissa, ← BitVec.toNat_inj]
    rfl
  have hbias : (Format.binary64.exponentBias : Int) = 1023 := rfl
  simp only [ofBits, UnpackedFloat.unpack, Nat.pow_eq, hones, hzeros, hzero]
  split_ifs with hspecial hfraction hleast hfraction <;>
    simp only [ofUnpacked, hsign, hexponent, hmantissa, toNat_one_append, hbias]
  · rw [hfraction]
  · rw [hleast]
    rfl
  · rw [Int.ofNat_eq_natCast]
    congr 1

theorem ofFloat_eq (x : Float) : ofFloat x = ofUnpacked x.toModel.unpack :=
  ofBits_eq x.toModel.toBits.toBitVec

/-- A significand and an exponent as a double has them: the significand has 53 digits, and the first of
them is a one unless the exponent is the least. -/
structure Normalized (significand : Nat) (exponent : Int) : Prop where
  pos : 0 < significand
  lt : significand < 2 ^ 53
  le : -1074 ≤ exponent
  normal : exponent ≠ -1074 → 2 ^ 52 ≤ significand

theorem normalized_of_unpack {x : Float} {sign : Sign} {significand : Nat} {exponent : Int}
    {hpos : 0 < significand} (h : x.toModel.unpack = .finite sign significand exponent hpos) :
    Normalized significand exponent := by
  have heq := ofFloat_eq x
  rw [h] at heq
  simp only [ofFloat, ofBits, Nat.pow_eq, ofUnpacked] at heq
  have hlt := Nat.mod_lt x.toBits.toNat (show 2 ^ 52 > 0 by decide)
  split_ifs at heq with hspecial hfraction hleast
  · obtain ⟨-, rfl, rfl⟩ := Binary64.finite.inj heq
    exact ⟨hpos, by omega, le_rfl, fun hne => absurd rfl hne⟩
  · obtain ⟨-, rfl, rfl⟩ := Binary64.finite.inj heq
    rw [Int.ofNat_eq_natCast]
    exact ⟨hpos, by omega, by omega, fun _ => Nat.le_add_right _ _⟩

section Normalized

variable {m m' : Nat} {e e' : Int}

theorem Normalized.log2_le (h : Normalized m e) : m.log2 ≤ 52 :=
  Nat.lt_succ_iff.1 ((Nat.log2_lt h.pos.ne').2 h.lt)

theorem Normalized.mul_zpow_pos (h : Normalized m e) : (0 : ℝ) < m * 2 ^ e := by
  have hpos : (0 : ℝ) < m := by exact_mod_cast h.pos
  positivity

/-- **Normalized numbers are ordered by exponent** first. -/
theorem Normalized.mul_zpow_lt (h : Normalized m e) (h' : Normalized m' e')
    (hlt : e < e' ∨ e = e' ∧ m < m') : (m * 2 ^ e : ℝ) < m' * 2 ^ e' := by
  rcases hlt with hlt | ⟨rfl, hlt⟩
  · have hm : (m : ℝ) < 2 ^ 53 := by exact_mod_cast h.lt
    have hm' : (2 ^ 52 : ℝ) ≤ m' := by
      have hle := h.le
      exact_mod_cast h'.normal (by omega)
    calc (m * 2 ^ e : ℝ) < 2 ^ 53 * 2 ^ e := by gcongr
      _ = 2 ^ 52 * 2 ^ (e + 1) := by rw [zpow_add_one₀ two_ne_zero]; ring
      _ ≤ m' * 2 ^ e' := by gcongr; exacts [one_le_two, hlt]
  · gcongr

end Normalized

/-! ### The number of a rank -/

/-- The ranks of doubles. -/
inductive IsRank : Int ×ₗ Int ×ₗ Int → Prop where
  | bottom : IsRank (toLex (-2, toLex (0, 0)))
  | negative {m : Nat} {e : Int} (h : Normalized m e) : IsRank (toLex (-1, toLex (-e, -m)))
  | zero : IsRank (toLex (0, toLex (0, 0)))
  | positive {m : Nat} {e : Int} (h : Normalized m e) : IsRank (toLex (1, toLex (e, m)))
  | top : IsRank (toLex (2, toLex (0, 0)))

/-- The number of a rank. -/
noncomputable def value (rank : Int ×ₗ Int ×ₗ Int) : EReal :=
  let (kind, rest) := ofLex rank
  let (exponent, significand) := ofLex rest
  if kind = -2 then ⊥ else if kind = 2 then ⊤
  else ((significand * 2 ^ (kind * exponent) : ℝ) : EReal)

theorem value_bottom : value (toLex (-2, toLex (0, 0))) = ⊥ := by simp [value]

theorem value_negative (m : Nat) (e : Int) :
    value (toLex (-1, toLex (-e, -m))) = ((-(m * 2 ^ e) : ℝ) : EReal) := by simp [value]

theorem value_zero : value (toLex (0, toLex (0, 0))) = 0 := by simp [value]

theorem value_positive (m : Nat) (e : Int) :
    value (toLex (1, toLex (e, m))) = ((m * 2 ^ e : ℝ) : EReal) := by simp [value]

theorem value_top : value (toLex (2, toLex (0, 0))) = ⊤ := by simp [value]

/-- **Numbers are ordered as their ranks are.** -/
theorem strictMonoOn_value : StrictMonoOn value {rank | IsRank rank} := by
  intro r hr s hs hlt
  cases hr <;> cases hs
  case negative.negative m e h m' e' h' =>
    have hlt' : e' < e ∨ e' = e ∧ m' < m := by
      simp only [Prod.Lex.toLex_lt_toLex] at hlt
      omega
    rw [value_negative, value_negative, EReal.coe_lt_coe_iff]
    exact neg_lt_neg (h'.mul_zpow_lt h hlt')
  case positive.positive m e h m' e' h' =>
    have hlt' : e < e' ∨ e = e' ∧ m < m' := by
      simp only [Prod.Lex.toLex_lt_toLex] at hlt
      omega
    rw [value_positive, value_positive, EReal.coe_lt_coe_iff]
    exact h.mul_zpow_lt h' hlt'
  case negative.zero m e h =>
    rw [value_negative, value_zero, EReal.coe_neg', neg_lt_zero]
    exact h.mul_zpow_pos
  case negative.positive m e h m' e' h' =>
    rw [value_negative, value_positive, EReal.coe_lt_coe_iff]
    exact (neg_neg_of_pos h.mul_zpow_pos).trans h'.mul_zpow_pos
  case zero.positive m e h =>
    rw [value_positive, value_zero, EReal.coe_pos]
    exact h.mul_zpow_pos
  -- An infinity is on its side of every other number.
  case bottom.negative => rw [value_bottom, value_negative]; exact EReal.bot_lt_coe _
  case bottom.zero => rw [value_bottom, value_zero]; exact EReal.bot_lt_zero
  case bottom.positive => rw [value_bottom, value_positive]; exact EReal.bot_lt_coe _
  case bottom.top => rw [value_bottom, value_top]; exact bot_lt_top
  case negative.top => rw [value_negative, value_top]; exact EReal.coe_lt_top _
  case zero.top => rw [value_zero, value_top]; exact EReal.zero_lt_top
  case positive.top => rw [value_positive, value_top]; exact EReal.coe_lt_top _
  -- The others are not in this order.
  all_goals exact absurd hlt (by simp [Prod.Lex.toLex_lt_toLex])

theorem isRank_of_rankOf {x : Float} {rank : Int ×ₗ Int ×ₗ Int}
    (h : FloatOrder.rankOf x = some rank) : IsRank rank := by
  unfold FloatOrder.rankOf at h
  cases hx : x.toModel.unpack with
  | notANumber =>
    rw [hx] at h
    cases h
  | infinity sign =>
    rw [hx] at h
    cases sign <;> cases h
    · exact .bottom
    · exact .top
  | zero sign =>
    rw [hx] at h
    cases sign <;> cases h <;> exact .zero
  | finite sign m e hpos =>
    rw [hx] at h
    have hnormal := normalized_of_unpack hx
    cases sign <;> cases h
    · exact .negative hnormal
    · exact .positive hnormal

theorem number?_ofFloat (x : Float) : (ofFloat x).number? = (FloatOrder.rankOf x).map value := by
  rw [ofFloat_eq, FloatOrder.rankOf]
  cases x.toModel.unpack with
  | notANumber => rfl
  | infinity sign =>
    cases sign <;> simp [ofUnpacked, isNegative, number?, FloatOrder.rank, value_bottom, value_top]
  | zero sign => cases sign <;> simp [ofUnpacked, isNegative, number?, FloatOrder.rank, value_zero]
  | finite sign m e hpos =>
    cases sign <;>
      simp [ofUnpacked, isNegative, number?, FloatOrder.rank, value_negative, value_positive]

/-- **Doubles are compared as the numbers that they denote.** -/
theorem le_iff {p q : Float} :
    p ≤ q ↔ ∃ x y, (ofFloat p).number? = some x ∧ (ofFloat q).number? = some y ∧ x ≤ y := by
  simp only [FloatOrder.le_iff, number?_ofFloat, Option.map_eq_some_iff]
  constructor
  · rintro ⟨r, s, hr, hs, hle⟩
    exact ⟨_, _, ⟨r, hr, rfl⟩, ⟨s, hs, rfl⟩,
      (strictMonoOn_value.le_iff_le (isRank_of_rankOf hr) (isRank_of_rankOf hs)).2 hle⟩
  · rintro ⟨_, _, ⟨r, hr, rfl⟩, ⟨s, hs, rfl⟩, hle⟩
    exact ⟨r, s, hr, hs,
      (strictMonoOn_value.le_iff_le (isRank_of_rankOf hr) (isRank_of_rankOf hs)).1 hle⟩

/-- What is not a number denotes none. -/
theorem number?_eq_none_iff {p : Float} : (ofFloat p).number? = none ↔ p.isNaN = true := by
  rw [ofFloat_eq]
  show _ ↔ p.toModel.unpack.isNaN = true
  cases p.toModel.unpack <;> simp [ofUnpacked, number?, UnpackedFloat.isNaN]

theorem number?_zero : (ofFloat 0).number? = some 0 := by
  have hfields : ofFloat 0 = .finite false 0 (-1074) := by decide
  rw [hfields, number?]
  simp

theorem number?_one : (ofFloat 1).number? = some 1 := by
  have hfields : ofFloat 1 = .finite false (2 ^ 52) (-52) := by decide
  rw [hfields, number?]
  norm_num

end Telemetry.Numeral.Binary64
