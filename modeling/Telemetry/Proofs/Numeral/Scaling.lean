import Telemetry.Proofs.Numeral.ExactNumber

/-!
# Multiplying a double by `2 ^ 63`

The product of a double between zero and one with `2 ^ 63` is exact: the digits that rounding shifts out of
it are zeros, and what is left fits (`unpack_mul_scale`).  So the integer that it is cut to is the whole part
of the exact product (`toNat_toUInt64_mul_scale`).
-/

namespace Telemetry.Numeral.Binary64

open Float.Model
open Float.Model.UnpackedFloat

/-! ### Shifting digits out -/

/-- The digits that are shifted out of a multiple of that power of two are zeros. -/
theorem shiftRight_two_pow_mul (m k : Nat) :
    (⟨2 ^ k * m, false, false⟩ : ExtendedMantissa) >>> k = ⟨m, false, false⟩ := by
  show k.repeat ExtendedMantissa.shiftRightOne _ = _
  induction k generalizing m with
  | zero => simp [Nat.repeat]
  | succ k ih =>
    rw [Nat.repeat, pow_succ, Nat.mul_assoc, ih]
    simp [ExtendedMantissa.shiftRightOne]

theorem mantissa_shiftRight (digits : ExtendedMantissa) (k : Nat) :
    (digits >>> k).mantissa = digits.mantissa / 2 ^ k := by
  show (k.repeat ExtendedMantissa.shiftRightOne digits).mantissa = _
  induction k with
  | zero => simp [Nat.repeat]
  | succ k ih =>
    show (k.repeat ExtendedMantissa.shiftRightOne digits).mantissa / 2 = _
    rw [ih, Nat.div_div_eq_div_mul, pow_succ]

theorem log2_two_pow_mul {m : Nat} (hm : m ≠ 0) (k : Nat) : (2 ^ k * m).log2 = k + m.log2 := by
  induction k with
  | zero => simp
  | succ k ih =>
    rw [pow_succ', Nat.mul_assoc, Nat.log2_two_mul (by positivity), ih]
    omega

theorem shiftToTargetExponent_two_pow_mul {format : Format} {m k : Nat} {e : Int}
    (htarget : format.targetExponent (totalExponent (2 ^ k * m) e) = e + k) :
    shiftToTargetExponent format (2 ^ k * m) e .exact = (⟨m, false, false⟩, e + k) := by
  have hshift : (e + k - e).toNat = k := by omega
  rw [shiftToTargetExponent, shiftToExponent, htarget, hshift]
  exact congrArg (·, e + (k : Int)) (shiftRight_two_pow_mul m k)

/-- **Rounding is exact** where only zeros are shifted out. -/
theorem roundWithAccuracy_two_pow_mul {format : Format} (sign : Sign) {m k : Nat} {e : Int} (hm : 0 < m)
    (htarget : format.targetExponent (totalExponent (2 ^ k * m) e) = e + k) :
    roundWithAccuracy format sign (2 ^ k * m) e .exact = .finite sign m (e + k) hm := by
  have hagain : shiftToTargetExponent format m (e + k) .exact = (⟨m, false, false⟩, e + k) := by
    have hsame : totalExponent m (e + k) = totalExponent (2 ^ k * m) e := by
      rw [totalExponent, totalExponent, log2_two_pow_mul hm.ne']
      omega
    have hzero : format.targetExponent (totalExponent (2 ^ 0 * m) (e + k)) = e + k + (0 : Nat) := by
      rw [pow_zero, Nat.one_mul, hsame, htarget]
      omega
    simpa using shiftToTargetExponent_two_pow_mul hzero
  have hrounded : (⟨m, false, false⟩ : ExtendedMantissa).roundedMantissa = m := rfl
  simp only [roundWithAccuracy, shiftToTargetExponent_two_pow_mul htarget, hrounded, hagain, hm.ne',
    dite_false]

/-! ### Packing -/

theorem unpackSign_packComponents {format : Format} (sign : Sign)
    (exponent : BitVec format.exponentBits) (mantissa : BitVec format.mantissaBitsWithoutImplicit) :
    unpackSign (packComponents format sign exponent mantissa) = sign.toBitVec := by
  apply BitVec.eq_of_getLsbD_eq
  intro i hi
  obtain rfl : i = 0 := by omega
  simp [unpackSign, packComponents, BitVec.getLsbD_append, BitVec.getElem_append]

theorem pack_of_normal {m : Nat} {e : Int} (hlow : 2 ^ 52 ≤ m) (hhigh : m < 2 ^ 53)
    (he' : e ≤ 971) (hm : 0 < m) :
    UnpackedFloat.pack Format.binary64 (.finite .positive m e hm) =
      packComponents Format.binary64 .positive (BitVec.ofNat 11 (e + 1075).toNat) (BitVec.ofNat 52 m) := by
  have hlog : m.log2 + 1 = Format.binary64.mantissaBits := by
    rw [(Nat.log2_eq_iff hm.ne').2 ⟨hlow, hhigh⟩]
    rfl
  have hbiased : e + Format.binary64.exponentBias + (52 : Nat) = e + 1075 := by
    have hbias : (Format.binary64.exponentBias : Int) = 1023 := rfl
    omega
  simp only [UnpackedFloat.pack, hbiased]
  rw [if_neg (by omega), if_pos hlog]

theorem unpack_pack_of_normal {m : Nat} {e : Int} (hlow : 2 ^ 52 ≤ m) (hhigh : m < 2 ^ 53)
    (he : -1074 ≤ e) (he' : e ≤ 971) (hm : 0 < m) :
    (Float.Model.pack (.finite .positive m e hm)).unpack = .finite .positive m e hm := by
  have hexponent : (BitVec.ofNat 11 (e + 1075).toNat).toNat = (e + 1075).toNat := by
    rw [BitVec.toNat_ofNat, Nat.mod_eq_of_lt (by omega)]
  have hones : BitVec.ofNat 11 (e + 1075).toNat ≠ -1#11 := by
    rw [ne_eq, ← BitVec.toNat_inj, hexponent]
    show ¬(e + 1075).toNat = 2047
    omega
  have hzeros : BitVec.ofNat 11 (e + 1075).toNat ≠ 0#11 := by
    rw [ne_eq, ← BitVec.toNat_inj, hexponent]
    show ¬(e + 1075).toNat = 0
    omega
  have hmantissa : (1#1 ++ BitVec.ofNat 52 m).toNat = m := by
    rw [toNat_one_append, BitVec.toNat_ofNat]
    omega
  have hbias : (Format.binary64.exponentBias : Int) = 1023 := rfl
  show UnpackedFloat.unpack Format.binary64 (UnpackedFloat.pack Format.binary64 _) = _
  rw [pack_of_normal hlow hhigh he' hm]
  simp only [UnpackedFloat.unpack, unpackMantissa_packComponents, unpackExponent_packComponents,
    unpackSign_packComponents]
  rw [if_neg hones, if_neg hzeros]
  congr 1
  rw [hexponent, hbias]
  omega

/-! ### Multiplying by `2 ^ 63` -/

/-- The double `2 ^ 63`. -/
def scale : Float := ((1 : UInt64) <<< 63).toFloat

theorem unpack_scale : ∃ h, scale.toModel.unpack = .finite .positive (2 ^ 52) 11 h := by
  refine ⟨by decide, ?_⟩
  rfl

/-- The significand `m` with zeros behind it, up to 53 digits. -/
def filled (m : Nat) : Nat := 2 ^ (52 - m.log2) * m

theorem le_filled {m : Nat} (hm : m ≠ 0) (hlog : m.log2 ≤ 52) : 2 ^ 52 ≤ filled m := calc
  2 ^ 52 = 2 ^ (52 - m.log2) * 2 ^ m.log2 := by rw [← pow_add, Nat.sub_add_cancel hlog]
  _ ≤ filled m := Nat.mul_le_mul_left _ (Nat.log2_self_le hm)

theorem filled_lt {m : Nat} (hlog : m.log2 ≤ 52) : filled m < 2 ^ 53 := calc
  filled m < 2 ^ (52 - m.log2) * 2 ^ (m.log2 + 1) :=
    Nat.mul_lt_mul_of_pos_left Nat.lt_log2_self (by positivity)
  _ = 2 ^ 53 := by
    rw [← pow_add]
    congr 1
    omega

/-- The product of the significands, of which the last digits are shifted out. -/
theorem two_pow_mul_filled {m : Nat} (hlog : m.log2 ≤ 52) : 2 ^ m.log2 * filled m = m * 2 ^ 52 := by
  rw [filled, ← Nat.mul_assoc, ← pow_add, Nat.add_sub_cancel' hlog, Nat.mul_comm]

/-- **Multiplying by `2 ^ 63` is exact**: the significand is filled up with zeros. -/
theorem unpack_mul_scale {p : Float} {m : Nat} {e : Int} {hm : 0 < m}
    (hp : p.toModel.unpack = .finite .positive m e hm) (hsize : e + m.log2 ≤ 0) :
    ∃ h, (p * scale).toModel.unpack = .finite .positive (filled m) (e + 11 + m.log2) h := by
  have hnormal := normalized_of_unpack hp
  have hlog := hnormal.log2_le
  have he := hnormal.le
  have hlow := le_filled hm.ne' hlog
  have hhigh := filled_lt hlog
  have hpos : 0 < filled m := by omega
  have htarget : Format.binary64.targetExponent (totalExponent (2 ^ m.log2 * filled m) (e + 11)) =
      e + 11 + m.log2 := by
    have hdigits : (filled m).log2 = 52 := (Nat.log2_eq_iff hpos.ne').2 ⟨hlow, hhigh⟩
    have hmin : Format.binary64.minExponent = -1074 := rfl
    have hbits : (Format.binary64.mantissaBits : Int) = 53 := rfl
    rw [totalExponent, log2_two_pow_mul hpos.ne', hdigits, Format.targetExponent, hmin, hbits]
    omega
  obtain ⟨hscale, hunpack⟩ := unpack_scale
  refine ⟨hpos, ?_⟩
  show (Float.Model.pack (UnpackedFloat.mul Format.binary64 p.toModel.unpack
    scale.toModel.unpack)).unpack = _
  rw [hp, hunpack, UnpackedFloat.mul, ← two_pow_mul_filled hlog,
    roundWithAccuracy_two_pow_mul _ hpos htarget]
  exact unpack_pack_of_normal hlow hhigh (by omega) (by omega) hpos

/-! ### Whole parts -/

theorem roundToInt_positive (m : Nat) (e : Int) : roundToInt .positive m e = wholePart m e := by
  have hdigits (n : Nat) : (ExtendedMantissa.ofMantissaAndAccuracy n .exact).mantissa = n := rfl
  have hshift : (0 - (e - e.toNat)).toNat = (-e).toNat := by omega
  simp only [roundToInt, decreaseExponent, shiftToExponent, Sign.apply, mantissa_shiftRight, hdigits,
    Int.sub_zero, hshift, wholePart, Nat.pow_eq, Nat.shiftLeft_eq]

/-- A positive double is truncated to its whole part. -/
theorem toNat_toUInt64 {p : Float} {m : Nat} {e : Int} {hm : 0 < m}
    (hp : p.toModel.unpack = .finite .positive m e hm) (hlt : wholePart m e < 2 ^ 64) :
    p.toUInt64.toNat = wholePart m e := by
  have hsize : wholePart m e < UInt64.size := hlt
  show (UnpackedFloat.toUInt64 p.toModel.unpack).toNat = _
  rw [hp, UnpackedFloat.toUInt64, UnpackedFloat.toInt, roundToInt_positive, Int.toNat_natCast,
    UInt64.ofNatClamp, dif_pos hsize]
  rfl

theorem wholePart_eq_floor (m : Nat) (e : Int) : wholePart m e = ⌊(m * 2 ^ e : ℝ)⌋₊ := by
  have hdiv : (m * 2 ^ e : ℝ) = ((m * 2 ^ e.toNat : ℕ) : ℝ) / ((2 ^ (-e).toNat : ℕ) : ℝ) := by
    have hsplit : e = (e.toNat : Int) - (-e).toNat := by omega
    conv_lhs => rw [hsplit, zpow_sub₀ two_ne_zero, zpow_natCast, zpow_natCast]
    push_cast
    ring
  rw [hdiv, Nat.floor_div_eq_div, wholePart, Nat.pow_eq, Nat.pow_eq]

/-- What is below one has no digit in front of the point. -/
theorem add_log2_le_of_lt_one {m : Nat} {e : Int} (hm : 0 < m) (hlt : (m * 2 ^ e : ℝ) < 1) :
    e + m.log2 ≤ 0 := by
  have hlow : (2 ^ m.log2 : ℝ) ≤ m := by exact_mod_cast Nat.log2_self_le hm.ne'
  have hpow : (2 : ℝ) ^ (e + m.log2) < 2 ^ (0 : Int) := calc
    (2 : ℝ) ^ (e + m.log2) = 2 ^ m.log2 * 2 ^ e := by
      rw [zpow_add₀ two_ne_zero, zpow_natCast, mul_comm]
    _ ≤ m * 2 ^ e := by gcongr
    _ < 2 ^ (0 : Int) := by rwa [zpow_zero]
  exact ((zpow_lt_zpow_iff_right₀ one_lt_two).1 hpow).le

/-- The product is `2 ^ 63` times as large. -/
theorem filled_mul_zpow {m : Nat} (e : Int) (hlog : m.log2 ≤ 52) :
    (filled m * 2 ^ (e + 11 + m.log2) : ℝ) = m * 2 ^ e * 2 ^ 63 := by
  have hfilled : (2 ^ m.log2 * filled m : ℝ) = m * 2 ^ 52 := by
    exact_mod_cast two_pow_mul_filled hlog
  have hpow : (2 : ℝ) ^ (e + 11 + m.log2) = 2 ^ e * 2 ^ 11 * 2 ^ m.log2 := by
    rw [zpow_add₀ two_ne_zero, zpow_add₀ two_ne_zero, zpow_natCast]
    norm_cast
  rw [hpow]
  linear_combination (2 ^ e * 2 ^ 11 : ℝ) * hfilled

/-- **A double between zero and one is scaled without error**, and cut to the whole part of its product with
`2 ^ 63`. -/
theorem toNat_toUInt64_mul_scale {p : Float} {x : ℝ} (hp : (ofFloat p).number? = some (x : EReal))
    (hpos : 0 < x) (hlt : x < 1) : (p * scale).toUInt64.toNat = ⌊x * 2 ^ 63⌋₊ := by
  rw [ofFloat_eq] at hp
  cases hunpack : p.toModel.unpack with
  | notANumber => simp [hunpack, ofUnpacked, number?] at hp
  | infinity sign => cases sign <;> simp [hunpack, ofUnpacked, number?, isNegative] at hp
  | zero sign =>
    rw [hunpack, ofUnpacked, number?, Option.some.injEq, EReal.coe_eq_coe_iff, Nat.cast_zero, zero_mul,
      mul_zero] at hp
    exact absurd hp hpos.ne
  | finite sign m e hm =>
    rw [hunpack, ofUnpacked, number?, Option.some.injEq, EReal.coe_eq_coe_iff] at hp
    have hnormal := normalized_of_unpack hunpack
    cases sign with
    | negative =>
      have hsize := hnormal.mul_zpow_pos
      rw [isNegative, if_pos rfl] at hp
      linarith
    | positive =>
      rw [isNegative, if_neg Bool.false_ne_true, one_mul] at hp
      subst hp
      have hbound : ⌊(m * 2 ^ e * 2 ^ 63 : ℝ)⌋₊ < 2 ^ 64 := by
        rw [Nat.floor_lt (by positivity)]
        push_cast
        linarith
      obtain ⟨hpos', hproduct⟩ := unpack_mul_scale hunpack (add_log2_le_of_lt_one hm hlt)
      rw [← filled_mul_zpow e hnormal.log2_le, ← wholePart_eq_floor] at hbound ⊢
      exact toNat_toUInt64 hproduct hbound

end Telemetry.Numeral.Binary64
