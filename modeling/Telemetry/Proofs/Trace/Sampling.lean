import Telemetry.Proofs.Numeral.Scaling
import Telemetry.Trace.Sampler

/-!
# Nested sampling

A trace has a least rate at which it is kept, which depends on its low 64 bits only and grows with them
(`isSampledAt_iff`).  So what is kept at a rate is kept at every larger one, and with it every trace whose
low bits are not larger.  `nested_probability` says this of the sampler and adds how it decides, in exact
numbers and in doubles.
-/

namespace Telemetry

open Numeral Numeral.Binary64

namespace Numeral

/-- The last bytes of a number stand behind the bytes of what is left of it. -/
theorem toBytes_add (first last n : Nat) :
    toBytes (first + last) n = toBytes first (n / 256 ^ last) ++ toBytes last n := by
  induction last generalizing n with
  | zero => simp [toBytes]
  | succ last ih =>
    rw [← Nat.add_assoc, toBytes, toBytes, ih, Nat.div_div_eq_div_mul, pow_succ', List.append_assoc]

end Numeral

namespace TraceId

/-- The low eight bytes of the identifier, as a number. -/
def low (id : TraceId) : Nat := Numeral.ofBytes (id.toBytes.drop 8)

theorem low_eq (id : TraceId) : id.low = id.toNat % 2 ^ 64 := by
  rw [low, toBytes, Numeral.toBytes_add 8 8, List.drop_left' (Numeral.length_toBytes _ _),
    Numeral.ofBytes_toBytes]
  rfl

/-- The least rate at which the trace is kept. -/
noncomputable def leastRate (id : TraceId) : ℝ := (id.low / 2 + 1 : ℕ) / (2 ^ 63 : ℕ)

theorem leastRate_pos (id : TraceId) : 0 < id.leastRate := by
  unfold leastRate
  positivity

theorem leastRate_le_one (id : TraceId) : id.leastRate ≤ 1 := by
  have hlow : id.low / 2 + 1 ≤ 2 ^ 63 := by
    rw [low_eq]
    omega
  rw [leastRate, div_le_one (by positivity)]
  exact_mod_cast hlow

theorem leastRate_le_iff {id : TraceId} {x : ℝ} (hx : 0 ≤ x) :
    id.leastRate ≤ x ↔ id.low / 2 < ⌊x * 2 ^ 63⌋₊ := by
  rw [leastRate, Nat.cast_pow, Nat.cast_ofNat, div_le_iff₀ (by positivity),
    ← Nat.le_floor_iff (by positivity)]
  exact Iff.rfl

theorem leastRate_mono {t u : TraceId} (h : u.low ≤ t.low) : u.leastRate ≤ t.leastRate := by
  have hhalf : u.low / 2 + 1 ≤ t.low / 2 + 1 := by omega
  unfold leastRate
  gcongr

/-- **A trace is kept at a rate** exactly if the rate is not below its least one. -/
theorem isSampledAt_iff {id : TraceId} {p : Float} :
    id.isSampledAt p = true ↔
      ∃ x, (ofFloat p).number? = some x ∧ (id.leastRate : EReal) ≤ x := by
  unfold isSampledAt
  cases ofFloat p with
  | nan => simp [Binary64.number?]
  | infinite negative => cases negative <;> simp [Binary64.number?]
  | finite negative m e =>
    have hsize : (0 : ℝ) ≤ m * 2 ^ e := by positivity
    simp only [Binary64.number?, Option.some.injEq, exists_eq_left', EReal.coe_le_coe_iff]
    cases negative with
    | true =>
      refine iff_of_false Bool.false_ne_true fun hle => ?_
      have hpos := id.leastRate_pos
      rw [if_pos rfl] at hle
      linarith
    | false =>
      have hscale : (m * 2 ^ (e + 63) : ℝ) = m * 2 ^ e * 2 ^ 63 := by
        rw [zpow_add₀ two_ne_zero, ← mul_assoc]
        norm_cast
      rw [if_neg Bool.false_ne_true, one_mul, leastRate_le_iff hsize, ← hscale,
        ← Binary64.wholePart_eq_floor, low_eq]
      simp

/-! ### The decision -/

/-- **The decision in exact numbers**: a rate of one or more keeps the trace, one that is not positive does
not, and one between them does if the upper 63 of the low 64 bits are below the whole part of its product
with `2 ^ 63`. -/
theorem isSampledAt_iff_floor {id : TraceId} {p : Float} :
    id.isSampledAt p = true ↔ ∃ x, (ofFloat p).number? = some x ∧
      (1 ≤ x ∨ 0 < x ∧ id.low / 2 < ⌊x.toReal * 2 ^ 63⌋₊) := by
  have hone : (1 : EReal) = ((1 : ℝ) : EReal) := rfl
  rw [isSampledAt_iff, hone]
  refine exists_congr fun x => and_congr_right fun _ => ?_
  induction x with
  | bot =>
    refine iff_of_false (not_le.2 (EReal.bot_lt_coe _)) ?_
    rintro (hle | ⟨hlt, -⟩)
    · exact not_le.2 (EReal.bot_lt_coe _) hle
    · exact not_lt_bot hlt
  | top => exact iff_of_true le_top (.inl le_top)
  | coe x =>
    rw [EReal.coe_le_coe_iff, EReal.coe_le_coe_iff, EReal.toReal_coe, EReal.coe_pos]
    constructor
    · intro hle
      have hpos := id.leastRate_pos.trans_le hle
      exact .inr ⟨hpos, (leastRate_le_iff hpos.le).1 hle⟩
    · rintro (hle | ⟨hpos, hlt⟩)
      · exact id.leastRate_le_one.trans hle
      · exact (leastRate_le_iff hpos.le).2 hlt

/-- The decision as it is computed in doubles. -/
def isSampledInDoubles (p : Float) (low : Nat) : Bool :=
  if 1 ≤ p then true
  else if p.isNaN || p ≤ 0 then false
  else low / 2 < (p * scale).toUInt64.toNat

/-- **The decision in doubles** is the one in exact numbers. -/
theorem isSampledAt_eq_isSampledInDoubles (id : TraceId) (p : Float) :
    id.isSampledAt p = isSampledInDoubles p id.low := by
  rw [Bool.eq_iff_iff, isSampledAt_iff_floor]
  unfold isSampledInDoubles
  cases hx : (ofFloat p).number? with
  | none =>
    have hge : ¬1 ≤ p := by simp [Binary64.le_iff, hx]
    rw [if_neg hge, Binary64.number?_eq_none_iff.1 hx]
    simp
  | some x =>
    have hnan : p.isNaN = false := by
      rw [← Bool.not_eq_true, ← Binary64.number?_eq_none_iff, hx]
      exact Option.some_ne_none x
    have hge : 1 ≤ p ↔ 1 ≤ x := by
      simp [Binary64.le_iff, Binary64.number?_one, hx]
    have hle : p ≤ 0 ↔ x ≤ 0 := by
      simp [Binary64.le_iff, Binary64.number?_zero, hx]
    simp only [Option.some.injEq, exists_eq_left', hge, hle, hnan, Bool.false_or, decide_eq_true_eq]
    by_cases hone : 1 ≤ x
    · simp [hone]
    by_cases hzero : x ≤ 0
    · simp [hone, hzero]
    -- What is left denotes a real number.
    have hpos : 0 < x := not_le.1 hzero
    lift x to ℝ using ⟨ne_top_of_lt (not_le.1 hone), ne_bot_of_gt hpos⟩
    have hlt : x < 1 := EReal.coe_lt_coe_iff.1 (not_le.1 hone)
    rw [Binary64.toNat_toUInt64_mul_scale hx (EReal.coe_pos.1 hpos) hlt]
    simp [hone, hzero, hpos]

/-- **What is kept at a rate is kept at a larger one**, and with it what has smaller low bits. -/
theorem isSampledAt_mono {t u : TraceId} {p q : Float} (hle : p ≤ q) (hlow : u.low ≤ t.low)
    (h : t.isSampledAt p = true) : u.isSampledAt q = true := by
  obtain ⟨x, y, hx, hy, hxy⟩ := Binary64.le_iff.1 hle
  obtain ⟨x', hx', hrate⟩ := isSampledAt_iff.1 h
  obtain rfl : x = x' := Option.some.inj (hx.symm.trans hx')
  have hleast : (u.leastRate : EReal) ≤ t.leastRate := EReal.coe_le_coe_iff.2 (leastRate_mono hlow)
  exact isSampledAt_iff.2 ⟨y, hy, hleast.trans (hrate.trans hxy)⟩

end TraceId

namespace Sampler

/-- What the rates `p` and `q` mean for the traces that are kept. -/
structure Nested (p q : Float) : Prop where
  /-- Rates are compared as the exact numbers that they denote. -/
  compares : p ≤ q ↔ ∃ x y, (ofFloat p).number? = some x ∧ (ofFloat q).number? = some y ∧ x ≤ y
  /-- In exact numbers a rate of one or more keeps a trace, and a rate between zero and one does if half of
  the low eight bytes is below the whole part of its product with `2 ^ 63`. -/
  decides (t : TraceId) (span : SpanId) (name : String) :
    (probability p).keeps t span name = true ↔
      ∃ x, (ofFloat p).number? = some x ∧ (1 ≤ x ∨ 0 < x ∧ t.low / 2 < ⌊x.toReal * 2 ^ 63⌋₊)
  /-- The decision is computed in doubles from the low eight bytes. -/
  computes (t : TraceId) (span : SpanId) (name : String) :
    (probability p).keeps t span name = TraceId.isSampledInDoubles p t.low
  /-- A larger rate keeps what is kept, and what has smaller low bytes. -/
  keeps (hle : p ≤ q) (t u : TraceId) (hlow : u.low ≤ t.low) (span span' : SpanId)
    (name name' : String) :
    (probability p).keeps t span name = true → (probability q).keeps u span' name' = true
  /-- Traces with the same low bytes are kept or not together. -/
  agrees (t u : TraceId) (hlow : t.low = u.low) (span span' : SpanId) (name name' : String) :
    (probability p).keeps t span name = (probability p).keeps u span' name'
  /-- The traces kept at the one rate are among those kept at the other. -/
  subset (hle : p ≤ q) (span span' : SpanId) (name name' : String) :
    {t | (probability p).keeps t span name = true} ⊆ {t | (probability q).keeps t span' name' = true}

/-- **Sampling decisions are nested.** -/
theorem nested_probability (p q : Float) : Nested p q where
  compares := Binary64.le_iff
  decides _ _ _ := TraceId.isSampledAt_iff_floor
  computes t _ _ := t.isSampledAt_eq_isSampledInDoubles p
  keeps hle _ _ hlow _ _ _ _ := TraceId.isSampledAt_mono hle hlow
  agrees t u hlow _ _ _ _ := by
    show t.isSampledAt p = u.isSampledAt p
    rw [TraceId.isSampledAt_eq_isSampledInDoubles, TraceId.isSampledAt_eq_isSampledInDoubles, hlow]
  subset hle _ _ _ _ _ := TraceId.isSampledAt_mono hle le_rfl

/-- A trace that is kept at a quarter, and another one that is kept at a rate above one. -/
theorem nested_probability_quarter :
    (0.25 : Float) ≤ 1.5 ∧ (TraceId.ofNat 7).low ≤ (TraceId.ofNat (2 ^ 64 + 2 ^ 61)).low ∧
      (probability 0.25).keeps (.ofNat (2 ^ 64 + 2 ^ 61)) (.ofNat 1) "a" = true ∧
      (probability 1.5).keeps (.ofNat 7) (.ofNat 2) "b" = true := by
  have hle : (0.25 : Float) ≤ 1.5 := by decide
  have hlow : (TraceId.ofNat 7).low ≤ (TraceId.ofNat (2 ^ 64 + 2 ^ 61)).low := by decide
  have hkeeps : (probability 0.25).keeps (.ofNat (2 ^ 64 + 2 ^ 61)) (.ofNat 1) "a" = true := by decide
  exact ⟨hle, hlow, hkeeps, (nested_probability 0.25 1.5).keeps hle _ _ hlow _ _ _ _ hkeeps⟩

end Sampler

end Telemetry
