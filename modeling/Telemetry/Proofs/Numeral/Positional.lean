import Mathlib.Data.Nat.Digits.Defs
import Telemetry.Proofs.Trace.Id

/-!
# Numbers that digits spell

The number that decimal or hexadecimal digits spell, with any number of leading zeros and with letters of
either case.  It says without a reader what the readers of numerals find: `ofHex?_map_toLower_eq_some_iff`
for hexadecimal digits and `ofDigitChars_eq_numberOf` for decimal ones.
-/

namespace Telemetry.Numeral

/-! ### Digits -/

/-- The character is a decimal digit. -/
def IsDecimalDigit (c : Char) : Prop := '0' ≤ c ∧ c ≤ '9'

/-- The character is a hexadecimal digit, in either case. -/
def IsHexDigitOfEitherCase (c : Char) : Prop :=
  IsDecimalDigit c ∨ 'a' ≤ c ∧ c ≤ 'f' ∨ 'A' ≤ c ∧ c ≤ 'F'

/-- The value of a digit. -/
def digitValue (c : Char) : Nat :=
  if c ≤ '9' then c.toNat - 48 else if c ≤ 'F' then c.toNat - 55 else c.toNat - 87

instance (c : Char) : Decidable (IsDecimalDigit c) := inferInstanceAs (Decidable (_ ∧ _))

instance (c : Char) : Decidable (IsHexDigitOfEitherCase c) := inferInstanceAs (Decidable (_ ∨ _))

theorem isDigit_iff {c : Char} : c.isDigit = true ↔ IsDecimalDigit c := by
  rw [Char.isDigit, Bool.and_eq_true, decide_eq_true_eq, decide_eq_true_eq]
  exact Iff.rfl

/-- The order of characters is that of their numbers. -/
theorem char_le_iff {c d : Char} : c ≤ d ↔ c.toNat ≤ d.toNat := UInt32.le_iff_toNat_le

theorem isDecimalDigit_iff {c : Char} : IsDecimalDigit c ↔ 48 ≤ c.toNat ∧ c.toNat ≤ 57 := by
  rw [IsDecimalDigit, char_le_iff, char_le_iff]
  exact Iff.rfl

theorem isHexDigitOfEitherCase_iff {c : Char} :
    IsHexDigitOfEitherCase c ↔ 48 ≤ c.toNat ∧ c.toNat ≤ 57 ∨ 97 ≤ c.toNat ∧ c.toNat ≤ 102 ∨
      65 ≤ c.toNat ∧ c.toNat ≤ 70 := by
  rw [IsHexDigitOfEitherCase, isDecimalDigit_iff]
  simp only [char_le_iff]
  exact Iff.rfl

theorem digitValue_eq {c : Char} : digitValue c =
    if c.toNat ≤ 57 then c.toNat - 48 else if c.toNat ≤ 70 then c.toNat - 55 else c.toNat - 87 := by
  simp only [digitValue, char_le_iff]
  rfl

/-- Zero is the only digit with the value zero. -/
theorem digitValue_eq_zero_iff {c : Char} (h : IsHexDigitOfEitherCase c) :
    digitValue c = 0 ↔ c = '0' := by
  constructor
  · intro hvalue
    rw [isHexDigitOfEitherCase_iff] at h
    rw [digitValue_eq] at hvalue
    apply Char.toNat_inj.1
    show c.toNat = 48
    split_ifs at hvalue <;> omega
  · rintro rfl
    rfl

theorem toNat_toLower (c : Char) :
    c.toLower.toNat = if 65 ≤ c.toNat ∧ c.toNat ≤ 90 then c.toNat + 32 else c.toNat := by
  unfold Char.toLower
  split
  next h =>
    have hrange : 65 ≤ c.toNat ∧ c.toNat ≤ 90 :=
      ⟨UInt32.le_iff_toNat_le.1 h.1, UInt32.le_iff_toNat_le.1 h.2⟩
    rw [if_pos hrange]
    show (c.val + 32).toNat = c.val.toNat + 32
    have hval : c.val.toNat ≤ 90 := hrange.2
    rw [UInt32.toNat_add, show (32 : UInt32).toNat = 32 from rfl]
    omega
  next h =>
    rw [if_neg]
    rintro ⟨hlow, hhigh⟩
    exact h ⟨UInt32.le_iff_toNat_le.2 hlow, UInt32.le_iff_toNat_le.2 hhigh⟩

theorem hexValue?_eq {c : Char} : hexValue? c =
    if 48 ≤ c.toNat ∧ c.toNat ≤ 57 then some (c.toNat - 48)
    else if 97 ≤ c.toNat ∧ c.toNat ≤ 102 then some (c.toNat - 87) else none := by
  simp only [hexValue?, char_le_iff]
  rfl

theorem hexValue?_toLower_eq_some_iff {c : Char} {d : Nat} :
    hexValue? c.toLower = some d ↔ IsHexDigitOfEitherCase c ∧ d = digitValue c := by
  have hlower := toNat_toLower c
  rw [isHexDigitOfEitherCase_iff, digitValue_eq, hexValue?_eq]
  split_ifs at hlower ⊢ <;> simp only [Option.some.injEq, false_iff] <;> omega

/-! ### Numbers -/

/-- The number that the digits `cs` spell in the base `base`. -/
def numberOf (base : Nat) (cs : List Char) : Nat := Nat.ofDigits base (cs.reverse.map digitValue)

@[simp] theorem numberOf_nil (base : Nat) : numberOf base [] = 0 := rfl

/-- A further digit moves the others up by one place. -/
theorem numberOf_concat (base : Nat) (cs : List Char) (c : Char) :
    numberOf base (cs ++ [c]) = base * numberOf base cs + digitValue c := by
  rw [numberOf, List.reverse_append, List.reverse_singleton, List.singleton_append, List.map_cons,
    Nat.ofDigits_cons]
  exact Nat.add_comm _ _

/-- Digits spell zero exactly if all of them are zeros. -/
theorem numberOf_eq_zero_iff {base : Nat} (hbase : base ≠ 0) {cs : List Char}
    (h : ∀ c ∈ cs, IsHexDigitOfEitherCase c) : numberOf base cs = 0 ↔ ∀ c ∈ cs, c = '0' := by
  induction cs using List.reverseRecOn with
  | nil => simp
  | append_singleton cs c ih =>
    simp only [List.forall_mem_append, List.forall_mem_singleton] at h ⊢
    rw [numberOf_concat, Nat.add_eq_zero_iff, Nat.mul_eq_zero, ih h.1, digitValue_eq_zero_iff h.2]
    simp [hbase]

/-- **Hexadecimal digits of either case** are read as the number that they spell. -/
theorem ofHex?_map_toLower_eq_some_iff {cs : List Char} {n : Nat} :
    ofHex? (cs.map Char.toLower) = some n ↔
      (∀ c ∈ cs, IsHexDigitOfEitherCase c) ∧ n = numberOf 16 cs := by
  induction cs using List.reverseRecOn generalizing n with
  | nil => simp [ofHex?, readHex, eq_comm]
  | append_singleton cs c ih =>
    have hstep : ofHex? ((cs ++ [c]).map Char.toLower) = some n ↔
        ∃ m d, ofHex? (cs.map Char.toLower) = some m ∧ hexValue? c.toLower = some d ∧
          n = 16 * m + d := by
      rw [List.map_append, List.map_singleton, ofHex?, readHex_append, Option.bind_eq_some_iff]
      cases hc : hexValue? c.toLower with
      | none => simp [readHex, hc]
      | some d => simp [ofHex?, readHex, hc, eq_comm]
    rw [hstep]
    simp only [ih, hexValue?_toLower_eq_some_iff, numberOf_concat, List.forall_mem_append,
      List.forall_mem_singleton]
    constructor
    · rintro ⟨_, _, ⟨hcs, rfl⟩, ⟨hc, rfl⟩, rfl⟩
      exact ⟨⟨hcs, hc⟩, rfl⟩
    · rintro ⟨⟨hcs, hc⟩, rfl⟩
      exact ⟨_, _, ⟨hcs, rfl⟩, ⟨hc, rfl⟩, rfl⟩

/-- **Decimal digits** are read as the number that they spell. -/
theorem ofDigitChars_eq_numberOf {cs : List Char} (h : ∀ c ∈ cs, IsDecimalDigit c) :
    Nat.ofDigitChars 10 cs 0 = numberOf 10 cs := by
  induction cs using List.reverseRecOn with
  | nil => rfl
  | append_singleton cs c ih =>
    simp only [List.forall_mem_append, List.forall_mem_singleton] at h
    have hvalue : digitValue c = c.toNat - 48 := if_pos h.2.2
    rw [Nat.ofDigitChars_append, ih h.1, numberOf_concat, hvalue]
    rfl

end Telemetry.Numeral
