/-!
# Hexadecimal numerals

Numbers as lowercase hexadecimal digits: `hexDigits` writes no leading zero, `hexPadded` a given
number of digits, and `ofHex?` reads digits back. `ofHex?_hexPadded` says that padded digits spell
the number they were written for, as far as they reach.
-/

namespace Telemetry.Numeral

/-- The value of a lowercase hexadecimal digit. -/
def hexValue? (c : Char) : Option Nat :=
  if '0' ≤ c ∧ c ≤ '9' then some (c.toNat - 48)
  else if 'a' ≤ c ∧ c ≤ 'f' then some (c.toNat - 87)
  else none

/-- The digits of `n` without leading zeros; zero is one digit. -/
def hexDigits (n : Nat) : List Char := Nat.toDigits 16 n

/-- The last `width` digits of `n`. -/
def hexPadded : Nat → Nat → List Char
  | 0, _ => []
  | width + 1, n => hexPadded width (n / 16) ++ [Nat.digitChar (n % 16)]

/-- Reads digits onto the number `n` read so far. -/
def readHex (n : Nat) : List Char → Option Nat
  | [] => some n
  | c :: rest =>
    match hexValue? c with
    | some d => readHex (16 * n + d) rest
    | none => none

/-- The number that the digits `cs` spell; `none` if one of them is no digit. -/
def ofHex? (cs : List Char) : Option Nat := readHex 0 cs

@[simp] theorem length_hexPadded (width n : Nat) : (hexPadded width n).length = width := by
  induction width generalizing n with
  | zero => rfl
  | succ width ih => simp [hexPadded, ih]

theorem hexValue?_digitChar {d : Nat} (h : d < 16) : hexValue? (Nat.digitChar d) = some d := by
  have : ∀ d : Fin 16, hexValue? (Nat.digitChar d.val) = some d.val := by decide
  exact this ⟨d, h⟩

theorem readHex_append (n : Nat) (cs ds : List Char) :
    readHex n (cs ++ ds) = (readHex n cs).bind (readHex · ds) := by
  induction cs generalizing n with
  | nil => rfl
  | cons c rest ih =>
    simp only [List.cons_append, readHex]
    cases hexValue? c with
    | none => rfl
    | some d => exact ih _

/-- **Padded digits read back**, as far as they reach. -/
theorem ofHex?_hexPadded (width n : Nat) : ofHex? (hexPadded width n) = some (n % Nat.pow 16 width) := by
  unfold ofHex?
  induction width generalizing n with
  | zero => simp [hexPadded, readHex, Nat.mod_one]
  | succ width ih =>
    have hd : n % 16 < 16 := Nat.mod_lt _ (by omega)
    rw [hexPadded, readHex_append, ih]
    simp only [Option.bind_some, readHex, hexValue?_digitChar hd]
    have hpow : Nat.pow 16 (width + 1) = 16 * Nat.pow 16 width := Nat.pow_succ'
    rw [hpow, Nat.mod_mul]
    congr 1
    omega

end Telemetry.Numeral
