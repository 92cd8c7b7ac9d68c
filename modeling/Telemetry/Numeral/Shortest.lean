import Telemetry.Numeral.Binary64

/-!
# Shortest decimal text of a double

A double is written with the fewest digits that still read back as the same double. The numbers that
read back as `m · 2 ^ q` form an interval around it, which holds its ends exactly if `m` is even. The
digits are found on coarser and finer decimal grids in turn: on each grid only the two neighbours of the
number can be nearest to it, and the first grid with a neighbour in the interval is taken.

The text is positional at every size, without an exponent and without a decimal point behind a whole
number.
-/

namespace Telemetry.Numeral

/-- A positive number and the numbers that read back as it, as fractions with one denominator. -/
structure Reading where
  /-- Numerator of the number itself. -/
  value : Nat
  /-- Numerator of the lower end. -/
  low : Nat
  /-- Numerator of the upper end. -/
  high : Nat
  /-- The common denominator. -/
  denominator : Nat
  /-- Whether the ends themselves read back as the number. -/
  closed : Bool

/-- The numbers that read back as the double `m · 2 ^ q`. Below a power of two the doubles are half as
far apart, except at the least exponent. -/
def Reading.ofDouble (m : Nat) (q : Int) : Reading where
  value := 4 * m * Nat.pow 2 q.toNat
  low := (4 * m - if m = Nat.pow 2 52 ∧ q ≠ -1074 then 1 else 2) * Nat.pow 2 q.toNat
  high := (4 * m + 2) * Nat.pow 2 q.toNat
  denominator := 4 * Nat.pow 2 (-q).toNat
  closed := m % 2 == 0

/-- The number `digits · 10 ^ exponent`. -/
structure DecimalNumber where
  /-- The digits, read as one whole number. -/
  digits : Nat
  /-- The power of ten that they count. -/
  exponent : Int
  deriving DecidableEq, Repr

namespace Reading

/-- Whether `n · 10 ^ exponent` reads back as the number. -/
def holds (r : Reading) (n : Nat) (exponent : Int) : Bool :=
  let x := n * Nat.pow 10 exponent.toNat * r.denominator
  let scale := Nat.pow 10 (-exponent).toNat
  if r.closed then r.low * scale ≤ x && x ≤ r.high * scale
  else r.low * scale < x && x < r.high * scale

/-- The nearer of the number's two neighbours on the grid of the multiples of `10 ^ exponent`, among
those that read back as the number. Halfway between them the upper one is taken. -/
def onGrid? (r : Reading) (exponent : Int) : Option DecimalNumber :=
  let value := r.value * Nat.pow 10 (-exponent).toNat
  let unit := r.denominator * Nat.pow 10 exponent.toNat
  let below := value / unit
  match r.holds below exponent, r.holds (below + 1) exponent with
  | true, true =>
    if 2 * (value % unit) < unit then some ⟨below, exponent⟩ else some ⟨below + 1, exponent⟩
  | true, false => some ⟨below, exponent⟩
  | false, true => some ⟨below + 1, exponent⟩
  | false, false => none

/-- The first answer on the grids `10 ^ exponent`, `10 ^ (exponent - 1)`, …, of which `count` are
tried. -/
def onGrids? (r : Reading) (exponent : Int) : Nat → Option DecimalNumber
  | 0 => none
  | count + 1 =>
    match r.onGrid? exponent with
    | some d => some d
    | none => r.onGrids? (exponent - 1) count

/-- The least `j`, from `j` on and within `count` steps, for which the number is at least
`10 ^ (-j)`. -/
def fractionZeros (r : Reading) (j : Nat) : Nat → Nat
  | 0 => j
  | count + 1 =>
    if r.denominator ≤ r.value * Nat.pow 10 j then j else r.fractionZeros (j + 1) count

/-- The exponent of the greatest power of ten that is not above the number. -/
def decade (r : Reading) : Int :=
  if r.denominator ≤ r.value then (Nat.toDigits 10 (r.value / r.denominator)).length - 1
  else -(r.fractionZeros 1 324)

/-- The decimal number with the fewest digits that reads back as the number. Seventeen digits always
do. -/
def shortest (r : Reading) : DecimalNumber := (r.onGrids? r.decade 18).getD ⟨0, 0⟩

end Reading

/-- Removes zeros from the front of a list of digits. -/
def dropZeros (cs : List Char) : List Char := cs.dropWhile (· == '0')

/-- The positional form of a number. -/
def DecimalNumber.positional (d : DecimalNumber) : List Char :=
  let digits := Nat.toDigits 10 d.digits
  if 0 ≤ d.exponent then digits ++ List.replicate d.exponent.toNat '0'
  else
    let places := (-d.exponent).toNat
    let padded := List.replicate (places + 1 - digits.length) '0' ++ digits
    let whole := padded.take (padded.length - places)
    let fraction := (dropZeros (padded.drop (padded.length - places)).reverse).reverse
    if fraction.isEmpty then whole else whole ++ '.' :: fraction

/-- The text of what a double denotes. -/
def Binary64.text : Binary64 → String
  | .nan => "NaN"
  | .infinite negative => if negative then "-inf" else "inf"
  | .finite negative significand exponent =>
    let digits :=
      if significand = 0 then ['0']
      else (Reading.ofDouble significand exponent).shortest.positional
    String.ofList (if negative then '-' :: digits else digits)

/-- The text of a double. -/
def floatText (x : Float) : String := (Binary64.ofFloat x).text

/-- The form of a number with one digit before the point and a power of ten. -/
def DecimalNumber.scientific (d : DecimalNumber) : List Char :=
  let digits := Nat.toDigits 10 d.digits
  let fraction := (dropZeros (digits.drop 1).reverse).reverse
  let exponent := toString (d.exponent + (digits.length - 1))
  digits.take 1 ++ (if fraction.isEmpty then [] else '.' :: fraction) ++ 'e' :: exponent.toList

/-- The text of what a double denotes as a log shows it: a whole number has a decimal place, and a number
of at least `10 ^ 16` or below `10 ^ (-4)` is written with a power of ten. -/
def Binary64.logText : Binary64 → String
  | .finite negative significand exponent =>
    let digits :=
      if significand = 0 then ['0', '.', '0']
      else
        let r := Reading.ofDouble significand exponent
        if r.decade < -4 ∨ 16 ≤ r.decade then r.shortest.scientific
        else
          let text := r.shortest.positional
          if text.contains '.' then text else text ++ ['.', '0']
    String.ofList (if negative then '-' :: digits else digits)
  | x => x.text

/-- The text of a double as a log shows it. -/
def floatLogText (x : Float) : String := (Binary64.ofFloat x).logText

end Telemetry.Numeral
