/-!
# The number a double denotes

A double is a sign, a significand `m` and an exponent `q`, and denotes `± m · 2 ^ q`, unless it is an
infinity or not a number. Everything that needs the exact number goes through `Binary64.ofFloat`.
-/

namespace Telemetry.Numeral

/-- What a double denotes. -/
inductive Binary64 where
  /-- Not a number. -/
  | nan
  /-- An infinity. -/
  | infinite (negative : Bool)
  /-- The number `± significand · 2 ^ exponent`. -/
  | finite (negative : Bool) (significand : Nat) (exponent : Int)
  deriving DecidableEq, Repr

namespace Binary64

/-- What the sixty-four bits `bits` of a double denote. -/
def ofBits (bits : Nat) : Binary64 :=
  let negative := bits / Nat.pow 2 63 % 2 == 1
  let biased := bits / Nat.pow 2 52 % Nat.pow 2 11
  let fraction := bits % Nat.pow 2 52
  if biased = 2047 then
    if fraction = 0 then .infinite negative else .nan
  else if biased = 0 then .finite negative fraction (-1074)
  else .finite negative (Nat.pow 2 52 + fraction) (Int.ofNat biased - 1075)

/-- What `x` denotes. -/
def ofFloat (x : Float) : Binary64 := ofBits x.toBits.toNat

/-- The whole part of `significand · 2 ^ exponent`. -/
def wholePart (significand : Nat) (exponent : Int) : Nat :=
  significand * Nat.pow 2 exponent.toNat / Nat.pow 2 (-exponent).toNat

end Binary64

end Telemetry.Numeral
