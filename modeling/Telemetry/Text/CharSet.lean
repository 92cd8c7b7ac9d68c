/-!
# Sets of characters

A property of characters given by a standard is a table. `CharSet` keeps it as the increasing list of
the code points at which membership changes, so a range `a … b` contributes `a` and `b + 1`.
-/

namespace Telemetry.Text

/-- A set of characters: the code points at which membership changes, in increasing order. -/
structure CharSet where
  /-- The points of change. -/
  changes : List Nat

namespace CharSet

/-- Whether an odd number of the given points of change lie at or below the code point `c`. -/
def inside (c : Nat) : List Nat → Bool
  | [] => false
  | point :: rest => if c < point then false else !inside c rest

/-- Whether `c` is in the set. -/
def contains (s : CharSet) (c : Char) : Bool := inside c.toNat s.changes

end CharSet

end Telemetry.Text
