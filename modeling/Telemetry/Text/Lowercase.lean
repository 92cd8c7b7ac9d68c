import Telemetry.Text.Casing

/-!
# Lowercase texts

The lowercase form of a text. Every capital becomes its lowercase letter, with two special cases: the
capital `İ` becomes an `i` and a combining dot, and the capital sigma becomes `ς` at the end of a word
and `σ` anywhere else.
-/

namespace Telemetry.Text

/-- Whether the first character that counts in `cs` has case. -/
def startsCased (cs : List Char) : Bool :=
  match cs.dropWhile caseIgnorable.contains with
  | [] => false
  | c :: _ => cased.contains c

/-- Whether a sigma stands at the end of a word, between the text `before` it (nearest character
first) and the text `after` it. -/
def endsWord (before after : List Char) : Bool := startsCased before && !startsCased after

/-- The lowercase form of the single character `c`. -/
def lowerChar (c : Char) : Char :=
  match capitals.findSome? (·.lower? c.toNat) with
  | some code => Char.ofNat code
  | none => c

/-- Lowercases `cs`, which follows the text `before` (nearest character first). -/
def lowercaseAfter (before : List Char) : List Char → List Char
  | [] => []
  | c :: rest =>
    let lower :=
      if c.toNat < 0x80 then [c.toLower]
      else if c = 'İ' then ['i', '\u0307']
      else if c = 'Σ' then [if endsWord before rest then 'ς' else 'σ']
      else [lowerChar c]
    lower ++ lowercaseAfter (c :: before) rest

/-- The lowercase form of a text. -/
def lowercase (s : String) : String := String.ofList (lowercaseAfter [] s.toList)

end Telemetry.Text
