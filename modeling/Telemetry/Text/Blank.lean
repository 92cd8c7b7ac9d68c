import Telemetry.Text.CharSet

/-!
# Blank characters

White space as Unicode defines it (property `White_Space`), and texts without the white space at
their ends. `trimEnd_append_of_not_blank` says that a text that ends otherwise keeps its end.
-/

namespace Telemetry.Text

/-- The characters with the property `White_Space`. -/
def whiteSpace : CharSet :=
  ⟨[0x9, 0xe, 0x20, 0x21, 0x85, 0x86, 0xa0, 0xa1, 0x1680, 0x1681, 0x2000, 0x200b, 0x2028, 0x202a,
    0x202f, 0x2030, 0x205f, 0x2060, 0x3000, 0x3001]⟩

/-- Whether `c` is white space. -/
def isBlank (c : Char) : Bool := whiteSpace.contains c

/-- What is left of a text without the white space at its end. -/
def trimEnd : List Char → List Char
  | [] => []
  | c :: rest =>
    match trimEnd rest with
    | [] => if isBlank c then [] else [c]
    | kept => c :: kept

/-- What is left of a text without the white space at its two ends. -/
def trim (cs : List Char) : List Char := trimEnd (cs.dropWhile isBlank)

theorem trimEnd_cons_of_not_blank {c : Char} (h : isBlank c = false) (rest : List Char) :
    trimEnd (c :: rest) = c :: trimEnd rest := by
  cases hr : trimEnd rest <;> simp [trimEnd, hr, h]

/-- A text that does not end in white space keeps its end. -/
theorem trimEnd_append_of_not_blank {c : Char} (h : isBlank c = false) (cs : List Char) :
    trimEnd (cs ++ [c]) = cs ++ [c] := by
  induction cs with
  | nil => simp [trimEnd, h]
  | cons d rest ih =>
    cases hr : rest ++ [c] with
    | nil => simp at hr
    | cons e tail =>
      rw [hr] at ih
      rw [List.cons_append, hr, trimEnd, ih]

end Telemetry.Text
