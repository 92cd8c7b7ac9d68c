/-!
# Texts in pieces

Cutting a text at a separator. `pieces` cuts at every separator and keeps empty pieces; `cut?` cuts at the
first separator only.
-/

namespace Telemetry.Text

/-- The pieces of `cs` between the separators, of which there is one more than separators. -/
def pieces (separator : Char) : List Char → List (List Char)
  | [] => [[]]
  | c :: rest =>
    if c = separator then [] :: pieces separator rest
    else
      match pieces separator rest with
      | [] => [[c]]
      | piece :: more => (c :: piece) :: more

/-- The pieces of `cs` each of which is ended by a separator or by the end of the text: the last piece
does not count if it is empty. -/
def endedPieces (separator : Char) (cs : List Char) : List (List Char) :=
  let all := pieces separator cs
  if all.getLast? = some [] then all.dropLast else all

/-- The text before and the text after the first separator. -/
def cut? (separator : Char) : List Char → Option (List Char × List Char)
  | [] => none
  | c :: rest =>
    if c = separator then some ([], rest)
    else (cut? separator rest).map fun parts => (c :: parts.1, parts.2)

/-- Puts `separator` between the pieces. -/
def join (separator : List Char) : List (List Char) → List Char
  | [] => []
  | [piece] => piece
  | piece :: more => piece ++ separator ++ join separator more

theorem pieces_ne_nil (separator : Char) (cs : List Char) : pieces separator cs ≠ [] := by
  cases cs with
  | nil => simp [pieces]
  | cons c rest =>
    simp only [pieces]
    split
    · simp
    · split <;> simp

/-- **A cut text is the part before, the separator, and the part after.** -/
theorem eq_of_cut? {separator : Char} {cs before after : List Char}
    (h : cut? separator cs = some (before, after)) :
    cs = before ++ separator :: after ∧ separator ∉ before := by
  induction cs generalizing before with
  | nil => simp [cut?] at h
  | cons c rest ih =>
    simp only [cut?] at h
    split at h
    next hc =>
      simp only [Option.some.injEq, Prod.mk.injEq] at h
      simp [← h.1, ← h.2, hc]
    next hc =>
      obtain ⟨parts, hparts, heq⟩ := Option.map_eq_some_iff.1 h
      simp only [Prod.mk.injEq] at heq
      obtain ⟨hrest, hnot⟩ :=
        ih (show cut? separator rest = some (parts.1, after) by rw [hparts, ← heq.2])
      rw [← heq.1]
      exact ⟨by rw [hrest, List.cons_append], by simp [hnot, Ne.symm hc]⟩

end Telemetry.Text
