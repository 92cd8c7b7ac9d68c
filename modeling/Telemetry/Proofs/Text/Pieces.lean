import Mathlib.Data.List.DropRight
import Mathlib.Data.List.TakeWhile
import Telemetry.Text.Blank
import Telemetry.Text.Pieces

/-!
# Cutting and trimming

How `pieces`, `join`, `cut?` and `trim` act on texts that were put together from parts: cutting gives the
parts back if no part holds the separator (`pieces_join`, `endedPieces_join`, `cut?_append`), the pieces
that count are found one after the other (`endedPieces_eq_cons_iff`), and trimming changes a text exactly
if there is white space at one of its ends (`trim_eq_self_iff`).
-/

namespace Telemetry.Text

/-! ### Pieces -/

theorem pieces_eq_splitOn (separator : Char) (cs : List Char) :
    pieces separator cs = cs.splitOn separator := by
  induction cs with
  | nil => simp [pieces]
  | cons c rest ih =>
    rw [pieces, List.splitOn_cons_eq_if_modifyHead, ← ih]
    by_cases hc : c = separator
    · simp [hc]
    · cases hp : pieces separator rest with
      | nil => exact absurd hp (pieces_ne_nil separator rest)
      | cons piece more => simp [hc]

theorem join_eq_intercalate (separator : List Char) (parts : List (List Char)) :
    join separator parts = separator.intercalate parts := by
  induction parts with
  | nil => rfl
  | cons part rest ih =>
    cases rest with
    | nil => simp [join]
    | cons next more =>
      rw [List.intercalate_cons_cons, ← ih]
      rfl

/-- **Cutting undoes joining** if no part holds the separator and there is a part. -/
theorem pieces_join {separator : Char} {parts : List (List Char)}
    (h : ∀ part ∈ parts, separator ∉ part) (hne : parts ≠ []) :
    pieces separator (join [separator] parts) = parts := by
  rw [pieces_eq_splitOn, join_eq_intercalate, List.splitOn_intercalate separator h hne]

/-- What is in a text that was put together is in the separator or in one of the parts. -/
theorem mem_join {c : Char} {separator : List Char} {parts : List (List Char)}
    (h : c ∈ join separator parts) : c ∈ separator ∨ ∃ part ∈ parts, c ∈ part := by
  induction parts with
  | nil => cases h
  | cons part rest ih =>
    cases rest with
    | nil => exact .inr ⟨part, List.mem_singleton_self _, h⟩
    | cons next more =>
      simp only [join, List.mem_append] at h
      rcases h with (hpart | hsep) | hrest
      · exact .inr ⟨part, List.mem_cons_self, hpart⟩
      · exact .inl hsep
      · rcases ih hrest with hsep | ⟨other, hother, hc⟩
        · exact .inl hsep
        · exact .inr ⟨other, List.mem_cons_of_mem _ hother, hc⟩

/-- A text without the separator is one piece. -/
theorem pieces_of_not_mem {separator : Char} {cs : List Char} (h : separator ∉ cs) :
    pieces separator cs = [cs] := by
  show pieces separator (join [separator] [cs]) = [cs]
  exact pieces_join (List.forall_mem_singleton.2 h) (List.cons_ne_nil _ _)

/-- The first piece ends at the first separator. -/
theorem pieces_append {separator : Char} {piece : List Char} (h : separator ∉ piece)
    (rest : List Char) :
    pieces separator (piece ++ separator :: rest) = piece :: pieces separator rest := by
  induction piece with
  | nil => simp [pieces]
  | cons c more ih =>
    obtain ⟨hc, hmore⟩ := List.ne_and_not_mem_of_not_mem_cons h
    rw [List.cons_append, pieces, if_neg (Ne.symm hc), ih hmore]

/-! ### Ended pieces -/

theorem endedPieces_of_not_mem {separator : Char} {cs : List Char} (h : separator ∉ cs)
    (hne : cs ≠ []) : endedPieces separator cs = [cs] := by
  rw [endedPieces, pieces_of_not_mem h]
  exact if_neg (by simpa using hne)

/-- Only the last piece can be one that does not count. -/
theorem endedPieces_append {separator : Char} {piece : List Char} (h : separator ∉ piece)
    (rest : List Char) :
    endedPieces separator (piece ++ separator :: rest) = piece :: endedPieces separator rest := by
  rw [endedPieces, pieces_append h, endedPieces]
  have hne := pieces_ne_nil separator rest
  rw [List.getLast?_cons_of_ne_nil hne, List.dropLast_cons_of_ne_nil hne]
  split <;> rfl

/-- **Cutting undoes joining** if no part holds the separator and the last one is not empty. -/
theorem endedPieces_join {separator : Char} {parts : List (List Char)}
    (h : ∀ part ∈ parts, separator ∉ part) (hlast : parts.getLast? ≠ some []) :
    endedPieces separator (join [separator] parts) = parts := by
  by_cases hne : parts = []
  · subst hne
    rfl
  · rw [endedPieces, pieces_join h hne, if_neg hlast]

/-- A text is nothing, or one piece, or a piece and a separator and a text. -/
theorem piece_cases (separator : Char) (cs : List Char) :
    cs = [] ∨ cs ≠ [] ∧ separator ∉ cs ∨
      ∃ piece rest, cs = piece ++ separator :: rest ∧ separator ∉ piece := by
  by_cases hmem : separator ∈ cs
  · exact .inr (.inr (List.eq_append_cons_of_mem hmem))
  · by_cases hnil : cs = []
    · exact .inl hnil
    · exact .inr (.inl ⟨hnil, hmem⟩)

theorem endedPieces_eq_nil_iff {separator : Char} {cs : List Char} :
    endedPieces separator cs = [] ↔ cs = [] := by
  rcases piece_cases separator cs with rfl | ⟨hne, hnot⟩ | ⟨piece, rest, rfl, hnot⟩
  · simp [endedPieces, pieces]
  · simp [endedPieces_of_not_mem hnot hne, hne]
  · simp [endedPieces_append hnot]

/-- **The first piece** ends where the text does, or at the first separator. -/
theorem endedPieces_eq_cons_iff {separator : Char} {cs piece : List Char}
    {more : List (List Char)} :
    endedPieces separator cs = piece :: more ↔
      separator ∉ piece ∧ (piece ≠ [] ∧ cs = piece ∧ more = [] ∨
        ∃ rest, cs = piece ++ separator :: rest ∧ endedPieces separator rest = more) := by
  constructor
  · intro h
    rcases piece_cases separator cs with rfl | ⟨hne, hnot⟩ | ⟨first, rest, rfl, hnot⟩
    · rw [endedPieces_eq_nil_iff.2 rfl] at h
      cases h
    · rw [endedPieces_of_not_mem hnot hne] at h
      obtain ⟨rfl, hmore⟩ := List.cons.inj h
      exact ⟨hnot, .inl ⟨hne, rfl, hmore.symm⟩⟩
    · rw [endedPieces_append hnot] at h
      obtain ⟨rfl, hrest⟩ := List.cons.inj h
      exact ⟨hnot, .inr ⟨rest, rfl, hrest⟩⟩
  · rintro ⟨hnot, ⟨hne, rfl, rfl⟩ | ⟨rest, rfl, hrest⟩⟩
    · exact endedPieces_of_not_mem hnot hne
    · rw [endedPieces_append hnot, hrest]

/-! ### The first separator -/

/-- **A text is cut at the first separator.** -/
theorem cut?_append {separator : Char} {before : List Char} (h : separator ∉ before)
    (after : List Char) : cut? separator (before ++ separator :: after) = some (before, after) := by
  induction before with
  | nil => simp [cut?]
  | cons c rest ih =>
    obtain ⟨hc, hrest⟩ := List.ne_and_not_mem_of_not_mem_cons h
    rw [List.cons_append, cut?, if_neg (Ne.symm hc), ih hrest]
    rfl

theorem cut?_eq_some_iff {separator : Char} {cs before after : List Char} :
    cut? separator cs = some (before, after) ↔
      cs = before ++ separator :: after ∧ separator ∉ before := by
  refine ⟨eq_of_cut?, ?_⟩
  rintro ⟨rfl, hnot⟩
  exact cut?_append hnot after

/-- Nothing is cut exactly if there is no separator. -/
theorem cut?_eq_none_iff {separator : Char} {cs : List Char} :
    cut? separator cs = none ↔ separator ∉ cs := by
  constructor
  · intro h hmem
    obtain ⟨before, after, rfl, hnot⟩ := List.eq_append_cons_of_mem hmem
    rw [cut?_append hnot] at h
    cases h
  · intro hnot
    cases h : cut? separator cs with
    | none => rfl
    | some parts =>
      obtain ⟨rfl, -⟩ := eq_of_cut? h
      exact absurd List.mem_append_cons_self hnot

/-! ### White space at the ends -/

theorem trimEnd_append_of_blank {c : Char} (h : isBlank c = true) (cs : List Char) :
    trimEnd (cs ++ [c]) = trimEnd cs := by
  induction cs with
  | nil => simp [trimEnd, h]
  | cons d rest ih => simp only [List.cons_append, trimEnd, ih]

/-- Nothing is trimmed before a character that is not blank. -/
theorem trimEnd_append_cons_of_not_blank {c : Char} (h : isBlank c = false)
    (cs rest : List Char) : trimEnd (cs ++ c :: rest) = cs ++ c :: trimEnd rest := by
  induction cs with
  | nil => exact trimEnd_cons_of_not_blank h rest
  | cons d more ih =>
    rw [List.cons_append, trimEnd, ih]
    cases more <;> rfl

theorem trimEnd_eq_rdropWhile (cs : List Char) : trimEnd cs = cs.rdropWhile isBlank := by
  induction cs using List.reverseRecOn with
  | nil => rfl
  | append_singleton cs c ih =>
    rw [List.rdropWhile_concat]
    split
    next h => rw [trimEnd_append_of_blank h, ih]
    next h => exact trimEnd_append_of_not_blank (by simpa using h) cs

theorem trimEnd_trimEnd (cs : List Char) : trimEnd (trimEnd cs) = trimEnd cs := by
  rw [trimEnd_eq_rdropWhile, trimEnd_eq_rdropWhile, List.rdropWhile_idempotent]

/-- The two ends are trimmed in either order. -/
theorem dropWhile_trimEnd (cs : List Char) :
    (trimEnd cs).dropWhile isBlank = trimEnd (cs.dropWhile isBlank) := by
  induction cs with
  | nil => rfl
  | cons c rest ih =>
    by_cases hc : isBlank c = true
    · rw [List.dropWhile_cons_of_pos hc, ← ih, trimEnd]
      cases hrest : trimEnd rest with
      | nil => simp [hc]
      | cons d more => simp only [List.dropWhile_cons_of_pos hc]
    · have hc' : isBlank c = false := by simpa using hc
      rw [List.dropWhile_cons_of_neg hc, trimEnd_cons_of_not_blank hc',
        List.dropWhile_cons_of_neg hc]

theorem trim_trimEnd (cs : List Char) : trim (trimEnd cs) = trim cs := by
  rw [trim, dropWhile_trimEnd, trimEnd_trimEnd, trim]

theorem trim_dropWhile (cs : List Char) : trim (cs.dropWhile isBlank) = trim cs := by
  rw [trim, List.dropWhile_idempotent, trim]

theorem trim_trim (cs : List Char) : trim (trim cs) = trim cs := by
  rw [trim.eq_1 cs, trim_trimEnd, trim_dropWhile, trim.eq_1]

/-- Nothing is left of a text exactly if it is only white space. -/
theorem trim_eq_nil_iff {cs : List Char} : trim cs = [] ↔ ∀ c ∈ cs, isBlank c = true := by
  constructor
  · intro h
    -- What is left without the white space at the start begins with another character.
    rw [trim, trimEnd_eq_rdropWhile, List.rdropWhile_eq_nil_iff] at h
    rw [← List.dropWhile_eq_nil_iff]
    by_contra hne
    have hhead := List.head_dropWhile_not isBlank hne
    rw [h _ (List.head_mem hne)] at hhead
    cases hhead
  · intro h
    rw [trim, List.dropWhile_eq_nil_iff.2 h]
    rfl

/-- What is around a character that is not blank is trimmed on its outer side. -/
theorem trim_append_cons_of_not_blank {c : Char} (h : isBlank c = false)
    (cs rest : List Char) : trim (cs ++ c :: rest) = cs.dropWhile isBlank ++ c :: trimEnd rest := by
  have hdrop : (cs ++ c :: rest).dropWhile isBlank = cs.dropWhile isBlank ++ c :: rest := by
    rw [List.dropWhile_append]
    split
    next hempty =>
      rw [List.isEmpty_iff.1 hempty, List.dropWhile_cons_of_neg (Bool.not_eq_true _ ▸ h),
        List.nil_append]
    next => rfl
  rw [trim, hdrop, trimEnd_append_cons_of_not_blank h]

/-- Trimming only takes characters away. -/
theorem trim_sublist (cs : List Char) : (trim cs).Sublist cs := by
  rw [trim, trimEnd_eq_rdropWhile]
  exact (List.rdropWhile_prefix _ _).sublist.trans (List.dropWhile_sublist _)

/-- **Trimming changes a text exactly if an end of it is blank.** -/
theorem trim_eq_self_iff (cs : List Char) :
    trim cs = cs ↔ (∀ c ∈ cs.head?, isBlank c = false) ∧ ∀ c ∈ cs.getLast?, isBlank c = false := by
  have hhead : cs.dropWhile isBlank = cs ↔ ∀ c ∈ cs.head?, isBlank c = false := by
    cases cs with
    | nil => simp
    | cons c rest => simp [List.dropWhile_eq_self_iff]
  have hlast : trimEnd cs = cs ↔ ∀ c ∈ cs.getLast?, isBlank c = false := by
    rw [trimEnd_eq_rdropWhile, List.rdropWhile_eq_self_iff]
    cases cs using List.reverseRecOn with
    | nil => simp
    | append_singleton front c => simp
  rw [← hhead, ← hlast]
  constructor
  · intro h
    -- Neither end of the text gets shorter.
    have hsuffix := List.dropWhile_suffix isBlank (l := cs)
    have hprefix : trim cs <+: cs.dropWhile isBlank := by
      rw [trim, trimEnd_eq_rdropWhile]
      exact List.rdropWhile_prefix _ _
    have hle := hprefix.length_le
    rw [h] at hle
    have hdrop := hsuffix.eq_of_length (Nat.le_antisymm hsuffix.length_le hle)
    refine ⟨hdrop, ?_⟩
    rw [trim, hdrop] at h
    exact h
  · rintro ⟨hdrop, hend⟩
    rw [trim, hdrop, hend]

/-- **What is trimmed is white space** around what is kept. -/
theorem exists_blank_append_trim (cs : List Char) :
    ∃ before after, cs = before ++ trim cs ++ after ∧
      (∀ c ∈ before, isBlank c = true) ∧ ∀ c ∈ after, isBlank c = true := by
  refine ⟨cs.takeWhile isBlank, (cs.dropWhile isBlank).rtakeWhile isBlank, ?_,
    fun c hc => List.mem_takeWhile_imp hc, fun c hc => List.mem_rtakeWhile_imp hc⟩
  rw [trim, trimEnd_eq_rdropWhile, List.append_assoc, List.rdropWhile_append_rtakeWhile,
    List.takeWhile_append_dropWhile]

/-- White space around a text is trimmed. -/
theorem trim_blank_append {before after : List Char} (hbefore : ∀ c ∈ before, isBlank c = true)
    (cs : List Char) (hafter : ∀ c ∈ after, isBlank c = true) :
    trim (before ++ cs ++ after) = trim cs := by
  have hend : trimEnd (cs ++ after) = trimEnd cs := by
    induction after using List.reverseRecOn with
    | nil => rw [List.append_nil]
    | append_singleton after c ih =>
      obtain ⟨hafter, hc⟩ := List.forall_mem_append.1 hafter
      rw [← List.append_assoc, trimEnd_append_of_blank (hc c (List.mem_singleton_self c)),
        ih hafter]
  rw [trim, List.append_assoc, List.dropWhile_append_of_pos hbefore, ← dropWhile_trimEnd, hend,
    dropWhile_trimEnd, trim]

/-- Nothing is trimmed from a text without white space. -/
theorem trim_of_not_blank {cs : List Char} (h : ∀ c ∈ cs, isBlank c = false) : trim cs = cs :=
  (trim_eq_self_iff cs).2
    ⟨fun c hc => h c (List.mem_of_mem_head? hc), fun c hc => h c (List.mem_of_getLast? hc)⟩

end Telemetry.Text
