import Mathlib.Order.Interval.Set.Defs
import Telemetry.Proofs.Text.Pieces
import Telemetry.Proofs.Trace.StateLimits

/-!
# The grammar of keys

What a key of a trace state is, said of its text as a whole: 1 to 256 bytes of certain characters that begin
with a letter or a digit, and perhaps an `@` with the identifier of a system behind it, which begins with a
letter or a digit as well.  `validKey_iff` says that the check accepts exactly the texts of this form whose
system identifier takes 0 to 13 bytes.  As the grammar of trace states has it, the identifier takes 1 to 14
bytes: `validKey_grammar` says that the two differ on exactly the keys with an identifier of 0 or 14 bytes.
-/

namespace Telemetry.TraceState

/-! ### The form of a key -/

/-- The character is a lowercase letter or a digit. -/
def LowerAlphanum (c : Char) : Prop := ('a' ≤ c ∧ c ≤ 'z') ∨ ('0' ≤ c ∧ c ≤ '9')

/-- The character may stand in a key. -/
def KeyChar (c : Char) : Prop := LowerAlphanum c ∨ c ∈ ['_', '-', '*', '/', '@']

/-- The text ends with its only `@` and the identifier of a system, the size of which is one of `sizes`. -/
def EndsInSystem (sizes : Set ℕ) (key : String) : Prop :=
  ∃ tenant system : String, key = tenant ++ "@" ++ system ∧ '@' ∉ tenant.toList ∧
    '@' ∉ system.toList ∧ system.utf8ByteSize ∈ sizes ∧ ∀ c ∈ system.toList.head?, LowerAlphanum c

/-- The text has the form of a key, with system identifiers of the given sizes. -/
structure KeyForm (sizes : Set ℕ) (key : String) : Prop where
  /-- It takes 1 to 256 bytes. -/
  size : 1 ≤ key.utf8ByteSize ∧ key.utf8ByteSize ≤ 256
  /-- It consists of characters of keys. -/
  chars : ∀ c ∈ key.toList, KeyChar c
  /-- It begins with a letter or a digit. -/
  start : ∀ c ∈ key.toList.head?, LowerAlphanum c
  /-- There is no `@` in it, or just one in front of the identifier of a system. -/
  system : '@' ∉ key.toList ∨ EndsInSystem sizes key

/-! ### What the check asks for -/

theorem isLowerAlphanum_iff {c : Char} : isLowerAlphanum c = true ↔ LowerAlphanum c := by
  have hlower : c.isLower = (decide ('a' ≤ c) && decide (c ≤ 'z')) := rfl
  have hdigit : c.isDigit = (decide ('0' ≤ c) && decide (c ≤ '9')) := rfl
  simp [isLowerAlphanum, LowerAlphanum, hlower, hdigit]

theorem isStateKeyChar_iff {c : Char} : isStateKeyChar c = true ↔ KeyChar c := by
  simp [isStateKeyChar, KeyChar, isLowerAlphanum_iff, or_assoc]

theorem startsAlphanum_iff {cs : List Char} :
    startsAlphanum cs = true ↔ ∀ c ∈ cs.head?, LowerAlphanum c := by
  cases cs with
  | nil => simp [startsAlphanum]
  | cons c rest => simp [startsAlphanum, isLowerAlphanum_iff]

/-- A text of characters of keys has one byte for each character. -/
theorem utf8ByteSize_of_keyChars {s : String} (h : ∀ c ∈ s.toList, KeyChar c) :
    s.utf8ByteSize = s.toList.length :=
  utf8ByteSize_of_valueChars fun c hc => (isStateValueChar_of_key (isStateKeyChar_iff.2 (h c hc))).1

/-- The system identifier is what stands behind the first `@`. -/
theorem endsInSystem_iff {sizes : Set ℕ} {key : String} {tenant system : List Char}
    (hcut : Text.cut? '@' key.toList = some (tenant, system)) :
    EndsInSystem sizes key ↔ '@' ∉ system ∧ (String.ofList system).utf8ByteSize ∈ sizes ∧
      ∀ c ∈ system.head?, LowerAlphanum c := by
  constructor
  · rintro ⟨tenant', system', rfl, htenant, hsystem, hsize, hstart⟩
    -- There is only one way to cut the text.
    have hcut' : Text.cut? '@' (tenant' ++ "@" ++ system').toList =
        some (tenant'.toList, system'.toList) := by
      rw [String.toList_append, String.toList_append, List.append_assoc]
      exact Text.cut?_append htenant _
    obtain ⟨-, rfl⟩ := Prod.mk.inj (Option.some.inj (hcut.symm.trans hcut'))
    rw [String.ofList_toList]
    exact ⟨hsystem, hsize, hstart⟩
  · rintro ⟨hsystem, hsize, hstart⟩
    obtain ⟨hkey, htenant⟩ := Text.cut?_eq_some_iff.1 hcut
    refine ⟨String.ofList tenant, String.ofList system, ?_, ?_, ?_, hsize, ?_⟩
    · rw [← String.toList_inj, hkey]
      simp
    all_goals rwa [String.toList_ofList]

/-- What the check asks for behind the first `@`. -/
theorem allowsSystem_iff {key : String} {tenant system : List Char}
    (hchars : ∀ c ∈ key.toList, KeyChar c)
    (hcut : Text.cut? '@' key.toList = some (tenant, system)) :
    (!system.contains '@' && system.length ≤ maxSystemLength && startsAlphanum system) = true ↔
      EndsInSystem (Set.Icc 0 13) key := by
  obtain ⟨hkey, -⟩ := Text.cut?_eq_some_iff.1 hcut
  have hsize : (String.ofList system).utf8ByteSize = system.length := by
    rw [utf8ByteSize_of_keyChars, String.toList_ofList]
    intro c hc
    rw [String.toList_ofList] at hc
    exact hchars c (hkey ▸ List.mem_append_right _ (List.mem_cons_of_mem _ hc))
  rw [endsInSystem_iff hcut, hsize, Bool.and_eq_true, Bool.and_eq_true, startsAlphanum_iff,
    decide_eq_true_eq, maxSystemLength, and_assoc]
  simp

/-- **The check accepts exactly the texts of the form of a key** with a system identifier of at most 13
bytes. -/
theorem validKey_iff {key : String} : validKey key = true ↔ KeyForm (Set.Icc 0 13) key := by
  simp only [validKey, Bool.and_eq_true, decide_eq_true_eq, List.all_eq_true, startsAlphanum_iff,
    isStateKeyChar_iff]
  constructor
  · rintro ⟨⟨⟨⟨hpos, hlength⟩, hchars⟩, hstart⟩, hsystem⟩
    rw [← utf8ByteSize_of_keyChars hchars] at hpos hlength
    refine ⟨⟨hpos, hlength⟩, hchars, hstart, ?_⟩
    split at hsystem
    next hcut => exact .inl (Text.cut?_eq_none_iff.1 hcut)
    next tenant system hcut => exact .inr ((allowsSystem_iff hchars hcut).1 hsystem)
  · rintro ⟨⟨hpos, hlength⟩, hchars, hstart, hsystem⟩
    rw [utf8ByteSize_of_keyChars hchars] at hpos hlength
    refine ⟨⟨⟨⟨hpos, hlength⟩, hchars⟩, hstart⟩, ?_⟩
    split
    next => rfl
    next tenant system hcut =>
      have hmem : '@' ∈ key.toList := by
        rw [(Text.cut?_eq_some_iff.1 hcut).1]
        exact List.mem_append_cons_self
      exact (allowsSystem_iff hchars hcut).2 (hsystem.resolve_left (not_not_intro hmem))

/-! ### Sizes of system identifiers -/

/-- If there is an `@` in the text of a key, then the size of what stands behind it decides whether system
identifiers of the given sizes allow for the key. -/
theorem KeyForm.exists_size {sizes : Set ℕ} {key : String} (h : KeyForm sizes key)
    (hmem : '@' ∈ key.toList) : ∃ n, ∀ sizes', KeyForm sizes' key ↔ n ∈ sizes' := by
  cases hcut : Text.cut? '@' key.toList with
  | none => exact absurd hmem (Text.cut?_eq_none_iff.1 hcut)
  | some parts =>
    obtain ⟨tenant, system⟩ := parts
    have hsystem := h.system.resolve_left (not_not_intro hmem)
    rw [endsInSystem_iff hcut] at hsystem
    refine ⟨(String.ofList system).utf8ByteSize, fun sizes' => ⟨fun h' => ?_, fun hsize => ?_⟩⟩
    · have hsystem' := h'.system.resolve_left (not_not_intro hmem)
      rw [endsInSystem_iff hcut] at hsystem'
      exact hsystem'.2.1
    · exact ⟨h.size, h.chars, h.start,
        .inr ((endsInSystem_iff hcut).2 ⟨hsystem.1, hsize, hsystem.2.2⟩)⟩

/-- Without an `@` the sizes do not matter. -/
theorem KeyForm.of_not_mem {sizes sizes' : Set ℕ} {key : String} (h : KeyForm sizes key)
    (hnot : '@' ∉ key.toList) : KeyForm sizes' key := ⟨h.size, h.chars, h.start, .inl hnot⟩

/-- **A key is checked against its grammar** in all but one point: its system identifier may take 0 to 13
bytes, where the grammar asks for 1 to 14. So the check agrees with the grammar on exactly the texts that are
no keys with a system identifier of 0 or 14 bytes. -/
theorem validKey_grammar (key : String) :
    (validKey key = true ↔ KeyForm (Set.Icc 0 13) key) ∧
      ((validKey key = true ↔ KeyForm (Set.Icc 1 14) key) ↔
        ¬('@' ∈ key.toList ∧ KeyForm {0, 14} key)) := by
  refine ⟨validKey_iff, ?_⟩
  rw [validKey_iff]
  by_cases hmem : '@' ∈ key.toList
  · by_cases hform : ∃ sizes, KeyForm sizes key
    · obtain ⟨sizes, hform⟩ := hform
      obtain ⟨n, hn⟩ := hform.exists_size hmem
      simp only [hn, hmem, Set.mem_Icc, Set.mem_insert_iff, Set.mem_singleton_iff, true_and]
      omega
    · have hnot := not_exists.1 hform
      exact iff_of_true (iff_of_false (hnot _) (hnot _)) fun h => hnot _ h.2
  · exact iff_of_true ⟨fun h => h.of_not_mem hmem, fun h => h.of_not_mem hmem⟩ fun h => hmem h.1

/-- A system identifier of 14 bytes is refused, and none at all is accepted. -/
theorem not_validKey_grammar_at_ends :
    ¬(validKey "a@12345678901234" = true ↔ KeyForm (Set.Icc 1 14) "a@12345678901234") ∧
      ¬(validKey "a@" = true ↔ KeyForm (Set.Icc 1 14) "a@") := by
  have hlong : KeyForm (Set.Icc 1 14) "a@12345678901234" := by
    refine ⟨by decide +kernel, ?_, ?_, .inr ⟨"a", "12345678901234", ?_⟩⟩
    · simp only [← isStateKeyChar_iff]
      exact List.all_eq_true.1 (by decide +kernel)
    · rw [← startsAlphanum_iff]
      decide +kernel
    · rw [← startsAlphanum_iff]
      decide +kernel
  have hnone : ¬KeyForm (Set.Icc 1 14) "a@" := fun h => by
    have hsystem := h.system.resolve_left (by decide +kernel)
    rw [endsInSystem_iff (show Text.cut? '@' "a@".toList = some (['a'], []) by decide +kernel)]
      at hsystem
    exact absurd hsystem.2.1.1 (by decide +kernel)
  refine ⟨fun h => absurd (h.2 hlong) (by decide +kernel), fun h => hnone (h.1 (by decide +kernel))⟩

end Telemetry.TraceState
