import Telemetry.Proofs.Text.Pieces
import Telemetry.Proofs.Trace.StateLimits

/-!
# Trace states in text

What reading a trace state makes of the text of another one.  The text is cut where it was joined, since
neither keys nor values hold a comma or an equals sign, but white space at the ends of a value is lost:
`ofHeader_header` says that what is read has the members `trimmed`, if they are not too long.
-/

namespace Telemetry

namespace TraceState

/-- A member without the white space at the ends of its value. -/
def trimmedMember (m : String × String) : String × String :=
  (m.1, String.ofList (Text.trim m.2.toList))

/-- The text of a member. -/
def memberText (m : String × String) : List Char := m.1.toList ++ '=' :: m.2.toList

theorem toList_header (state : TraceState) :
    state.header.toList = Text.join [','] (state.members.map memberText) := by
  rw [Text.join_eq_intercalate, header, delimited, String.toList_intercalate, List.map_map]
  congr 2
  funext m
  simp [memberText]

/-! ### One member -/

section Member

variable {m : String × String} (hkey : validKey m.1 = true) (hvalue : validValue m.2 = true)

include hkey

theorem not_blank_of_mem_key {c : Char} (hc : c ∈ m.1.toList) : Text.isBlank c = false := by
  have hchar := isStateValueChar_of_key ((mem_key hkey).2 c hc)
  exact Bool.not_eq_true _ ▸ fun h => hchar.2 ((isBlank_of_value hchar.1).1 h)

/-- Nothing is trimmed at the start, where the key stands. -/
theorem trim_memberText :
    Text.trim (memberText m) = m.1.toList ++ '=' :: Text.trimEnd m.2.toList := by
  have hstart : m.1.toList.dropWhile Text.isBlank = m.1.toList := by
    cases hcs : m.1.toList with
    | nil => rfl
    | cons c rest =>
      have hc : Text.isBlank c = false := not_blank_of_mem_key hkey (hcs ▸ List.mem_cons_self)
      exact List.dropWhile_cons_of_neg (Bool.not_eq_true _ ▸ hc)
  rw [memberText, Text.trim_append_cons_of_not_blank (by decide), hstart]

/-- **A member is read without the white space at the ends of its value.** -/
theorem readMember_memberText :
    readMember (Text.trim (memberText m)) = .ok (trimmedMember m) := by
  have hnot : '=' ∉ m.1.toList := fun h => absurd ((mem_key hkey).2 _ h) (by decide)
  have htrim : Text.trim m.1.toList = m.1.toList :=
    Text.trim_of_not_blank fun c hc => not_blank_of_mem_key hkey hc
  rw [trim_memberText hkey, readMember, Text.cut?_append hnot]
  simp only [htrim, Text.trim_trimEnd, String.ofList_toList]
  rfl

include hvalue

theorem comma_not_mem_memberText : ',' ∉ memberText m := by
  intro h
  rcases List.mem_append.1 h with h | h
  · exact absurd ((mem_key hkey).2 _ h) (by decide)
  · rcases List.mem_cons.1 h with h | h
    · exact absurd h (by decide)
    · exact absurd ((mem_value hvalue).2 _ h) (by decide)

theorem valid_trimmedMember :
    validKey (trimmedMember m).1 = true ∧ validValue (trimmedMember m).2 = true := by
  refine ⟨hkey, ?_⟩
  have hsub := Text.trim_sublist m.2.toList
  obtain ⟨hlength, hchars⟩ := mem_value hvalue
  simp only [trimmedMember, validValue, String.toList_ofList, Bool.and_eq_true,
    decide_eq_true_eq, List.all_eq_true]
  exact ⟨hsub.length_le.trans hlength, fun c hc => hchars c (hsub.subset hc)⟩

end Member

/-! ### All members -/

/-- The trace state without the white space at the ends of its values. -/
def trimmed (state : TraceState) : TraceState := ⟨state.members.map trimmedMember⟩

theorem mapM_readMember {members : List (String × String)} (h : ValidMembers members) :
    (members.map fun m => Text.trim (memberText m)).mapM readMember =
      .ok (members.map trimmedMember) := by
  induction members with
  | nil => rfl
  | cons m rest ih =>
    obtain ⟨hm, hrest⟩ := List.forall_mem_cons.1 h
    rw [List.map_cons, List.mapM_cons, readMember_memberText hm.1, ih hrest]
    rfl

/-- The texts of the members are cut where they were joined. -/
theorem pieces_header {state : TraceState} (h : ValidMembers state.members) :
    ((Text.pieces ',' state.header.toList).map Text.trim).filter (!·.isEmpty) =
      state.members.map fun m => Text.trim (memberText m) := by
  rw [toList_header]
  by_cases hnil : state.members = []
  · rw [hnil]
    rfl
  · have hparts : ∀ part ∈ state.members.map memberText, ',' ∉ part := fun part hpart => by
      obtain ⟨m, hm, rfl⟩ := List.mem_map.1 hpart
      exact comma_not_mem_memberText (h m hm).1 (h m hm).2
    rw [Text.pieces_join hparts (by simpa using hnil), List.map_map, List.filter_eq_self.2]
    · rfl
    · intro text htext
      obtain ⟨m, hm, rfl⟩ := List.mem_map.1 htext
      rw [Function.comp_apply, trim_memberText (h m hm).1]
      simp

/-- **Reading the text of a trace state** loses the white space at the ends of values. -/
theorem ofHeader_header {state : TraceState} (h : ValidMembers state.members) :
    ofHeader state.header = ofPairs state.trimmed.members := by
  unfold ofHeader
  rw [pieces_header h]
  dsimp only
  rw [mapM_readMember h]
  rfl

theorem valid_trimmed {state : TraceState} (h : ValidMembers state.members) :
    ValidMembers state.trimmed.members := fun m' hm' => by
  obtain ⟨m, hm, rfl⟩ := List.mem_map.1 hm'
  exact valid_trimmedMember (h m hm).1 (h m hm).2

/-- The trace state whose text is `state.header`, as far as reading can tell: without white space at the
ends of values, and empty if it is too long. -/
def readBack (state : TraceState) : TraceState :=
  if headerLength state.trimmed.members ≤ maxStateLength then state.trimmed else empty

/-- What is read of a trace state with at most 32 members. -/
theorem toOption_ofHeader_header {state : TraceState} (h : ValidMembers state.members)
    (hcount : state.members.length ≤ maxStateMembers) :
    (ofHeader state.header).toOption.getD .empty = state.readBack := by
  have hcount' : ¬maxStateMembers < state.trimmed.members.length := by
    simpa [trimmed] using hcount
  rw [ofHeader_header h, ofPairs_of_valid (valid_trimmed h), if_neg hcount', readBack]
  by_cases hlength : headerLength state.trimmed.members ≤ maxStateLength
  · rw [if_neg (Nat.not_lt.2 hlength), if_pos hlength]
    rfl
  · rw [if_pos (Nat.lt_of_not_le hlength), if_neg hlength]
    rfl

/-! ### When nothing is lost -/

/-- No value has a space at an end. -/
def NoOuterSpace (state : TraceState) : Prop :=
  ∀ m ∈ state.members, m.2.toList.head? ≠ some ' ' ∧ m.2.toList.getLast? ≠ some ' '

instance (state : TraceState) : Decidable state.NoOuterSpace :=
  inferInstanceAs (Decidable (∀ m ∈ state.members,
    m.2.toList.head? ≠ some ' ' ∧ m.2.toList.getLast? ≠ some ' '))

theorem trimmedMember_eq_self_iff {m : String × String} (hvalue : validValue m.2 = true) :
    trimmedMember m = m ↔ m.2.toList.head? ≠ some ' ' ∧ m.2.toList.getLast? ≠ some ' ' := by
  have hchars := (mem_value hvalue).2
  -- Among the characters of a value, "blank" and "a space" are the same.
  have hblank : ∀ o : Option Char, (∀ c ∈ o, c ∈ m.2.toList) →
      ((∀ c ∈ o, Text.isBlank c = false) ↔ o ≠ some ' ') := fun o ho => by
    cases o with
    | none => simp
    | some c =>
      have hc := isBlank_of_value (hchars c (ho c rfl))
      simp [← hc]
  have hmember : trimmedMember m = m ↔ Text.trim m.2.toList = m.2.toList := by
    rw [trimmedMember, Prod.ext_iff]
    simp only [true_and]
    constructor
    · intro h
      exact (String.toList_ofList).symm.trans (congrArg String.toList h)
    · intro h
      rw [h, String.ofList_toList]
  rw [hmember, Text.trim_eq_self_iff, hblank _ fun c hc => List.mem_of_mem_head? hc,
    hblank _ fun c hc => List.mem_of_mem_getLast? hc]

theorem trimmed_eq_self_iff {state : TraceState} (h : ValidMembers state.members) :
    state.trimmed = state ↔ state.NoOuterSpace := by
  have hmap : state.trimmed = state ↔ ∀ m ∈ state.members, trimmedMember m = m := by
    obtain ⟨members⟩ := state
    have hid := List.map_inj_left (l := members) (f := trimmedMember) (g := id)
    rw [List.map_id] at hid
    rw [trimmed, TraceState.mk.injEq]
    exact hid
  rw [hmap]
  exact forall₂_congr fun m hm => trimmedMember_eq_self_iff (h m hm).2

/-- **A trace state is read back** exactly if no value has a space at an end and its text is not too
long. -/
theorem readBack_eq_self_iff {state : TraceState} (h : ValidMembers state.members) :
    state.readBack = state ↔
      state.NoOuterSpace ∧ headerLength state.members ≤ maxStateLength := by
  rw [readBack, ← trimmed_eq_self_iff h]
  by_cases hlength : headerLength state.trimmed.members ≤ maxStateLength
  · rw [if_pos hlength]
    constructor
    · intro htrimmed
      rw [htrimmed] at hlength
      exact ⟨htrimmed, hlength⟩
    · rintro ⟨htrimmed, -⟩
      exact htrimmed
  · rw [if_neg hlength]
    constructor
    · -- The empty trace state would have fitted.
      intro hempty
      rw [← hempty] at hlength
      exact absurd (Nat.zero_le _) hlength
    · rintro ⟨htrimmed, hfits⟩
      rw [htrimmed] at hlength
      exact absurd hfits hlength

/-- A trace state of one member may be too long to be read: 256 characters for the key, as many for the
value, and the equals sign. -/
theorem exists_obtainable_too_long : ∃ state : TraceState, state.Obtainable ∧
    state.NoOuterSpace ∧ maxStateLength < headerLength state.members := by
  refine ⟨⟨[longestMember]⟩, .insert .empty (insert_empty valid_longestMember), fun m hm => ?_, ?_⟩
  · rw [List.mem_singleton.1 hm, toList_longestMember.2]
    decide +kernel
  · rw [oversized_longestMember.headerLength_eq]
    decide

end TraceState

end Telemetry
