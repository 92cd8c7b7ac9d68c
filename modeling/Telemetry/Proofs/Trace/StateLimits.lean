import Telemetry.Proofs.Trace.StateMembers

/-!
# The limits of trace states

A trace state that can be built has at most 32 members, and its keys and values are as the grammar has
them.  In text it takes at most 512 bytes, with one exception: an insertion never gives up the new member,
and a key and a value of 256 bytes each take 513 bytes with the equals sign.  `obtainable_iff` says which
trace states can be built, and `withinLimits_iff` that only that exception is beyond the limits.
-/

namespace Telemetry.TraceState

/-! ### One member -/

/-- A text of characters of values has one byte for each character. -/
theorem utf8ByteSize_of_valueChars {s : String} (h : ∀ c ∈ s.toList, isStateValueChar c = true) :
    s.utf8ByteSize = s.toList.length := utf8ByteSize_of_ascii fun c hc => by
  have hchar := isStateValueChar_iff.1 (h c hc)
  omega

/-- A key has one byte for each character, and at most 256 of them. -/
theorem utf8ByteSize_key {key : String} (h : validKey key = true) :
    key.utf8ByteSize = key.toList.length ∧ key.utf8ByteSize ≤ maxStateTextLength := by
  have hsize : key.utf8ByteSize = key.toList.length :=
    utf8ByteSize_of_valueChars fun c hc => (isStateValueChar_of_key ((mem_key h).2 c hc)).1
  simp only [validKey, Bool.and_eq_true, decide_eq_true_eq] at h
  exact ⟨hsize, hsize ▸ h.1.1.1.2⟩

/-- A value has one byte for each character, and at most 256 of them. -/
theorem utf8ByteSize_value {value : String} (h : validValue value = true) :
    value.utf8ByteSize = value.toList.length ∧ value.utf8ByteSize ≤ maxStateTextLength := by
  obtain ⟨hlength, hchars⟩ := mem_value h
  have hsize := utf8ByteSize_of_valueChars hchars
  exact ⟨hsize, hsize ▸ hlength⟩

theorem headerLength_singleton (m : String × String) :
    headerLength [m] = m.1.utf8ByteSize + 1 + m.2.utf8ByteSize := by
  simp [headerLength]

/-- There is one member, and its key and its value are as long as they may be. -/
def Oversized (state : TraceState) : Prop :=
  ∃ m, state.members = [m] ∧ m.1.utf8ByteSize = maxStateTextLength ∧
    m.2.utf8ByteSize = maxStateTextLength

/-- A single member is too long only if its key and its value are as long as they may be. -/
theorem oversized_of_lt_headerLength {m : String × String}
    (hvalid : validKey m.1 = true ∧ validValue m.2 = true)
    (hlong : maxStateLength < headerLength [m]) : Oversized ⟨[m]⟩ := by
  have hkey := (utf8ByteSize_key hvalid.1).2
  have hvalue := (utf8ByteSize_value hvalid.2).2
  rw [headerLength_singleton] at hlong
  simp only [maxStateLength, maxStateTextLength] at hkey hvalue hlong
  refine ⟨m, rfl, ?_, ?_⟩ <;> simp only [maxStateTextLength] <;> omega

theorem Oversized.headerLength_eq {state : TraceState} (h : state.Oversized) :
    headerLength state.members = maxStateLength + 1 := by
  obtain ⟨m, hm, hkey, hvalue⟩ := h
  rw [hm, headerLength_singleton, hkey, hvalue]
  rfl

/-! ### Which trace states can be built -/

/-- A member is inserted where there is none. -/
theorem insert_empty {m : String × String} (h : validKey m.1 = true ∧ validValue m.2 = true) :
    empty.insert m.1 m.2 = .ok ⟨[m]⟩ :=
  insert_eq_ok_iff.2 ⟨h, congrArg TraceState.mk (evict_of_fits rfl).symm⟩

/-- Only a single member can be too long. -/
theorem Obtainable.headerLength_le_or_oversized {state : TraceState} (h : state.Obtainable) :
    headerLength state.members ≤ maxStateLength ∨ state.Oversized := by
  obtain ⟨hvalid, hfits⟩ := h.valid_and_fits
  rcases (fits_iff.1 hfits).2 with hone | hle
  · obtain ⟨members⟩ := state
    rcases Nat.lt_or_ge maxStateLength (headerLength members) with hlong | hle
    · match members, hone with
      | [], _ => exact absurd hlong (by decide)
      | [m], _ =>
        exact .inr (oversized_of_lt_headerLength (hvalid m (List.mem_singleton_self m)) hlong)
    · exact .inl hle
  · exact .inl hle

/-- **The trace states that can be built** are those with valid members that are not too many and, but for
a single member that is as long as it may be, not too long. -/
theorem obtainable_iff {state : TraceState} :
    state.Obtainable ↔ ValidMembers state.members ∧ state.members.length ≤ maxStateMembers ∧
      (headerLength state.members ≤ maxStateLength ∨ state.Oversized) := by
  constructor
  · intro h
    obtain ⟨hvalid, hfits⟩ := h.valid_and_fits
    exact ⟨hvalid, (fits_iff.1 hfits).1, h.headerLength_le_or_oversized⟩
  · rintro ⟨hvalid, hcount, hle | ⟨m, hm, -⟩⟩
    · exact .ofPairs (ofPairs_eq_ok_iff.2 ⟨rfl, hvalid, hcount, hle⟩)
    · obtain ⟨members⟩ := state
      obtain rfl : members = [m] := hm
      exact .insert .empty (insert_empty (hvalid m (List.mem_singleton_self m)))

/-! ### The limits -/

/-- The limits of a trace state, and its length as it is counted. -/
structure WithinLimits (state : TraceState) : Prop where
  /-- There are at most 32 members. -/
  count : state.members.length ≤ maxStateMembers
  /-- Keys and values are as the grammar has them. -/
  valid : ValidMembers state.members
  /-- The text takes at most 512 bytes. -/
  size : state.header.utf8ByteSize ≤ maxStateLength
  /-- The length that is counted is that of the text. -/
  headerLength_eq : headerLength state.members = state.header.utf8ByteSize

/-- **A trace state that can be built is within the limits unless it is oversized**, and in any case it has
at most 32 members, all of them valid, and its length is counted as that of its text. -/
theorem withinLimits_iff {state : TraceState} (h : state.Obtainable) :
    (state.WithinLimits ↔ ¬state.Oversized) ∧ state.members.length ≤ maxStateMembers ∧
      ValidMembers state.members ∧ headerLength state.members = state.header.utf8ByteSize := by
  obtain ⟨hvalid, hcount, hlength⟩ := obtainable_iff.1 h
  have hheader : headerLength state.members = state.header.utf8ByteSize :=
    (utf8ByteSize_header state).symm
  refine ⟨⟨fun hlimits hover => ?_, fun hnot => ?_⟩, hcount, hvalid, hheader⟩
  · have hsize := hlimits.size
    rw [← hheader, hover.headerLength_eq] at hsize
    exact absurd hsize (by decide)
  · exact ⟨hcount, hvalid, hheader ▸ hlength.resolve_right hnot, hheader⟩

/-- A member is updated, which moves it to the front. -/
theorem withinLimits_updated :
    ∃ state : TraceState, state.Obtainable ∧ state.members = [("rojo", "2"), ("congo", "t61rcWkgMzE")] ∧
      state.WithinLimits := by
  have hpairs : ofPairs [("congo", "t61rcWkgMzE"), ("rojo", "1")] =
      .ok ⟨[("congo", "t61rcWkgMzE"), ("rojo", "1")]⟩ := by decide +kernel
  have hinsert : (TraceState.mk [("congo", "t61rcWkgMzE"), ("rojo", "1")]).insert "rojo" "2" =
      .ok ⟨[("rojo", "2"), ("congo", "t61rcWkgMzE")]⟩ := by decide +kernel
  have hstate := Obtainable.insert (.ofPairs hpairs) hinsert
  have hnot : ¬Oversized ⟨[("rojo", "2"), ("congo", "t61rcWkgMzE")]⟩ := by
    rintro ⟨m, hm, -⟩
    cases hm
  exact ⟨_, hstate, rfl, (withinLimits_iff hstate).1.2 hnot⟩

/-! ### The longest member -/

/-- A key and a value of 256 characters each. -/
def longestMember : String × String :=
  (String.ofList (List.replicate 256 'a'), String.ofList (List.replicate 256 'b'))

theorem toList_longestMember : longestMember.1.toList = List.replicate 256 'a' ∧
    longestMember.2.toList = List.replicate 256 'b' :=
  ⟨String.toList_ofList, String.toList_ofList⟩

theorem valid_longestMember :
    validKey longestMember.1 = true ∧ validValue longestMember.2 = true := by
  rw [validKey, validValue, toList_longestMember.1, toList_longestMember.2]
  decide +kernel

theorem oversized_longestMember : Oversized ⟨[longestMember]⟩ := by
  obtain ⟨hkey, hvalue⟩ := valid_longestMember
  refine ⟨longestMember, rfl, ?_, ?_⟩
  · rw [(utf8ByteSize_key hkey).1, toList_longestMember.1, List.length_replicate]
    rfl
  · rw [(utf8ByteSize_value hvalue).1, toList_longestMember.2, List.length_replicate]
    rfl

/-- The text of a trace state that was built by one insertion may take 513 bytes. -/
theorem not_withinLimits_longestMember :
    empty.insert longestMember.1 longestMember.2 = .ok ⟨[longestMember]⟩ ∧
      ¬WithinLimits ⟨[longestMember]⟩ := by
  refine ⟨insert_empty valid_longestMember, fun hlimits => ?_⟩
  have hsize := hlimits.size
  rw [utf8ByteSize_header, oversized_longestMember.headerLength_eq] at hsize
  exact absurd hsize (by decide)

end Telemetry.TraceState
