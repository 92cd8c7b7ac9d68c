import Mathlib.Tactic
import Telemetry.Trace.State

/-!
# Which trace states there are

`TraceState.Obtainable` is the trace states that can be built: from nothing, from pairs, from a text, and
from another one by `insert` and `delete`.  What they have in common is that their members are valid and
that they fit (`Obtainable.valid`, `Obtainable.fits`): there are at most 32 members, and unless there is
only one, they take at most 512 bytes in text.

Each operation has one lemma that says when it succeeds and with what.
-/

namespace Telemetry

/-! ### Characters of keys and values -/

theorem isStateValueChar_iff {c : Char} :
    isStateValueChar c = true ↔ (0x20 ≤ c.toNat ∧ c.toNat ≤ 0x7e) ∧ c ≠ ',' ∧ c ≠ '=' := by
  simp [isStateValueChar, and_assoc]

/-- A character of a key may stand in a value, and it is no space. -/
theorem isStateValueChar_of_key {c : Char} (h : isStateKeyChar c = true) :
    isStateValueChar c = true ∧ c ≠ ' ' := by
  have hne : ∀ d, isStateKeyChar d = false → c ≠ d := by
    rintro d hd rfl
    rw [h] at hd
    cases hd
  refine ⟨isStateValueChar_iff.2 ⟨?_, hne _ (by decide), hne _ (by decide)⟩, hne _ (by decide)⟩
  have hrange : ∀ low high : UInt32, (decide (low ≤ c.val) && decide (c.val ≤ high)) = true →
      low.toNat ≤ c.toNat ∧ c.toNat ≤ high.toNat := by
    intro low high hc
    rw [Bool.and_eq_true, decide_eq_true_iff, decide_eq_true_iff, UInt32.le_iff_toNat_le,
      UInt32.le_iff_toNat_le] at hc
    exact hc
  simp only [isStateKeyChar, isLowerAlphanum, Bool.or_eq_true, beq_iff_eq] at h
  rcases h with (((((h | h) | rfl) | rfl) | rfl) | rfl) | rfl
  · have hc : 97 ≤ c.toNat ∧ c.toNat ≤ 122 := hrange 97 122 h
    omega
  · have hc : 48 ≤ c.toNat ∧ c.toNat ≤ 57 := hrange 48 57 h
    omega
  all_goals decide

/-- Of the characters of values, only the space is white space. -/
theorem isBlank_of_value {c : Char} (h : isStateValueChar c = true) :
    Text.isBlank c = true ↔ c = ' ' := by
  obtain ⟨⟨hlow, hhigh⟩, -⟩ := isStateValueChar_iff.1 h
  have hspace : c = ' ' ↔ c.toNat = 32 :=
    ⟨fun h => by rw [h]; rfl, fun h => Char.toNat_inj.1 h⟩
  -- Between 32 and 126 the set of blank characters changes only at 33.
  have hinside : Text.isBlank c = decide (c.toNat < 33) := by
    simp only [Text.isBlank, Text.CharSet.contains, Text.whiteSpace, Text.CharSet.inside]
    rw [if_neg (by omega), if_neg (by omega), if_neg (by omega)]
    by_cases hc : c.toNat < 33
    · simp [hc]
    · rw [if_neg hc, if_pos (by omega)]
      simp [hc]
  rw [hinside, hspace, decide_eq_true_iff]
  omega

theorem mem_key {key : String} (h : validKey key = true) :
    key.toList ≠ [] ∧ ∀ c ∈ key.toList, isStateKeyChar c = true := by
  simp only [validKey, Bool.and_eq_true, decide_eq_true_eq] at h
  obtain ⟨⟨⟨⟨hpos, -⟩, hall⟩, -⟩, -⟩ := h
  exact ⟨List.ne_nil_of_length_pos hpos, List.all_eq_true.1 hall⟩

theorem mem_value {value : String} (h : validValue value = true) :
    value.toList.length ≤ maxStateTextLength ∧
      ∀ c ∈ value.toList, isStateValueChar c = true := by
  simp only [validValue, Bool.and_eq_true, decide_eq_true_eq] at h
  exact ⟨h.1, List.all_eq_true.1 h.2⟩

namespace TraceState

/-! ### Checking members -/

/-- Keys and values are as the grammar has them. -/
def ValidMembers (members : List (String × String)) : Prop :=
  ∀ m ∈ members, validKey m.1 = true ∧ validValue m.2 = true

theorem checkMember_eq_ok_iff {m : String × String} :
    checkMember m = .ok () ↔ validKey m.1 = true ∧ validValue m.2 = true := by
  unfold checkMember
  by_cases hkey : validKey m.1 = true
  · by_cases hvalue : validValue m.2 = true
    · simp [hkey, hvalue]
    · simp [hkey, hvalue]
  · simp [hkey]

theorem forM_checkMember_eq_ok_iff {members : List (String × String)} :
    members.forM checkMember = .ok () ↔ ValidMembers members := by
  induction members with
  | nil => exact iff_of_true rfl fun _ hm => (nomatch hm)
  | cons m rest ih =>
    rw [ValidMembers, List.forall_mem_cons, ← ValidMembers, ← ih, ← checkMember_eq_ok_iff]
    show (checkMember m >>= fun _ => rest.forM checkMember) = .ok () ↔ _
    cases checkMember m with
    | error e => exact iff_of_false nofun fun h => nomatch h.1
    | ok => exact ⟨fun h => ⟨rfl, h⟩, fun h => h.2⟩

/-! ### Length in text -/

/-- An ASCII text has one byte for each character. -/
theorem utf8ByteSize_of_ascii {s : String} (h : ∀ c ∈ s.toList, c.toNat < 0x80) :
    s.utf8ByteSize = s.toList.length := by
  induction s using String.push_induction with
  | empty => rfl
  | push s c ih =>
    rw [String.toList_push] at h ⊢
    obtain ⟨hs, hc⟩ := List.forall_mem_append.1 h
    have hone : c.utf8Size = 1 := Char.utf8Size_eq_one_iff.2
      (UInt32.le_iff_toNat_le.2 (Nat.le_of_lt_succ (hc c (List.mem_singleton_self c))))
    rw [String.utf8ByteSize_push, ih hs, hone, List.length_append, List.length_singleton]

theorem headerLength_cons_cons (m next : String × String) (more : List (String × String)) :
    headerLength (m :: next :: more) =
      (m.1.utf8ByteSize + 1 + m.2.utf8ByteSize) + 1 + headerLength (next :: more) := by
  simp only [headerLength, List.map_cons, List.foldr_cons, List.length_cons]
  omega

/-- **The length is that of the text.** -/
theorem utf8ByteSize_header (state : TraceState) :
    state.header.utf8ByteSize = headerLength state.members := by
  obtain ⟨members⟩ := state
  have hmember : ∀ m : String × String, (m.1 ++ "=" ++ m.2).utf8ByteSize =
      m.1.utf8ByteSize + 1 + m.2.utf8ByteSize := fun m => by
    rw [String.utf8ByteSize_append, String.utf8ByteSize_append]
    rfl
  unfold header delimited
  dsimp only
  induction members with
  | nil => rfl
  | cons m rest ih =>
    cases rest with
    | nil => simpa [headerLength] using hmember m
    | cons next more =>
      rw [headerLength_cons_cons, ← ih, ← hmember, List.map_cons, List.map_cons,
        String.intercalate_cons_cons, String.utf8ByteSize_append, String.utf8ByteSize_append]
      rfl

/-- Fewer members are not longer. -/
theorem headerLength_le_of_sublist {members members' : List (String × String)}
    (h : members'.Sublist members) : headerLength members' ≤ headerLength members := by
  have hsum := (h.map fun m => m.1.utf8ByteSize + 1 + m.2.utf8ByteSize).sum_le_sum
    fun _ _ => Nat.zero_le _
  have hlength := h.length_le
  show List.sum _ + _ ≤ List.sum _ + _
  omega

theorem fits_iff {members : List (String × String)} :
    fits members = true ↔ members.length ≤ maxStateMembers ∧
      (members.length ≤ 1 ∨ headerLength members ≤ maxStateLength) := by
  simp [fits]

theorem fits_of_sublist {members members' : List (String × String)}
    (h : members'.Sublist members) (hfits : fits members = true) : fits members' = true := by
  have hlength := h.length_le
  have hheader := headerLength_le_of_sublist h
  rw [fits_iff] at hfits ⊢
  omega

/-! ### When an operation succeeds, and with what -/

/-- Valid members are refused if there are too many of them, or else if they are too long. -/
theorem ofPairs_of_valid {members : List (String × String)} (h : ValidMembers members) :
    ofPairs members =
      if maxStateMembers < members.length then
        .error (.invalidArgument (.tooManyMembers members.length maxStateMembers))
      else if maxStateLength < headerLength members then
        .error (.invalidArgument (.stateTooLong maxStateLength))
      else .ok ⟨members⟩ := by
  unfold ofPairs
  rw [forM_checkMember_eq_ok_iff.2 h]
  by_cases hcount : maxStateMembers < members.length
  · rw [if_pos hcount, if_pos hcount]
    rfl
  · rw [if_neg hcount, if_neg hcount]
    by_cases hlength : maxStateLength < headerLength members
    · rw [if_pos hlength]
      simp only [if_pos hlength]
      rfl
    · rw [if_neg hlength]
      simp only [if_neg hlength]
      rfl

theorem ofPairs_eq_ok_iff {members : List (String × String)} {state : TraceState} :
    ofPairs members = .ok state ↔ state = ⟨members⟩ ∧ ValidMembers members ∧
      members.length ≤ maxStateMembers ∧ headerLength members ≤ maxStateLength := by
  by_cases hvalid : ValidMembers members
  · rw [ofPairs_of_valid hvalid]
    by_cases hcount : maxStateMembers < members.length
    · rw [if_pos hcount]
      exact iff_of_false nofun fun h => absurd h.2.2.1 (Nat.not_le.2 hcount)
    · rw [if_neg hcount]
      by_cases hlength : maxStateLength < headerLength members
      · rw [if_pos hlength]
        exact iff_of_false nofun fun h => absurd h.2.2.2 (Nat.not_le.2 hlength)
      · rw [if_neg hlength, Except.ok.injEq]
        constructor
        · rintro rfl
          exact ⟨rfl, hvalid, Nat.not_lt.1 hcount, Nat.not_lt.1 hlength⟩
        · rintro ⟨rfl, -⟩
          rfl
  · refine iff_of_false (fun h => ?_) fun h => hvalid h.2.1
    unfold ofPairs at h
    cases hcheck : members.forM checkMember with
    | ok => exact hvalid (forM_checkMember_eq_ok_iff.1 hcheck)
    | error e =>
      rw [hcheck] at h
      cases h

theorem insert_eq_ok_iff {state state' : TraceState} {key value : String} :
    state.insert key value = .ok state' ↔ (validKey key = true ∧ validValue value = true) ∧
      state' = ⟨evict ((key, value) :: (state.remove key).members)⟩ := by
  have hcheck := checkMember_eq_ok_iff (m := (key, value))
  unfold insert
  cases h : checkMember (key, value) with
  | error e =>
    rw [h] at hcheck
    exact iff_of_false nofun fun h' => nomatch hcheck.2 h'.1
  | ok =>
    rw [h] at hcheck
    have hvalid := hcheck.1 rfl
    show Except.ok _ = Except.ok state' ↔ _
    rw [Except.ok.injEq]
    constructor
    · rintro rfl
      exact ⟨hvalid, rfl⟩
    · rintro ⟨-, rfl⟩
      rfl

theorem delete_eq_ok_iff {state state' : TraceState} {key : String} :
    state.delete key = .ok state' ↔ validKey key = true ∧ state' = state.remove key := by
  unfold delete checkKey
  by_cases hkey : validKey key = true
  · rw [if_pos hkey]
    show Except.ok _ = Except.ok state' ↔ _
    rw [Except.ok.injEq]
    constructor
    · rintro rfl
      exact ⟨hkey, rfl⟩
    · rintro ⟨-, rfl⟩
      rfl
  · rw [if_neg hkey]
    exact iff_of_false nofun fun h => hkey h.1

/-! ### Making room -/

/-- Members are given up from the end. -/
theorem prefix_evict (members : List (String × String)) : evict members <+: members := by
  fun_induction evict members with
  | case1 members h => exact List.prefix_refl _
  | case2 members h ih => exact ih.trans (List.dropLast_prefix members)

theorem evict_of_fits {members : List (String × String)} (h : fits members = true) :
    evict members = members := by
  rw [evict, dif_pos h]

theorem fits_evict (members : List (String × String)) : fits (evict members) = true := by
  fun_induction evict members with
  | case1 members h => exact h
  | case2 members h ih => exact ih

/-! ### Trace states that can be built -/

/-- A trace state that was built by some sequence of operations. -/
inductive Obtainable : TraceState → Prop
  /-- There is nothing in it. -/
  | empty : Obtainable .empty
  /-- It was built from pairs. -/
  | ofPairs {members : List (String × String)} {state : TraceState}
      (h : TraceState.ofPairs members = .ok state) : Obtainable state
  /-- It was read. -/
  | ofHeader {s : String} {state : TraceState} (h : TraceState.ofHeader s = .ok state) :
      Obtainable state
  /-- A member was inserted. -/
  | insert {state state' : TraceState} {key value : String} (hstate : Obtainable state)
      (h : state.insert key value = .ok state') : Obtainable state'
  /-- A member was deleted. -/
  | delete {state state' : TraceState} {key : String} (hstate : Obtainable state)
      (h : state.delete key = .ok state') : Obtainable state'

/-- What is read was built from pairs. -/
theorem exists_ofPairs_of_ofHeader {s : String} {state : TraceState}
    (h : ofHeader s = .ok state) : ∃ members, ofPairs members = .ok state := by
  unfold ofHeader at h
  cases hread : (((Text.pieces ',' s.toList).map Text.trim).filter (!·.isEmpty)).mapM
      readMember with
  | error e =>
    simp only [hread] at h
    cases h
  | ok members =>
    simp only [hread] at h
    exact ⟨members, h⟩

theorem ofPairs_fits {members : List (String × String)} {state : TraceState}
    (h : ofPairs members = .ok state) :
    ValidMembers state.members ∧ TraceState.fits state.members = true := by
  obtain ⟨rfl, hvalid, hcount, hlength⟩ := ofPairs_eq_ok_iff.1 h
  exact ⟨hvalid, fits_iff.2 ⟨hcount, .inr hlength⟩⟩

/-- **Trace states that can be built have valid members and fit.** -/
theorem Obtainable.valid_and_fits {state : TraceState} (h : Obtainable state) :
    ValidMembers state.members ∧ TraceState.fits state.members = true := by
  induction h with
  | empty => exact ⟨fun _ hm => (nomatch hm), rfl⟩
  | ofPairs h => exact ofPairs_fits h
  | ofHeader h =>
    obtain ⟨members, hpairs⟩ := exists_ofPairs_of_ofHeader h
    exact ofPairs_fits hpairs
  | @insert state state' key value _ h ih =>
    obtain ⟨hmember, rfl⟩ := insert_eq_ok_iff.1 h
    refine ⟨?_, fits_evict _⟩
    -- What is left after the eviction is the new member or an old one.
    intro m hm
    rcases List.mem_cons.1 ((prefix_evict _).subset hm) with rfl | hm
    · exact hmember
    · exact ih.1 m (List.eraseP_subset hm)
  | delete _ h ih =>
    obtain ⟨-, rfl⟩ := delete_eq_ok_iff.1 h
    exact ⟨fun m hm => ih.1 m (List.eraseP_subset hm), fits_of_sublist List.eraseP_sublist ih.2⟩

end TraceState

end Telemetry
