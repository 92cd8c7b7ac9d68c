import Mathlib.Data.List.Forall2
import Telemetry.Proofs.Trace.StateHeader

/-!
# Texts of trace states

Which texts are read as trace states, said without the reader.  Each piece between commas that is not only
white space spells a member: the key in front of its first equals sign and the value behind it, without the
white space around them.  `ofHeader_eq_ok_iff` says that a text is read exactly if it `Lists` valid members,
not too many and not too long, and `ofHeader_lists` that the trace state that is read gives itself back: its
text is read as the same trace state.
-/

namespace Telemetry.TraceState

/-! ### Pieces and members -/

/-- The pieces of a text between commas, those of white space only left out. -/
def memberPieces (s : String) : List (List Char) :=
  (Text.pieces ',' s.toList).filter fun piece => piece.any fun c => !Text.isBlank c

/-- The piece spells the member: it is cut at its first equals sign, and white space around the two parts
does not count. -/
def Spells (piece : List Char) (m : String × String) : Prop :=
  ∃ before after, piece = before ++ '=' :: after ∧ '=' ∉ before ∧
    m.1.toList = Text.trim before ∧ m.2.toList = Text.trim after

/-- A member is read from the piece that spells it. -/
theorem readMember_trim_eq_ok_iff {piece : List Char} {m : String × String} :
    readMember (Text.trim piece) = .ok m ↔ Spells piece m := by
  unfold readMember
  cases hcut : Text.cut? '=' piece with
  | none =>
    have hnot := Text.cut?_eq_none_iff.1 hcut
    rw [Text.cut?_eq_none_iff.2 fun h => hnot ((Text.trim_sublist piece).subset h)]
    refine iff_of_false nofun ?_
    rintro ⟨before, after, rfl, -⟩
    exact hnot List.mem_append_cons_self
  | some parts =>
    obtain ⟨before, after⟩ := parts
    obtain ⟨hpiece, hnot⟩ := Text.cut?_eq_some_iff.1 hcut
    have hdrop : '=' ∉ before.dropWhile Text.isBlank := fun h =>
      hnot ((List.dropWhile_sublist _).subset h)
    rw [hpiece, Text.trim_append_cons_of_not_blank (by decide), Text.cut?_append hdrop]
    simp only [Text.trim_dropWhile, Text.trim_trimEnd, Except.ok.injEq]
    constructor
    · rintro rfl
      exact ⟨before, after, rfl, hnot, String.toList_ofList, String.toList_ofList⟩
    · rintro ⟨before', after', hpiece', hnot', hkey, hvalue⟩
      have hcut' := Text.cut?_append hnot' after'
      rw [← hpiece', Text.cut?_append hnot] at hcut'
      obtain ⟨rfl, rfl⟩ := Prod.mk.inj (Option.some.inj hcut')
      rw [← hkey, ← hvalue, String.ofList_toList, String.ofList_toList]

/-- The pieces that are read are those that are not only white space. -/
theorem filter_map_trim_pieces (s : String) :
    ((Text.pieces ',' s.toList).map Text.trim).filter (!·.isEmpty) =
      (memberPieces s).map Text.trim := by
  rw [List.filter_map, memberPieces]
  congr 2
  funext piece
  rw [Function.comp_apply, Bool.eq_iff_iff, Bool.not_eq_true', List.isEmpty_eq_false_iff, ne_eq,
    Text.trim_eq_nil_iff]
  simp

/-- A list is read if each part of it is. -/
theorem mapM_eq_ok_iff {α β ε : Type} {read : α → Except ε β} {xs : List α} {ys : List β} :
    xs.mapM read = .ok ys ↔ List.Forall₂ (fun x y => read x = .ok y) xs ys := by
  induction xs generalizing ys with
  | nil =>
    rw [List.forall₂_nil_left_iff]
    exact ⟨fun h => (Except.ok.inj h).symm, fun h => congrArg Except.ok h.symm⟩
  | cons x rest ih =>
    rw [List.mapM_cons, List.forall₂_cons_left_iff]
    cases hx : read x with
    | error e =>
      refine iff_of_false nofun ?_
      rintro ⟨y, more, hy, -⟩
      cases hy
    | ok y =>
      show (rest.mapM read >>= fun more => pure (y :: more)) = _ ↔ _
      cases hrest : rest.mapM read with
      | error e =>
        refine iff_of_false nofun ?_
        rintro ⟨y', more, -, hmore, -⟩
        rw [← ih, hrest] at hmore
        cases hmore
      | ok more =>
        have hmore := ih.1 hrest
        constructor
        · intro h
          exact ⟨y, more, rfl, hmore, (Except.ok.inj h).symm⟩
        · rintro ⟨y', more', hy, hmore', rfl⟩
          rw [← ih, hrest] at hmore'
          cases hy
          cases hmore'
          rfl

/-! ### What is read -/

/-- The text lists the given members of a trace state. -/
structure Lists (s : String) (members : List (String × String)) : Prop where
  /-- Each piece that is not only white space spells a member. -/
  spelled : List.Forall₂ Spells (memberPieces s) members
  /-- Keys and values are as the grammar has them. -/
  valid : ValidMembers members
  /-- There are at most 32 of these pieces. -/
  count : (memberPieces s).length ≤ maxStateMembers
  /-- The members with commas between them take at most 512 bytes. -/
  size : (String.ofList (Text.join [','] (members.map memberText))).utf8ByteSize ≤ maxStateLength

theorem ofList_join (members : List (String × String)) :
    String.ofList (Text.join [','] (members.map memberText)) = (TraceState.mk members).header := by
  rw [← String.toList_inj, String.toList_ofList, toList_header]

/-- Members that are listed may form a trace state. -/
theorem ofPairs_eq_ok_iff_lists {s : String} {members : List (String × String)}
    (h : List.Forall₂ Spells (memberPieces s) members) {state : TraceState} :
    ofPairs members = .ok state ↔ state = ⟨members⟩ ∧ Lists s members := by
  have hsize : (String.ofList (Text.join [','] (members.map memberText))).utf8ByteSize =
      headerLength members := by
    rw [ofList_join, utf8ByteSize_header]
  rw [ofPairs_eq_ok_iff, ← hsize, ← h.length_eq]
  refine and_congr_right fun _ => ⟨?_, fun hlists => ⟨hlists.valid, hlists.count, hlists.size⟩⟩
  rintro ⟨hvalid, hcount, hlength⟩
  exact ⟨h, hvalid, hcount, hlength⟩

/-- **A text is read exactly if it lists members**, and the trace state then has these members. -/
theorem ofHeader_eq_ok_iff {s : String} {state : TraceState} :
    ofHeader s = .ok state ↔ Lists s state.members := by
  have hread {members : List (String × String)} :
      ((memberPieces s).map Text.trim).mapM readMember = .ok members ↔
        List.Forall₂ Spells (memberPieces s) members := by
    simp only [mapM_eq_ok_iff, List.forall₂_map_left_iff, readMember_trim_eq_ok_iff]
  unfold ofHeader
  rw [filter_map_trim_pieces]
  dsimp only
  cases hmembers : ((memberPieces s).map Text.trim).mapM readMember with
  | error e =>
    refine iff_of_false nofun fun h => ?_
    rw [hread.2 h.spelled] at hmembers
    cases hmembers
  | ok members =>
    show ofPairs members = .ok state ↔ _
    rw [ofPairs_eq_ok_iff_lists (hread.1 hmembers)]
    constructor
    · rintro ⟨rfl, h⟩
      exact h
    · intro h
      rw [hread.2 h.spelled] at hmembers
      obtain rfl := Except.ok.inj hmembers
      exact ⟨rfl, h⟩

/-! ### The text of what is read -/

/-- What is read has no white space around the values. -/
theorem map_trimmedMember_of_spelled {texts : List (List Char)} {members : List (String × String)}
    (h : List.Forall₂ Spells texts members) : members.map trimmedMember = members := by
  induction h with
  | nil => rfl
  | @cons text m texts members hm _ ih =>
    obtain ⟨before, after, -, -, -, hvalue⟩ := hm
    have htrim : trimmedMember m = m := by
      rw [trimmedMember, hvalue, Text.trim_trim, ← hvalue, String.ofList_toList]
    rw [List.map_cons, htrim, ih]

/-- What is read is read again from its own text. -/
theorem Lists.ofHeader_header {s : String} {state : TraceState} (h : Lists s state.members) :
    ofHeader state.header = .ok state := by
  have htrimmed : state.trimmed = state := by
    rw [trimmed, map_trimmedMember_of_spelled h.spelled]
  rw [TraceState.ofHeader_header h.valid, htrimmed, ofPairs_eq_ok_iff_lists h.spelled]
  exact ⟨rfl, h⟩

/-- A log shows a list of members exactly if there are members. -/
theorem describe_eq_iff {state : TraceState} :
    state.describe = "TraceState(None)" ↔ state = .empty := by
  obtain ⟨members⟩ := state
  unfold describe isEmpty
  cases members with
  | nil => exact iff_of_true rfl rfl
  | cons m rest =>
    refine iff_of_false (fun h => ?_) nofun
    have htake := congrArg (fun text : String => text.toList.take 12) h
    simp only [List.isEmpty_cons, Bool.false_eq_true, if_false, String.toList_append,
      List.append_assoc] at htake
    rw [List.take_append_of_le_length (by decide)] at htake
    exact absurd htake (by decide)

/-- **The texts of trace states**: a text is read exactly if it lists members, and the trace state then has
these members. Its own text puts commas between them, and is read as the same trace state. Where no members
are listed, the trace state is the empty one, in which there is no list. -/
theorem ofHeader_lists (s : String) (state : TraceState) :
    (ofHeader s = .ok state ↔ Lists s state.members) ∧
      (Lists s state.members →
        state.header = String.ofList (Text.join [','] (state.members.map memberText)) ∧
        ofHeader state.header = .ok state ∧ (memberPieces s = [] ↔ state = .empty) ∧
        (state = .empty ↔ state.describe = "TraceState(None)")) := by
  refine ⟨ofHeader_eq_ok_iff, fun h => ⟨(ofList_join state.members).symm, h.ofHeader_header, ?_,
    describe_eq_iff.symm⟩⟩
  have hempty : state = .empty ↔ state.members = [] := by
    obtain ⟨members⟩ := state
    rw [empty, TraceState.mk.injEq]
  rw [hempty, ← List.length_eq_zero_iff, ← List.length_eq_zero_iff, h.spelled.length_eq]

example : (ofHeader " foo = bar ,\tapple=banana , ").map header = .ok "foo=bar,apple=banana" := by
  decide +kernel

end Telemetry.TraceState
