import Telemetry.Proofs.Trace.StateInsertion
import Telemetry.Proofs.Trace.StateText

/-!
# Keys of trace states

How often a key occurs in a trace state.  Members that are given at once, as pairs or in a text, are all kept,
also where they repeat a key.  An insertion and a deletion act on the first member of their key, so neither
makes a key occur twice that did not before (`count_apply_le`).  `count_run` says so of every sequence of calls:
a key occurs at most once, or at most as often as among the members that one of the calls gave.  What a
deletion leaves (`Deleted`) and what stands in the text of a trace state (`textKeys_header`) follow.
-/

namespace Telemetry.TraceState

/-- The keys of the members, in order. -/
def keys (state : TraceState) : List String := state.members.map Prod.fst

/-! ### Keys in a text -/

/-- The key that stands in a piece of a text, in front of the first equals sign. -/
def pieceKey? (piece : List Char) : Option String :=
  (Text.cut? '=' piece).map fun parts => String.ofList (Text.trim parts.1)

/-- The keys that stand in a text, in order. -/
def textKeys (s : String) : List String := (memberPieces s).filterMap pieceKey?

theorem pieceKey?_of_spells {piece : List Char} {m : String × String} (h : Spells piece m) :
    pieceKey? piece = some m.1 := by
  obtain ⟨before, after, rfl, hnot, hkey, -⟩ := h
  rw [pieceKey?, Text.cut?_append hnot, Option.map_some, ← hkey, String.ofList_toList]

theorem textKeys_of_spelled {s : String} {members : List (String × String)}
    (h : List.Forall₂ Spells (memberPieces s) members) : textKeys s = members.map Prod.fst := by
  unfold textKeys
  generalize memberPieces s = texts at h ⊢
  induction h with
  | nil => rfl
  | cons hm _ ih => rw [List.filterMap_cons_some (pieceKey?_of_spells hm), ih, List.map_cons]

/-- **The keys of a trace state stand in its text**, in order and as often as they occur. -/
theorem textKeys_header {state : TraceState} (h : ValidMembers state.members) :
    textKeys state.header = state.keys := by
  have hspelled : List.Forall₂ Spells (memberPieces state.header) state.trimmed.members := by
    have hread := mapM_readMember h
    rw [← pieces_header h, filter_map_trim_pieces, mapM_eq_ok_iff, List.forall₂_map_left_iff] at hread
    exact hread.imp fun _ _ => readMember_trim_eq_ok_iff.1
  rw [textKeys_of_spelled hspelled, trimmed, List.map_map]
  rfl

/-! ### Looking up and deleting -/

theorem get?_eq_none_iff {state : TraceState} {key : String} :
    state.get? key = none ↔ key ∉ state.keys := by
  simp only [get?, keys, Option.map_eq_none_iff, List.find?_eq_none, List.mem_map, not_exists,
    not_and, beq_iff_eq]

theorem keys_remove (state : TraceState) (key : String) :
    (state.remove key).keys = state.keys.erase key := by
  rw [keys, keys, remove, List.erase_eq_eraseP', List.eraseP_map]
  rfl

/-- Other keys are looked up behind a member as without it. -/
theorem get?_remove_of_ne {state : TraceState} {key other : String} (h : other ≠ key) :
    (state.remove key).get? other = state.get? other := by
  rcases withoutFirst_iff.2 (rfl : (state.remove key).members = _) with ⟨-, hrest⟩ |
    ⟨before, value, after, -, hmembers, hrest⟩
  · rw [get?, hrest, get?]
  · have hne : (key == other) = false := beq_eq_false_iff_ne.2 h.symm
    simp only [get?, hrest, hmembers, List.find?_append, List.find?_cons, hne]

/-- What a deletion leaves of a trace state. -/
structure Deleted (state : TraceState) (key : String) (result : TraceState) : Prop where
  /-- The first member of the key is gone, and all others are there in order. -/
  rest : WithoutFirst key state.members result.members
  /-- Nothing is found any more if the key occurred only once. -/
  lookup : result.get? key = none ↔ state.keys.count key ≤ 1
  /-- Other keys keep their values. -/
  others : ∀ other ≠ key, result.get? other = state.get? other

theorem deleted_remove (state : TraceState) (key : String) : Deleted state key (state.remove key) where
  rest := withoutFirst_iff.2 rfl
  lookup := by
    rw [get?_eq_none_iff, keys_remove, ← List.count_eq_zero, List.count_erase_self]
    omega
  others _ h := get?_remove_of_ne h

/-! ### Insertions -/

/-- An insertion gives its key one member, in place of the first one that it had. -/
theorem count_insert {state result : TraceState} {key value : String}
    (h : state.insert key value = .ok result) (other : String) :
    result.keys.count other ≤ max 1 (state.keys.count other) ∧ 1 ≤ result.keys.count key := by
  obtain ⟨-, rest, kept, hrest, hlongest, hmembers⟩ := insert_eq_ok_iff_inserted.1 h
  have hkeys : result.keys = key :: kept.map Prod.fst := by rw [keys, hmembers, List.map_cons]
  have hkept : (kept.map Prod.fst).Sublist (state.keys.erase key) := by
    rw [← keys_remove, keys, ← withoutFirst_iff.1 hrest]
    exact hlongest.isPrefix.sublist.map Prod.fst
  have hcount := hkept.count_le other
  rw [hkeys]
  refine ⟨?_, List.one_le_count_iff.2 List.mem_cons_self⟩
  by_cases hother : other = key
  · subst hother
    rw [List.count_erase_self] at hcount
    rw [List.count_cons_self]
    omega
  · rw [List.count_erase_of_ne hother] at hcount
    rw [List.count_cons_of_ne (Ne.symm hother)]
    exact hcount.trans (Nat.le_max_right _ _)

/-! ### Sequences of calls -/

/-- A call that returns a trace state. -/
inductive Call where
  /-- A trace state is built from pairs. -/
  | ofPairs (members : List (String × String))
  /-- A trace state is read. -/
  | ofHeader (s : String)
  /-- A member is inserted. -/
  | insert (key value : String)
  /-- A member is deleted. -/
  | delete (key : String)

namespace Call

/-- What the call returns, where `state` is the trace state so far. -/
def apply (state : TraceState) : Call → Except TraceError TraceState
  | .ofPairs members => TraceState.ofPairs members
  | .ofHeader s => TraceState.ofHeader s
  | .insert key value => state.insert key value
  | .delete key => state.delete key

/-- The keys of the members that the call gives at once. -/
def given : Call → List String
  | .ofPairs members => members.map Prod.fst
  | .ofHeader s => textKeys s
  | .insert _ _ | .delete _ => []

end Call

/-- The trace state after the calls, one after the other. A call that fails leaves it as it is. -/
def run (calls : List Call) : TraceState :=
  calls.foldl (fun state call => (call.apply state).toOption.getD state) .empty

theorem run_concat (calls : List Call) (call : Call) :
    run (calls ++ [call]) = (call.apply (run calls)).toOption.getD (run calls) := by
  rw [run, List.foldl_append, run]
  rfl

theorem run_concat_of_ok (calls : List Call) (call : Call) {state : TraceState}
    (h : call.apply (run calls) = .ok state) : run (calls ++ [call]) = state := by
  rw [run_concat, h]
  rfl

/-- **Every trace state that can be built is one after some calls.** -/
theorem obtainable_iff_run {state : TraceState} : state.Obtainable ↔ ∃ calls, run calls = state := by
  constructor
  · intro h
    induction h with
    | empty => exact ⟨[], rfl⟩
    | @ofPairs members state h => exact ⟨[.ofPairs members], run_concat_of_ok [] (.ofPairs members) h⟩
    | @ofHeader s state h => exact ⟨[.ofHeader s], run_concat_of_ok [] (.ofHeader s) h⟩
    | @insert _ state key value _ h ih =>
      obtain ⟨calls, rfl⟩ := ih
      exact ⟨_, run_concat_of_ok calls (.insert key value) h⟩
    | @delete _ state key _ h ih =>
      obtain ⟨calls, rfl⟩ := ih
      exact ⟨_, run_concat_of_ok calls (.delete key) h⟩
  · rintro ⟨calls, rfl⟩
    induction calls using List.reverseRecOn with
    | nil => exact .empty
    | append_singleton calls call ih =>
      rw [run_concat]
      cases h : call.apply (run calls) with
      | error e => exact ih
      | ok state =>
        cases call with
        | ofPairs members => exact .ofPairs h
        | ofHeader s => exact .ofHeader h
        | insert key value => exact .insert ih h
        | delete key => exact .delete ih h

/-- After a call a key occurs at most once, or not more often than before, or not more often than among the
members that the call gives. -/
theorem count_apply_le {state result : TraceState} {call : Call} (h : call.apply state = .ok result)
    (key : String) :
    result.keys.count key ≤ max 1 (state.keys.count key) ∨
      result.keys.count key ≤ call.given.count key := by
  cases call with
  | ofPairs members =>
    obtain ⟨rfl, -⟩ := ofPairs_eq_ok_iff.1 h
    exact .inr le_rfl
  | ofHeader s =>
    have hlists := ofHeader_eq_ok_iff.1 h
    refine .inr (Nat.le_of_eq ?_)
    rw [keys, ← textKeys_of_spelled hlists.spelled, Call.given]
  | insert key' value => exact .inl (count_insert h key).1
  | delete key' =>
    obtain ⟨-, rfl⟩ := delete_eq_ok_iff.1 h
    rw [keys_remove]
    exact .inl ((List.erase_sublist.count_le key).trans (Nat.le_max_right _ _))

/-- A key occurs at most once, or at most as often as among the members that one of the calls gave. -/
theorem count_run (calls : List Call) (key : String) :
    (run calls).keys.count key ≤ 1 ∨
      ∃ call ∈ calls, (run calls).keys.count key ≤ call.given.count key := by
  induction calls using List.reverseRecOn with
  | nil => exact .inl (Nat.zero_le 1)
  | append_singleton calls call ih =>
    rw [run_concat]
    cases h : call.apply (run calls) with
    | error e =>
      refine ih.imp_right ?_
      rintro ⟨earlier, hearlier, hcount⟩
      exact ⟨earlier, List.mem_append_left _ hearlier, hcount⟩
    | ok state =>
      show state.keys.count key ≤ 1 ∨ ∃ call' ∈ calls ++ [call], state.keys.count key ≤ _
      rcases count_apply_le h key with hbefore | hgiven
      · rcases ih with hone | ⟨earlier, hearlier, hcount⟩
        · exact .inl (by omega)
        · by_cases hone : state.keys.count key ≤ 1
          · exact .inl hone
          · exact .inr ⟨earlier, List.mem_append_left _ hearlier, by omega⟩
      · exact .inr ⟨call, List.mem_append_right _ (List.mem_singleton_self call), hgiven⟩

/-- **Keys are not repeated by the calls themselves**: after any sequence of calls a key occurs at most once,
or at most as often as among the members that one of the calls gave. So if no list of pairs and no text
repeats a key, none occurs twice. A deletion takes the first member of its key away and changes nothing else,
so the key is not found any more if it occurred once; and after an insertion its key stands in the text, once if
it did not occur more than once before. -/
theorem keys_run (calls : List Call) (key : String) :
    ((run calls).keys.count key ≤ 1 ∨
      ∃ call ∈ calls, (run calls).keys.count key ≤ call.given.count key) ∧
    ((∀ call ∈ calls, call.given.Nodup) → (run calls).keys.Nodup) ∧
    (∀ result, (run calls).delete key = .ok result → Deleted (run calls) key result) ∧
    ∀ value result, (run calls).insert key value = .ok result →
      1 ≤ (textKeys result.header).count key ∧
      (textKeys result.header).count key ≤ max 1 ((run calls).keys.count key) := by
  refine ⟨count_run calls key, fun hdistinct => ?_, fun result h => ?_, fun value result h => ?_⟩
  · refine List.nodup_iff_count_le_one.2 fun key => ?_
    rcases count_run calls key with hone | ⟨call, hcall, hcount⟩
    · exact hone
    · exact hcount.trans (List.nodup_iff_count_le_one.1 (hdistinct call hcall) key)
  · obtain ⟨-, rfl⟩ := delete_eq_ok_iff.1 h
    exact deleted_remove (run calls) key
  · have hresult : result.Obtainable := .insert (obtainable_iff_run.2 ⟨calls, rfl⟩) h
    rw [textKeys_header hresult.valid_and_fits.1]
    exact ⟨(count_insert h key).2, (count_insert h key).1⟩

/-- Two members with one key are kept, and after a deletion the second one is found. -/
theorem not_nodup_keys_of_repeated :
    ¬(run [.ofPairs [("a", "1"), ("a", "2")]]).keys.Nodup ∧
      ∃ result, (run [.ofPairs [("a", "1"), ("a", "2")]]).delete "a" = .ok result ∧
        result.get? "a" = some "2" := by
  have hrun : run [.ofPairs [("a", "1"), ("a", "2")]] = ⟨[("a", "1"), ("a", "2")]⟩ := by
    decide +kernel
  rw [hrun]
  exact ⟨by decide, ⟨[("a", "2")]⟩, by decide +kernel, by decide +kernel⟩

end Telemetry.TraceState
