import Telemetry.Proofs.Trace.StateMembers

/-!
# What an insertion keeps

An insertion puts the new member in front of the old ones, of which the first with the same key goes, and
then gives up members from the end.  `insert_eq_ok_iff_inserted` says how far: of the old members the longest
prefix is kept with which the trace state is within its limits, and none of them if there is no such prefix.
That giving up members one by one stops there needs that fewer members are not longer (`prefix_evict_of_fits`).
-/

namespace Telemetry.TraceState

/-! ### Taking a member away -/

/-- `rest` is `members` without the first member with the key `key`, if there is one. -/
def WithoutFirst (key : String) (members rest : List (String × String)) : Prop :=
  (key ∉ members.map Prod.fst ∧ rest = members) ∨
    ∃ before value after, key ∉ before.map Prod.fst ∧
      members = before ++ (key, value) :: after ∧ rest = before ++ after

theorem withoutFirst_iff {state : TraceState} {key : String} {rest : List (String × String)} :
    WithoutFirst key state.members rest ↔ rest = (state.remove key).members := by
  have hnot (members : List (String × String)) :
      (∀ m ∈ members, ¬(m.1 == key) = true) ↔ key ∉ members.map Prod.fst := by
    simp only [List.mem_map, not_exists, not_and, beq_iff_eq]
  rw [eq_comm, remove, List.eraseP_eq_iff, WithoutFirst, hnot, eq_comm (a := rest)]
  refine or_congr_right ⟨?_, ?_⟩
  · rintro ⟨before, value, after, hbefore, hmembers, hrest⟩
    exact ⟨(key, value), before, after, (hnot before).2 hbefore, beq_self_eq_true key, hmembers, hrest⟩
  · rintro ⟨⟨key', value⟩, before, after, hbefore, hkey, hmembers, hrest⟩
    obtain rfl : key' = key := eq_of_beq hkey
    exact ⟨before, value, after, (hnot before).1 hbefore, hmembers, hrest⟩

/-! ### Keeping the longest prefix -/

/-- `kept` is the longest prefix of `members` that fits, and nothing if no prefix does. -/
structure LongestPrefix {α : Type} (Fits : List α → Prop) (members kept : List α) : Prop where
  /-- It is a prefix. -/
  isPrefix : kept <+: members
  /-- It fits unless it is empty. -/
  fits : kept = [] ∨ Fits kept
  /-- A prefix that fits is not longer. -/
  longest : ∀ other, other <+: members → Fits other → other <+: kept

/-- There is only one longest prefix. -/
theorem LongestPrefix.unique {α : Type} {Fits : List α → Prop} {members kept kept' : List α}
    (h : LongestPrefix Fits members kept) (h' : LongestPrefix Fits members kept') : kept = kept' := by
  have hle {kept kept' : List α} (h : LongestPrefix Fits members kept)
      (h' : LongestPrefix Fits members kept') : kept <+: kept' := by
    rcases h.fits with rfl | hfits
    · exact List.nil_prefix
    · exact h'.longest kept h.isPrefix hfits
  exact (hle h h').eq_of_length_le (hle h' h).length_le

/-- What fits is not given up. -/
theorem prefix_evict_of_fits {members other : List (String × String)} (h : other <+: members)
    (hfits : fits other = true) : other <+: evict members := by
  fun_induction evict members with
  | case1 members => exact h
  | case2 members hnot ih =>
    -- The last member is not in the prefix, or all members would fit.
    have hlt : other.length < members.length := by
      refine Nat.lt_of_le_of_ne h.length_le fun hlength => hnot ?_
      rwa [← h.eq_of_length hlength]
    refine ih (List.prefix_of_prefix_length_le h (List.dropLast_prefix members) ?_)
    rw [List.length_dropLast]
    exact Nat.le_sub_one_of_lt hlt

/-- The members are not too many, and their text is not too long. -/
def WithinBounds (members : List (String × String)) : Prop :=
  members.length ≤ maxStateMembers ∧ (TraceState.mk members).header.utf8ByteSize ≤ maxStateLength

theorem fits_cons_iff {m : String × String} {kept : List (String × String)} :
    fits (m :: kept) = true ↔ kept = [] ∨ WithinBounds (m :: kept) := by
  rw [fits_iff, WithinBounds, utf8ByteSize_header]
  cases kept with
  | nil => simp [maxStateMembers]
  | cons next more => simp

/-- **Making room** for a new member keeps the longest prefix of the old ones. -/
theorem longestPrefix_evict (m : String × String) (members : List (String × String)) :
    ∃ kept, evict (m :: members) = m :: kept ∧
      LongestPrefix (fun kept => WithinBounds (m :: kept)) members kept := by
  have hfirst : [m] <+: evict (m :: members) :=
    prefix_evict_of_fits ((List.prefix_append [m] members)) rfl
  obtain ⟨kept, hkept⟩ := hfirst
  rw [List.singleton_append] at hkept
  have hprefix := prefix_evict (m :: members)
  have hfits := fits_evict (m :: members)
  rw [← hkept] at hprefix hfits
  refine ⟨kept, hkept.symm, (List.cons_prefix_cons.1 hprefix).2, fits_cons_iff.1 hfits, ?_⟩
  intro other hother hbounds
  have hmore := prefix_evict_of_fits (List.cons_prefix_cons.2 ⟨rfl, hother⟩)
    (fits_cons_iff.2 (.inr hbounds))
  rw [← hkept] at hmore
  exact (List.cons_prefix_cons.1 hmore).2

/-! ### What an insertion returns -/

/-- The result has the new member, and behind it the longest prefix of the old ones with which it is within
the limits; the first of the old members with the same key does not count. -/
def Inserted (state : TraceState) (key value : String) (result : TraceState) : Prop :=
  ∃ rest kept, WithoutFirst key state.members rest ∧
    LongestPrefix (fun kept => WithinBounds ((key, value) :: kept)) rest kept ∧
    result.members = (key, value) :: kept

theorem inserted_iff {state result : TraceState} {key value : String} :
    Inserted state key value result ↔
      result = ⟨evict ((key, value) :: (state.remove key).members)⟩ := by
  obtain ⟨kept, hevict, hlongest⟩ := longestPrefix_evict (key, value) (state.remove key).members
  rw [hevict]
  constructor
  · rintro ⟨rest, kept', hrest, hlongest', hmembers⟩
    obtain rfl := withoutFirst_iff.1 hrest
    obtain rfl := hlongest.unique hlongest'
    obtain ⟨members⟩ := result
    exact congrArg TraceState.mk hmembers
  · rintro rfl
    exact ⟨_, kept, withoutFirst_iff.2 rfl, hlongest, rfl⟩

theorem insert_eq_ok_iff_inserted {state result : TraceState} {key value : String} :
    state.insert key value = .ok result ↔
      (validKey key = true ∧ validValue value = true) ∧ Inserted state key value result := by
  rw [insert_eq_ok_iff, inserted_iff]

/-- **An insertion keeps the newest members**: it fails exactly if the key or the value is invalid. Otherwise
the result has the new member in front and behind it the longest prefix of the old members, without the first
one with the same key, with which it is within the limits. The new value is found, and the members that are
kept have their order and values. -/
theorem insert_keeps_newest (state : TraceState) (key value : String) :
    ((∃ e, state.insert key value = .error e) ↔
      ¬(validKey key = true ∧ validValue value = true)) ∧
    ∀ result,
      (state.insert key value = .ok result ↔
        (validKey key = true ∧ validValue value = true) ∧ Inserted state key value result) ∧
      (state.insert key value = .ok result →
        result.get? key = some value ∧ result.members.tail.Sublist state.members) := by
  refine ⟨?_, fun result => ?_⟩
  · cases h : state.insert key value with
    | error e =>
      refine iff_of_true ⟨e, rfl⟩ fun hvalid => ?_
      rw [insert_eq_ok_iff.2 ⟨hvalid, rfl⟩] at h
      cases h
    | ok result =>
      refine iff_of_false ?_ (not_not_intro (insert_eq_ok_iff.1 h).1)
      rintro ⟨e, he⟩
      cases he
  · refine ⟨insert_eq_ok_iff_inserted, fun h => ?_⟩
    obtain ⟨-, rest, kept, hrest, hlongest, hmembers⟩ := insert_eq_ok_iff_inserted.1 h
    rw [withoutFirst_iff] at hrest
    rw [get?, hmembers, List.tail_cons]
    constructor
    · simp
    · rw [hrest] at hlongest
      exact hlongest.isPrefix.sublist.trans List.eraseP_sublist

end Telemetry.TraceState
