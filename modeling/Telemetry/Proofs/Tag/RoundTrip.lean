import Mathlib.Data.Nat.Log
import Telemetry.Proofs.OrderedMap
import Telemetry.Proofs.Tag.Format

/-!
# Tag maps through their serialized form

A tag map is written in the order in which its tags are met, and the size is checked after each record.
The main result, `encodeTags_perm`, says of every order that writing succeeds exactly if the sum of the
sizes is within the limit, that the form has that size, and that the same map is read from it.
-/

namespace Telemetry

namespace TagMap

/-! ### Sizes -/

/-- The number of groups of seven bits that a length takes. -/
def groupCount (n : Nat) : Nat := Nat.log 0x80 n + 1

/-- The number of bytes of the record of a tag. -/
def recordSize (tag : TagKey × TagValue) : Nat :=
  1 + (groupCount tag.1.text.utf8ByteSize + tag.1.text.utf8ByteSize) +
    (groupCount tag.2.text.utf8ByteSize + tag.2.text.utf8ByteSize)

/-- The number of bytes of a serialized tag map: the version and the records. -/
def encodedSize (tags : TagMap) : Nat := 1 + (tags.entries.map recordSize).sum

theorem groupCount_of_lt {n : Nat} (h : n < 0x80) : groupCount n = 1 := by
  rw [groupCount, Nat.log_of_lt h]

theorem groupCount_of_le {n : Nat} (h : 0x80 ≤ n) : groupCount n = groupCount (n / 0x80) + 1 := by
  rw [groupCount, Nat.log_of_one_lt_of_le (by decide) h, ← groupCount]

theorem groupCount_le {text : String} (h : TagValue.Valid text) :
    groupCount text.utf8ByteSize ≤ 2 :=
  Nat.log_lt_of_lt_pow' (by decide) (Nat.lt_of_le_of_lt h.1 (by decide))

theorem length_encodeLength (n : Nat) : (encodeLength n).length = groupCount n := by
  fun_induction encodeLength n with
  | case1 n h => rw [groupCount_of_lt h, List.length_singleton]
  | case2 n h ih => rw [List.length_cons, ih, groupCount_of_le (Nat.not_lt.1 h)]

/-- The byte of a group behind which there are more. -/
theorem toNat_group (n : Nat) : (UInt8.ofNat (n % 0x80 + 0x80)).toNat = n % 0x80 + 0x80 :=
  UInt8.toNat_ofNat_of_lt' (by show n % 0x80 + 0x80 < 256; omega)

theorem isGroups_encodeLength (n : Nat) : IsGroups (encodeLength n) := by
  fun_induction encodeLength n with
  | case1 n h =>
    rw [IsGroups, UInt8.toNat_ofNat_of_lt' (Nat.lt_trans h (by decide))]
    exact h
  | case2 n h ih =>
    rw [isGroups_cons, toNat_group]
    exact .inr ⟨Nat.le_add_left _ _, ih⟩

theorem groupsValue_encodeLength (n : Nat) : groupsValue (encodeLength n) = n := by
  fun_induction encodeLength n with
  | case1 n h =>
    rw [groupsValue, UInt8.toNat_ofNat_of_lt' (Nat.lt_trans h (by decide)), Nat.mod_eq_of_lt h]
    rfl
  | case2 n h ih => rw [groupsValue, toNat_group, ih, Nat.add_mod_right, Nat.mod_mod, Nat.mod_add_div]

theorem length_encodeTag (tag : TagKey × TagValue) : (encodeTag tag).length = recordSize tag := by
  simp only [encodeTag, encodeText, List.length_cons, List.length_append, length_encodeLength,
    Text.Utf8.length_encode, recordSize]
  omega

/-! ### Writing -/

/-- The record that is written for a tag. -/
def Record.ofTag (tag : TagKey × TagValue) : Record :=
  ⟨encodeLength tag.1.text.utf8ByteSize, tag.1, encodeLength tag.2.text.utf8ByteSize, tag.2⟩

theorem encodeTag_eq_bytes (tag : TagKey × TagValue) : encodeTag tag = (Record.ofTag tag).bytes := by
  simp [encodeTag, encodeText, Record.ofTag, Record.bytes]

theorem announces_encodeLength {text : String} (h : TagValue.Valid text) :
    Announces wrapped (encodeLength text.utf8ByteSize) text where
  isGroups := isGroups_encodeLength _
  length_le := by
    rw [length_encodeLength]
    exact Nat.le_trans (groupCount_le h) (by decide)
  size_eq := by
    rw [groupsValue_encodeLength]
    exact Nat.mod_eq_of_lt (Nat.lt_of_le_of_lt h.1 (by decide))

theorem wellFormed_ofTag (tag : TagKey × TagValue) : (Record.ofTag tag).WellFormed wrapped :=
  ⟨announces_encodeLength tag.1.valid.2, announces_encodeLength tag.2.valid⟩

/-- Writing goes through as long as the records fit. -/
theorem foldlM_appendTag_eq_ok_iff {tags : List (TagKey × TagValue)} {written bytes : List UInt8}
    (hwritten : written.length ≤ maxEncodedSize) :
    tags.foldlM appendTag written = .ok bytes ↔
      bytes = written ++ tags.flatMap encodeTag ∧ bytes.length ≤ maxEncodedSize := by
  induction tags generalizing written with
  | nil =>
    constructor
    · intro h
      cases h
      exact ⟨by simp, hwritten⟩
    · rintro ⟨rfl, -⟩
      simp [pure, Except.pure]
  | cons tag tags ih =>
    rw [List.foldlM_cons, appendTag]
    split_ifs with hsize
    · rw [List.flatMap_cons, ← List.append_assoc]
      exact ih hsize
    · refine ⟨nofun, ?_⟩
      rintro ⟨rfl, hbytes⟩
      simp only [List.flatMap_cons, List.length_append] at hsize hbytes
      omega

theorem encodeTags_eq_ok_iff {tags : List (TagKey × TagValue)} {bytes : List UInt8} :
    encodeTags tags = .ok bytes ↔
      bytes = formatVersion :: tags.flatMap encodeTag ∧ bytes.length ≤ maxEncodedSize :=
  foldlM_appendTag_eq_ok_iff (by decide)

theorem length_encoded (tags : List (TagKey × TagValue)) :
    (formatVersion :: tags.flatMap encodeTag).length = 1 + (tags.map recordSize).sum := by
  rw [List.length_cons, List.length_flatMap, Nat.add_comm]
  simp only [length_encodeTag]

/-! ### Reading back -/

section Order

variable {tags : TagMap} {order : List (TagKey × TagValue)} (h : order.Perm tags.entries)

include h

theorem length_encoded_of_perm :
    (formatVersion :: order.flatMap encodeTag).length = tags.encodedSize := by
  rw [length_encoded, encodedSize, (h.map recordSize).sum_nat]

/-- The tags of a map, bound in any order, are that map. -/
theorem bindAll_ofTag_of_perm : bindAll OrderedMap.empty (order.map Record.ofTag) = tags := by
  refine OrderedMap.ext fun key => ?_
  rw [get?_bindAll, OrderedMap.get?_empty, Option.or_none, ← List.map_reverse, List.find?_map,
    Option.map_map]
  exact OrderedMap.find?_of_perm (order.reverse_perm.trans h) key

theorem decode_encoded_of_perm (hsize : tags.encodedSize ≤ maxEncodedSize) :
    decode (formatVersion :: order.flatMap encodeTag) = .ok tags := by
  refine decode_eq_ok_iff.2 ⟨order.map Record.ofTag, ⟨?_, ?_, .inr ⟨[], ?_, by simp⟩⟩,
    (bindAll_ofTag_of_perm h).symm⟩
  · rwa [length_encoded_of_perm h]
  · exact List.forall_mem_map.2 fun tag _ => wellFormed_ofTag tag
  · rw [List.append_nil, List.flatMap_map, funext encodeTag_eq_bytes]

end Order

/-- **A tag map comes back from its serialized form**, in whatever order its tags are written: writing
succeeds exactly if the form is not too long, and its length does not depend on the order. -/
theorem encodeTags_perm {tags : TagMap} {order : List (TagKey × TagValue)}
    (h : order.Perm tags.entries) :
    ((∃ bytes, encodeTags order = .ok bytes) ↔ tags.encodedSize ≤ maxEncodedSize) ∧
      ∀ bytes, encodeTags order = .ok bytes →
        bytes.length = tags.encodedSize ∧ decode bytes = .ok tags := by
  have hlength := length_encoded_of_perm h
  refine ⟨⟨?_, fun hsize => ?_⟩, fun bytes hbytes => ?_⟩
  · rintro ⟨bytes, hbytes⟩
    obtain ⟨rfl, hsize⟩ := encodeTags_eq_ok_iff.1 hbytes
    exact hlength ▸ hsize
  · exact ⟨_, encodeTags_eq_ok_iff.2 ⟨rfl, hlength ▸ hsize⟩⟩
  · obtain ⟨rfl, hsize⟩ := encodeTags_eq_ok_iff.1 hbytes
    exact ⟨hlength, decode_encoded_of_perm h (hlength ▸ hsize)⟩

/-- Two tags in descending order of keys, one with a value that takes a length of two bytes. -/
theorem encodeTags_perm_two_tags :
    let a : TagKey × TagValue :=
      (⟨"a", by decide⟩, ⟨String.ofList (List.replicate 128 'x'), by decide +kernel⟩)
    let b : TagKey × TagValue := (⟨"b", by decide⟩, ⟨"", by decide⟩)
    let tags : TagMap := ⟨[a, b], by simp [a, b]; decide⟩
    [b, a].Perm tags.entries ∧
      ((∃ bytes, encodeTags [b, a] = .ok bytes) ↔ tags.encodedSize ≤ maxEncodedSize) ∧
      ∀ bytes, encodeTags [b, a] = .ok bytes →
        bytes.length = tags.encodedSize ∧ decode bytes = .ok tags := by
  intro a b tags
  have h : [b, a].Perm tags.entries := .swap a b []
  exact ⟨h, encodeTags_perm h⟩

end TagMap

end Telemetry
