import Telemetry.Proofs.Tag.RoundTrip

/-!
# Writing again what was read

Bytes that are read as a tag map may be longer than they need be: a length may be spelled in more groups
than it takes, a key may occur in several records, and behind the records there may be anything.  None of
this can make them shorter than the map needs.  Each record that was read is at least as long as the one
that is written for its tag, and binding a tag adds at most the size of one record.  So a map that was read
can be written again, in any order, in no more bytes than were read (`encodeTags_of_decode`).
-/

namespace Telemetry

namespace TagMap

/-- A length is not spelled in fewer groups than are written for it. -/
theorem Announces.groupCount_le {groups : List UInt8} {text : String}
    (h : Announces wrapped groups text) (htext : TagValue.Valid text) :
    groupCount text.utf8ByteSize ≤ groups.length := by
  match groups, h with
  | [], h => exact h.isGroups.elim
  | [b], h =>
    -- One group spells its value in full, without wrapping.
    have hvalue : groupsValue [b] < 0x80 := Nat.mod_lt _ (by decide)
    have hsize : text.utf8ByteSize < 0x80 := by
      rw [← h.size_eq]
      exact Nat.lt_of_le_of_lt (Nat.mod_le _ _) hvalue
    rw [groupCount_of_lt hsize, List.length_singleton]
  | b :: c :: rest, h =>
    have htwo : groupCount text.utf8ByteSize ≤ 2 := TagMap.groupCount_le htext
    exact Nat.le_trans htwo (Nat.le_add_left 2 rest.length)

/-- The record that is written for a tag is not longer than one that is read as this tag. -/
theorem Record.WellFormed.recordSize_le {r : Record} (h : r.WellFormed wrapped) :
    recordSize (r.key, r.value) ≤ r.bytes.length := by
  have hkey := h.key.groupCount_le r.key.valid.2
  have hvalue := h.value.groupCount_le r.value.valid
  simp only [Record.bytes, recordSize, List.length_cons, List.length_append,
    Text.Utf8.length_encode]
  omega

theorem encodedSize_insert_le (tags : TagMap) (key : TagKey) (value : TagValue) :
    encodedSize (tags.insert key value) ≤ tags.encodedSize + recordSize (key, value) := by
  have hput := OrderedMap.sum_map_put_le recordSize key value tags.entries
  simp only [encodedSize, OrderedMap.insert]
  omega

/-- **Binding the tags of records adds at most the bytes of the records.** -/
theorem encodedSize_bindAll_le {records : List Record}
    (hrecords : ∀ r ∈ records, r.WellFormed wrapped) (tags : TagMap) :
    (tags.bindAll records).encodedSize ≤
      tags.encodedSize + (records.flatMap Record.bytes).length := by
  induction records generalizing tags with
  | nil => exact Nat.le_refl _
  | cons r records ih =>
    obtain ⟨hr, hrecords⟩ := List.forall_mem_cons.1 hrecords
    have hinsert := tags.encodedSize_insert_le r.key r.value
    have hrecord := hr.recordSize_le
    have hrest := ih hrecords (tags.insert r.key r.value)
    rw [List.flatMap_cons, List.length_append]
    calc encodedSize (tags.bindAll (r :: records))
        ≤ encodedSize (tags.insert r.key r.value) + (records.flatMap Record.bytes).length := hrest
      _ ≤ tags.encodedSize + (r.bytes.length + (records.flatMap Record.bytes).length) := by omega

/-- The map that is read needs no more bytes than were read, if the version was among them. -/
theorem encodedSize_le_of_decode {bytes : List UInt8} {tags : TagMap}
    (h : decode bytes = .ok tags) : tags.encodedSize ≤ max 1 bytes.length := by
  obtain ⟨records, hbytes, rfl⟩ := decode_eq_ok_iff.1 h
  have hempty : encodedSize OrderedMap.empty = 1 := rfl
  have hsize := encodedSize_bindAll_le hbytes.wellFormed OrderedMap.empty
  rw [hempty] at hsize
  rcases hbytes.layout with ⟨rfl, rfl⟩ | ⟨tail, rfl, -⟩
  · exact hsize
  · refine Nat.le_trans hsize (Nat.le_trans ?_ (Nat.le_max_right _ _))
    rw [List.length_cons, List.length_append]
    omega

/-- **What was read can be written again**, with its tags in any order and in no more bytes, and is read as
the same map. -/
theorem encodeTags_of_decode {bytes : List UInt8} {tags : TagMap}
    {order : List (TagKey × TagValue)} (h : decode bytes = .ok tags)
    (horder : order.Perm tags.entries) :
    ∃ out, encodeTags order = .ok out ∧ out.length ≤ max 1 bytes.length ∧
      decode out = .ok tags := by
  obtain ⟨records, hbytes, -⟩ := decode_eq_ok_iff.1 h
  have hlength := length_encoded_of_perm horder
  have hsize : tags.encodedSize ≤ max 1 bytes.length := encodedSize_le_of_decode h
  have hlimit : tags.encodedSize ≤ maxEncodedSize :=
    Nat.le_trans hsize (Nat.max_le.2 ⟨by decide, hbytes.size_le⟩)
  refine ⟨formatVersion :: order.flatMap encodeTag, ?_, hlength ▸ hsize, ?_⟩
  · exact encodeTags_eq_ok_iff.2 ⟨rfl, hlength ▸ hlimit⟩
  · exact decode_encoded_of_perm horder hlimit

/-- A length in two groups where one would do, a key that occurs twice, and something unknown behind the
records: eighteen bytes, of which nine are needed. -/
theorem encodeTags_of_decode_overlong :
    let bytes : List UInt8 := [0, 0, 0x81, 0, 0x6b, 3, 0x6f, 0x6c, 0x64, 0, 1, 0x6b, 0, 0, 1, 0x61, 0, 7]
    let a : TagKey × TagValue := (⟨"a", by decide⟩, ⟨"", by decide⟩)
    let k : TagKey × TagValue := (⟨"k", by decide⟩, ⟨"", by decide⟩)
    let tags : TagMap := ⟨[a, k], by simp [a, k]; decide⟩
    decode bytes = .ok tags ∧ [k, a].Perm tags.entries ∧
      ∃ out, encodeTags [k, a] = .ok out ∧ out.length ≤ max 1 bytes.length ∧
        decode out = .ok tags := by
  intro bytes a k tags
  let old : Record := ⟨[0x81, 0], k.1, [3], ⟨"old", by decide⟩⟩
  have hold : old.WellFormed wrapped :=
    ⟨⟨by simp [IsGroups, old], by decide, by decide⟩, ⟨by simp [IsGroups, old], by decide, by decide⟩⟩
  have hbytes : Serialized wrapped bytes [old, .ofTag k, .ofTag a] :=
    ⟨by decide, by simpa using ⟨hold, wellFormed_ofTag k, wellFormed_ofTag a⟩,
      .inr ⟨[7], by decide +kernel, by decide⟩⟩
  have h : decode bytes = .ok tags := decode_eq_ok_iff.2 ⟨_, hbytes, by decide +kernel⟩
  have horder : [k, a].Perm tags.entries := .swap a k []
  exact ⟨h, horder, encodeTags_of_decode h horder⟩

end TagMap

end Telemetry
