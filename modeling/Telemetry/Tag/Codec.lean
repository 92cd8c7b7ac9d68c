import Telemetry.Tag.Map

/-!
# Serialized tag maps

A tag map travels as a version byte followed by one record for each tag:

* the byte 0, then the key, then the value;
* each text as its length in bytes and the bytes themselves;
* a length in groups of seven bits, the lowest first, with the top bit set in all bytes but the last.

The records stand in any order. A reader stops at the first record of another kind, since nothing says
where such a record ends, and a later record replaces an earlier one with the same key. Lengths are
numbers of 32 bits: what a fifth group has above them is dropped.
-/

namespace Telemetry.TagMap

/-- The greatest number of bytes of a serialized tag map. -/
def maxEncodedSize : Nat := 8192

/-- The version of the format. -/
def formatVersion : UInt8 := 0

/-- The kind of a record that holds a tag. -/
def tagRecord : UInt8 := 0

/-- The length `n` in groups of seven bits. -/
def encodeLength (n : Nat) : List UInt8 :=
  if n < 0x80 then [UInt8.ofNat n]
  else UInt8.ofNat (n % 0x80 + 0x80) :: encodeLength (n / 0x80)

/-- A text behind its length. -/
def encodeText (s : String) : List UInt8 := encodeLength s.utf8ByteSize ++ Text.Utf8.encode s

/-- The record of one tag. -/
def encodeTag (tag : TagKey × TagValue) : List UInt8 :=
  tagRecord :: (encodeText tag.1.text ++ encodeText tag.2.text)

/-- Writes the record of one more tag; refused when the form grows too long. -/
def appendTag (written : List UInt8) (tag : TagKey × TagValue) : Except TagError (List UInt8) :=
  let bytes := written ++ encodeTag tag
  if bytes.length ≤ maxEncodedSize then .ok bytes
  else .error (.malformed (.encodedTooLong maxEncodedSize))

/-- The serialized form of the tags in the given order, written record by record. -/
def encodeTags (tags : List (TagKey × TagValue)) : Except TagError (List UInt8) :=
  tags.foldlM appendTag [formatVersion]

/-- The serialized form of a tag map. -/
def encode (tags : TagMap) : Except TagError (List UInt8) := encodeTags tags.entries

/-- Reads a length of at most the given number of groups; gives it with the rest of the input. -/
def readGroups : Nat → List UInt8 → Option (Nat × List UInt8)
  | 0, _ => none
  | _ + 1, [] => none
  | groups + 1, b :: rest =>
    if b.toNat < 0x80 then some (b.toNat, rest)
    else (readGroups groups rest).map fun read => (b.toNat - 0x80 + 0x80 * read.1, read.2)

/-- Reads a length: up to five groups, as a number of 32 bits. -/
def readLength (bytes : List UInt8) : Except TagError (Nat × List UInt8) :=
  match readGroups 5 bytes with
  | some (n, rest) => .ok (n % Nat.pow 2 32, rest)
  | none => .error (.malformed .badLength)

/-- Reads a text behind its length; gives it with the rest of the input. -/
def readText (bytes : List UInt8) : Except TagError (String × List UInt8) :=
  match readLength bytes with
  | .error e => .error e
  | .ok (length, rest) =>
    if rest.length < length then .error (.malformed .textPastEnd)
    else
      match Text.Utf8.decode (rest.take length) with
      | .ok text => .ok (text, rest.drop length)
      | .error e => .error (.malformed (.notText e))

theorem readGroups_length {groups : Nat} {bytes rest : List UInt8} {n : Nat}
    (h : readGroups groups bytes = some (n, rest)) : rest.length < bytes.length := by
  induction groups generalizing bytes n with
  | zero => simp [readGroups] at h
  | succ groups ih =>
    cases bytes with
    | nil => simp [readGroups] at h
    | cons b tail =>
      simp only [readGroups] at h
      split at h
      · simp only [Option.some.injEq, Prod.mk.injEq] at h
        simp [h.2]
      · obtain ⟨read, hread, heq⟩ := Option.map_eq_some_iff.1 h
        simp only [Prod.mk.injEq] at heq
        have := ih (show readGroups groups tail = some (read.1, rest) by rw [hread, ← heq.2])
        simp only [List.length_cons]
        omega

/-- A text takes at least one byte of the input. -/
theorem readText_length {bytes rest : List UInt8} {text : String}
    (h : readText bytes = .ok (text, rest)) : rest.length < bytes.length := by
  unfold readText at h
  split at h
  · cases h
  next length tail hlength =>
    have htail : tail.length < bytes.length := by
      unfold readLength at hlength
      split at hlength
      next hgroups =>
        simp only [Except.ok.injEq, Prod.mk.injEq] at hlength
        rw [← hlength.2]
        exact readGroups_length hgroups
      · cases hlength
    split at h
    · cases h
    · split at h
      · simp only [Except.ok.injEq, Prod.mk.injEq] at h
        rw [← h.2, List.length_drop]
        omega
      · cases h

/-- Reads the records of tags at the front of the input onto the tags read so far. -/
def readTags (tags : TagMap) (bytes : List UInt8) : Except TagError TagMap :=
  match bytes with
  | [] => .ok tags
  | record :: tail =>
    if record ≠ tagRecord then .ok tags
    else
      match hkey : readText tail with
      | .error e => .error e
      | .ok (key, afterKey) =>
        match hvalue : readText afterKey with
        | .error e => .error e
        | .ok (value, rest) =>
          match TagKey.ofString key, TagValue.ofString value with
          | .error e, _ => .error e
          | .ok _, .error e => .error e
          | .ok key, .ok value =>
            have := readText_length hkey
            have := readText_length hvalue
            readTags (tags.insert key value) rest
termination_by bytes.length
decreasing_by
  simp only [List.length_cons]
  omega

/-- The tag map that the bytes describe. No bytes at all describe the empty map. -/
def decode (bytes : List UInt8) : Except TagError TagMap :=
  if bytes.length > maxEncodedSize then
    .error (.malformed (.inputTooLong bytes.length maxEncodedSize))
  else
    match bytes with
    | [] => .ok OrderedMap.empty
    | version :: records =>
      if version ≠ formatVersion then .error (.malformed (.unsupportedVersion version))
      else readTags OrderedMap.empty records

end Telemetry.TagMap
