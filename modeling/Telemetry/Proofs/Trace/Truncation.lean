import Mathlib.Data.List.Infix
import Telemetry.Proofs.Text.Boundary
import Telemetry.Proofs.Text.Utf8
import Telemetry.Trace.Attribute

/-!
# Cutting long texts

What is left of a text that is cut to a number of bytes: the longest prefix of whole characters that fits,
which is also what walking back from the limit over the bytes of a character finds.  No byte is lost from
the count, and cutting twice is cutting once to the smaller limit (`TextValue.cutTo_cutsTo`).  The count has
64 bits: all this holds in their arithmetic, and in exact numbers as long as the count has room.
-/

namespace Telemetry

open Text.Utf8

/-! ### The longest run of characters -/

theorem takeBytes_isPrefix (limit : Nat) (cs : List Char) : takeBytes limit cs <+: cs := by
  induction cs generalizing limit with
  | nil => exact List.prefix_rfl
  | cons c rest ih =>
    rw [takeBytes]
    split
    · exact List.cons_prefix_cons.2 ⟨rfl, ih _⟩
    · exact List.nil_prefix

theorem length_takeBytes_le (limit : Nat) (cs : List Char) :
    ((takeBytes limit cs).flatMap String.utf8EncodeChar).length ≤ limit := by
  induction cs generalizing limit with
  | nil => exact Nat.zero_le _
  | cons c rest ih =>
    rw [takeBytes]
    split
    · have := ih (limit - c.utf8Size)
      rw [length_flatMap_cons]
      omega
    · exact Nat.zero_le _

/-- No prefix that fits is longer. -/
theorem prefix_takeBytes {limit : Nat} {cs other : List Char} (h : other <+: cs)
    (hfits : (other.flatMap String.utf8EncodeChar).length ≤ limit) :
    other <+: takeBytes limit cs := by
  induction cs generalizing limit other with
  | nil => exact h
  | cons c rest ih =>
    cases other with
    | nil => exact List.nil_prefix
    | cons d other =>
      obtain ⟨rfl, hother⟩ := List.cons_prefix_cons.1 h
      rw [length_flatMap_cons] at hfits
      rw [takeBytes, if_pos (by omega)]
      exact List.cons_prefix_cons.2 ⟨rfl, ih hother (by omega)⟩

/-- Of two limits the smaller one counts. -/
theorem takeBytes_takeBytes (limit limit' : Nat) (cs : List Char) :
    takeBytes limit' (takeBytes limit cs) = takeBytes (min limit limit') cs := by
  induction cs generalizing limit limit' with
  | nil => rfl
  | cons c rest ih =>
    by_cases hlimit : c.utf8Size ≤ limit
    · by_cases hlimit' : c.utf8Size ≤ limit'
      · rw [takeBytes, if_pos hlimit, takeBytes, if_pos hlimit', ih, takeBytes, if_pos (by omega),
          Nat.sub_min_sub_right]
      · rw [takeBytes, if_pos hlimit, takeBytes, if_neg hlimit', takeBytes, if_neg (by omega)]
    · rw [takeBytes, if_neg hlimit, takeBytes, takeBytes, if_neg (by omega)]

/-- All characters are taken if they fit. -/
theorem takeBytes_of_le {limit : Nat} {cs : List Char}
    (h : (cs.flatMap String.utf8EncodeChar).length ≤ limit) : takeBytes limit cs = cs :=
  (takeBytes_isPrefix limit cs).eq_of_length_le (prefix_takeBytes List.prefix_rfl h).length_le

/-! ### What is left of a text -/

/-- A sum that fits into 64 bits does not wrap. -/
theorem toNat_add_ofNat {c : UInt64} {n : Nat} (h : c.toNat + n < 2 ^ 64) :
    (c + .ofNat n).toNat = c.toNat + n := by
  rw [UInt64.toNat_add, UInt64.toNat_ofNat', Nat.add_mod_mod, Nat.mod_eq_of_lt h]

namespace TextValue

/-- The text that is kept under a limit. -/
def kept (limit : Nat) (v : TextValue) : String := String.ofList (takeBytes limit v.text.toList)

theorem encode_kept (limit : Nat) (v : TextValue) :
    encode (v.kept limit) = (takeBytes limit v.text.toList).flatMap String.utf8EncodeChar := by
  rw [encode, kept, String.toList_ofList]

theorem utf8ByteSize_kept_le (limit : Nat) (v : TextValue) :
    (v.kept limit).utf8ByteSize ≤ v.text.utf8ByteSize := by
  have hle := utf8ByteSize_takeBytes_le limit v.text.toList
  rwa [String.ofList_toList] at hle

/-- **Cutting** keeps a prefix and adds the rest to the count, which is nothing for a text that fits. -/
theorem cutTo_eq (limit : Nat) (v : TextValue) :
    v.cutTo limit =
      ⟨v.kept limit, v.cut + .ofNat (v.text.utf8ByteSize - (v.kept limit).utf8ByteSize)⟩ := by
  rw [cutTo]
  split
  next hfits =>
    have hkept : v.kept limit = v.text := by
      rw [← length_encode] at hfits
      rw [kept, takeBytes_of_le hfits, String.ofList_toList]
    rw [hkept, Nat.sub_self]
    simp
  next => rfl

theorem kept_cutTo (limit limit' : Nat) (v : TextValue) :
    (v.cutTo limit).kept limit' = v.kept (min limit limit') := by
  rw [cutTo_eq, kept, kept, kept, String.toList_ofList, takeBytes_takeBytes]

/-- Of two cuts the one to the smaller limit counts. -/
theorem cutTo_cutTo (limit limit' : Nat) (v : TextValue) :
    (v.cutTo limit).cutTo limit' = v.cutTo (min limit limit') := by
  have hle := utf8ByteSize_kept_le limit v
  have hle' := utf8ByteSize_kept_le limit' (v.cutTo limit)
  rw [kept_cutTo] at hle'
  rw [cutTo_eq limit', kept_cutTo, cutTo_eq (min limit limit')]
  simp only [cutTo_eq limit, TextValue.mk.injEq, true_and] at hle' ⊢
  rw [UInt64.add_assoc, ← UInt64.ofNat_add]
  congr 2
  omega

/-- The greatest boundary that is not above the limit is where the text is cut. -/
theorem boundaryBefore?_encode (limit : Nat) (v : TextValue) :
    boundaryBefore? (encode v.text) limit = some (v.kept limit).utf8ByteSize := by
  rw [boundaryBefore?_eq_some_iff, ← length_encode, encode_kept, encode]
  refine ⟨length_takeBytes_le _ _, ?_, ?_⟩
  · exact isBoundary_flatMap_iff_exists_prefix.2 ⟨_, takeBytes_isPrefix _ _, rfl⟩
  · intro other hle hother
    obtain ⟨cs, hcs, rfl⟩ := isBoundary_flatMap_iff_exists_prefix.1 hother
    exact (List.IsPrefix.flatMap (prefix_takeBytes hcs hle) _).length_le

/-- The text `v` is cut to `limit` bytes, which leaves `result`. -/
structure CutsTo (limit : Nat) (v result : TextValue) : Prop where
  /-- Walking back from the limit ends at a boundary, and the bytes in front of it are kept. -/
  walk : ∃ index, boundaryBefore? (encode v.text) limit = some index ∧
    encode result.text = (encode v.text).take index
  /-- What is kept is a prefix of the text. -/
  isPrefix : result.text.toList <+: v.text.toList
  /-- It is not longer than the limit. -/
  fits : result.text.utf8ByteSize ≤ limit
  /-- It ends where a character ends. -/
  boundary : isBoundary (encode v.text) result.text.utf8ByteSize = true
  /-- No boundary under the limit is further on. -/
  longest : ∀ index ≤ limit, isBoundary (encode v.text) index = true →
    index ≤ result.text.utf8ByteSize
  /-- In the arithmetic of the count, what is kept and what the count has grown by are the whole text. -/
  counted : .ofNat result.text.utf8ByteSize + (result.cut - v.cut) = UInt64.ofNat v.text.utf8ByteSize
  /-- They are in exact numbers if the count has room for what is not kept. -/
  counted_exactly : v.cut.toNat + (v.text.utf8ByteSize - result.text.utf8ByteSize) < 2 ^ 64 →
    v.cut ≤ result.cut ∧
      result.text.utf8ByteSize + (result.cut.toNat - v.cut.toNat) = v.text.utf8ByteSize
  /-- A text that fits is left as it is. -/
  unchanged : v.text.utf8ByteSize ≤ limit → result = v

/-- **Cutting a text** keeps the longest prefix of at most that many bytes that ends with a whole character,
and counts the rest. Cutting it again is the same as cutting it once to the smaller number of bytes. -/
theorem cutTo_cutsTo (v : TextValue) (limit limit' : Nat) :
    v.CutsTo limit (v.cutTo limit) ∧
      (v.cutTo limit).cutTo limit' = v.cutTo (min limit limit') := by
  have hwalk := boundaryBefore?_encode limit v
  obtain ⟨hfits, hboundary, hlongest⟩ := boundaryBefore?_eq_some_iff.1 hwalk
  have hprefix := takeBytes_isPrefix limit v.text.toList
  have hle := utf8ByteSize_kept_le limit v
  refine ⟨?_, cutTo_cutTo limit limit' v⟩
  rw [cutTo_eq]
  refine ⟨⟨_, hwalk, ?_⟩, ?_, hfits, hboundary, hlongest, ?_, fun hroom => ?_, fun h => ?_⟩
  · dsimp only
    rw [← length_encode, encode_kept, encode, take_encode hprefix]
  · rwa [kept, String.toList_ofList]
  · dsimp only
    rw [UInt64.add_comm v.cut, UInt64.add_sub_cancel, ← UInt64.ofNat_add, Nat.add_sub_cancel' hle]
  · dsimp only at hroom ⊢
    have hcut := toNat_add_ofNat hroom
    rw [UInt64.le_iff_toNat_le, hcut]
    omega
  · rw [← cutTo_eq, cutTo, if_pos h]

/-- Two letters of two bytes each, of a longer text. -/
def accented : TextValue := ⟨"éé", 7⟩

theorem cutTo_cutsTo_accented :
    accented.cut.toNat + (accented.text.utf8ByteSize - (accented.cutTo 3).text.utf8ByteSize) < 2 ^ 64 ∧
      (accented.cutTo 3).text.utf8ByteSize + ((accented.cutTo 3).cut.toNat - accented.cut.toNat) =
        accented.text.utf8ByteSize ∧
      (accented.cutTo 3).cutTo 1 = accented.cutTo (min 3 1) := by
  have hroom : accented.cut.toNat +
      (accented.text.utf8ByteSize - (accented.cutTo 3).text.utf8ByteSize) < 2 ^ 64 := by decide
  obtain ⟨hcuts, htwice⟩ := cutTo_cutsTo accented 3 1
  exact ⟨hroom, (hcuts.counted_exactly hroom).2, htwice⟩

example : (accented.cutTo 3).cutTo 1 = ⟨"", 11⟩ := by decide

end TextValue

end Telemetry
