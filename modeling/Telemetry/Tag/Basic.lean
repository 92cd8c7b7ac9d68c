import Telemetry.Text.Quoted
import Telemetry.Text.Utf8

/-!
# Tags

A tag annotates a recording with a key and a value, both short texts of printable ASCII characters. A
text that breaks these rules is refused with a `TagError` that quotes it.
-/

namespace Telemetry

/-- Whether `c` is one of the characters from the space to the tilde. -/
def isPrintableAscii (c : Char) : Bool := 0x20 ≤ c.toNat && c.toNat ≤ 0x7e

/-- The greatest number of bytes in a tag key or a tag value. -/
def maxTagLength : Nat := 255

/-- Why a serialized tag map cannot be written or read. -/
inductive TagMapFault where
  /-- The serialized form is longer than `limit` bytes. -/
  | encodedTooLong (limit : Nat)
  /-- The `size` bytes given are more than `limit`. -/
  | inputTooLong (size limit : Nat)
  /-- The version byte is not known. -/
  | unsupportedVersion (version : UInt8)
  /-- A length does not end within the input or within its greatest size. -/
  | badLength
  /-- A text is longer than the rest of the input. -/
  | textPastEnd
  /-- A text is not UTF-8. -/
  | notText (error : Text.Utf8.DecodeError)
  /-- Another reason, in words. -/
  | other (reason : String)
  deriving DecidableEq, Repr

/-- The wording of the fault. -/
def TagMapFault.message : TagMapFault → String
  | .encodedTooLong limit => "encoded size exceeds " ++ toString limit ++ " bytes"
  | .inputTooLong size limit =>
    "input of " ++ toString size ++ " bytes exceeds " ++ toString limit ++ " bytes"
  | .unsupportedVersion version => "unsupported version " ++ toString version.toNat
  | .badLength => "truncated or oversized varint"
  | .textPastEnd => "string runs past end of input"
  | .notText error => error.message
  | .other reason => reason

/-- Why a tag or a serialized tag map is refused. -/
inductive TagError where
  /-- The text is no tag key. -/
  | invalidKey (text : String)
  /-- The text is no tag value. -/
  | invalidValue (text : String)
  /-- A serialized tag map cannot be written or read. -/
  | malformed (fault : TagMapFault)
  deriving DecidableEq, Repr

/-- The wording of the error. -/
def TagError.message : TagError → String
  | .invalidKey text =>
    "invalid tag key " ++ Text.quoted text ++ ": must be 1-255 printable ASCII characters"
  | .invalidValue text =>
    "invalid tag value " ++ Text.quoted text ++ ": must be 0-255 printable ASCII characters"
  | .malformed fault => "malformed serialized tag map: " ++ fault.message

/-- A tag value is at most 255 printable ASCII characters. -/
def TagValue.Valid (text : String) : Prop :=
  text.utf8ByteSize ≤ maxTagLength ∧ text.toList.all isPrintableAscii = true

/-- A tag key is 1 to 255 printable ASCII characters. -/
def TagKey.Valid (text : String) : Prop := text ≠ "" ∧ TagValue.Valid text

instance (text : String) : Decidable (TagValue.Valid text) :=
  inferInstanceAs (Decidable (_ ∧ _))

instance (text : String) : Decidable (TagKey.Valid text) :=
  inferInstanceAs (Decidable (_ ∧ _))

/-- The name of a tag. -/
structure TagKey where
  /-- The characters of the key. -/
  text : String
  /-- They form a key. -/
  valid : TagKey.Valid text
  deriving DecidableEq

/-- The value of a tag. -/
structure TagValue where
  /-- The characters of the value. -/
  text : String
  /-- They form a value. -/
  valid : TagValue.Valid text
  deriving DecidableEq

/-- The tag key `text`, if it is one. -/
def TagKey.ofString? (text : String) : Option TagKey :=
  if h : TagKey.Valid text then some ⟨text, h⟩ else none

/-- The tag value `text`, if it is one. -/
def TagValue.ofString? (text : String) : Option TagValue :=
  if h : TagValue.Valid text then some ⟨text, h⟩ else none

/-- The tag key `text`, or the reason why it is refused. -/
def TagKey.ofString (text : String) : Except TagError TagKey :=
  match TagKey.ofString? text with
  | some key => .ok key
  | none => .error (.invalidKey text)

/-- The tag value `text`, or the reason why it is refused. -/
def TagValue.ofString (text : String) : Except TagError TagValue :=
  match TagValue.ofString? text with
  | some value => .ok value
  | none => .error (.invalidValue text)

/-- Keys are ordered by their texts. -/
instance : Ord TagKey := ⟨fun a b => compare a.text b.text⟩

instance : Std.TransOrd TagKey where
  eq_swap := Std.OrientedOrd.eq_swap (α := String)
  isLE_trans := Std.TransOrd.isLE_trans (α := String)

instance : Std.LawfulEqOrd TagKey where
  compare_self := Std.ReflOrd.compare_self (α := String)
  eq_of_compare {a b} h := by
    cases a
    cases b
    simp only [TagKey.mk.injEq]
    have h : compare (_ : String) _ = .eq := h
    exact Std.LawfulEqCmp.eq_of_compare h

/-- Values are ordered by their texts. -/
instance : Ord TagValue := ⟨fun a b => compare a.text b.text⟩

instance : Std.TransOrd TagValue where
  eq_swap := Std.OrientedOrd.eq_swap (α := String)
  isLE_trans := Std.TransOrd.isLE_trans (α := String)

instance : Std.LawfulEqOrd TagValue where
  compare_self := Std.ReflOrd.compare_self (α := String)
  eq_of_compare {a b} h := by
    cases a
    cases b
    simp only [TagValue.mk.injEq]
    have h : compare (_ : String) _ = .eq := h
    exact Std.LawfulEqCmp.eq_of_compare h

/-- **Exactly the valid texts are keys.** -/
theorem TagKey.isSome_ofString? {text : String} :
    (TagKey.ofString? text).isSome = true ↔ TagKey.Valid text := by
  unfold ofString?
  split <;> simp [*]

/-- **Exactly the valid texts are values.** -/
theorem TagValue.isSome_ofString? {text : String} :
    (TagValue.ofString? text).isSome = true ↔ TagValue.Valid text := by
  unfold ofString?
  split <;> simp [*]

theorem TagKey.ofString?_text (key : TagKey) : TagKey.ofString? key.text = some key := by
  simp [ofString?, key.valid]

theorem TagValue.ofString?_text (value : TagValue) :
    TagValue.ofString? value.text = some value := by
  simp [ofString?, value.valid]

end Telemetry
