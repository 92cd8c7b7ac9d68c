import Telemetry.Numeral.Shortest

/-!
# Attributes

Named values on spans, notes and links. A long text is cut to a number of bytes, on a character
boundary, and keeps count of the bytes that were cut; `TextValue.size_cutTo` says that no byte is lost
from the count. The count has 64 bits and wraps, like all arithmetic on it here.
-/

namespace Telemetry

/-- The longest run of characters at the front of `cs` that takes at most `limit` bytes. -/
def takeBytes (limit : Nat) : List Char → List Char
  | [] => []
  | c :: rest => if c.utf8Size ≤ limit then c :: takeBytes (limit - c.utf8Size) rest else []

/-- A text that may have been cut. -/
structure TextValue where
  /-- What is left of the text. -/
  text : String
  /-- The number of bytes that were cut. -/
  cut : UInt64
  deriving DecidableEq, Repr

namespace TextValue

/-- A text that was not cut. -/
def whole (text : String) : TextValue := ⟨text, 0⟩

/-- Whether any byte was cut. -/
def isCut (v : TextValue) : Bool := 0 < v.cut

/-- Cuts the text to at most `limit` bytes. -/
def cutTo (limit : Nat) (v : TextValue) : TextValue :=
  if v.text.utf8ByteSize ≤ limit then v
  else
    let kept := String.ofList (takeBytes limit v.text.toList)
    ⟨kept, v.cut + .ofNat (v.text.utf8ByteSize - kept.utf8ByteSize)⟩

/-- The bytes that were there before anything was cut. -/
def size (v : TextValue) : UInt64 := .ofNat v.text.utf8ByteSize + v.cut

end TextValue

theorem utf8ByteSize_takeBytes_le (limit : Nat) (cs : List Char) :
    (String.ofList (takeBytes limit cs)).utf8ByteSize ≤ (String.ofList cs).utf8ByteSize := by
  induction cs generalizing limit with
  | nil => simp [takeBytes]
  | cons c rest ih =>
    have hcons : ∀ ds, (String.ofList (c :: ds)).utf8ByteSize =
        c.utf8Size + (String.ofList ds).utf8ByteSize := fun ds => by
      rw [← List.singleton_append, String.ofList_append]
      simp
    simp only [takeBytes]
    split
    · rw [hcons, hcons]
      exact Nat.add_le_add_left (ih _) _
    · simp

/-- **Cutting moves bytes from the text to the count** and loses none. -/
theorem TextValue.size_cutTo (limit : Nat) (v : TextValue) : (v.cutTo limit).size = v.size := by
  unfold cutTo size
  split
  · rfl
  · have hle := utf8ByteSize_takeBytes_le limit v.text.toList
    rw [String.ofList_toList] at hle
    dsimp only
    rw [UInt64.add_comm v.cut, ← UInt64.add_assoc, ← UInt64.ofNat_add, Nat.add_sub_cancel' hle]

/-- The value of an attribute. -/
inductive AttributeValue where
  /-- A text. -/
  | text (v : TextValue)
  /-- A whole number. -/
  | int (v : Int64)
  /-- A truth value. -/
  | bool (v : Bool)
  /-- A real number. -/
  | real (v : Float)
  deriving DecidableEq

namespace AttributeValue

/-- Cuts a text to at most `limit` bytes and leaves other values as they are. -/
def cutTo (limit : Nat) : AttributeValue → AttributeValue
  | .text v => .text (v.cutTo limit)
  | v => v

/-- Whether the value is a text of which a part was cut. -/
def isCut : AttributeValue → Bool
  | .text v => v.isCut
  | _ => false

/-- The value in text. -/
def display : AttributeValue → String
  | .text v => v.text
  | .int v => toString v.toInt
  | .bool v => if v then "true" else "false"
  | .real v => Numeral.floatText v

end AttributeValue

/-- A named value. -/
structure Attribute where
  /-- The name. -/
  key : String
  /-- The value. -/
  value : AttributeValue
  deriving DecidableEq

/-- Cuts the value, if it is a text, to at most `limit` bytes. -/
def Attribute.cutTo (limit : Nat) (a : Attribute) : Attribute :=
  { a with value := a.value.cutTo limit }

end Telemetry
