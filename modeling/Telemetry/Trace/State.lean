import Telemetry.Text.Blank
import Telemetry.Text.Pieces
import Telemetry.Trace.Error

/-!
# Trace state

Data of tracing systems that travels with a span context: a list of members, each a key with a value,
the newest first. In text a member is `key=value` and members are separated by commas. A trace state is a
plain value; its operations give new trace states and refuse keys and values outside the grammar.

`validKey` and `validValue` are the grammar, `TraceState.ofPairs` and `TraceState.ofHeader` build a trace
state from outside data, and `TraceState.insert` makes room for the new member by giving up the oldest.
-/

namespace Telemetry

/-- The greatest number of members of a trace state. -/
def maxStateMembers : Nat := 32

/-- The greatest length of a trace state in text, in bytes. -/
def maxStateLength : Nat := 512

/-- The greatest length of a key or of a value of a trace state. -/
def maxStateTextLength : Nat := 256

/-- The greatest length of the part of a key behind the `@`. -/
def maxSystemLength : Nat := 13

/-- Whether `c` is a lowercase letter or a digit. -/
def isLowerAlphanum (c : Char) : Bool := c.isLower || c.isDigit

/-- Whether `c` may stand in a key of a trace state. -/
def isStateKeyChar (c : Char) : Bool :=
  isLowerAlphanum c || c == '_' || c == '-' || c == '*' || c == '/' || c == '@'

/-- Whether the text begins with a lowercase letter or a digit, if it has a beginning. -/
def startsAlphanum (cs : List Char) : Bool := cs.head?.all isLowerAlphanum

/-- Whether `key` is a key of a trace state: 1 to 256 characters beginning with a letter or a digit, with
at most one `@`, behind which at most 13 characters stand, the first of them a letter or a digit. -/
def validKey (key : String) : Bool :=
  let cs := key.toList
  0 < cs.length && cs.length ≤ maxStateTextLength && cs.all isStateKeyChar && startsAlphanum cs &&
    match Text.cut? '@' cs with
    | none => true
    | some (_, system) =>
      !system.contains '@' && system.length ≤ maxSystemLength && startsAlphanum system

/-- Whether `c` may stand in a value of a trace state. -/
def isStateValueChar (c : Char) : Bool :=
  0x20 ≤ c.toNat && c.toNat ≤ 0x7e && c != ',' && c != '='

/-- Whether `value` is a value of a trace state: at most 256 printable ASCII characters without a comma
or an equals sign. -/
def validValue (value : String) : Bool :=
  value.toList.length ≤ maxStateTextLength && value.toList.all isStateValueChar

/-- The members of a trace state, the newest first. No members stand for no list: a trace state keeps an
optional list, and all that build one keep none instead of an empty list, so that the two are told apart
nowhere but in a log, which shows that there is no list (`TraceState.describe`). -/
structure TraceState where
  members : List (String × String)
  deriving DecidableEq, Repr

namespace TraceState

/-- The trace state without members. -/
def empty : TraceState := ⟨[]⟩

instance : Inhabited TraceState := ⟨empty⟩

/-- Whether there is no member. -/
def isEmpty (state : TraceState) : Bool := state.members.isEmpty

/-- The members in text, with `entry` between a key and its value and `list` between members. -/
def delimited (entry list : String) (state : TraceState) : String :=
  list.intercalate (state.members.map fun member => member.1 ++ entry ++ member.2)

/-- The members in text. -/
def header (state : TraceState) : String := state.delimited "=" ","

/-- The number of bytes of the members in text: those of the keys and values, one for each equals sign,
and one for each comma. -/
def headerLength (members : List (String × String)) : Nat :=
  (members.map fun member => member.1.utf8ByteSize + 1 + member.2.utf8ByteSize).foldr (· + ·) 0 +
    (members.length - 1)

/-- Checks a key. -/
def checkKey (key : String) : Except TraceError Unit :=
  if validKey key then .ok () else .error (.invalidArgument (.badStateKey key))

/-- Checks a key and then a value. -/
def checkMember (member : String × String) : Except TraceError Unit :=
  if validKey member.1 then
    if validValue member.2 then .ok () else .error (.invalidArgument (.badStateValue member.2))
  else .error (.invalidArgument (.badStateKey member.1))

/-- The trace state with the given members. Keys and values are checked from the front, then the number
of members, then the length in text. -/
def ofPairs (members : List (String × String)) : Except TraceError TraceState := do
  members.forM checkMember
  if maxStateMembers < members.length then
    throw (.invalidArgument (.tooManyMembers members.length maxStateMembers))
  if maxStateLength < headerLength members then
    throw (.invalidArgument (.stateTooLong maxStateLength))
  return ⟨members⟩

/-- Reads one member. White space around the key and around the value does not count. -/
def readMember (cs : List Char) : Except TraceError (String × String) :=
  match Text.cut? '=' cs with
  | some (key, value) =>
    .ok (String.ofList (Text.trim key), String.ofList (Text.trim value))
  | none => .error (.invalidArgument (.badStateMember (String.ofList cs)))

/-- Reads a trace state. White space around members does not count, and neither do empty members. -/
def ofHeader (s : String) : Except TraceError TraceState := do
  let texts := ((Text.pieces ',' s.toList).map Text.trim).filter (!·.isEmpty)
  ofPairs (← texts.mapM readMember)

/-- The value of the first member with the key `key`. -/
def get? (state : TraceState) (key : String) : Option String :=
  (state.members.find? fun member => member.1 == key).map (·.2)

/-- The trace state without its first member with the key `key`. -/
def remove (state : TraceState) (key : String) : TraceState :=
  ⟨state.members.eraseP fun member => member.1 == key⟩

/-- The trace state without its first member with the key `key`; a text that is no key is refused. -/
def delete (state : TraceState) (key : String) : Except TraceError TraceState := do
  checkKey key
  return state.remove key

/-- Whether the members may form a trace state. A single member may be longer than the limit. -/
def fits (members : List (String × String)) : Bool :=
  members.length ≤ maxStateMembers &&
    (members.length ≤ 1 || headerLength members ≤ maxStateLength)

/-- Gives up members from the end until the rest may form a trace state. -/
def evict (members : List (String × String)) : List (String × String) :=
  if _h : fits members then members else evict members.dropLast
termination_by members.length
decreasing_by
  have hne : members ≠ [] := by
    rintro rfl
    exact _h (by decide)
  have := List.length_pos_iff.2 hne
  rw [List.length_dropLast]
  omega

/-- The trace state with a new first member. An earlier member with the same key goes, and old members
are given up until the rest fits. -/
def insert (state : TraceState) (key value : String) : Except TraceError TraceState := do
  checkMember (key, value)
  return ⟨evict ((key, value) :: (state.remove key).members)⟩

/-- The trace state as a log shows it. -/
def describe (state : TraceState) : String :=
  if state.isEmpty then "TraceState(None)"
  else
    let shown := state.members.map fun member =>
      "(" ++ Text.quoted member.1 ++ ", " ++ Text.quoted member.2 ++ ")"
    "TraceState(Some([" ++ ", ".intercalate shown ++ "]))"

end TraceState

end Telemetry
