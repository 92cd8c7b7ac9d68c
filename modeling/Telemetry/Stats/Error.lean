import Telemetry.Tag.Basic

/-!
# Errors of stats

Why a measure, a view or a measurement is refused.
-/

namespace Telemetry

/-- The numbers that a measure takes. -/
inductive ValueKind where
  /-- Whole numbers of 64 bits. -/
  | int
  /-- Doubles. -/
  | float
  deriving DecidableEq, Repr

/-- The name of the kind. -/
def ValueKind.name : ValueKind → String
  | .int => "Int64"
  | .float => "Float64"

/-- What has a name that must be valid. -/
inductive Named where
  | measure
  | view
  deriving DecidableEq, Repr

/-- The word for it. -/
def Named.word : Named → String
  | .measure => "measure"
  | .view => "view"

/-- The greatest number of bytes in the name of a measure or a view. -/
def maxNameLength : Nat := 255

/-- Why an argument is refused. -/
inductive StatsFault where
  /-- A name is empty or too long. -/
  | nameLength (of : Named) (bytes : Nat)
  /-- A name holds other characters than printable ASCII characters. -/
  | nameCharacters (of : Named) (name : String)
  /-- A view has a column twice. -/
  | repeatedColumn (view column : String)
  /-- A value is not of the kind of its measure. -/
  | wrongKind (measure : String) (expected actual : ValueKind)
  /-- An attachment has an empty key or an empty value. -/
  | emptyAttachment
  /-- Another reason, in words. -/
  | other (reason : String)
  deriving DecidableEq, Repr

/-- The wording of the fault. -/
def StatsFault.message : StatsFault → String
  | .nameLength of bytes =>
    of.word ++ " name must be 1 to " ++ toString maxNameLength ++ " characters long, got " ++
      toString bytes
  | .nameCharacters of name =>
    of.word ++ " name " ++ Text.quoted name ++ " contains non-printable characters"
  | .repeatedColumn view column =>
    "view " ++ Text.quoted view ++ " lists column " ++ Text.quoted column ++ " more than once"
  | .wrongKind measure expected actual =>
    "measure " ++ Text.quoted measure ++ " records " ++ expected.name ++ " values, got " ++
      actual.name
  | .emptyAttachment => "attachment keys and values must be non-empty"
  | .other reason => reason

/-- Why an operation of stats fails. -/
inductive StatsError where
  /-- An argument is refused. -/
  | invalidArgument (fault : StatsFault)
  /-- Another view has the name. -/
  | duplicateView (name : String)
  /-- Another measure has the name. -/
  | measureConflict (name : String)
  deriving DecidableEq, Repr

/-- The wording of the error. -/
def StatsError.message : StatsError → String
  | .invalidArgument fault => "invalid argument: " ++ fault.message
  | .duplicateView name =>
    "a different view named " ++ Text.quoted name ++ " is already registered"
  | .measureConflict name =>
    "a different measure named " ++ Text.quoted name ++ " is already registered"

/-- Checks a name: 1 to 255 bytes, all of them printable ASCII characters. -/
def checkName (of : Named) (name : String) : Except StatsError Unit :=
  if name.utf8ByteSize = 0 ∨ maxNameLength < name.utf8ByteSize then
    .error (.invalidArgument (.nameLength of name.utf8ByteSize))
  else if name.toList.all isPrintableAscii then .ok ()
  else .error (.invalidArgument (.nameCharacters of name))

end Telemetry
