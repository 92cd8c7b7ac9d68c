import Telemetry.Numeral.Shortest
import Telemetry.Stats.Error

/-!
# Measures

What is measured: a measure has a name, says what it counts, and takes numbers of one kind. A value is a
number of one of the two kinds.
-/

namespace Telemetry

/-- Something that is measured. Its name is valid. -/
structure Measure where
  /-- The name. -/
  name : String
  /-- What is measured. -/
  description : String
  /-- What the numbers count. -/
  unit : String
  /-- The numbers that are taken. -/
  kind : ValueKind
  deriving DecidableEq, Repr

namespace Measure

/-- A measure with the given name, which is checked. -/
def make (kind : ValueKind) (name description unit : String) : Except StatsError Measure := do
  checkName .measure name
  return { name, description, unit, kind }

/-- The measure as a log shows it. -/
def describe (m : Measure) : String :=
  let kind :=
    match m.kind with
    | .int => "Int"
    | .float => "Float"
  kind ++ "(Measure" ++ kind ++ "(MeasureDescriptor \x7b name: " ++ Text.quoted m.name ++
    ", description: " ++ Text.quoted m.description ++ ", unit: " ++ Text.quoted m.unit ++
    ", value_kind: " ++ m.kind.name ++ " \x7d))"

end Measure

/-- A measured number. -/
inductive MeasureValue where
  /-- A whole number. -/
  | int (v : Int64)
  /-- A double. -/
  | float (v : Float)
  deriving DecidableEq

namespace MeasureValue

/-- The kind of the number. -/
def kind : MeasureValue → ValueKind
  | .int _ => .int
  | .float _ => .float

/-- The number as a double. -/
def toFloat : MeasureValue → Float
  | .int v => v.toFloat
  | .float v => v

/-- Zero. -/
def zero : ValueKind → MeasureValue
  | .int => .int 0
  | .float => .float 0

/-- Whether the number is neither infinite nor no number. -/
def isFinite : MeasureValue → Bool
  | .int _ => true
  | .float v => v.isFinite

/-- The sum of two numbers: of whole numbers as a whole number, modulo `2 ^ 64`, else as a double. -/
def add : MeasureValue → MeasureValue → MeasureValue
  | .int a, .int b => .int (a + b)
  | a, b => .float (a.toFloat + b.toFloat)

/-- The number in text. -/
def display : MeasureValue → String
  | .int v => toString v.toInt
  | .float v => Numeral.floatText v

/-- The number as a log shows it. -/
def describe : MeasureValue → String
  | .int v => "Int(" ++ toString v.toInt ++ ")"
  | .float v => "Float(" ++ Numeral.floatLogText v ++ ")"

end MeasureValue

/-- Checks that a value is of the kind of the measure. -/
def Measure.checkValue (m : Measure) (value : MeasureValue) : Except StatsError Unit :=
  if value.kind = m.kind then .ok ()
  else .error (.invalidArgument (.wrongKind m.name m.kind value.kind))

end Telemetry
