import Telemetry.Stats.Aggregation
import Telemetry.Tag.Map

/-!
# Views

A view says which numbers are looked at and how: the numbers of one measure, folded by one aggregation,
separately for each combination of values that the tags have in the columns of the view.
-/

namespace Telemetry

/-- What the numbers in a metric are. -/
inductive MetricKind where
  | cumulativeInt
  | cumulativeDouble
  | cumulativeDistribution
  | gaugeInt
  | gaugeDouble
  deriving DecidableEq, Repr

namespace MetricKind

/-- The name of the kind. -/
def name : MetricKind → String
  | .cumulativeInt => "CumulativeInt64"
  | .cumulativeDouble => "CumulativeDouble"
  | .cumulativeDistribution => "CumulativeDistribution"
  | .gaugeInt => "GaugeInt64"
  | .gaugeDouble => "GaugeDouble"

/-- Whether the numbers accumulate from a start. -/
def isCumulative : MetricKind → Bool
  | .gaugeInt | .gaugeDouble => false
  | _ => true

end MetricKind

/-- A way to look at the numbers of a measure. Its name is valid and its columns are distinct. -/
structure View where
  /-- The name. -/
  name : String
  /-- What is shown. -/
  description : String
  /-- The tags that tell cells apart. -/
  columns : List TagKey
  /-- Whose numbers are looked at. -/
  measure : Measure
  /-- How numbers are folded. -/
  aggregation : Aggregation
  deriving DecidableEq

/-- The first member of a list that stands in it before. -/
def firstRepeat? [DecidableEq α] (seen : List α) : List α → Option α
  | [] => none
  | a :: rest => if a ∈ seen then some a else firstRepeat? (a :: seen) rest

namespace View

/-- A view with the given name and columns, which are checked. -/
def make (name description : String) (columns : List TagKey) (measure : Measure)
    (aggregation : Aggregation) : Except StatsError View := do
  checkName .view name
  match firstRepeat? [] columns with
  | some column => throw (.invalidArgument (.repeatedColumn name column.text))
  | none => return { name, description, columns, measure, aggregation }

/-- What the numbers in the metric of the view are. -/
def metricKind (v : View) : MetricKind :=
  match v.aggregation, v.measure.kind with
  | .count, _ => .cumulativeInt
  | .sum, .int => .cumulativeInt
  | .sum, .float => .cumulativeDouble
  | .last, .int => .gaugeInt
  | .last, .float => .gaugeDouble
  | .distribution _, _ => .cumulativeDistribution

/-- A fresh cell of the view. -/
def newCell (v : View) : Cell := v.aggregation.newCell v.measure.kind

end View

/-- The values of the columns of a view, `none` where the tag is missing. -/
abbrev TagTuple := List (Option TagValue)

/-- The values that the tags have in the columns of a view. -/
def View.tuple (v : View) (tags : TagMap) : TagTuple := v.columns.map fun column => tags.get? column

end Telemetry
