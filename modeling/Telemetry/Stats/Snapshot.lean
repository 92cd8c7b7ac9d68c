import Telemetry.Stats.View

/-!
# Snapshots and metrics

A snapshot is a view with its cells at one moment, in the order of their tag tuples, where a missing tag
comes before any value. A metric is the same in the form that monitoring systems take: one time series
for each cell, with one point.
-/

namespace Telemetry

/-- A view with its cells at one moment. -/
structure ViewData where
  /-- The view. -/
  view : View
  /-- Since when numbers were folded. -/
  startTime : Timestamp
  /-- The moment. -/
  endTime : Timestamp
  /-- The cells. -/
  rows : OrderedMap TagTuple Cell
  deriving DecidableEq

/-- A number or distribution in a metric. -/
inductive PointValue where
  | int (v : Int64)
  | double (v : Float)
  | distribution (d : Distribution)
  deriving DecidableEq

/-- What a cell says in a metric. -/
def Cell.pointValue : Cell → PointValue
  | .count n => .int n
  | .sum (.int v) => .int v
  | .sum (.float v) => .double v
  | .last (.int v) => .int v
  | .last (.float v) => .double v
  | .distribution d => .distribution d

/-- A number or distribution at one moment. -/
structure Point where
  /-- The moment. -/
  time : Timestamp
  /-- The number or distribution. -/
  value : PointValue
  deriving DecidableEq

/-- The points for one combination of labels. -/
structure TimeSeries where
  /-- The labels. -/
  labels : TagTuple
  /-- The points. -/
  points : List Point
  /-- Since when the numbers accumulate, if they do. -/
  startTime : Option Timestamp
  deriving DecidableEq

/-- A view in the form that monitoring systems take. -/
structure Metric where
  /-- The name. -/
  name : String
  /-- What is shown. -/
  description : String
  /-- What the numbers count. -/
  unit : String
  /-- What the numbers are. -/
  kind : MetricKind
  /-- The names of the labels. -/
  labelKeys : List TagKey
  /-- One series for each combination of labels, in the order of the labels. -/
  series : List TimeSeries
  deriving DecidableEq

/-- What the numbers of a view count: a count of numbers has no unit. -/
def View.unit (v : View) : String :=
  match v.aggregation with
  | .count => "1"
  | _ => v.measure.unit

/-- The metric of a snapshot. -/
def ViewData.toMetric (data : ViewData) : Metric :=
  let kind := data.view.metricKind
  { name := data.view.name
    description := data.view.description
    unit := data.view.unit
    kind
    labelKeys := data.view.columns
    series := data.rows.entries.map fun row =>
      { labels := row.1
        points := [⟨data.endTime, row.2.pointValue⟩]
        startTime := if kind.isCumulative then some data.startTime else none } }

end Telemetry
