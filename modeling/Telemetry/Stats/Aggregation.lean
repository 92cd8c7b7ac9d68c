import Telemetry.Stats.Distribution
import Telemetry.Stats.Measure

/-!
# Aggregations

How a view folds the numbers recorded for its measure into one cell: it counts them, adds them up, keeps
the last one, or keeps their distribution.
-/

namespace Telemetry

/-- How numbers are folded. -/
inductive Aggregation where
  /-- The numbers are counted. -/
  | count
  /-- The numbers are added up. -/
  | sum
  /-- The last number is kept. -/
  | last
  /-- The distribution over the given buckets is kept. -/
  | distribution (buckets : Buckets)
  deriving DecidableEq

/-- The numbers folded so far. -/
inductive Cell where
  /-- How many there were, modulo `2 ^ 64`. -/
  | count (n : Int64)
  /-- Their sum. -/
  | sum (v : MeasureValue)
  /-- The last of them. -/
  | last (v : MeasureValue)
  /-- Their distribution. -/
  | distribution (d : Distribution)
  deriving DecidableEq

/-- The cell of an aggregation into which nothing was folded. -/
def Aggregation.newCell (a : Aggregation) (kind : ValueKind) : Cell :=
  match a with
  | .count => .count 0
  | .sum => .sum (.zero kind)
  | .last => .last (.zero kind)
  | .distribution buckets => .distribution (.empty buckets)

/-- Folds one more number into a cell. -/
def Cell.add (cell : Cell) (value : MeasureValue) (time : Timestamp) (attachments : Attachments) :
    Cell :=
  match cell with
  | .count n => .count (n + 1)
  | .sum v => .sum (v.add value)
  | .last _ => .last value
  | .distribution d => .distribution (d.add value.toFloat time attachments)

end Telemetry
