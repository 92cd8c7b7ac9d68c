import Telemetry.Context.Basic
import Telemetry.Stats.Registry

/-!
# Batches

Measurements that are recorded together, under one tag map and at one moment, with attachments that
remark on all of them. A batch may be recorded any number of times.
-/

namespace Telemetry

/-- Measurements that are recorded together. -/
structure Batch where
  /-- The measurements, in the order in which they were put in. -/
  measurements : List Measurement
  /-- The remarks. -/
  attachments : Attachments

namespace Batch

/-- The batch without measurements. -/
def empty : Batch := ⟨[], .empty⟩

instance : Inhabited Batch := ⟨empty⟩

/-- The number of measurements. -/
def size (b : Batch) : Nat := b.measurements.length

/-- Whether there is no measurement. -/
def isEmpty (b : Batch) : Bool := b.measurements.isEmpty

/-- Puts in a measurement, whose value must be of the kind of its measure. -/
def put (b : Batch) (measure : Measure) (value : MeasureValue) : Except StatsError Batch := do
  measure.checkValue value
  return { b with measurements := b.measurements ++ [⟨measure, value⟩] }

/-- Adds a remark. A remark with the same key is replaced. -/
def attach (b : Batch) (key value : String) : Except StatsError Batch :=
  if key = "" ∨ value = "" then .error (.invalidArgument .emptyAttachment)
  else .ok { b with attachments := b.attachments.insert key value }

/-- Records the batch in a registry. -/
def recordIn (b : Batch) (r : Registry) (tags : TagMap) (now : Timestamp) :
    Registry × List Diagnostic :=
  r.record tags b.measurements now b.attachments

/-- The batch as a log shows it, beside the registry that it is recorded in. -/
def describe (b : Batch) (r : Registry) : String :=
  let measurements := b.measurements.map fun m =>
    "(" ++ m.measure.describe ++ ", " ++ m.value.describe ++ ")"
  let attachments := b.attachments.entries.map fun a =>
    Text.quoted a.1 ++ ": " ++ Text.quoted a.2
  "MeasurementMap \x7b map: " ++ r.describe ++ ", measurements: [" ++ ", ".intercalate measurements ++
    "], attachments: \x7b" ++ ", ".intercalate attachments ++ "\x7d \x7d"

end Batch

end Telemetry
