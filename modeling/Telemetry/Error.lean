import Telemetry.Export
import Telemetry.Propagation.BinaryContext
import Telemetry.Stats.Error
import Telemetry.Tag.Basic
import Telemetry.Trace.Error

/-!
# Errors

All errors of the library in one type. A caller who only wants to know what sort of failure it was asks
for the kind, which does not depend on the part of the library that failed.
-/

namespace Telemetry

/-- The sort of a failure. -/
inductive ErrorKind where
  /-- A name, tag, identifier or parameter is malformed. -/
  | invalidArgument
  /-- Another view has the name. -/
  | duplicateView
  /-- Another measure has the name. -/
  | measureConflict
  /-- A span was ended while newer spans were open. -/
  | ordering
  /-- An exporter failed. -/
  | exporterFailure
  /-- Something else. -/
  | other
  deriving DecidableEq, Repr

/-- The name of the kind. -/
def ErrorKind.name : ErrorKind → String
  | .invalidArgument => "InvalidArgument"
  | .duplicateView => "DuplicateView"
  | .measureConflict => "MeasureConflict"
  | .ordering => "OrderingError"
  | .exporterFailure => "ExporterFailure"
  | .other => "Other"

/-- The sort of an error of tracing. -/
def TraceError.kind : TraceError → ErrorKind
  | .invalidArgument _ => .invalidArgument
  | .outOfOrderEnd .. => .ordering
  | .other _ => .other

/-- The sort of an error of stats. -/
def StatsError.kind : StatsError → ErrorKind
  | .invalidArgument _ => .invalidArgument
  | .duplicateView _ => .duplicateView
  | .measureConflict _ => .measureConflict

/-- A failure of some part of the library. -/
inductive TelemetryError where
  /-- A failure of tags. -/
  | tag (e : TagError)
  /-- A failure of tracing. -/
  | trace (e : TraceError)
  /-- A failure of stats. -/
  | stats (e : StatsError)
  /-- A span context cannot be read. -/
  | propagation (e : PropagationError)
  /-- A failure of an exporter. -/
  | exporter (e : ExportError)
  /-- A lock cannot be taken, since another task failed while it held it. -/
  | poisonedLock
  /-- Another reason, in words. -/
  | other (reason : String)
  deriving DecidableEq

namespace TelemetryError

/-- The sort of the failure. -/
def kind : TelemetryError → ErrorKind
  | .tag _ => .invalidArgument
  | .trace e => e.kind
  | .stats e => e.kind
  | .propagation _ => .invalidArgument
  | .exporter _ => .exporterFailure
  | .poisonedLock => .other
  | .other _ => .other

/-- The wording of the failure. -/
def message : TelemetryError → String
  | .tag e => e.message
  | .trace e => e.message
  | .stats e => e.message
  | .propagation e => e.message
  | .exporter e => e.message
  | .poisonedLock => "poisoned lock: another task failed inside"
  | .other reason => reason

end TelemetryError

end Telemetry
