import Telemetry.Trace.Error

/-!
# Diagnostics

What the library has to say about its own work: a call that had no effect, a limit that was reached, data
that was dropped. A diagnostic is an event with a level, a name and fields.
-/

namespace Telemetry

/-- How serious a diagnostic is. -/
inductive Level where
  | debug
  | info
  | warn
  | error
  deriving DecidableEq, Repr

/-- The name of the level. -/
def Level.name : Level → String
  | .debug => "DEBUG"
  | .info => "INFO"
  | .warn => "WARN"
  | .error => "ERROR"

/-- What the library reports. -/
inductive Diagnostic where
  /-- Of the bucket bounds given, some were no bounds or were given twice. -/
  | boundsNormalized (dropped kept : Nat)
  /-- A span was to be ended but none of the tracer was open. -/
  | noOpenSpan
  /-- A span was ended while newer ones were open. -/
  | outOfOrderEnd (ended : SpanId) (abandoned : Nat)
  /-- A context was not attached, since `limit` is reached. -/
  | attachRefused (limit : Nat)
  /-- A context was to be detached at a position outside the stack. -/
  | detachOutOfBounds (position size : Nat)
  /-- A view is new. -/
  | viewRegistered (view : String)
  /-- An exporter failed. -/
  | exportFailed (exporter reason : String)
  /-- A measurement was dropped: its measure is not registered. -/
  | unknownMeasure (measure : String)
  /-- A measurement was dropped: another measure is registered under the name. -/
  | measureMismatch (measure : String)
  /-- A measurement was dropped: its value is not of the kind of its measure. -/
  | valueKindMismatch (measure : String)
  /-- A measurement was dropped: its value is not a finite number. -/
  | nonFiniteValue (measure : String)
  /-- There is a new global tracer. -/
  | globalTracerSet
  deriving DecidableEq, Repr

namespace Diagnostic

/-- How serious the diagnostic is. -/
def level : Diagnostic → Level
  | .boundsNormalized .. | .outOfOrderEnd .. | .attachRefused _ | .detachOutOfBounds ..
  | .exportFailed .. => .warn
  | .noOpenSpan | .viewRegistered _ | .unknownMeasure _ | .measureMismatch _
  | .valueKindMismatch _ | .nonFiniteValue _ => .debug
  | .globalTracerSet => .info

/-- The name of the event. -/
def name : Diagnostic → String
  | .boundsNormalized .. => "BucketBoundaries.Normalized"
  | .noOpenSpan => "Tracer.EndSpanWithoutOpenSpan"
  | .outOfOrderEnd .. => "Tracer.OutOfOrderEnd"
  | .attachRefused _ => "Context.AttachFailed"
  | .detachOutOfBounds .. => "Context.PopOutOfBounds"
  | .viewRegistered _ => "ViewManager.ViewRegistered"
  | .exportFailed .. => "ViewManager.ExportFailed"
  | .unknownMeasure _ => "MeasureToViewMap.UnknownMeasure"
  | .measureMismatch _ => "MeasureToViewMap.MeasureMismatch"
  | .valueKindMismatch _ => "MeasureToViewMap.ValueKindMismatch"
  | .nonFiniteValue _ => "MeasureToViewMap.NonFiniteValue"
  | .globalTracerSet => "Tracer.GlobalSet"

/-- The fields of the event. -/
def fields : Diagnostic → List (String × String)
  | .boundsNormalized dropped kept => [("dropped", toString dropped), ("kept", toString kept)]
  | .noOpenSpan => []
  | .outOfOrderEnd ended abandoned =>
    [("error", (TraceError.outOfOrderEnd ended abandoned).message)]
  | .attachRefused limit =>
    [("message", "Too many contexts. Max limit is " ++ toString limit ++
      ". Context::current() remains unchanged as this attach failed.")]
  | .detachOutOfBounds position size =>
    [("position", toString position), ("stack_length", toString size)]
  | .viewRegistered view => [("view", view)]
  | .exportFailed exporter reason => [("exporter", exporter), ("error", reason)]
  | .unknownMeasure measure => [("measure", measure)]
  | .measureMismatch measure => [("measure", measure)]
  | .valueKindMismatch measure => [("measure", measure)]
  | .nonFiniteValue measure => [("measure", measure)]
  | .globalTracerSet => []

end Diagnostic

end Telemetry
