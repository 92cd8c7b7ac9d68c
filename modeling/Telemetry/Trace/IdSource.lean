import Telemetry.Trace.Id

/-!
# Sources of identifiers

Where a tracer takes new identifiers from: a sequence of trace identifiers and a sequence of span
identifiers, and how many of each were taken. The sequences may be any, so what holds of every source holds
of one that draws at random. `IdSource.counting` counts upwards from given numbers.
-/

namespace Telemetry

/-- Two sequences of identifiers and how far they were used. -/
structure IdSource where
  /-- The trace identifiers, in order. -/
  traceIds : Nat → TraceId
  /-- The span identifiers, in order. -/
  spanIds : Nat → SpanId
  /-- How many trace identifiers were taken. -/
  tracesTaken : Nat
  /-- How many span identifiers were taken. -/
  spansTaken : Nat

namespace IdSource

/-- Takes the next trace identifier. -/
def takeTraceId (ids : IdSource) : TraceId × IdSource :=
  (ids.traceIds ids.tracesTaken, { ids with tracesTaken := ids.tracesTaken + 1 })

/-- Takes the next span identifier. -/
def takeSpanId (ids : IdSource) : SpanId × IdSource :=
  (ids.spanIds ids.spansTaken, { ids with spansTaken := ids.spansTaken + 1 })

/-- The identifiers from the given numbers upwards. -/
def counting (firstTrace firstSpan : Nat) : IdSource where
  traceIds k := .ofNat (firstTrace + k)
  spanIds k := .ofNat (firstSpan + k)
  tracesTaken := 0
  spansTaken := 0

instance : Inhabited IdSource := ⟨counting 1 1⟩

end IdSource

end Telemetry
