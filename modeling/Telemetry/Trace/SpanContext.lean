import Telemetry.Trace.State

/-!
# Span contexts

What the other spans of a trace, in this process or in another, need to know about a span: the names of
its trace and of itself, the options of the trace, and the trace state. A span context is a plain value.
-/

namespace Telemetry

/-- The part of a span that travels. -/
structure SpanContext where
  /-- The trace that the span belongs to. -/
  traceId : TraceId
  /-- The span itself. -/
  spanId : SpanId
  /-- The options of the trace. -/
  options : TraceOptions
  /-- The data of tracing systems. -/
  state : TraceState
  deriving DecidableEq, Repr

namespace SpanContext

/-- The context of no span. -/
def none : SpanContext := ⟨.none, .none, .notSampled, .empty⟩

instance : Inhabited SpanContext := ⟨none⟩

/-- Whether the context names a trace and a span. -/
def isValid (cx : SpanContext) : Bool := cx.traceId.isValid && cx.spanId.isValid

/-- Whether the trace is kept. -/
def isSampled (cx : SpanContext) : Bool := cx.options.isSampled

/-- The context of the trace and the span with the given digits, neither of them all zeros. -/
def ofHex (traceId spanId : String) (options : TraceOptions) : Except TraceError SpanContext := do
  let traceId ← TraceId.ofHex traceId
  let spanId ← SpanId.ofHex spanId
  let cx : SpanContext := ⟨traceId, spanId, options, .empty⟩
  if cx.isValid then return cx else throw (.invalidArgument .zeroId)

/-- The context as a log shows it. -/
def describe (cx : SpanContext) : String :=
  "SpanContext \x7b trace_id: " ++ cx.traceId.hex ++ ", span_id: " ++ cx.spanId.hex ++
    ", trace_options: " ++ cx.options.describe ++ ", trace_state: " ++ cx.state.describe ++ " \x7d"

end SpanContext

end Telemetry
