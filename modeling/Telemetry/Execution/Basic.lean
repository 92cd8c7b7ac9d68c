import Telemetry.Context.Basic
import Telemetry.Diagnostic
import Telemetry.Trace.Tracer

/-!
# Executions

What one thread sees of tracing. Shared with all threads are the clock, the tracers, the spans and what
was handed to exporters. The thread's own are the stack of attached contexts and the open spans, that is
those that were started on the thread, made current, and not ended by their tracer since.

An open span remembers the position under which its context was attached, so that ending it can restore
what was current before it.
-/

namespace Telemetry

/-- A span. -/
structure Span where
  /-- The tracer that started it. -/
  tracer : TracerRef
  /-- The part of it that travels. -/
  context : SpanContext
  /-- Its parent. -/
  parent : Option SpanId
  /-- Whether it has ended. -/
  ended : Bool
  /-- What is recorded on it: nothing if it is not sampled or has ended. -/
  record : Option SpanRecord

namespace Span

/-- Stands for a span that is not there. -/
def absent : Span := ⟨default, .none, none, true, none⟩

instance : Inhabited Span := ⟨absent⟩

/-- Whether anything can be recorded on the span. -/
def isRecording (span : Span) : Bool := span.record.isSome

/-- The span as a log shows it. -/
def describe (span : Span) : String :=
  let parent :=
    match span.parent with
    | some id => "Some(" ++ id.hex ++ ")"
    | none => "None"
  "Span \x7b span_context: " ++ span.context.describe ++ ", parent_span_id: " ++ parent ++
    ", recording: " ++ (if span.isRecording then "true" else "false") ++ " \x7d"

end Span

/-- A span that was started on a thread and made current there. -/
structure OpenSpan where
  /-- The tracer that started it. -/
  tracer : TracerRef
  /-- The span. -/
  span : SpanRef
  /-- The position of its context, if the context could be attached. -/
  position : Option Nat
  deriving DecidableEq

/-- A question to a sampler. -/
structure Consultation where
  /-- The tracer whose sampler was asked. -/
  tracer : TracerRef
  /-- The new trace. -/
  traceId : TraceId
  /-- The first span of the trace. -/
  spanId : SpanId
  /-- The name of the span. -/
  name : String
  deriving DecidableEq

/-- What one thread sees of tracing. -/
structure Execution where
  /-- The present. -/
  clock : Timestamp
  /-- The tracers. -/
  tracers : Array Tracer
  /-- The spans. -/
  spans : Array Span
  /-- The spans handed to exporters, each with the tracer that handed it over, in order. -/
  exported : Array (TracerRef × SpanData)
  /-- The questions to samplers, in order. -/
  consulted : Array Consultation
  /-- The stores in memory that were shut down. -/
  closedStores : List Nat
  /-- The tracer that serves where none is given. -/
  globalTracer : Option TracerRef
  /-- The contexts attached on the thread. -/
  contexts : AttachStack Context
  /-- The open spans of the thread, the newest first. -/
  openSpans : List OpenSpan
  /-- What was reported, in order. -/
  diagnostics : Array Diagnostic

namespace Execution

/-- An execution in which nothing has happened. -/
def initial : Execution where
  clock := default
  tracers := #[]
  spans := #[]
  exported := #[]
  consulted := #[]
  closedStores := []
  globalTracer := none
  contexts := .base .empty
  openSpans := []
  diagnostics := #[]

instance : Inhabited Execution := ⟨initial⟩

/-- Another thread, on which nothing has happened, beside that of `e`. -/
def newThread (e : Execution) : Execution :=
  { e with contexts := .base .empty, openSpans := [], diagnostics := #[] }

/-- Goes on with the thread of `e` after `other` has run beside it. -/
def resume (e other : Execution) : Execution :=
  { other with
    contexts := e.contexts
    openSpans := e.openSpans
    diagnostics := e.diagnostics }

/-- Reports a diagnostic. -/
def report (e : Execution) (d : Diagnostic) : Execution :=
  { e with diagnostics := e.diagnostics.push d }

/-- Takes what was reported, in order. -/
def takeDiagnostics (e : Execution) : Array Diagnostic × Execution :=
  (e.diagnostics, { e with diagnostics := #[] })

/-- The tracer with the given reference. -/
def tracer (e : Execution) (t : TracerRef) : Tracer := e.tracers.getD t.index default

/-- The span with the given reference. -/
def span (e : Execution) (s : SpanRef) : Span := e.spans.getD s.index .absent

/-- Adds a tracer. -/
def addTracer (e : Execution) (tracer : Tracer) : TracerRef × Execution :=
  (⟨e.tracers.size⟩, { e with tracers := e.tracers.push tracer })

/-- Changes a tracer. -/
def modifyTracer (e : Execution) (t : TracerRef) (f : Tracer → Tracer) : Execution :=
  { e with tracers := e.tracers.modify t.index f }

/-- Changes a span. -/
def modifySpan (e : Execution) (s : SpanRef) (f : Span → Span) : Execution :=
  { e with spans := e.spans.modify s.index f }

/-- Makes `t` the tracer that serves where none is given. -/
def setGlobalTracer (e : Execution) (t : TracerRef) : Execution :=
  { e with globalTracer := some t }.report .globalTracerSet

/-! ### Contexts -/

/-- The current context. -/
def currentContext (e : Execution) : Context := e.contexts.current

/-- The current tags. -/
def currentTags (e : Execution) : TagMap := e.currentContext.currentTags

/-- Makes a context current and gives its position. A context that cannot be attached is reported and
changes nothing. -/
def attach (e : Execution) (cx : Context) : Option Nat × Execution :=
  match e.contexts.attach cx with
  | (some position, contexts) => (some position, { e with contexts })
  | (none, _) => (none, e.report (.attachRefused maxAttachPosition))

/-- Detaches the context at a position that `attach` gave. -/
def detach (e : Execution) : Option Nat → Execution
  | none => e
  | some position =>
    match e.contexts.detach? position with
    | some contexts => { e with contexts }
    | none => e.report (.detachOutOfBounds position e.contexts.below.size)

/-- Makes `tags` the current tags, in the spans of the current context. -/
def attachTags (e : Execution) (tags : TagMap) : Option Nat × Execution :=
  e.attach (e.currentContext.withTags tags)

/-- The context of the innermost span of `cx`. -/
def spanContextOf? (e : Execution) (cx : Context) : Option SpanContext :=
  cx.span?.map fun s => (e.span s).context

/-- A context as a log shows it. -/
def describeContext (e : Execution) (cx : Context) : String :=
  let span :=
    match e.spanContextOf? cx with
    | some context => context.describe
    | none => Text.quoted "None"
  "Context \x7b span: " ++ span ++ ", tags: " ++ toString cx.currentTags.size ++ " \x7d"

end Execution

end Telemetry
