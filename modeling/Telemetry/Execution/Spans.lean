import Telemetry.Execution.Basic

/-!
# The life of spans

Starting, changing and ending spans. A span started in a context gets as its parent the innermost span of
its own tracer that has not ended, or else the tracer's remote parent, or else it is the first of a new
trace and the sampler decides whether it is recorded. A child takes over the trace, the options and the
trace state of its parent.

A span ends once: the first time, it is handed to the exporter of its tracer if it was recorded, and later
times change nothing. `endNewest` ends the newest open span of a tracer. `endOpen` ends a given open span,
after ending the newer open spans of its tracer as abandoned, and leaves those of other tracers open.
-/

namespace Telemetry

/-- Where a new span comes from. -/
structure Lineage where
  /-- The context of the new span. -/
  context : SpanContext
  /-- Its parent. -/
  parent : Option SpanId
  /-- Whether its parent is in this process, if it has one. -/
  sameProcess : Option Bool

namespace Execution

/-- The innermost span of tracer `t` in `cx` that has not ended. -/
def spanOf? (e : Execution) (cx : Context) (t : TracerRef) : Option SpanRef :=
  cx.spans.find? fun s => (e.span s).tracer == t && !(e.span s).ended

/-- The innermost span of tracer `t` in the current context that has not ended. -/
def currentSpan? (e : Execution) (t : TracerRef) : Option SpanRef := e.spanOf? e.currentContext t

/-- The context of the current span of `t`, or else the remote parent of `t`. -/
def currentSpanContext? (e : Execution) (t : TracerRef) : Option SpanContext :=
  match e.currentSpan? t with
  | some s => some (e.span s).context
  | none => (e.tracer t).remoteParent

/-! ### Recording -/

/-- Changes what is recorded on a span; nothing happens if nothing can be recorded on it. -/
def modifyRecord (e : Execution) (s : SpanRef) (f : SpanRecord → SpanRecord) : Execution :=
  e.modifySpan s fun span => { span with record := span.record.map f }

/-- The limits for a span. -/
def limitsOf (e : Execution) (s : SpanRef) : SpanLimits := (e.tracer (e.span s).tracer).limits

/-- Sets an attribute of a span. -/
def setAttribute (e : Execution) (s : SpanRef) (a : Attribute) : Execution :=
  e.modifyRecord s (·.setAttribute (e.limitsOf s) a)

/-- Adds a note to a span. -/
def addNote (e : Execution) (s : SpanRef) (text : String) (attributes : List Attribute) :
    Execution :=
  e.modifyRecord s (·.addNote (e.limitsOf s) e.clock text attributes)

/-- Adds a message event to a span. -/
def addMessage (e : Execution) (s : SpanRef) (event : MessageEvent) : Execution :=
  e.modifyRecord s (·.addMessage (e.limitsOf s) e.clock event)

/-- Adds a link to a span. -/
def addLink (e : Execution) (s : SpanRef) (link : Link) : Execution :=
  e.modifyRecord s (·.addLink (e.limitsOf s) link)

/-- Sets the status of a span. -/
def setStatus (e : Execution) (s : SpanRef) (status : Status) : Execution :=
  e.modifyRecord s (·.setStatus status)

/-- Sets the name of a span. -/
def rename (e : Execution) (s : SpanRef) (name : String) : Execution :=
  e.modifyRecord s (·.rename name)

/-- Notes on a span that its operation failed. -/
def fail (e : Execution) (s : SpanRef) (message : String) : Execution :=
  e.modifyRecord s (·.fail message)

/-- Does something with the current span of `t`, if there is one. -/
def onCurrent (e : Execution) (t : TracerRef) (f : Execution → SpanRef → Execution) : Execution :=
  match e.currentSpan? t with
  | some s => f e s
  | none => e

/-! ### Starting -/

/-- Takes a span identifier from the source of `t`. -/
def takeSpanId (e : Execution) (t : TracerRef) : SpanId × Execution :=
  let (id, ids) := (e.tracer t).ids.takeSpanId
  (id, e.modifyTracer t ({ · with ids }))

/-- Takes a trace identifier from the source of `t`. -/
def takeTraceId (e : Execution) (t : TracerRef) : TraceId × Execution :=
  let (id, ids) := (e.tracer t).ids.takeTraceId
  (id, e.modifyTracer t ({ · with ids }))

/-- Asks the sampler of `t` about a new trace. -/
def consult (e : Execution) (t : TracerRef) (traceId : TraceId) (spanId : SpanId) (name : String) :
    Bool × Execution :=
  ((e.tracer t).sampler.keeps traceId spanId name,
    { e with consulted := e.consulted.push ⟨t, traceId, spanId, name⟩ })

/-- The lineage of a child of the span `parent`. -/
def lineageOfChild (e : Execution) (parent : SpanRef) (spanId : SpanId) : Lineage :=
  let context := (e.span parent).context
  ⟨{ context with spanId }, some context.spanId, some true⟩

/-- The lineage of a child of a span in another process. -/
def lineageOfRemote (remote : SpanContext) (spanId : SpanId) : Lineage :=
  ⟨{ remote with spanId }, some remote.spanId, some false⟩

/-- The lineage of the first span of a new trace. -/
def lineageOfRoot (e : Execution) (t : TracerRef) (spanId : SpanId) (name : String) :
    Lineage × Execution :=
  let (traceId, e) := e.takeTraceId t
  let (keep, e) := e.consult t traceId spanId name
  (⟨⟨traceId, spanId, TraceOptions.notSampled.withSampled keep, .empty⟩, none, none⟩, e)

/-- The lineage of a new span of `t` in `cx`; its parent counts it. -/
def lineage (e : Execution) (t : TracerRef) (cx : Context) (spanId : SpanId) (name : String) :
    Lineage × Execution :=
  match e.spanOf? cx t with
  | some parent => (e.lineageOfChild parent spanId, e.modifyRecord parent (·.addChild))
  | none =>
    match (e.tracer t).remoteParent with
    | some remote => (lineageOfRemote remote spanId, e)
    | none => e.lineageOfRoot t spanId name

/-- Starts a span of `t` in `cx` without making it current. -/
def startIn (e : Execution) (t : TracerRef) (cx : Context) (name : String) (kind : SpanKind) :
    SpanRef × Execution :=
  let (spanId, e) := e.takeSpanId t
  let (origin, e) := e.lineage t cx spanId name
  let record :=
    if origin.context.isSampled then some (SpanRecord.start name kind e.clock origin.sameProcess)
    else none
  (⟨e.spans.size⟩,
    { e with spans := e.spans.push ⟨t, origin.context, origin.parent, false, record⟩ })

/-- Starts a span of `t` in the current context and makes it current. -/
def start (e : Execution) (t : TracerRef) (name : String) (kind : SpanKind) :
    SpanRef × Execution :=
  let cx := e.currentContext
  let (s, e) := e.startIn t cx name kind
  let (position, e) := e.attach (cx.withSpan s)
  (s, { e with openSpans := ⟨t, s, position⟩ :: e.openSpans })

/-! ### Ending -/

/-- Ends a span at the given time. Only the first time counts. -/
def endAt (e : Execution) (s : SpanRef) (time : Timestamp) : Execution :=
  let span := e.span s
  if span.ended then e
  else
    let e := e.modifySpan s ({ · with ended := true, record := none })
    match span.record with
    | none => e
    | some record =>
      let data := record.finish span.context span.parent time
      { e with exported := e.exported.push (span.tracer, data) }

/-- Ends a span now. -/
def endSpan (e : Execution) (s : SpanRef) : Execution := e.endAt s e.clock

/-- Ends the newest open span of `t` and restores the context from before it. -/
def endNewest (e : Execution) (t : TracerRef) : Execution :=
  match e.openSpans.find? (·.tracer == t) with
  | none => e.report .noOpenSpan
  | some entry =>
    let e := { e with openSpans := e.openSpans.eraseP (·.tracer == t) }
    (e.detach entry.position).endSpan entry.span

/-- The status of a span that was still open when an older one ended. -/
def abandonedStatus : Status := .unknown "abandoned"

/-- Ends an open span, which was taken off the open spans, as abandoned. -/
def abandon (e : Execution) (entry : OpenSpan) : Execution :=
  ((e.detach entry.position).setStatus entry.span abandonedStatus).endSpan entry.span

/-- Ends the open span `s` of `t` and restores the context from before it. Newer open spans of `t` are
abandoned first, the newest first. A span that is not open is simply ended. -/
def endOpen (e : Execution) (t : TracerRef) (s : SpanRef) : Execution :=
  let isOther (entry : OpenSpan) : Bool := !(entry.tracer == t && entry.span == s)
  match e.openSpans.dropWhile isOther with
  | [] => e.endSpan s
  | entry :: older =>
    let newer := e.openSpans.takeWhile isOther
    let abandoned := newer.filter (·.tracer == t)
    let e := { e with openSpans := newer.filter (·.tracer != t) ++ older }
    let e :=
      if abandoned.isEmpty then e
      else e.report (.outOfOrderEnd (e.span s).context.spanId abandoned.length)
    let e := abandoned.foldl abandon e
    (e.detach entry.position).endSpan s

/-! ### Exporters, samplers and propagators -/

/-- The finished spans that were handed to stores in memory and not taken since, in order. -/
def stored (e : Execution) : List SpanData :=
  (e.exported.toList.filter fun d => (e.tracer d.1).exporter.store.isSome).map (·.2)

/-- Takes the finished spans that were handed to a store in memory, in order. -/
def takeStored (e : Execution) (store : Nat) : List SpanData × Execution :=
  let (stored, others) :=
    e.exported.toList.partition fun d => (e.tracer d.1).exporter.store == some store
  (stored.map (·.2), { e with exported := others.toArray })

/-- Takes the questions that the sampler of `t` was asked, in order. -/
def takeConsultations (e : Execution) (t : TracerRef) : List Consultation × Execution :=
  let (asked, others) := e.consulted.toList.partition (·.tracer == t)
  (asked, { e with consulted := others.toArray })

/-- Writes the current span context of `t` into a carrier. -/
def inject (e : Execution) (t : TracerRef) (carrier : Carrier) : Carrier :=
  match e.currentSpanContext? t with
  | some cx => (e.tracer t).propagator.inject cx carrier
  | none => carrier

/-- The span context that a carrier holds, in the format of `t`. -/
def extract (e : Execution) (t : TracerRef) (carrier : Carrier) : Option SpanContext :=
  (e.tracer t).propagator.extract carrier

/-- Asks the exporter of `t` to pass on what it holds back. -/
def flush (e : Execution) (t : TracerRef) : Except ExportError Unit := (e.tracer t).exporter.flush

/-- Asks the exporter of `t` to shut down. -/
def shutdown (e : Execution) (t : TracerRef) : Except ExportError Unit × Execution :=
  let exporter := (e.tracer t).exporter
  (exporter.shutdown,
    match exporter.store with
    | some store => { e with closedStores := store :: e.closedStores }
    | none => e)

end Execution

end Telemetry
