import Telemetry.Time
import Telemetry.Trace.Attribute
import Telemetry.Trace.SpanContext
import Telemetry.Trace.Status

/-!
# What is recorded on a span

While a sampled span is open it collects attributes, notes, message events and links, each kind up
to a limit. What goes beyond a limit is dropped and counted. Notes and message events share one
list, in the order in which they came, but each kind has its own limit.

`SpanRecord` is the record and has one operation for each kind; `SpanData` is the finished record that an
exporter gets. Both leave out the text of the call stack that a noted failure adds where stacks are captured:
nothing else here reads or writes it. What is counted is counted in natural numbers, where a span has counters
of 32 bits; `SpanRecord.Bounded.counts` says how far the two agree.
-/

namespace Telemetry

/-- The side of a call that a span is on. -/
inductive SpanKind where
  | unspecified
  | server
  | client
  deriving DecidableEq, Repr, Inhabited

/-- The direction of a message. -/
inductive MessageKind where
  | unspecified
  | sent
  | received
  deriving DecidableEq, Repr, Inhabited

/-- How a linked span relates to the span with the link. -/
inductive LinkKind where
  | unspecified
  | child
  | parent
  deriving DecidableEq, Repr, Inhabited

/-- The name of the side. -/
def SpanKind.name : SpanKind → String
  | .unspecified => "Unspecified"
  | .server => "Server"
  | .client => "Client"

/-- The name of the direction. -/
def MessageKind.name : MessageKind → String
  | .unspecified => "Unspecified"
  | .sent => "Sent"
  | .received => "Received"

/-- The name of the relation. -/
def LinkKind.name : LinkKind → String
  | .unspecified => "Unspecified"
  | .child => "ChildLinkedSpan"
  | .parent => "ParentLinkedSpan"

/-- A message sent or received by an operation. -/
structure MessageEvent where
  kind : MessageKind
  id : UInt64
  uncompressedSize : Option UInt64
  compressedSize : Option UInt64
  deriving DecidableEq, Repr

/-- Something that happened during an operation: a note with attributes, or a message. -/
inductive Event where
  | note (text : String) (attributes : List Attribute)
  | message (event : MessageEvent)
  deriving DecidableEq

/-- Whether the event is a note. -/
def Event.isNote : Event → Bool
  | .note .. => true
  | .message _ => false

/-- An event and when it happened. -/
structure TimedEvent where
  time : Timestamp
  event : Event
  deriving DecidableEq

/-- A reference to another span, with how that relates to this one. -/
structure Link where
  traceId : TraceId
  spanId : SpanId
  kind : LinkKind
  attributes : List Attribute
  deriving DecidableEq

/-- A link to the span with the given context. -/
def Link.ofContext (cx : SpanContext) (kind : LinkKind) (attributes : List Attribute) : Link :=
  ⟨cx.traceId, cx.spanId, kind, attributes⟩

/-- How much is recorded on a span: of each kind at most so many, and of a text in an attribute at most
`textLength` bytes. -/
structure SpanLimits where
  attributes : Nat
  notes : Nat
  messages : Nat
  links : Nat
  textLength : Nat
  deriving DecidableEq, Repr

/-- The limits of a tracer that is given none. -/
def SpanLimits.standard : SpanLimits := ⟨32, 32, 128, 32, 256⟩

instance : Inhabited SpanLimits := ⟨.standard⟩

/-- How many things of each kind were dropped. The counters of a span have 32 bits; these have no bound. -/
structure DropCounts where
  attributes : Nat
  notes : Nat
  messages : Nat
  links : Nat
  deriving DecidableEq, Repr

/-- What is recorded on an open span, everything in the order in which it came. The attributes have distinct
keys. As in `DropCounts`, the counters have no bound. -/
structure SpanRecord where
  name : String
  kind : SpanKind
  startTime : Timestamp
  attributes : List Attribute
  events : List TimedEvent
  /-- The number of notes among the events. -/
  noteCount : Nat
  /-- The number of messages among the events. -/
  messageCount : Nat
  links : List Link
  dropped : DropCounts
  status : Status
  /-- Whether the parent span is in this process, if there is a parent. -/
  sameProcess : Option Bool
  /-- The number of spans started with this one as their parent. -/
  childCount : Nat
  deriving DecidableEq

namespace SpanRecord

/-- The record of a span that starts. -/
def start (name : String) (kind : SpanKind) (now : Timestamp) (sameProcess : Option Bool) :
    SpanRecord where
  name := name
  kind := kind
  startTime := now
  attributes := []
  events := []
  noteCount := 0
  messageCount := 0
  links := []
  dropped := ⟨0, 0, 0, 0⟩
  status := .ok
  sameProcess := sameProcess
  childCount := 0

/-- Replaces the value of the attribute with the key of `a`, if there is one. -/
def replaceAttribute (a : Attribute) (attributes : List Attribute) : List Attribute :=
  attributes.map fun b => if b.key = a.key then { b with value := a.value } else b

/-- Sets an attribute: a known key gets the new value, and a new key is added while there is room. -/
def setAttribute (limits : SpanLimits) (a : Attribute) (r : SpanRecord) : SpanRecord :=
  let a := a.cutTo limits.textLength
  if r.attributes.any (fun b => b.key = a.key) then
    { r with attributes := replaceAttribute a r.attributes }
  else if r.attributes.length < limits.attributes then
    { r with attributes := r.attributes ++ [a] }
  else
    { r with dropped := { r.dropped with attributes := r.dropped.attributes + 1 } }

/-- Adds a note while there is room. -/
def addNote (limits : SpanLimits) (now : Timestamp) (text : String)
    (attributes : List Attribute) (r : SpanRecord) : SpanRecord :=
  if r.noteCount < limits.notes then
    let attributes := attributes.map (·.cutTo limits.textLength)
    { r with
      noteCount := r.noteCount + 1
      events := r.events ++ [⟨now, .note text attributes⟩] }
  else
    { r with dropped := { r.dropped with notes := r.dropped.notes + 1 } }

/-- Adds a message event while there is room. -/
def addMessage (limits : SpanLimits) (now : Timestamp) (event : MessageEvent) (r : SpanRecord) :
    SpanRecord :=
  if r.messageCount < limits.messages then
    { r with
      messageCount := r.messageCount + 1
      events := r.events ++ [⟨now, .message event⟩] }
  else
    { r with dropped := { r.dropped with messages := r.dropped.messages + 1 } }

/-- Adds a link while there is room. -/
def addLink (limits : SpanLimits) (link : Link) (r : SpanRecord) : SpanRecord :=
  if r.links.length < limits.links then
    let link := { link with attributes := link.attributes.map (·.cutTo limits.textLength) }
    { r with links := r.links ++ [link] }
  else
    { r with dropped := { r.dropped with links := r.dropped.links + 1 } }

/-- Sets the status. -/
def setStatus (status : Status) (r : SpanRecord) : SpanRecord := { r with status }

/-- Sets the name. -/
def rename (name : String) (r : SpanRecord) : SpanRecord := { r with name }

/-- Notes that the operation failed. -/
def fail (message : String) (r : SpanRecord) : SpanRecord := r.setStatus (.unknown message)

/-- Counts one more child. -/
def addChild (r : SpanRecord) : SpanRecord := { r with childCount := r.childCount + 1 }

end SpanRecord

/-- A finished span, as an exporter gets it, with what was recorded while it was open. -/
structure SpanData where
  context : SpanContext
  parent : Option SpanId
  record : SpanRecord
  endTime : Timestamp
  deriving DecidableEq

/-- The finished span: it does not end before it started. -/
def SpanRecord.finish (r : SpanRecord) (context : SpanContext) (parent : Option SpanId)
    (time : Timestamp) : SpanData :=
  ⟨context, parent, r, time.later r.startTime⟩

/-- **No span ends before it starts**, whatever time it is given. -/
theorem SpanRecord.startTime_le_endTime (r : SpanRecord) (context : SpanContext)
    (parent : Option SpanId) (time : Timestamp) :
    r.startTime.ticks ≤ (r.finish context parent time).endTime.ticks :=
  Timestamp.le_later_right _ _

end Telemetry
