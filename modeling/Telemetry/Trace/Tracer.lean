import Telemetry.Export
import Telemetry.Propagation.Propagator
import Telemetry.Trace.IdSource
import Telemetry.Trace.Record
import Telemetry.Trace.Sampler

/-!
# Tracers

A tracer starts spans. It has an identity of its own, so that the spans of one tracer never become
parents of another's, and it fixes how its traces are chosen, where identifiers come from, how much is
recorded, how contexts travel and where finished spans go.
-/

namespace Telemetry

/-- A reference to a tracer: the number of tracers that were made before it. -/
structure TracerRef where
  /-- The number. -/
  index : Nat
  deriving DecidableEq, Repr, Inhabited

/-- Where a tracer hands its finished spans, and what its exporter answers to requests. -/
structure SpanExporter where
  /-- The store in memory that keeps the spans; without one they are given up. -/
  store : Option Nat
  /-- The answer to a request to pass on what is held back. -/
  flush : Except ExportError Unit
  /-- The answer to a request to shut down. -/
  shutdown : Except ExportError Unit

namespace SpanExporter

/-- The exporter that gives spans up. -/
def discarding : SpanExporter := ⟨none, .ok (), .ok ()⟩

/-- The exporter that keeps spans in the store `index`. -/
def inMemory (index : Nat) : SpanExporter := ⟨some index, .ok (), .ok ()⟩

/-- The exporter that gives spans up and refuses requests. -/
def refusing (onFlush onShutdown : ExportError) : SpanExporter :=
  ⟨none, .error onFlush, .error onShutdown⟩

end SpanExporter

/-- What a tracer is made of. -/
structure Tracer where
  /-- How traces are chosen. -/
  sampler : Sampler
  /-- Where identifiers come from. -/
  ids : IdSource
  /-- How much is recorded. -/
  limits : SpanLimits
  /-- How contexts travel. -/
  propagator : Propagator
  /-- The parent, in another process, of spans without a parent in this one. -/
  remoteParent : Option SpanContext
  /-- Where finished spans go. -/
  exporter : SpanExporter

namespace Tracer

/-- The tracer with the standard sampler and limits, which gives finished spans up. -/
def standard (ids : IdSource) : Tracer where
  sampler := .standard
  ids := ids
  limits := .standard
  propagator := .traceparent
  remoteParent := none
  exporter := .discarding

instance : Inhabited Tracer := ⟨standard default⟩

/-- The tracer with the given remote parent. A context that names nothing is none. -/
def withRemoteParent (tracer : Tracer) (cx : SpanContext) : Tracer :=
  { tracer with remoteParent := if cx.isValid then some cx else none }

end Tracer

end Telemetry
