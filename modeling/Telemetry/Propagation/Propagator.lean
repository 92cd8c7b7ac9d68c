import Telemetry.Propagation.B3
import Telemetry.Propagation.CloudTrace
import Telemetry.Propagation.Traceparent

/-!
# Propagators

The formats in which a span context travels in the headers of a request.
-/

namespace Telemetry

/-- A format for span contexts in headers. -/
inductive Propagator where
  /-- The headers `traceparent` and `tracestate`. -/
  | traceparent
  /-- The headers of B3, written in the given layout. -/
  | b3 (layout : Propagation.B3.Layout)
  /-- The header `X-Cloud-Trace-Context`. -/
  | cloudTrace
  deriving DecidableEq, Repr

namespace Propagator

instance : Inhabited Propagator := ⟨traceparent⟩

/-- Writes a context into a carrier; a context that names nothing leaves the carrier as it is. -/
def inject : Propagator → SpanContext → Carrier → Carrier
  | .traceparent => Propagation.Traceparent.inject
  | .b3 layout => Propagation.B3.inject layout
  | .cloudTrace => Propagation.CloudTrace.inject

/-- The context that a carrier holds. -/
def extract : Propagator → Carrier → Option SpanContext
  | .traceparent => Propagation.Traceparent.extract
  | .b3 _ => Propagation.B3.extract
  | .cloudTrace => Propagation.CloudTrace.extract

/-- The names of the headers of the format. -/
def fields : Propagator → List String
  | .traceparent => Propagation.Traceparent.fields
  | .b3 layout => Propagation.B3.fields layout
  | .cloudTrace => Propagation.CloudTrace.fields

end Propagator

end Telemetry
