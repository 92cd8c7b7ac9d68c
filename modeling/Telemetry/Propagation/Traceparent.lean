import Telemetry.Propagation.Carrier
import Telemetry.Trace.SpanContext

/-!
# The headers traceparent and tracestate

The header `traceparent` is `version-trace-span-options`, in lowercase hexadecimal digits. Version 0 has
exactly these four fields; a later version may append fields, which are passed over. The header
`tracestate` holds the trace state, and a malformed one counts as empty.
-/

namespace Telemetry.Propagation.Traceparent

/-- The header with the identifiers and options. -/
def parentHeader : String := "traceparent"

/-- The header with the trace state. -/
def stateHeader : String := "tracestate"

/-- The headers of the format. -/
def fields : List String := [parentHeader, stateHeader]

/-- The greatest version. -/
def maxVersion : Nat := 254

/-- The byte with the two digits `cs`; in place of the first digit a plus sign may stand. -/
def readByte? : List Char → Option UInt8
  | ['+', low] => (Numeral.ofHex? [low]).map UInt8.ofNat
  | [high, low] => (Numeral.ofHex? [high, low]).map UInt8.ofNat
  | _ => none

/-- The value of the header `traceparent`. -/
def write (cx : SpanContext) : String :=
  "00-" ++ cx.traceId.hex ++ "-" ++ cx.spanId.hex ++ "-" ++ cx.options.hex

/-- Reads a value of the header `traceparent`. -/
def read? (value : String) : Option (TraceId × SpanId × TraceOptions) :=
  match Text.endedPieces '-' (Text.trim value.toList) with
  | version :: trace :: span :: options :: more => do
    let version ← readByte? version
    guard (version.toNat ≤ maxVersion ∧ (version = 0 → more = []))
    let traceId ← TraceId.ofHex? (String.ofList trace)
    let spanId ← SpanId.ofHex? (String.ofList span)
    let options ← readByte? options
    guard (traceId.isValid && spanId.isValid)
    return (traceId, spanId, ⟨options⟩)
  | _ => none

/-- The trace state that the carrier holds. -/
def readState (carrier : Carrier) : TraceState :=
  match carrier.header? stateHeader with
  | some value => (TraceState.ofHeader value).toOption.getD .empty
  | none => .empty

/-- Writes a valid context into the carrier. -/
def inject (cx : SpanContext) (carrier : Carrier) : Carrier :=
  if cx.isValid then
    carrier.setHeaders [(parentHeader, write cx), (stateHeader, cx.state.header)]
  else carrier

/-- The context that the carrier holds. -/
def extract (carrier : Carrier) : Option SpanContext := do
  let value ← carrier.header? parentHeader
  let (traceId, spanId, options) ← read? value
  return ⟨traceId, spanId, options, readState carrier⟩

end Telemetry.Propagation.Traceparent
