import Telemetry.Propagation.Carrier
import Telemetry.Trace.SpanContext

/-!
# The header X-Cloud-Trace-Context

A context in one header, `trace/span;o=1` or `trace/span;o=0`, of which the options may be missing. The
trace identifier is written in hexadecimal digits, which are read in either case, and the span identifier
as a decimal number. The trace state is not kept.
-/

namespace Telemetry.Propagation.CloudTrace

/-- The header. -/
def header : String := "X-Cloud-Trace-Context"

/-- The headers of the format. -/
def fields : List String := [header]

/-- Reads a span identifier, a decimal number below `2 ^ 64`. -/
def readSpanId? (cs : List Char) : Option SpanId :=
  if cs ≠ [] ∧ cs.all Char.isDigit = true ∧ Nat.ofDigitChars 10 cs 0 < Nat.pow 2 64 then
    some (.ofNat (Nat.ofDigitChars 10 cs 0))
  else none

/-- Reads the options. -/
def readOptions? : List Char → Option TraceOptions
  | ['o', '=', '0'] => some .notSampled
  | ['o', '=', '1'] => some .sampled
  | _ => none

/-- Reads a value of the header. -/
def read? (value : String) : Option SpanContext := do
  let (trace, rest) ← Text.cut? '/' (Text.trim value.toList)
  let traceId ← TraceId.ofHex? (String.ofList (trace.map Char.toLower))
  let (span, options) ←
    match Text.cut? ';' rest with
    | some (span, options) => (readOptions? options).map fun options => (span, options)
    | none => some (rest, .notSampled)
  let spanId ← readSpanId? span
  let cx : SpanContext := ⟨traceId, spanId, options, .empty⟩
  guard cx.isValid
  return cx

/-- The value of the header. -/
def write (cx : SpanContext) : String :=
  cx.traceId.hex ++ "/" ++ toString cx.spanId.toNat ++ ";o=" ++ (if cx.isSampled then "1" else "0")

/-- Writes a valid context into the carrier. -/
def inject (cx : SpanContext) (carrier : Carrier) : Carrier :=
  if cx.isValid then carrier.setHeader header (write cx) else carrier

/-- The context that the carrier holds. -/
def extract (carrier : Carrier) : Option SpanContext := (carrier.header? header).bind read?

end Telemetry.Propagation.CloudTrace
