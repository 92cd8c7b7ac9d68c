import Telemetry.Propagation.Carrier
import Telemetry.Trace.SpanContext

/-!
# B3 headers

A context in one header `b3`, as `trace-span`, `trace-span-sampled` or `trace-span-sampled-parent`, or in
several headers `X-B3-…`. A layout says which of the two are written; both are read, and the single header
wins if it is there, even if it is malformed. A trace identifier of 16 digits stands for one with zeros in
front. The parent's identifier must be well formed if it is given but is not kept, and neither is the
trace state.
-/

namespace Telemetry.Propagation.B3

/-- Which headers are written. -/
inductive Layout where
  /-- The headers `X-B3-…`. -/
  | multiple
  /-- The header `b3`. -/
  | single
  /-- All of them. -/
  | both
  deriving DecidableEq, Repr

/-- The single header. -/
def singleHeader : String := "b3"

/-- The header with the trace identifier. -/
def traceHeader : String := "X-B3-TraceId"

/-- The header with the span identifier. -/
def spanHeader : String := "X-B3-SpanId"

/-- The header with the identifier of the parent span. -/
def parentHeader : String := "X-B3-ParentSpanId"

/-- The header that says whether the trace is kept. -/
def sampledHeader : String := "X-B3-Sampled"

/-- The header with the debug flag, which keeps the trace as well. -/
def flagsHeader : String := "X-B3-Flags"

/-- The headers of the layout with several headers. -/
def multipleFields : List String := [traceHeader, spanHeader, sampledHeader, flagsHeader]

/-- The headers of a layout. -/
def fields : Layout → List String
  | .multiple => multipleFields
  | .single => [singleHeader]
  | .both => singleHeader :: multipleFields

/-- Reads a trace identifier of 32 or 16 digits. -/
def readTraceId? (text : String) : Option TraceId :=
  if text.toList.length = 16 then TraceId.ofHex? ("0000000000000000" ++ text)
  else TraceId.ofHex? text

/-- Reads the sampling state. -/
def readSampled? : String → Option TraceOptions
  | "" | "0" | "false" => some .notSampled
  | "1" | "true" | "d" => some .sampled
  | _ => none

/-- Reads the debug flag. -/
def readFlags? : String → Option TraceOptions
  | "" | "0" => some .notSampled
  | "1" => some .sampled
  | _ => none

/-- The context with the given parts, if its identifiers name something. -/
def assemble? (traceId : TraceId) (spanId : SpanId) (options : TraceOptions) : Option SpanContext :=
  let cx : SpanContext := ⟨traceId, spanId, options, .empty⟩
  if cx.isValid then some cx else none

/-- Reads what stands behind the identifiers in the single header: nothing, the sampling state, or the
sampling state and the parent. -/
def readTail? : List (List Char) → Option TraceOptions
  | [] => some .notSampled
  | [sampled] => readSampled? (String.ofList sampled)
  | [sampled, parent] => do
    let options ← readSampled? (String.ofList sampled)
    let _ ← SpanId.ofHex? (String.ofList parent)
    return options
  | _ => none

/-- Reads the single header. -/
def readSingle? (value : String) : Option SpanContext :=
  match Text.endedPieces '-' (Text.trim value.toList) with
  | trace :: span :: more => do
    let traceId ← readTraceId? (String.ofList trace)
    let spanId ← SpanId.ofHex? (String.ofList span)
    let options ← readTail? more
    assemble? traceId spanId options
  | _ => none

/-- Reads the headers `X-B3-…`. -/
def readMultiple? (carrier : Carrier) : Option SpanContext := do
  let traceId ← readTraceId? ((carrier.header? traceHeader).getD "")
  let spanId ← SpanId.ofHex? ((carrier.header? spanHeader).getD "")
  let _ ←
    match carrier.header? parentHeader with
    | some parent => SpanId.ofHex? parent
    | none => some .none
  let sampled ← readSampled? ((carrier.header? sampledHeader).getD "")
  let flags ← readFlags? ((carrier.header? flagsHeader).getD "")
  assemble? traceId spanId (sampled ||| flags)

/-- The sampling state of a context. -/
def writeSampled (cx : SpanContext) : String := if cx.isSampled then "1" else "0"

/-- The headers that the layout writes for a context. -/
def headers (layout : Layout) (cx : SpanContext) : List (String × String) :=
  let single :=
    [(singleHeader, cx.traceId.hex ++ "-" ++ cx.spanId.hex ++ "-" ++ writeSampled cx)]
  let multiple :=
    [(traceHeader, cx.traceId.hex), (spanHeader, cx.spanId.hex), (sampledHeader, writeSampled cx)]
  match layout with
  | .multiple => multiple
  | .single => single
  | .both => single ++ multiple

/-- Writes a valid context into the carrier. -/
def inject (layout : Layout) (cx : SpanContext) (carrier : Carrier) : Carrier :=
  if cx.isValid then carrier.setHeaders (headers layout cx) else carrier

/-- The context that the carrier holds. -/
def extract (carrier : Carrier) : Option SpanContext :=
  match carrier.header? singleHeader with
  | some value => readSingle? value
  | none => readMultiple? carrier

end Telemetry.Propagation.B3
