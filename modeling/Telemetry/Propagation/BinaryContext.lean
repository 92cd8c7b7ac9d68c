import Telemetry.Trace.SpanContext

/-!
# Span contexts in bytes

A version byte and then fields, each a byte that says which field it is and a fixed number of bytes:

* field 0: the trace identifier in 16 bytes;
* field 1: the span identifier in 8 bytes;
* field 2: the options in one byte.

Fields stand in any order, and the last of several equal fields counts. Reading stops at a field of
another kind, whose length is not known. Every version is read, since later versions only append fields.
The trace state is not kept.
-/

namespace Telemetry

/-- A field of a span context in bytes. -/
inductive ContextField where
  /-- The trace identifier. -/
  | traceId
  /-- The span identifier. -/
  | spanId
  /-- The options. -/
  | options
  deriving DecidableEq, Repr

namespace ContextField

/-- What the field is called in messages. -/
def name : ContextField → String
  | .traceId => "trace id"
  | .spanId => "span id"
  | .options => "trace options"

/-- The byte that introduces the field. -/
def tag : ContextField → UInt8
  | .traceId => 0
  | .spanId => 1
  | .options => 2

/-- The number of bytes of the field. -/
def size : ContextField → Nat
  | .traceId => 16
  | .spanId => 8
  | .options => 1

/-- The field that the byte introduces. -/
def ofTag? (tag : UInt8) : Option ContextField :=
  if tag = 0 then some .traceId
  else if tag = 1 then some .spanId
  else if tag = 2 then some .options
  else none

end ContextField

/-- Why bytes hold no span context. -/
inductive ContextFault where
  /-- There are no bytes. -/
  | empty
  /-- The input ends inside a field. -/
  | truncated (field : ContextField)
  /-- A field that must be there is not. -/
  | missing (field : ContextField)
  /-- An identifier names nothing. -/
  | zeroId
  /-- Another reason, in words. -/
  | other (reason : String)
  deriving DecidableEq, Repr

/-- The wording of the fault. -/
def ContextFault.message : ContextFault → String
  | .empty => "empty buffer"
  | .truncated field => "truncated " ++ field.name
  | .missing field => "missing " ++ field.name
  | .zeroId => "all-zero id"
  | .other reason => reason

/-- A span context in a given format cannot be read. -/
structure PropagationError where
  /-- What the format is called. -/
  format : String
  /-- Why it cannot be read. -/
  fault : ContextFault
  deriving DecidableEq, Repr

/-- The wording of the error. -/
def PropagationError.message (e : PropagationError) : String :=
  "Cannot decode " ++ e.format ++ " data: " ++ e.fault.message

namespace Propagation.BinaryContext

/-- What the format is called in messages. -/
def formatName : String := "binary trace context"

/-- The number of bytes of a written context. -/
def encodedSize : Nat := 29

/-- The fields read so far. -/
structure Fields where
  /-- The trace identifier. -/
  traceId : Option TraceId
  /-- The span identifier. -/
  spanId : Option SpanId
  /-- The options. -/
  options : TraceOptions
  deriving DecidableEq

/-- The fields with the bytes of one more field. -/
def Fields.set (fields : Fields) (field : ContextField) (bytes : List UInt8) : Fields :=
  match field with
  | .traceId => { fields with traceId := some (.ofBytes bytes) }
  | .spanId => { fields with spanId := some (.ofBytes bytes) }
  | .options => { fields with options := ⟨bytes.headD 0⟩ }

/-- Reads the fields at the front of the input onto the fields read so far. -/
def readFields (fields : Fields) (bytes : List UInt8) : Except ContextFault Fields :=
  match bytes with
  | [] => .ok fields
  | tag :: body =>
    match ContextField.ofTag? tag with
    | none => .ok fields
    | some field =>
      if body.length < field.size then .error (.truncated field)
      else readFields (fields.set field (body.take field.size)) (body.drop field.size)
termination_by bytes.length
decreasing_by
  simp only [List.length_drop, List.length_cons]
  omega

/-- The context with the given fields. -/
def Fields.toContext (fields : Fields) : Except ContextFault SpanContext :=
  match fields.traceId, fields.spanId with
  | none, _ => .error (.missing .traceId)
  | some _, none => .error (.missing .spanId)
  | some traceId, some spanId =>
    let cx : SpanContext := ⟨traceId, spanId, fields.options, .empty⟩
    if cx.isValid then .ok cx else .error .zeroId

/-- The context that the bytes describe, or what is wrong with them. -/
def decode (bytes : List UInt8) : Except PropagationError SpanContext :=
  let read : Except ContextFault SpanContext :=
    match bytes with
    | [] => .error .empty
    | _ :: rest => do (← readFields ⟨none, none, .notSampled⟩ rest).toContext
  read.mapError fun fault => ⟨formatName, fault⟩

/-- The context that the bytes describe, if there is one. -/
def ofBytes? (bytes : List UInt8) : Option SpanContext := (decode bytes).toOption

/-- The bytes of a context; zeros for a context that names nothing. -/
def toBytes (cx : SpanContext) : List UInt8 :=
  if cx.isValid then
    0 :: ContextField.traceId.tag :: cx.traceId.toBytes ++
      ContextField.spanId.tag :: cx.spanId.toBytes ++ [ContextField.options.tag, cx.options.byte]
  else List.replicate encodedSize 0

/-- A written context has a fixed number of bytes. -/
theorem length_toBytes (cx : SpanContext) : (toBytes cx).length = encodedSize := by
  unfold toBytes
  split <;> simp [TraceId.toBytes, SpanId.toBytes, encodedSize]

end Propagation.BinaryContext

end Telemetry
