import Telemetry.Numeral.Bytes
import Telemetry.Numeral.Hex

/-!
# Identifiers

A trace is known by 128 bits and a span by 64. An identifier of zero bits only names nothing. In text an
identifier is written with all its hexadecimal digits, 32 or 16 of them; in bytes it is written in big
endian order. One further byte of options travels with the identifiers, and its lowest bit says whether
the trace is kept.
-/

namespace Telemetry

/-- The name of a trace. -/
structure TraceId where
  /-- The bits of the name. -/
  bits : BitVec 128
  deriving DecidableEq, Repr

/-- The name of a span. -/
structure SpanId where
  /-- The bits of the name. -/
  bits : BitVec 64
  deriving DecidableEq, Repr

namespace TraceId

/-- The identifier with the low 128 bits of `n`. -/
def ofNat (n : Nat) : TraceId := ⟨BitVec.ofNat 128 n⟩

/-- The identifier as a number. -/
def toNat (id : TraceId) : Nat := id.bits.toNat

/-- The identifier that names no trace. -/
def none : TraceId := ofNat 0

instance : Inhabited TraceId := ⟨none⟩

/-- Whether the identifier names a trace. -/
def isValid (id : TraceId) : Bool := id != none

/-- The 32 digits of the identifier. -/
def hex (id : TraceId) : String := String.ofList (Numeral.hexPadded 32 id.toNat)

/-- The digits of the identifier without leading zeros. -/
def shortHex (id : TraceId) : String := String.ofList (Numeral.hexDigits id.toNat)

/-- The identifier with the given 32 lowercase digits. -/
def ofHex? (s : String) : Option TraceId :=
  if s.toList.length = 32 then (Numeral.ofHex? s.toList).map ofNat else .none

/-- The sixteen bytes of the identifier. -/
def toBytes (id : TraceId) : List UInt8 := Numeral.toBytes 16 id.toNat

/-- The identifier with the given bytes. -/
def ofBytes (bytes : List UInt8) : TraceId := ofNat (Numeral.ofBytes bytes)

end TraceId

namespace SpanId

/-- The identifier with the low 64 bits of `n`. -/
def ofNat (n : Nat) : SpanId := ⟨BitVec.ofNat 64 n⟩

/-- The identifier as a number. -/
def toNat (id : SpanId) : Nat := id.bits.toNat

/-- The identifier that names no span. -/
def none : SpanId := ofNat 0

instance : Inhabited SpanId := ⟨none⟩

/-- Whether the identifier names a span. -/
def isValid (id : SpanId) : Bool := id != none

/-- The 16 digits of the identifier. -/
def hex (id : SpanId) : String := String.ofList (Numeral.hexPadded 16 id.toNat)

/-- The digits of the identifier without leading zeros. -/
def shortHex (id : SpanId) : String := String.ofList (Numeral.hexDigits id.toNat)

/-- The identifier with the given 16 lowercase digits. -/
def ofHex? (s : String) : Option SpanId :=
  if s.toList.length = 16 then (Numeral.ofHex? s.toList).map ofNat else .none

/-- The eight bytes of the identifier. -/
def toBytes (id : SpanId) : List UInt8 := Numeral.toBytes 8 id.toNat

/-- The identifier with the given bytes. -/
def ofBytes (bytes : List UInt8) : SpanId := ofNat (Numeral.ofBytes bytes)

end SpanId

/-- The options that travel with the identifiers: a byte of which only the lowest bit has a meaning. The
other bits are passed on. -/
structure TraceOptions where
  /-- The byte. -/
  byte : UInt8
  deriving DecidableEq, Repr

namespace TraceOptions

/-- The options of a trace that is kept. -/
def sampled : TraceOptions := ⟨1⟩

/-- The options of a trace that is not kept. -/
def notSampled : TraceOptions := ⟨0⟩

instance : Inhabited TraceOptions := ⟨notSampled⟩

instance : AndOp TraceOptions := ⟨fun a b => ⟨a.byte &&& b.byte⟩⟩

instance : OrOp TraceOptions := ⟨fun a b => ⟨a.byte ||| b.byte⟩⟩

instance : Complement TraceOptions := ⟨fun a => ⟨~~~a.byte⟩⟩

/-- Whether the lowest bit is set. -/
def isSampled (o : TraceOptions) : Bool := o &&& sampled == sampled

/-- The options with the lowest bit set or cleared. -/
def withSampled (o : TraceOptions) (keep : Bool) : TraceOptions :=
  if keep then o ||| sampled else o &&& ~~~sampled

/-- The two digits of the options. -/
def hex (o : TraceOptions) : String := String.ofList (Numeral.hexPadded 2 o.byte.toNat)

/-- The options as a log shows them. -/
def describe (o : TraceOptions) : String := "TraceOptions(" ++ toString o.byte.toNat ++ ")"

end TraceOptions

end Telemetry
