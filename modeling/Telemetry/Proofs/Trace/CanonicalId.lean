import Mathlib.Data.Nat.Digits.Defs
import Telemetry.Proofs.Trace.Id
import Telemetry.Trace.Error

/-!
# The written forms of identifiers

An identifier has one form in digits and one in bytes, and each form of the right size is that of one
identifier.  The two spell the same number: each byte stands for two of the digits, in the same order
(`hexPadded_eq_flatMap`), and the first byte counts most (`ofBytes_eq_ofDigits`).  `canonical_traceId_spanId`
says this of the identifiers of traces and of spans.
-/

namespace Telemetry

namespace Numeral

/-! ### Digits of bytes -/

/-- The two digits of a byte. -/
def byteDigits (b : UInt8) : List Char := [Nat.digitChar (b.toNat / 16), Nat.digitChar (b.toNat % 16)]

/-- **The digits of a number are those of its bytes.** -/
theorem hexPadded_eq_flatMap (count n : Nat) :
    hexPadded (2 * count) n = (toBytes count n).flatMap byteDigits := by
  induction count generalizing n with
  | zero => rfl
  | succ count ih =>
    have hbyte : (UInt8.ofNat n).toNat = n % 256 := UInt8.toNat_ofNat'
    have hhigh : n / 16 % 16 = n % 256 / 16 := by omega
    have hlow : n % 16 = n % 256 % 16 := by omega
    have hrest : n / 16 / 16 = n / 256 := by omega
    rw [toBytes, List.flatMap_append, ← ih, List.flatMap_singleton, byteDigits, hbyte, ← hhigh,
      ← hlow, Nat.mul_succ, hexPadded, hexPadded, hrest, List.append_assoc]
    rfl

/-- **The first byte counts most.** -/
theorem ofBytes_eq_ofDigits (bytes : List UInt8) :
    ofBytes bytes = Nat.ofDigits 256 (bytes.reverse.map UInt8.toNat) := by
  induction bytes using List.reverseRecOn with
  | nil => rfl
  | append_singleton bytes b ih =>
    rw [ofBytes_concat, ih, List.reverse_append, List.reverse_singleton, List.singleton_append,
      List.map_cons, Nat.ofDigits_cons]
    exact Nat.add_comm _ _

end Numeral

open Numeral (IsHex byteDigits)

/-! ### One form in digits and one in bytes -/

section Canonical

variable {α : Type} {count : Nat} {toNat : α → Nat} {fault : String → TraceFault} {hex : α → String}
  {ofHex : String → Except TraceError α} {toBytes : α → List UInt8} {ofBytes : List UInt8 → α}

/-- Identifiers of `count` bytes have one form in digits and one in bytes. -/
structure Canonical (count : Nat) (toNat : α → Nat) (fault : String → TraceFault) (hex : α → String)
    (ofHex : String → Except TraceError α) (toBytes : α → List UInt8) (ofBytes : List UInt8 → α) :
    Prop where
  /-- An identifier is written with two digits for each byte. -/
  isHex_hex : ∀ id, IsHex (2 * count) (hex id).toList
  /-- It is read from its digits. -/
  ofHex_hex : ∀ id, ofHex (hex id) = .ok id
  /-- Exactly the texts of that many digits are read. -/
  accepts : ∀ s, (∃ id, ofHex s = .ok id) ↔ IsHex (2 * count) s.toList
  /-- Other texts are refused. -/
  refuses : ∀ s, ¬IsHex (2 * count) s.toList → ofHex s = .error (.invalidArgument (fault s))
  /-- What is read is written with the same digits. -/
  hex_of_ofHex : ∀ s id, ofHex s = .ok id → hex id = s
  /-- An identifier has that many bytes. -/
  length_toBytes : ∀ id, (toBytes id).length = count
  /-- It is read from its bytes. -/
  ofBytes_toBytes : ∀ id, ofBytes (toBytes id) = id
  /-- Bytes that are read are written again. -/
  toBytes_ofBytes : ∀ bytes, bytes.length = count → toBytes (ofBytes bytes) = bytes
  /-- The digits are those of the bytes, in the same order. -/
  digits : ∀ id, (hex id).toList = (toBytes id).flatMap byteDigits
  /-- The number of the identifier has these bytes, of which the first counts most. -/
  number : ∀ id, toNat id = Nat.ofDigits 256 ((toBytes id).reverse.map UInt8.toNat)

/-- What is written in padded digits and in bytes, and read from these only, has one form of each kind. -/
theorem canonical_of_iff {ofHex? : String → Option α}
    (hdigits : ∀ id, (hex id).toList = Numeral.hexPadded (2 * count) (toNat id))
    (hbytes : ∀ id, toBytes id = Numeral.toBytes count (toNat id))
    (hlt : ∀ id, toNat id < 256 ^ count)
    (hwritten : ∀ cs, (∃ id, (hex id).toList = cs) ↔ IsHex (2 * count) cs)
    (hread : ∀ s id, ofHex? s = some id ↔ s = hex id)
    (hofHex : ∀ s, ofHex s = (ofHex? s).elim (.error (.invalidArgument (fault s))) .ok)
    (hofBytes : ∀ bytes, bytes.length = count → ∀ id, ofBytes bytes = id ↔ bytes = toBytes id) :
    Canonical count toNat fault hex ofHex toBytes ofBytes := by
  have hok : ∀ s id, ofHex s = .ok id ↔ s = hex id := by
    intro s id
    rw [hofHex, ← hread]
    cases ofHex? s <;> simp
  have hlength : ∀ id, (toBytes id).length = count := by
    intro id
    rw [hbytes, Numeral.length_toBytes]
  have haccepts : ∀ s, (∃ id, ofHex s = .ok id) ↔ IsHex (2 * count) s.toList := by
    intro s
    simp only [hok, ← hwritten, String.toList_inj, eq_comm]
  constructor
  case isHex_hex => exact fun id => (hwritten _).1 ⟨id, rfl⟩
  case ofHex_hex => exact fun id => (hok _ id).2 rfl
  case accepts => exact haccepts
  case refuses =>
    intro s h
    cases hs : ofHex? s with
    | some id => exact absurd ((haccepts s).1 ⟨id, (hok s id).2 ((hread s id).1 hs)⟩) h
    | none => rw [hofHex, hs, Option.elim_none]
  case hex_of_ofHex => exact fun s id h => ((hok s id).1 h).symm
  case length_toBytes => exact hlength
  case ofBytes_toBytes => exact fun id => (hofBytes _ (hlength id) id).2 rfl
  case toBytes_ofBytes => exact fun bytes h => ((hofBytes bytes h _).1 rfl).symm
  case digits =>
    intro id
    rw [hdigits, hbytes, Numeral.hexPadded_eq_flatMap]
  case number =>
    intro id
    rw [← Numeral.ofBytes_eq_ofDigits, hbytes, Numeral.ofBytes_toBytes, Nat.pow_eq,
      Nat.mod_eq_of_lt (hlt id)]

/-- **The identifiers of traces and of spans have one form each** in digits and in bytes, and every text of
the right number of lowercase digits is the form of one. -/
theorem canonical_traceId_spanId :
    Canonical 16 TraceId.toNat .badTraceId TraceId.hex TraceId.ofHex TraceId.toBytes TraceId.ofBytes ∧
      Canonical 8 SpanId.toNat .badSpanId SpanId.hex SpanId.ofHex SpanId.toBytes SpanId.ofBytes := by
  constructor
  · have hofHex (s : String) : TraceId.ofHex s =
        (TraceId.ofHex? s).elim (.error (.invalidArgument (.badTraceId s))) .ok := by
      unfold TraceId.ofHex
      cases TraceId.ofHex? s <;> rfl
    exact canonical_of_iff (fun _ => String.toList_ofList) (fun _ => rfl) (fun id => id.bits.isLt)
      (fun _ => TraceId.exists_hex_eq_iff) (fun _ _ => TraceId.ofHex?_eq_some_iff) hofHex
      fun _ h _ => TraceId.ofBytes_eq_iff h
  · have hofHex (s : String) : SpanId.ofHex s =
        (SpanId.ofHex? s).elim (.error (.invalidArgument (.badSpanId s))) .ok := by
      unfold SpanId.ofHex
      cases SpanId.ofHex? s <;> rfl
    exact canonical_of_iff (fun _ => String.toList_ofList) (fun _ => rfl) (fun id => id.bits.isLt)
      (fun _ => SpanId.exists_hex_eq_iff) (fun _ _ => SpanId.ofHex?_eq_some_iff) hofHex
      fun _ h _ => SpanId.ofBytes_eq_iff h

end Canonical

end Telemetry
