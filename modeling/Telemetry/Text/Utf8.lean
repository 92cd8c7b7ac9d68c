/-!
# UTF-8

Reading the bytes of a text. A character takes one to four bytes: the first byte fixes how many follow
and which values the second may have, and all others lie between `80` and `BF`. A sequence that breaks
these rules is reported with its index and with the number of bytes that were right, so that a reader
can tell a damaged text (`malformed`) from one that is cut short (`incomplete`).
-/

namespace Telemetry.Text.Utf8

/-- Why bytes are no text. -/
inductive DecodeError where
  /-- The `length` bytes at `index` start no character. -/
  | malformed (length index : Nat)
  /-- The text ends inside the character that starts at `index`. -/
  | incomplete (index : Nat)
  deriving DecidableEq, Repr

/-- The wording of the error. -/
def DecodeError.message : DecodeError → String
  | .malformed length index =>
    "invalid utf-8 sequence of " ++ toString length ++ " bytes from index " ++ toString index
  | .incomplete index => "incomplete utf-8 byte sequence from index " ++ toString index

/-- A character of which some bytes have been read. -/
structure Partial where
  /-- The index of its first byte. -/
  start : Nat
  /-- How many bytes follow after the next one. -/
  remaining : Nat
  /-- The least value of the next byte. -/
  low : Nat
  /-- The greatest value of the next byte. -/
  high : Nat
  /-- The code point as far as it is known. -/
  code : Nat

/-- What follows the first byte `b` of a character of several bytes; `none` if there is no such
character. Overlong forms, surrogates and numbers above `10FFFF` are excluded by the second byte. -/
def Partial.ofLead? (start b : Nat) : Option Partial :=
  if 0xc2 ≤ b ∧ b ≤ 0xdf then some ⟨start, 0, 0x80, 0xbf, b - 0xc0⟩
  else if b = 0xe0 then some ⟨start, 1, 0xa0, 0xbf, b - 0xe0⟩
  else if b = 0xed then some ⟨start, 1, 0x80, 0x9f, b - 0xe0⟩
  else if 0xe1 ≤ b ∧ b ≤ 0xef then some ⟨start, 1, 0x80, 0xbf, b - 0xe0⟩
  else if b = 0xf0 then some ⟨start, 2, 0x90, 0xbf, b - 0xf0⟩
  else if 0xf1 ≤ b ∧ b ≤ 0xf3 then some ⟨start, 2, 0x80, 0xbf, b - 0xf0⟩
  else if b = 0xf4 then some ⟨start, 2, 0x80, 0x8f, b - 0xf0⟩
  else none

/-- Reads the bytes from `index` on, inside the character `pending` if there is one. -/
def decodeFrom (index : Nat) : Option Partial → List UInt8 → Except DecodeError (List Char)
  | none, [] => .ok []
  | some pending, [] => .error (.incomplete pending.start)
  | none, b :: rest =>
    if b.toNat < 0x80 then do
      let cs ← decodeFrom (index + 1) none rest
      return Char.ofNat b.toNat :: cs
    else
      match Partial.ofLead? index b.toNat with
      | some pending => decodeFrom (index + 1) (some pending) rest
      | none => .error (.malformed 1 index)
  | some pending, b :: rest =>
    if pending.low ≤ b.toNat ∧ b.toNat ≤ pending.high then
      let code := 64 * pending.code + (b.toNat - 0x80)
      match pending.remaining with
      | 0 => do
        let cs ← decodeFrom (index + 1) none rest
        return Char.ofNat code :: cs
      | remaining + 1 =>
        decodeFrom (index + 1) (some ⟨pending.start, remaining, 0x80, 0xbf, code⟩) rest
    else .error (.malformed (index - pending.start) pending.start)

/-- The text that `bytes` spell. -/
def decode (bytes : List UInt8) : Except DecodeError String :=
  String.ofList <$> decodeFrom 0 none bytes

/-- The bytes of a text. -/
def encode (s : String) : List UInt8 := s.toList.flatMap String.utf8EncodeChar

end Telemetry.Text.Utf8
