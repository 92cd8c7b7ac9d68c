import Telemetry.Text.Printable
import Telemetry.Numeral.Hex

/-!
# Quoted texts

A text between quotation marks, as messages show what was given: one line, with every character
readable. A character that is not printable is written by name or by code point.
-/

namespace Telemetry.Text

/-- How `c` is written between quotation marks. -/
def escape (c : Char) : List Char :=
  match c with
  | '\x00' => ['\\', '0']
  | '\t' => ['\\', 't']
  | '\n' => ['\\', 'n']
  | '\r' => ['\\', 'r']
  | '"' => ['\\', '"']
  | '\\' => ['\\', '\\']
  | c =>
    if isPrintable c then [c]
    else ['\\', 'u', '\x7b'] ++ Numeral.hexDigits c.toNat ++ ['\x7d']

/-- The text `s` between quotation marks. -/
def quoted (s : String) : String :=
  String.ofList ('"' :: (s.toList.flatMap escape ++ ['"']))

end Telemetry.Text
