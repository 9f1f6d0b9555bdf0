import Drift.Text.Visible

/-!
# Quoted characters and texts in messages

Messages show a foreign character in single quotes and a foreign text in
double quotes. Backslashes, the quote in use and characters that would not
show are written as escapes.
-/

namespace Drift.Text

/-- Lower-case hexadecimal digits of a number, without leading zeros. -/
def hexadecimal (value : Nat) : String :=
  String.ofList (Nat.toDigits 16 value)

/-- A character between quotes: itself, a short escape or `\u{…}` with its
code point. -/
def escaped (quote character : Char) : String :=
  match character with
  | '\x00' => "\\0"
  | '\t' => "\\t"
  | '\n' => "\\n"
  | '\r' => "\\r"
  | '\\' => "\\\\"
  | _ =>
    if character = quote then
      String.ofList ['\\', quote]
    else if isVisible character then
      character.toString
    else
      "\\u\x7b" ++ hexadecimal character.toNat ++ "\x7d"

/-- A byte read as the character of the same number, in single quotes. -/
def quotedByte (byte : UInt8) : String :=
  "'" ++ escaped '\'' (Char.ofNat byte.toNat) ++ "'"

/-- A text in double quotes. -/
def quoted (text : String) : String :=
  "\"" ++ String.join (text.toList.map (escaped '"')) ++ "\""

end Drift.Text
