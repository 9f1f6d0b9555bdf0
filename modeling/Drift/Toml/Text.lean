import Drift.Text.Digits
import Drift.Toml.Scan

/-!
# TOML strings

Basic strings stand in double quotes and know escapes; literal strings stand in
single quotes and do not. Either kind may span lines between tripled quotes: a
line break right behind the opening quotes is dropped, any other is a line feed,
and one or two quotes count as content, also in front of the closing ones.
-/

namespace Drift.Toml

/-- The character that a backslash and another character stand for. -/
def shortEscape? : Char → Option Char
  | 'b' => some '\x08'
  | 't' => some '\t'
  | 'n' => some '\n'
  | 'f' => some '\x0c'
  | 'r' => some '\r'
  | '"' => some '"'
  | '\\' => some '\\'
  | _ => none

/-- The character whose code point a number of leading hexadecimal digits
writes. -/
def codePoint? (count : Nat) (chars : List Char) : Option Char := do
  let digits := chars.take count
  guard (digits.length = count)
  let value ← Text.hexNumber? digits
  guard value.isValidChar
  return Char.ofNat value

/-- Scans one character of a basic string. -/
def scanBasicCharacter : List Char → Option (Char × List Char)
  | '\\' :: 'u' :: rest => (codePoint? 4 rest).map (·, rest.drop 4)
  | '\\' :: 'U' :: rest => (codePoint? 8 rest).map (·, rest.drop 8)
  | '\\' :: escape :: rest => (shortEscape? escape).map (·, rest)
  | character :: rest =>
      if isPlain character ∧ character ≠ '"' ∧ character ≠ '\\' then some (character, rest)
      else none
  | [] => none

/-- Scans one character of a literal string. -/
def scanLiteralCharacter : List Char → Option (Char × List Char)
  | character :: rest =>
      if isPlain character ∧ character ≠ '\'' then some (character, rest) else none
  | [] => none

/-- Scans one or two quotes that do not end a string of several lines. -/
def scanQuotes (quote : Char) (chars : List Char) : Option (List Char × List Char) :=
  let quotes := chars.takeWhile (· = quote)
  if quotes.length = 1 ∨ quotes.length = 2 then some (quotes, chars.drop quotes.length)
  else none

/-- Skips a backslash at the end of a line and all layout behind it. -/
def scanContinuation : List Char → Option (List Char)
  | '\\' :: rest => do
      let rest ← newline? (skipBlanks rest)
      return (Text.many (fun chars =>
        match newline? chars, chars with
        | some rest, _ => some ((), rest)
        | none, character :: rest => if isBlank character then some ((), rest) else none
        | none, [] => none) rest).2
  | _ => none

/-- Scans a piece of a string of several lines, given its quote and how its
characters are written. -/
def scanPiece (quote : Char) (character : List Char → Option (Char × List Char))
    (chars : List Char) : Option (List Char × List Char) :=
  (newline? chars).map (['\n'], ·) <|>
    (scanContinuation chars).map ([], ·) <|>
    scanQuotes quote chars <|>
    (character chars).map fun (value, rest) => ([value], rest)

/-- Scans a piece of a literal string of several lines, which has no
continuation. -/
def scanLiteralPiece (chars : List Char) : Option (List Char × List Char) :=
  (newline? chars).map (['\n'], ·) <|>
    scanQuotes '\'' chars <|>
    (scanLiteralCharacter chars).map fun (value, rest) => ([value], rest)

/-- Scans the rest of a string of several lines behind its opening quotes. -/
def scanLines (quote : Char) (piece : List Char → Option (List Char × List Char))
    (chars : List Char) : Option (String × List Char) :=
  let (pieces, rest) := Text.many piece ((newline? chars).getD chars)
  let quotes := rest.takeWhile (· = quote)
  if 3 ≤ quotes.length ∧ quotes.length ≤ 5 then
    some (String.ofList (pieces.flatten ++ quotes.drop 3), rest.drop quotes.length)
  else
    none

/-- Scans the rest of a string of one line behind its opening quote. -/
def scanLine (quote : Char) (character : List Char → Option (Char × List Char))
    (chars : List Char) : Option (String × List Char) := do
  let (characters, rest) := Text.many character chars
  return (String.ofList characters, ← expect quote rest)

/-- Scans a string of one line. -/
def scanSimpleText : List Char → Option (String × List Char)
  | '"' :: rest => scanLine '"' scanBasicCharacter rest
  | '\'' :: rest => scanLine '\'' scanLiteralCharacter rest
  | _ => none

/-- Scans a string. -/
def scanText : List Char → Option (String × List Char)
  | '"' :: '"' :: '"' :: rest => scanLines '"' (scanPiece '"' scanBasicCharacter) rest
  | '\'' :: '\'' :: '\'' :: rest => scanLines '\'' scanLiteralPiece rest
  | chars => scanSimpleText chars

/-- Whether a character may stand in a key without quotes. -/
def isBare (character : Char) : Bool :=
  character.isAlphanum || character = '_' || character = '-'

/-- Scans one part of a key, with blanks around it. -/
def scanKeyPart (chars : List Char) : Option (String × List Char) := do
  let chars := skipBlanks chars
  let bare := chars.takeWhile isBare
  let (part, rest) ← if bare.isEmpty then scanSimpleText chars
    else some (String.ofList bare, chars.drop bare.length)
  return (part, skipBlanks rest)

/-- The number of parts that a key must stay below. -/
def keyLimit : Nat := 80

/-- Scans a key, whose parts are divided by points. -/
def scanKey (chars : List Char) : Option (List String × List Char) := do
  let (first, rest) ← scanKeyPart chars
  let (others, rest) := Text.many (fun chars => expect '.' chars >>= scanKeyPart) rest
  guard (others.length + 1 < keyLimit)
  return (first :: others, rest)

end Drift.Toml
