import Drift.Text.Digits

/-!
# JSON strings

A string is a run of characters and escapes between double quotes. An escape
by number stands for a UTF-16 unit, and two of them may make up one character;
a unit that is left alone makes the string unreadable as a text, though it
still is well-formed.
-/

namespace Drift.Json

/-- A piece of a string: a character, or a UTF-16 surrogate written by number. -/
inductive Piece where
  | character (value : Char)
  | surrogate (unit : Nat)
  deriving DecidableEq, Repr

/-- The piece that a UTF-16 unit stands for. -/
def Piece.ofUnit (unit : Nat) : Piece :=
  if 0xD800 ≤ unit ∧ unit ≤ 0xDFFF then .surrogate unit else .character (Char.ofNat unit)

/-- The character that a backslash and another character stand for. -/
def shortEscape? : Char → Option Char
  | '"' => some '"'
  | '\\' => some '\\'
  | '/' => some '/'
  | 'b' => some '\x08'
  | 'f' => some '\x0c'
  | 'n' => some '\n'
  | 'r' => some '\r'
  | 't' => some '\t'
  | _ => none

/-- Splits a string off whose opening quote was taken already, given the pieces
seen so far, the latest first. -/
def scanPieces (seen : List Piece) : List Char → Option (List Piece × List Char)
  | [] => none
  | '"' :: rest => some (seen.reverse, rest)
  | '\\' :: 'u' :: first :: second :: third :: fourth :: rest =>
      match Text.hexNumber? [first, second, third, fourth] with
      | some unit => scanPieces (.ofUnit unit :: seen) rest
      | none => none
  | '\\' :: escape :: rest =>
      match shortEscape? escape with
      | some character => scanPieces (.character character :: seen) rest
      | none => none
  | character :: rest =>
      if character = '\\' ∨ character.toNat < 0x20 then none
      else scanPieces (.character character :: seen) rest

/-- The characters of a string, unless a surrogate is unpaired. -/
def joinPieces (seen : List Char) : List Piece → Option (List Char)
  | [] => some seen.reverse
  | .character value :: rest => joinPieces (value :: seen) rest
  | .surrogate high :: .surrogate low :: rest =>
      if high < 0xDC00 ∧ 0xDC00 ≤ low then
        joinPieces (Char.ofNat (0x10000 + 0x400 * (high - 0xD800) + (low - 0xDC00)) :: seen) rest
      else
        none
  | .surrogate _ :: _ => none

/-- A digit of a number below sixteen, in lower case. -/
def hexDigit (value : Nat) : Char := value.digitChar

/-- A character inside a string: quotes, backslashes and control characters are
escaped. -/
def escape (character : Char) : List Char :=
  match character with
  | '"' => ['\\', '"']
  | '\\' => ['\\', '\\']
  | '\x08' => ['\\', 'b']
  | '\x0c' => ['\\', 'f']
  | '\n' => ['\\', 'n']
  | '\r' => ['\\', 'r']
  | '\t' => ['\\', 't']
  | _ =>
    if character.toNat < 0x20 then
      ['\\', 'u', '0', '0', hexDigit (character.toNat / 16), hexDigit (character.toNat % 16)]
    else
      [character]

/-- A text between quotes. -/
def renderText (text : String) : List Char :=
  '"' :: text.toList.flatMap escape ++ ['"']

end Drift.Json
