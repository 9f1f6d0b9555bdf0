import Drift.Json.Numeral
import Drift.Json.Text
import Drift.Text.Scan

/-!
# JSON tokens

The smallest parts of a document. `Token.scan?` skips blanks and splits the next
token off, or finds that none begins there.
-/

namespace Drift.Json

/-- A scalar value. -/
inductive Scalar where
  | null
  | boolean (value : Bool)
  | number (numeral : Numeral)
  | text (value : String)
  /-- A string that no text corresponds to. -/
  | unpairedText
  deriving DecidableEq, Repr

/-- The smallest part of a document. -/
inductive Token where
  | openObject
  | closeObject
  | openArray
  | closeArray
  | comma
  | colon
  | scalar (value : Scalar)
  deriving DecidableEq, Repr

/-- Whether a character may stand between tokens. -/
def isBlank (character : Char) : Bool :=
  character = ' ' || character = '\n' || character = '\t' || character = '\r'

/-- The scalar that the pieces of a string make. -/
def Scalar.ofPieces (pieces : List Piece) : Scalar :=
  match joinPieces [] pieces with
  | some characters => .text (String.ofList characters)
  | none => .unpairedText

namespace Token

/-- Splits off the token that begins at once. -/
def scanHere : List Char → Option (Token × List Char)
  | '\x7b' :: rest => some (.openObject, rest)
  | '\x7d' :: rest => some (.closeObject, rest)
  | '[' :: rest => some (.openArray, rest)
  | ']' :: rest => some (.closeArray, rest)
  | ',' :: rest => some (.comma, rest)
  | ':' :: rest => some (.colon, rest)
  | 'n' :: 'u' :: 'l' :: 'l' :: rest => some (.scalar .null, rest)
  | 't' :: 'r' :: 'u' :: 'e' :: rest => some (.scalar (.boolean true), rest)
  | 'f' :: 'a' :: 'l' :: 's' :: 'e' :: rest => some (.scalar (.boolean false), rest)
  | '"' :: rest => (scanPieces [] rest).map fun (pieces, rest) =>
      (.scalar (.ofPieces pieces), rest)
  | chars => (scanNumeral chars).map fun (numeral, rest) => (.scalar (.number numeral), rest)

/-- Splits the next token off. -/
def scan? (chars : List Char) : Option (Token × List Char) :=
  scanHere (chars.dropWhile isBlank)

end Token

end Drift.Json
