import Drift.Text.Scan

/-!
# Scanning TOML

A scanner takes the start of a text and gives what it found there and the rest.
Blanks are spaces and tabs; a line ends at a line feed, with or without a
carriage return before it.
-/

namespace Drift.Toml

/-- Takes one given character. -/
def expect (expected : Char) : List Char → Option (List Char)
  | [] => none
  | character :: rest => if character = expected then some rest else none

/-- Takes a given word. -/
def expectWord (word : String) (chars : List Char) : Option (List Char) :=
  if word.toList.isPrefixOf chars then some (chars.drop word.length) else none

/-- Whether a character is a space or a tab. -/
def isBlank (character : Char) : Bool :=
  character = ' ' || character = '\t'

/-- Skips blanks. -/
def skipBlanks (chars : List Char) : List Char :=
  chars.dropWhile isBlank

/-- Whether a character may stand in a comment: anything but control characters
other than the tab. -/
def isPlain (character : Char) : Bool :=
  character = '\t' || (0x20 ≤ character.toNat && character.toNat ≠ 0x7F)

/-- Takes the end of a line. -/
def newline? : List Char → Option (List Char)
  | '\n' :: rest => some rest
  | '\r' :: '\n' :: rest => some rest
  | _ => none

/-- Skips a comment, up to the end of its line. -/
def skipComment : List Char → List Char
  | '#' :: rest => rest.dropWhile isPlain
  | chars => chars

/-- Takes what may follow on the line of a statement: blanks, a comment and the
end of the line or of the document. -/
def lineEnd? (chars : List Char) : Option (List Char) :=
  match skipComment (skipBlanks chars) with
  | [] => some []
  | rest => newline? rest

/-- Skips blanks, ends of lines and comments. -/
def skipLayout (inComment : Bool) : List Char → List Char
  | [] => []
  | '\n' :: rest => skipLayout false rest
  | '\r' :: '\n' :: rest => skipLayout false rest
  | character :: rest =>
      if inComment then
        if isPlain character then skipLayout true rest else character :: rest
      else if isBlank character then skipLayout false rest
      else if character = '#' then skipLayout true rest
      else character :: rest

end Drift.Toml
