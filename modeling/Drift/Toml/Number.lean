import Drift.Decimal.Layout
import Drift.Decimal.Rounding
import Drift.Text.Digits
import Drift.Toml.Scan

/-!
# TOML numbers

Integers have 64 bits with a sign; they are written in base ten, or without a
sign behind `0x`, `0o` or `0b`. Doubles have a fraction, an exponent or a name.
Single underscores may divide digits.
-/

namespace Drift.Toml

/-- Scans a digit with an underscore before it or not. -/
def scanNextDigit (base : Nat) : List Char → Option (Char × List Char)
  | '_' :: digit :: rest => if Text.isDigitIn base digit then some (digit, rest) else none
  | digit :: rest => if Text.isDigitIn base digit then some (digit, rest) else none
  | [] => none

/-- Scans digits of a base. -/
def scanDigits (base : Nat) : List Char → Option (List Char × List Char)
  | digit :: rest =>
      if Text.isDigitIn base digit then
        let (digits, rest) := Text.many (scanNextDigit base) rest
        some (digit :: digits, rest)
      else
        none
  | [] => none

/-- Scans a sign; a missing one is a plus. -/
def scanSign : List Char → Bool × List Char
  | '+' :: rest => (false, rest)
  | '-' :: rest => (true, rest)
  | chars => (false, chars)

/-- Scans decimal digits of a whole number. A leading zero stands alone. -/
def scanWhole : List Char → Option (List Char × List Char)
  | '0' :: rest => some (['0'], rest)
  | chars => scanDigits 10 chars

/-- The integer of a sign and a magnitude, if 64 bits hold it. -/
def integer? (negative : Bool) (magnitude : Nat) : Option Int :=
  if negative then if magnitude ≤ Nat.pow 2 63 then some (-magnitude) else none
  else if magnitude < Nat.pow 2 63 then some magnitude else none

/-- Scans the digits of an integer in a base. -/
def scanIntegerIn (base : Nat) (chars : List Char) : Option (Int × List Char) := do
  let (digits, rest) ← scanDigits base chars
  return (← integer? false (Text.natural base digits), rest)

/-- Scans an integer. -/
def scanInteger : List Char → Option (Int × List Char)
  | '0' :: 'x' :: rest => scanIntegerIn 16 rest
  | '0' :: 'o' :: rest => scanIntegerIn 8 rest
  | '0' :: 'b' :: rest => scanIntegerIn 2 rest
  | chars => do
      let (negative, rest) := scanSign chars
      let (digits, rest) ← scanWhole rest
      return (← integer? negative (Text.natural 10 digits), rest)

/-- Scans an exponent behind its mark. -/
def scanExponent (chars : List Char) : Option (Int × List Char) := do
  let marked ← expect 'e' chars <|> expect 'E' chars
  let (negative, rest) := scanSign marked
  let (digits, rest) ← scanDigits 10 rest
  let magnitude : Int := Text.natural 10 digits
  return (if negative then -magnitude else magnitude, rest)

/-- Scans digits behind a point. -/
def scanFraction (chars : List Char) : Option (List Char × List Char) :=
  expect '.' chars >>= scanDigits 10

/-- Scans a fraction with or without an exponent, or an exponent alone. -/
def scanScale (chars : List Char) : Option ((List Char × Int) × List Char) :=
  match scanExponent chars with
  | some (exponent, rest) => some (([], exponent), rest)
  | none => do
      let (fraction, rest) ← scanFraction chars
      match scanExponent rest with
      | some (exponent, rest) => return ((fraction, exponent), rest)
      | none => return ((fraction, 0), rest)

/-- Scans a double that is written with digits. One beyond the range of doubles
is refused if it is positive. -/
def scanDecimal (chars : List Char) : Option (Float × List Char) := do
  let (negative, rest) := scanSign chars
  let (whole, rest) ← scanWhole rest
  let ((fraction, exponent), rest) ← scanScale rest
  let magnitude := Decimal.nearestDouble (Text.natural 10 (whole ++ fraction))
    (exponent - fraction.length)
  guard (negative || !magnitude.isInf)
  return (if negative then -magnitude else magnitude, rest)

/-- Scans an infinite double or one that is not a number. -/
def scanSpecial (chars : List Char) : Option (Float × List Char) :=
  let (negative, rest) := scanSign chars
  match expectWord "inf" rest, expectWord "nan" rest with
  | some rest, _ => some (if negative then -1.0 / 0.0 else 1.0 / 0.0, rest)
  | none, some rest => some (0.0 / 0.0, rest)
  | none, none => none

/-- Scans a double. -/
def scanDouble (chars : List Char) : Option (Float × List Char) :=
  scanDecimal chars <|> scanSpecial chars

/-- How messages write doubles: without an exponent. -/
def doubleLayout : Decimal.Layout where
  tie := .up
  positional _ := true

end Drift.Toml
