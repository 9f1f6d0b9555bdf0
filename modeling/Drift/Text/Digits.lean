/-!
# Digits in texts

Numbers that documents spell with ASCII digits, in bases up to sixteen.
-/

namespace Drift.Text

/-- The value of a hexadecimal digit of either case. -/
def digitValue? (digit : Char) : Option Nat :=
  if digit.isDigit then some (digit.toNat - '0'.toNat)
  else if 'a' ≤ digit ∧ digit ≤ 'f' then some (digit.toNat - 'a'.toNat + 10)
  else if 'A' ≤ digit ∧ digit ≤ 'F' then some (digit.toNat - 'A'.toNat + 10)
  else none

/-- Whether a character is a digit in a base of at most sixteen. -/
def isDigitIn (base : Nat) (digit : Char) : Bool :=
  match digitValue? digit with
  | some value => value < base
  | none => false

/-- The number that digits write in a base, the highest first. -/
def natural (base : Nat) (digits : List Char) : Nat :=
  digits.foldl (fun value digit => base * value + (digitValue? digit).getD 0) 0

/-- Splits leading decimal digits off. -/
def splitDigits (chars : List Char) : List Char × List Char :=
  (chars.takeWhile Char.isDigit, chars.dropWhile Char.isDigit)

/-- The number of a run of hexadecimal digits, if all are. -/
def hexNumber? (digits : List Char) : Option Nat :=
  if digits.all (isDigitIn 16) then some (natural 16 digits) else none

end Drift.Text
