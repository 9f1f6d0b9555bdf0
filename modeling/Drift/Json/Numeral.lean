import Drift.Decimal.Layout
import Drift.Text.Digits

/-!
# JSON numerals

A numeral is kept as it is spelled. Only a reader that needs its value asks for
it: an integer of 64 bits, or a double for everything else.
-/

namespace Drift.Json

/-- A number as spelled in a document. -/
structure Numeral where
  negative : Bool
  /-- The digits before the point. -/
  whole : List Char
  /-- The digits behind the point. -/
  fraction? : Option (List Char)
  /-- Whether the exponent is negative, and its digits. -/
  exponent? : Option (Bool × List Char)
  deriving DecidableEq, Repr

/-- The numeral of a natural number. -/
def Numeral.ofNat (value : Nat) : Numeral :=
  ⟨false, Nat.toDigits 10 value, none, none⟩

/-- Splits a point and digits off, where there is one. A point needs a digit
behind it. -/
def scanFraction : List Char → Option (Option (List Char) × List Char)
  | '.' :: rest =>
      match Text.splitDigits rest with
      | ([], _) => none
      | (digits, rest) => some (some digits, rest)
  | chars => some (none, chars)

/-- Splits a sign off an exponent. -/
def scanExponentSign : List Char → Bool × List Char
  | '-' :: rest => (true, rest)
  | '+' :: rest => (false, rest)
  | chars => (false, chars)

/-- Splits an exponent off, where there is one. Its mark needs a digit behind
it. -/
def scanExponent (chars : List Char) : Option (Option (Bool × List Char) × List Char) :=
  let marked (rest : List Char) :=
    let (negative, rest) := scanExponentSign rest
    match Text.splitDigits rest with
    | ([], _) => none
    | (digits, rest) => some (some (negative, digits), rest)
  match chars with
  | 'e' :: rest => marked rest
  | 'E' :: rest => marked rest
  | _ => some (none, chars)

/-- Splits an unsigned numeral off. There is a digit before the point, and a
leading zero stands alone. -/
def scanUnsigned (negative : Bool) (chars : List Char) : Option (Numeral × List Char) := do
  let (whole, rest) := Text.splitDigits chars
  guard (whole ≠ [] ∧ (whole.head? = some '0' → whole = ['0']))
  let (fraction?, rest) ← scanFraction rest
  let (exponent?, rest) ← scanExponent rest
  return (⟨negative, whole, fraction?, exponent?⟩, rest)

/-- Splits a numeral off. -/
def scanNumeral : List Char → Option (Numeral × List Char)
  | '-' :: rest => scanUnsigned true rest
  | chars => scanUnsigned false chars

/-- The value of a numeral. -/
inductive Amount where
  | integer (value : Int)
  | double (value : Float)

/-- An approximation `significand · 10 ^ exponent` whose significand has at most
64 bits. -/
structure Approximation where
  significand : Nat
  exponent : Int
  /-- Whether a digit had to be left out. -/
  full : Bool

namespace Approximation

/-- Takes one more digit in, if 64 bits hold it. -/
def accept? (approximation : Approximation) (digit : Char) : Option Nat :=
  let significand := 10 * approximation.significand + (Text.digitValue? digit).getD 0
  if approximation.full ∨ UInt64.size ≤ significand then none else some significand

/-- Takes one more digit before the point in; one that does not fit counts as
zero, and so does every later one. -/
def addWhole (approximation : Approximation) (digit : Char) : Approximation :=
  match approximation.accept? digit with
  | some significand => { approximation with significand }
  | none => { approximation with exponent := approximation.exponent + 1, full := true }

/-- Takes one more digit behind the point in; one that does not fit is dropped,
and so is every later one. -/
def addFraction (approximation : Approximation) (digit : Char) : Approximation :=
  match approximation.accept? digit with
  | some significand =>
      { approximation with significand, exponent := approximation.exponent - 1 }
  | none => { approximation with full := true }

/-- A double divided by a power of ten, in steps that stay within the range of
doubles. -/
def divided (value : Float) (magnitude : Nat) : Float :=
  if magnitude ≤ 308 then
    value / Float.ofScientific 1 false magnitude
  else if value == 0 then
    value
  else
    divided (value / 1e308) (magnitude - 308)
termination_by magnitude

/-- The double next to an approximation, unless it is beyond the range of
doubles. -/
def toDouble? (approximation : Approximation) : Option Float :=
  let value := (UInt64.ofNat approximation.significand).toFloat
  if approximation.exponent < 0 then
    some (divided value approximation.exponent.natAbs)
  else if approximation.exponent ≤ 308 then
    let scaled := value * Float.ofScientific 1 false approximation.exponent.natAbs
    if scaled.isInf then none else some scaled
  else if value == 0 then
    some value
  else
    none

end Approximation

namespace Numeral

/-- The double that a numeral writes, unless it is beyond their range. -/
def double? (numeral : Numeral) : Option Float := do
  let whole := numeral.whole.foldl Approximation.addWhole ⟨0, 0, false⟩
  let exact := (numeral.fraction?.getD []).foldl Approximation.addFraction
    { whole with full := false }
  let exponent := match numeral.exponent? with
    | some (negative, digits) =>
        if negative then -(Text.natural 10 digits : Int) else Text.natural 10 digits
    | none => 0
  let value ← { exact with exponent := exact.exponent + exponent : Approximation }.toDouble?
  return if numeral.negative then -value else value

/-- The value of a numeral, unless it is beyond the range of doubles. Whole
numbers of 64 bits are integers, except for a negative zero. -/
def amount? (numeral : Numeral) : Option Amount :=
  let value := Text.natural 10 numeral.whole
  if numeral.fraction? = none ∧ numeral.exponent? = none ∧
      (if numeral.negative then 0 < value ∧ value ≤ Nat.pow 2 63 else value < UInt64.size) then
    some (.integer (if numeral.negative then -value else value))
  else
    numeral.double?.map .double

/-- The characters of a numeral. -/
def render (numeral : Numeral) : List Char :=
  let fraction := match numeral.fraction? with
    | some digits => '.' :: digits
    | none => []
  let exponent := match numeral.exponent? with
    | some (negative, digits) => 'e' :: (if negative then '-' :: digits else digits)
    | none => []
  (if numeral.negative then ['-'] else []) ++ numeral.whole ++ fraction ++ exponent

end Numeral

/-- How messages write doubles: positionally from a hundred-thousandth to below
ten quadrillion, otherwise with a signed exponent. -/
def doubleLayout : Decimal.Layout where
  tie := .toEven
  positional leading := -5 ≤ leading ∧ leading ≤ 15

end Drift.Json
