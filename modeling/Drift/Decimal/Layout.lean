import Drift.Decimal.Shortest

/-!
# Layout of floating point numbers

A double is written with its shortest digits. A layout says when they are
written with a point in their place and when with an exponent.
-/

namespace Drift.Decimal

/-- The value of a double apart from its sign. -/
inductive Magnitude where
  | zero
  | finite (binary : Binary)
  | infinite
  | notANumber

/-- Whether a double carries a minus sign. -/
def isNegative (value : Float) : Bool :=
  value.toBits >>> 63 = 1

/-- Takes a double apart into mantissa and exponent. -/
def magnitude (value : Float) : Magnitude :=
  let biased := (value.toBits >>> 52 &&& 0x7FF).toNat
  let fraction := (value.toBits &&& 0xFFFFFFFFFFFFF).toNat
  if biased = 0x7FF then
    if fraction = 0 then .infinite else .notANumber
  else if biased = 0 then
    if fraction = 0 then .zero else .finite ⟨fraction, -1074, false⟩
  else
    .finite ⟨Nat.pow 2 52 + fraction, biased - 1075, fraction = 0 && 1 < biased⟩

/-- How doubles are written. -/
structure Layout where
  /-- What to do with a number halfway between two shortest decimals. -/
  tie : Tie
  /-- Whether a number whose leading digit has this exponent is written without
  an exponent. -/
  positional : Int → Bool

namespace Layout

/-- Digits around a point, with at least one on either side. -/
def aroundPoint (digits : List Char) (leading : Int) : List Char :=
  if leading < 0 then
    '0' :: '.' :: List.replicate (-leading - 1).toNat '0' ++ digits
  else
    let whole := leading.toNat + 1
    let fraction := digits.drop whole
    digits.take whole ++ List.replicate (whole - digits.length) '0' ++
      '.' :: if fraction.isEmpty then ['0'] else fraction

/-- Digits with a point behind the first, unless it is the only one, and a
signed exponent. -/
def withExponent (digits : List Char) (leading : Int) : List Char :=
  digits.take 1 ++ (if digits.length ≤ 1 then [] else '.' :: digits.drop 1) ++
    'e' :: (if leading < 0 then '-' else '+') :: Nat.toDigits 10 leading.natAbs

/-- The text of a positive decimal. -/
def decimal (layout : Layout) (value : Scientific) : String :=
  let digits := Nat.toDigits 10 value.significand
  let leading := value.exponent + digits.length - 1
  let trimmed := (digits.reverse.dropWhile (· = '0')).reverse
  .ofList (if layout.positional leading then aroundPoint trimmed leading
    else withExponent trimmed leading)

/-- The text of a double. Zero keeps its sign. -/
def text (layout : Layout) (value : Float) : String :=
  let sign := if isNegative value then "-" else ""
  match magnitude value with
  | .zero => sign ++ "0.0"
  | .finite binary => sign ++ layout.decimal (binary.shortest layout.tie)
  | .infinite => sign ++ "inf"
  | .notANumber => "NaN"

end Layout

end Drift.Decimal
