/-!
# Shortest decimals

The shortest decimal of a binary floating point number is the one with the
fewest digits among those that read back as it, and of these the nearest to
it. Everything here is exact arithmetic on natural numbers: a positive number
`mantissa · 2 ^ exponent` is compared, in quarters of its last place, with the
two neighbouring points of ever finer decimal grids.
-/

namespace Drift.Decimal

/-- A positive binary number with the distance to its lower neighbour. -/
structure Binary where
  mantissa : Nat
  exponent : Int
  /-- Whether the lower neighbour is half as far away as the upper one, as it
  is for powers of two. -/
  narrow : Bool

/-- The number `significand · 10 ^ exponent`. -/
structure Scientific where
  significand : Nat
  exponent : Int
  deriving DecidableEq, Repr

/-- Which of two equally near decimals is taken. -/
inductive Tie where
  | toEven
  | up
  deriving DecidableEq, Repr

/-- The number of decimal digits of a number. -/
def digitCount (value : Nat) : Nat := (Nat.toDigits 10 value).length

/-- A power of a base, or one where the exponent is negative. -/
def power (base : Nat) (exponent : Int) : Nat := base.pow exponent.toNat

namespace Binary

/-- Quarters of the last place in a step of the decimal grid `10 ^ grid`, as
the two sides of a fraction. -/
def step (binary : Binary) (grid : Int) : Nat × Nat :=
  let quarter := binary.exponent - 2
  (power 10 grid * power 2 (-quarter), power 10 (-grid) * power 2 quarter)

/-- Whether a point of a grid reads back as the number: it is nearer to it than
to its neighbours, or halfway and the number's mantissa is even. -/
def admits (binary : Binary) (grid : Int) (point : Nat) : Bool :=
  let (numerator, denominator) := binary.step grid
  let low := (4 * binary.mantissa - if binary.narrow then 1 else 2) * denominator
  let high := (4 * binary.mantissa + 2) * denominator
  let value := point * numerator
  if binary.mantissa % 2 = 0 then low ≤ value ∧ value ≤ high
  else low < value ∧ value < high

/-- The point below the number on a grid. -/
def below (binary : Binary) (grid : Int) : Nat :=
  let (numerator, denominator) := binary.step grid
  4 * binary.mantissa * denominator / numerator

/-- The nearer of the two points around the number on a grid. -/
def nearest (binary : Binary) (tie : Tie) (grid : Int) : Nat :=
  let (numerator, denominator) := binary.step grid
  let value := 4 * binary.mantissa * denominator
  let point := value / numerator
  match compare (2 * (value % numerator)) numerator with
  | .lt => point
  | .gt => point + 1
  | .eq =>
    match tie with
    | .up => point + 1
    | .toEven => if point % 2 = 0 then point else point + 1

/-- The exponent of the leading decimal digit. -/
def leading (binary : Binary) : Int :=
  let (numerator, denominator) := binary.step 0
  let value := 4 * binary.mantissa * denominator
  if numerator ≤ value then
    digitCount (value / numerator) - 1
  else
    -digitCount ((numerator - 1) / value)

/-- Looks for a point that reads back on finer and finer grids. -/
def shortestFrom (binary : Binary) (tie : Tie) : Nat → Int → Scientific
  | 0, grid => ⟨binary.nearest tie grid, grid⟩
  | finer + 1, grid =>
      let point := binary.below grid
      match binary.admits grid point, binary.admits grid (point + 1) with
      | true, true => ⟨binary.nearest tie grid, grid⟩
      | true, false => ⟨point, grid⟩
      | false, true => ⟨point + 1, grid⟩
      | false, false => shortestFrom binary tie finer (grid - 1)

/-- The shortest decimal that reads back as a number. Seventeen digits always
do, for the format with 53 bits of precision. -/
def shortest (binary : Binary) (tie : Tie) : Scientific :=
  binary.shortestFrom tie 17 binary.leading

end Binary

end Drift.Decimal
