import Drift.Text.Digits
import Drift.Toml.Scan

/-!
# TOML dates and times

A moment is a date, a time of day, or both with or without an offset from
universal time. Which moment it is matters to no reader here, so scanning only
decides whether there is one.
-/

namespace Drift.Toml

/-- Scans exactly as many decimal digits as asked for. -/
def scanFixed (count : Nat) (chars : List Char) : Option (Nat × List Char) := do
  let digits := chars.take count
  guard (digits.length = count ∧ digits.all Char.isDigit)
  return (Text.natural 10 digits, chars.drop count)

/-- Days in a month of a year of the proleptic Gregorian calendar. -/
def daysIn (year month : Nat) : Nat :=
  if month = 2 then
    if year % 4 = 0 ∧ (year % 100 ≠ 0 ∨ year % 400 = 0) then 29 else 28
  else if month = 4 ∨ month = 6 ∨ month = 9 ∨ month = 11 then 30
  else 31

/-- Scans a date. -/
def scanDate (chars : List Char) : Option (List Char) := do
  let (year, rest) ← scanFixed 4 chars
  let (month, rest) ← scanFixed 2 (← expect '-' rest)
  guard (1 ≤ month ∧ month ≤ 12)
  let (day, rest) ← scanFixed 2 (← expect '-' rest)
  guard (1 ≤ day ∧ day ≤ daysIn year month)
  return rest

/-- Scans hours and minutes. -/
def scanClock (chars : List Char) : Option (List Char) := do
  let (hour, rest) ← scanFixed 2 chars
  guard (hour ≤ 23)
  let (minute, rest) ← scanFixed 2 (← expect ':' rest)
  guard (minute ≤ 59)
  return rest

/-- Scans a time of day. Any minute may have a leap second, and a second may
have a fraction. -/
def scanTime (chars : List Char) : Option (List Char) := do
  let (second, rest) ← scanFixed 2 (← expect ':' (← scanClock chars))
  guard (second ≤ 60)
  match rest with
  | '.' :: digit :: others =>
      if digit.isDigit then return others.dropWhile Char.isDigit else return rest
  | _ => return rest

/-- Skips an offset from universal time, where there is one. -/
def skipOffset (chars : List Char) : List Char :=
  match chars with
  | 'Z' :: rest => rest
  | 'z' :: rest => rest
  | '+' :: rest => (scanClock rest).getD chars
  | '-' :: rest => (scanClock rest).getD chars
  | _ => chars

/-- Scans a moment. -/
def scanMoment (chars : List Char) : Option (Unit × List Char) :=
  match scanDate chars with
  | some rest =>
      match rest with
      | mark :: behind =>
          if mark = 'T' ∨ mark = 't' ∨ mark = ' ' then
            match scanTime behind with
            | some rest => some ((), skipOffset rest)
            | none => some ((), rest)
          else
            some ((), rest)
      | [] => some ((), rest)
  | none => (scanTime chars).map ((), ·)

end Drift.Toml
