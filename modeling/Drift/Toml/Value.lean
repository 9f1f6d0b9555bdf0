import Drift.Toml.Moment
import Drift.Toml.Number
import Drift.Toml.Table
import Drift.Toml.Text

/-!
# TOML values

Scalars, arrays and inline tables. Arrays may span lines and end with a comma;
inline tables may not.
-/

namespace Drift.Toml

/-- How deep arrays and inline tables may stand inside each other. -/
def depthLimit : Nat := 79

/-- Scans a value that contains no other. -/
def scanScalar (chars : List Char) : Option (Node × List Char) :=
  match chars with
  | 't' :: _ => (expectWord "true" chars).map (.boolean true, ·)
  | 'f' :: _ => (expectWord "false" chars).map (.boolean false, ·)
  | '"' :: _ => (scanText chars).map fun (value, rest) => (.text value, rest)
  | '\'' :: _ => (scanText chars).map fun (value, rest) => (.text value, rest)
  | _ =>
    (scanMoment chars).map (fun (_, rest) => (.moment, rest)) <|>
      (scanDouble chars).map (fun (value, rest) => (.double value, rest)) <|>
      (scanInteger chars).map fun (value, rest) => (.integer value, rest)

/-- Scans what stands between brackets: items with commas between them. -/
def scanItems (item : List Char → Option (Node × List Char)) (chars : List Char) :
    Option (List Node × List Char) :=
  let spaced (chars : List Char) := do
    let (value, rest) ← item (skipLayout false chars)
    return (value, skipLayout false rest)
  match spaced chars with
  | none => (expect ']' (skipLayout false chars)).map ([], ·)
  | some (first, rest) =>
      let (others, rest) := Text.many (fun chars => expect ',' chars >>= spaced) rest
      let rest := (expect ',' rest).getD rest
      (expect ']' (skipLayout false rest)).map (first :: others, ·)

/-- Scans a key, an equals sign and a value, with blanks around them. -/
def scanPair (value : List Char → Option (Node × List Char)) (chars : List Char) :
    Option ((List String × Node) × List Char) := do
  let (key, rest) ← scanKey chars
  let (node, rest) ← value (skipBlanks (← expect '=' rest))
  return ((key, node), skipBlanks rest)

/-- Scans what stands between braces: pairs with commas between them. -/
def scanPairs (value : List Char → Option (Node × List Char)) (chars : List Char) :
    Option (List (List String × Node) × List Char) :=
  match scanPair value chars with
  | none => (expect '\x7d' (skipBlanks chars)).map ([], ·)
  | some (first, rest) =>
      let (others, rest) := Text.many (fun chars => expect ',' chars >>= scanPair value) rest
      (expect '\x7d' rest).map (first :: others, ·)

/-- The inline table of some pairs. -/
def inlineTable? (pairs : List (List String × Node)) : Option Node := do
  let table ← pairs.foldlM (fun table (key, value) => table.assign key value)
    (Table.empty .header)
  return .table .inline table.members

/-- Scans a value in which arrays and inline tables nest at most to a depth. -/
def scanValue : Nat → List Char → Option (Node × List Char)
  | depth + 1, '[' :: rest =>
      (scanItems (scanValue depth) rest).map fun (items, rest) => (.array items, rest)
  | depth + 1, '\x7b' :: rest => do
      let (pairs, rest) ← scanPairs (scanValue depth) rest
      return (← inlineTable? pairs, rest)
  | 0, '[' :: _ => none
  | 0, '\x7b' :: _ => none
  | _, chars => scanScalar chars

end Drift.Toml
