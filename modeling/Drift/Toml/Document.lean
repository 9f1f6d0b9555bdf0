import Drift.Toml.Value

/-!
# TOML documents

A document is a sequence of statements: headers, which say where the following
keys belong, and assignments. The statements are scanned first and then carried
out one after another. A document that breaks a rule of the grammar or defines
something twice is refused as a whole.
-/

namespace Drift.Toml

/-- What a line of a document says. -/
inductive Statement where
  /-- The following keys belong to a table. -/
  | header (path : List String)
  /-- The following keys belong to a new element of an array of tables. -/
  | element (path : List String)
  | assignment (key : List String) (value : Node)

/-- Scans one line, or several that one value spans. -/
def scanStatement (chars : List Char) : Option (Option Statement × List Char) :=
  match chars with
  | '\n' :: _ => (newline? chars).map (none, ·)
  | '\r' :: _ => (newline? chars).map (none, ·)
  | '#' :: _ => (lineEnd? chars).map (none, ·)
  | '[' :: '[' :: rest => do
      let (path, rest) ← scanKey rest
      let rest ← lineEnd? (← expect ']' (← expect ']' rest))
      return (some (.element path), rest)
  | '[' :: rest => do
      let (path, rest) ← scanKey rest
      let rest ← lineEnd? (← expect ']' rest)
      return (some (.header path), rest)
  | _ => do
      let ((key, value), rest) ← scanPair (scanValue depthLimit) chars
      return (some (.assignment key value), ← lineEnd? rest)

/-- Scans statements up to the end of the document. -/
def scanStatements (chars : List Char) : Option (List Statement) := do
  let (statements, rest) := Text.many (fun chars => scanStatement (skipBlanks chars)) chars
  guard (skipBlanks rest).isEmpty
  return statements.filterMap id

/-- Where the keys of the current section belong. -/
inductive Place where
  | top
  | table (path : List String)
  | element (path : List String)

/-- A document of which some statements were carried out. -/
structure Draft where
  /-- The tables of all finished sections. -/
  root : Table
  place : Place
  /-- The keys of the current section. -/
  current : Table

namespace Draft

/-- The document before its first statement. -/
def start : Draft := ⟨.empty .header, .top, .empty .header⟩

/-- The document with its current section put where it belongs. -/
def finish (draft : Draft) : Option Table :=
  let members := draft.current.members
  match draft.place with
  | .top => some draft.current
  | .table path => do
      let (_, root) ← draft.root.editAround .passage (fun key parent =>
        some ((), parent.set key (.table .header members))) path
      return root
  | .element path => do
      let (_, root) ← draft.root.editAround .passage (fun key parent =>
        match parent.get? key with
        | some (.tables elements) =>
            some ((), parent.set key (.tables (elements ++ [members])))
        | _ => none) path
      return root

/-- Takes a table out that headers only passed so far, for a header of its
own. -/
def takePassed (key : String) (parent : Table) : Option (Members × Table) :=
  match parent.get? key with
  | none => some ([], parent)
  | some (.table .passage members) => some (members, parent.erase key)
  | some _ => none

/-- Makes sure that there is an array of tables. -/
def openArray (key : String) (parent : Table) : Option (Members × Table) :=
  match parent.get? key with
  | none => some ([], parent.set key (.tables []))
  | some (.tables _) => some ([], parent)
  | some _ => none

/-- Carries out one statement. -/
def apply (draft : Draft) : Statement → Option Draft
  | .assignment key value => do
      return { draft with current := ← draft.current.assign key value }
  | .header path => do
      let (members, root) ← (← draft.finish).editAround .passage takePassed path
      return ⟨root, .table path, ⟨.header, members⟩⟩
  | .element path => do
      let (members, root) ← (← draft.finish).editAround .passage openArray path
      return ⟨root, .element path, ⟨.header, members⟩⟩

end Draft

/-- Reads a document. A byte order mark in front of it is skipped. -/
def parse? (text : String) : Option Members := do
  let chars := text.toList
  let chars := (expect '\ufeff' chars).getD chars
  let draft ← (← scanStatements chars).foldlM Draft.apply .start
  return (← draft.finish).members

end Drift.Toml
