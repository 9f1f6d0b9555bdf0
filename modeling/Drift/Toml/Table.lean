/-!
# TOML tables

The tree that a document describes. A table knows how it came to be, because
that decides whether a later header or key may add to it. Members keep the order
in which they were added.
-/

namespace Drift.Toml

/-- How a table came to be. -/
inductive Origin where
  /-- By a header of its own, or as an element of an array of tables, or as the
  document itself. -/
  | header
  /-- On the way to the table of a header. -/
  | passage
  /-- On the way to the last part of a key. -/
  | key
  /-- As a value between braces, which is complete. -/
  | inline
  deriving DecidableEq, Repr

/-- What a key leads to. -/
inductive Node where
  | text (value : String)
  | integer (value : Int)
  | double (value : Float)
  | boolean (value : Bool)
  /-- A date or a time. -/
  | moment
  | array (items : List Node)
  | table (origin : Origin) (members : List (String × Node))
  /-- An array of tables that headers fill, each given by its members. -/
  | tables (elements : List (List (String × Node)))

/-- The members of a table. -/
abbrev Members := List (String × Node)

/-- A table that is being filled. -/
structure Table where
  origin : Origin
  members : Members

namespace Table

/-- A table without members. -/
def empty (origin : Origin) : Table := ⟨origin, []⟩

/-- The table with a node under a key, in place of the one that is there or
behind the others. -/
def set (table : Table) (key : String) (node : Node) : Table :=
  if table.members.any fun member => member.1 = key then
    { table with members := table.members.map fun member =>
        if member.1 = key then (key, node) else member }
  else
    { table with members := table.members ++ [(key, node)] }

/-- The table without a key. -/
def erase (table : Table) (key : String) : Table :=
  { table with members := table.members.filter fun member => member.1 ≠ key }

/-- What a key leads to. -/
def get? (table : Table) (key : String) : Option Node :=
  table.members.lookup key

/-- Whether the parts of a key, or only a header, may lead through a table. -/
def isOpenTo (table : Table) (way : Origin) : Bool :=
  match way, table.origin with
  | _, .inline => false
  | .key, .header => false
  | _, _ => true

/-- Changes the table at the end of a path and gives what the change brings to
light. Tables that are missing on the way are made with the given origin; an
array of tables stands for its last element. -/
def editAt (table : Table) (way : Origin) (edit : Table → Option (α × Table)) :
    List String → Option (α × Table)
  | [] => edit table
  | key :: path =>
      match table.get? key with
      | none => do
          let (result, inner) ← (empty way).editAt way edit path
          return (result, table.set key (.table inner.origin inner.members))
      | some (.table origin members) => do
          guard ((⟨origin, members⟩ : Table).isOpenTo way)
          let (result, inner) ← editAt ⟨origin, members⟩ way edit path
          return (result, table.set key (.table inner.origin inner.members))
      | some (.tables elements) => do
          let last ← elements.getLast?
          let (result, inner) ← editAt ⟨.header, last⟩ way edit path
          return (result, table.set key (.tables (elements.dropLast ++ [inner.members])))
      | some _ => none

/-- Changes the table around the end of a path, which must not be empty. -/
def editAround (table : Table) (way : Origin) (edit : String → Table → Option (α × Table))
    (path : List String) : Option (α × Table) := do
  let last ← path.getLast?
  table.editAt way (edit last) path.dropLast

/-- Adds a value under the last part of a key. Only tables that keys made take
the end of a key of several parts, and no other key. -/
def assignLast (value : Node) (single : Bool) (last : String) (table : Table) :
    Option (Unit × Table) := do
  guard (if single then table.origin ≠ .key else table.origin = .key)
  guard (table.get? last).isNone
  return ((), table.set last value)

/-- Adds a value under a key. -/
def assign (table : Table) (key : List String) (value : Node) : Option Table :=
  (table.editAround .key (assignLast value (key.length = 1)) key).map (·.2)

end Table

end Drift.Toml
