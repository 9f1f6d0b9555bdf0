import Drift.Sorting

/-!
# File types

What a path leads to when its fingerprint is taken. The tag of a type enters
digests and orders the types; its identifier is its name in documents.
-/

namespace Drift

/-- What stands at a path. -/
inductive FileType where
  | regularFile
  | directory
  /-- Nothing is there. -/
  | missing
  deriving DecidableEq, Repr

namespace FileType

/-- Every type, in tag order. -/
def all : List FileType := [regularFile, directory, missing]

/-- The byte that stands for a type in key material. -/
def tag : FileType → UInt8
  | regularFile => 0
  | directory => 1
  | missing => 2

theorem tag_inj {left right : FileType} : left.tag = right.tag ↔ left = right := by
  cases left <;> cases right <;> decide

/-- The name of a type in documents. -/
def identifier : FileType → String
  | regularFile => "regular_file"
  | directory => "directory"
  | missing => "missing"

/-- The type with a given name in documents. -/
def ofIdentifier? (name : String) : Option FileType :=
  all.find? fun fileType => fileType.identifier = name

@[simp] theorem ofIdentifier?_identifier (fileType : FileType) :
    ofIdentifier? fileType.identifier = some fileType := by
  cases fileType <;> decide

/-- The name of a type in running text. -/
def describe : FileType → String
  | regularFile => "regular file"
  | directory => "directory"
  | missing => "missing"

/-- Types compare by their tags. -/
def order : FileType → FileType → Ordering :=
  orderBy tag compare

instance : Std.TransCmp order :=
  inferInstanceAs (Std.TransCmp (orderBy tag compare))

instance : Std.LawfulEqCmp order :=
  lawfulEqCmp_orderBy tag_inj.mp

end FileType

end Drift
