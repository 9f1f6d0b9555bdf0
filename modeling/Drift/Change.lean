import Drift.FileType

/-!
# Changes

What a comparison reports: a file of a property was added, removed or
modified. The title of the property, the path and the normalized path are part
of every change.
-/

namespace Drift

/-- What happened to a file, with its type before and after as far as it was
there. -/
inductive Alteration where
  | added (fileType : FileType)
  | removed (fileType : FileType)
  | modified (previous current : FileType)
  deriving DecidableEq, Repr

namespace Alteration

/-- What happened to a file, apart from its types. -/
inductive Kind where
  | added
  | removed
  | modified
  deriving DecidableEq, Repr

/-- The predicate of a message about a change of a kind. -/
def Kind.predicate : Kind → String
  | added => "has been added"
  | removed => "has been removed"
  | modified => "has changed"

/-- The kind of an alteration. -/
def kind : Alteration → Kind
  | added _ => .added
  | removed _ => .removed
  | modified _ _ => .modified

/-- The predicate of a message about the file. -/
def describe (alteration : Alteration) : String :=
  alteration.kind.predicate

/-- Whether a file was added. -/
def isAdded : Alteration → Bool
  | added _ => true
  | _ => false

/-- Whether a file was removed. -/
def isRemoved : Alteration → Bool
  | removed _ => true
  | _ => false

/-- Whether a file was modified. -/
def isModified : Alteration → Bool
  | modified _ _ => true
  | _ => false

/-- The type of a file before, if it was there. -/
def before? : Alteration → Option FileType
  | added _ => none
  | removed fileType => some fileType
  | modified previous _ => some previous

/-- The type of a file now, if it is there. -/
def after? : Alteration → Option FileType
  | added fileType => some fileType
  | removed _ => none
  | modified _ current => some current

end Alteration

/-- One reported difference between two states of a property. -/
structure Change where
  /-- The title of the property. -/
  title : String
  path : String
  normalizedPath : String
  alteration : Alteration
  deriving DecidableEq, Repr

/-- The line that tells a reader about a change. -/
def Change.message (change : Change) : String :=
  s!"{change.title} file {change.path} {change.alteration.describe}."

end Drift
