/-!
# Comparison policies

The policy of a property decides when two files of different states count as
the same file: by absolute path, by normalized path and content, or by content
alone.
-/

namespace Drift

/-- What identifies a file. -/
inductive Policy where
  /-- The absolute path. -/
  | absolute
  /-- The fingerprint, wherever the file is, and then the normalized path. -/
  | normalized
  /-- The content alone. -/
  | ignoredPath
  deriving DecidableEq, Repr, Inhabited

namespace Policy

/-- Every policy. -/
def all : List Policy := [absolute, normalized, ignoredPath]

/-- The policy of a property that names none. -/
def standard : Policy := normalized

/-- The name of a policy in settings, documents and key material. -/
def identifier : Policy → String
  | absolute => "absolute"
  | normalized => "normalized"
  | ignoredPath => "ignored_path"

/-- The policy with a given name. -/
def ofIdentifier? (name : String) : Option Policy :=
  all.find? fun policy => policy.identifier = name

@[simp] theorem ofIdentifier?_identifier (policy : Policy) :
    ofIdentifier? policy.identifier = some policy := by
  cases policy <;> decide

/-- A name that no policy has. -/
structure Unknown where
  name : String
  deriving DecidableEq, Repr

/-- The line that tells a user about an unknown name. -/
def Unknown.message (unknown : Unknown) : String :=
  s!"unknown compare strategy '{unknown.name}' (expected absolute, normalized or ignored_path)"

/-- Reads the name of a policy, which has to match exactly. -/
def parse (name : String) : Except Unknown Policy :=
  match ofIdentifier? name with
  | some policy => .ok policy
  | none => .error ⟨name⟩

end Policy

end Drift
