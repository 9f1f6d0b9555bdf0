import Drift.Mismatch
import Drift.Settings
import Drift.Toml.Document

/-!
# TOML form of settings

Settings are a document with one key for each field. Keys of other names are
passed over, and a field without a key keeps its standard value. Of several
wrong values the first one in the document is reported.
-/

namespace Drift

namespace Toml

/-- Why a document does not hold settings. -/
inductive Fault where
  /-- The document breaks the grammar or defines something twice. -/
  | malformed
  | mismatch (mismatch : Mismatch)
  /-- A table that should hold the name of a variant holds nothing. -/
  | noVariant
  /-- A table that should hold the name of a variant holds more than that. -/
  | severalVariants
  /-- Neither a text nor a table. -/
  | noName
  /-- The table or array of a variant is not empty. -/
  | notEmpty
  /-- A variant has tables under several headers. -/
  | severalTables
  /-- A variant has something else than a table. -/
  | noTable (found : String)
  deriving DecidableEq, Repr

/-- What is wrong with a well-formed document, in one line. -/
def Fault.message? : Fault → Option String
  | .malformed => none
  | .mismatch reason => some reason.message
  | .noVariant => some "wanted exactly 1 element, found 0 elements"
  | .severalVariants => some "wanted exactly 1 element, more than 1 element"
  | .noName => some "wanted string or table"
  | .notEmpty => some "expected empty table"
  | .severalTables => some "expected empty array"
  | .noTable found => some s!"expected table, found {found}"

namespace Node

/-- A node as messages show it. Moments are shown like tables. -/
def found : Node → Found
  | text value => .text value
  | integer value => .integer value
  | double value => .decimal (doubleLayout.text value)
  | boolean value => .boolean value
  | moment | table _ _ => .map
  | array _ | tables _ => .sequence

/-- The name of a node's type. -/
def typeName : Node → String
  | text _ => "string"
  | integer _ => "integer"
  | double _ => "float"
  | boolean _ => "boolean"
  | moment => "datetime"
  | array _ => "array"
  | table _ _ => "table"
  | tables _ => "array of tables"

end Node

/-- Reads a truth value. -/
def asBoolean : Node → Except Fault Bool
  | .boolean value => .ok value
  | node => .error (.mismatch (.wrongType node.found "a boolean"))

/-- Reads a count. -/
def asCount : Node → Except Fault UInt64
  | .integer value =>
      if 0 ≤ value then .ok (UInt64.ofNat value.toNat)
      else .error (.mismatch (.outOfRange (.integer value) "usize"))
  | node => .error (.mismatch (.wrongType node.found "usize"))

/-- Reads the name of a policy. -/
def asPolicyName (name : String) : Except Fault Policy :=
  match Policy.ofIdentifier? name with
  | some policy => .ok policy
  | none => .error (.mismatch (.unknownVariant name (Policy.all.map Policy.identifier)))

/-- Reads what belongs to a variant, which is nothing: an empty table or array. -/
def asNothing : Node → Except Fault Unit
  | .table _ [] | .array [] => .ok ()
  | .table _ _ | .array _ => .error .notEmpty
  | .tables _ => .error .severalTables
  | node => .error (.noTable node.typeName)

/-- Reads a policy: its name, or a table with its name as the only key. -/
def asPolicy : Node → Except Fault Policy
  | .text name => asPolicyName name
  | .table _ [] => .error .noVariant
  | .table _ [(name, node)] => do
      let policy ← asPolicyName name
      asNothing node
      return policy
  | .table _ _ => .error .severalVariants
  | _ => .error .noName

end Toml

namespace Settings

/-- The settings with the field of a key read from a node. -/
def setFromToml (settings : Settings) (key : String) (node : Toml.Node) :
    Except Toml.Fault Settings :=
  match key with
  | "strategy" => do return { settings with policy := ← Toml.asPolicy node }
  | "include_added" => do return { settings with includeAdded := ← Toml.asBoolean node }
  | "max_reported_changes" => do return { settings with cap := ← Toml.asCount node }
  | _ => .ok settings

/-- Reads settings from a document. -/
def ofToml (text : String) : Except Toml.Fault Settings :=
  match Toml.parse? text with
  | none => .error .malformed
  | some members =>
      members.foldlM (fun settings (key, node) => settings.setFromToml key node) standard

/-- The lines of the document of some settings, in the order of the fields. -/
def tomlLines (settings : Settings) : List String :=
  [s!"strategy = \"{settings.policy.identifier}\"\n",
    s!"include_added = {settings.includeAdded}\n",
    s!"max_reported_changes = {settings.cap}\n"]

/-- A cap that no document can hold. -/
structure CapTooLarge where
  cap : UInt64
  deriving DecidableEq, Repr

/-- What is wrong with the cap, in one line. -/
def CapTooLarge.message (_ : CapTooLarge) : String :=
  "out-of-range value for u64 type"

/-- The document of some settings. Integers of a document have a sign, so a cap
of 64 bits may be too large for one. -/
def toToml (settings : Settings) : Except CapTooLarge String :=
  if settings.cap.toNat < Nat.pow 2 63 then .ok (String.join settings.tomlLines)
  else .error ⟨settings.cap⟩

end Settings

end Drift
