import Drift.Text.Quoted

/-!
# Mismatches between a document and what it should say

A well-formed document may still hold something else than what its reader
expects. A mismatch names the first such place; its message says what was found
and what was expected.
-/

namespace Drift

/-- What a document holds where something else was expected. -/
inductive Found where
  | null
  | boolean (value : Bool)
  | integer (value : Int)
  /-- A number with a fraction or an exponent, or one beyond 64 bits, as it is
  shown in messages. -/
  | decimal (digits : String)
  | text (value : String)
  | sequence
  | map
  deriving DecidableEq, Repr

/-- A found value as part of a message. -/
def Found.describe : Found → String
  | null => "null"
  | boolean value => s!"boolean `{value}`"
  | integer value => s!"integer `{value}`"
  | decimal digits => s!"floating point `{digits}`"
  | text value => "string " ++ Text.quoted value
  | sequence => "sequence"
  | map => "map"

/-- How a document fails to say what its reader expects. -/
inductive Mismatch where
  | wrongType (found : Found) (expected : String)
  | outOfRange (found : Found) (expected : String)
  | wrongLength (length : Nat) (expected : String)
  | missingField (name : String)
  | duplicateField (name : String)
  | unknownVariant (name : String) (known : List String)
  deriving DecidableEq, Repr

/-- What was found and what was expected, in one line. -/
def Mismatch.message : Mismatch → String
  | wrongType found expected => s!"invalid type: {found.describe}, expected {expected}"
  | outOfRange found expected => s!"invalid value: {found.describe}, expected {expected}"
  | wrongLength length expected => s!"invalid length {length}, expected {expected}"
  | missingField name => s!"missing field `{name}`"
  | duplicateField name => s!"duplicate field `{name}`"
  | unknownVariant name known =>
      let names := ", ".intercalate (known.map fun name => s!"`{name}`")
      s!"unknown variant `{name}`, expected one of {names}"

end Drift
