import Drift.Policy

/-!
# Report settings

How the changes of a property are compared and how many of them are told.
-/

namespace Drift

/-- Settings of a report. -/
structure Settings where
  policy : Policy
  /-- Whether files that are new are told. -/
  includeAdded : Bool
  /-- How many changes are told at most. -/
  cap : UInt64
  deriving DecidableEq, Repr

/-- The settings that hold where none are given. -/
def Settings.standard : Settings where
  policy := .standard
  includeAdded := true
  cap := 3

end Drift
