import Drift.FileTree
import Drift.Toml.Forms

/-!
# Loading settings from a file

The file has to be readable as text before its document is looked at.
-/

namespace Drift.Settings

/-- Why settings could not be loaded. -/
inductive LoadFault where
  | unreadable (path : String) (reason : FileTree.Fault)
  | document (fault : Toml.Fault)
  deriving DecidableEq, Repr

/-- What is wrong with the file, in one line. -/
def LoadFault.message? : LoadFault → Option String
  | unreadable path reason => some s!"failed to read config {path}: {reason.message}"
  | document fault => fault.message?

/-- Reads settings from the file that a path leads to. -/
def load (directories : List FileTree) (path : String) : Except LoadFault Settings := do
  let text ← (FileTree.readText directories path).mapError (.unreadable path)
  (ofToml text).mapError .document

end Drift.Settings
