import Drift.Change
import Drift.Collection

/-!
# Accounting for entries

Before two collections are compared, entries that did not change are left out
of both: an entry is settled when the other collection has the same thing at
its path. What an entry that is not settled came to is told by a change.
-/

namespace Drift

namespace Entry

/-- The change that an entry came to be. -/
def added (title : String) (entry : Entry) : Change :=
  ⟨title, entry.path, entry.fingerprint.normalizedPath, .added entry.fingerprint.fileType⟩

/-- The change that an entry is gone. -/
def removed (title : String) (entry : Entry) : Change :=
  ⟨title, entry.path, entry.fingerprint.normalizedPath, .removed entry.fingerprint.fileType⟩

/-- The change that an entry stands for what was a file of another
fingerprint. -/
def modified (title : String) (previous : FileType) (entry : Entry) : Change :=
  ⟨title, entry.path, entry.fingerprint.normalizedPath,
    .modified previous entry.fingerprint.fileType⟩

/-- Entries compare by fingerprint, then by path. -/
abbrev byFingerprint : Entry → Entry → Ordering :=
  compareLex (orderBy fingerprint Fingerprint.order) byPath

instance : Std.LawfulEqCmp byFingerprint where
  compare_self {entry} := by
    simp [byFingerprint, Std.ReflCmp.compare_self]
  eq_of_compare equal := by
    obtain ⟨fingerprints, paths⟩ := compareLex_eq_eq.mp equal
    exact Entry.ext (eq_of_orderBy_eq paths) (eq_of_orderBy_eq fingerprints)

end Entry

namespace Reconcile

/-- Entries of a collection for which another one holds nothing with an equal
key at the same path. -/
def unsettled [DecidableEq κ] (key : Fingerprint → κ) (own other : Collection) : List Entry :=
  let index := other.index
  own.entries.filter fun entry => index[entry.path]?.map key ≠ some (key entry.fingerprint)

end Reconcile

end Drift
