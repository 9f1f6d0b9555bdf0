import Drift.Observer.Delivery
import Drift.Reconcile.Accounting

/-!
# Comparison by absolute path

The path is the identity of a file: a path of one side only is added or
removed, and a path of both sides is modified when its fingerprints differ.
Two collections over the same paths are compared without looking for paths of
one side only; the result is that of the full comparison.
-/

namespace Drift.Reconcile.ByPath

/-- Current entries, each with what was at its path before; nothing when a path
had nothing or the numbers of entries differ. -/
def joined? (current previous : Collection) : Option (List (Entry × Fingerprint)) :=
  let index := previous.index
  if current.size = previous.size then
    current.entries.mapM fun entry => index[entry.path]?.map fun old => (entry, old)
  else
    none

variable {σ : Type u}

/-- Offers the modifications between two collections over the same paths, in
path order. Declines when their paths differ. -/
def overSharedPaths? (observer : Observer σ) (current previous : Collection) (title : String)
    (sorter : Sorter := .stable) : Option (Delivery σ Unit) :=
  (joined? current previous).map fun pairs =>
    let differing := pairs.filter fun (entry, old) => old ≠ entry.fingerprint
    observer.offerEach (fun (entry, old) => some (entry.modified title old.fileType))
      (sorter.sort (orderBy Prod.fst Entry.byPath) differing)

/-- The change at a current entry, given what was at its path. -/
def changeAt? (title : String) (includeAdded : Bool) (entry : Entry) :
    Option Fingerprint → Option Change
  | none => if includeAdded then some (entry.added title) else none
  | some old =>
      if old = entry.fingerprint then none else some (entry.modified title old.fileType)

/-- The full comparison: changes at current paths, then removals, each in path
order. -/
def reconcile (observer : Observer σ) (current previous : Collection) (title : String)
    (includeAdded : Bool) (sorter : Sorter := .stable) : Delivery σ Unit := do
  let previousIndex := previous.index
  observer.offerEach
    (fun entry => changeAt? title includeAdded entry previousIndex[entry.path]?)
    (sorter.sort Entry.byPath current.entries)
  let currentIndex := current.index
  let gone := previous.entries.filter fun entry => currentIndex[entry.path]?.isNone
  observer.offerEach (fun entry => some (entry.removed title)) (sorter.sort Entry.byPath gone)

/-- Offers every change from the previous to the current state. -/
def compare (observer : Observer σ) (current previous : Collection) (title : String)
    (includeAdded : Bool) (sorter : Sorter := .stable) : Delivery σ Unit :=
  match overSharedPaths? observer current previous title sorter with
  | some delivery => delivery
  | none => reconcile observer current previous title includeAdded sorter

end Drift.Reconcile.ByPath
