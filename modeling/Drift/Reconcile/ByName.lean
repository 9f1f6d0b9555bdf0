import Drift.Observer.Delivery
import Drift.Reconcile.Accounting
import Drift.Reconcile.Buckets

/-!
# Comparison by normalized path and content

A file is the same if its fingerprint is, wherever it went. A previous entry
that nothing accounts for becomes modified when an unaccounted current entry
shares its normalized path, and removed otherwise; current entries that remain
are added. Of several candidates with one normalized path, the one with the
smallest path goes first.
-/

namespace Drift.Reconcile.ByName

/-- Previous entries that are still unaccounted for, by fingerprint. -/
abbrev Missing := Buckets Fingerprint.self Fingerprint.order

/-- Current entries that account for nothing, by normalized path. -/
abbrev Candidates := Buckets Fingerprint.normalizedPath Text.order

/-- What accounting leaves of both sides. -/
structure Split where
  missing : Missing
  candidates : Candidates

/-- Takes out settled entries, and of the rest those that an equal fingerprint
at another path accounts for. -/
def split (current previous : Collection) (sorter : Sorter := .stable) : Split :=
  let (unmatched, missing) :=
    Buckets.absorb
      (sorter.sort Entry.byFingerprint (unsettled Fingerprint.self current previous))
      (.ofEntries (unsettled Fingerprint.self previous current) sorter)
  ⟨missing, .ofEntries unmatched sorter⟩

variable {σ : Type u}

/-- Pairs missing entries, one after another, with the next candidate of their
normalized path, and offers what became of each. Gives the candidates left
over. -/
def pair (observer : Observer σ) (title : String) :
    List Entry → Candidates → Delivery σ Candidates
  | [], candidates => pure candidates
  | old :: missing, candidates =>
      match candidates.take? old.fingerprint.normalizedPath with
      | some (candidate, others) => do
          observer.offer (candidate.modified title old.fingerprint.fileType)
          pair observer title missing others
      | none => do
          observer.offer (old.removed title)
          pair observer title missing candidates

/-- The comparison without a look at whether anything differs at all. -/
def reconcile (observer : Observer σ) (current previous : Collection) (title : String)
    (includeAdded : Bool) (sorter : Sorter := .stable) : Delivery σ Unit := do
  let split := split current previous sorter
  let candidates ← pair observer title split.missing.toList split.candidates
  if includeAdded then
    observer.offerEach (fun entry => some (entry.added title)) candidates.toList

/-- Offers every change from the previous to the current state. -/
def compare (observer : Observer σ) (current previous : Collection) (title : String)
    (includeAdded : Bool) (sorter : Sorter := .stable) : Delivery σ Unit :=
  if current.identical previous then pure ()
  else reconcile observer current previous title includeAdded sorter

end Drift.Reconcile.ByName
