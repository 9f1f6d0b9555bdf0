import Drift.Observer.Delivery
import Drift.Reconcile.Accounting
import Drift.Reconcile.Buckets

/-!
# Comparison by content alone

Both collections count as multisets of contents. Paths only decide which of
several equal contents is named, so content appears or disappears and nothing
is ever modified.
-/

namespace Drift.Reconcile.ByContent

/-- Previous entries that are still unaccounted for, by content. -/
abbrev Unaccounted := Buckets Fingerprint.content Content.order

variable {σ : Type u}

/-- Lets current entries, one after another, account for previous ones of equal
content, and offers those that account for none, if additions are asked for.
Gives what stays unaccounted for. -/
def consume (observer : Observer σ) (title : String) (includeAdded : Bool) :
    List Entry → Unaccounted → Delivery σ Unaccounted
  | [], unaccounted => pure unaccounted
  | entry :: rest, unaccounted =>
      match unaccounted.take? entry.fingerprint.content with
      | some (_, others) => consume observer title includeAdded rest others
      | none =>
          if includeAdded then do
            observer.offer (entry.added title)
            consume observer title includeAdded rest unaccounted
          else
            consume observer title includeAdded rest unaccounted

/-- The comparison without a look at whether anything differs at all: additions
by fingerprint and path, then removals by content and path. -/
def reconcile (observer : Observer σ) (current previous : Collection) (title : String)
    (includeAdded : Bool) (sorter : Sorter := .stable) : Delivery σ Unit := do
  let unaccounted ← consume observer title includeAdded
    (sorter.sort Entry.byFingerprint (unsettled Fingerprint.content current previous))
    (.ofEntries (unsettled Fingerprint.content previous current) sorter)
  observer.offerEach (fun entry => some (entry.removed title)) unaccounted.toList

/-- Offers every change from the previous to the current state. -/
def compare (observer : Observer σ) (current previous : Collection) (title : String)
    (includeAdded : Bool) (sorter : Sorter := .stable) : Delivery σ Unit :=
  if current.identical previous then pure ()
  else reconcile observer current previous title includeAdded sorter

end Drift.Reconcile.ByContent
