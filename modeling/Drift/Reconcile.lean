import Drift.Policy
import Drift.Reconcile.ByContent
import Drift.Reconcile.ByName
import Drift.Reconcile.ByPath

/-!
# Comparison of two states

The changes between two collections under a policy, offered to an observer that
may stop early.
-/

namespace Drift

variable {σ : Type u}

/-- Offers every change from the previous to the current state under a policy.
Additions are left out unless asked for. -/
def Policy.delivery (policy : Policy) (observer : Observer σ) (current previous : Collection)
    (title : String) (includeAdded : Bool) (sorter : Sorter := .stable) : Delivery σ Unit :=
  match policy with
  | absolute => Reconcile.ByPath.compare observer current previous title includeAdded sorter
  | normalized => Reconcile.ByName.compare observer current previous title includeAdded sorter
  | ignoredPath =>
      Reconcile.ByContent.compare observer current previous title includeAdded sorter

/-- Hands the changes between two states to an observer. Answers whether it
took all of them and wanted to go on, and its state. -/
def Policy.compare (policy : Policy) (observer : Observer σ) (state : σ)
    (current previous : Collection) (title : String) (includeAdded : Bool)
    (sorter : Sorter := .stable) : Bool × σ :=
  (policy.delivery observer current previous title includeAdded sorter).run state

/-- Whether anything changed, additions included. -/
def Policy.hasChanges (policy : Policy) (current previous : Collection)
    (sorter : Sorter := .stable) : Bool :=
  (policy.compare .detecting false current previous "" true sorter).2

/-- Compares two states over the same paths by path. When their paths differ it
declines: there is no answer and the observer sees nothing. -/
def compareSharedPaths (observer : Observer σ) (state : σ) (current previous : Collection)
    (title : String) (sorter : Sorter := .stable) : Option Bool × σ :=
  match Reconcile.ByPath.overSharedPaths? observer current previous title sorter with
  | none => (none, state)
  | some delivery =>
      let (completed, final) := delivery.run state
      (some completed, final)

end Drift
