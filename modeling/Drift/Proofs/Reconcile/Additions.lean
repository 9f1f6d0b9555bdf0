import Drift.Proofs.Reconcile.ContentOrder
import Drift.Proofs.Reconcile.Matching
import Drift.Proofs.Reconcile.PathOrder

/-!
# Leaving additions out

Whether additions are told decides nothing else. A comparison that leaves them out
does the same accounting and the same pairing, so it tells what is left of the
full list of changes without the additions in it.
-/

namespace Drift

/-- The changes that are no additions. -/
def withoutAdditions (changes : List Change) : List Change :=
  changes.filter fun change => !change.alteration.isAdded

@[simp] theorem withoutAdditions_append (left right : List Change) :
    withoutAdditions (left ++ right) = withoutAdditions left ++ withoutAdditions right :=
  List.filter_append left right

theorem withoutAdditions_eq_self {changes : List Change}
    (others : ∀ change ∈ changes, change.alteration.isAdded = false) :
    withoutAdditions changes = changes :=
  List.filter_eq_self.mpr fun change member => by rw [others change member, Bool.not_false]

@[simp] theorem withoutAdditions_map_added (title : String) (entries : List Entry) :
    withoutAdditions (entries.map (Entry.added title)) = [] := by
  apply List.filter_eq_nil_iff.mpr
  intro change member
  obtain ⟨entry, -, rfl⟩ := List.mem_map.mp member
  exact Bool.false_ne_true

@[simp] theorem withoutAdditions_map_removed (title : String) (entries : List Entry) :
    withoutAdditions (entries.map (Entry.removed title)) =
      entries.map (Entry.removed title) := by
  apply withoutAdditions_eq_self
  intro change member
  obtain ⟨entry, -, rfl⟩ := List.mem_map.mp member
  rfl

namespace Reconcile

variable (current previous : Collection) (title : String)

/-- What became of a missing entry is no addition. -/
theorem ByName.withoutAdditions_map_fate (outcomes : List (Entry × Option Entry)) :
    withoutAdditions (outcomes.map (fate title)) = outcomes.map (fate title) := by
  apply withoutAdditions_eq_self
  intro change member
  obtain ⟨⟨old, candidate?⟩, -, rfl⟩ := List.mem_map.mp member
  cases candidate? <;> rfl

theorem ByName.sequence_false_eq :
    sequence current previous title false =
      withoutAdditions (sequence current previous title true) := by
  simp [sequence_eq_reconciled, reconciled_eq, withoutAdditions_map_fate]

theorem ByContent.sequence_false_eq :
    sequence current previous title false =
      withoutAdditions (sequence current previous title true) := by
  simp [sequence_eq_outcome, outcome_eq]

/-- At each path, the change is told without additions unless it is one. -/
theorem ByPath.changeOf?_false_eq (path : String) (new? old? : Option Fingerprint) :
    changeOf? title false path new? old? =
      (changeOf? title true path new? old?).filter fun change =>
        !change.alteration.isAdded := by
  cases new? with
  | none => cases old? <;> rfl
  | some new =>
      cases old? with
      | none => rfl
      | some old =>
          by_cases same : old = new
          · simp [changeOf?, same]
          · simp only [changeOf?, if_neg same]
            rfl

theorem ByPath.sequence_false_eq :
    sequence current previous title false =
      withoutAdditions (sequence current previous title true) := by
  simp only [sequence_eq_outcome, outcome, withoutAdditions, List.filter_filterMap,
    changeOf?_false_eq]

end Reconcile

/-- To leave additions out is to delete them from the full list of changes: the
removals and modifications are the same, in the same order. -/
theorem Policy.changes_false_eq_withoutAdditions (policy : Policy)
    (current previous : Collection) (title : String) :
    policy.changes current previous title false =
      withoutAdditions (policy.changes current previous title true) := by
  rw [changes_eq_sequence, changes_eq_sequence]
  cases policy with
  | absolute => exact Reconcile.ByPath.sequence_false_eq current previous title
  | normalized => exact Reconcile.ByName.sequence_false_eq current previous title
  | ignoredPath => exact Reconcile.ByContent.sequence_false_eq current previous title

end Drift
