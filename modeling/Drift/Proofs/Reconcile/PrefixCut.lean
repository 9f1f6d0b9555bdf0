import Drift.Proofs.Reconcile.Sequence

/-!
# Stopping a comparison

Whatever an observer answers, it is offered the changes that one gets who always
goes on, cut after the first at which it wants no more. In particular whether
anything changed at all is found out from the first change alone.
-/

namespace Drift

/-- A change of another property. -/
def Change.entitled (title : String) (change : Change) : Change :=
  { change with title := title }

namespace Reconcile

theorem ByName.sequence_entitled (current previous : Collection) (title : String)
    (includeAdded : Bool) :
    sequence current previous title includeAdded =
      (sequence current previous "" includeAdded).map (Change.entitled title) := by
  have fates : fate title = Change.entitled title ∘ fate "" := by
    funext outcome
    rcases outcome with ⟨old, _ | candidate⟩ <;> rfl
  have additions : Entry.added title = Change.entitled title ∘ Entry.added "" := rfl
  simp only [sequence, reconciled]
  split
  · rfl
  · cases includeAdded <;> simp [fates, additions]

theorem ByContent.sequence_entitled (current previous : Collection) (title : String)
    (includeAdded : Bool) :
    sequence current previous title includeAdded =
      (sequence current previous "" includeAdded).map (Change.entitled title) := by
  have additions : Entry.added title = Change.entitled title ∘ Entry.added "" := rfl
  have removals : Entry.removed title = Change.entitled title ∘ Entry.removed "" := rfl
  simp only [sequence, reconciled]
  split
  · rfl
  · cases includeAdded <;> simp [additions, removals]

theorem ByPath.sequence_entitled (current previous : Collection) (title : String)
    (includeAdded : Bool) :
    sequence current previous title includeAdded =
      (sequence current previous "" includeAdded).map (Change.entitled title) := by
  have alterations (entry : Entry) (old? : Option Fingerprint) :
      changeAt? title includeAdded entry old? =
        (changeAt? "" includeAdded entry old?).map (Change.entitled title) := by
    simp only [changeAt?]
    split <;> split <;> rfl
  have removals : Entry.removed title = Change.entitled title ∘ Entry.removed "" := rfl
  have modifications (entry : Entry) (old : FileType) :
      entry.modified title old = (entry.modified "" old).entitled title := rfl
  simp only [sequence, sharedSequence?]
  cases joined? current previous with
  | none => simp [reconciled, alterations, removals, List.map_filterMap]
  | some pairs => simp [modifications]

end Reconcile

namespace Policy

/-- The title shows in every change and decides nothing. -/
theorem sequence_entitled (policy : Policy) (current previous : Collection) (title : String)
    (includeAdded : Bool) :
    policy.sequence current previous title includeAdded =
      (policy.sequence current previous "" includeAdded).map (Change.entitled title) := by
  cases policy with
  | absolute => exact Reconcile.ByPath.sequence_entitled current previous title includeAdded
  | normalized => exact Reconcile.ByName.sequence_entitled current previous title includeAdded
  | ignoredPath =>
      exact Reconcile.ByContent.sequence_entitled current previous title includeAdded

theorem hasChanges_eq (policy : Policy) (current previous : Collection) (title : String) :
    policy.hasChanges current previous =
      !(policy.sequence current previous title true).isEmpty := by
  rw [hasChanges, compare, delivery_eq_relay, Observer.run_relay_detecting,
    policy.sequence_entitled current previous title]
  simp

variable {σ : Type u}

/-- An observer is offered the changes that one gets who always goes on, cut
after the first at which it wants no more, and the answer tells whether it took
all of them. The same holds of the comparison over shared paths unless it
declines, which it does before it offers anything. -/
theorem compare_cut (policy : Policy) (observer : Observer σ) (state : σ)
    (current previous : Collection) (title : String) (includeAdded : Bool) :
    (∃ offered,
      observer.Cut state (policy.changes current previous title includeAdded) offered
        (policy.compare observer state current previous title includeAdded).1
        (policy.compare observer state current previous title includeAdded).2 ∧
      policy.compare observer.logging (state, []) current previous title includeAdded =
        ((policy.compare observer state current previous title includeAdded).1,
          (policy.compare observer state current previous title includeAdded).2, offered)) ∧
    (match compareSharedPaths observer state current previous title with
      | (none, final) =>
          final = state ∧ compareSharedPaths .collecting #[] current previous title = (none, #[])
      | (some completed, final) =>
          ∃ changes offered,
            compareSharedPaths .collecting #[] current previous title =
              (some true, changes.toArray) ∧
            observer.Cut state changes offered completed final ∧
            compareSharedPaths observer.logging (state, []) current previous title =
              (some completed, final, offered)) ∧
    (policy.hasChanges current previous = true ↔
      policy.changes current previous title true ≠ []) := by
  refine ⟨?_, ?_, ?_⟩
  · simp only [compare, delivery_eq_relay, changes_eq_sequence]
    exact observer.cut_relay state _
  · simp only [compareSharedPaths, Reconcile.ByPath.overSharedPaths?_eq_relay]
    cases Reconcile.ByPath.sharedSequence? current previous title with
    | none => exact ⟨rfl, rfl⟩
    | some changes =>
        obtain ⟨offered, cut, logged⟩ := observer.cut_relay state changes
        refine ⟨changes, offered, ?_, cut, ?_⟩
        · simp [Observer.run_relay_collecting]
        · simp [logged]
  · rw [policy.hasChanges_eq current previous title, changes_eq_sequence]
    simp

end Policy

end Drift
