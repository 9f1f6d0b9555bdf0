import Drift.Proofs.Reconcile.ContentOrder
import Drift.Proofs.Reconcile.PathOrder
import Drift.Proofs.Reconcile.PrefixCut
import Drift.Proofs.Reconcile.Surplus

/-!
# When nothing changed

With additions, nothing is told exactly if both collections are the same as far
as a policy looks: the same entries, the same fingerprints or the same digests and
types, in whatever order. Without additions, nothing is told exactly if the current
one has all that the previous one had, each thing at least as often.
-/

namespace Drift

namespace Reconcile

variable (current previous : Collection) (title : String) (includeAdded : Bool)

/-- Nothing is told by name exactly if no previous entry remains, and no current
one where additions are told. -/
theorem ByName.sequence_eq_nil_iff :
    sequence current previous title includeAdded = [] ↔
      remaining previous current = [] ∧
        (includeAdded = true → remaining current previous = []) := by
  have missing : outcomes current previous = [] ↔ remaining previous current = [] := by
    rw [← List.map_eq_nil_iff (f := Prod.fst), map_fst_outcomes, sorted_eq_nil_iff]
  rw [sequence_eq_reconciled, reconciled_eq, List.append_eq_nil_iff, List.map_eq_nil_iff,
    missing]
  apply and_congr_right
  intro none
  -- With no missing entry, no candidate is taken.
  have candidates := (taken_append_leftover_perm current previous).length_eq
  rw [missing.mpr none, List.filterMap_nil, List.nil_append] at candidates
  rw [← List.length_eq_zero_iff (l := remaining current previous), candidates]
  cases includeAdded <;> simp

/-- Nothing is told by content exactly if no previous entry remains, and no
current one where additions are told. -/
theorem ByContent.sequence_eq_nil_iff :
    sequence current previous title includeAdded = [] ↔
      remaining Fingerprint.digestAndType Entry.byPath previous current = [] ∧
        (includeAdded = true →
          remaining Fingerprint.digestAndType Entry.byFingerprint current previous = []) := by
  rw [sequence_eq_outcome, outcome, additions, removals]
  cases includeAdded <;> simp [sorted_eq_nil_iff, and_comm]

end Reconcile

namespace Policy

/-- What has to hold between two states for a policy to tell nothing. -/
def Quiet (policy : Policy) (includeAdded : Bool) (current previous : Collection) : Prop :=
  match policy, includeAdded with
  | absolute, true => current.entries.Perm previous.entries
  | absolute, false => previous.entries ⊆ current.entries
  | normalized, true =>
      (current.entries.map Entry.fingerprint).Perm (previous.entries.map Entry.fingerprint)
  | normalized, false => ∀ fingerprint,
      previous.entries.countP (fun entry => entry.fingerprint = fingerprint) ≤
        current.entries.countP fun entry => entry.fingerprint = fingerprint
  | ignoredPath, true =>
      (current.entries.map fun entry => entry.fingerprint.digestAndType).Perm
        (previous.entries.map fun entry => entry.fingerprint.digestAndType)
  | ignoredPath, false => ∀ pair : Digest × FileType,
      previous.entries.countP (fun entry => entry.fingerprint.digestAndType = pair) ≤
        current.entries.countP fun entry => entry.fingerprint.digestAndType = pair

theorem sequence_eq_nil_iff_quiet (policy : Policy) (includeAdded : Bool)
    (current previous : Collection) (title : String) :
    policy.sequence current previous title includeAdded = [] ↔
      policy.Quiet includeAdded current previous := by
  cases policy with
  | absolute =>
      rw [sequence, Reconcile.ByPath.sequence_eq_outcome, Reconcile.ByPath.outcome_eq_nil_iff]
      cases includeAdded with
      | false =>
          simp only [Reconcile.ByPath.changeOf?_false_eq_none_iff, Quiet]
          exact Collection.subset_iff_forall_get?.symm
      | true =>
          simp only [Reconcile.ByPath.changeOf?_true_eq_none_iff, Quiet]
          exact Collection.perm_iff_forall_get?.symm
  | normalized =>
      rw [sequence, Reconcile.ByName.sequence_eq_nil_iff]
      simp only [Reconcile.remaining_eq_nil_iff]
      cases includeAdded with
      | false => simp [Quiet]
      | true => simp [Quiet, perm_map_iff]
  | ignoredPath =>
      rw [sequence, Reconcile.ByContent.sequence_eq_nil_iff]
      simp only [Reconcile.remaining_eq_nil_iff]
      cases includeAdded with
      | false => simp [Quiet]
      | true => simp [Quiet, perm_map_iff]

/-- What a policy takes for the same. -/
abbrev Unchanged (policy : Policy) (current previous : Collection) : Prop :=
  policy.Quiet true current previous

theorem hasChanges_eq_false_iff (policy : Policy) (current previous : Collection) :
    policy.hasChanges current previous = false ↔ policy.Unchanged current previous := by
  rw [policy.hasChanges_eq current previous "", Bool.not_eq_false', List.isEmpty_iff]
  exact policy.sequence_eq_nil_iff_quiet true current previous ""

end Policy

end Drift
