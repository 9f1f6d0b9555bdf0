import Drift.Proofs.Reconcile.Unchanged

/-!
# When nothing is told

A policy that looks at less tells nothing whenever one does that looks at more,
with additions or without them. To have nothing to tell between them, additions
included, is an equivalence of states under each policy.
-/

namespace Drift

namespace Policy

namespace Quiet

variable {includeAdded : Bool} {current previous : Collection}

theorem normalized_of_absolute (quiet : absolute.Quiet includeAdded current previous) :
    normalized.Quiet includeAdded current previous := by
  cases includeAdded with
  | true => exact quiet.map Entry.fingerprint
  | false =>
      intro fingerprint
      exact (List.subperm_of_subset previous.nodup_entries quiet).countP_le _

theorem ignoredPath_of_normalized (quiet : normalized.Quiet includeAdded current previous) :
    ignoredPath.Quiet includeAdded current previous := by
  cases includeAdded with
  | true =>
      have pairs := quiet.map Fingerprint.digestAndType
      rwa [List.map_map, List.map_map] at pairs
  | false =>
      intro pair
      have part := (subperm_map_iff Entry.fingerprint).mpr quiet
      have counts := part.countP_le fun fingerprint => decide (fingerprint.digestAndType = pair)
      rwa [List.countP_map, List.countP_map] at counts

end Quiet

theorem equivalence_unchanged (policy : Policy) : Equivalence policy.Unchanged := by
  cases policy <;>
    exact ⟨fun _ => .refl _, fun same => same.symm, fun same other => same.trans other⟩

/-- A comparison tells nothing to an observer that always goes on exactly if its
two states are quiet. So what tells nothing by path tells nothing by name, and
what tells nothing by name tells nothing by content; and having no changes
between them is an equivalence of states. -/
theorem changes_eq_nil_iff_quiet (title : String) :
    (∀ (policy : Policy) (includeAdded : Bool) (current previous : Collection),
      policy.changes current previous title includeAdded = [] ↔
        policy.Quiet includeAdded current previous) ∧
    (∀ (includeAdded : Bool) (current previous : Collection),
      (absolute.changes current previous title includeAdded = [] →
        normalized.changes current previous title includeAdded = []) ∧
      (normalized.changes current previous title includeAdded = [] →
        ignoredPath.changes current previous title includeAdded = [])) ∧
    ∀ policy : Policy,
      Equivalence fun current previous : Collection =>
        policy.hasChanges current previous = false := by
  refine ⟨?_, ?_, ?_⟩
  · intro policy includeAdded current previous
    rw [changes_eq_sequence]
    exact policy.sequence_eq_nil_iff_quiet includeAdded current previous title
  · intro includeAdded current previous
    simp only [changes_eq_sequence, sequence_eq_nil_iff_quiet]
    exact ⟨Quiet.normalized_of_absolute, Quiet.ignoredPath_of_normalized⟩
  · intro policy
    simp only [hasChanges_eq_false_iff]
    exact policy.equivalence_unchanged

/-- Two files under a new root: their names and contents are still there, their
paths are not. -/
theorem changes_eq_nil_iff_quiet_moved :
    let first : Fingerprint := ⟨"lib/a", .regularFile, ⟨.replicate 32 1, rfl⟩⟩
    let second : Fingerprint := ⟨"lib/b", .directory, ⟨.replicate 32 2, rfl⟩⟩
    let original : Collection := ⟨[⟨"/old/lib/a", first⟩, ⟨"/old/lib/b", second⟩], by decide⟩
    let moved : Collection := ⟨[⟨"/new/lib/b", second⟩, ⟨"/new/lib/a", first⟩], by decide⟩
    normalized.changes moved original "Sources" true = [] ∧
      ignoredPath.changes moved original "Sources" true = [] ∧
      absolute.changes moved original "Sources" false ≠ [] := by
  intro first second original moved
  have facts := changes_eq_nil_iff_quiet "Sources"
  have silent := (facts.1 normalized true moved original).mpr (.swap _ _ _)
  refine ⟨silent, (facts.2.1 true moved original).2 silent, ?_⟩
  intro nothing
  have kept := (facts.1 absolute false moved original).mp nothing List.mem_cons_self
  exact absurd kept (by decide)

end Policy

end Drift
