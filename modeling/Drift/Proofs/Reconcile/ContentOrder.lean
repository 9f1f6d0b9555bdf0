import Drift.Proofs.Content
import Drift.Proofs.Reconcile.Remaining
import Drift.Proofs.Reconcile.Sequence

/-!
# The exact outcome by content

What a comparison by content offers, told without its map. Of each digest and type
as many loose entries go from either side as the smaller side has. The two sides
let go in different orders: current entries by fingerprint and path, previous ones
by path alone. What stays was added or removed, as often as one side has the digest
and type more than the other.
-/

namespace Drift

/-- Entries compare by digest, then by type, then by path. -/
def Entry.byContent : Entry → Entry → Ordering :=
  compareLex (orderBy (fun entry => entry.fingerprint.digest) Digest.order)
    (compareLex (orderBy (fun entry => entry.fingerprint.fileType) FileType.order)
      (orderBy path Text.order))

theorem Entry.compareLex_content_byPath :
    compareLex (orderBy (fun entry => entry.fingerprint.content) Content.order) byPath =
      byContent := by
  funext left right
  exact Ordering.then_assoc _ _ _

namespace Reconcile.ByContent

/-- The current entries that remain, by fingerprint and path. -/
def additions (current previous : Collection) : List Entry :=
  let order :=
    compareLex (orderBy Entry.fingerprint Fingerprint.order) (orderBy Entry.path Text.order)
  sorted order (remaining Fingerprint.digestAndType order current previous)

/-- The previous entries that remain, by digest, type and path. -/
def removals (current previous : Collection) : List Entry :=
  sorted Entry.byContent
    (remaining Fingerprint.digestAndType (orderBy Entry.path Text.order) previous current)

/-- The additions, if they are asked for, and then the removals. -/
def outcome (current previous : Collection) (title : String) (includeAdded : Bool) :
    List Change :=
  (if includeAdded then
    (additions current previous).map fun entry =>
      ⟨title, entry.path, entry.fingerprint.normalizedPath, .added entry.fingerprint.fileType⟩
  else
    []) ++
  (removals current previous).map fun entry =>
    ⟨title, entry.path, entry.fingerprint.normalizedPath, .removed entry.fingerprint.fileType⟩

variable (current previous : Collection)

theorem outcome_eq (title : String) (includeAdded : Bool) :
    outcome current previous title includeAdded =
      (if includeAdded then (additions current previous).map (Entry.added title) else []) ++
        (removals current previous).map (Entry.removed title) :=
  rfl

theorem accounted_fst_eq_additions :
    (accounted Fingerprint.content Content.order current previous).1 =
      additions current previous := by
  rw [accounted_fst_eq, remaining_congr Fingerprint.content_eq_iff, additions]

theorem toList_accounted_snd_eq_removals :
    (accounted Fingerprint.content Content.order current previous).2.toList =
      removals current previous := by
  rw [toList_accounted_snd, Entry.compareLex_content_byPath,
    remaining_congr Fingerprint.content_eq_iff, removals]

theorem reconciled_eq_outcome (title : String) (includeAdded : Bool) :
    reconciled current previous title includeAdded =
      outcome current previous title includeAdded := by
  rw [outcome_eq, ← accounted_fst_eq_additions, ← toList_accounted_snd_eq_removals]
  rfl

theorem sequence_eq_outcome (title : String) (includeAdded : Bool) :
    sequence current previous title includeAdded =
      outcome current previous title includeAdded := by
  rw [sequence]
  split
  · rename_i identical
    have perm := (current.identical_iff_perm previous).mp identical
    rw [outcome, additions, removals, remaining_eq_nil_of_perm _ _ perm,
      remaining_eq_nil_of_perm _ _ perm.symm, sorted_eq_nil_iff.mpr rfl,
      sorted_eq_nil_iff.mpr rfl]
    cases includeAdded <;> rfl
  · exact reconciled_eq_outcome current previous title includeAdded

/-- A comparison by content offers its outcome, in order, to an observer that
always goes on. Nothing in it is modified, and each digest and type was added or
removed as often as one side has it more than the other. -/
theorem compare_collecting_eq_additions_removals (current previous : Collection)
    (title : String) (includeAdded : Bool) :
    Policy.ignoredPath.compare .collecting #[] current previous title includeAdded =
        (true, (outcome current previous title includeAdded).toArray) ∧
      (∀ change ∈ outcome current previous title includeAdded, ∀ before after,
        change.alteration ≠ .modified before after) ∧
      ∀ pair : Digest × FileType,
        (additions current previous).countP
              (fun entry => entry.fingerprint.digestAndType = pair) =
            current.entries.countP (fun entry => entry.fingerprint.digestAndType = pair) -
              previous.entries.countP (fun entry => entry.fingerprint.digestAndType = pair) ∧
          (removals current previous).countP
              (fun entry => entry.fingerprint.digestAndType = pair) =
            previous.entries.countP (fun entry => entry.fingerprint.digestAndType = pair) -
              current.entries.countP fun entry => entry.fingerprint.digestAndType = pair := by
  refine ⟨?_, ?_, ?_⟩
  · rw [Policy.compare_collecting, Policy.sequence, sequence_eq_outcome]
  · intro change member before after
    rcases List.mem_append.mp member with added | removed
    · cases includeAdded with
      | false => simp at added
      | true =>
          obtain ⟨entry, -, rfl⟩ := List.mem_map.mp added
          exact Alteration.noConfusion
    · obtain ⟨entry, -, rfl⟩ := List.mem_map.mp removed
      exact Alteration.noConfusion
  · intro pair
    rw [additions, removals, (sorted_perm _ _).countP_eq, (sorted_perm _ _).countP_eq]
    exact ⟨countP_key_remaining _ _ current previous pair,
      countP_key_remaining _ _ previous current pair⟩

end Reconcile.ByContent

end Drift
