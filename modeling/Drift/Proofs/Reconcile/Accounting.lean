import Drift.Proofs.Reconcile.Buckets
import Drift.Reconcile.Accounting
import Mathlib.Data.List.Perm.Basic

/-!
# What accounting leaves

Settled entries come in pairs, one of each side at the same path, so they change
no difference between the sides. What one side has unsettled of a key more than
the other one is therefore its surplus in the collections as a whole, whatever
the paths are.
-/

namespace Drift

namespace Collection

theorem nodup_entries (collection : Collection) : collection.entries.Nodup :=
  List.Nodup.of_map Entry.path collection.nodup_paths

/-- A collection holds an entry if it holds its fingerprint at its path. -/
theorem get?_path_eq_some_iff {collection : Collection} {entry : Entry} :
    collection.get? entry.path = some entry.fingerprint ↔ entry ∈ collection.entries :=
  get?_eq_some_iff

theorem perm_of_subset {left right : Collection} (sizes : left.size = right.size)
    (included : left.entries ⊆ right.entries) : left.entries.Perm right.entries :=
  (List.subperm_of_subset left.nodup_entries included).perm_of_length_le
    (Nat.le_of_eq sizes.symm)

/-- Collections are identical if they have the same entries in any order. -/
theorem identical_iff_perm (left right : Collection) :
    left.identical right = true ↔ left.entries.Perm right.entries := by
  simp only [identical, Bool.and_eq_true, beq_iff_eq, List.all_eq_true, getElem?_index,
    get?_path_eq_some_iff]
  constructor
  · rintro ⟨sizes, inside⟩
    exact perm_of_subset sizes inside
  · intro perm
    exact ⟨perm.length_eq, perm.subset⟩

end Collection

namespace Reconcile

variable {κ : Type u} [DecidableEq κ] (key : Fingerprint → κ)

/-- Entries of a collection for which another one holds something with an equal
key at the same path. -/
def settled (own other : Collection) : List Entry :=
  own.entries.filter fun entry => (other.get? entry.path).map key = some (key entry.fingerprint)

theorem mem_settled {own other : Collection} {entry : Entry} :
    entry ∈ settled key own other ↔ entry ∈ own.entries ∧
      ∃ old, ⟨entry.path, old⟩ ∈ other.entries ∧ key old = key entry.fingerprint := by
  simp [settled, Collection.get?_eq_some_iff]

theorem unsettled_eq (own other : Collection) :
    unsettled key own other = own.entries.filter fun entry =>
      (other.get? entry.path).map key ≠ some (key entry.fingerprint) := by
  simp only [unsettled, Collection.getElem?_index]

theorem entries_perm (own other : Collection) :
    own.entries.Perm (settled key own other ++ unsettled key own other) := by
  simp only [settled, unsettled_eq, ne_eq, decide_not]
  exact (List.filter_append_perm _ _).symm

theorem distinct_unsettled (own other : Collection) :
    ((unsettled key own other).map Entry.path).Nodup := by
  rw [unsettled_eq]
  exact own.nodup_paths.sublist (List.filter_sublist.map _)

/-- Settled entries of both sides agree in their paths and keys. -/
theorem settled_perm (own other : Collection) :
    ((settled key own other).map fun entry => (entry.path, key entry.fingerprint)).Perm
      ((settled key other own).map fun entry => (entry.path, key entry.fingerprint)) := by
  have distinct (own other : Collection) :
      ((settled key own other).map fun entry => (entry.path, key entry.fingerprint)).Nodup := by
    apply List.Nodup.of_map Prod.fst
    rw [List.map_map]
    exact own.nodup_paths.sublist (List.filter_sublist.map _)
  have included (own other : Collection) (value : String × κ)
      (member : value ∈ (settled key own other).map fun entry =>
        (entry.path, key entry.fingerprint)) :
      value ∈ (settled key other own).map fun entry => (entry.path, key entry.fingerprint) := by
    obtain ⟨entry, inside, rfl⟩ := List.mem_map.mp member
    obtain ⟨mine, old, theirs, same⟩ := (mem_settled key).mp inside
    apply List.mem_map.mpr
    refine ⟨⟨entry.path, old⟩, ?_, by simp [same]⟩
    exact (mem_settled key).mpr ⟨theirs, entry.fingerprint, mine, same.symm⟩
  apply (List.perm_ext_iff_of_nodup (distinct own other) (distinct other own)).mpr
  intro value
  exact ⟨included own other value, included other own value⟩

theorem settled_self_perm (own other : Collection) :
    (settled Fingerprint.self own other).Perm (settled Fingerprint.self other own) := by
  have injective : Function.Injective fun entry : Entry => (entry.path, entry.fingerprint) := by
    intro left right equal
    exact Entry.ext (congrArg Prod.fst equal) (congrArg Prod.snd equal)
  exact (List.map_perm_map_iff injective).mp (settled_perm Fingerprint.self own other)

/-- The surplus of unsettled entries of a key is that of all entries. -/
theorem countP_unsettled_sub (own other : Collection) (value : κ) :
    (unsettled key own other).countP (fun entry => key entry.fingerprint = value) -
        (unsettled key other own).countP (fun entry => key entry.fingerprint = value) =
      own.entries.countP (fun entry => key entry.fingerprint = value) -
        other.entries.countP (fun entry => key entry.fingerprint = value) := by
  have paired : (settled key own other).countP (fun entry => key entry.fingerprint = value) =
      (settled key other own).countP (fun entry => key entry.fingerprint = value) := by
    have counts := (settled_perm key own other).countP_eq fun pair => decide (pair.2 = value)
    simpa [List.countP_map, Function.comp_def] using counts
  have mine := (entries_perm key own other).countP_eq
    fun entry => decide (key entry.fingerprint = value)
  have theirs := (entries_perm key other own).countP_eq
    fun entry => decide (key entry.fingerprint = value)
  rw [List.countP_append] at mine theirs
  omega

end Reconcile

end Drift
