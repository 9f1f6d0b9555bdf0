import Drift.Proofs.CacheKey.Encoding
import Drift.Proofs.Reconcile.Unchanged

/-!
# Cache keys and comparisons

Two independent accounts of a state agree: what sorts and encodes it for a
cache key, and what compares it with another state.
-/

namespace Drift

namespace Policy

/-- Without changes, everything that goes into key material is the same. -/
theorem equivalent_of_unchanged {policy : Policy} {current previous : Collection}
    (unchanged : policy.Unchanged current previous) :
    policy.Equivalent (current.entries.map Entry.fingerprint)
      (previous.entries.map Entry.fingerprint) := by
  cases policy with
  | absolute => exact unchanged.map Entry.fingerprint
  | normalized => exact unchanged
  | ignoredPath =>
      rw [Equivalent, List.map_map, List.map_map]
      exact unchanged

/-- What goes into key material is all that a policy looks at, unless it looks at
absolute paths: they are not in the material. -/
theorem unchanged_of_equivalent {policy : Policy} {current previous : Collection}
    (relocatable : policy ≠ absolute)
    (equivalent : policy.Equivalent (current.entries.map Entry.fingerprint)
      (previous.entries.map Entry.fingerprint)) :
    policy.Unchanged current previous := by
  cases policy with
  | absolute => contradiction
  | normalized => exact equivalent
  | ignoredPath =>
      rw [Equivalent, List.map_map, List.map_map] at equivalent
      exact equivalent

end Policy

namespace Snapshot

/-- Snapshots of one policy without changes between them have the same key
material and hence the same key, whatever their titles. The other way round the
key material of policies that ignore absolute paths tells every change, as long
as the lengths of normalized paths fit their eight bytes. -/
theorem material_agrees (policy : Policy) (current previous : Collection)
    (title before : String) :
    (policy.hasChanges current previous = false →
      (Snapshot.mk title policy current).material =
        (Snapshot.mk before policy previous).material ∧
      (Snapshot.mk title policy current).key = (Snapshot.mk before policy previous).key) ∧
    (policy ≠ .absolute →
      (∀ fingerprint ∈ current.fingerprints, fingerprint.normalizedPath.utf8ByteSize < 2 ^ 64) →
      (∀ fingerprint ∈ previous.fingerprints,
        fingerprint.normalizedPath.utf8ByteSize < 2 ^ 64) →
      (Snapshot.mk title policy current).material =
        (Snapshot.mk before policy previous).material →
      policy.hasChanges current previous = false) := by
  constructor
  · intro quiet
    have unchanged := (policy.hasChanges_eq_false_iff current previous).mp quiet
    have equivalent :
        (Snapshot.mk title policy current).Equivalent (Snapshot.mk before policy previous) :=
      ⟨rfl, Policy.equivalent_of_unchanged unchanged⟩
    have materials := material_eq_of_equivalent equivalent
    exact ⟨materials, congrArg Digest.ofContent materials⟩
  · intro relocatable fitsCurrent fitsPrevious materials
    have equivalent := equivalent_of_material_eq (List.forall_mem_map.mp fitsCurrent)
      (List.forall_mem_map.mp fitsPrevious) materials
    apply (policy.hasChanges_eq_false_iff current previous).mpr
    exact Policy.unchanged_of_equivalent relocatable equivalent.2

/-- Two files under a new root, in another order and under another title. -/
theorem material_agrees_moved :
    let first : Fingerprint := ⟨"lib/a", .regularFile, ⟨.replicate 32 1, rfl⟩⟩
    let second : Fingerprint := ⟨"lib/b", .directory, ⟨.replicate 32 2, rfl⟩⟩
    let original : Collection := ⟨[⟨"/old/lib/a", first⟩, ⟨"/old/lib/b", second⟩], by decide⟩
    let moved : Collection := ⟨[⟨"/new/lib/b", second⟩, ⟨"/new/lib/a", first⟩], by decide⟩
    (∀ fingerprint ∈ moved.fingerprints, fingerprint.normalizedPath.utf8ByteSize < 2 ^ 64) ∧
      (∀ fingerprint ∈ original.fingerprints,
        fingerprint.normalizedPath.utf8ByteSize < 2 ^ 64) ∧
      (Snapshot.mk "Classpath" .normalized moved).material =
        (Snapshot.mk "Sources" .normalized original).material ∧
      Policy.normalized.hasChanges moved original = false := by
  intro first second original moved
  have fitsMoved : ∀ fingerprint ∈ moved.fingerprints,
      fingerprint.normalizedPath.utf8ByteSize < 2 ^ 64 := by decide
  have fitsOriginal : ∀ fingerprint ∈ original.fingerprints,
      fingerprint.normalizedPath.utf8ByteSize < 2 ^ 64 := by decide
  have quiet : Policy.normalized.hasChanges moved original = false :=
    (Policy.normalized.hasChanges_eq_false_iff moved original).mpr (.swap _ _ _)
  have agreement := material_agrees .normalized moved original "Classpath" "Sources"
  have materials := (agreement.1 quiet).1
  exact ⟨fitsMoved, fitsOriginal, materials,
    agreement.2 (by decide) fitsMoved fitsOriginal materials⟩

end Snapshot

end Drift
