import Drift.Proofs.Content
import Drift.Proofs.KeyMaterial
import Drift.Snapshot

/-!
# Faithful encodings

Key material tells exactly what a policy looks at: the fingerprints, or their
digests and types, each as often as it occurs and in no order. A snapshot's
material tells its policy besides. Digests and types need no bound for this; lengths
of normalized paths have to fit the eight bytes they are written in.
-/

namespace Drift

namespace Policy

/-- Fingerprints that are the same, each as often as it occurs, in everything
that a policy puts into key material. -/
def Equivalent (policy : Policy) (left right : List Fingerprint) : Prop :=
  match policy with
  | absolute | normalized => left.Perm right
  | ignoredPath =>
      (left.map Fingerprint.digestAndType).Perm (right.map Fingerprint.digestAndType)

/-- The bytes with which the material of a snapshot begins. -/
def heading (policy : Policy) : List UInt8 := KeyMaterial.text policy.identifier

theorem identifier_inj {left right : Policy} (equal : left.identifier = right.identifier) :
    left = right := by
  have named := congrArg ofIdentifier? equal
  simpa using named

theorem heading_append_inj {left right : Policy} {after others : List UInt8}
    (equal : left.heading ++ after = right.heading ++ others) :
    left = right ∧ after = others := by
  have fits (policy : Policy) : policy.identifier.utf8ByteSize < 2 ^ 64 := by
    cases policy <;> decide
  obtain ⟨identifiers, rest⟩ := KeyMaterial.framed_text.parted (fits left) (fits right) equal
  exact ⟨identifier_inj identifiers, rest⟩

variable {policy : Policy} {left right : List Fingerprint}

theorem equivalent_of_perm (policy : Policy) (perm : left.Perm right) :
    policy.Equivalent left right := by
  cases policy with
  | absolute => exact perm
  | normalized => exact perm
  | ignoredPath => exact perm.map Fingerprint.digestAndType

/-- Whatever sorts them, fingerprints that are the same for a policy have the same
material. -/
theorem material_eq_of_equivalent {sorter : Sorter}
    (equivalent : policy.Equivalent left right) :
    policy.material left sorter = policy.material right := by
  cases policy with
  | absolute => exact Fingerprint.materialOfAll_eq_of_perm equivalent
  | normalized => exact Fingerprint.materialOfAll_eq_of_perm equivalent
  | ignoredPath =>
      exact Content.materialOfAll_eq_of_perm (Fingerprint.map_content_perm_iff.mpr equivalent)

section Reading

variable (fitsLeft : ∀ fingerprint ∈ left, fingerprint.normalizedPath.utf8ByteSize < 2 ^ 64)
variable (fitsRight : ∀ fingerprint ∈ right, fingerprint.normalizedPath.utf8ByteSize < 2 ^ 64)

include fitsLeft fitsRight

/-- What a policy puts into key material can be read back, also from what begins
with it, as long as the rest does not begin with one of the digests. -/
theorem equivalent_of_material_append_eq {after others : List UInt8}
    (endsAfter : ∀ fingerprint ∈ right, ¬ fingerprint.digest.bytes <+: after)
    (endsOthers : ∀ fingerprint ∈ left, ¬ fingerprint.digest.bytes <+: others)
    (equal : policy.material left ++ after = policy.material right ++ others) :
    policy.Equivalent left right ∧ after = others := by
  have content (fingerprint : Fingerprint) :
      fingerprint.digest.bytes <+: fingerprint.content.material :=
    List.prefix_append _ _
  have whole (fingerprint : Fingerprint) : fingerprint.digest.bytes <+: fingerprint.material :=
    (content fingerprint).trans (List.prefix_append _ _)
  have fingerprints (same : Fingerprint.materialOfAll left ++ after =
      Fingerprint.materialOfAll right ++ others) : left.Perm right ∧ after = others :=
    Fingerprint.framed_material.perm_of_flatMap_sorted_append_eq fitsLeft fitsRight
      (fun fingerprint member begins =>
        endsAfter fingerprint member ((whole fingerprint).trans begins))
      (fun fingerprint member begins =>
        endsOthers fingerprint member ((whole fingerprint).trans begins)) same
  cases policy with
  | absolute => exact fingerprints equal
  | normalized => exact fingerprints equal
  | ignoredPath =>
      refine And.imp_left Fingerprint.map_content_perm_iff.mp
        (Content.framed_material.perm_of_flatMap_sorted_append_eq (fun _ _ => trivial)
          (fun _ _ => trivial) ?_ ?_ equal)
      · intro _ member begins
        obtain ⟨fingerprint, inside, rfl⟩ := List.mem_map.mp member
        exact endsAfter fingerprint inside ((content fingerprint).trans begins)
      · intro _ member begins
        obtain ⟨fingerprint, inside, rfl⟩ := List.mem_map.mp member
        exact endsOthers fingerprint inside ((content fingerprint).trans begins)

theorem material_eq_iff_equivalent :
    policy.material left = policy.material right ↔ policy.Equivalent left right := by
  have ends (digest : Digest) : ¬ digest.bytes <+: [] := by
    rw [List.prefix_nil, ← List.length_eq_zero_iff, digest.length_bytes]
    decide
  constructor
  · intro equal
    exact (equivalent_of_material_append_eq fitsLeft fitsRight (fun _ _ => ends _)
      (fun _ _ => ends _) (congrArg (· ++ []) equal)).1
  · exact material_eq_of_equivalent

end Reading

end Policy

namespace Snapshot

/-- Snapshots that are the same in everything that goes into key material. -/
def Equivalent (left right : Snapshot) : Prop :=
  left.policy = right.policy ∧
    left.policy.Equivalent (left.collection.entries.map Entry.fingerprint)
      (right.collection.entries.map Entry.fingerprint)

theorem material_eq_heading_append (snapshot : Snapshot) :
    snapshot.material =
      snapshot.policy.heading ++
        snapshot.policy.material (snapshot.collection.entries.map Entry.fingerprint) :=
  rfl

variable {left right : Snapshot}

theorem material_eq_of_equivalent (equivalent : left.Equivalent right) :
    left.material = right.material := by
  obtain ⟨policies, equivalent⟩ := equivalent
  rw [material_eq_heading_append, material_eq_heading_append, ← policies,
    Policy.material_eq_of_equivalent equivalent]

theorem equivalent_of_material_eq
    (fitsLeft : ∀ entry ∈ left.collection.entries,
      entry.fingerprint.normalizedPath.utf8ByteSize < 2 ^ 64)
    (fitsRight : ∀ entry ∈ right.collection.entries,
      entry.fingerprint.normalizedPath.utf8ByteSize < 2 ^ 64)
    (equal : left.material = right.material) : left.Equivalent right := by
  rw [material_eq_heading_append, material_eq_heading_append] at equal
  obtain ⟨policies, materials⟩ := Policy.heading_append_inj equal
  rw [← policies] at materials
  exact ⟨policies, (Policy.material_eq_iff_equivalent (List.forall_mem_map.mpr fitsLeft)
    (List.forall_mem_map.mpr fitsRight)).mp materials⟩

/-- Key material of fingerprints is the same exactly for the same fingerprints,
that of contents for the same digests and types, and that of snapshots for the
same policy and the same of what it looks at. Order plays no part and multiplicity
does. -/
theorem encodings_faithful :
    (∀ left right : List Fingerprint,
      (∀ fingerprint ∈ left, fingerprint.normalizedPath.utf8ByteSize < 2 ^ 64) →
      (∀ fingerprint ∈ right, fingerprint.normalizedPath.utf8ByteSize < 2 ^ 64) →
      (Fingerprint.materialOfAll left = Fingerprint.materialOfAll right ↔ left.Perm right)) ∧
    (∀ left right : List Fingerprint,
      Content.materialOfAll (left.map Fingerprint.content) =
          Content.materialOfAll (right.map Fingerprint.content) ↔
        (left.map Fingerprint.digestAndType).Perm (right.map Fingerprint.digestAndType)) ∧
    ∀ left right : Snapshot,
      (∀ entry ∈ left.collection.entries,
        entry.fingerprint.normalizedPath.utf8ByteSize < 2 ^ 64) →
      (∀ entry ∈ right.collection.entries,
        entry.fingerprint.normalizedPath.utf8ByteSize < 2 ^ 64) →
      (left.material = right.material ↔ left.Equivalent right) := by
  refine ⟨?_, ?_, ?_⟩
  · intro left right fitsLeft fitsRight
    exact ⟨Fingerprint.perm_of_materialOfAll_eq fitsLeft fitsRight,
      Fingerprint.materialOfAll_eq_of_perm⟩
  · intro left right
    rw [← Fingerprint.map_content_perm_iff]
    exact ⟨Content.perm_of_materialOfAll_eq, Content.materialOfAll_eq_of_perm⟩
  · intro left right fitsLeft fitsRight
    exact ⟨equivalent_of_material_eq fitsLeft fitsRight, material_eq_of_equivalent⟩

/-- A renamed file goes unnoticed where only contents count, and a second copy of
it shows where fingerprints do. -/
theorem encodings_faithful_renamed :
    let named (name : String) : Fingerprint := ⟨name, .regularFile, ⟨.replicate 32 7, rfl⟩⟩
    let before : Snapshot := ⟨"Sources", .ignoredPath, ⟨[⟨"/old/a", named "a"⟩], by decide⟩⟩
    let after : Snapshot := ⟨"Sources", .ignoredPath, ⟨[⟨"/new/b", named "b"⟩], by decide⟩⟩
    (∀ entry ∈ before.collection.entries,
        entry.fingerprint.normalizedPath.utf8ByteSize < 2 ^ 64) ∧
      (∀ entry ∈ after.collection.entries,
        entry.fingerprint.normalizedPath.utf8ByteSize < 2 ^ 64) ∧
      before.material = after.material ∧
      Fingerprint.materialOfAll [named "a", named "a"] ≠
        Fingerprint.materialOfAll [named "a"] := by
  intro named before after
  have fitsBefore : ∀ entry ∈ before.collection.entries,
      entry.fingerprint.normalizedPath.utf8ByteSize < 2 ^ 64 := by decide
  have fitsAfter : ∀ entry ∈ after.collection.entries,
      entry.fingerprint.normalizedPath.utf8ByteSize < 2 ^ 64 := by decide
  obtain ⟨fingerprints, -, snapshots⟩ := encodings_faithful
  have moved : before.Equivalent after := ⟨rfl, .refl _⟩
  refine ⟨fitsBefore, fitsAfter, (snapshots before after fitsBefore fitsAfter).mpr moved, ?_⟩
  intro equal
  have perm := (fingerprints [named "a", named "a"] [named "a"] (by decide)
    (by decide)).mp equal
  exact absurd perm.length_eq (by decide)

end Snapshot

end Drift
