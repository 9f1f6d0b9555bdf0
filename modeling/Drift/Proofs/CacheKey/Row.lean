import Drift.Proofs.CacheKey.Encoding
import Mathlib.Data.List.Forall2

/-!
# Rows of snapshots

Several snapshots go into one key by appending their material one after another.
Nothing marks where a snapshot ends: what follows its entries is either the
heading of the next snapshot or one more entry, and entries begin with a digest.
As long as no digest begins with a heading that could stand in its place, the two
cannot be taken for each other and a row can be read back. A digest that does
lets an entry pass from one snapshot to the next without a trace.
-/

namespace Drift

namespace Snapshot

/-- The material of several snapshots, one after another. -/
def rowMaterial (snapshots : List Snapshot) : List UInt8 :=
  snapshots.flatMap material

/-- No digest in the one row begins like a snapshot that has another one before it
in the other row. -/
def SetApart (left right : List Snapshot) : Prop :=
  ∀ snapshot ∈ left, ∀ fingerprint ∈ snapshot.collection.fingerprints,
    ∀ other ∈ right.tail, ¬ other.policy.heading <+: fingerprint.digest.bytes

instance (left right : List Snapshot) : Decidable (SetApart left right) :=
  inferInstanceAs (Decidable (∀ snapshot ∈ left, ∀ _ ∈ _, _))

theorem SetApart.tails {snapshot other : Snapshot} {rest others : List Snapshot}
    (apart : SetApart (snapshot :: rest) (other :: others)) : SetApart rest others :=
  fun later member fingerprint held follower following =>
    apart later (List.mem_cons_of_mem _ member) fingerprint held follower
      (List.mem_of_mem_tail following)

theorem SetApart.not_prefix {snapshot other : Snapshot} {rest others : List Snapshot}
    (apart : SetApart (snapshot :: rest) (other :: others)) {fingerprint : Fingerprint}
    (member : fingerprint ∈ snapshot.collection.fingerprints) :
    ¬ fingerprint.digest.bytes <+: rowMaterial others := by
  intro begins
  have length := fingerprint.digest.length_bytes
  cases others with
  | nil =>
      have nothing := List.prefix_nil.mp begins
      simp [nothing] at length
  | cons next others =>
      have heading : next.policy.heading <+: rowMaterial (next :: others) := by
        rw [rowMaterial, List.flatMap_cons, material_eq_heading_append, List.append_assoc]
        exact List.prefix_append _ _
      have shorter : next.policy.heading.length ≤ fingerprint.digest.bytes.length := by
        rw [length]
        cases next.policy <;> decide
      exact apart snapshot List.mem_cons_self fingerprint member next List.mem_cons_self
        (List.prefix_of_prefix_length_le heading begins shorter)

/-- The first snapshot of a row can be read off, and the rest of the row with
it. -/
theorem equivalent_of_material_append_eq {left right : Snapshot} {after others : List Snapshot}
    (fitsLeft : ∀ fingerprint ∈ left.collection.fingerprints,
      fingerprint.normalizedPath.utf8ByteSize < 2 ^ 64)
    (fitsRight : ∀ fingerprint ∈ right.collection.fingerprints,
      fingerprint.normalizedPath.utf8ByteSize < 2 ^ 64)
    (apartLeft : SetApart (left :: after) (right :: others))
    (apartRight : SetApart (right :: others) (left :: after))
    (equal : left.material ++ rowMaterial after = right.material ++ rowMaterial others) :
    left.Equivalent right ∧ rowMaterial after = rowMaterial others := by
  rw [material_eq_heading_append, material_eq_heading_append, List.append_assoc,
    List.append_assoc] at equal
  obtain ⟨policies, rest⟩ := Policy.heading_append_inj equal
  rw [← policies] at rest
  obtain ⟨equivalent, rows⟩ := Policy.equivalent_of_material_append_eq fitsLeft fitsRight
    (fun _ => apartRight.not_prefix) (fun _ => apartLeft.not_prefix) rest
  exact ⟨⟨policies, equivalent⟩, rows⟩

theorem rowMaterial_cons_ne_nil (snapshot : Snapshot) (rest : List Snapshot) :
    rowMaterial (snapshot :: rest) ≠ [] := by
  intro empty
  have heading := (List.append_eq_nil_iff.mp (List.append_eq_nil_iff.mp empty).1).1
  exact KeyMaterial.framed_text.nonempty snapshot.policy.identifier heading

/-- Rows of snapshots with the same material are the same, snapshot by snapshot,
in everything that goes into it, unless a digest of the one begins like a
snapshot of the other. -/
theorem equivalent_of_rowMaterial_eq {left right : List Snapshot}
    (fitsLeft : ∀ snapshot ∈ left, ∀ fingerprint ∈ snapshot.collection.fingerprints,
      fingerprint.normalizedPath.utf8ByteSize < 2 ^ 64)
    (fitsRight : ∀ snapshot ∈ right, ∀ fingerprint ∈ snapshot.collection.fingerprints,
      fingerprint.normalizedPath.utf8ByteSize < 2 ^ 64)
    (apartLeft : SetApart left right) (apartRight : SetApart right left)
    (equal : rowMaterial left = rowMaterial right) : List.Forall₂ Equivalent left right := by
  induction left generalizing right with
  | nil =>
      cases right with
      | nil => exact .nil
      | cons snapshot rest => exact absurd equal.symm (rowMaterial_cons_ne_nil snapshot rest)
  | cons snapshot rest ih =>
      cases right with
      | nil => exact absurd equal (rowMaterial_cons_ne_nil snapshot rest)
      | cons other others =>
          obtain ⟨fitsHere, fitsRest⟩ := List.forall_mem_cons.mp fitsLeft
          obtain ⟨fitsOther, fitsOthers⟩ := List.forall_mem_cons.mp fitsRight
          obtain ⟨equivalent, rows⟩ :=
            equivalent_of_material_append_eq fitsHere fitsOther apartLeft apartRight equal
          exact .cons equivalent (ih fitsRest fitsOthers apartLeft.tails apartRight.tails rows)

/-- Two properties whose root moved: the files of one were inserted the other way
round, and the file of the other was renamed where only contents count. -/
theorem equivalent_of_rowMaterial_eq_moved :
    let file (path name : String) (byte : UInt8) : Entry :=
      ⟨path, name, .regularFile, ⟨.replicate 32 byte, List.length_replicate⟩⟩
    let before : List Snapshot :=
      [⟨"Sources", .normalized, ⟨[file "/old/a" "a" 1, file "/old/b" "b" 2], by decide⟩⟩,
        ⟨"Classpath", .ignoredPath, ⟨[file "/old/c" "c" 3], by decide⟩⟩]
    let after : List Snapshot :=
      [⟨"Sources", .normalized, ⟨[file "/new/b" "b" 2, file "/new/a" "a" 1], by decide⟩⟩,
        ⟨"Libraries", .ignoredPath, ⟨[file "/new/d" "d" 3], by decide⟩⟩]
    (∀ snapshot ∈ before, ∀ fingerprint ∈ snapshot.collection.fingerprints,
        fingerprint.normalizedPath.utf8ByteSize < 2 ^ 64) ∧
      (∀ snapshot ∈ after, ∀ fingerprint ∈ snapshot.collection.fingerprints,
        fingerprint.normalizedPath.utf8ByteSize < 2 ^ 64) ∧
      SetApart before after ∧ SetApart after before ∧
      rowMaterial before = rowMaterial after ∧ List.Forall₂ Equivalent before after := by
  intro file before after
  have fitsBefore : ∀ snapshot ∈ before, ∀ fingerprint ∈ snapshot.collection.fingerprints,
      fingerprint.normalizedPath.utf8ByteSize < 2 ^ 64 := by decide
  have fitsAfter : ∀ snapshot ∈ after, ∀ fingerprint ∈ snapshot.collection.fingerprints,
      fingerprint.normalizedPath.utf8ByteSize < 2 ^ 64 := by decide
  have apartBefore : SetApart before after := by decide
  have apartAfter : SetApart after before := by decide
  have equal : rowMaterial before = rowMaterial after := by
    have sources : Policy.normalized.Equivalent
        [(file "/old/a" "a" 1).fingerprint, (file "/old/b" "b" 2).fingerprint]
        [(file "/new/b" "b" 2).fingerprint, (file "/new/a" "a" 1).fingerprint] := .swap _ _ _
    have libraries : Policy.ignoredPath.Equivalent [(file "/old/c" "c" 3).fingerprint]
        [(file "/new/d" "d" 3).fingerprint] := .refl _
    simp only [before, after, rowMaterial, List.flatMap_cons, material_eq_heading_append,
      List.map_cons, List.map_nil, Policy.material_eq_of_equivalent sources,
      Policy.material_eq_of_equivalent libraries]
  exact ⟨fitsBefore, fitsAfter, apartBefore, apartAfter, equal,
    equivalent_of_rowMaterial_eq fitsBefore fitsAfter apartBefore apartAfter equal⟩

/-- One file in the first of two properties that compare by path, and another
file in the second of them: the digest of the one begins with the heading that
follows it for the other. -/
theorem rowMaterial_ambiguous :
    let first : Fingerprint := ⟨"library\x00\x10\x00\x00\x00\x00\x00\x00\x00", .regularFile,
      ⟨Policy.absolute.heading ++ .replicate 16 0, by decide⟩⟩
    let second : Fingerprint := ⟨"\x08\x00\x00\x00\x00\x00\x00\x00absolute", .regularFile,
      ⟨.replicate 17 0 ++ KeyMaterial.littleEndian 8 16 ++ Text.utf8 "library", by decide⟩⟩
    let inFirst : List Snapshot :=
      [⟨"Sources", .absolute, ⟨[⟨"/src/a", first⟩], by decide⟩⟩, .empty "Classpath" .absolute]
    let inSecond : List Snapshot :=
      [.empty "Sources" .absolute, ⟨"Classpath", .absolute, ⟨[⟨"/src/b", second⟩], by decide⟩⟩]
    (∀ snapshot ∈ inFirst, ∀ fingerprint ∈ snapshot.collection.fingerprints,
        fingerprint.normalizedPath.utf8ByteSize < 2 ^ 64) ∧
      (∀ snapshot ∈ inSecond, ∀ fingerprint ∈ snapshot.collection.fingerprints,
        fingerprint.normalizedPath.utf8ByteSize < 2 ^ 64) ∧
      rowMaterial inFirst = rowMaterial inSecond ∧
      ¬ List.Forall₂ Equivalent inFirst inSecond := by
  intro first second inFirst inSecond
  have passed : first.material ++ Policy.absolute.heading =
      Policy.absolute.heading ++ second.material := by decide
  refine ⟨by decide, by decide, ?_, ?_⟩
  · calc rowMaterial inFirst
        = Policy.absolute.heading ++ (first.material ++ Policy.absolute.heading) := by
          simp [inFirst, rowMaterial, material_eq_heading_append, empty, Policy.material,
            Collection.empty]
      _ = Policy.absolute.heading ++ (Policy.absolute.heading ++ second.material) := by
          rw [passed]
      _ = rowMaterial inSecond := by
          simp [inSecond, rowMaterial, material_eq_heading_append, empty, Policy.material,
            Collection.empty]
  · intro same
    have perm : [first].Perm [] := (List.forall₂_cons.mp same).1.2
    simp at perm

end Snapshot

end Drift
