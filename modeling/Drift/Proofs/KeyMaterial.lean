import Drift.CacheKey
import Mathlib.Algebra.Group.Nat.Defs

/-!
# Reading key material back

Key material has no separators and no counts. It can be read back all the same:
contents have a fixed width, texts stand behind their lengths, and so the bytes
that follow a value never change where it ends. Lengths are written with eight
bytes, which is why texts have to be shorter than that allows.
-/

namespace Drift

namespace KeyMaterial

theorem littleEndian_inj {count left right : Nat} (boundLeft : left < 256 ^ count)
    (boundRight : right < 256 ^ count)
    (equal : littleEndian count left = littleEndian count right) : left = right := by
  induction count generalizing left right with
  | zero => omega
  | succ count ih =>
      rw [littleEndian, littleEndian] at equal
      obtain ⟨lowest, others⟩ := List.cons.inj equal
      have low : left % 256 = right % 256 := by
        have bytes := congrArg UInt8.toNat lowest
        simpa using bytes
      have high : left / 256 = right / 256 := by
        apply ih _ _ others
        · rw [Nat.pow_succ] at boundLeft
          omega
        · rw [Nat.pow_succ] at boundRight
          omega
      omega

/-- An encoding of some values whose ends show without a separator. -/
structure Framed {α : Type u} (encode : α → List UInt8) (fits : α → Prop) : Prop where
  nonempty : ∀ value, encode value ≠ []
  parted : ∀ {left right : α}, fits left → fits right → ∀ {after others : List UInt8},
    encode left ++ after = encode right ++ others → left = right ∧ after = others

/-- Framed values can be read back from a row of them and what follows it, as
long as what follows does not begin like one more of them. -/
theorem Framed.eq_of_flatMap_append_eq {α : Type u} {encode : α → List UInt8}
    {fits : α → Prop} (framed : Framed encode fits) {left right : List α}
    (fitsLeft : ∀ value ∈ left, fits value) (fitsRight : ∀ value ∈ right, fits value)
    {after others : List UInt8}
    (endsAfter : ∀ value ∈ right, ¬ encode value <+: after)
    (endsOthers : ∀ value ∈ left, ¬ encode value <+: others)
    (equal : left.flatMap encode ++ after = right.flatMap encode ++ others) :
    left = right ∧ after = others := by
  induction left generalizing right with
  | nil =>
      cases right with
      | nil => exact ⟨rfl, equal⟩
      | cons value rest =>
          have begins : encode value <+: after :=
            ⟨rest.flatMap encode ++ others, by simpa using equal.symm⟩
          exact absurd begins (endsAfter value List.mem_cons_self)
  | cons value rest ih =>
      cases right with
      | nil =>
          have begins : encode value <+: others :=
            ⟨rest.flatMap encode ++ after, by simpa using equal⟩
          exact absurd begins (endsOthers value List.mem_cons_self)
      | cons other more =>
          obtain ⟨fitsValue, fitsRest⟩ := List.forall_mem_cons.mp fitsLeft
          obtain ⟨fitsOther, fitsMore⟩ := List.forall_mem_cons.mp fitsRight
          rw [List.flatMap_cons, List.flatMap_cons, List.append_assoc,
            List.append_assoc] at equal
          obtain ⟨same, later⟩ := framed.parted fitsValue fitsOther equal
          obtain ⟨rows, tails⟩ := ih fitsRest fitsMore (List.forall_mem_cons.mp endsAfter).2
            (List.forall_mem_cons.mp endsOthers).2 later
          exact ⟨by rw [same, rows], tails⟩

theorem Framed.not_prefix_nil {α : Type u} {encode : α → List UInt8} {fits : α → Prop}
    (framed : Framed encode fits) (value : α) : ¬ encode value <+: [] := by
  rw [List.prefix_nil]
  exact framed.nonempty value

theorem Framed.flatMap_eq_iff {α : Type u} {encode : α → List UInt8} {fits : α → Prop}
    (framed : Framed encode fits) {left right : List α} (fitsLeft : ∀ value ∈ left, fits value)
    (fitsRight : ∀ value ∈ right, fits value) :
    left.flatMap encode = right.flatMap encode ↔ left = right := by
  constructor
  · intro equal
    exact (framed.eq_of_flatMap_append_eq fitsLeft fitsRight
      (fun value _ => framed.not_prefix_nil value) (fun value _ => framed.not_prefix_nil value)
      (congrArg (· ++ []) equal)).1
  · exact congrArg (List.flatMap encode)

theorem Framed.append_eq_iff {α : Type u} {encode : α → List UInt8} {fits : α → Prop}
    (framed : Framed encode fits) {left right : α} (fitsLeft : fits left)
    (fitsRight : fits right) {after others : List UInt8} :
    encode left ++ after = encode right ++ others ↔ left = right ∧ after = others := by
  constructor
  · exact framed.parted fitsLeft fitsRight
  · rintro ⟨rfl, rfl⟩
    rfl

/-- Read back from sorted rows, framed values are the same up to their order. -/
theorem Framed.perm_of_flatMap_sorted_append_eq {α : Type u} {encode : α → List UInt8}
    {fits : α → Prop} (framed : Framed encode fits) {compare : α → α → Ordering}
    {left right : List α} (fitsLeft : ∀ value ∈ left, fits value)
    (fitsRight : ∀ value ∈ right, fits value) {after others : List UInt8}
    (endsAfter : ∀ value ∈ right, ¬ encode value <+: after)
    (endsOthers : ∀ value ∈ left, ¬ encode value <+: others)
    (equal : (sorted compare left).flatMap encode ++ after =
      (sorted compare right).flatMap encode ++ others) :
    left.Perm right ∧ after = others := by
  obtain ⟨rows, tails⟩ := framed.eq_of_flatMap_append_eq
    (fun value member => fitsLeft value (mem_sorted.mp member))
    (fun value member => fitsRight value (mem_sorted.mp member))
    (fun value member => endsAfter value (mem_sorted.mp member))
    (fun value member => endsOthers value (mem_sorted.mp member)) equal
  exact ⟨(sorted_perm compare left).symm.trans (rows ▸ sorted_perm compare right), tails⟩

theorem Framed.perm_of_flatMap_sorted_eq {α : Type u} {encode : α → List UInt8}
    {fits : α → Prop} (framed : Framed encode fits) {compare : α → α → Ordering}
    {left right : List α} (fitsLeft : ∀ value ∈ left, fits value)
    (fitsRight : ∀ value ∈ right, fits value)
    (equal : (sorted compare left).flatMap encode = (sorted compare right).flatMap encode) :
    left.Perm right :=
  (framed.perm_of_flatMap_sorted_append_eq fitsLeft fitsRight
    (fun value _ => framed.not_prefix_nil value) (fun value _ => framed.not_prefix_nil value)
    (congrArg (· ++ []) equal)).1

theorem framed_text : Framed text fun value => value.utf8ByteSize < 2 ^ 64 where
  nonempty value empty := by
    have nothing := congrArg List.length (List.append_eq_nil_iff.mp empty).1
    simp at nothing
  parted {left right} fitsLeft fitsRight {after others} equal := by
    rw [text, text, List.append_assoc, List.append_assoc] at equal
    obtain ⟨lengths, rest⟩ := List.append_inj equal (by simp)
    have sizes := littleEndian_inj (by simpa using fitsLeft) (by simpa using fitsRight) lengths
    obtain ⟨bytes, same⟩ := List.append_inj rest (by simpa using sizes)
    exact ⟨Text.utf8_inj.mp bytes, same⟩

/-- Texts behind their lengths cannot run together: a row of them is determined by
its bytes, and the bytes that begin with a text determine both the text and what
follows it. -/
theorem text_separates :
    (∀ left right : List String, (∀ value ∈ left, value.utf8ByteSize < 2 ^ 64) →
      (∀ value ∈ right, value.utf8ByteSize < 2 ^ 64) →
        (left.flatMap text = right.flatMap text ↔ left = right)) ∧
    ∀ (first second : String) (after others : List UInt8), first.utf8ByteSize < 2 ^ 64 →
      second.utf8ByteSize < 2 ^ 64 →
        (text first ++ after = text second ++ others ↔ first = second ∧ after = others) := by
  constructor
  · intro left right fitsLeft fitsRight
    exact framed_text.flatMap_eq_iff fitsLeft fitsRight
  · intro first second after others fitsFirst fitsSecond
    exact framed_text.append_eq_iff fitsFirst fitsSecond

/-- A letter does not pass from one text to the next, nor does a text that looks
like the length of another one. -/
theorem text_separates_letters :
    ((∀ value ∈ ["ab", "c"], value.utf8ByteSize < 2 ^ 64) ∧
      (∀ value ∈ ["a", "bc"], value.utf8ByteSize < 2 ^ 64) ∧
      ["ab", "c"].flatMap text ≠ ["a", "bc"].flatMap text) ∧
    let length : String := "\x01\x00\x00\x00\x00\x00\x00\x00"
    length.utf8ByteSize < 2 ^ 64 ∧ "".utf8ByteSize < 2 ^ 64 ∧
      ∀ after, text length ++ after ≠ text "" ++ Text.utf8 length ++ after := by
  obtain ⟨rows, texts⟩ := text_separates
  refine ⟨⟨by decide, by decide, ?_⟩, by decide, by decide, ?_⟩
  · rw [ne_eq, rows _ _ (by decide) (by decide)]
    decide
  · intro after
    rw [List.append_assoc, ne_eq, texts _ _ _ _ (by decide) (by decide)]
    rintro ⟨same, -⟩
    exact absurd same (by decide)

end KeyMaterial

open KeyMaterial

theorem Content.framed_material : Framed material fun _ => True where
  nonempty content empty := by
    have nothing := (List.append_eq_nil_iff.mp empty).2
    exact List.cons_ne_nil _ _ nothing
  parted {left right} _ _ {after others} equal := by
    rw [material, material, List.append_assoc, List.append_assoc] at equal
    have widths : left.digest.bytes.length = right.digest.bytes.length := by
      rw [left.digest.length_bytes, right.digest.length_bytes]
    obtain ⟨digests, rest⟩ := List.append_inj equal widths
    obtain ⟨tags, same⟩ := List.cons.inj rest
    exact ⟨Content.ext (Digest.ext digests) (FileType.tag_inj.mp tags), same⟩

theorem Fingerprint.framed_material :
    Framed material fun fingerprint => fingerprint.normalizedPath.utf8ByteSize < 2 ^ 64 where
  nonempty fingerprint empty :=
    Content.framed_material.nonempty fingerprint.content (List.append_eq_nil_iff.mp empty).1
  parted {left right} fitsLeft fitsRight {after others} equal := by
    rw [material, material, List.append_assoc, List.append_assoc] at equal
    obtain ⟨contents, rest⟩ := Content.framed_material.parted trivial trivial equal
    obtain ⟨paths, same⟩ := framed_text.parted fitsLeft fitsRight rest
    obtain ⟨digests, fileTypes⟩ := Content.mk.inj contents
    exact ⟨Fingerprint.ext paths fileTypes digests, same⟩

@[simp] theorem Fingerprint.materialOfAll_nil : materialOfAll [] = [] := by
  simp [materialOfAll, sorted]

@[simp] theorem Fingerprint.materialOfAll_singleton (fingerprint : Fingerprint) :
    materialOfAll [fingerprint] = fingerprint.material := by
  simp [materialOfAll, sorted]

theorem Fingerprint.perm_of_materialOfAll_eq {left right : List Fingerprint}
    (fitsLeft : ∀ fingerprint ∈ left, fingerprint.normalizedPath.utf8ByteSize < 2 ^ 64)
    (fitsRight : ∀ fingerprint ∈ right, fingerprint.normalizedPath.utf8ByteSize < 2 ^ 64)
    (equal : materialOfAll left = materialOfAll right) : left.Perm right :=
  framed_material.perm_of_flatMap_sorted_eq fitsLeft fitsRight equal

theorem Content.perm_of_materialOfAll_eq {left right : List Content}
    (equal : materialOfAll left = materialOfAll right) : left.Perm right :=
  framed_material.perm_of_flatMap_sorted_eq (fun _ _ => trivial) (fun _ _ => trivial) equal

/-- The order in which fingerprints come does not show in their key material,
whatever sorts them. -/
theorem Fingerprint.materialOfAll_eq_of_perm {left right : List Fingerprint} {sorter : Sorter}
    (perm : left.Perm right) : materialOfAll left sorter = materialOfAll right := by
  rw [materialOfAll, materialOfAll, Sorter.sort_stable, sorter.sort_eq_sorted perm]

theorem Content.materialOfAll_eq_of_perm {left right : List Content} {sorter : Sorter}
    (perm : left.Perm right) : materialOfAll left sorter = materialOfAll right := by
  rw [materialOfAll, materialOfAll, Sorter.sort_stable, sorter.sort_eq_sorted perm]

end Drift
