import Drift.Proofs.Reconcile.Buckets
import Drift.Reconcile.ByName

/-!
# The order of fingerprints

Fingerprints are ordered by the bytes of their digests, then by those of their
normalized paths, then by their types. The three levels together tell apart all
fingerprints that differ, so the order is total and equal means equal. That is
what sorting and grouping by fingerprint rest on: one arrangement of a list is
in order, and a search tree keeps equal fingerprints together and no others.
-/

namespace Drift

/-- Bytes compare as words do: at the first one that differs, or by which list
ends first. -/
theorem compare_bytes_eq_lt_iff (left right : List UInt8) :
    compare left right = .lt ↔ left < right := by
  induction left generalizing right with
  | nil => cases right <;> simp
  | cons byte rest ih =>
      cases right with
      | nil => simp
      | cons other others =>
          rw [List.compare_cons_cons, Ordering.then_eq_lt, ih, List.cons_lt_cons_iff,
            Std.compare_eq_lt, Std.LawfulEqCmp.compare_eq_iff_eq]

namespace Fingerprint

open Reconcile

/-- One fingerprint comes before another as its digest, its normalized path and
its type say, each only where the earlier ones agree. -/
theorem order_eq_lt_iff (left right : Fingerprint) :
    order left right = .lt ↔
      left.digest.bytes < right.digest.bytes ∨
        left.digest = right.digest ∧
          (Text.utf8 left.normalizedPath < Text.utf8 right.normalizedPath ∨
            left.normalizedPath = right.normalizedPath ∧
              left.fileType.tag < right.fileType.tag) := by
  have digests : orderBy digest Digest.order left right = .lt ↔
      left.digest.bytes < right.digest.bytes :=
    compare_bytes_eq_lt_iff _ _
  have paths : orderBy normalizedPath Text.order left right = .lt ↔
      Text.utf8 left.normalizedPath < Text.utf8 right.normalizedPath := by
    rw [Text.order_eq]
    exact compare_bytes_eq_lt_iff _ _
  have fileTypes : orderBy fileType FileType.order left right = .lt ↔
      left.fileType.tag < right.fileType.tag :=
    Std.compare_eq_lt
  have sameDigest : orderBy digest Digest.order left right = .eq ↔ left.digest = right.digest :=
    @Std.LawfulEqCmp.compare_eq_iff_eq _ Digest.order _ _ _
  have samePath : orderBy normalizedPath Text.order left right = .eq ↔
      left.normalizedPath = right.normalizedPath :=
    @Std.LawfulEqCmp.compare_eq_iff_eq _ Text.order _ _ _
  simp only [order, compareLex, Ordering.then_eq_lt, digests, paths, fileTypes, sameDigest,
    samePath]

theorem lt_iff {left right : Fingerprint} : left < right ↔ order left right = .lt :=
  Option.some_inj

theorem le_iff {left right : Fingerprint} : left ≤ right ↔ order left right ≠ .gt :=
  Ordering.isLE_iff_ne_gt

theorem order_eq_eq_iff (left right : Fingerprint) :
    order left right = .eq ↔
      left.digest = right.digest ∧ left.normalizedPath = right.normalizedPath ∧
        left.fileType = right.fileType := by
  rw [Std.LawfulEqCmp.compare_eq_iff_eq, Fingerprint.ext_iff]
  tauto

/-- What two comparisons in a row agree on holds from the first to the last. -/
theorem order_trans {verdict : Ordering} {first second third : Fingerprint}
    (forward : order first second = verdict) (onward : order second third = verdict) :
    order first third = verdict := by
  cases verdict with
  | lt => exact Std.TransCmp.lt_trans forward onward
  | eq => exact Std.TransCmp.eq_trans forward onward
  | gt => exact Std.TransCmp.gt_trans forward onward

/-- The order of fingerprints is total, and equal means equal in all three fields.
It goes by the bytes of the digests, then by the UTF-8 bytes of the normalized paths,
then by the types, and the order that could leave fingerprints incomparable is the
same. So a list of fingerprints has one arrangement that is in order, and grouping
by fingerprint puts equal ones into one group and no others. -/
theorem order_total :
    (∀ left right, order left right = .eq ↔
      left.digest = right.digest ∧ left.normalizedPath = right.normalizedPath ∧
        left.fileType = right.fileType) ∧
    (∀ left right, order right left = (order left right).swap) ∧
    (∀ verdict first second third, order first second = verdict →
      order second third = verdict → order first third = verdict) ∧
    (∀ first second third : Fingerprint, first ≤ second → second ≤ third → first ≤ third) ∧
    (∀ left right, order? left right = some (order left right) ∧
      (left < right ↔ order left right = .lt) ∧ (left ≤ right ↔ order left right ≠ .gt)) ∧
    (∀ left right, order left right = .lt ↔
      left.digest.bytes < right.digest.bytes ∨
        left.digest = right.digest ∧
          (Text.utf8 left.normalizedPath < Text.utf8 right.normalizedPath ∨
            left.normalizedPath = right.normalizedPath ∧
              left.fileType.tag < right.fileType.tag)) ∧
    (∀ values arranged others : List Fingerprint, arranged.Perm values → others.Perm values →
      Ascending order arranged → Ascending order others → arranged = others) ∧
    ∀ (entries : List Entry) (fingerprint : Fingerprint),
      (entries.foldl Buckets.add Buckets.empty : ByName.Missing).buckets[fingerprint]? =
        if ∃ entry ∈ entries, entry.fingerprint = fingerprint then
          some (entries.filter fun entry => entry.fingerprint = fingerprint).toArray
        else none := by
  refine ⟨order_eq_eq_iff, ?_, ?_, ?_, ?_, order_eq_lt_iff, ?_, ?_⟩
  · intro left right
    exact Std.OrientedCmp.eq_swap
  · intro verdict first second third
    exact order_trans
  · intro first second third
    exact Std.TransCmp.isLE_trans
  · intro left right
    exact ⟨rfl, lt_iff, le_iff⟩
  · intro values arranged others permArranged permOthers inOrder othersInOrder
    exact inOrder.eq_of_perm othersInOrder (permArranged.trans permOthers.symm)
  · intro entries fingerprint
    rw [Buckets.getElem?_foldl_add]
    simp [Buckets.empty]

/-- The digest goes before the normalized path, and the path before the type; the
three fingerprints sort to that order from any other one. -/
theorem order_total_apart :
    let low : Fingerprint := ⟨"z", .regularFile, ⟨.replicate 32 1, rfl⟩⟩
    let high : Fingerprint := ⟨"a", .regularFile, ⟨.replicate 32 2, rfl⟩⟩
    let folder : Fingerprint := ⟨"a", .directory, ⟨.replicate 32 2, rfl⟩⟩
    (order low high = .lt ∧ order high folder = .lt ∧ order low folder = .lt) ∧
      (low ≤ high ∧ high ≤ folder ∧ low ≤ folder) ∧
      [low, high, folder].Perm [folder, low, high] ∧
      Ascending order [low, high, folder] ∧
      [low, high, folder] = sorted order [folder, low, high] := by
  intro low high folder
  obtain ⟨-, -, trans, leTrans, partialOrder, before, unique, -⟩ := order_total
  have first : order low high = .lt := (before low high).mpr (by decide)
  have second : order high folder = .lt := (before high folder).mpr (by decide)
  have third : order low folder = .lt := trans .lt low high folder first second
  have firstLe : low ≤ high := (partialOrder low high).2.2.mpr (by simp [first])
  have secondLe : high ≤ folder := (partialOrder high folder).2.2.mpr (by simp [second])
  have perm : [low, high, folder].Perm [folder, low, high] := by decide
  have ascending : Ascending order [low, high, folder] := by
    simp [Ascending, first, second, third]
  exact ⟨⟨first, second, third⟩, ⟨firstLe, secondLe, leTrans low high folder firstLe secondLe⟩,
    perm, ascending,
    unique _ _ _ perm (sorted_perm order _) ascending (ascending_sorted order _)⟩

end Fingerprint

end Drift
