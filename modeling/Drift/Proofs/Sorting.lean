import Drift.Collection
import Mathlib.Data.List.Nodup

/-!
# Lists in order

Two ordered lists of the same elements are the same list as soon as elements
that compare equal are equal, be it only because a key tells the elements of
the list apart.
-/

namespace Drift

variable {α : Type u} {κ : Type v} {compare : α → α → Ordering}

theorem mem_iff_of_forall_filter_eq [DecidableEq κ] {key : α → κ} {left right : List α}
    (same : ∀ value, (left.filter fun element => key element = value) =
      right.filter fun element => key element = value) (element : α) :
    element ∈ left ↔ element ∈ right := by
  have selected (values : List α) : element ∈ values ↔
      element ∈ values.filter fun other => key other = key element := by simp
  rw [selected left, selected right, same]

namespace Ascending

theorem sublist {smaller values : List α} (ascending : Ascending compare values)
    (part : smaller.Sublist values) : Ascending compare smaller :=
  List.Pairwise.sublist part ascending

theorem eq_of_perm_of_distinct [Std.TransCmp compare] {key : α → κ} {left right : List α}
    (ascendingLeft : Ascending compare left) (ascendingRight : Ascending compare right)
    (decides : ∀ first second, compare first second = .eq → key first = key second)
    (distinct : (left.map key).Nodup) (perm : left.Perm right) : left = right := by
  refine perm.eq_of_pairwise ?_ ascendingLeft ascendingRight
  intro first second memberFirst memberSecond forward backward
  have same := decides first second (Std.OrientedCmp.isLE_antisymm forward backward)
  exact List.inj_on_of_nodup_map distinct memberFirst (perm.mem_iff.mpr memberSecond) same

theorem eq_sorted [Std.TransCmp compare] [Std.LawfulEqCmp compare] {arranged values : List α}
    (ascending : Ascending compare arranged) (perm : arranged.Perm values) :
    arranged = sorted compare values :=
  ascending.eq_of_perm (ascending_sorted compare values)
    (perm.trans (sorted_perm compare values).symm)

theorem eq_sorted_of_distinct [Std.TransCmp compare] {key : α → κ} {arranged values : List α}
    (ascending : Ascending compare arranged)
    (decides : ∀ first second, compare first second = .eq → key first = key second)
    (distinct : (values.map key).Nodup) (perm : arranged.Perm values) :
    arranged = sorted compare values := by
  have same := perm.trans (sorted_perm compare values).symm
  apply ascending.eq_of_perm_of_distinct (ascending_sorted compare values) decides _ same
  exact (perm.map key).nodup_iff.mpr distinct

/-- Distinct elements in ascending order ascend strictly. -/
theorem pairwise_lt_of_nodup [Std.LawfulEqCmp compare] {values : List α}
    (ascending : Ascending compare values) (distinct : values.Nodup) :
    values.Pairwise fun left right => compare left right = .lt := by
  refine (ascending.and distinct).imp ?_
  rintro left right ⟨before, different⟩
  cases compared : compare left right with
  | lt => rfl
  | eq => exact absurd (Std.LawfulEqCmp.eq_of_compare compared) different
  | gt => simp [compared] at before

theorem head_isLE [Std.TransCmp compare] {head element : α} {rest : List α}
    (ascending : Ascending compare (head :: rest)) (member : element ∈ head :: rest) :
    (compare head element).isLE = true := by
  rcases List.mem_cons.mp member with rfl | later
  · exact Std.ReflCmp.isLE_rfl
  · exact List.rel_of_pairwise_cons ascending later

/-- A list in the order of a key is determined by its parts of one key each. -/
theorem eq_of_forall_filter_eq [DecidableEq κ] {key : α → κ} {order : κ → κ → Ordering}
    [Std.TransCmp order] [Std.LawfulEqCmp order] {left right : List α}
    (ascendingLeft : Ascending (orderBy key order) left)
    (ascendingRight : Ascending (orderBy key order) right)
    (same : ∀ value, (left.filter fun element => key element = value) =
      right.filter fun element => key element = value) : left = right := by
  have shared := mem_iff_of_forall_filter_eq same
  induction left generalizing right with
  | nil => exact (List.eq_nil_iff_forall_not_mem.mpr fun element => by simp [← shared]).symm
  | cons head rest ih =>
      cases right with
      | nil => simpa using shared head
      | cons other others =>
          -- Each head occurs in the other list, so neither key comes before the other.
          have forward := ascendingLeft.head_isLE ((shared other).mpr List.mem_cons_self)
          have backward := ascendingRight.head_isLE ((shared head).mp List.mem_cons_self)
          have tied : key head = key other :=
            eq_of_orderBy_eq (Std.OrientedCmp.isLE_antisymm forward backward)
          have heads := same (key other)
          simp only [List.filter_cons, tied, decide_true, if_true] at heads
          obtain ⟨rfl, -⟩ := List.cons.inj heads
          have tails (value : κ) : (rest.filter fun element => key element = value) =
              others.filter fun element => key element = value := by
            have parts := same value
            simp only [List.filter_cons] at parts
            split at parts
            · exact (List.cons.inj parts).2
            · exact parts
          rw [ih ascendingLeft.of_cons ascendingRight.of_cons tails
            (mem_iff_of_forall_filter_eq tails)]

end Ascending

/-- Where a key tells the elements of a list apart and decides what compares equal,
whatever sorts finds one result, in whatever order the elements come. -/
theorem Sorter.sort_eq_sorted_of_distinct (sorter : Sorter) {α : Type}
    {compare : α → α → Ordering} [Std.TransCmp compare] {key : α → κ} {values others : List α}
    (decides : ∀ first second, compare first second = .eq → key first = key second)
    (distinct : (others.map key).Nodup) (perm : values.Perm others) :
    sorter.sort compare values = sorted compare others :=
  (sorter.ascending_sort compare values).eq_sorted_of_distinct decides distinct
    ((sorter.sort_perm compare values).trans perm)

/-- What a part of a list sorts to is that part of what the list sorts to. -/
theorem filter_sorted [Std.TransCmp compare] [Std.LawfulEqCmp compare] (keep : α → Bool)
    (values : List α) :
    (sorted compare values).filter keep = sorted compare (values.filter keep) :=
  ((ascending_sorted compare values).sublist List.filter_sublist).eq_sorted
    ((sorted_perm compare values).filter keep)

theorem sorted_eq_nil_iff {values : List α} : sorted compare values = [] ↔ values = [] := by
  rw [← List.length_eq_zero_iff, (sorted_perm compare values).length_eq,
    List.length_eq_zero_iff]

namespace Entry

theorem path_eq_of_byPath_eq (left right : Entry) (equal : byPath left right = .eq) :
    left.path = right.path :=
  eq_of_orderBy_eq equal

/-- Entries that compare equal by a key and then by path have one path. -/
theorem path_eq_of_compareLex_eq (first : Entry → Entry → Ordering) (left right : Entry)
    (equal : compareLex first byPath left right = .eq) : left.path = right.path :=
  path_eq_of_byPath_eq left right (compareLex_eq_eq.mp equal).2

/-- Entries with distinct paths have one arrangement by path. -/
theorem eq_sorted_byPath {arranged entries : List Entry} (ascending : Ascending byPath arranged)
    (distinct : (entries.map path).Nodup) (perm : arranged.Perm entries) :
    arranged = sorted byPath entries :=
  ascending.eq_sorted_of_distinct path_eq_of_byPath_eq distinct perm

theorem ascending_reverse_sort_byPathDown (sorter : Sorter) (entries : List Entry) :
    Ascending byPath (sorter.sort byPathDown entries).reverse :=
  List.pairwise_reverse.mpr (sorter.ascending_sort byPathDown entries)

theorem reverse_sort_byPathDown (sorter : Sorter) {entries : List Entry}
    (distinct : (entries.map path).Nodup) :
    (sorter.sort byPathDown entries).reverse = sorted byPath entries := by
  refine eq_sorted_byPath (ascending_reverse_sort_byPathDown sorter entries) distinct ?_
  exact (List.reverse_perm _).trans (sorter.sort_perm byPathDown entries)

/-- Where all entries share a key, the order by that key and then by path is the
one by path. -/
theorem ascending_byPath_of_key {key : Entry → κ} {order : κ → κ → Ordering}
    [Std.ReflCmp order] {entries : List Entry} {value : κ}
    (ascending : Ascending (compareLex (orderBy key order) byPath) entries)
    (shared : ∀ entry ∈ entries, key entry = value) : Ascending byPath entries := by
  refine List.Pairwise.imp_of_mem ?_ ascending
  intro left right memberLeft memberRight before
  have tied : orderBy key order left right = .eq := by
    rw [orderBy, shared left memberLeft, shared right memberRight]
    exact Std.ReflCmp.compare_self
  simpa [compareLex, tied] using before

end Entry

end Drift
