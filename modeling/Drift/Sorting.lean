/-!
# Sorting by a comparison

Values are compared by keys (`orderBy`), one key after another (`compareLex`).
Every list of the library that has to come out in one order is sorted by such a
comparison. For a comparison that is a total order, the result depends on the
elements only: two lists with the same elements sort to the same list, and any
other ordered arrangement of them is that list.

What sorts may order elements that compare equal as it likes. So the procedure
is an argument (`Sorter`) of everything that sorts; unless another one is given,
it keeps such elements in their places.
-/

namespace Drift

variable {α : Type u} {β : Type v}

/-- Compares two values by a key of theirs. -/
def orderBy (key : α → β) (compare : β → β → Ordering) (left right : α) : Ordering :=
  compare (key left) (key right)

instance (key : α → β) (compare : β → β → Ordering) [Std.TransCmp compare] :
    Std.TransCmp (orderBy key compare) where
  eq_swap := by
    intro left right
    exact @Std.OrientedCmp.eq_swap β compare _ _ _
  isLE_trans := by
    intro first second third
    exact @Std.TransCmp.isLE_trans β compare _ _ _ _

theorem eq_of_orderBy_eq {key : α → β} {compare : β → β → Ordering}
    [Std.LawfulEqCmp compare] {left right : α} (equal : orderBy key compare left right = .eq) :
    key left = key right :=
  Std.LawfulEqCmp.eq_of_compare equal

/-- A key that tells all values apart makes equal in the order mean equal. -/
theorem lawfulEqCmp_orderBy {key : α → β} {compare : β → β → Ordering}
    [Std.LawfulEqCmp compare]
    (injective : ∀ {left right}, key left = key right → left = right) :
    Std.LawfulEqCmp (orderBy key compare) where
  compare_self := by
    intro value
    exact @Std.ReflCmp.compare_self β compare _ _
  eq_of_compare equal := injective (eq_of_orderBy_eq equal)

/-- The elements of a list in ascending order; equal elements keep their places. -/
def sorted (compare : α → α → Ordering) (values : List α) : List α :=
  values.mergeSort fun left right => (compare left right).isLE

/-- A list whose elements ascend, equal neighbours allowed. -/
def Ascending (compare : α → α → Ordering) (values : List α) : Prop :=
  values.Pairwise fun left right => (compare left right).isLE = true

theorem sorted_perm (compare : α → α → Ordering) (values : List α) :
    (sorted compare values).Perm values :=
  List.mergeSort_perm _ _

@[simp] theorem mem_sorted {compare : α → α → Ordering} {values : List α} {value : α} :
    value ∈ sorted compare values ↔ value ∈ values :=
  (sorted_perm compare values).mem_iff

theorem ascending_sorted (compare : α → α → Ordering) [Std.TransCmp compare]
    (values : List α) : Ascending compare (sorted compare values) := by
  refine List.pairwise_mergeSort (fun _ _ _ => Std.TransCmp.isLE_trans) ?_ values
  intro left right
  rw [@Std.OrientedCmp.eq_swap α compare _ right left]
  cases compare left right <;> rfl

/-- A total order leaves one ascending arrangement of a list's elements. -/
theorem Ascending.eq_of_perm {compare : α → α → Ordering} [Std.TransCmp compare]
    [Std.LawfulEqCmp compare] {left right : List α} (ascendingLeft : Ascending compare left)
    (ascendingRight : Ascending compare right) (perm : left.Perm right) : left = right := by
  refine perm.eq_of_pairwise ?_ ascendingLeft ascendingRight
  intro first second _ _ forward backward
  exact Std.LawfulEqCmp.eq_of_compare (Std.OrientedCmp.isLE_antisymm forward backward)

/-- A procedure that puts elements into ascending order. Where elements compare
equal, it may order them as it likes. -/
structure Sorter where
  sort : {α : Type} → (α → α → Ordering) → List α → List α
  sort_perm : ∀ {α : Type} (compare : α → α → Ordering) [Std.TransCmp compare]
    (values : List α), (sort compare values).Perm values
  ascending_sort : ∀ {α : Type} (compare : α → α → Ordering) [Std.TransCmp compare]
    (values : List α), Ascending compare (sort compare values)

namespace Sorter

/-- Keeps elements that compare equal in their places. -/
def stable : Sorter where
  sort := sorted
  sort_perm compare _ values := sorted_perm compare values
  ascending_sort compare _ values := ascending_sorted compare values

@[simp] theorem sort_stable {α : Type} (compare : α → α → Ordering) (values : List α) :
    stable.sort compare values = sorted compare values :=
  rfl

/-- Where a comparison tells elements apart, whatever sorts finds one result, in
whatever order the elements come. -/
theorem sort_eq_sorted (sorter : Sorter) {α : Type} {compare : α → α → Ordering}
    [Std.TransCmp compare] [Std.LawfulEqCmp compare] {values others : List α}
    (perm : values.Perm others) : sorter.sort compare values = sorted compare others :=
  (sorter.ascending_sort compare values).eq_of_perm (ascending_sorted compare others)
    ((sorter.sort_perm compare values).trans (perm.trans (sorted_perm compare others).symm))

end Sorter

end Drift
