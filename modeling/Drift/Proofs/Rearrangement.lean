import Mathlib.Data.List.Nodup
import Mathlib.Data.List.Count

/-!
# Lists up to order

Most facts about accounting do not depend on an order: they say which elements
there are and how often. Lists are compared key by key, and what lies outside a
part of a list is determined up to order by that part.
-/

namespace Drift

variable {α : Type u} {κ : Type v}

/-- Lists have the same elements if they have the same ones of each key. -/
theorem perm_of_forall_filter [DecidableEq α] [DecidableEq κ] (key : α → κ)
    {left right : List α}
    (same : ∀ value, (left.filter fun element => key element = value).Perm
      (right.filter fun element => key element = value)) : left.Perm right := by
  rw [List.perm_iff_count]
  intro element
  have counts := (same (key element)).count_eq element
  rwa [List.count_filter (by simp), List.count_filter (by simp)] at counts

theorem count_map_eq_countP [DecidableEq κ] (key : α → κ) (values : List α) (value : κ) :
    (values.map key).count value = values.countP fun element => key element = value := by
  rw [List.count, List.countP_map]
  simp only [Function.comp_def, beq_eq_decide]

/-- A list without an element of any key is empty. -/
theorem eq_nil_iff_countP [DecidableEq κ] (values : List α) (key : α → κ) :
    values = [] ↔ ∀ value, values.countP (fun element => key element = value) = 0 := by
  constructor
  · rintro rfl value
    rfl
  · intro none
    apply List.eq_nil_iff_forall_not_mem.mpr
    intro element member
    have absent := List.countP_eq_zero.mp (none (key element)) element member
    simp at absent

/-- The keys of one list are among those of another one if that has at least as
many elements of each key. -/
theorem subperm_map_iff [DecidableEq κ] (key : α → κ) {left right : List α} :
    (left.map key).Subperm (right.map key) ↔ ∀ value,
      left.countP (fun element => key element = value) ≤
        right.countP fun element => key element = value := by
  constructor
  · intro part value
    rw [← count_map_eq_countP, ← count_map_eq_countP]
    exact part.count_le value
  · intro fewer
    apply List.subperm_ext_iff.mpr
    intro value _
    rw [count_map_eq_countP, count_map_eq_countP]
    exact fewer value

/-- Lists have the same keys if neither has more elements of one. -/
theorem perm_map_iff [DecidableEq κ] (key : α → κ) {left right : List α} :
    (left.map key).Perm (right.map key) ↔
      (∀ value, right.countP (fun element => key element = value) ≤
        left.countP fun element => key element = value) ∧
      ∀ value, left.countP (fun element => key element = value) ≤
        right.countP fun element => key element = value := by
  rw [← subperm_map_iff, ← subperm_map_iff]
  exact ⟨fun perm => ⟨perm.symm.subperm, perm.subperm⟩, fun parts => parts.2.antisymm parts.1⟩

/-- Where each key tells which of its elements are kept, those of a key among all
that are kept are its own. -/
theorem filter_kept_perm [DecidableEq α] [DecidableEq κ] {values : List α} {key : α → κ}
    {kept : κ → List α} (distinct : values.Nodup) (distinctKept : ∀ value, (kept value).Nodup)
    (included : ∀ value, ∀ element ∈ kept value, element ∈ values ∧ key element = value)
    (value : κ) :
    ((values.filter fun element => element ∈ kept (key element)).filter fun element =>
      key element = value).Perm (kept value) := by
  apply (List.perm_ext_iff_of_nodup ((distinct.filter _).filter _) (distinctKept value)).mpr
  intro element
  simp only [List.mem_filter, decide_eq_true_eq]
  constructor
  · rintro ⟨⟨-, here⟩, rfl⟩
    exact here
  · intro here
    obtain ⟨member, rfl⟩ := included value element here
    exact ⟨⟨member, here⟩, rfl⟩

/-- A list is no longer than another one that has at least as many elements of
each key. -/
theorem length_le_of_forall_countP_le [DecidableEq κ] (key : α → κ) {left right : List α}
    (fewer : ∀ value, left.countP (fun element => key element = value) ≤
      right.countP (fun element => key element = value)) : left.length ≤ right.length := by
  simpa using ((subperm_map_iff key).mpr fewer).length_le

/-- A list without repetitions falls into any such part of it and the rest. -/
theorem perm_append_filter_not_mem [DecidableEq α] {inside values : List α}
    (distinct : values.Nodup) (distinctInside : inside.Nodup) (included : inside ⊆ values) :
    values.Perm (inside ++ values.filter fun value => value ∉ inside) := by
  have part : (values.filter fun value => value ∈ inside).Perm inside := by
    apply (List.perm_ext_iff_of_nodup (distinct.filter _) distinctInside).mpr
    intro value
    simpa using fun member => included member
  have parts := (List.filter_append_perm (fun value => decide (value ∈ inside)) values).symm
  simpa using parts.trans (part.append_right _)

/-- All elements of two lists without repetitions, whichever of them comes
first. -/
theorem append_filter_not_mem_perm [DecidableEq α] {left right : List α}
    (distinctLeft : left.Nodup) (distinctRight : right.Nodup) :
    (left ++ right.filter fun value => value ∉ left).Perm
      (right ++ left.filter fun value => value ∉ right) := by
  have distinct {first second : List α} (distinctFirst : first.Nodup)
      (distinctSecond : second.Nodup) :
      (first ++ second.filter fun value => value ∉ first).Nodup := by
    refine List.nodup_append'.mpr ⟨distinctFirst, distinctSecond.filter _, ?_⟩
    intro value inFirst inRest
    simp [inFirst] at inRest
  apply (List.perm_ext_iff_of_nodup (distinct distinctLeft distinctRight)
    (distinct distinctRight distinctLeft)).mpr
  intro value
  simp only [List.mem_append, List.mem_filter, decide_eq_true_eq]
  tauto

theorem filter_not_mem_perm [DecidableEq α] {inside outside values : List α}
    (distinct : values.Nodup) (perm : values.Perm (inside ++ outside)) :
    (values.filter fun value => value ∉ inside).Perm outside := by
  have distinctInside := (List.nodup_append.mp (perm.nodup_iff.mp distinct)).1
  have included : inside ⊆ values := fun value member =>
    perm.mem_iff.mpr (List.mem_append_left _ member)
  have parts := perm_append_filter_not_mem distinct distinctInside included
  exact (List.perm_append_left_iff inside).mp (parts.symm.trans perm)

/-- Of three statements, one holds and the other two do not. -/
def ExactlyOne (first second third : Prop) : Prop :=
  (first ∧ ¬ second ∧ ¬ third) ∨ (¬ first ∧ second ∧ ¬ third) ∨ (¬ first ∧ ¬ second ∧ third)

/-- Of the parts that a list without repetitions falls into, each element is in
exactly one. -/
theorem exactlyOne_of_perm {values first second third : List α} (distinct : values.Nodup)
    (perm : values.Perm (first ++ (second ++ third))) {value : α} (member : value ∈ values) :
    ExactlyOne (value ∈ first) (value ∈ second) (value ∈ third) := by
  obtain ⟨-, later, apartFirst⟩ := List.nodup_append'.mp (perm.nodup_iff.mp distinct)
  obtain ⟨-, -, apartSecond⟩ := List.nodup_append'.mp later
  rcases List.mem_append.mp (perm.mem_iff.mp member) with inFirst | behind
  · have notBehind : ¬ (value ∈ second ∨ value ∈ third) := fun behind =>
      apartFirst inFirst (List.mem_append.mpr behind)
    exact .inl ⟨inFirst, not_or.mp notBehind⟩
  · have notFirst : value ∉ first := fun inFirst => apartFirst inFirst behind
    rcases List.mem_append.mp behind with inSecond | inThird
    · exact .inr (.inl ⟨notFirst, inSecond, apartSecond inSecond⟩)
    · exact .inr (.inr ⟨notFirst, fun inSecond => apartSecond inSecond inThird, inThird⟩)

end Drift
