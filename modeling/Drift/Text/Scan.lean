/-!
# Repeated scanning

A scanner takes the start of a text and gives what it found there and the rest.
`many` runs a scanner as often as it finds something. A scanner that never
finds the empty text finds no more than there are characters, so the characters
themselves bound how often it runs; `many_of_some` says that the bound does not
show.
-/

namespace Drift.Text

/-- Finds something at the start of a text. -/
abbrev Scanner (α : Type u) := List Char → Option (α × List Char)

/-- What a scanner finds is never empty. -/
def Scanner.Advances (scan : Scanner α) : Prop :=
  ∀ {chars value rest}, scan chars = some (value, rest) → rest.length < chars.length

/-- Runs a scanner as often as it finds something, but not more often than a
list has elements. What was found before comes first, given latest first. -/
def manyWithin (scan : Scanner α) : List β → List α → List Char → List α × List Char
  | [], found, chars => (found.reverse, chars)
  | _ :: budget, found, chars =>
      match scan chars with
      | some (value, rest) => manyWithin scan budget (value :: found) rest
      | none => (found.reverse, chars)

/-- Runs a scanner as often as it finds something, which must not be empty. -/
def many (scan : Scanner α) (chars : List Char) : List α × List Char :=
  manyWithin scan chars [] chars

theorem manyWithin_found (scan : Scanner α) (budget : List β) (found : List α)
    (chars : List Char) :
    manyWithin scan budget found chars =
      (found.reverse ++ (manyWithin scan budget [] chars).1,
        (manyWithin scan budget [] chars).2) := by
  induction budget generalizing found chars with
  | nil => simp [manyWithin]
  | cons unit budget ih =>
      simp only [manyWithin]
      split
      · rename_i value rest _
        rw [ih (value :: found), ih [value]]
        simp
      · simp

/-- A budget that the text cannot use up does not show. -/
theorem manyWithin_budget {scan : Scanner α} (advances : scan.Advances) {budget : List β}
    {other : List γ} {chars : List Char} (enough : chars.length ≤ budget.length)
    (otherEnough : chars.length ≤ other.length) (found : List α) :
    manyWithin scan budget found chars = manyWithin scan other found chars := by
  induction budget generalizing other chars found with
  | nil =>
      obtain rfl := List.eq_nil_of_length_eq_zero (Nat.le_zero.mp enough)
      cases other with
      | nil => rfl
      | cons _ _ =>
          cases scanned : scan [] with
          | none => simp [manyWithin, scanned]
          | some result => exact absurd (advances scanned) (Nat.not_lt_zero _)
  | cons unit budget ih =>
      cases scanned : scan chars with
      | none => cases other <;> simp [manyWithin, scanned]
      | some result =>
          obtain ⟨value, rest⟩ := result
          have shorter := advances scanned
          cases other with
          | nil => simp at otherEnough; simp [otherEnough] at shorter
          | cons _ other =>
              simp only [manyWithin, scanned]
              simp only [List.length_cons] at enough otherEnough
              exact ih (by omega) (by omega) _

theorem many_of_none {scan : Scanner α} {chars : List Char} (nothing : scan chars = none) :
    many scan chars = ([], chars) := by
  cases chars <;> simp [many, manyWithin, nothing]

theorem many_of_some {scan : Scanner α} (advances : scan.Advances) {chars rest : List Char}
    {value : α} (scanned : scan chars = some (value, rest)) :
    many scan chars = (value :: (many scan rest).1, (many scan rest).2) := by
  have shorter := advances scanned
  cases chars with
  | nil => simp at shorter
  | cons first others =>
      simp only [many, manyWithin, scanned]
      rw [manyWithin_found, manyWithin_budget advances (Nat.le_of_lt_succ shorter)
        (Nat.le_refl rest.length)]
      rfl

/-- A scanner that reads what one item is written as reads a row of items up to
what it finds nothing in, if the budget lasts for them. -/
theorem manyWithin_of_written {scan : Scanner α} {write : γ → List Char} {value : γ → α}
    {items : List γ} {rest : List Char}
    (reads : ∀ item ∈ items, ∀ after, scan (write item ++ after) = some (value item, after))
    (stops : scan rest = none) {budget : List β} (enough : items.length ≤ budget.length)
    (found : List α) :
    manyWithin scan budget found (items.flatMap write ++ rest) =
      (found.reverse ++ items.map value, rest) := by
  induction items generalizing budget found with
  | nil => cases budget <;> simp [manyWithin, stops]
  | cons item others ih =>
      obtain ⟨readsItem, readsOthers⟩ := List.forall_mem_cons.mp reads
      cases budget with
      | nil => simp at enough
      | cons unit budget =>
          rw [List.flatMap_cons, List.append_assoc, manyWithin, readsItem]
          simp only
          rw [ih readsOthers (Nat.le_of_succ_le_succ enough)]
          simp

/-- Items that are not written as nothing need no more budget than there are
characters. -/
theorem many_of_written {scan : Scanner α} {write : γ → List Char} {value : γ → α}
    {items : List γ} {rest : List Char} (nonempty : ∀ item ∈ items, write item ≠ [])
    (reads : ∀ item ∈ items, ∀ after, scan (write item ++ after) = some (value item, after))
    (stops : scan rest = none) :
    many scan (items.flatMap write ++ rest) = (items.map value, rest) := by
  have enough : items.length ≤ (items.flatMap write ++ rest).length := by
    clear reads
    induction items with
    | nil => exact Nat.zero_le _
    | cons item others ih =>
        obtain ⟨itemNonempty, othersNonempty⟩ := List.forall_mem_cons.mp nonempty
        have positive := List.length_pos_iff.mpr itemNonempty
        have shorter := ih othersNonempty
        simp only [List.flatMap_cons, List.length_cons, List.length_append] at shorter ⊢
        omega
  rw [many, manyWithin_of_written reads stops enough]
  rfl

/-- A scanner of single characters reads a run of them. -/
theorem many_of_characters {scan : Scanner Char} {characters rest : List Char}
    (reads : ∀ character ∈ characters, ∀ after,
      scan (character :: after) = some (character, after))
    (stops : scan rest = none) : many scan (characters ++ rest) = (characters, rest) := by
  have run : many scan (characters.flatMap (fun character => [character]) ++ rest) =
      (characters.map id, rest) :=
    many_of_written (fun _ _ => List.cons_ne_nil _ _) reads stops
  simpa using run

end Drift.Text
