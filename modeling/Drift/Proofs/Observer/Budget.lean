import Drift.Observer.Limited
import Drift.Proofs.Observer.EarlyStop
import Mathlib.Data.List.Basic

/-!
# Budgets over whole runs

Nobody has to heed an observer that wants no more, so a run offers it all of some
changes and collects its answers. A budget passes on an initial part of them and
answers for the rest itself. A budget within a budget is the smaller one of both.
-/

namespace Drift

namespace Limited

variable {σ : Type u}

/-- One budget that stands for a budget within another one. -/
structure Merges (nested : Limited (Limited σ)) (merged : Limited σ) : Prop where
  remaining : merged.remaining.toNat =
    min nested.remaining.toNat nested.inner.remaining.toNat
  inner : merged.inner = nested.inner.inner

theorem merges_start (outer within : UInt64) (state : σ) :
    Merges (.start outer (.start within state)) (.start (min outer within) state) where
  remaining := UInt64.toNat_min outer within
  inner := rfl

end Limited

namespace Observer

variable {σ : Type u}

@[simp] theorem after_nil (observer : Observer σ) (state : σ) :
    observer.after state [] = state := rfl

@[simp] theorem after_cons (observer : Observer σ) (state : σ) (change : Change)
    (rest : List Change) :
    observer.after state (change :: rest) =
      observer.after (observer.observe state change).2 rest := rfl

/-- What an observer answers to some changes, each offered to it whatever it
answered before. -/
def answers (observer : Observer σ) : σ → List Change → List Bool
  | _, [] => []
  | state, change :: rest =>
      (observer.observe state change).1 ::
        observer.answers (observer.observe state change).2 rest

@[simp] theorem answers_nil (observer : Observer σ) (state : σ) :
    observer.answers state [] = [] := rfl

@[simp] theorem answers_cons (observer : Observer σ) (state : σ) (change : Change)
    (rest : List Change) :
    observer.answers state (change :: rest) =
      (observer.observe state change).1 ::
        observer.answers (observer.observe state change).2 rest := rfl

@[simp] theorem length_answers (observer : Observer σ) (state : σ) (changes : List Change) :
    (observer.answers state changes).length = changes.length := by
  induction changes generalizing state with
  | nil => rfl
  | cons change rest ih => simp [ih]

section Limiting

variable (inner : Observer σ) (held : Limited σ)

/-- An offer either finds the budget used up and is dropped, or takes one off it
and is passed on. -/
theorem observe_limiting_cases (change : Change) :
    (held.remaining.toNat = 0 ∧
        inner.limiting.observe held change = (false, { held with saturated := true })) ∨
      ∃ left : UInt64, held.remaining.toNat = left.toNat + 1 ∧
        inner.limiting.observe held change =
          (decide (0 < left.toNat) && (inner.observe held.inner change).1,
            ⟨left,
              held.saturated || (decide (left.toNat = 0) && (inner.observe held.inner change).1),
              (inner.observe held.inner change).2⟩) := by
  by_cases spent : held.remaining = 0
  · left
    exact ⟨by rw [spent]; rfl, by simp [limiting, spent]⟩
  · right
    have positive : 1 ≤ held.remaining := by grind
    have taken := UInt64.toNat_sub_of_le _ _ positive
    have bound := UInt64.le_iff_toNat_le.mp positive
    refine ⟨held.remaining - 1, ?_, ?_⟩
    · rw [taken]
      exact (Nat.sub_add_cancel bound).symm
    · have exhausted : held.remaining - 1 = 0 ↔ (held.remaining - 1).toNat = 0 :=
        UInt64.toNat_inj.symm
      simp only [limiting, if_neg spent, exhausted]
      rcases inner.observe held.inner change with ⟨_ | _, next⟩
      · simp
      · by_cases last : (held.remaining - 1).toNat = 0
        · simp [last]
        · simp [last, Nat.pos_of_ne_zero last]

@[simp] theorem fst_observe_limiting (change : Change) :
    (inner.limiting.observe held change).1 =
      (decide (1 < held.remaining.toNat) && (inner.observe held.inner change).1) := by
  rcases inner.observe_limiting_cases held change with ⟨spent, step⟩ | ⟨left, spends, step⟩
  · simp [step, spent]
  · simp [step, spends]

@[simp] theorem remaining_observe_limiting (change : Change) :
    (inner.limiting.observe held change).2.remaining.toNat = held.remaining.toNat - 1 := by
  rcases inner.observe_limiting_cases held change with ⟨spent, step⟩ | ⟨left, spends, step⟩
  · simp [step, spent]
  · simp [step, spends]

@[simp] theorem inner_observe_limiting (change : Change) :
    (inner.limiting.observe held change).2.inner =
      if held.remaining.toNat = 0 then held.inner else (inner.observe held.inner change).2 := by
  rcases inner.observe_limiting_cases held change with ⟨spent, step⟩ | ⟨left, spends, step⟩
  · simp [step, spent]
  · simp [step, spends]

/-- The flag is raised with a dropped offer, and with the last one of the budget
unless the inner observer stops at it. -/
@[simp] theorem saturated_observe_limiting (change : Change) :
    (inner.limiting.observe held change).2.saturated =
      (held.saturated || (decide (held.remaining.toNat = 0) ||
        (decide (held.remaining.toNat = 1) && (inner.observe held.inner change).1))) := by
  rcases inner.observe_limiting_cases held change with ⟨spent, step⟩ | ⟨left, spends, step⟩
  · simp [step, spent]
  · simp [step, spends]

theorem remaining_after_limiting (changes : List Change) :
    (inner.limiting.after held changes).remaining.toNat =
      held.remaining.toNat - changes.length := by
  induction changes generalizing held with
  | nil => rfl
  | cons change rest ih =>
      rw [after_cons, ih, remaining_observe_limiting, List.length_cons]
      omega

/-- The inner observer is called as often as the budget allows, in order. -/
theorem inner_after_limiting (changes : List Change) :
    (inner.limiting.after held changes).inner =
      inner.after held.inner (changes.take held.remaining.toNat) := by
  induction changes generalizing held with
  | nil => simp
  | cons change rest ih =>
      rw [after_cons, ih, remaining_observe_limiting, inner_observe_limiting]
      cases held.remaining.toNat with
      | zero => rfl
      | succ left => simp

/-- More is wanted after a change if it did not use the budget up and the inner
observer wants more after it, too. -/
theorem getElem?_answers_limiting (changes : List Change) (place : Nat) :
    (inner.limiting.answers held changes)[place]? = some true ↔
      place + 1 < held.remaining.toNat ∧
        (inner.answers held.inner (changes.take held.remaining.toNat))[place]? = some true := by
  induction changes generalizing held place with
  | nil => simp
  | cons change rest ih =>
      cases place with
      | zero =>
          rw [answers_cons, List.getElem?_cons_zero, fst_observe_limiting]
          cases held.remaining.toNat <;> simp
      | succ place =>
          rw [answers_cons, List.getElem?_cons_succ, ih, remaining_observe_limiting,
            inner_observe_limiting]
          cases held.remaining.toNat <;> simp

theorem saturated_after_limiting (changes : List Change) :
    (inner.limiting.after held changes).saturated = true ↔
      held.saturated = true ∨ held.remaining.toNat < changes.length ∨
        (changes.length = held.remaining.toNat ∧
          (inner.answers held.inner changes).getLast? = some true) := by
  induction changes generalizing held with
  | nil => simp
  | cons change rest ih =>
      rw [after_cons, ih, saturated_observe_limiting, remaining_observe_limiting,
        inner_observe_limiting, answers_cons, List.length_cons]
      cases held.remaining.toNat with
      | zero => simp
      | succ left =>
          cases rest with
          | nil => simp
          | cons next later =>
              -- More is offered, so a budget that is used up here has an offer dropped.
              have dropped : left = 0 → left < (next :: later).length := by
                rw [List.length_cons]
                omega
              simp only [answers_cons, List.getLast?_cons_cons, Nat.add_sub_cancel,
                Nat.add_one_ne_zero, if_false, Bool.or_eq_true, Bool.and_eq_true,
                decide_eq_true_eq, false_or, Nat.add_lt_add_iff_right, Nat.add_right_cancel_iff,
                Nat.add_eq_right]
              grind

end Limiting

/-- The state and the calls of an observer after a run under a budget, and the
answers to whoever offered the changes. -/
def accountWithin (inner : Observer σ) (budget : UInt64) (state : σ) (changes : List Change) :
    (σ × List Change) × List Bool :=
  ((inner.logging.limiting.after (.start budget (state, [])) changes).inner,
    inner.limiting.answers (.start budget state) changes)

/-- The same under a budget within another one. -/
def accountWithinBoth (inner : Observer σ) (outer within : UInt64) (state : σ)
    (changes : List Change) : (σ × List Change) × List Bool :=
  ((inner.logging.limiting.limiting.after (.start outer (.start within (state, [])))
      changes).inner.inner,
    inner.limiting.limiting.answers (.start outer (.start within state)) changes)

section Nested

variable {nested : Limited (Limited σ)} {merged : Limited σ}

/-- One offer gets the same answer either way, and afterwards the one budget still
stands for both. -/
theorem observe_merges (merges : nested.Merges merged) (inner : Observer σ) (change : Change) :
    (inner.limiting.limiting.observe nested change).1 =
        (inner.limiting.observe merged change).1 ∧
      (inner.limiting.limiting.observe nested change).2.Merges
        (inner.limiting.observe merged change).2 := by
  obtain ⟨smaller, same⟩ := merges
  refine ⟨?_, ?_, ?_⟩
  · simp only [fst_observe_limiting, smaller, same, Nat.lt_min, Bool.decide_and, Bool.and_assoc]
  · rw [remaining_observe_limiting, remaining_observe_limiting, inner_observe_limiting, smaller]
    split
    · simp [*]
    · rw [remaining_observe_limiting, Nat.sub_min_sub_right]
  · rw [inner_observe_limiting, inner_observe_limiting, smaller, same]
    by_cases spent : nested.remaining.toNat = 0
    · simp [spent]
    · rw [if_neg spent, inner_observe_limiting]
      simp [spent]

theorem after_merges (merges : nested.Merges merged) (inner : Observer σ)
    (changes : List Change) :
    (inner.limiting.limiting.after nested changes).Merges
      (inner.limiting.after merged changes) := by
  induction changes generalizing nested merged with
  | nil => exact merges
  | cons change rest ih => exact ih (observe_merges merges inner change).2

theorem answers_merges (merges : nested.Merges merged) (inner : Observer σ)
    (changes : List Change) :
    inner.limiting.limiting.answers nested changes = inner.limiting.answers merged changes := by
  induction changes generalizing nested merged with
  | nil => rfl
  | cons change rest ih =>
      obtain ⟨answer, next⟩ := observe_merges merges inner change
      rw [answers_cons, answers_cons, answer, ih next]

end Nested

/-- A budget within a budget is the smaller one of both. -/
theorem accountWithinBoth_eq (inner : Observer σ) (outer within : UInt64) (state : σ)
    (changes : List Change) :
    inner.accountWithinBoth outer within state changes =
      inner.accountWithin (min outer within) state changes := by
  have logged :=
    after_merges (Limited.merges_start outer within (state, [])) inner.logging changes
  have answered := answers_merges (Limited.merges_start outer within state) inner changes
  rw [accountWithinBoth, accountWithin, logged.inner, answered]

/-- Under a budget, the first changes reach the inner observer, as many as there are
or as the budget allows, and no others. More is wanted after a change if the budget
allows for yet another one and the inner observer wants more, too. Each change takes
one off the budget until nothing is left, so it never rises. Of two budgets, one
within the other, the smaller one decides, whichever of them it is. -/
theorem limiting_run (inner : Observer σ) (budget : UInt64) (state : σ)
    (changes : List Change) :
    let passed := changes.take (min changes.length budget.toNat)
    let final := inner.limiting.after (.start budget state) changes
    let answered := inner.limiting.answers (.start budget state) changes
    final.inner = inner.after state passed ∧
      (inner.logging.limiting.after (.start budget (state, [])) changes).inner =
        (final.inner, passed) ∧
      answered.length = changes.length ∧
      (∀ place, answered[place]? = some true ↔
        place + 1 < budget.toNat ∧ (inner.answers state passed)[place]? = some true) ∧
      final.remaining.toNat = budget.toNat - min changes.length budget.toNat ∧
      (∀ count, final.remaining ≤
        (inner.limiting.after (.start budget state) (changes.take count)).remaining) ∧
      ∀ other,
        inner.accountWithinBoth budget other state changes =
            inner.accountWithin (min budget other) state changes ∧
          inner.accountWithinBoth other budget state changes =
            inner.accountWithin (min budget other) state changes := by
  intro passed final answered
  have allowed : changes.take budget.toNat = passed := by
    rw [List.take_eq_take_iff]
    omega
  have reached : final.inner = inner.after state passed :=
    allowed ▸ inner.inner_after_limiting (.start budget state) changes
  have left : final.remaining.toNat = budget.toNat - changes.length :=
    inner.remaining_after_limiting (.start budget state) changes
  refine ⟨reached, ?_, length_answers _ _ _, ?_, ?_, ?_, ?_⟩
  · have logged := inner.logging.inner_after_limiting (.start budget (state, [])) changes
    rw [logged, reached, ← allowed]
    exact inner.after_logging state [] (changes.take budget.toNat)
  · intro place
    rw [← allowed]
    exact inner.getElem?_answers_limiting (.start budget state) changes place
  · rw [left]
    omega
  · intro count
    rw [UInt64.le_iff_toNat_le, left, remaining_after_limiting]
    exact Nat.sub_le_sub_left (List.length_take_le' count changes) budget.toNat
  · intro other
    refine ⟨inner.accountWithinBoth_eq budget other state changes, ?_⟩
    have smaller : min other budget = min budget other := by
      rw [← UInt64.toNat_inj, UInt64.toNat_min, UInt64.toNat_min, Nat.min_comm]
    rw [accountWithinBoth_eq, smaller]

/-- The flag tells that the budget was used up or a change was dropped, unless the
inner observer stops at the last change and with it the budget is just used up. -/
theorem limiting_saturated_iff (inner : Observer σ) (budget : UInt64) (state : σ)
    (changes : List Change) :
    (inner.limiting.after (.start budget state) changes).saturated = true ↔
      (1 ≤ changes.length ∧ budget.toNat ≤ changes.length) ∧
        ¬ (changes.length = budget.toNat ∧
          (inner.answers state changes).getLast? = some false) := by
  have answered := inner.length_answers state changes
  simp only [saturated_after_limiting, Limited.start]
  cases answers : (inner.answers state changes).getLast? with
  | none =>
      rw [List.getLast?_eq_none_iff.mp answers, List.length_nil] at answered
      simp [← answered]
  | some answer =>
      have offered : 1 ≤ changes.length := by
        rw [← answered]
        exact List.length_pos_of_mem (List.mem_of_getLast? answers)
      cases answer with
      | false =>
          simp only [Bool.false_eq_true, Option.some.injEq, and_false, or_false, false_or,
            and_true]
          omega
      | true =>
          simp only [Option.some.injEq, Bool.true_eq_false, Bool.false_eq_true, and_false,
            and_true,
            false_or, not_false_eq_true]
          omega

/-- An observer that stops at the first change, under a budget of one: the budget is
used up, and the flag does not tell. -/
theorem saturated_unset_at_last :
    let change : Change := ⟨"Sources", "/src/a", "a", .added .regularFile⟩
    let final := detecting.limiting.after (.start 1 false) [change]
    final.remaining = 0 ∧
      ¬ (final.saturated = true ↔
        1 ≤ [change].length ∧ (1 : UInt64).toNat ≤ [change].length) := by
  decide

end Observer

end Drift
