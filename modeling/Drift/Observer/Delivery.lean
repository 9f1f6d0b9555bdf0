import Drift.Observer.Basic

/-!
# Deliveries

A comparison does not collect its changes. It offers each one to an observer as
soon as it has found it, and goes on with its own state only if the observer
wants more. A delivery is one stretch of such a comparison: it runs on the
observer's state and comes to a result, or to none because it was stopped.
-/

namespace Drift

/-- A stretch of a comparison under an observer with state `σ`. -/
def Delivery (σ : Type u) (α : Type v) : Type (max u v) := σ → Option α × σ

namespace Delivery

variable {σ : Type u}

instance : Monad (Delivery σ) where
  pure value state := (some value, state)
  bind delivery next state :=
    match delivery state with
    | (some value, later) => next value later
    | (none, final) => (none, final)

@[simp] theorem pure_apply (value : α) (state : σ) :
    (pure value : Delivery σ α) state = (some value, state) := rfl

@[simp] theorem bind_apply (delivery : Delivery σ α) (next : α → Delivery σ β) (state : σ) :
    (delivery >>= next) state =
      match delivery state with
      | (some value, later) => next value later
      | (none, final) => (none, final) := rfl

theorem id_map (delivery : Delivery σ α) : id <$> delivery = delivery := by
  funext state
  change (delivery >>= pure) state = _
  rw [bind_apply]
  rcases delivery state with ⟨_ | value, later⟩ <;> rfl

theorem bind_assoc (delivery : Delivery σ α) (next : α → Delivery σ β)
    (after : β → Delivery σ γ) :
    delivery >>= next >>= after = delivery >>= fun value => next value >>= after := by
  funext state
  simp only [bind_apply]
  rcases delivery state with ⟨_ | value, later⟩ <;> rfl

instance : LawfulMonad (Delivery σ) :=
  LawfulMonad.mk' _ id_map (fun _ _ => rfl) bind_assoc

/-- Whether a delivery came to its end, and the observer's state. -/
def run (delivery : Delivery σ α) (state : σ) : Bool × σ :=
  let (result, final) := delivery state
  (result.isSome, final)

end Delivery

namespace Observer

variable {σ : Type u}

/-- Offers a change. What would follow does not happen unless the observer
wants more. -/
def offer (observer : Observer σ) (change : Change) : Delivery σ Unit := fun state =>
  match observer.observe state change with
  | (true, next) => (some (), next)
  | (false, next) => (none, next)

/-- Goes over some items and offers the changes that there are at them. -/
def offerEach (observer : Observer σ) (change? : α → Option Change) : List α → Delivery σ Unit
  | [] => pure ()
  | item :: rest =>
      match change? item with
      | none => observer.offerEach change? rest
      | some change => do
          observer.offer change
          observer.offerEach change? rest

end Observer

end Drift
