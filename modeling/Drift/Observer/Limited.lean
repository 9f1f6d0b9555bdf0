import Drift.Observer.Basic

/-!
# Limited observers

A budget caps how many changes reach an observer. Whoever hands over changes
is told to stop with the one that uses the budget up, and any later one is
dropped.
-/

namespace Drift

/-- The state of an observer with a budget. -/
structure Limited (σ : Type u) where
  /-- Changes that may still be passed on. -/
  remaining : UInt64
  /-- Whether a change was dropped or the last one of the budget was taken by
  an observer that would have gone on. -/
  saturated : Bool
  inner : σ

namespace Limited

/-- An observer's state before any change, under a budget. -/
def start (budget : UInt64) (inner : σ) : Limited σ :=
  ⟨budget, false, inner⟩

end Limited

/-- Passes changes on while the budget lasts. -/
def Observer.limiting (inner : Observer σ) : Observer (Limited σ) where
  observe state change :=
    if state.remaining = 0 then
      (false, { state with saturated := true })
    else
      let remaining := state.remaining - 1
      match inner.observe state.inner change with
      | (false, next) => (false, { state with remaining, inner := next })
      | (true, next) =>
        if remaining = 0 then (false, ⟨remaining, true, next⟩)
        else (true, { state with remaining, inner := next })

end Drift
