import Drift.Change

/-!
# Observers

A comparison hands its changes to an observer, one at a time, and stops when
the observer has seen enough. An observer is a transition on its own state
that also answers whether it wants to go on.
-/

namespace Drift

/-- A consumer of changes with state `σ`. -/
structure Observer (σ : Type u) where
  /-- Takes one change and answers whether more are wanted. -/
  observe : σ → Change → Bool × σ

namespace Observer

/-- Keeps every change and always goes on. -/
def collecting : Observer (Array Change) where
  observe seen change := (true, seen.push change)

/-- Keeps every change and goes on while it has seen fewer than `enough`. -/
def collectingUntil (enough : UInt64) : Observer (Array Change) where
  observe seen change :=
    let seen := seen.push change
    (seen.size < enough.toNat, seen)

/-- Remembers that there was a change and stops. -/
def detecting : Observer Bool where
  observe _ _ := (false, true)

/-- Keeps the message of every change and always goes on. -/
def recording : Observer (Array String) where
  observe messages change := (true, messages.push change.message)

end Observer

end Drift
