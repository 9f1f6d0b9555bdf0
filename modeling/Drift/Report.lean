import Drift.Observer.Limited
import Drift.Reconcile
import Drift.Settings

/-!
# Reports

A report tells the first changes of a property in words, up to the cap of its
settings, and whether the cap was reached.
-/

namespace Drift

/-- The messages about a property's changes. -/
structure Report where
  messages : List String
  /-- Whether the cap was reached, so that there may be more changes. -/
  saturated : Bool
  deriving DecidableEq, Repr

namespace Report

/-- Compares two states and tells as many changes as the settings allow. -/
def collect (settings : Settings) (title : String) (current previous : Collection)
    (sorter : Sorter := .stable) : Report :=
  let (completed, final) := settings.policy.compare Observer.recording.limiting
    (.start settings.cap #[]) current previous title settings.includeAdded sorter
  ⟨final.inner.toList, !completed || final.saturated⟩

/-- Whether there is nothing to tell. -/
def isEmpty (report : Report) : Bool :=
  report.messages.isEmpty

end Report

end Drift
