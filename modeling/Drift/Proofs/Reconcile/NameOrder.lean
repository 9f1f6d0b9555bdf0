import Drift.Proofs.Reconcile.Pairing

/-!
# The exact outcome by name

What a comparison by name offers, told without its maps: ranks decide who is
paired with whom, and two orders decide what comes when.
-/

namespace Drift

/-- Entries compare by normalized path, then by path. -/
def Entry.byName : Entry → Entry → Ordering :=
  compareLex (orderBy (fun entry => entry.fingerprint.normalizedPath) Text.order)
    (orderBy path Text.order)

instance : Std.TransCmp Entry.byName :=
  inferInstanceAs (Std.TransCmp (compareLex
    (orderBy (fun entry => entry.fingerprint.normalizedPath) Text.order)
    (orderBy Entry.path Text.order)))

namespace Reconcile.ByName

/-- The current entries of a name that remain, by path. -/
def candidatesNamed (current previous : Collection) (name : String) : List Entry :=
  sorted (orderBy Entry.path Text.order)
    ((remaining current previous).filter fun entry => entry.fingerprint.normalizedPath = name)

/-- The previous entries that remain, by fingerprint and path, each with the
candidate that has its rank among those of its name. -/
def ranked (current previous : Collection) : List (Entry × Option Entry) :=
  let missing := sorted
    (compareLex (orderBy Entry.fingerprint Fingerprint.order) (orderBy Entry.path Text.order))
    (remaining previous current)
  missing.mapIdx fun place old =>
    let rank := (missing.take place).countP fun earlier =>
      earlier.fingerprint.normalizedPath = old.fingerprint.normalizedPath
    (old, (candidatesNamed current previous old.fingerprint.normalizedPath)[rank]?)

/-- The current entries that remain and stand for no previous one. -/
def unused (current previous : Collection) : List Entry :=
  (remaining current previous).filter fun entry =>
    entry ∉ (ranked current previous).filterMap Prod.snd

/-- What became of the previous entries, then the additions. -/
def outcome (current previous : Collection) (title : String) (includeAdded : Bool) :
    List Change :=
  (ranked current previous).map (fate title) ++
    if includeAdded then
      (sorted Entry.byName (unused current previous)).map fun entry =>
        ⟨title, entry.path, entry.fingerprint.normalizedPath, .added entry.fingerprint.fileType⟩
    else
      []

variable (current previous : Collection)

theorem outcomes_eq_ranked : outcomes current previous = ranked current previous := by
  rw [outcomes, pairing_eq_mapIdx, toList_missing, ranked]
  simp only [under_candidates, candidatesNamed]

/-- The candidates that the pairing leaves are those it does not use. -/
theorem leftover_perm : (leftover current previous).Perm (unused current previous) := by
  have shared := taken_append_leftover_perm current previous
  rw [outcomes_eq_ranked] at shared
  exact (filter_not_mem_perm (nodup_remaining _ _ current previous) shared).symm

theorem leftover_eq_sorted :
    leftover current previous = sorted Entry.byName (unused current previous) := by
  have ascending : Ascending Entry.byName (leftover current previous) := by
    apply Buckets.ascending_toList
    intro name
    rw [under_pairing, under_candidates]
    exact (ascending_sorted _ _).sublist (List.drop_sublist _ _)
  have distinct : ((unused current previous).map Entry.path).Nodup :=
    (distinct_remaining _ _ current previous).sublist (List.filter_sublist.map _)
  exact ascending.eq_sorted_of_distinct (Entry.path_eq_of_compareLex_eq _) distinct
    (leftover_perm current previous)

/-- A comparison by name offers its outcome, in order, to an observer that
always goes on. -/
theorem compare_collecting_eq_outcome (current previous : Collection) (title : String)
    (includeAdded : Bool) :
    Policy.normalized.compare .collecting #[] current previous title includeAdded =
      (true, (outcome current previous title includeAdded).toArray) := by
  rw [Policy.compare_collecting, Policy.sequence, sequence_eq_reconciled, reconciled_eq,
    outcomes_eq_ranked, leftover_eq_sorted]
  rfl

end Reconcile.ByName

end Drift
