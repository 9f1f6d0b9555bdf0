import Drift.Proofs.Reconcile.Pairing

/-!
# One name at a time

A comparison by name mixes the names: its missing entries are walked over by
fingerprint, which puts the digest before the name, and a path may go from one name
to another. Still what it tells of a name depends on the entries of that name alone,
since accounting joins entries of one fingerprint and pairing entries of one name.
-/

namespace Drift

namespace Collection

/-- The entries of a collection that have a normalized path. -/
def named (collection : Collection) (name : String) : Collection where
  entries := collection.entries.filter fun entry => entry.fingerprint.normalizedPath = name
  nodup_paths := collection.nodup_paths.sublist (List.filter_sublist.map _)

theorem entries_named (collection : Collection) (name : String) :
    (collection.named name).entries =
      collection.entries.filter fun entry => entry.fingerprint.normalizedPath = name :=
  rfl

theorem mem_entries_named {collection : Collection} {name : String} {entry : Entry} :
    entry ∈ (collection.named name).entries ↔
      entry ∈ collection.entries ∧ entry.fingerprint.normalizedPath = name := by
  rw [entries_named, List.mem_filter, decide_eq_true_iff]

/-- Of the fingerprints of a name, a collection has the same ones at each path as its
part of that name. -/
theorem get?_named_eq_some_iff {collection : Collection} {path : String}
    {fingerprint : Fingerprint} :
    (collection.named fingerprint.normalizedPath).get? path = some fingerprint ↔
      collection.get? path = some fingerprint := by
  rw [get?_eq_some_iff, get?_eq_some_iff, mem_entries_named]
  exact and_iff_left rfl

end Collection

namespace Reconcile.ByName

variable (own other : Collection)

/-- The loose entries of a fingerprint are those among the entries of its name. -/
theorem loose_named (fingerprint : Fingerprint) :
    loose Fingerprint.self (own.named fingerprint.normalizedPath)
        (other.named fingerprint.normalizedPath) fingerprint =
      loose Fingerprint.self own other fingerprint := by
  rw [loose, loose, Collection.entries_named, List.filter_filter]
  apply List.filter_congr
  intro entry _
  by_cases here : entry.fingerprint = fingerprint
  · simp [here, Collection.get?_named_eq_some_iff]
  · simp [here]

/-- What remains of the entries of a name is what has that name of all that
remains. -/
theorem remaining_named (name : String) :
    remaining (own.named name) (other.named name) =
      (remaining own other).filter fun entry => entry.fingerprint.normalizedPath = name := by
  rw [remaining, remaining, Reconcile.remaining, Reconcile.remaining, List.filter_comm,
    Collection.entries_named]
  apply List.filter_congr
  intro entry member
  obtain rfl : entry.fingerprint.normalizedPath = name :=
    of_decide_eq_true (List.mem_filter.mp member).2
  rw [remainingOf, remainingOf, loose_named, loose_named]

/-- What becomes of the missing entries of a name is decided among them, by the
candidates of that name. -/
theorem filter_pairing {name : String} {candidates others : Candidates}
    (same : candidates.under name = others.under name) (missing : List Entry) :
    ((pairing missing candidates).1.filter fun outcome =>
        outcome.1.fingerprint.normalizedPath = name) =
      (pairing (missing.filter fun old => old.fingerprint.normalizedPath = name) others).1 := by
  induction missing generalizing candidates others with
  | nil => rfl
  | cons old missing ih =>
      by_cases here : old.fingerprint.normalizedPath = name
      · -- Both walks take what is next under the name.
        subst here
        rw [List.filter_cons_of_pos (by simp), pairing, pairing, Buckets.take?_eq,
          Buckets.take?_eq, same]
        cases (others.under old.fingerprint.normalizedPath).head? with
        | none => simp [ih same]
        | some candidate =>
            have next : (candidates.drop old.fingerprint.normalizedPath).under
                  old.fingerprint.normalizedPath =
                (others.drop old.fingerprint.normalizedPath).under
                  old.fingerprint.normalizedPath := by
              simp [same]
            simp [ih next]
      · -- The walk over all names takes from another name, if at all.
        rw [List.filter_cons_of_neg (by simpa using here), pairing]
        cases taken : candidates.take? old.fingerprint.normalizedPath with
        | none => simp [here, ih same]
        | some result =>
            have untouched := (Buckets.under_of_take? taken).2 name (Ne.symm here)
            simp [here, ih (untouched.trans same)]

variable (current previous : Collection) (name : String)

theorem toList_missing_named :
    (split (current.named name) (previous.named name)).missing.toList =
      (split current previous).missing.toList.filter fun old =>
        old.fingerprint.normalizedPath = name := by
  rw [toList_missing, toList_missing, remaining_named, filter_sorted]

theorem under_candidates_named :
    (split (current.named name) (previous.named name)).candidates.under name =
      (split current previous).candidates.under name := by
  rw [under_candidates, under_candidates, remaining_named, List.filter_filter]
  simp only [Bool.and_self]

theorem outcomes_named :
    outcomes (current.named name) (previous.named name) =
      (outcomes current previous).filter fun outcome =>
        outcome.1.fingerprint.normalizedPath = name := by
  rw [outcomes, outcomes, toList_missing_named]
  exact (filter_pairing (under_candidates_named current previous name).symm _).symm

/-- Entries that are left over under a name were all left over from that name. -/
theorem filter_leftover_named :
    ((leftover (current.named name) (previous.named name)).filter fun entry =>
        entry.fingerprint.normalizedPath = name) =
      leftover (current.named name) (previous.named name) := by
  apply List.filter_eq_self.mpr
  intro entry member
  have shared := taken_append_leftover_perm (current.named name) (previous.named name)
  have remains := shared.mem_iff.mpr (List.mem_append_right _ member)
  rw [remaining_named] at remains
  exact (List.mem_filter.mp remains).2

theorem leftover_named :
    leftover (current.named name) (previous.named name) =
      (leftover current previous).filter fun entry =>
        entry.fingerprint.normalizedPath = name := by
  rw [← filter_leftover_named, leftover, leftover, Buckets.filter_toList, Buckets.filter_toList,
    under_pairing, under_pairing, under_candidates_named, toList_missing_named]
  simp only [List.countP_filter, Bool.and_self]

/-- The change that tells what became of a missing entry has the entry's name. -/
theorem filter_map_fate {outcomes : List (Entry × Option Entry)}
    (named : ∀ old candidate, (old, some candidate) ∈ outcomes →
      candidate.fingerprint.normalizedPath = old.fingerprint.normalizedPath) (title : String) :
    ((outcomes.map (fate title)).filter fun change => change.normalizedPath = name) =
      (outcomes.filter fun outcome =>
        outcome.1.fingerprint.normalizedPath = name).map (fate title) := by
  rw [List.filter_map]
  congr 1
  apply List.filter_congr
  rintro ⟨old, candidate?⟩ member
  cases candidate? with
  | none => rfl
  | some candidate =>
      exact congrArg (decide <| · = name) (named old candidate member)

end Reconcile.ByName

/-- The changes at a normalized path are those between the entries of that name, in
the same order. -/
theorem Policy.filter_changes_eq_changes_named (current previous : Collection)
    (name title : String) (includeAdded : Bool) :
    ((normalized.changes current previous title includeAdded).filter fun change =>
        change.normalizedPath = name) =
      normalized.changes (current.named name) (previous.named name) title includeAdded := by
  have named (old candidate : Entry)
      (member : (old, some candidate) ∈ Reconcile.ByName.outcomes current previous) :
      candidate.fingerprint.normalizedPath = old.fingerprint.normalizedPath :=
    Reconcile.ByName.normalizedPath_of_mem_pairing member
  have additions : ((if includeAdded then
        (Reconcile.ByName.leftover current previous).map (Entry.added title) else []).filter
          fun change => change.normalizedPath = name) =
      if includeAdded then
        ((Reconcile.ByName.leftover current previous).filter fun entry =>
          entry.fingerprint.normalizedPath = name).map (Entry.added title)
      else [] := by
    cases includeAdded with
    | false => rfl
    | true => exact List.filter_map
  rw [changes_eq_sequence, changes_eq_sequence, sequence, sequence,
    Reconcile.ByName.sequence_eq_reconciled, Reconcile.ByName.sequence_eq_reconciled,
    Reconcile.ByName.reconciled_eq, Reconcile.ByName.reconciled_eq, List.filter_append,
    Reconcile.ByName.filter_map_fate name named, additions, Reconcile.ByName.outcomes_named,
    Reconcile.ByName.leftover_named]

end Drift
