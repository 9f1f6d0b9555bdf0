import Drift.Proofs.Reconcile.Sequence
import Drift.Proofs.Reconcile.Buckets

/-!
# Buckets in descending order

Entries with distinct paths are held with their paths strictly descending. Taking
one removes the last entry of its bucket and leaves the others as they are, so the
order is kept however many are taken and whatever they are taken for, and each
entry has the smallest path that is left under its key when it is taken.
-/

namespace Drift

theorem Entry.pairwise_lt_sorted_byPath {entries : List Entry}
    (distinct : (entries.map path).Nodup) :
    (sorted byPath entries).Pairwise fun left right => byPath left right = .lt := by
  have perm := (sorted_perm byPath entries).map path
  have ascending : Ascending Text.order ((sorted byPath entries).map path) :=
    List.pairwise_map.mpr (ascending_sorted byPath entries)
  exact List.pairwise_map.mp (ascending.pairwise_lt_of_nodup (perm.nodup_iff.mpr distinct))

namespace Reconcile.Buckets

variable {κ : Type u} {key : Fingerprint → κ} {order : κ → κ → Ordering}
variable [Std.TransCmp order] [Std.LawfulEqCmp order] [DecidableEq κ]

/-- Buckets whose paths descend strictly, and from which the smallest path of a key
is taken. -/
structure Orderly (held : Buckets key order) : Prop where
  descending : ∀ {value : κ} {bucket : Array Entry}, held.buckets[value]? = some bucket →
    bucket.toList.Pairwise fun left right => Entry.byPath left right = .gt
  smallest : ∀ {value : κ} {entry : Entry} {others : Buckets key order},
    held.take? value = some (entry, others) →
      held.under value = entry :: others.under value ∧
        ∀ other ∈ others.under value, Entry.byPath entry other = .lt

/-- Buckets are in order if they list the paths of each key strictly ascending. -/
theorem orderly_iff {held : Buckets key order} :
    held.Orderly ↔
      ∀ value, (held.under value).Pairwise fun left right => Entry.byPath left right = .lt := by
  have reversed (bucket : Array Entry) :
      (bucket.toList.Pairwise fun left right => Entry.byPath left right = .gt) ↔
        bucket.toList.reverse.Pairwise fun left right => Entry.byPath left right = .lt := by
    simp only [List.pairwise_reverse, Std.OrientedCmp.gt_iff_lt]
  constructor
  · intro orderly value
    rw [under]
    cases found : held.buckets[value]? with
    | none => exact .nil
    | some bucket => exact (reversed bucket).mp (orderly.descending found)
  · intro ascending
    constructor
    · intro value bucket found
      have listed := ascending value
      rw [under, found] at listed
      exact (reversed bucket).mpr listed
    · intro value entry others taken
      obtain ⟨here, -⟩ := under_of_take? taken
      have listed := ascending value
      rw [here] at listed
      exact ⟨here, (List.pairwise_cons.mp listed).1⟩

theorem orderly_ofEntries {entries : List Entry} (distinct : (entries.map Entry.path).Nodup) :
    (ofEntries entries : Buckets key order).Orderly := by
  rw [orderly_iff]
  intro value
  rw [under_ofEntries_eq_sorted distinct]
  exact Entry.pairwise_lt_sorted_byPath (distinct.sublist (List.filter_sublist.map _))

namespace Orderly

variable {held : Buckets key order}

/-- One entry fewer under one key leaves the buckets in order. -/
theorem drop (orderly : held.Orderly) (value : κ) : (held.drop value).Orderly := by
  rw [orderly_iff] at orderly ⊢
  intro other
  rw [under_drop]
  split
  · exact (orderly other).sublist (List.tail_sublist _)
  · exact orderly other

theorem foldl_drop (orderly : held.Orderly) (values : List κ) :
    (values.foldl Buckets.drop held).Orderly := by
  induction values generalizing held with
  | nil => exact orderly
  | cons value rest ih => exact ih (orderly.drop value)

theorem of_take? (orderly : held.Orderly) {value : κ} {entry : Entry}
    {others : Buckets key order}
    (taken : held.take? value = some (entry, others)) : others.Orderly := by
  rw [take?_eq] at taken
  obtain ⟨_, -, same⟩ := Option.map_eq_some_iff.mp taken
  cases same
  exact orderly.drop value

theorem absorb (orderly : held.Orderly) (entries : List Entry) :
    (Buckets.absorb entries held).2.Orderly := by
  induction entries generalizing held with
  | nil => exact orderly
  | cons entry rest ih =>
      rw [Buckets.absorb]
      cases taken : held.take? (key entry.fingerprint) with
      | none => exact ih orderly
      | some result => exact ih (orderly.of_take? taken)

end Orderly

end Reconcile.Buckets

/-- Pairing missing entries of any names leaves the candidates in order. -/
theorem Reconcile.ByName.orderly_pairing {candidates : Candidates}
    (orderly : candidates.Orderly)
    (missing : List Entry) : (pairing missing candidates).2.Orderly := by
  induction missing generalizing candidates with
  | nil => exact orderly
  | cons old rest ih =>
      rw [pairing]
      cases taken : candidates.take? old.fingerprint.normalizedPath with
      | none => exact ih orderly
      | some result => exact ih (orderly.of_take? taken)

end Drift
