import Drift.Proofs.Reconcile.Pairing

/-!
# Relocated entries

An unsettled current entry may account for a previous one with an equal fingerprint
at another path. Of each fingerprint the entries of both sides are paired in the
order of their paths, for as long as there are any on both sides. With the settled
entries and the ones that remain, the pairs make up both collections.
-/

namespace Drift.Reconcile.ByName

variable (current previous : Collection)

/-- The current entries that account for a previous one at another path, each with
the entry that it takes. -/
def relocations : List (Entry × Entry) :=
  Buckets.absorbed (sorted Entry.byFingerprint (unsettled Fingerprint.self current previous))
    (.ofEntries (unsettled Fingerprint.self previous current) : Missing)

theorem relocations_of_fingerprint (fingerprint : Fingerprint) :
    (relocations current previous).filter (fun move => move.1.fingerprint = fingerprint) =
      (sorted Entry.byPath (loose Fingerprint.self current previous fingerprint)).zip
        (sorted Entry.byPath (loose Fingerprint.self previous current fingerprint)) := by
  have paired := Buckets.absorbed_of_key
    (sorted Entry.byFingerprint (unsettled Fingerprint.self current previous))
    (.ofEntries (unsettled Fingerprint.self previous current) : Missing) fingerprint
  rw [filter_sorted_unsettled, under_ofEntries_unsettled, sorted_byFingerprint_loose] at paired
  exact paired

variable {current previous} in
theorem fingerprint_eq_of_mem_relocations {move : Entry × Entry}
    (member : move ∈ relocations current previous) :
    move.1.fingerprint = move.2.fingerprint := by
  exact Buckets.key_of_mem_absorbed member

theorem unsettled_current_perm :
    (unsettled Fingerprint.self current previous).Perm
      ((relocations current previous).map Prod.fst ++ remaining current previous) := by
  have offered :=
    (sorted_perm Entry.byFingerprint (unsettled Fingerprint.self current previous)).symm
  have parts := offered.trans (Buckets.absorbed_fst_perm _
    (.ofEntries (unsettled Fingerprint.self previous current) : Missing))
  exact parts.trans ((unmatched_perm current previous).append_left _)

theorem unsettled_previous_perm :
    (unsettled Fingerprint.self previous current).Perm
      ((relocations current previous).map Prod.snd ++ remaining previous current) := by
  have held : (.ofEntries (unsettled Fingerprint.self previous current) : Missing).toList.Perm
      (unsettled Fingerprint.self previous current) := Buckets.toList_ofEntries_perm _
  have parts := held.symm.trans (Buckets.absorbed_snd_perm
    (sorted Entry.byFingerprint (unsettled Fingerprint.self current previous)) _)
  refine parts.trans (List.Perm.append_left _ ?_)
  exact (List.Perm.of_eq (toList_missing current previous)).trans (sorted_perm _ _)

theorem current_entries_perm :
    current.entries.Perm (settled Fingerprint.self current previous ++
      ((relocations current previous).map Prod.fst ++ remaining current previous)) :=
  (entries_perm Fingerprint.self current previous).trans
    ((unsettled_current_perm current previous).append_left _)

theorem previous_entries_perm :
    previous.entries.Perm (settled Fingerprint.self previous current ++
      ((relocations current previous).map Prod.snd ++ remaining previous current)) :=
  (entries_perm Fingerprint.self previous current).trans
    ((unsettled_previous_perm current previous).append_left _)

end Drift.Reconcile.ByName
