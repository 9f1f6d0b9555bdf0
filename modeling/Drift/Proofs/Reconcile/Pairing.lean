import Drift.Proofs.Reconcile.Remaining
import Drift.Proofs.Reconcile.Sequence

/-!
# Pairing by name

The pairing walks over missing entries of all names, but what it does to one
name depends on that name alone: its first missing entry gets its first
candidate, its second one the second, and so on for as long as there are any.
What accounting hands on to it are the entries that remain of both sides, the
missing ones by fingerprint and the candidates of each name by path.
-/

namespace Drift.Reconcile.ByName

/-- Of each name, the pairing takes a candidate for every missing entry. -/
theorem under_pairing (missing : List Entry) (candidates : Candidates) (name : String) :
    (pairing missing candidates).2.under name =
      (candidates.under name).drop
        (missing.countP fun old => old.fingerprint.normalizedPath = name) := by
  induction missing generalizing candidates with
  | nil => rfl
  | cons old missing ih =>
      rw [pairing]
      cases taken : candidates.take? old.fingerprint.normalizedPath with
      | none =>
          have exhausted := Buckets.take?_eq_none_iff.mp taken
          by_cases here : old.fingerprint.normalizedPath = name
          · subst here
            simp [ih, exhausted]
          · simp [ih, here]
      | some result =>
          obtain ⟨bucket, elsewhere⟩ := Buckets.under_of_take? taken
          by_cases here : old.fingerprint.normalizedPath = name
          · subst here
            simp [ih, bucket]
          · simp [ih, here, elsewhere name (Ne.symm here)]

/-- A missing entry gets the candidate of its own rank among those of its
name. -/
theorem pairing_eq_mapIdx (missing : List Entry) (candidates : Candidates) :
    (pairing missing candidates).1 = missing.mapIdx fun place old =>
      (old, (candidates.under old.fingerprint.normalizedPath)[
        (missing.take place).countP fun earlier =>
          earlier.fingerprint.normalizedPath = old.fingerprint.normalizedPath]?) := by
  induction missing generalizing candidates with
  | nil => rfl
  | cons old missing ih =>
      rw [pairing]
      cases taken : candidates.take? old.fingerprint.normalizedPath with
      | none =>
          have exhausted := Buckets.take?_eq_none_iff.mp taken
          simp only [List.mapIdx_cons, ih, List.take_zero, List.countP_nil, exhausted,
            List.getElem?_nil, List.cons.injEq, true_and]
          apply List.mapIdx_eq_mapIdx_iff.mpr
          intro place inside
          by_cases here :
              old.fingerprint.normalizedPath = missing[place].fingerprint.normalizedPath
          · simp [← here, exhausted]
          · simp [here]
      | some result =>
          obtain ⟨bucket, elsewhere⟩ := Buckets.under_of_take? taken
          simp only [List.mapIdx_cons, ih, List.take_zero, List.countP_nil, bucket,
            List.getElem?_cons_zero, List.cons.injEq, true_and]
          apply List.mapIdx_eq_mapIdx_iff.mpr
          intro place inside
          by_cases here :
              old.fingerprint.normalizedPath = missing[place].fingerprint.normalizedPath
          · simp [← here, bucket]
          · simp [here, elsewhere _ (Ne.symm here)]

/-- The pairing sees no more of the candidates than what is under each name. -/
theorem pairing_of_alike {candidates others : Candidates} (alike : candidates.Alike others)
    (missing : List Entry) :
    (pairing missing candidates).1 = (pairing missing others).1 ∧
      (pairing missing candidates).2.Alike (pairing missing others).2 := by
  induction missing generalizing candidates others with
  | nil => exact ⟨rfl, alike⟩
  | cons old missing ih =>
      rw [pairing, pairing, Buckets.take?_eq, Buckets.take?_eq, alike]
      cases (others.under old.fingerprint.normalizedPath).head? with
      | none =>
          obtain ⟨outcomes, left⟩ := ih alike
          exact ⟨congrArg ((old, none) :: ·) outcomes, left⟩
      | some candidate =>
          obtain ⟨outcomes, left⟩ := ih (alike.drop old.fingerprint.normalizedPath)
          exact ⟨congrArg ((old, some candidate) :: ·) outcomes, left⟩

theorem map_fst_pairing (missing : List Entry) (candidates : Candidates) :
    (pairing missing candidates).1.map Prod.fst = missing := by
  rw [pairing_eq_mapIdx]
  apply List.ext_getElem
  · simp
  · intro place _ _
    simp

/-- Every candidate is taken once or left over. -/
theorem candidates_perm (missing : List Entry) (candidates : Candidates) :
    candidates.toList.Perm
      ((pairing missing candidates).1.filterMap Prod.snd ++
        (pairing missing candidates).2.toList) := by
  induction missing generalizing candidates with
  | nil => exact .refl _
  | cons old missing ih =>
      rw [pairing]
      cases taken : candidates.take? old.fingerprint.normalizedPath with
      | none => exact ih candidates
      | some result =>
          exact (Buckets.toList_perm_of_take? taken).trans ((ih result.2).cons result.1)

theorem normalizedPath_of_mem_pairing {missing : List Entry} {candidates : Candidates}
    {old candidate : Entry} (member : (old, some candidate) ∈ (pairing missing candidates).1) :
    candidate.fingerprint.normalizedPath = old.fingerprint.normalizedPath := by
  rw [pairing_eq_mapIdx] at member
  obtain ⟨place, inside, equal⟩ := List.mem_mapIdx.mp member
  obtain ⟨rfl, found⟩ := Prod.mk.inj equal
  exact Buckets.key_of_mem_under (List.mem_of_getElem? found)

/-- All entries that remain of a collection where entries of one fingerprint account
for each other, those with the smallest paths first. -/
abbrev remaining (own other : Collection) : List Entry :=
  Reconcile.remaining (fun fingerprint => fingerprint) (orderBy Entry.path Text.order) own other

/-- Entries of one fingerprint come by fingerprint and path in the order of their
paths. -/
theorem sorted_byFingerprint_loose (own other : Collection) (fingerprint : Fingerprint) :
    sorted Entry.byFingerprint (loose Fingerprint.self own other fingerprint) =
      sorted Entry.byPath (loose Fingerprint.self own other fingerprint) := by
  apply Entry.eq_sorted_byPath
  · have shared (entry : Entry) (member : entry ∈
        sorted Entry.byFingerprint (loose Fingerprint.self own other fingerprint)) :
        entry.fingerprint = fingerprint :=
      ((mem_loose Fingerprint.self own other fingerprint).mp (mem_sorted.mp member)).2.1
    exact Entry.ascending_byPath_of_key (ascending_sorted _ _) shared
  · exact own.nodup_paths.sublist (List.filter_sublist.map _)
  · exact sorted_perm _ _

theorem remaining_eq (own other : Collection) :
    Reconcile.remaining Fingerprint.self Entry.byFingerprint own other =
      remaining own other := by
  apply List.filter_congr
  intro entry _
  rw [remainingOf, remainingOf, sorted_byFingerprint_loose]

variable (current previous : Collection)

/-- The current entries that account for nothing. -/
def unmatched : List Entry :=
  (accounted Fingerprint.self Fingerprint.order current previous).1

theorem unmatched_perm : (unmatched current previous).Perm (remaining current previous) := by
  rw [unmatched, accounted_fst_eq, remaining_eq]
  exact sorted_perm _ _

/-- Missing entries are walked over by fingerprint and path. -/
theorem toList_missing :
    (split current previous).missing.toList =
      sorted Entry.byFingerprint (remaining previous current) :=
  toList_accounted_snd Fingerprint.self Fingerprint.order current previous

theorem candidates_split_perm :
    (split current previous).candidates.toList.Perm (remaining current previous) :=
  (Buckets.toList_ofEntries_perm _).trans (unmatched_perm current previous)

/-- Candidates of a name are taken by path. -/
theorem under_candidates (name : String) :
    (split current previous).candidates.under name = sorted Entry.byPath
      ((remaining current previous).filter fun entry =>
        entry.fingerprint.normalizedPath = name) := by
  apply Entry.eq_sorted_byPath
  · exact Buckets.ascending_under_ofEntries _ _
  · exact (distinct_remaining _ _ current previous).sublist (List.filter_sublist.map _)
  · rw [← Buckets.filter_toList]
    exact (candidates_split_perm current previous).filter _

/-- Missing entries and what became of them. -/
def outcomes : List (Entry × Option Entry) :=
  (pairing (split current previous).missing.toList (split current previous).candidates).1

/-- The candidates that no missing entry took. -/
def leftover : List Entry :=
  (pairing (split current previous).missing.toList (split current previous).candidates).2.toList

theorem reconciled_eq (title : String) (includeAdded : Bool) :
    reconciled current previous title includeAdded =
      (outcomes current previous).map (fate title) ++
        if includeAdded then (leftover current previous).map (Entry.added title) else [] :=
  rfl

theorem map_fst_outcomes :
    (outcomes current previous).map Prod.fst =
      sorted Entry.byFingerprint (remaining previous current) := by
  rw [outcomes, map_fst_pairing, toList_missing]

theorem taken_append_leftover_perm :
    (remaining current previous).Perm
      ((outcomes current previous).filterMap Prod.snd ++ leftover current previous) :=
  (candidates_split_perm current previous).symm.trans (candidates_perm _ _)

/-- Where nothing differs, nothing remains either. -/
theorem sequence_eq_reconciled (title : String) (includeAdded : Bool) :
    sequence current previous title includeAdded =
      reconciled current previous title includeAdded := by
  rw [sequence]
  split
  · rename_i identical
    have perm := (current.identical_iff_perm previous).mp identical
    have missing := map_fst_outcomes current previous
    have candidates := taken_append_leftover_perm current previous
    rw [remaining, remaining_eq_nil_of_perm _ _ perm.symm] at missing
    rw [remaining, remaining_eq_nil_of_perm _ _ perm] at candidates
    have noOutcomes : outcomes current previous = [] :=
      List.map_eq_nil_iff.mp (missing.trans (sorted_eq_nil_iff.mpr rfl))
    have noLeftover := (List.append_eq_nil_iff.mp candidates.symm.eq_nil).2
    rw [reconciled_eq, noOutcomes, noLeftover]
    cases includeAdded <;> rfl
  · rfl

end Drift.Reconcile.ByName
