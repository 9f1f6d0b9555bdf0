import Drift.Proofs.Reconcile.Descending
import Drift.Proofs.Reconcile.Relocation

/-!
# What accounting guarantees

Accounting splits both collections cleanly. Every entry is settled, or has a part in
a relocation, or is handed on under its own key, and never two of these. Of a
fingerprint entries are handed on by one side at most. The buckets they come in are
in order, and stay so while entries are taken out of them.
-/

namespace Drift.Reconcile.ByName

/-- A split of two collections in which each entry is accounted for once, given the
relocated current entries with the previous ones that they absorb. -/
structure Clean (current previous : Collection) (relocated : List (Entry × Entry))
    (split : Split) : Prop where
  /-- Of a fingerprint, either nothing is missing or no candidate has it. -/
  oneSided : ∀ fingerprint, split.missing.under fingerprint = [] ∨
    ∀ candidate ∈ split.candidates.toList, candidate.fingerprint ≠ fingerprint
  /-- An entry is settled on both sides or on neither. -/
  settledAlike : ∀ entry : Entry,
    entry ∈ previous.entries ∧ current.get? entry.path = some entry.fingerprint ↔
      entry ∈ current.entries ∧ previous.get? entry.path = some entry.fingerprint
  /-- A previous entry is settled, absorbed or missing. -/
  previousOnce : ∀ old ∈ previous.entries,
    ExactlyOne (current.get? old.path = some old.fingerprint)
      (∃ new, (new, old) ∈ relocated) (old ∈ split.missing.under old.fingerprint)
  /-- A current entry is settled, relocated or a candidate. -/
  currentOnce : ∀ new ∈ current.entries,
    ExactlyOne (previous.get? new.path = some new.fingerprint)
      (∃ old, (new, old) ∈ relocated)
      (new ∈ split.candidates.under new.fingerprint.normalizedPath)
  /-- The buckets hold nothing but entries of their keys. -/
  missingWithin : ∀ fingerprint, ∀ old ∈ split.missing.under fingerprint,
    old ∈ previous.entries ∧ old.fingerprint = fingerprint
  candidatesWithin : ∀ name, ∀ new ∈ split.candidates.under name,
    new ∈ current.entries ∧ new.fingerprint.normalizedPath = name
  /-- A relocated entry absorbs one that had its fingerprint at another path. -/
  relocatedWithin : ∀ move ∈ relocated, move.1 ∈ current.entries ∧ move.2 ∈ previous.entries ∧
    move.1.fingerprint = move.2.fingerprint ∧ move.1.path ≠ move.2.path
  /-- No entry is relocated twice, and none is absorbed twice. -/
  oneToOne : (relocated.map Prod.fst).Nodup ∧ (relocated.map Prod.snd).Nodup
  /-- Of each fingerprint, the loose entries of both sides are paired by path. -/
  inPathOrder : ∀ fingerprint,
    (relocated.filter fun move => move.1.fingerprint = fingerprint) =
      (sorted (orderBy Entry.path Text.order)
        (loose (fun fingerprint => fingerprint) current previous fingerprint)).zip
      (sorted (orderBy Entry.path Text.order)
        (loose (fun fingerprint => fingerprint) previous current fingerprint))
  /-- Of each fingerprint, as many entries are absorbed as are relocated. -/
  equallyMany : ∀ fingerprint,
    (relocated.map Prod.snd).countP (fun old => old.fingerprint = fingerprint) =
      (relocated.map Prod.fst).countP fun new => new.fingerprint = fingerprint
  /-- The buckets are in order, now and after entries of any keys were taken. -/
  missingOrderly : ∀ taken : List Fingerprint, (taken.foldl Buckets.drop split.missing).Orderly
  candidatesOrderly : ∀ taken : List String, (taken.foldl Buckets.drop split.candidates).Orderly
  /-- So are the candidates at any time while missing entries are paired with them. -/
  pairingOrderly : ∀ paired : List Entry, (pairing paired split.candidates).2.Orderly

variable {current previous : Collection}

theorem mem_under_missing {fingerprint : Fingerprint} {old : Entry} :
    old ∈ (split current previous).missing.under fingerprint ↔
      old ∈ remaining previous current ∧ old.fingerprint = fingerprint := by
  rw [← Buckets.filter_toList, toList_missing]
  simp

theorem mem_under_candidates {name : String} {new : Entry} :
    new ∈ (split current previous).candidates.under name ↔
      new ∈ remaining current previous ∧ new.fingerprint.normalizedPath = name := by
  rw [under_candidates]
  simp

theorem mem_settled_self {own other : Collection} {entry : Entry}
    (member : entry ∈ own.entries) :
    entry ∈ settled Fingerprint.self own other ↔
      other.get? entry.path = some entry.fingerprint := by
  simp [settled, member]

theorem distinct_relocations :
    ((relocations current previous).map Prod.fst).Nodup ∧
      ((relocations current previous).map Prod.snd).Nodup := by
  have ofCurrent := (current_entries_perm current previous).nodup_iff.mp current.nodup_entries
  have ofPrevious :=
    (previous_entries_perm current previous).nodup_iff.mp previous.nodup_entries
  exact ⟨ofCurrent.of_append_right.of_append_left, ofPrevious.of_append_right.of_append_left⟩

theorem previous_exactlyOne {old : Entry} (member : old ∈ previous.entries) :
    ExactlyOne (current.get? old.path = some old.fingerprint)
      (∃ new, (new, old) ∈ relocations current previous)
      (old ∈ (split current previous).missing.under old.fingerprint) := by
  have parts := exactlyOne_of_perm previous.nodup_entries
    (previous_entries_perm current previous) member
  rw [mem_settled_self member] at parts
  simpa [mem_under_missing] using parts

theorem current_exactlyOne {new : Entry} (member : new ∈ current.entries) :
    ExactlyOne (previous.get? new.path = some new.fingerprint)
      (∃ old, (new, old) ∈ relocations current previous)
      (new ∈ (split current previous).candidates.under new.fingerprint.normalizedPath) := by
  have parts := exactlyOne_of_perm current.nodup_entries
    (current_entries_perm current previous) member
  rw [mem_settled_self member] at parts
  simpa [mem_under_candidates] using parts

theorem oneSided_split (fingerprint : Fingerprint) :
    (split current previous).missing.under fingerprint = [] ∨
      ∀ candidate ∈ (split current previous).candidates.toList,
        candidate.fingerprint ≠ fingerprint := by
  by_cases empty : (split current previous).missing.under fingerprint = []
  · exact .inl empty
  · obtain ⟨old, missing⟩ := List.exists_mem_of_ne_nil _ empty
    obtain ⟨remains, rfl⟩ := mem_under_missing.mp missing
    refine .inr fun candidate member => ?_
    have handedOn := (candidates_split_perm current previous).mem_iff.mp member
    exact key_ne_of_mem_remaining handedOn remains

/-- A relocated entry was not there before, so what it absorbs had another path. -/
theorem within_of_mem_relocations {move : Entry × Entry}
    (member : move ∈ relocations current previous) :
    move.1 ∈ current.entries ∧ move.2 ∈ previous.entries ∧
      move.1.fingerprint = move.2.fingerprint ∧ move.1.path ≠ move.2.path := by
  have here : move.1 ∈ current.entries := by
    apply (current_entries_perm current previous).mem_iff.mpr
    exact List.mem_append_right _ (List.mem_append_left _ (List.mem_map_of_mem member))
  have before : move.2 ∈ previous.entries := by
    apply (previous_entries_perm current previous).mem_iff.mpr
    exact List.mem_append_right _ (List.mem_append_left _ (List.mem_map_of_mem member))
  have equal := fingerprint_eq_of_mem_relocations member
  refine ⟨here, before, equal, fun samePath => ?_⟩
  -- At one path the two would be the same entry, which is settled and never relocated.
  have settledHere : previous.get? move.1.path = some move.1.fingerprint := by
    rw [Collection.get?_path_eq_some_iff, Entry.ext samePath equal]
    exact before
  rcases current_exactlyOne here with
    ⟨-, notRelocated, -⟩ | ⟨notSettled, -, -⟩ | ⟨notSettled, -, -⟩
  · exact notRelocated ⟨move.2, member⟩
  · exact notSettled settledHere
  · exact notSettled settledHere

theorem orderly_missing : (split current previous).missing.Orderly :=
  (Buckets.orderly_ofEntries (distinct_unsettled Fingerprint.self previous current)).absorb _

theorem orderly_candidates : (split current previous).candidates.Orderly := by
  apply Buckets.orderly_ofEntries
  have perm := (unmatched_perm current previous).map Entry.path
  exact perm.nodup_iff.mpr (distinct_remaining _ _ current previous)

/-- Accounting splits any two collections cleanly: each entry is settled, relocated or
absorbed, or handed on, and only one of these; relocated entries absorb as many
others of their fingerprint; no fingerprint is handed on by both sides; and what is
taken later is always the smallest path that is left. -/
theorem clean_split (current previous : Collection) :
    Clean current previous (relocations current previous) (split current previous) where
  oneSided := oneSided_split
  settledAlike entry := by
    rw [Collection.get?_path_eq_some_iff, Collection.get?_path_eq_some_iff]
    exact and_comm
  previousOnce _ := previous_exactlyOne
  currentOnce _ := current_exactlyOne
  missingWithin fingerprint old member := by
    obtain ⟨remains, same⟩ := mem_under_missing.mp member
    exact ⟨List.mem_of_mem_filter remains, same⟩
  candidatesWithin name new member := by
    obtain ⟨remains, same⟩ := mem_under_candidates.mp member
    exact ⟨List.mem_of_mem_filter remains, same⟩
  relocatedWithin _ := within_of_mem_relocations
  oneToOne := distinct_relocations
  inPathOrder := relocations_of_fingerprint current previous
  equallyMany fingerprint := by
    rw [List.countP_map, List.countP_map]
    apply List.countP_congr
    intro move member
    simp [fingerprint_eq_of_mem_relocations member]
  missingOrderly := orderly_missing.foldl_drop
  candidatesOrderly := orderly_candidates.foldl_drop
  pairingOrderly := orderly_pairing orderly_candidates

/-- Of two files, one moved and is not missing, and the other one has new content and
is a candidate under its name. -/
theorem clean_split_moved :
    let file (path name : String) (byte : UInt8) : Entry :=
      ⟨path, name, .regularFile, ⟨.replicate 32 byte, List.length_replicate⟩⟩
    let previous : Collection := ⟨[file "/old/a" "a" 1, file "/src/b" "b" 2], by decide⟩
    let current : Collection := ⟨[file "/src/b" "b" 3, file "/new/a" "a" 1], by decide⟩
    file "/old/a" "a" 1 ∈ previous.entries ∧ file "/src/b" "b" 3 ∈ current.entries ∧
      (file "/new/a" "a" 1, file "/old/a" "a" 1) ∈ relocations current previous ∧
      file "/old/a" "a" 1 ∉
        (split current previous).missing.under (file "/old/a" "a" 1).fingerprint ∧
      file "/src/b" "b" 3 ∈ (split current previous).candidates.under "b" := by
  intro file previous current
  have clean := clean_split current previous
  have before : file "/old/a" "a" 1 ∈ previous.entries := by decide
  have now : file "/src/b" "b" 3 ∈ current.entries := by decide
  -- One entry of either side is loose with this fingerprint, so they are paired.
  have moved : (file "/new/a" "a" 1, file "/old/a" "a" 1) ∈ relocations current previous := by
    have looseNow : loose (fun fingerprint => fingerprint) current previous
        (file "/new/a" "a" 1).fingerprint = [file "/new/a" "a" 1] := by decide
    have looseBefore : loose (fun fingerprint => fingerprint) previous current
        (file "/new/a" "a" 1).fingerprint = [file "/old/a" "a" 1] := by decide
    have paired := clean.inPathOrder (file "/new/a" "a" 1).fingerprint
    rw [looseNow, looseBefore] at paired
    apply List.mem_of_mem_filter
    rw [paired]
    simp [sorted]
  have notRelocated : ¬ ∃ old, (file "/src/b" "b" 3, old) ∈ relocations current previous := by
    rintro ⟨old, member⟩
    obtain ⟨-, held, equal, -⟩ := clean.relocatedWithin _ member
    have different : ∀ old ∈ previous.entries,
        (file "/src/b" "b" 3).fingerprint ≠ old.fingerprint := by decide
    exact different old held equal
  refine ⟨before, now, moved, ?_, ?_⟩
  · rcases clean.previousOnce _ before with
      ⟨-, notMoved, -⟩ | ⟨-, -, notMissing⟩ | ⟨-, notMoved, -⟩
    · exact absurd ⟨_, moved⟩ notMoved
    · exact notMissing
    · exact absurd ⟨_, moved⟩ notMoved
  · rcases clean.currentOnce _ now with ⟨settled, -, -⟩ | ⟨-, relocated, -⟩ | ⟨-, -, candidate⟩
    · exact absurd settled (by decide)
    · exact absurd relocated notRelocated
    · exact candidate

end Drift.Reconcile.ByName
