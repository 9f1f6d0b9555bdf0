import Drift.Proofs.Reconcile.Matching
import Drift.Proofs.Reconcile.Relocation

/-!
# The matching behind a comparison by name

A comparison by name follows a matching: settled entries are matched with
themselves, absorbed ones with what absorbed them, and missing ones with their
candidates. At each name it leaves additions or removals but not both, hence no
more changes than the surplus of the two sides forces on every matching.
-/

namespace Drift.Reconcile

namespace Matching

variable {current previous : Collection}

/-- The matching of some pairs that leave known entries unmatched. -/
def ofParts (pairs : List (Entry × Entry)) (added removed : List Entry)
    (currentParts : current.entries.Perm (pairs.map Prod.fst ++ added))
    (previousParts : previous.entries.Perm (pairs.map Prod.snd ++ removed))
    (sameName : ∀ pair ∈ pairs,
      pair.1.fingerprint.normalizedPath = pair.2.fingerprint.normalizedPath) :
    Matching current previous where
  pairs := pairs
  mem_current := by
    intro pair member
    apply currentParts.mem_iff.mpr
    exact List.mem_append_left _ (List.mem_map_of_mem member)
  mem_previous := by
    intro pair member
    apply previousParts.mem_iff.mpr
    exact List.mem_append_left _ (List.mem_map_of_mem member)
  same_name := sameName
  nodup_current := (List.nodup_append.mp (currentParts.nodup_iff.mp current.nodup_entries)).1
  nodup_previous := (List.nodup_append.mp (previousParts.nodup_iff.mp previous.nodup_entries)).1

end Matching

namespace ByName

/-- The missing entries that got a candidate, each behind it. -/
def matched (outcomes : List (Entry × Option Entry)) : List (Entry × Entry) :=
  outcomes.filterMap fun (old, candidate?) => candidate?.map fun candidate => (candidate, old)

/-- The missing entries that got none. -/
def gone (outcomes : List (Entry × Option Entry)) : List Entry :=
  outcomes.filterMap fun (old, candidate?) => if candidate?.isNone then some old else none

theorem map_fst_matched (outcomes : List (Entry × Option Entry)) :
    (matched outcomes).map Prod.fst = outcomes.filterMap Prod.snd := by
  simp [matched, List.map_filterMap, Function.comp_def]

theorem mem_of_mem_matched {outcomes : List (Entry × Option Entry)} {pair : Entry × Entry}
    (member : pair ∈ matched outcomes) : (pair.2, some pair.1) ∈ outcomes := by
  obtain ⟨⟨old, candidate?⟩, inside, equal⟩ := List.mem_filterMap.mp member
  obtain ⟨candidate, rfl, rfl⟩ := Option.map_eq_some_iff.mp equal
  exact inside

theorem map_fst_perm (outcomes : List (Entry × Option Entry)) :
    (outcomes.map Prod.fst).Perm ((matched outcomes).map Prod.snd ++ gone outcomes) := by
  induction outcomes with
  | nil => exact .refl _
  | cons outcome rest ih =>
      obtain ⟨old, candidate?⟩ := outcome
      cases candidate? with
      | none => exact (ih.cons old).trans List.perm_middle.symm
      | some candidate => exact ih.cons old

theorem map_fate_perm (title : String) (outcomes : List (Entry × Option Entry)) :
    (outcomes.map (fate title)).Perm
      ((matched outcomes).map (fun pair => pair.1.modified title pair.2.fingerprint.fileType) ++
        (gone outcomes).map (Entry.removed title)) := by
  induction outcomes with
  | nil => exact .refl _
  | cons outcome rest ih =>
      obtain ⟨old, candidate?⟩ := outcome
      cases candidate? with
      | none => exact (ih.cons _).trans List.perm_middle.symm
      | some candidate => exact ih.cons _

variable (current previous : Collection)

theorem remaining_previous_perm :
    (remaining previous current).Perm
      ((matched (outcomes current previous)).map Prod.snd ++
        gone (outcomes current previous)) := by
  refine List.Perm.trans ?_ (map_fst_perm _)
  rw [map_fst_outcomes]
  exact (sorted_perm _ _).symm

theorem remaining_current_perm :
    (remaining current previous).Perm
      ((matched (outcomes current previous)).map Prod.fst ++ leftover current previous) := by
  rw [map_fst_matched]
  exact taken_append_leftover_perm current previous

theorem fingerprint_ne_of_mem_matched {pair : Entry × Entry}
    (member : pair ∈ matched (outcomes current previous)) :
    pair.1.fingerprint ≠ pair.2.fingerprint := by
  have mine : pair.1 ∈ remaining current previous := by
    apply (remaining_current_perm current previous).mem_iff.mpr
    exact List.mem_append_left _ (List.mem_map_of_mem member)
  have theirs : pair.2 ∈ remaining previous current := by
    apply (remaining_previous_perm current previous).mem_iff.mpr
    exact List.mem_append_left _ (List.mem_map_of_mem member)
  exact key_ne_of_mem_remaining mine theirs

/-- Settled entries with themselves, absorbed ones with what absorbed them, and
missing ones with their candidates. -/
def alignment (absorbed : List (Entry × Entry)) : List (Entry × Entry) :=
  (settled Fingerprint.self current previous).map (fun entry => (entry, entry)) ++
    (absorbed ++ matched (outcomes current previous))

section Alignment

variable {current previous} {absorbed : List (Entry × Entry)}

theorem alignment_current_perm (ofCurrent : (unsettled Fingerprint.self current previous).Perm
      (absorbed.map Prod.fst ++ remaining current previous)) :
    current.entries.Perm
      ((alignment current previous absorbed).map Prod.fst ++ leftover current previous) := by
  refine (entries_perm Fingerprint.self current previous).trans ?_
  simp only [alignment, List.map_append, List.map_map, Function.comp_def, List.map_id',
    List.append_assoc]
  apply List.Perm.append_left
  exact ofCurrent.trans ((remaining_current_perm current previous).append_left _)

theorem alignment_previous_perm (ofPrevious : (unsettled Fingerprint.self previous current).Perm
      (absorbed.map Prod.snd ++ remaining previous current)) :
    previous.entries.Perm
      ((alignment current previous absorbed).map Prod.snd ++
        gone (outcomes current previous)) := by
  refine (entries_perm Fingerprint.self previous current).trans ?_
  simp only [alignment, List.map_append, List.map_map, Function.comp_def, List.map_id',
    List.append_assoc]
  apply List.Perm.append (settled_self_perm previous current)
  exact ofPrevious.trans ((remaining_previous_perm current previous).append_left _)

theorem same_name_of_mem_alignment
    (equal : ∀ pair ∈ absorbed, pair.1.fingerprint = pair.2.fingerprint) {pair : Entry × Entry}
    (member : pair ∈ alignment current previous absorbed) :
    pair.1.fingerprint.normalizedPath = pair.2.fingerprint.normalizedPath := by
  rcases List.mem_append.mp member with still | member
  · obtain ⟨entry, -, rfl⟩ := List.mem_map.mp still
    rfl
  rcases List.mem_append.mp member with moved | paired
  · exact congrArg Fingerprint.normalizedPath (equal pair moved)
  · exact normalizedPath_of_mem_pairing (mem_of_mem_matched paired)

/-- Only the missing entries differ from what they are aligned with. -/
theorem filter_alignment
    (equal : ∀ pair ∈ absorbed, pair.1.fingerprint = pair.2.fingerprint) :
    (alignment current previous absorbed).filter
        (fun pair => pair.1.fingerprint ≠ pair.2.fingerprint) =
      matched (outcomes current previous) := by
  have settledSilent : ((settled Fingerprint.self current previous).map fun entry =>
      (entry, entry)).filter
      (fun pair => pair.1.fingerprint ≠ pair.2.fingerprint) = [] := by
    simp
  have absorbedSilent : absorbed.filter
      (fun pair => pair.1.fingerprint ≠ pair.2.fingerprint) = [] := by
    apply List.filter_eq_nil_iff.mpr
    intro pair member
    simp [equal pair member]
  have matchedShown : (matched (outcomes current previous)).filter
      (fun pair => pair.1.fingerprint ≠ pair.2.fingerprint) =
        matched (outcomes current previous) := by
    apply List.filter_eq_self.mpr
    intro pair member
    exact decide_eq_true (fingerprint_ne_of_mem_matched current previous member)
  rw [alignment, List.filter_append, List.filter_append, settledSilent, absorbedSilent,
    matchedShown]
  rfl

end Alignment

/-- Some matching pairs the missing entries with their candidates, leaves the
same entries unmatched as the pairing, and has no other unequal pairs. -/
theorem exists_matching :
    ∃ matching : Matching current previous,
      matching.unequal = matched (outcomes current previous) ∧
      matching.added.Perm (leftover current previous) ∧
      matching.removed.Perm (gone (outcomes current previous)) := by
  have equal : ∀ move ∈ relocations current previous, move.1.fingerprint = move.2.fingerprint :=
    fun move member => fingerprint_eq_of_mem_relocations member
  have currentParts := alignment_current_perm (unsettled_current_perm current previous)
  have previousParts := alignment_previous_perm (unsettled_previous_perm current previous)
  let matching : Matching current previous :=
    .ofParts (alignment current previous (relocations current previous))
      (leftover current previous) (gone (outcomes current previous)) currentParts previousParts
      fun pair member => same_name_of_mem_alignment equal member
  refine ⟨matching, ?_, ?_, ?_⟩
  · exact filter_alignment equal
  · exact filter_not_mem_perm current.nodup_entries currentParts
  · exact filter_not_mem_perm previous.nodup_entries previousParts

/-- At each name so many candidates are left over as the current side has more
in surplus than the previous one. -/
theorem countP_leftover (name : String) :
    (leftover current previous).countP (fun entry => entry.fingerprint.normalizedPath = name) =
      surplus current previous name -
        surplus previous current name := by
  rw [List.countP_eq_length_filter, leftover, Buckets.filter_toList, under_pairing,
    List.length_drop, under_candidates, (sorted_perm _ _).length_eq,
    ← List.countP_eq_length_filter, countP_remaining, toList_missing,
    (sorted_perm _ _).countP_eq, countP_remaining]

theorem changes_perm {matching : Matching current previous}
    (unequal : matching.unequal = matched (outcomes current previous))
    (added : matching.added.Perm (leftover current previous))
    (removed : matching.removed.Perm (gone (outcomes current previous))) (title : String) :
    (Policy.normalized.changes current previous title true).Perm (matching.changes title) := by
  rw [Policy.changes_eq_sequence, Policy.sequence, sequence_eq_reconciled, reconciled_eq,
    Matching.changes, unequal]
  have additions := (added.map (Entry.added title)).symm
  have removals := (removed.map (Entry.removed title)).symm
  have told := map_fate_perm title (outcomes current previous)
  refine List.Perm.trans (told.append_right _) ?_
  rw [List.append_assoc]
  apply List.Perm.append_left
  exact (removals.append additions).trans List.perm_append_comm

/-- The numbers of changes at a name follow from the two surpluses there. -/
theorem tally_eq (title name : String) :
    Tally.ofChanges (Policy.normalized.changes current previous title true) name =
      ⟨surplus current previous name -
          surplus previous current name,
        surplus previous current name -
          surplus current previous name,
        min (surplus current previous name)
          (surplus previous current name)⟩ := by
  obtain ⟨matching, unequal, added, removed⟩ := exists_matching current previous
  have perm := changes_perm current previous unequal added removed title
  have mine := (remaining_current_perm current previous).countP_eq
    fun entry => decide (entry.fingerprint.normalizedPath = name)
  have theirs := (remaining_previous_perm current previous).countP_eq
    fun entry => decide (entry.fingerprint.normalizedPath = name)
  have aligned := matching.countP_unequal name
  have left := countP_leftover current previous name
  rw [countP_remaining, List.countP_append, List.countP_map] at mine theirs
  rw [Tally.ofChanges_eq_of_perm perm, Matching.tally_changes, added.countP_eq,
    removed.countP_eq]
  rw [← unequal] at mine theirs
  simp only [Function.comp_def] at mine theirs
  ext <;> simp only <;> omega

/-- A matching behind the comparison explains no more changes than any other. -/
theorem cost_le {matching : Matching current previous}
    (perm : (Policy.normalized.changes current previous "" true).Perm (matching.changes ""))
    (other : Matching current previous) : matching.cost ≤ other.cost := by
  rw [← matching.length_changes "", ← other.length_changes ""]
  -- At each name the comparison meets the bound that holds of every matching.
  apply length_le_of_forall_countP_le Change.normalizedPath
  intro name
  have bound := other.max_surplus_le "" name
  have counted := tally_eq current previous "" name
  rw [Tally.ofChanges_eq_of_perm perm, Matching.tally_changes] at counted
  obtain ⟨added, removed, unequal⟩ := Tally.mk.inj counted
  rw [Matching.countP_changes]
  omega

/-- What a comparison by name tells is explained by a matching, and by none at
a smaller cost. At each normalized path the numbers of changes are determined by
the surplus of either side in fingerprints; so the paths do not matter to them,
and exchanging the sides exchanges additions and removals. -/
theorem changes_optimal (current previous : Collection) (title : String) :
    (∃ matching : Matching current previous,
      (Policy.normalized.changes current previous title true).Perm (matching.changes title) ∧
        ∀ other : Matching current previous, matching.cost ≤ other.cost) ∧
    (∀ name,
      let tally := Tally.ofChanges (Policy.normalized.changes current previous title true) name
      tally.modified + tally.removed = surplus previous current name ∧
      tally.modified + tally.added = surplus current previous name ∧
      tally.modified = min (surplus previous current name)
        (surplus current previous name)) ∧
    (∀ moved movedPrevious : Collection,
      (moved.entries.map Entry.fingerprint).Perm (current.entries.map Entry.fingerprint) →
      (movedPrevious.entries.map Entry.fingerprint).Perm
        (previous.entries.map Entry.fingerprint) → ∀ name,
        Tally.ofChanges (Policy.normalized.changes moved movedPrevious title true) name =
          Tally.ofChanges (Policy.normalized.changes current previous title true) name) ∧
    ∀ name, Tally.ofChanges (Policy.normalized.changes previous current title true) name =
      (Tally.ofChanges (Policy.normalized.changes current previous title true)
        name).exchanged := by
  refine ⟨?_, ?_, ?_, ?_⟩
  · obtain ⟨matching, unequal, added, removed⟩ := exists_matching current previous
    have perm := changes_perm current previous unequal added removed
    exact ⟨matching, perm title, cost_le current previous (perm "")⟩
  · intro name
    simp only [tally_eq]
    omega
  · intro moved movedPrevious permCurrent permPrevious name
    rw [tally_eq, tally_eq, surplus_eq_of_perm permCurrent permPrevious,
      surplus_eq_of_perm permPrevious permCurrent]
  · intro name
    rw [tally_eq, tally_eq, Tally.exchanged, Nat.min_comm]

/-- Of two files of one name, one is replaced and the other one is gone; the
same happens under another root. -/
theorem changes_optimal_moved :
    let first : Fingerprint := ⟨"lib/a", .regularFile, ⟨.replicate 32 1, rfl⟩⟩
    let second : Fingerprint := ⟨"lib/a", .regularFile, ⟨.replicate 32 2, rfl⟩⟩
    let previous : Collection := ⟨[⟨"/old/lib/a", first⟩, ⟨"/other/lib/a", first⟩], by decide⟩
    let current : Collection := ⟨[⟨"/old/lib/a", second⟩], by decide⟩
    let moved : Collection := ⟨[⟨"/new/lib/a", second⟩], by decide⟩
    (moved.entries.map Entry.fingerprint).Perm (current.entries.map Entry.fingerprint) ∧
      Tally.ofChanges (Policy.normalized.changes moved previous "Sources" true) "lib/a" =
        Tally.ofChanges (Policy.normalized.changes current previous "Sources" true) "lib/a" ∧
      (Tally.ofChanges (Policy.normalized.changes current previous "Sources" true)
        "lib/a").modified = 1 := by
  intro first second previous current moved
  have relocated : (moved.entries.map Entry.fingerprint).Perm
      (current.entries.map Entry.fingerprint) := .refl _
  have facts := changes_optimal current previous "Sources"
  refine ⟨relocated, facts.2.2.1 moved previous relocated (.refl _) "lib/a", ?_⟩
  rw [(facts.2.1 "lib/a").2.2]
  decide

end ByName

end Drift.Reconcile
