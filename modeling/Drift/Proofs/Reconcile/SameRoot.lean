import Drift.Proofs.Reconcile.NameOrder
import Drift.Proofs.Reconcile.PathOrder

/-!
# Roots that stay where they are

As long as the root of a property does not move, each normalized path belongs to
one path. Then no entry accounts for one at another path, and the only candidate
of a missing entry is what is at its path now. So comparing by name comes to
comparing by path, in another order.
-/

namespace Drift

namespace Collection

/-- What a collection has at a path, with the path. -/
def entryAt? (collection : Collection) (path : String) : Option Entry :=
  (collection.get? path).map fun fingerprint => ⟨path, fingerprint⟩

theorem entryAt?_eq_some_iff {collection : Collection} {path : String} {entry : Entry} :
    collection.entryAt? path = some entry ↔ entry ∈ collection.entries ∧ entry.path = path := by
  constructor
  · intro found
    obtain ⟨fingerprint, held, rfl⟩ := Option.map_eq_some_iff.mp found
    exact ⟨get?_eq_some_iff.mp held, rfl⟩
  · rintro ⟨member, rfl⟩
    rw [entryAt?, get?_path_eq_some_iff.mpr member]
    rfl

/-- What one collection has otherwise at a path, the other one has otherwise,
too. -/
theorem changed_iff {current previous : Collection} {new old : Entry}
    (memberNew : new ∈ current.entries) (memberOld : old ∈ previous.entries)
    (here : new.path = old.path) :
    previous.get? new.path ≠ some new.fingerprint ↔
      current.get? old.path ≠ some old.fingerprint := by
  rw [here, get?_path_eq_some_iff.mpr memberOld, ← here, get?_path_eq_some_iff.mpr memberNew]
  simp [eq_comm]

end Collection

namespace Reconcile

/-- Two states whose normalized paths are made of their paths by one function,
which tells these paths apart. -/
structure Rooted (name : String → String) (current previous : Collection) : Prop where
  named : ∀ entry ∈ current.entries ++ previous.entries,
    entry.fingerprint.normalizedPath = name entry.path
  injective : ∀ left ∈ current.paths ++ previous.paths,
    ∀ right ∈ current.paths ++ previous.paths, name left = name right → left = right

namespace Rooted

variable {name : String → String} {current previous : Collection}

theorem symm (rooted : Rooted name current previous) : Rooted name previous current where
  named entry member :=
    rooted.named entry (List.perm_append_comm.mem_iff.mp member)
  injective left memberLeft right memberRight :=
    rooted.injective left (List.perm_append_comm.mem_iff.mp memberLeft) right
      (List.perm_append_comm.mem_iff.mp memberRight)

variable (rooted : Rooted name current previous)
include rooted

theorem path_eq {left right : Entry} (memberLeft : left ∈ current.entries ++ previous.entries)
    (memberRight : right ∈ current.entries ++ previous.entries)
    (same : left.fingerprint.normalizedPath = right.fingerprint.normalizedPath) :
    left.path = right.path := by
  have walked {entry : Entry} (member : entry ∈ current.entries ++ previous.entries) :
      entry.path ∈ current.paths ++ previous.paths := by
    rw [Collection.paths, Collection.paths, ← List.map_append]
    exact List.mem_map_of_mem member
  apply rooted.injective _ (walked memberLeft) _ (walked memberRight)
  rw [← rooted.named left memberLeft, ← rooted.named right memberRight, same]

theorem path_eq_of_mem {new old : Entry} (memberNew : new ∈ current.entries)
    (memberOld : old ∈ previous.entries)
    (same : new.fingerprint.normalizedPath = old.fingerprint.normalizedPath) :
    new.path = old.path :=
  rooted.path_eq (List.mem_append_left _ memberNew) (List.mem_append_right _ memberOld) same

theorem normalizedPath_eq {new old : Entry} (memberNew : new ∈ current.entries)
    (memberOld : old ∈ previous.entries) (here : new.path = old.path) :
    new.fingerprint.normalizedPath = old.fingerprint.normalizedPath := by
  rw [rooted.named new (List.mem_append_left _ memberNew),
    rooted.named old (List.mem_append_right _ memberOld), here]

/-- No entry accounts for one at another path, so whatever changed remains. -/
theorem remaining_eq :
    ByName.remaining current previous = current.entries.filter fun entry =>
      previous.get? entry.path ≠ some entry.fingerprint := by
  apply List.filter_congr
  intro entry member
  rw [decide_eq_decide]
  constructor
  · intro kept
    have left := mem_loose_of_mem_remainingOf kept
    simpa using ((mem_loose _ _ _ _).mp left).2.2
  · intro changed
    have alone : loose Fingerprint.self previous current entry.fingerprint = [] := by
      apply List.eq_nil_iff_forall_not_mem.mpr
      intro old left
      obtain ⟨memberOld, equal, -⟩ := (mem_loose _ _ _ _).mp left
      have same := rooted.path_eq_of_mem member memberOld
        (congrArg Fingerprint.normalizedPath equal.symm)
      rw [same, ← equal] at changed
      exact changed (Collection.get?_path_eq_some_iff.mpr memberOld)
    rw [remainingOf_eq_drop, alone]
    simp [mem_loose, member, changed]

theorem mem_remaining_iff {entry : Entry} :
    entry ∈ ByName.remaining current previous ↔
      entry ∈ current.entries ∧ previous.get? entry.path ≠ some entry.fingerprint := by
  rw [rooted.remaining_eq, List.mem_filter, decide_eq_true_iff]

/-- The candidates of a missing entry are what there is at its path now. -/
theorem candidatesNamed_eq {old : Entry} (missing : old ∈ ByName.remaining previous current) :
    ByName.candidatesNamed current previous old.fingerprint.normalizedPath =
      (current.entryAt? old.path).toList := by
  obtain ⟨memberOld, changed⟩ := rooted.symm.mem_remaining_iff.mp missing
  have perm : ((ByName.remaining current previous).filter fun entry =>
      entry.fingerprint.normalizedPath = old.fingerprint.normalizedPath).Perm
        (current.entryAt? old.path).toList := by
    apply (List.perm_ext_iff_of_nodup ((nodup_remaining _ _ current previous).filter _)
      (Option.toList_nodup _)).mpr
    intro entry
    rw [Option.mem_toList, Collection.entryAt?_eq_some_iff, List.mem_filter, decide_eq_true_iff,
      rooted.mem_remaining_iff]
    constructor
    · rintro ⟨⟨member, -⟩, named⟩
      exact ⟨member, rooted.path_eq_of_mem member memberOld named⟩
    · rintro ⟨member, here⟩
      have named := rooted.normalizedPath_eq member memberOld here
      exact ⟨⟨member, (Collection.changed_iff member memberOld here).mpr changed⟩, named⟩
  have sortedPerm := (sorted_perm Entry.byPath _).trans perm
  rw [ByName.candidatesNamed]
  cases held : current.entryAt? old.path with
  | none =>
      rw [held] at sortedPerm
      exact sortedPerm.eq_nil
  | some entry =>
      rw [held] at sortedPerm
      exact List.perm_singleton.mp sortedPerm

/-- No two previous entries compete for candidates. -/
theorem countP_take_eq_zero {entries : List Entry} (distinct : (entries.map Entry.path).Nodup)
    (included : entries ⊆ previous.entries) (place : Nat) (inside : place < entries.length) :
    (entries.take place).countP (fun earlier =>
      earlier.fingerprint.normalizedPath = entries[place].fingerprint.normalizedPath) = 0 := by
  have held {entry : Entry} (member : entry ∈ entries) :
      entry ∈ current.entries ++ previous.entries :=
    List.mem_append_right _ (included member)
  rw [List.countP_eq_zero]
  intro earlier member competing
  obtain ⟨before, bound, rfl⟩ := List.mem_take_iff_getElem.mp member
  have apart := List.pairwise_iff_getElem.mp (List.pairwise_map.mp distinct) before place
    (by omega) inside (by omega)
  exact apart (rooted.path_eq (held (List.getElem_mem _)) (held (List.getElem_mem _))
    (of_decide_eq_true competing))

/-- What becomes of a missing entry depends on what there is at its path now. -/
theorem outcomes_eq :
    ByName.outcomes current previous =
      (sorted Entry.byFingerprint (ByName.remaining previous current)).map fun old =>
        (old, current.entryAt? old.path) := by
  have listed := sorted_perm Entry.byFingerprint (ByName.remaining previous current)
  have distinct :=
    (listed.map Entry.path).nodup_iff.mpr (distinct_remaining _ _ previous current)
  have included :
      sorted Entry.byFingerprint (ByName.remaining previous current) ⊆ previous.entries :=
    fun old member => List.mem_of_mem_filter (listed.mem_iff.mp member)
  rw [ByName.outcomes_eq_ranked, ByName.ranked]
  apply List.ext_getElem
  · simp
  · intro place inside _
    rw [List.length_mapIdx] at inside
    have missing := listed.mem_iff.mp (List.getElem_mem inside)
    simp only [List.getElem_mapIdx, List.getElem_map,
      rooted.countP_take_eq_zero distinct included,
      rooted.candidatesNamed_eq missing, ← List.head?_eq_getElem?, Option.head?_toList]

/-- A candidate is taken if there was something at its path before. -/
theorem mem_taken_iff {entry : Entry} (remains : entry ∈ ByName.remaining current previous) :
    entry ∈ (ByName.outcomes current previous).filterMap Prod.snd ↔
      entry.path ∈ previous.paths := by
  obtain ⟨member, changed⟩ := rooted.mem_remaining_iff.mp remains
  rw [rooted.outcomes_eq, List.filterMap_map]
  simp only [List.mem_filterMap, Function.comp_apply, mem_sorted,
    Collection.entryAt?_eq_some_iff, rooted.symm.mem_remaining_iff]
  constructor
  · rintro ⟨old, ⟨memberOld, -⟩, -, here⟩
    rw [here]
    exact List.mem_map_of_mem memberOld
  · intro before
    obtain ⟨old, memberOld, here⟩ := List.mem_map.mp before
    exact ⟨old, ⟨memberOld, (Collection.changed_iff member memberOld here.symm).mp changed⟩,
      member, here.symm⟩

/-- The candidates left over are what is at paths that there were not before. -/
theorem leftover_perm :
    (ByName.leftover current previous).Perm
      (current.entries.filter fun entry => entry.path ∉ previous.paths) := by
  refine (ByName.leftover_perm current previous).trans (.of_eq ?_)
  rw [ByName.unused, ← ByName.outcomes_eq_ranked, rooted.remaining_eq, List.filter_filter]
  apply List.filter_congr
  intro entry member
  by_cases changed : previous.get? entry.path = some entry.fingerprint
  · have before : entry.path ∈ previous.paths :=
      List.mem_map_of_mem (Collection.get?_eq_some_iff.mp changed)
    simp [changed, before]
  · have taken := rooted.mem_taken_iff (rooted.mem_remaining_iff.mpr ⟨member, changed⟩)
    simp only [taken, ne_eq, changed, not_false_eq_true, decide_true, Bool.and_true]

end Rooted

namespace ByPath

variable (title : String) (includeAdded : Bool) (current previous : Collection)

/-- The change at a previous entry's path tells what became of the entry. -/
theorem changeOf?_of_previous (old : Entry) :
    changeOf? title includeAdded old.path (current.get? old.path) (some old.fingerprint) =
      if current.get? old.path ≠ some old.fingerprint then
        some (ByName.fate title (old, current.entryAt? old.path))
      else none := by
  rw [Collection.entryAt?]
  cases current.get? old.path with
  | none => rfl
  | some new =>
      by_cases same : new = old.fingerprint
      · simp [changeOf?, same]
      · simp [changeOf?, same, Ne.symm same, Entry.modified]

/-- The changes at previous paths tell what became of each entry that changed. -/
theorem filterMap_changeOf?_previous :
    (previous.entries.filterMap fun old =>
        changeOf? title includeAdded old.path (current.get? old.path)
          (previous.get? old.path)) =
      (previous.entries.filter fun old => current.get? old.path ≠ some old.fingerprint).map
        fun old => ByName.fate title (old, current.entryAt? old.path) := by
  rw [← List.filterMap_eq_map, List.filterMap_filter]
  apply List.filterMap_congr
  intro old member
  simp only [Function.comp_apply, Collection.get?_path_eq_some_iff.mpr member,
    changeOf?_of_previous, decide_eq_true_eq]

/-- The changes at paths that there were not before are additions. -/
theorem filterMap_changeOf?_current :
    ((current.entries.filter fun entry => entry.path ∉ previous.paths).filterMap fun entry =>
        changeOf? title includeAdded entry.path (current.get? entry.path)
          (previous.get? entry.path)) =
      if includeAdded then
        (current.entries.filter fun entry =>
          entry.path ∉ previous.paths).map (Entry.added title)
      else [] := by
  have additions (entry : Entry)
      (member : entry ∈ current.entries.filter fun entry => entry.path ∉ previous.paths) :
      changeOf? title includeAdded entry.path (current.get? entry.path)
          (previous.get? entry.path) =
        if includeAdded then some (entry.added title) else none := by
    obtain ⟨held, fresh⟩ := List.mem_filter.mp member
    rw [Collection.get?_path_eq_some_iff.mpr held,
      Collection.get?_eq_none_iff.mpr (of_decide_eq_true fresh)]
    rfl
  refine (List.filterMap_congr additions).trans ?_
  cases includeAdded with
  | false => exact List.filterMap_eq_nil_iff.mpr fun _ _ => rfl
  | true => simp

end ByPath

namespace Rooted

variable {name : String → String} {current previous : Collection}

/-- While the root stays where it is, a comparison by path and one by name tell
the same changes, each equally often. -/
theorem absolute_perm_normalized (rooted : Rooted name current previous) (title : String)
    (includeAdded : Bool) :
    (Policy.absolute.changes current previous title includeAdded).Perm
      (Policy.normalized.changes current previous title includeAdded) := by
  have fates : ((ByName.outcomes current previous).map (ByName.fate title)).Perm
      ((previous.entries.filter fun old => current.get? old.path ≠ some old.fingerprint).map
        fun old => ByName.fate title (old, current.entryAt? old.path)) := by
    rw [rooted.outcomes_eq, rooted.symm.remaining_eq, List.map_map]
    exact (sorted_perm _ _).map _
  have additions : (if includeAdded then
        (ByName.leftover current previous).map (Entry.added title) else []).Perm
      (if includeAdded then
        (current.entries.filter fun entry =>
          entry.path ∉ previous.paths).map (Entry.added title)
      else []) := by
    cases includeAdded with
    | false => exact .refl _
    | true => exact rooted.leftover_perm.map _
  rw [Policy.changes_eq_sequence, Policy.changes_eq_sequence, Policy.sequence, Policy.sequence,
    ByPath.sequence_eq_outcome, ByName.sequence_eq_reconciled, ByName.reconciled_eq]
  refine List.Perm.trans ?_ (fates.append additions).symm
  rw [← ByPath.filterMap_changeOf?_previous title includeAdded,
    ← ByPath.filterMap_changeOf?_current]
  exact ByPath.filterMap_walk_perm current previous _

/-- Below one root a file was replaced, one is gone, one is new and one is still
there. -/
theorem absolute_perm_normalized_replaced :
    let file (path : String) (byte : UInt8) : Entry :=
      ⟨"/src/" ++ path, path, .regularFile, ⟨.replicate 32 byte, List.length_replicate⟩⟩
    let current : Collection := ⟨[file "a" 1, file "b" 3, file "d" 1], by decide⟩
    let previous : Collection := ⟨[file "a" 1, file "b" 2, file "c" 3], by decide⟩
    let name (path : String) : String := String.ofList (path.toList.drop 5)
    Rooted name current previous ∧
      (Policy.absolute.changes current previous "Sources" true).Perm
        (Policy.normalized.changes current previous "Sources" true) ∧
      ⟨"Sources", "/src/d", "d", .added .regularFile⟩ ∈
        Policy.normalized.changes current previous "Sources" true := by
  intro file current previous name
  have rooted : Rooted name current previous := ⟨by decide, by decide⟩
  have perm := rooted.absolute_perm_normalized "Sources" true
  refine ⟨rooted, perm, perm.mem_iff.mp ?_⟩
  rw [Policy.changes_eq_sequence, Policy.sequence, ByPath.sequence_eq_outcome]
  apply List.mem_filterMap.mpr
  exact ⟨"/src/d", ByPath.mem_walk.mpr (.inl (by decide)), by decide⟩

end Rooted

end Reconcile

end Drift
