import Drift.Proofs.Reconcile.ContentOrder
import Drift.Proofs.Reconcile.Pairing
import Drift.Proofs.Reconcile.PathOrder

/-!
# Bystanders

A file that both states have unchanged at its path takes no part in a comparison. It
is settled before anything else is looked at, so whatever it shares with files that
moved, were doubled or replaced, it accounts for none of them, stands for none of
them and is never told. A comparison by content does not even see it renamed.
-/

namespace Drift

namespace Collection

/-- A collection with an entry of a new path put in at a place, or at the end if there
are fewer entries. -/
def insertAt (collection : Collection) (place : Nat) (entry : Entry)
    (fresh : entry.path ∉ collection.paths) : Collection where
  entries := collection.entries.take place ++ entry :: collection.entries.drop place
  nodup_paths := by
    have perm : (collection.entries.take place ++ entry :: collection.entries.drop place).Perm
        (entry :: collection.entries) := by
      rw [← List.take_append_drop place collection.entries]
      exact List.perm_middle.trans (.of_eq (by rw [List.take_append_drop]))
    rw [(perm.map Entry.path).nodup_iff, List.map_cons, List.nodup_cons]
    exact ⟨fresh, collection.nodup_paths⟩

section InsertAt

variable {collection : Collection} {entry : Entry} (fresh : entry.path ∉ collection.paths)
variable (place : Nat)

/-- To insert an entry of a new path is to put it in behind all others. -/
theorem insert_eq_insertAt :
    collection.insert entry = collection.insertAt collection.size entry fresh := by
  have unknown : ¬ (collection.entries.any fun old => old.path = entry.path) = true := by
    simpa [paths] using fresh
  apply Collection.ext
  simp [insert, unknown, insertAt, size]

theorem mem_entries_insertAt {other : Entry} :
    other ∈ (collection.insertAt place entry fresh).entries ↔
      other = entry ∨ other ∈ collection.entries := by
  rw [insertAt, List.mem_append, List.mem_cons, or_left_comm, ← List.mem_append,
    List.take_append_drop]

@[simp] theorem get?_insertAt (path : String) :
    (collection.insertAt place entry fresh).get? path =
      if entry.path = path then some entry.fingerprint else collection.get? path := by
  rw [← get?_insert]
  apply Option.ext
  intro fingerprint
  rw [get?_eq_some_iff, get?_eq_some_iff, mem_entries_insertAt, mem_entries_insert]
  apply or_congr_right
  refine ⟨fun member => ⟨member, ?_⟩, And.left⟩
  rintro rfl
  exact fresh (List.mem_map.mpr ⟨_, member, rfl⟩)

/-- A part of the entries that the new one does not belong to is as it was. -/
theorem filter_entries_insertAt {keep : Entry → Bool} (left : keep entry = false) :
    (collection.insertAt place entry fresh).entries.filter keep =
      collection.entries.filter keep := by
  rw [insertAt, List.filter_append,
    List.filter_cons_of_neg (by rw [left]; exact Bool.false_ne_true), ← List.filter_append,
    List.take_append_drop]

theorem filter_paths_insertAt {keep : String → Bool} (left : keep entry.path = false) :
    (collection.insertAt place entry fresh).paths.filter keep =
      collection.paths.filter keep := by
  rw [filter_paths, filter_paths, filter_entries_insertAt fresh place left]

theorem mem_paths_insertAt {path : String} :
    path ∈ (collection.insertAt place entry fresh).paths ↔
      path = entry.path ∨ path ∈ collection.paths := by
  simp only [← isSome_get?_iff, get?_insertAt]
  by_cases here : entry.path = path
  · simp [here]
  · simp [here, Ne.symm here]

end InsertAt

end Collection

namespace Reconcile

section Inserted

variable {path : String} {new old : Fingerprint} {current previous : Collection}
variable (freshNow : path ∉ current.paths) (freshBefore : path ∉ previous.paths)
variable (place placeBefore : Nat) (title : String) (includeAdded : Bool)

/-- An entry with one key on both sides is settled, and settles no other one. -/
theorem unsettled_insertAt [DecidableEq κ] (key : Fingerprint → κ) (same : key old = key new) :
    unsettled key (current.insertAt place ⟨path, new⟩ freshNow)
        (previous.insertAt placeBefore ⟨path, old⟩ freshBefore) =
      unsettled key current previous := by
  rw [unsettled_eq, unsettled_eq,
    Collection.filter_entries_insertAt freshNow place (by simp [same])]
  apply List.filter_congr
  intro entry member
  have elsewhere : path ≠ entry.path := by
    rintro rfl
    exact freshNow (List.mem_map_of_mem member)
  rw [Collection.get?_insertAt, if_neg elsewhere]

theorem ByName.sequence_insertAt (same : new = old) :
    sequence (current.insertAt place ⟨path, new⟩ freshNow)
        (previous.insertAt placeBefore ⟨path, old⟩ freshBefore) title includeAdded =
      sequence current previous title includeAdded := by
  rw [sequence_eq_reconciled, sequence_eq_reconciled, reconciled, reconciled, split, split,
    unsettled_insertAt freshNow freshBefore place placeBefore Fingerprint.self same.symm,
    unsettled_insertAt freshBefore freshNow placeBefore place Fingerprint.self same]

theorem ByContent.sequence_insertAt (same : new.content = old.content) :
    sequence (current.insertAt place ⟨path, new⟩ freshNow)
        (previous.insertAt placeBefore ⟨path, old⟩ freshBefore) title includeAdded =
      sequence current previous title includeAdded := by
  rw [sequence_eq_outcome, sequence_eq_outcome, ← reconciled_eq_outcome,
    ← reconciled_eq_outcome, reconciled, reconciled,
    unsettled_insertAt freshNow freshBefore place placeBefore Fingerprint.content same.symm,
    unsettled_insertAt freshBefore freshNow placeBefore place Fingerprint.content same]

/-- The walk visits one more path. -/
theorem ByPath.filter_walk_insertAt :
    ((walk (current.insertAt place ⟨path, new⟩ freshNow)
        (previous.insertAt placeBefore ⟨path, old⟩ freshBefore)).filter fun other =>
          other ≠ path) =
      walk current previous := by
  have others {collection : Collection} (fresh : path ∉ collection.paths) :
      collection.paths.filter (fun other => other ≠ path) = collection.paths :=
    List.filter_eq_self.mpr fun other member => by
      simpa using ne_of_mem_of_not_mem member fresh
  have gone : ((previous.insertAt placeBefore ⟨path, old⟩ freshBefore).paths.filter fun other =>
        other ∉ (current.insertAt place ⟨path, new⟩ freshNow).paths) =
      previous.paths.filter fun other => other ∉ current.paths := by
    rw [Collection.filter_paths_insertAt freshBefore placeBefore
      (by simp [Collection.mem_paths_insertAt])]
    apply List.filter_congr
    intro other member
    have elsewhere : other ≠ path := ne_of_mem_of_not_mem member freshBefore
    simp [Collection.mem_paths_insertAt, elsewhere]
  rw [walk, walk, gone, List.filter_append, filter_sorted, filter_sorted, List.filter_comm,
    Collection.filter_paths_insertAt freshNow place (by simp), others freshNow,
    others freshBefore]

theorem ByPath.sequence_insertAt (same : new = old) :
    sequence (current.insertAt place ⟨path, new⟩ freshNow)
        (previous.insertAt placeBefore ⟨path, old⟩ freshBefore) title includeAdded =
      sequence current previous title includeAdded := by
  subst same
  rw [sequence_eq_outcome, sequence_eq_outcome, outcome, outcome,
    ← filter_walk_insertAt freshNow freshBefore place placeBefore, List.filterMap_filter]
  apply List.filterMap_congr
  intro other _
  by_cases here : path = other
  · simp [here, changeOf?]
  · simp [here, Ne.symm here]

end Inserted

variable {current previous : Collection} {title : String} {includeAdded : Bool}
variable {change : Change}

theorem ByPath.path_mem_of_mem_sequence
    (member : change ∈ sequence current previous title includeAdded) :
    change.path ∈ current.paths ∨ change.path ∈ previous.paths := by
  rw [sequence_eq_outcome, outcome] at member
  obtain ⟨path, walked, told⟩ := List.mem_filterMap.mp member
  rw [path_of_changeOf? told]
  exact mem_walk.mp walked

theorem ByName.path_mem_of_mem_sequence
    (member : change ∈ sequence current previous title includeAdded) :
    change.path ∈ current.paths ∨ change.path ∈ previous.paths := by
  have taken := taken_append_leftover_perm current previous
  rw [sequence_eq_reconciled, reconciled_eq] at member
  rcases List.mem_append.mp member with told | added
  · obtain ⟨⟨old, candidate?⟩, inside, rfl⟩ := List.mem_map.mp told
    cases candidate? with
    | none =>
        have missing := List.mem_map_of_mem (f := Prod.fst) inside
        rw [map_fst_outcomes, mem_sorted] at missing
        exact .inr (List.mem_map_of_mem (List.mem_of_mem_filter missing))
    | some candidate =>
        have remains : candidate ∈ remaining current previous :=
          taken.mem_iff.mpr (List.mem_append_left _ (List.mem_filterMap.mpr ⟨_, inside, rfl⟩))
        exact .inl (List.mem_map_of_mem (List.mem_of_mem_filter remains))
  · cases includeAdded with
    | false => simp at added
    | true =>
        obtain ⟨entry, inside, rfl⟩ := List.mem_map.mp added
        have remains : entry ∈ remaining current previous :=
          taken.mem_iff.mpr (List.mem_append_right _ inside)
        exact .inl (List.mem_map_of_mem (List.mem_of_mem_filter remains))

theorem ByContent.path_mem_of_mem_sequence
    (member : change ∈ sequence current previous title includeAdded) :
    change.path ∈ current.paths ∨ change.path ∈ previous.paths := by
  rw [sequence_eq_outcome, outcome] at member
  rcases List.mem_append.mp member with added | removed
  · cases includeAdded with
    | false => simp at added
    | true =>
        obtain ⟨entry, inside, rfl⟩ := List.mem_map.mp added
        exact .inl (List.mem_map_of_mem (List.mem_of_mem_filter (mem_sorted.mp inside)))
  · obtain ⟨entry, inside, rfl⟩ := List.mem_map.mp removed
    exact .inr (List.mem_map_of_mem (List.mem_of_mem_filter (mem_sorted.mp inside)))

end Reconcile

namespace Policy

/-- What a policy takes for unchanged at a path: the same fingerprint, or the same
digest and type if it looks at nothing else. -/
def Unaltered : Policy → Fingerprint → Fingerprint → Prop
  | absolute, new, old => new = old
  | normalized, new, old => new = old
  | ignoredPath, new, old => new.digest = old.digest ∧ new.fileType = old.fileType

/-- Only what either state has is told. -/
theorem path_mem_of_mem_sequence {policy : Policy} {current previous : Collection}
    {title : String} {includeAdded : Bool} {change : Change}
    (member : change ∈ policy.sequence current previous title includeAdded) :
    change.path ∈ current.paths ∨ change.path ∈ previous.paths := by
  cases policy with
  | absolute => exact Reconcile.ByPath.path_mem_of_mem_sequence member
  | normalized => exact Reconcile.ByName.path_mem_of_mem_sequence member
  | ignoredPath => exact Reconcile.ByContent.path_mem_of_mem_sequence member

section Bystander

variable {policy : Policy} {path : String} {new old : Fingerprint}
variable {current previous : Collection}

theorem sequence_insertAt (unaltered : policy.Unaltered new old)
    (freshNow : path ∉ current.paths) (freshBefore : path ∉ previous.paths)
    (place placeBefore : Nat) (title : String) (includeAdded : Bool) :
    policy.sequence (current.insertAt place ⟨path, new⟩ freshNow)
        (previous.insertAt placeBefore ⟨path, old⟩ freshBefore) title includeAdded =
      policy.sequence current previous title includeAdded := by
  cases policy with
  | absolute =>
      exact Reconcile.ByPath.sequence_insertAt freshNow freshBefore place placeBefore title
        includeAdded unaltered
  | normalized =>
      exact Reconcile.ByName.sequence_insertAt freshNow freshBefore place placeBefore title
        includeAdded unaltered
  | ignoredPath =>
      obtain ⟨digest, fileType⟩ := unaltered
      exact Reconcile.ByContent.sequence_insertAt freshNow freshBefore place placeBefore title
        includeAdded (Content.ext digest fileType)

/-- A file that stays unaltered at its path, wherever it stands in either collection,
does not show: any observer gets the same answer and ends in the same state as
without it, the same changes are told, and none of them is at that path. -/
theorem compare_insertAt {σ : Type u} (unaltered : policy.Unaltered new old)
    (freshNow : path ∉ current.paths) (freshBefore : path ∉ previous.paths)
    (place placeBefore : Nat) (observer : Observer σ) (state : σ) (title : String)
    (includeAdded : Bool) :
    let joinedNow := current.insertAt place ⟨path, new⟩ freshNow
    let joinedBefore := previous.insertAt placeBefore ⟨path, old⟩ freshBefore
    policy.compare observer state joinedNow joinedBefore title includeAdded =
        policy.compare observer state current previous title includeAdded ∧
      policy.changes joinedNow joinedBefore title includeAdded =
        policy.changes current previous title includeAdded ∧
      ∀ change ∈ policy.changes joinedNow joinedBefore title includeAdded,
        change.path ≠ path := by
  intro joinedNow joinedBefore
  have same : policy.sequence joinedNow joinedBefore title includeAdded =
      policy.sequence current previous title includeAdded :=
    sequence_insertAt unaltered freshNow freshBefore place placeBefore title includeAdded
  refine ⟨?_, ?_, ?_⟩
  · rw [compare, compare, delivery_eq_relay, delivery_eq_relay, same]
  · rw [changes_eq_sequence, changes_eq_sequence, same]
  · intro change member
    rw [changes_eq_sequence, same] at member
    rcases path_mem_of_mem_sequence member with now | before
    · exact ne_of_mem_of_not_mem now freshNow
    · exact ne_of_mem_of_not_mem before freshBefore

/-- A file that was renamed where it stands, with the content of others of which one
is gone. -/
theorem compare_insertAt_renamed :
    let file (name : String) : Fingerprint := ⟨name, .regularFile, ⟨.replicate 32 1, rfl⟩⟩
    let current : Collection := ⟨[⟨"/src/c", file "c"⟩], by decide⟩
    let previous : Collection := ⟨[⟨"/src/a", file "a"⟩, ⟨"/src/b", file "b"⟩], by decide⟩
    let joinedNow := current.insertAt 0 ⟨"/lib/d", file "new"⟩ (by decide)
    let joinedBefore := previous.insert ⟨"/lib/d", file "old"⟩
    ignoredPath.Unaltered (file "new") (file "old") ∧ "/lib/d" ∉ current.paths ∧
      "/lib/d" ∉ previous.paths ∧
      ignoredPath.compare .detecting false joinedNow joinedBefore "Sources" true =
        ignoredPath.compare .detecting false current previous "Sources" true ∧
      ignoredPath.changes joinedNow joinedBefore "Sources" true =
        ignoredPath.changes current previous "Sources" true ∧
      ∀ change ∈ ignoredPath.changes joinedNow joinedBefore "Sources" true,
        change.path ≠ "/lib/d" := by
  intro file current previous joinedNow joinedBefore
  have unaltered : ignoredPath.Unaltered (file "new") (file "old") := ⟨rfl, rfl⟩
  have freshNow : "/lib/d" ∉ current.paths := by decide
  have freshBefore : "/lib/d" ∉ previous.paths := by decide
  have joined : joinedBefore = previous.insertAt 2 ⟨"/lib/d", file "old"⟩ freshBefore :=
    Collection.insert_eq_insertAt freshBefore
  have facts := compare_insertAt unaltered freshNow freshBefore 0 2 .detecting false
    "Sources" true
  rw [joined]
  exact ⟨unaltered, freshNow, freshBefore, facts⟩

end Bystander

end Policy

end Drift
