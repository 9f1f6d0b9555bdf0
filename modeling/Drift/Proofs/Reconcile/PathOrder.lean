import Drift.Proofs.Reconcile.Accounting
import Drift.Proofs.Reconcile.Sequence

/-!
# The exact outcome by path

What a comparison by path offers, told path by path: what there is at a path now
and what there was before decide on the change there. Current paths come first
and those of the previous side alone last, each in ascending order. Over shared
paths no path is on one side alone, because the sides have equally many, so the
short comparison offers what the full one does.
-/

namespace Drift

namespace Entry

theorem map_path_sorted_byPath (entries : List Entry) :
    (sorted byPath entries).map path = sorted Text.order (entries.map path) := by
  apply Ascending.eq_sorted
  · exact List.pairwise_map.mpr (ascending_sorted byPath entries)
  · exact (sorted_perm byPath entries).map path

end Entry

namespace Collection

theorem isSome_get?_iff {collection : Collection} {path : String} :
    (collection.get? path).isSome = true ↔ path ∈ collection.paths := by
  rw [← not_iff_not, ← get?_eq_none_iff]
  simp

theorem isNone_get? (collection : Collection) (path : String) :
    (collection.get? path).isNone = decide (path ∉ collection.paths) := by
  rw [Bool.eq_iff_iff, decide_eq_true_iff, Option.isNone_iff_eq_none, get?_eq_none_iff]

theorem filter_paths (collection : Collection) (keep : String → Bool) :
    collection.paths.filter keep =
      (collection.entries.filter fun entry => keep entry.path).map Entry.path :=
  List.filter_map

/-- Collections have the same entries if they hold the same at each path. -/
theorem perm_iff_forall_get? {left right : Collection} :
    left.entries.Perm right.entries ↔ ∀ path, left.get? path = right.get? path := by
  rw [List.perm_ext_iff_of_nodup left.nodup_entries right.nodup_entries]
  constructor
  · intro same path
    apply Option.ext
    intro fingerprint
    rw [get?_eq_some_iff, get?_eq_some_iff]
    exact same ⟨path, fingerprint⟩
  · intro same entry
    rw [← get?_path_eq_some_iff, ← get?_path_eq_some_iff, same]

/-- A collection has the entries of another one if it holds the same at each of its
paths. -/
theorem subset_iff_forall_get? {left right : Collection} :
    left.entries ⊆ right.entries ↔ ∀ path fingerprint,
      left.get? path = some fingerprint → right.get? path = some fingerprint := by
  simp only [get?_eq_some_iff]
  exact ⟨fun included path fingerprint member => included member,
    fun held entry member => held entry.path entry.fingerprint member⟩

/-- Of two sides with equally many paths, neither can have paths of its own
alone. -/
theorem paths_perm_of_subset {left right : Collection} (sizes : left.size = right.size)
    (included : left.paths ⊆ right.paths) : left.paths.Perm right.paths := by
  apply (List.subperm_of_subset left.nodup_paths included).perm_of_length_le
  simp only [paths, List.length_map]
  exact Nat.le_of_eq sizes.symm

end Collection

namespace Reconcile.ByPath

/-- The change at a path, if there is one, by what there is now and what there
was before. -/
def changeOf? (title : String) (includeAdded : Bool) (path : String) :
    Option Fingerprint → Option Fingerprint → Option Change
  | none, none => none
  | none, some old => some ⟨title, path, old.normalizedPath, .removed old.fileType⟩
  | some new, none =>
      if includeAdded then some ⟨title, path, new.normalizedPath, .added new.fileType⟩ else none
  | some new, some old =>
      if old = new then none
      else some ⟨title, path, new.normalizedPath, .modified old.fileType new.fileType⟩

theorem path_of_changeOf? {title path : String} {includeAdded : Bool}
    {new? old? : Option Fingerprint} {change : Change}
    (told : changeOf? title includeAdded path new? old? = some change) :
    change.path = path := by
  cases new? with
  | none => cases old? <;> grind [changeOf?]
  | some new => cases old? <;> grind [changeOf?]

/-- The paths of both sides: the current ones, then those of the previous side
alone. -/
def walk (current previous : Collection) : List String :=
  sorted Text.order current.paths ++
    sorted Text.order (previous.paths.filter fun path => path ∉ current.paths)

/-- The changes at all paths, in the order of the walk. -/
def outcome (current previous : Collection) (title : String) (includeAdded : Bool) :
    List Change :=
  (walk current previous).filterMap fun path =>
    changeOf? title includeAdded path (current.get? path) (previous.get? path)

/-- The walk goes over the paths of both sides, whichever side is taken first. -/
theorem walk_perm (current previous : Collection) :
    (walk current previous).Perm
      (current.paths ++ previous.paths.filter fun path => path ∉ current.paths) :=
  (sorted_perm _ _).append (sorted_perm _ _)

theorem walk_perm_previous_first (current previous : Collection) :
    (walk current previous).Perm
      (previous.paths ++ current.paths.filter fun path => path ∉ previous.paths) :=
  (walk_perm current previous).trans
    (append_filter_not_mem_perm current.nodup_paths previous.nodup_paths)

theorem walk_comm (current previous : Collection) :
    (walk current previous).Perm (walk previous current) :=
  (walk_perm_previous_first current previous).trans (walk_perm previous current).symm

/-- What the walk comes by: previous entries, and current ones at paths that there
were not before. -/
theorem filterMap_walk_perm (current previous : Collection) (image : String → Option β) :
    ((walk current previous).filterMap image).Perm
      ((previous.entries.filterMap fun entry => image entry.path) ++
        (current.entries.filter fun entry => entry.path ∉ previous.paths).filterMap
          fun entry => image entry.path) := by
  refine ((walk_perm_previous_first current previous).filterMap image).trans (.of_eq ?_)
  rw [List.filterMap_append, Collection.filter_paths, List.filterMap_map, Collection.paths,
    List.filterMap_map]
  rfl

theorem mem_walk {current previous : Collection} {path : String} :
    path ∈ walk current previous ↔ path ∈ current.paths ∨ path ∈ previous.paths := by
  rw [(walk_perm current previous).mem_iff]
  simp only [List.mem_append, List.mem_filter, decide_eq_true_eq]
  tauto

theorem changeOf?_true_eq_none_iff (title path : String) (new? old? : Option Fingerprint) :
    changeOf? title true path new? old? = none ↔ new? = old? := by
  cases new? with
  | none => cases old? <;> simp [changeOf?]
  | some new => cases old? <;> simp [changeOf?, eq_comm]

theorem changeOf?_false_eq_none_iff (title path : String) (new? old? : Option Fingerprint) :
    changeOf? title false path new? old? = none ↔ ∀ old, old? = some old → new? = some old := by
  cases new? with
  | none => cases old? <;> simp [changeOf?]
  | some new => cases old? <;> simp [changeOf?, eq_comm]

theorem outcome_eq_nil_iff (current previous : Collection) (title : String)
    (includeAdded : Bool) :
    outcome current previous title includeAdded = [] ↔ ∀ path,
      changeOf? title includeAdded path (current.get? path) (previous.get? path) = none := by
  rw [outcome, List.filterMap_eq_nil_iff]
  constructor
  · intro silent path
    by_cases walked : path ∈ walk current previous
    · exact silent path walked
    · rw [mem_walk, not_or] at walked
      rw [Collection.get?_eq_none_iff.mpr walked.1, Collection.get?_eq_none_iff.mpr walked.2]
      rfl
  · exact fun silent path _ => silent path

theorem mapM_eq_filterMap (image : α → Option β) (values : List α) :
    values.mapM image =
      if values.all fun value => (image value).isSome then some (values.filterMap image)
      else none := by
  induction values with
  | nil => rfl
  | cons value rest ih =>
      rw [List.mapM_cons, ih, List.all_cons, List.filterMap_cons]
      cases image value with
      | none => rfl
      | some found => cases rest.all fun value => (image value).isSome <;> rfl

/-- The current entries at whose paths there was something before, each with what
it was. -/
def shared (current previous : Collection) : List (Entry × Fingerprint) :=
  current.entries.filterMap fun entry => (previous.get? entry.path).map fun old => (entry, old)

variable (current previous : Collection) (title : String) (includeAdded : Bool)

theorem joined?_eq :
    joined? current previous =
      if current.size = previous.size ∧
          current.entries.all fun entry => (previous.get? entry.path).isSome then
        some (shared current previous)
      else
        none := by
  simp only [joined?, shared, Collection.getElem?_index, mapM_eq_filterMap, Option.isSome_map,
    ← ite_and]

theorem distinct_shared : ((shared current previous).map fun pair => pair.1.path).Nodup := by
  rw [shared, List.Nodup, List.pairwise_map, List.pairwise_filterMap]
  refine (List.pairwise_map.mp current.nodup_paths).imp ?_
  intro left right different pair found other foundOther
  obtain ⟨old, -, rfl⟩ := Option.map_eq_some_iff.mp found
  obtain ⟨older, -, rfl⟩ := Option.map_eq_some_iff.mp foundOther
  exact different

theorem changeOf?_of_entry (entry : Entry) (old? : Option Fingerprint) :
    changeOf? title includeAdded entry.path (some entry.fingerprint) old? =
      changeAt? title includeAdded entry old? := by
  cases old? <;> rfl

theorem reconciled_eq_outcome :
    reconciled current previous title includeAdded =
      outcome current previous title includeAdded := by
  have gone : (previous.paths.filter fun path => path ∉ current.paths) =
      (previous.entries.filter fun entry =>
        (current.get? entry.path).isNone).map Entry.path := by
    simp only [Collection.filter_paths, Collection.isNone_get?]
  rw [reconciled, outcome, walk, gone, Collection.paths, ← Entry.map_path_sorted_byPath,
    ← Entry.map_path_sorted_byPath, List.filterMap_append, List.filterMap_map,
    List.filterMap_map]
  congr 1
  · apply List.filterMap_congr
    intro entry member
    simp only [Function.comp_apply, Collection.get?_path_eq_some_iff.mpr (mem_sorted.mp member)]
    exact (changeOf?_of_entry title includeAdded entry _).symm
  · rw [← List.filterMap_eq_map]
    apply List.filterMap_congr
    intro entry member
    obtain ⟨old, absent⟩ := List.mem_filter.mp (mem_sorted.mp member)
    simp only [Function.comp_apply, Option.isNone_iff_eq_none.mp absent,
      Collection.get?_path_eq_some_iff.mpr old]
    rfl

/-- Sorting what differs at shared paths is walking over the current entries by
path. -/
theorem sorted_filter_shared (keep : Entry × Fingerprint → Bool) :
    sorted (orderBy Prod.fst Entry.byPath) ((shared current previous).filter keep) =
      ((sorted Entry.byPath current.entries).filterMap fun entry =>
        (previous.get? entry.path).map fun old => (entry, old)).filter keep := by
  have ascending : Ascending (orderBy Prod.fst Entry.byPath)
      ((sorted Entry.byPath current.entries).filterMap fun entry =>
        (previous.get? entry.path).map fun old => (entry, old)) := by
    rw [Ascending, List.pairwise_filterMap]
    refine (ascending_sorted Entry.byPath current.entries).imp ?_
    intro left right before pair found other foundOther
    obtain ⟨old, -, rfl⟩ := Option.map_eq_some_iff.mp found
    obtain ⟨older, -, rfl⟩ := Option.map_eq_some_iff.mp foundOther
    exact before
  have distinct := (distinct_shared current previous).sublist
    ((List.filter_sublist (p := keep)).map fun pair => pair.1.path)
  have perm := ((sorted_perm Entry.byPath current.entries).filterMap fun entry =>
    (previous.get? entry.path).map fun old => (entry, old)).filter keep
  exact ((ascending.sublist List.filter_sublist).eq_sorted_of_distinct
    (fun _ _ equal => Entry.path_eq_of_byPath_eq _ _ equal) distinct perm).symm

variable {current previous}

/-- The short comparison offers what the full one does. -/
theorem eq_reconciled_of_sharedSequence? {changes : List Change}
    (offered : sharedSequence? current previous title = some changes) :
    changes = reconciled current previous title includeAdded := by
  rw [sharedSequence?, joined?_eq] at offered
  split at offered
  · rename_i comparable
    obtain ⟨sizes, present⟩ := comparable
    have included : current.paths ⊆ previous.paths := by
      intro path member
      obtain ⟨entry, inside, rfl⟩ := List.mem_map.mp member
      exact Collection.isSome_get?_iff.mp (List.all_eq_true.mp present entry inside)
    have perm := Collection.paths_perm_of_subset sizes included
    have nothingGone :
        (previous.entries.filter fun entry => (current.get? entry.path).isNone) = [] := by
      apply List.filter_eq_nil_iff.mpr
      intro entry member
      have still : entry.path ∈ current.paths := perm.mem_iff.mpr (List.mem_map_of_mem member)
      simpa [Collection.isNone_get?] using still
    simp only [Option.map_some, Option.some.injEq] at offered
    rw [← offered, sorted_filter_shared, reconciled, nothingGone, sorted_eq_nil_iff.mpr rfl,
      List.map_nil, List.append_nil, List.filter_filterMap, List.map_filterMap]
    apply List.filterMap_congr
    intro entry member
    obtain ⟨old, found⟩ := Option.isSome_iff_exists.mp
      (List.all_eq_true.mp present entry (mem_sorted.mp member))
    rw [found, changeAt?]
    by_cases same : old = entry.fingerprint <;> simp [same]
  · cases offered

/-- Whichever way a comparison by path goes, its outcome is offered. -/
theorem sequence_eq_outcome (current previous : Collection) :
    sequence current previous title includeAdded =
      outcome current previous title includeAdded := by
  rw [sequence, ← reconciled_eq_outcome]
  cases offered : sharedSequence? current previous title with
  | none => rfl
  | some changes => exact eq_reconciled_of_sharedSequence? title includeAdded offered

section Observed

variable {σ : Type u} (observer : Observer σ) (state : σ)

theorem isSome_compareSharedPaths :
    (compareSharedPaths observer state current previous title).1.isSome =
      (sharedSequence? current previous title).isSome := by
  rw [compareSharedPaths, overSharedPaths?_eq_relay]
  cases sharedSequence? current previous title with
  | none => rfl
  | some changes => rfl

/-- Unless it declines, the comparison over shared paths comes to what the full
comparison comes to. -/
theorem compareSharedPaths_eq
    (answered : (compareSharedPaths observer state current previous title).1.isSome) :
    compareSharedPaths observer state current previous title =
      ((reconcile observer current previous title includeAdded).run state).map some id := by
  rw [isSome_compareSharedPaths] at answered
  obtain ⟨changes, offered⟩ := Option.isSome_iff_exists.mp answered
  rw [reconcile_eq_relay, ← eq_reconciled_of_sharedSequence? title includeAdded offered,
    compareSharedPaths, overSharedPaths?_eq_relay, offered]
  rfl

/-- A comparison by path is one pass over its outcome, and so is the full
comparison on its own. Where the comparison over shared paths answers at all,
nothing tells it from the full one: it gives the same answer, leaves the observer
in the same state and has offered the same changes. -/
theorem compare_eq_passOver (current previous : Collection) (title : String)
    (includeAdded : Bool) :
    Policy.absolute.compare observer state current previous title includeAdded =
        observer.passOver state (outcome current previous title includeAdded) ∧
      (reconcile observer current previous title includeAdded).run state =
        observer.passOver state (outcome current previous title includeAdded) ∧
      ((compareSharedPaths observer state current previous title).1.isSome →
        compareSharedPaths observer state current previous title =
            ((reconcile observer current previous title includeAdded).run state).map some id ∧
          compareSharedPaths observer.logging (state, []) current previous title =
            ((reconcile observer.logging current previous title includeAdded).run (state, [])).map
              some id) := by
  refine ⟨?_, ?_, ?_⟩
  · rw [Policy.compare, Policy.delivery_eq_relay, Policy.sequence, sequence_eq_outcome,
      Observer.run_relay]
  · rw [reconcile_eq_relay, reconciled_eq_outcome, Observer.run_relay]
  · intro answered
    refine ⟨compareSharedPaths_eq title includeAdded observer state answered, ?_⟩
    apply compareSharedPaths_eq title includeAdded
    rw [isSome_compareSharedPaths] at answered ⊢
    exact answered

/-- Two files were replaced, and the observer wants no more after the first in
path order. -/
theorem compare_eq_passOver_replaced :
    let file (path : String) (byte : UInt8) : Entry :=
      ⟨path, path, .regularFile, ⟨.replicate 32 byte, List.length_replicate⟩⟩
    let current : Collection := ⟨[file "/src/b" 3, file "/src/a" 4], by decide⟩
    let previous : Collection := ⟨[file "/src/a" 1, file "/src/b" 2], by decide⟩
    let observer := Observer.collectingUntil 1
    (compareSharedPaths observer #[] current previous "Sources").1.isSome ∧
      compareSharedPaths observer #[] current previous "Sources" =
        ((reconcile observer current previous "Sources" false).run #[]).map some id ∧
      compareSharedPaths observer #[] current previous "Sources" =
        (some false,
          #[⟨"Sources", "/src/a", "/src/a", .modified .regularFile .regularFile⟩]) := by
  intro file current previous observer
  have answered : (compareSharedPaths observer #[] current previous "Sources").1.isSome := by
    rw [isSome_compareSharedPaths, sharedSequence?, joined?_eq, Option.isSome_map]
    decide
  have facts := compare_eq_passOver observer #[] current previous "Sources" false
  have same := (facts.2.2 answered).1
  refine ⟨answered, same, ?_⟩
  have arranged : ["/src/a", "/src/b"] = sorted Text.order current.paths := by
    apply Ascending.eq_sorted _ (.swap _ _ _)
    apply List.pairwise_pair.mpr
    rw [Text.order_eq]
    decide
  have nothing : (previous.paths.filter fun path => path ∉ current.paths) = [] := by decide
  rw [same, facts.2.1, outcome, walk, nothing, ← arranged, sorted_eq_nil_iff.mpr rfl]
  rfl

end Observed

end Reconcile.ByPath

end Drift
