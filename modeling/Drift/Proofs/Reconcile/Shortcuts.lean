import Drift.Proofs.Reconcile.Unchanged

/-!
# Short ways through a comparison

Collections over the same paths are compared path by path, and collections that
are identical are not compared at all. Either way is taken after a look at the
sizes and in one direction only, which is enough because the paths of a collection
are distinct. Where the paths differ nothing has been offered yet, and where
nothing differs the full comparison would have offered nothing.
-/

namespace Drift

namespace Collection

variable {left right : Collection}

/-- Both collections have the same paths. -/
def SamePaths (left right : Collection) : Prop :=
  ∀ path, path ∈ left.paths ↔ path ∈ right.paths

theorem samePaths_comm : left.SamePaths right ↔ right.SamePaths left :=
  ⟨fun same path => (same path).symm, fun same path => (same path).symm⟩

/-- With equally many paths, one direction is enough. -/
theorem samePaths_iff :
    left.SamePaths right ↔ left.size = right.size ∧ left.paths ⊆ right.paths := by
  constructor
  · intro same
    have perm : left.paths.Perm right.paths :=
      (List.perm_ext_iff_of_nodup left.nodup_paths right.nodup_paths).mpr same
    refine ⟨?_, perm.subset⟩
    simpa [paths, size] using perm.length_eq
  · rintro ⟨sizes, included⟩ path
    exact (paths_perm_of_subset sizes included).mem_iff

theorem identical_iff_forall_get? :
    left.identical right = true ↔ ∀ path, left.get? path = right.get? path :=
  (identical_iff_perm left right).trans perm_iff_forall_get?

theorem equivalence_identical :
    Equivalence fun left right : Collection => left.identical right = true := by
  simp only [identical_iff_forall_get?]
  exact ⟨fun _ _ => rfl, fun same path => (same path).symm,
    fun same other path => (same path).trans (other path)⟩

end Collection

namespace Reconcile

namespace ByPath

variable {current previous : Collection}

/-- The changes between two collections over the same paths: one at each path
whose fingerprints differ, in strictly ascending order of the paths. -/
structure Modifications (current previous : Collection) (title : String)
    (changes : List Change) : Prop where
  ascending : changes.Pairwise fun left right => Text.order left.path right.path = .lt
  mem_iff : ∀ change, change ∈ changes ↔ ∃ old new,
    previous.get? change.path = some old ∧ current.get? change.path = some new ∧ old ≠ new ∧
      change =
        ⟨title, change.path, new.normalizedPath, .modified old.fileType new.fileType⟩

theorem walk_eq_of_samePaths (same : current.SamePaths previous) :
    walk current previous = sorted Text.order current.paths := by
  have nothing : (previous.paths.filter fun path => path ∉ current.paths) = [] := by
    apply List.filter_eq_nil_iff.mpr
    intro path member
    simpa using (same path).mpr member
  rw [walk, nothing, sorted_eq_nil_iff.mpr rfl, List.append_nil]

theorem changeOf?_of_both (title path : String) (includeAdded : Bool) (old new : Fingerprint)
    (change : Change) :
    changeOf? title includeAdded path (some new) (some old) = some change ↔
      old ≠ new ∧
        change = ⟨title, path, new.normalizedPath, .modified old.fileType new.fileType⟩ := by
  by_cases same : old = new <;> simp [changeOf?, same, eq_comm]

/-- Over the same paths, there are only modifications, with additions asked for
or not. -/
theorem modifications_outcome (same : current.SamePaths previous) (title : String)
    (includeAdded : Bool) :
    Modifications current previous title (outcome current previous title includeAdded) where
  ascending := by
    have distinct : (sorted Text.order current.paths).Nodup :=
      (sorted_perm Text.order current.paths).nodup_iff.mpr current.nodup_paths
    rw [outcome, walk_eq_of_samePaths same, List.pairwise_filterMap]
    refine ((ascending_sorted Text.order current.paths).pairwise_lt_of_nodup distinct).imp ?_
    intro path other before change told later toldLater
    rwa [path_of_changeOf? told, path_of_changeOf? toldLater]
  mem_iff := by
    intro change
    rw [outcome, List.mem_filterMap]
    constructor
    · rintro ⟨path, walked, told⟩
      obtain rfl := path_of_changeOf? told
      have here : change.path ∈ current.paths := by
        rcases mem_walk.mp walked with here | there
        · exact here
        · exact (same change.path).mpr there
      obtain ⟨new, now⟩ := Option.isSome_iff_exists.mp (Collection.isSome_get?_iff.mpr here)
      obtain ⟨old, before⟩ := Option.isSome_iff_exists.mp
        (Collection.isSome_get?_iff.mpr ((same change.path).mp here))
      rw [now, before] at told
      exact ⟨old, new, before, now, (changeOf?_of_both _ _ _ _ _ _).mp told⟩
    · rintro ⟨old, new, before, now, differs⟩
      refine ⟨change.path, mem_walk.mpr (.inl ?_), ?_⟩
      · exact Collection.isSome_get?_iff.mp (by rw [now]; rfl)
      · rw [now, before]
        exact (changeOf?_of_both _ _ _ _ _ _).mpr differs

theorem isSome_sharedSequence?_iff (title : String) :
    (sharedSequence? current previous title).isSome = true ↔ current.SamePaths previous := by
  have present : (current.entries.all fun entry => (previous.get? entry.path).isSome) = true ↔
      current.paths ⊆ previous.paths := by
    simp only [List.all_eq_true, Collection.isSome_get?_iff, Collection.paths, List.subset_def,
      List.forall_mem_map]
  rw [sharedSequence?, Option.isSome_map, joined?_eq, Collection.samePaths_iff, ← present]
  split <;> simp_all

end ByPath

variable {σ : Type u} (observer : Observer σ) (current previous : Collection) (title : String)
  (includeAdded : Bool)

/-- Without the look at whether anything differs, the comparison by name is the
same. -/
theorem ByName.compare_eq_reconcile :
    compare observer current previous title includeAdded =
      reconcile observer current previous title includeAdded := by
  rw [compare_eq_relay, reconcile_eq_relay, sequence_eq_reconciled]

/-- Without the look at whether anything differs, the comparison by content is
the same. -/
theorem ByContent.compare_eq_reconcile :
    compare observer current previous title includeAdded =
      reconcile observer current previous title includeAdded := by
  rw [compare_eq_relay, reconcile_eq_relay, sequence_eq_outcome, reconciled_eq_outcome]

end Reconcile

section Observed

variable {σ : Type u} (observer : Observer σ) (state : σ) (current previous : Collection)
  (title : String)

theorem compareSharedPaths_eq_none_iff :
    (compareSharedPaths observer state current previous title).1 = none ↔
      ¬ current.SamePaths previous := by
  rw [← Reconcile.ByPath.isSome_sharedSequence?_iff title,
    ← Reconcile.ByPath.isSome_compareSharedPaths title observer state,
    Option.not_isSome_iff_eq_none]

/-- The comparison over shared paths declines exactly if the paths of both sides
are not the same, whichever side comes first, and then the observer was not called.
Otherwise it offers the modifications, in strictly ascending order of their paths
and up to the first one after which the observer wants no more, and answers whether
there was none such. A full comparison by path comes to the same, with additions
asked for or not. -/
theorem compareSharedPaths_atomic :
    ((compareSharedPaths observer state current previous title).1 = none ↔
      ¬ current.SamePaths previous) ∧
    ((compareSharedPaths observer state current previous title).1 = none ↔
      (compareSharedPaths observer state previous current title).1 = none) ∧
    match compareSharedPaths observer state current previous title with
    | (none, final) =>
        final = state ∧
          compareSharedPaths observer.logging (state, []) current previous title =
            (none, state, [])
    | (some completed, final) =>
        ∃ changes offered,
          Reconcile.ByPath.Modifications current previous title changes ∧
          observer.Cut state changes offered completed final ∧
          compareSharedPaths observer.logging (state, []) current previous title =
            (some completed, final, offered) ∧
          ∀ includeAdded,
            Policy.absolute.compare observer state current previous title includeAdded =
              (completed, final) := by
  refine ⟨?_, ?_, ?_⟩
  · exact compareSharedPaths_eq_none_iff observer state current previous title
  · rw [compareSharedPaths_eq_none_iff, compareSharedPaths_eq_none_iff,
      Collection.samePaths_comm]
  · simp only [compareSharedPaths, Reconcile.ByPath.overSharedPaths?_eq_relay]
    cases offers : Reconcile.ByPath.sharedSequence? current previous title with
    | none => exact ⟨rfl, rfl⟩
    | some changes =>
        have same : current.SamePaths previous :=
          (Reconcile.ByPath.isSome_sharedSequence?_iff title).mp (by rw [offers]; rfl)
        have told (includeAdded : Bool) :
            changes = Reconcile.ByPath.outcome current previous title includeAdded :=
          (Reconcile.ByPath.eq_reconciled_of_sharedSequence? title includeAdded offers).trans
            (Reconcile.ByPath.reconciled_eq_outcome current previous title includeAdded)
        obtain ⟨offered, cut, logged⟩ := observer.cut_relay state changes
        refine ⟨changes, offered, ?_, cut, ?_, ?_⟩
        · rw [told true]
          exact Reconcile.ByPath.modifications_outcome same title true
        · simp [logged]
        · intro includeAdded
          rw [Policy.compare, Policy.delivery_eq_relay, Policy.sequence,
            Reconcile.ByPath.sequence_eq_outcome, ← told includeAdded]

/-- Being identical is to hold the same at every path, so it does not depend on
an order and is an equivalence; it is also to have no changes by path. Where nothing
differs, the comparisons by name and by content end at once, and no observer can
tell: they come to what they come to without that. -/
theorem identical_exact :
    (current.identical previous = true ↔ ∀ path, current.get? path = previous.get? path) ∧
    (current.identical previous = true ↔
      Policy.absolute.changes current previous title true = []) ∧
    (Equivalence fun left right : Collection => left.identical right = true) ∧
    ∀ includeAdded,
      (Policy.normalized.compare observer state current previous title includeAdded =
          (Reconcile.ByName.reconcile observer current previous title includeAdded).run state ∧
        Policy.normalized.compare observer.logging (state, []) current previous title
            includeAdded =
          (Reconcile.ByName.reconcile observer.logging current previous title includeAdded).run
            (state, [])) ∧
      (Policy.ignoredPath.compare observer state current previous title includeAdded =
          (Reconcile.ByContent.reconcile observer current previous title includeAdded).run state ∧
        Policy.ignoredPath.compare observer.logging (state, []) current previous title
            includeAdded =
          (Reconcile.ByContent.reconcile observer.logging current previous title includeAdded).run
            (state, [])) := by
  refine ⟨Collection.identical_iff_forall_get?, ?_, Collection.equivalence_identical, ?_⟩
  · rw [Collection.identical_iff_perm, Policy.changes_eq_sequence,
      Policy.sequence_eq_nil_iff_quiet, Policy.Quiet]
  · intro includeAdded
    simp only [Policy.compare, Policy.delivery, Reconcile.ByName.compare_eq_reconcile,
      Reconcile.ByContent.compare_eq_reconcile, and_self]

end Observed

end Drift
