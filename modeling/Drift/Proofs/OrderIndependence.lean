import Drift.Proofs.CacheKey.Encoding
import Drift.Proofs.Reconcile.Pairing
import Drift.Proofs.Reconcile.PathOrder
import Drift.Report

/-!
# Order of insertion

What a comparison tells, and what enters key material, depends on which entries
the collections hold and not on the order in which they were inserted. Every
list that is walked over is sorted by a comparison that tells its elements
apart, so that there is one ascending arrangement of it: whatever sorts, and
whatever order the elements come in, the same list results.
-/

namespace Drift

namespace Collection

theorem get?_eq_of_perm {left right : Collection} (perm : left.entries.Perm right.entries)
    (path : String) : left.get? path = right.get? path :=
  perm_iff_forall_get?.mp perm path

theorem identical_eq_of_perm {left left' right right' : Collection}
    (sameLeft : left'.entries.Perm left.entries)
    (sameRight : right'.entries.Perm right.entries) :
    left'.identical right' = left.identical right := by
  rw [Bool.eq_iff_iff, identical_iff_perm, identical_iff_perm]
  exact ⟨fun perm => sameLeft.symm.trans (perm.trans sameRight),
    fun perm => sameLeft.trans (perm.trans sameRight.symm)⟩

end Collection

namespace Reconcile.ByPath

theorem shared_perm {current current' previous previous' : Collection}
    (sameCurrent : current'.entries.Perm current.entries)
    (samePrevious : previous'.entries.Perm previous.entries) :
    (shared current' previous').Perm (shared current previous) := by
  simp only [shared, Collection.get?_eq_of_perm samePrevious]
  exact sameCurrent.filterMap _

end Reconcile.ByPath

namespace Sorter

/-- Reverses the order of elements that compare equal. -/
def reversing : Sorter where
  sort compare values := sorted compare values.reverse
  sort_perm compare _ values := (sorted_perm compare _).trans (List.reverse_perm values)
  ascending_sort compare _ values := ascending_sorted compare values.reverse

/-- The two ways differ where a comparison cannot tell elements apart. -/
example : stable.sort (orderBy Prod.fst compare) [(1, 'a'), (0, 'b'), (1, 'c')] =
      [(0, 'b'), (1, 'a'), (1, 'c')] ∧
    reversing.sort (orderBy Prod.fst compare) [(1, 'a'), (0, 'b'), (1, 'c')] =
      [(0, 'b'), (1, 'c'), (1, 'a')] := by
  cbv

/-- Entries with distinct paths are kept the same way whatever order they come in
and whatever sorts them. -/
theorem alike_ofEntries (sorter : Sorter) {κ : Type u} [DecidableEq κ] {key : Fingerprint → κ}
    {order : κ → κ → Ordering} [Std.TransCmp order] [Std.LawfulEqCmp order]
    {entries others : List Entry} (distinct : (others.map Entry.path).Nodup)
    (perm : entries.Perm others) :
    (.ofEntries entries sorter : Reconcile.Buckets key order).Alike (.ofEntries others) := by
  intro value
  have distinctHere := (perm.map Entry.path).nodup_iff.mpr distinct
  rw [Reconcile.Buckets.under_ofEntries_eq_sorted distinctHere,
    Reconcile.Buckets.under_ofEntries_eq_sorted distinct]
  apply Entry.eq_sorted_byPath (ascending_sorted _ _)
  · exact distinct.sublist (List.filter_sublist.map _)
  · exact (sorted_perm _ _).trans (perm.filter _)

variable (sorter : Sorter)

section Reordered

open Reconcile

variable {current current' previous previous' : Collection}
variable (sameCurrent : current'.entries.Perm current.entries)
variable (samePrevious : previous'.entries.Perm previous.entries)

include sameCurrent samePrevious

theorem unsettled_perm [DecidableEq κ] (key : Fingerprint → κ) :
    (unsettled key current' previous').Perm (unsettled key current previous) := by
  simp only [unsettled_eq, Collection.get?_eq_of_perm samePrevious]
  exact sameCurrent.filter _

theorem sort_unsettled [DecidableEq κ] (key : Fingerprint → κ) :
    sorter.sort Entry.byFingerprint (unsettled key current' previous') =
      sorted Entry.byFingerprint (unsettled key current previous) :=
  sorter.sort_eq_sorted (unsettled_perm sameCurrent samePrevious key)

theorem alike_split :
    (ByName.split current' previous' sorter).missing.Alike
        (ByName.split current previous).missing ∧
      (ByName.split current' previous' sorter).candidates.Alike
        (ByName.split current previous).candidates := by
  have missing : (.ofEntries (unsettled Fingerprint.self previous' current') sorter :
      ByName.Missing).Alike (.ofEntries (unsettled Fingerprint.self previous current)) :=
    sorter.alike_ofEntries (distinct_unsettled Fingerprint.self previous current)
      (unsettled_perm samePrevious sameCurrent Fingerprint.self)
  obtain ⟨unmatched, left⟩ :=
    missing.absorb (sorted Entry.byFingerprint (unsettled Fingerprint.self current previous))
  simp only [ByName.split, sorter.sort_unsettled sameCurrent samePrevious, sort_stable,
    unmatched]
  refine ⟨left, sorter.alike_ofEntries ?_ (.refl _)⟩
  apply List.Nodup.sublist ((Buckets.absorb_sublist _ _).map Entry.path)
  exact ((sorted_perm _ _).map Entry.path).nodup_iff.mpr
    (distinct_unsettled Fingerprint.self current previous)

variable {σ : Type u} (observer : Observer σ) (title : String) (includeAdded : Bool)

theorem reconcile_byName_eq :
    ByName.reconcile observer current' previous' title includeAdded sorter =
      ByName.reconcile observer current previous title includeAdded := by
  obtain ⟨missing, candidates⟩ := sorter.alike_split sameCurrent samePrevious
  obtain ⟨outcomes, left⟩ :=
    ByName.pairing_of_alike candidates (ByName.split current previous).missing.toList
  simp only [ByName.reconcile, ByName.pair_eq_relay, missing.toList_eq, outcomes, bind_assoc,
    pure_bind, left.toList_eq]

theorem reconcile_byContent_eq :
    ByContent.reconcile observer current' previous' title includeAdded sorter =
      ByContent.reconcile observer current previous title includeAdded := by
  have unaccounted : (.ofEntries (unsettled Fingerprint.content previous' current') sorter :
      ByContent.Unaccounted).Alike
        (.ofEntries (unsettled Fingerprint.content previous current)) :=
    sorter.alike_ofEntries (distinct_unsettled Fingerprint.content previous current)
      (unsettled_perm samePrevious sameCurrent Fingerprint.content)
  obtain ⟨unmatched, left⟩ := unaccounted.absorb
    (sorted Entry.byFingerprint (unsettled Fingerprint.content current previous))
  simp only [ByContent.reconcile, ByContent.consume_eq_relay,
    sorter.sort_unsettled sameCurrent samePrevious, sort_stable, unmatched, bind_assoc,
    pure_bind, left.toList_eq]

theorem reconcile_byPath_eq :
    ByPath.reconcile observer current' previous' title includeAdded sorter =
      ByPath.reconcile observer current previous title includeAdded := by
  have walked := sorter.sort_eq_sorted_of_distinct Entry.path_eq_of_byPath_eq
    current.nodup_paths sameCurrent
  have gone := sorter.sort_eq_sorted_of_distinct Entry.path_eq_of_byPath_eq
    (previous.nodup_paths.sublist (List.filter_sublist.map Entry.path))
    (samePrevious.filter fun entry => (current.get? entry.path).isNone)
  simp only [ByPath.reconcile, Collection.getElem?_index,
    Collection.get?_eq_of_perm sameCurrent, Collection.get?_eq_of_perm samePrevious, walked,
    gone, sort_stable]

theorem overSharedPaths?_eq :
    ByPath.overSharedPaths? observer current' previous' title sorter =
      ByPath.overSharedPaths? observer current previous title := by
  have sizes : current'.size = current.size := sameCurrent.length_eq
  have sizesBefore : previous'.size = previous.size := samePrevious.length_eq
  rw [ByPath.overSharedPaths?, ByPath.overSharedPaths?, ByPath.joined?_eq, ByPath.joined?_eq,
    sizes, sizesBefore, sameCurrent.all_eq]
  simp only [Collection.get?_eq_of_perm samePrevious]
  split
  · have differing := (ByPath.shared_perm sameCurrent samePrevious).filter
      fun pair => pair.2 ≠ pair.1.fingerprint
    have distinct := (ByPath.distinct_shared current previous).sublist
      ((List.filter_sublist (p := fun pair => pair.2 ≠ pair.1.fingerprint)).map _)
    have decides (first second : Entry × Fingerprint)
        (equal : orderBy Prod.fst Entry.byPath first second = .eq) :
        first.1.path = second.1.path :=
      Entry.path_eq_of_byPath_eq _ _ equal
    simp only [Option.map_some, sorter.sort_eq_sorted_of_distinct decides distinct differing,
      sort_stable]
  · rfl

theorem delivery_eq (policy : Policy) :
    policy.delivery observer current' previous' title includeAdded sorter =
      policy.delivery observer current previous title includeAdded := by
  have identical := Collection.identical_eq_of_perm sameCurrent samePrevious
  cases policy with
  | absolute =>
      rw [Policy.delivery, Policy.delivery, ByPath.compare, ByPath.compare,
        sorter.overSharedPaths?_eq sameCurrent samePrevious,
        sorter.reconcile_byPath_eq sameCurrent samePrevious]
  | normalized =>
      rw [Policy.delivery, Policy.delivery, ByName.compare, ByName.compare, identical,
        sorter.reconcile_byName_eq sameCurrent samePrevious]
  | ignoredPath =>
      rw [Policy.delivery, Policy.delivery, ByContent.compare, ByContent.compare, identical,
        sorter.reconcile_byContent_eq sameCurrent samePrevious]

theorem compare_eq (policy : Policy) (state : σ) :
    policy.compare observer state current' previous' title includeAdded sorter =
      policy.compare observer state current previous title includeAdded := by
  rw [Policy.compare, Policy.compare, sorter.delivery_eq sameCurrent samePrevious]

end Reordered

/-- Collections with the same entries give the same results, in whatever order
their entries were inserted: the same answer and the same final state of any
observer, the same report, the same key material. This is so whichever ascending
arrangement the sorting of the one comes up with, and among others for the one that
keeps equal elements in their places. -/
theorem results_reordered {current current' previous previous' : Collection}
    (sameCurrent : current'.entries.Perm current.entries)
    (samePrevious : previous'.entries.Perm previous.entries) {σ : Type u} (policy : Policy)
    (observer : Observer σ) (state : σ) (title before : String) (includeAdded : Bool)
    (settings : Settings) (sorter : Sorter) :
    policy.compare observer state current' previous' title includeAdded sorter =
        policy.compare observer state current previous title includeAdded ∧
      compareSharedPaths observer state current' previous' title sorter =
        compareSharedPaths observer state current previous title ∧
      policy.hasChanges current' previous' sorter = policy.hasChanges current previous ∧
      Report.collect settings title current' previous' sorter =
        Report.collect settings title current previous ∧
      Fingerprint.materialOfAll current'.fingerprints sorter =
        Fingerprint.materialOfAll current.fingerprints ∧
      (Snapshot.mk title policy current').material sorter =
        (Snapshot.mk before policy current).material := by
  have fingerprints : current'.fingerprints.Perm current.fingerprints := sameCurrent.map _
  refine ⟨?_, ?_, ?_, ?_, ?_, ?_⟩
  · exact sorter.compare_eq sameCurrent samePrevious observer title includeAdded policy state
  · rw [compareSharedPaths, compareSharedPaths,
      sorter.overSharedPaths?_eq sameCurrent samePrevious observer title]
  · rw [Policy.hasChanges, Policy.hasChanges, sorter.compare_eq sameCurrent samePrevious]
  · rw [Report.collect, Report.collect, sorter.compare_eq sameCurrent samePrevious]
  · exact Fingerprint.materialOfAll_eq_of_perm fingerprints
  · have equivalent := policy.equivalent_of_perm fingerprints
    exact congrArg (_ ++ ·) (Policy.material_eq_of_equivalent equivalent)

/-- Two files that were inserted the other way round, and two equal ones before
them. -/
theorem results_reordered_swapped :
    let file (path : String) (byte : UInt8) : Entry :=
      ⟨path, "lib", .regularFile, ⟨.replicate 32 byte, List.length_replicate⟩⟩
    let current : Collection := ⟨[file "/new/a" 1, file "/new/b" 2], by decide⟩
    let current' : Collection := ⟨[file "/new/b" 2, file "/new/a" 1], by decide⟩
    let previous : Collection := ⟨[file "/old/a" 3, file "/old/b" 3], by decide⟩
    let previous' : Collection := ⟨[file "/old/b" 3, file "/old/a" 3], by decide⟩
    current'.entries.Perm current.entries ∧ previous'.entries.Perm previous.entries ∧
      Policy.normalized.compare .collecting #[] current' previous' "Sources" true =
        Policy.normalized.compare .collecting #[] current previous "Sources" true ∧
      Policy.normalized.compare .collecting #[] current' previous' "Sources" true reversing =
        Policy.normalized.compare .collecting #[] current previous "Sources" true ∧
      (Snapshot.mk "Sources" .normalized current').material reversing =
        (Snapshot.mk "Classpath" .normalized current).material := by
  intro file current current' previous previous'
  have sameCurrent : current'.entries.Perm current.entries := .swap _ _ _
  have samePrevious : previous'.entries.Perm previous.entries := .swap _ _ _
  have results := results_reordered sameCurrent samePrevious .normalized .collecting #[]
    "Sources" "Classpath" true .standard
  obtain ⟨answer, -, -, -, -, material⟩ := results reversing
  exact ⟨sameCurrent, samePrevious, (results stable).1, answer, material⟩

end Sorter

end Drift
