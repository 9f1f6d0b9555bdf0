import Drift.Fingerprint
import Std.Data.TreeMap.Lemmas

/-!
# Collections of fingerprints

A collection is a finite map from paths to fingerprints that remembers the
order in which its paths were first inserted. `Collection.get?` is the view
through which collections are compared; the insertion order shows only when a
collection is listed or written out.
-/

namespace Drift

/-- A path and what was found there. -/
@[ext] structure Entry where
  path : String
  fingerprint : Fingerprint
  deriving DecidableEq

namespace Entry

/-- Entries compare by path. -/
abbrev byPath : Entry → Entry → Ordering :=
  orderBy path Text.order

/-- Entries compare by path, the largest path first. -/
def byPathDown (left right : Entry) : Ordering := byPath right left

instance : Std.TransCmp byPathDown :=
  inferInstanceAs (Std.TransCmp fun left right => byPath right left)

end Entry

/-- Entries with distinct paths, in insertion order. -/
@[ext] structure Collection where
  entries : List Entry
  nodup_paths : (entries.map Entry.path).Nodup
  deriving DecidableEq

namespace Collection

/-- The collection without entries. -/
def empty : Collection := ⟨[], .nil⟩

/-- The number of entries. -/
def size (collection : Collection) : Nat := collection.entries.length

/-- The paths, in insertion order. -/
def paths (collection : Collection) : List String := collection.entries.map Entry.path

/-- The fingerprints, in insertion order. -/
def fingerprints (collection : Collection) : List Fingerprint :=
  collection.entries.map Entry.fingerprint

/-- The fingerprint at a path, if the collection has the path. -/
def get? (collection : Collection) (path : String) : Option Fingerprint :=
  (collection.entries.find? fun entry => entry.path = path).map Entry.fingerprint

theorem get?_eq_some_iff {collection : Collection} {path : String} {fingerprint : Fingerprint} :
    collection.get? path = some fingerprint ↔ ⟨path, fingerprint⟩ ∈ collection.entries := by
  have nodup := collection.nodup_paths
  unfold get?
  generalize collection.entries = entries at nodup
  induction entries with
  | nil => simp
  | cons entry rest ih =>
      simp only [List.map_cons, List.nodup_cons, List.mem_map, not_exists, not_and] at nodup
      by_cases here : entry.path = path
      · subst here
        have fresh : ⟨entry.path, fingerprint⟩ ∉ rest := fun member =>
          nodup.1 _ member rfl
        simp [fresh, Entry.ext_iff, eq_comm]
      · have different : (⟨path, fingerprint⟩ : Entry) ≠ entry := fun equal =>
          here (by rw [← equal])
        simp [here, ih nodup.2, different]

theorem get?_eq_none_iff {collection : Collection} {path : String} :
    collection.get? path = none ↔ path ∉ collection.paths := by
  simp [get?, paths]

/-- The entry of a path put in place of the one that is there, or at the end
when the path is new. -/
def insert (collection : Collection) (entry : Entry) : Collection :=
  if known : collection.entries.any fun old => old.path = entry.path then
    { entries := collection.entries.map fun old => if old.path = entry.path then entry else old
      nodup_paths := by
        have same : (fun old : Entry => (if old.path = entry.path then entry else old).path) =
            Entry.path := by
          funext old
          split <;> simp_all
        simpa [Function.comp_def, same] using collection.nodup_paths }
  else
    { entries := collection.entries ++ [entry]
      nodup_paths := by
        simpa [List.nodup_append, collection.nodup_paths, paths] using known }

/-- The collection without a path; the other entries keep their order. -/
def erase (collection : Collection) (path : String) : Collection where
  entries := collection.entries.filter fun entry => entry.path ≠ path
  nodup_paths := collection.nodup_paths.sublist (List.filter_sublist.map _)

theorem mem_entries_insert {collection : Collection} {entry other : Entry} :
    other ∈ (collection.insert entry).entries ↔
      other = entry ∨ other ∈ collection.entries ∧ other.path ≠ entry.path := by
  unfold insert
  split
  · rename_i known
    obtain ⟨old, member, same⟩ := List.any_eq_true.mp known
    simp only [List.mem_map]
    constructor
    · rintro ⟨kept, inside, rfl⟩
      by_cases here : kept.path = entry.path <;> simp [here, inside]
    · rintro (rfl | ⟨inside, different⟩)
      · exact ⟨old, member, by simp_all⟩
      · exact ⟨other, inside, by simp [different]⟩
  · rename_i fresh
    simp only [List.any_eq_true, decide_eq_true_eq, not_exists, not_and] at fresh
    simp only [List.mem_append, List.mem_singleton]
    constructor
    · rintro (inside | rfl)
      · exact .inr ⟨inside, fresh other inside⟩
      · exact .inl rfl
    · rintro (rfl | ⟨inside, -⟩)
      · exact .inr rfl
      · exact .inl inside

@[simp] theorem get?_insert (collection : Collection) (entry : Entry) (path : String) :
    (collection.insert entry).get? path =
      if entry.path = path then some entry.fingerprint else collection.get? path := by
  apply Option.ext
  intro fingerprint
  rw [get?_eq_some_iff, mem_entries_insert]
  by_cases here : entry.path = path
  · simp [here, Entry.ext_iff, eq_comm]
  · have other : (⟨path, fingerprint⟩ : Entry) ≠ entry := fun equal =>
      here (by rw [← equal])
    rw [if_neg here, get?_eq_some_iff]
    simp [other, Ne.symm here]

@[simp] theorem paths_insert (collection : Collection) (entry : Entry) :
    (collection.insert entry).paths =
      if entry.path ∈ collection.paths then collection.paths
      else collection.paths ++ [entry.path] := by
  have known : (collection.entries.any fun old => old.path = entry.path) = true ↔
      entry.path ∈ collection.paths := by
    simp [paths]
  unfold insert
  split
  · rename_i present
    rw [if_pos (known.mp present)]
    simp only [paths, List.map_map]
    apply List.map_congr_left
    intro old _
    by_cases here : old.path = entry.path <;> simp [here]
  · rename_i absent
    rw [if_neg (fun present => absent (known.mpr present))]
    simp [paths]

@[simp] theorem get?_erase (collection : Collection) (path other : String) :
    (collection.erase path).get? other =
      if path = other then none else collection.get? other := by
  apply Option.ext
  intro fingerprint
  rw [get?_eq_some_iff]
  by_cases here : path = other
  · simp [erase, here]
  · rw [if_neg here, get?_eq_some_iff]
    simp [erase, Ne.symm here]

/-- The entries as a search tree over their paths. -/
def index (collection : Collection) : Std.TreeMap String Fingerprint Text.order :=
  .ofList (collection.entries.map fun entry => (entry.path, entry.fingerprint)) _

/-- Looking a path up in the search tree finds what the collection holds. -/
@[simp] theorem getElem?_index (collection : Collection) (path : String) :
    collection.index[path]? = collection.get? path := by
  have distinct : (collection.entries.map fun entry => (entry.path, entry.fingerprint)).Pairwise
      fun left right => ¬ Text.order left.1 right.1 = .eq := by
    rw [List.pairwise_map]
    exact (List.pairwise_map.mp collection.nodup_paths).imp fun different equal =>
      different (Std.LawfulEqCmp.eq_of_compare equal)
  cases found : collection.get? path with
  | some fingerprint =>
      refine Std.TreeMap.getElem?_ofList_of_mem Std.ReflCmp.compare_self distinct ?_
      exact List.mem_map.mpr ⟨_, get?_eq_some_iff.mp found, rfl⟩
  | none =>
      refine Std.TreeMap.getElem?_ofList_of_contains_eq_false ?_
      simpa [paths] using get?_eq_none_iff.mp found

/-- Whether two collections hold equal fingerprints at the same paths. -/
def identical (left right : Collection) : Bool :=
  let index := right.index
  left.size == right.size &&
    left.entries.all fun entry => index[entry.path]? == some entry.fingerprint

end Collection

end Drift
