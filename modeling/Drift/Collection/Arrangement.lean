import Drift.Collection

/-!
# Collections from lists of entries

A list may name a path several times. The collection it makes keeps the latest
fingerprint of each path, at the place where the path first occurs: the same as
if the entries were inserted one after another, though no entry is looked for
in a list.
-/

namespace Drift.Collection

/-- Splits the entries of a search tree off in the order in which their paths
first occur in a list. -/
def arrange (index : Std.TreeMap String Fingerprint Text.order) : List String → List Entry
  | [] => []
  | path :: rest =>
      match index[path]? with
      | some fingerprint => ⟨path, fingerprint⟩ :: arrange (index.erase path) rest
      | none => arrange index rest

theorem getElem?_of_mem_arrange {index : Std.TreeMap String Fingerprint Text.order}
    {paths : List String} {entry : Entry} (member : entry ∈ arrange index paths) :
    index[entry.path]? = some entry.fingerprint := by
  induction paths generalizing index with
  | nil => simp [arrange] at member
  | cons path rest ih =>
      unfold arrange at member
      split at member
      · rename_i fingerprint found
        rcases List.mem_cons.mp member with rfl | later
        · exact found
        · have still := ih later
          rw [Std.TreeMap.getElem?_erase] at still
          split at still
          · cases still
          · exact still
      · exact ih member

theorem nodup_arrange (index : Std.TreeMap String Fingerprint Text.order)
    (paths : List String) : ((arrange index paths).map Entry.path).Nodup := by
  induction paths generalizing index with
  | nil => exact .nil
  | cons path rest ih =>
      unfold arrange
      split
      · rename_i fingerprint found
        simp only [List.map_cons, List.nodup_cons, List.mem_map, not_exists, not_and]
        refine ⟨?_, ih _⟩
        rintro entry member rfl
        have still := getElem?_of_mem_arrange member
        simp at still
      · exact ih _

/-- Entries inserted one after another, starting from nothing: the latest
fingerprint of each path, in the order of first occurrence. -/
def ofEntries (entries : List Entry) : Collection where
  entries := arrange (.ofList (entries.map fun entry => (entry.path, entry.fingerprint)) _)
    (entries.map Entry.path)
  nodup_paths := nodup_arrange _ _

/-- A path that the search tree does not have is passed over. -/
theorem arrange_append_of_none {index : Std.TreeMap String Fingerprint Text.order}
    {path : String} (absent : index[path]? = none) (before after : List String) :
    arrange index (before ++ path :: after) = arrange index (before ++ after) := by
  induction before generalizing index with
  | nil => simp [arrange, absent]
  | cons head rest ih =>
      have still : (index.erase head)[path]? = none := by
        simp [Std.TreeMap.getElem?_erase, absent]
      simp only [List.cons_append, arrange, ih absent, ih still]

/-- A path that occurred before is passed over. -/
theorem arrange_append_of_mem {index : Std.TreeMap String Fingerprint Text.order}
    {path : String} {before : List String} (member : path ∈ before) (after : List String) :
    arrange index (before ++ path :: after) = arrange index (before ++ after) := by
  induction before generalizing index with
  | nil => simp at member
  | cons head rest ih =>
      rcases List.mem_cons.mp member with rfl | later
      · simp only [List.cons_append, arrange]
        split
        · rw [arrange_append_of_none Std.TreeMap.getElem?_erase_self]
        · rename_i absent
          rw [arrange_append_of_none absent]
      · simp only [List.cons_append, arrange, ih later]

/-- Entries with distinct paths that a search tree holds are arranged as they
are. -/
theorem arrange_of_mem {index : Std.TreeMap String Fingerprint Text.order}
    {entries : List Entry} (nodup : (entries.map Entry.path).Nodup)
    (held : ∀ entry ∈ entries, index[entry.path]? = some entry.fingerprint) :
    arrange index (entries.map Entry.path) = entries := by
  induction entries generalizing index with
  | nil => rfl
  | cons entry rest ih =>
      simp only [List.map_cons, List.nodup_cons, List.mem_map, not_exists, not_and] at nodup
      simp only [List.map_cons, arrange, held entry List.mem_cons_self]
      rw [ih nodup.2]
      intro other member
      have different : Text.order entry.path other.path ≠ .eq := fun equal =>
        nodup.1 other member (Std.LawfulEqCmp.eq_of_compare equal).symm
      rw [Std.TreeMap.getElem?_erase, if_neg different]
      exact held other (List.mem_cons_of_mem _ member)

/-- Inserting entries into a collection arranges its paths and theirs. -/
theorem arrange_insertMany {index : Std.TreeMap String Fingerprint Text.order}
    {collection : Collection} (same : ∀ path : String, index[path]? = collection.get? path)
    (entries : List Entry) :
    arrange (index.insertMany (entries.map fun entry => (entry.path, entry.fingerprint)))
        (collection.paths ++ entries.map Entry.path) =
      (entries.foldl insert collection).entries := by
  induction entries generalizing index collection with
  | nil =>
      have held : ∀ entry ∈ collection.entries, index[entry.path]? = some entry.fingerprint :=
        fun entry member => (same entry.path).trans (get?_eq_some_iff.mpr member)
      simpa [paths] using arrange_of_mem collection.nodup_paths held
  | cons entry rest ih =>
      have next : ∀ path : String,
          (index.insert entry.path entry.fingerprint)[path]? =
            (collection.insert entry).get? path := by
        intro path
        rw [Std.TreeMap.getElem?_insert, get?_insert, same]
        simp only [Std.LawfulEqCmp.compare_eq_iff_eq]
      rw [List.foldl_cons, ← ih next, paths_insert]
      simp only [List.map_cons, Std.TreeMap.insertMany_cons]
      split
      · rename_i known
        exact arrange_append_of_mem known _
      · simp

/-- Arranging entries comes to the same as inserting them one after another. -/
theorem ofEntries_eq_foldl (entries : List Entry) :
    ofEntries entries = entries.foldl insert empty :=
  Collection.ext (@arrange_insertMany ∅ empty (fun _ => by simp [get?, empty]) entries)

/-- The entries of a collection make that collection. -/
theorem ofEntries_entries (collection : Collection) :
    ofEntries collection.entries = collection :=
  Collection.ext (arrange_of_mem collection.nodup_paths fun entry member =>
    (collection.getElem?_index entry.path).trans (get?_eq_some_iff.mpr member))

end Drift.Collection
