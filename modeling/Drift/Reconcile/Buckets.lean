import Drift.Collection

/-!
# Buckets

Entries kept under keys of their fingerprints, each bucket with its paths
descending, so that the smallest path of a key is taken from the end. The view
`under` lists a bucket in the order in which its entries are taken; taking from
one key leaves all other keys alone.
-/

namespace Drift.Reconcile

/-- Entries kept under their keys. -/
structure Buckets (key : Fingerprint → κ) (order : κ → κ → Ordering) where
  buckets : Std.TreeMap κ (Array Entry) order
  key_of_mem {value : κ} {bucket : Array Entry} (found : buckets[value]? = some bucket) :
    ∀ entry ∈ bucket, key entry.fingerprint = value

namespace Buckets

variable {κ : Type u} {key : Fingerprint → κ} {order : κ → κ → Ordering}

/-- The entries of a key in the order in which they are taken. -/
def under (held : Buckets key order) (value : κ) : List Entry :=
  (held.buckets[value]?.getD #[]).toList.reverse

theorem key_of_mem_under {held : Buckets key order} {value : κ} {entry : Entry}
    (member : entry ∈ held.under value) : key entry.fingerprint = value := by
  rw [under] at member
  cases found : held.buckets[value]? with
  | none => simp [found] at member
  | some bucket => exact held.key_of_mem found entry (by simpa [found] using member)

/-- All entries in the order of their keys, those of one key as they are
taken. -/
def toList (held : Buckets key order) : List Entry :=
  held.buckets.toList.flatMap fun pair => pair.2.toList.reverse

variable [Std.TransCmp order]

/-- No entries at all. -/
def empty : Buckets key order where
  buckets := ∅
  key_of_mem found := by simp at found

@[simp] theorem under_empty (value : κ) : (empty : Buckets key order).under value = [] := by
  simp [under, empty]

variable [Std.LawfulEqCmp order]

/-- Puts an entry at the end of its bucket. -/
def add (held : Buckets key order) (entry : Entry) : Buckets key order where
  buckets := held.buckets.alter (key entry.fingerprint) fun bucket? =>
    some ((bucket?.getD #[]).push entry)
  key_of_mem {value bucket} found := by
    intro other member
    rw [Std.TreeMap.getElem?_alter] at found
    split at found
    · rename_i same
      cases found
      rcases Array.mem_push.mp member with older | rfl
      · cases known : held.buckets[key entry.fingerprint]? with
        | none => simp [known] at older
        | some bucket =>
            rw [← Std.LawfulEqCmp.eq_of_compare same]
            exact held.key_of_mem known other (by simpa [known] using older)
      · exact Std.LawfulEqCmp.eq_of_compare same
    · exact held.key_of_mem found other member

@[simp] theorem under_add [DecidableEq κ] (held : Buckets key order) (entry : Entry)
    (value : κ) :
    (held.add entry).under value =
      if key entry.fingerprint = value then entry :: held.under value
      else held.under value := by
  simp only [under, add, Std.TreeMap.getElem?_alter, Std.LawfulEqCmp.compare_eq_iff_eq]
  split
  · rename_i same
    subst same
    simp
  · rfl

/-- Brings every bucket into the order of descending paths. -/
def arranged (held : Buckets key order) (sorter : Sorter := .stable) : Buckets key order where
  buckets := held.buckets.map fun _ bucket =>
    (sorter.sort Entry.byPathDown bucket.toList).toArray
  key_of_mem {value bucket} found := by
    intro entry member
    rw [Std.TreeMap.getElem?_map] at found
    obtain ⟨before, known, rfl⟩ := Option.map_eq_some_iff.mp found
    have listed := (sorter.sort_perm Entry.byPathDown before.toList).mem_iff (a := entry)
    exact held.key_of_mem known entry (by simpa [listed] using member)

@[simp] theorem under_arranged (held : Buckets key order) (sorter : Sorter) (value : κ) :
    (held.arranged sorter).under value =
      (sorter.sort Entry.byPathDown (held.under value).reverse).reverse := by
  have nothing : sorter.sort Entry.byPathDown [] = [] :=
    (sorter.sort_perm Entry.byPathDown []).eq_nil
  simp only [under, arranged, Std.TreeMap.getElem?_map]
  cases held.buckets[value]? <;> simp [nothing]

/-- Puts entries under their keys. -/
def ofEntries (entries : List Entry) (sorter : Sorter := .stable) : Buckets key order :=
  (entries.foldl add empty).arranged sorter

theorem under_foldl_add [DecidableEq κ] (held : Buckets key order) (entries : List Entry)
    (value : κ) :
    (entries.foldl add held).under value =
      (entries.filter fun entry => key entry.fingerprint = value).reverse ++
        held.under value := by
  induction entries generalizing held with
  | nil => rfl
  | cons entry rest ih =>
      rw [List.foldl_cons, ih, under_add, List.filter_cons]
      by_cases here : key entry.fingerprint = value <;> simp [here]

/-- A bucket holds the entries of its key with their paths descending. -/
theorem under_ofEntries [DecidableEq κ] (entries : List Entry) (sorter : Sorter) (value : κ) :
    (ofEntries entries sorter : Buckets key order).under value =
      (sorter.sort Entry.byPathDown
        (entries.filter fun entry => key entry.fingerprint = value)).reverse := by
  simp [ofEntries, under_foldl_add]

/-- The buckets without the entry that is next under a key. -/
def drop (held : Buckets key order) (value : κ) : Buckets key order where
  buckets := held.buckets.modify value Array.pop
  key_of_mem {other bucket} found := by
    intro entry member
    rw [Std.TreeMap.getElem?_modify] at found
    split at found
    · rename_i same
      obtain ⟨before, known, rfl⟩ := Option.map_eq_some_iff.mp found
      rw [← Std.LawfulEqCmp.eq_of_compare same]
      refine held.key_of_mem known entry (Array.mem_def.mpr ?_)
      exact (List.dropLast_sublist _).mem (by simpa using Array.mem_def.mp member)
    · exact held.key_of_mem found entry member

@[simp] theorem under_drop [DecidableEq κ] (held : Buckets key order) (value other : κ) :
    (held.drop value).under other =
      if value = other then (held.under other).tail else held.under other := by
  simp only [under, drop, Std.TreeMap.getElem?_modify, Std.LawfulEqCmp.compare_eq_iff_eq]
  split
  · rename_i same
    subst same
    cases held.buckets[value]? <;> simp
  · rfl

/-- Takes the entry with the smallest path of a key. -/
def take? (held : Buckets key order) (value : κ) : Option (Entry × Buckets key order) :=
  match held.buckets[value]?.bind Array.back? with
  | none => none
  | some entry => some (entry, held.drop value)

/-- What is taken is what the view lists first. -/
theorem take?_eq (held : Buckets key order) (value : κ) :
    held.take? value = (held.under value).head?.map fun entry => (entry, held.drop value) := by
  rw [take?, under]
  cases held.buckets[value]? with
  | none => simp
  | some bucket => cases last : bucket.back? <;> simp [last]

/-- Lets entries, one after another, take one of their key out of the buckets.
Gives those that found none there, and the buckets as they are left. -/
def absorb : List Entry → Buckets key order → List Entry × Buckets key order
  | [], held => ([], held)
  | entry :: rest, held =>
      match held.take? (key entry.fingerprint) with
      | some (_, others) => absorb rest others
      | none =>
          let (unmatched, left) := absorb rest held
          (entry :: unmatched, left)

/-- Where keys are distinct, selecting by a key gives what is under it. -/
theorem flatMap_eq_of_mem [DecidableEq κ] {pairs : List (κ × α)} (view : α → List Entry)
    {value : κ} {held : α} (distinct : pairs.Pairwise fun left right => left.1 ≠ right.1)
    (member : (value, held) ∈ pairs) :
    pairs.flatMap (fun pair => if pair.1 = value then view pair.2 else []) = view held := by
  induction pairs with
  | nil => simp at member
  | cons head rest ih =>
      obtain ⟨apart, distinct⟩ := List.pairwise_cons.mp distinct
      rcases List.mem_cons.mp member with rfl | later
      · have nothing :
            rest.flatMap (fun pair => if pair.1 = value then view pair.2 else []) = [] :=
          List.flatMap_eq_nil_iff.mpr fun pair inside => if_neg (Ne.symm (apart pair inside))
        simp [nothing]
      · simp [apart _ later, ih distinct later]

/-- Of one key, exactly its entries are listed, as they are taken. -/
@[simp] theorem filter_toList [DecidableEq κ] (held : Buckets key order) (value : κ) :
    held.toList.filter (fun entry => key entry.fingerprint = value) = held.under value := by
  have selected : ∀ pair ∈ held.buckets.toList,
      pair.2.toList.reverse.filter (fun entry => key entry.fingerprint = value) =
        if pair.1 = value then pair.2.toList.reverse else [] := by
    intro pair member
    have fitting := held.key_of_mem (Std.TreeMap.mem_toList_iff_getElem?_eq_some.mp member)
    split
    · rename_i here
      exact List.filter_eq_self.mpr fun entry inside => by
        simp [fitting entry (by simpa using inside), here]
    · rename_i elsewhere
      exact List.filter_eq_nil_iff.mpr fun entry inside => by
        simp [fitting entry (by simpa using inside), elsewhere]
  have distinct : held.buckets.toList.Pairwise fun left right => left.1 ≠ right.1 :=
    held.buckets.distinct_keys_toList.imp fun {left right} apart equal =>
      apart (by rw [equal]; exact Std.ReflCmp.compare_self)
  rw [toList, List.filter_flatMap, List.flatMap_def, List.map_congr_left selected,
    ← List.flatMap_def, under]
  cases found : held.buckets[value]? with
  | none =>
      refine List.flatMap_eq_nil_iff.mpr fun pair member => if_neg ?_
      rintro rfl
      simp [Std.TreeMap.mem_toList_iff_getElem?_eq_some.mp member] at found
  | some bucket =>
      exact flatMap_eq_of_mem (fun bucket => bucket.toList.reverse) distinct
        (Std.TreeMap.mem_toList_iff_getElem?_eq_some.mpr found)

end Buckets

end Drift.Reconcile
