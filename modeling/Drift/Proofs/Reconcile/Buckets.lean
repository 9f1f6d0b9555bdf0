import Drift.Proofs.Rearrangement
import Drift.Proofs.Sorting
import Drift.Reconcile.Buckets

/-!
# Taking entries out of buckets

For each key on its own, absorption drops as many entries from a list as the
bucket of that key has, and as many from the bucket as the list has; the entries
that went are those taken first. Overall it pairs entries of equal keys one to
one, in the order in which both sides list them, and loses none.
-/

namespace Drift.Reconcile.Buckets

variable {κ : Type u} {key : Fingerprint → κ} {order : κ → κ → Ordering}
variable [Std.TransCmp order] [Std.LawfulEqCmp order]

/-- What holds between the entries of one key, as they are taken, and between any
of different keys holds throughout the list of all. -/
theorem pairwise_toList {relation : Entry → Entry → Prop} {held : Buckets key order}
    (within : ∀ value, (held.under value).Pairwise relation)
    (between : ∀ left right, order (key left.fingerprint) (key right.fingerprint) = .lt →
      relation left right) :
    held.toList.Pairwise relation := by
  rw [toList, List.flatMap_def, List.pairwise_flatten]
  constructor
  · intro listed member
    obtain ⟨⟨value, bucket⟩, inside, rfl⟩ := List.mem_map.mp member
    have related := within value
    rw [under, Std.TreeMap.mem_toList_iff_getElem?_eq_some.mp inside] at related
    exact related
  · rw [List.pairwise_map]
    refine List.Pairwise.imp_of_mem ?_ held.buckets.ordered_keys_toList
    intro left right memberLeft memberRight before first memberFirst second memberSecond
    have fitting {value : κ} {bucket : Array Entry}
        (inside : (value, bucket) ∈ held.buckets.toList) {entry : Entry}
        (member : entry ∈ bucket.toList.reverse) : key entry.fingerprint = value :=
      held.key_of_mem (Std.TreeMap.mem_toList_iff_getElem?_eq_some.mp inside) entry
        (by simpa using member)
    apply between
    rw [fitting memberLeft memberFirst, fitting memberRight memberSecond]
    exact before

omit [Std.TransCmp order] in
theorem orderBy_eq_of_mem_under {held : Buckets key order} {value : κ} {left right : Entry}
    (memberLeft : left ∈ held.under value) (memberRight : right ∈ held.under value) :
    orderBy (fun entry => key entry.fingerprint) order left right = .eq := by
  rw [orderBy, key_of_mem_under memberLeft, key_of_mem_under memberRight]
  exact Std.ReflCmp.compare_self

/-- Buckets whose entries are taken by path list all entries by key and path. -/
theorem ascending_toList {held : Buckets key order}
    (byPath : ∀ value, Ascending Entry.byPath (held.under value)) :
    Ascending (compareLex (orderBy (fun entry => key entry.fingerprint) order) Entry.byPath)
      held.toList := by
  apply pairwise_toList
  · intro value
    refine List.Pairwise.imp_of_mem ?_ (byPath value)
    intro left right memberLeft memberRight before
    simpa [compareLex, orderBy_eq_of_mem_under memberLeft memberRight] using before
  · intro left right apart
    simp [compareLex, orderBy, apart]

theorem ascending_key_toList (held : Buckets key order) :
    Ascending (orderBy (fun entry => key entry.fingerprint) order) held.toList := by
  apply pairwise_toList
  · intro value
    refine List.pairwise_iff_forall_sublist.mpr ?_
    intro left right part
    rw [orderBy_eq_of_mem_under (part.mem List.mem_cons_self)
      (part.mem (List.mem_cons_of_mem _ List.mem_cons_self))]
    rfl
  · intro left right apart
    rw [orderBy, apart]
    rfl

theorem take?_eq_none_iff {held : Buckets key order} {value : κ} :
    held.take? value = none ↔ held.under value = [] := by
  rw [take?_eq, Option.map_eq_none_iff, List.head?_eq_none_iff]

/-- Buckets that list the same entries under every key. -/
def Alike (held others : Buckets key order) : Prop :=
  ∀ value, held.under value = others.under value

/-- What absorption leaves of a list keeps its order. -/
theorem absorb_sublist (entries : List Entry) (held : Buckets key order) :
    (absorb entries held).1.Sublist entries := by
  induction entries generalizing held with
  | nil => exact .slnil
  | cons entry rest ih =>
      rw [absorb]
      cases held.take? (key entry.fingerprint) with
      | none => exact (ih held).cons_cons entry
      | some result => exact (ih result.2).cons entry

/-- The entries of a list that absorption does not leave, each with the entry that
it takes. -/
def absorbed : List Entry → Buckets key order → List (Entry × Entry)
  | [], _ => []
  | entry :: rest, held =>
      match held.take? (key entry.fingerprint) with
      | some (taken, others) => (entry, taken) :: absorbed rest others
      | none => absorbed rest held

/-- What absorption leaves of a list is what takes nothing. -/
theorem absorbed_fst_perm (entries : List Entry) (held : Buckets key order) :
    entries.Perm ((absorbed entries held).map Prod.fst ++ (absorb entries held).1) := by
  induction entries generalizing held with
  | nil => exact .refl _
  | cons entry rest ih =>
      rw [absorb, absorbed]
      cases held.take? (key entry.fingerprint) with
      | none => exact ((ih held).cons entry).trans List.perm_middle.symm
      | some result => exact (ih result.2).cons entry

variable [DecidableEq κ]

/-- Under a key there is a bucket as soon as an entry has that key, and it gets
these entries in the order in which they come. -/
theorem getElem?_foldl_add (held : Buckets key order) (entries : List Entry) (value : κ) :
    (entries.foldl add held).buckets[value]? =
      if ∃ entry ∈ entries, key entry.fingerprint = value then
        some (held.buckets[value]?.getD #[] ++
          (entries.filter fun entry => key entry.fingerprint = value).toArray)
      else held.buckets[value]? := by
  induction entries generalizing held with
  | nil => simp
  | cons entry rest ih =>
      rw [List.foldl_cons, ih]
      simp only [add, Std.TreeMap.getElem?_alter, Std.LawfulEqCmp.compare_eq_iff_eq]
      by_cases here : key entry.fingerprint = value
      · subst here
        by_cases later : ∃ other ∈ rest, key other.fingerprint = key entry.fingerprint
        · simp [later]
        · have none :
              (rest.filter fun other => key other.fingerprint = key entry.fingerprint) = [] := by
            simpa using later
          simp [later, none]
      · simp [here]

theorem under_ofEntries_eq_sorted {entries : List Entry} {sorter : Sorter}
    (distinct : (entries.map Entry.path).Nodup) (value : κ) :
    (ofEntries entries sorter : Buckets key order).under value =
      sorted Entry.byPath (entries.filter fun entry => key entry.fingerprint = value) := by
  rw [under_ofEntries]
  exact Entry.reverse_sort_byPathDown sorter (distinct.sublist (List.filter_sublist.map _))

theorem ascending_under_ofEntries {sorter : Sorter} (entries : List Entry) (value : κ) :
    Ascending Entry.byPath ((ofEntries entries sorter : Buckets key order).under value) := by
  rw [under_ofEntries]
  exact Entry.ascending_reverse_sort_byPathDown sorter _

theorem toList_ofEntries_perm {sorter : Sorter} (entries : List Entry) :
    (ofEntries entries sorter : Buckets key order).toList.Perm entries := by
  apply perm_of_forall_filter fun entry : Entry => key entry.fingerprint
  intro value
  rw [filter_toList, under_ofEntries]
  exact (List.reverse_perm _).trans (sorter.sort_perm Entry.byPathDown _)

/-- Taking an entry leaves the later ones of its key and all of any other. -/
theorem under_of_take? {held others : Buckets key order} {value : κ} {entry : Entry}
    (taken : held.take? value = some (entry, others)) :
    held.under value = entry :: others.under value ∧
      ∀ other ≠ value, others.under other = held.under other := by
  rw [take?_eq] at taken
  obtain ⟨first, isFirst, same⟩ := Option.map_eq_some_iff.mp taken
  cases same
  constructor
  · rw [under_drop, if_pos rfl]
    exact (List.cons_head?_tail isFirst).symm
  · intro other different
    rw [under_drop, if_neg (Ne.symm different)]

theorem key_of_take? {held others : Buckets key order} {value : κ} {entry : Entry}
    (taken : held.take? value = some (entry, others)) : key entry.fingerprint = value := by
  have first : entry ∈ held.under value := by
    rw [(under_of_take? taken).1]
    exact List.mem_cons_self
  exact key_of_mem_under first

theorem toList_perm_of_take? {held others : Buckets key order} {value : κ} {entry : Entry}
    (taken : held.take? value = some (entry, others)) :
    held.toList.Perm (entry :: others.toList) := by
  obtain ⟨here, elsewhere⟩ := under_of_take? taken
  apply perm_of_forall_filter fun entry : Entry => key entry.fingerprint
  intro other
  rw [List.filter_cons, filter_toList, filter_toList, key_of_take? taken]
  by_cases same : value = other
  · subst same
    simp [here]
  · simp [same, elsewhere other (Ne.symm same)]

/-- Of each key, absorption leaves what comes after as many entries as the other
side has: in the list as many as in the bucket, and the other way round. -/
theorem absorb_of_key (entries : List Entry) (held : Buckets key order) (value : κ) :
    (absorb entries held).1.filter (fun entry => key entry.fingerprint = value) =
        (entries.filter fun entry => key entry.fingerprint = value).drop
          (held.under value).length ∧
      (absorb entries held).2.under value =
        (held.under value).drop
          (entries.filter fun entry => key entry.fingerprint = value).length := by
  induction entries generalizing held with
  | nil => simp [absorb]
  | cons entry rest ih =>
      rw [absorb]
      cases taken : held.take? (key entry.fingerprint) with
      | none =>
          have exhausted := take?_eq_none_iff.mp taken
          by_cases here : key entry.fingerprint = value
          · subst here
            simp [ih, exhausted]
          · simp [ih, here]
      | some result =>
          -- The entry and what it takes are both first of their key.
          obtain ⟨bucket, elsewhere⟩ := under_of_take? taken
          by_cases here : key entry.fingerprint = value
          · subst here
            simp [ih, bucket]
          · simp [ih, here, elsewhere value (Ne.symm here)]

/-- What absorption leaves in the buckets is what is not taken. -/
theorem absorbed_snd_perm (entries : List Entry) (held : Buckets key order) :
    held.toList.Perm
      ((absorbed entries held).map Prod.snd ++ (absorb entries held).2.toList) := by
  induction entries generalizing held with
  | nil => exact .refl _
  | cons entry rest ih =>
      rw [absorb, absorbed]
      cases taken : held.take? (key entry.fingerprint) with
      | none => exact ih held
      | some result => exact (toList_perm_of_take? taken).trans ((ih result.2).cons result.1)

/-- Of each key, the entries of the list take those of the bucket one by one, for
as long as there are any on both sides. -/
theorem absorbed_of_key (entries : List Entry) (held : Buckets key order) (value : κ) :
    (absorbed entries held).filter (fun pair => key pair.1.fingerprint = value) =
      (entries.filter fun entry => key entry.fingerprint = value).zip (held.under value) := by
  induction entries generalizing held with
  | nil => rfl
  | cons entry rest ih =>
      rw [absorbed]
      cases taken : held.take? (key entry.fingerprint) with
      | none =>
          have exhausted := take?_eq_none_iff.mp taken
          by_cases here : key entry.fingerprint = value
          · subst here
            simp [ih, exhausted]
          · simp [ih, here]
      | some result =>
          -- Where the key fits, both sides lose the first entry, and these are the first pair.
          obtain ⟨bucket, elsewhere⟩ := under_of_take? taken
          by_cases here : key entry.fingerprint = value
          · subst here
            simp [ih, bucket]
          · simp [ih, here, elsewhere value (Ne.symm here)]

theorem key_of_mem_absorbed {entries : List Entry} {held : Buckets key order}
    {pair : Entry × Entry} (member : pair ∈ absorbed entries held) :
    key pair.1.fingerprint = key pair.2.fingerprint := by
  have ofKey := absorbed_of_key entries held (key pair.1.fingerprint)
  have listed : pair ∈ (absorbed entries held).filter fun other =>
      key other.1.fingerprint = key pair.1.fingerprint :=
    List.mem_filter.mpr ⟨member, by simp⟩
  rw [ofKey] at listed
  exact (key_of_mem_under (List.of_mem_zip listed).2).symm

namespace Alike

variable {held others : Buckets key order}

theorem drop (alike : held.Alike others) (value : κ) :
    (held.drop value).Alike (others.drop value) := by
  intro other
  rw [under_drop, under_drop, alike]

/-- Absorption sees no more of buckets than what is under each key. -/
theorem absorb (alike : held.Alike others) (entries : List Entry) :
    (Buckets.absorb entries held).1 = (Buckets.absorb entries others).1 ∧
      (Buckets.absorb entries held).2.Alike (Buckets.absorb entries others).2 := by
  induction entries generalizing held others with
  | nil => exact ⟨rfl, alike⟩
  | cons entry rest ih =>
      rw [Buckets.absorb, Buckets.absorb, take?_eq, take?_eq, alike]
      cases (others.under (key entry.fingerprint)).head? with
      | none =>
          obtain ⟨unmatched, left⟩ := ih alike
          exact ⟨congrArg (entry :: ·) unmatched, left⟩
      | some taken => exact ih (alike.drop (key entry.fingerprint))

theorem toList_eq (alike : held.Alike others) : held.toList = others.toList := by
  apply Ascending.eq_of_forall_filter_eq (ascending_key_toList held)
    (ascending_key_toList others)
  intro value
  rw [filter_toList, filter_toList, alike]

end Alike

end Drift.Reconcile.Buckets
