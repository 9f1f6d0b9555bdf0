import Drift.Proofs.Reconcile.Accounting

/-!
# What remains of both sides

Entries are told apart by a key of their fingerprints. An entry is loose if the
other collection does not have its key at its path. Of each key as many loose
entries go from either side as the smaller side has, the first ones in some order.
What stays is what accounting leaves: on the current side entries go by
fingerprint and path, on the previous side by path.
-/

namespace Drift.Reconcile

variable {κ : Type u} [DecidableEq κ]

/-- The entries of a key at whose paths the other collection does not have that
key. -/
def loose (key : Fingerprint → κ) (own other : Collection) (value : κ) : List Entry :=
  own.entries.filter fun entry =>
    key entry.fingerprint = value ∧ (other.get? entry.path).map key ≠ some value

/-- The loose entries of a key, in some order, without the first ones: those that
account for loose entries of the other side. -/
def remainingOf (key : Fingerprint → κ) (order : Entry → Entry → Ordering)
    (own other : Collection) (value : κ) : List Entry :=
  (sorted order (loose key own other value)).drop
    (min (loose key own other value).length (loose key other own value).length)

/-- All entries that remain of a collection. -/
def remaining (key : Fingerprint → κ) (order : Entry → Entry → Ordering)
    (own other : Collection) : List Entry :=
  own.entries.filter fun entry =>
    entry ∈ remainingOf key order own other (key entry.fingerprint)

section Congruence

variable {ι : Type v} [DecidableEq ι] {key : Fingerprint → κ} {image : Fingerprint → ι}
variable (agree : ∀ first second, key first = key second ↔ image first = image second)
include agree

/-- Keys that tell the same fingerprints apart leave the same entries loose. -/
theorem loose_congr (own other : Collection) (fingerprint : Fingerprint) :
    loose key own other (key fingerprint) = loose image own other (image fingerprint) := by
  apply List.filter_congr
  intro entry _
  rw [decide_eq_decide, agree]
  cases other.get? entry.path with
  | none => simp
  | some found => simp [agree]

theorem remaining_congr (order : Entry → Entry → Ordering) (own other : Collection) :
    remaining key order own other = remaining image order own other := by
  apply List.filter_congr
  intro entry _
  rw [remainingOf, remainingOf, loose_congr agree, loose_congr agree]

end Congruence

section Remaining

variable (key : Fingerprint → κ) (order : Entry → Entry → Ordering)
variable (own other : Collection) (value : κ)

theorem mem_loose {entry : Entry} :
    entry ∈ loose key own other value ↔ entry ∈ own.entries ∧ key entry.fingerprint = value ∧
      (other.get? entry.path).map key ≠ some value := by
  rw [loose, List.mem_filter, decide_eq_true_iff]

theorem loose_eq :
    loose key own other value =
      (unsettled key own other).filter fun entry => key entry.fingerprint = value := by
  rw [unsettled_eq, List.filter_filter, loose]
  apply List.filter_congr
  intro entry _
  by_cases here : key entry.fingerprint = value <;> simp [here]

/-- To drop as many as the smaller side has is to drop as many as the other side
has. -/
theorem remainingOf_eq_drop :
    remainingOf key order own other value =
      (sorted order (loose key own other value)).drop (loose key other own value).length := by
  rw [remainingOf, List.drop_eq_drop_iff, (sorted_perm _ _).length_eq]
  omega

theorem nodup_remainingOf : (remainingOf key order own other value).Nodup :=
  ((sorted_perm _ _).nodup_iff.mpr (own.nodup_entries.filter _)).sublist (List.drop_sublist _ _)

theorem nodup_remaining : (remaining key order own other).Nodup :=
  own.nodup_entries.filter _

theorem distinct_remaining : ((remaining key order own other).map Entry.path).Nodup :=
  own.nodup_paths.sublist (List.filter_sublist.map _)

variable {key order own other value}

theorem mem_loose_of_mem_remainingOf {entry : Entry}
    (kept : entry ∈ remainingOf key order own other value) :
    entry ∈ loose key own other value :=
  mem_sorted.mp (List.mem_of_mem_drop kept)

theorem mem_remainingOf_of_mem {entry : Entry}
    (member : entry ∈ remaining key order own other) :
    entry ∈ remainingOf key order own other (key entry.fingerprint) := by
  simpa using List.of_mem_filter member

/-- Of a key, entries remain on one side at most. -/
theorem key_ne_of_mem_remaining {theirOrder : Entry → Entry → Ordering} {mine theirs : Entry}
    (memberMine : mine ∈ remaining key order own other)
    (memberTheirs : theirs ∈ remaining key theirOrder other own) :
    key mine.fingerprint ≠ key theirs.fingerprint := by
  intro equal
  have keptMine := List.length_pos_of_mem (mem_remainingOf_of_mem memberMine)
  have keptTheirs := List.length_pos_of_mem (mem_remainingOf_of_mem memberTheirs)
  rw [remainingOf_eq_drop, List.length_drop, (sorted_perm _ _).length_eq] at keptMine keptTheirs
  rw [equal] at keptMine
  omega

variable (key order own other value)

/-- Among the entries that remain, those of a key are the ones that its own list
keeps. -/
theorem filter_remaining_perm :
    ((remaining key order own other).filter fun entry => key entry.fingerprint = value).Perm
      (remainingOf key order own other value) := by
  refine filter_kept_perm own.nodup_entries (nodup_remainingOf key order own other) ?_ value
  intro value entry kept
  obtain ⟨member, here, -⟩ :=
    (mem_loose key own other value).mp (mem_loose_of_mem_remainingOf kept)
  exact ⟨member, here⟩

/-- Of a key, as many entries remain as a side has more than the other. -/
theorem countP_key_remaining :
    (remaining key order own other).countP (fun entry => key entry.fingerprint = value) =
      own.entries.countP (fun entry => key entry.fingerprint = value) -
        other.entries.countP fun entry => key entry.fingerprint = value := by
  have kept := (filter_remaining_perm key order own other value).length_eq
  rw [remainingOf_eq_drop, List.length_drop, (sorted_perm _ _).length_eq, loose_eq, loose_eq]
    at kept
  simp only [← List.countP_eq_length_filter] at kept
  exact kept.trans (countP_unsettled_sub key own other value)

/-- What remains of a side are the keys that it has more of. -/
theorem map_key_remaining_perm :
    ((remaining key order own other).map fun entry => key entry.fingerprint).Perm
      ((own.entries.map fun entry => key entry.fingerprint).diff
        (other.entries.map fun entry => key entry.fingerprint)) := by
  apply List.perm_iff_count.mpr
  intro value
  rw [List.count_diff, count_map_eq_countP, count_map_eq_countP, count_map_eq_countP]
  exact countP_key_remaining key order own other value

/-- Nothing remains of a side exactly if it has no key more often than the other
one. -/
theorem remaining_eq_nil_iff :
    remaining key order own other = [] ↔ ∀ value,
      own.entries.countP (fun entry => key entry.fingerprint = value) ≤
        other.entries.countP fun entry => key entry.fingerprint = value := by
  simp only [eq_nil_iff_countP _ fun entry : Entry => key entry.fingerprint,
    countP_key_remaining, Nat.sub_eq_zero_iff_le]

/-- Where nothing differs, nothing remains either. -/
theorem remaining_eq_nil_of_perm {own other : Collection}
    (perm : own.entries.Perm other.entries) : remaining key order own other = [] := by
  rw [remaining_eq_nil_iff]
  intro value
  exact Nat.le_of_eq (perm.countP_eq _)

end Remaining

section Accounted

variable (key : Fingerprint → κ) (order : κ → κ → Ordering)
variable [Std.TransCmp order] [Std.LawfulEqCmp order] (current previous : Collection)

/-- What accounting leaves: the current entries that account for nothing, and the
previous ones that nothing accounts for. -/
def accounted : List Entry × Buckets key order :=
  Buckets.absorb (sorted Entry.byFingerprint (unsettled key current previous))
    (.ofEntries (unsettled key previous current))

theorem filter_sorted_unsettled (own other : Collection) (value : κ) :
    (sorted Entry.byFingerprint (unsettled key own other)).filter
        (fun entry => key entry.fingerprint = value) =
      sorted Entry.byFingerprint (loose key own other value) := by
  rw [filter_sorted, loose_eq]

theorem under_ofEntries_unsettled (own other : Collection) (value : κ) :
    (.ofEntries (unsettled key own other) : Buckets key order).under value =
      sorted Entry.byPath (loose key own other value) := by
  rw [Buckets.under_ofEntries_eq_sorted (distinct_unsettled key own other), loose_eq]

theorem filter_accounted (value : κ) :
    (accounted key order current previous).1.filter
        (fun entry => key entry.fingerprint = value) =
      remainingOf key Entry.byFingerprint current previous value := by
  rw [accounted, (Buckets.absorb_of_key _ _ value).1, filter_sorted_unsettled,
    under_ofEntries_unsettled, (sorted_perm _ _).length_eq, remainingOf_eq_drop]

theorem under_accounted (value : κ) :
    (accounted key order current previous).2.under value =
      remainingOf key Entry.byPath previous current value := by
  rw [accounted, (Buckets.absorb_of_key _ _ value).2, filter_sorted_unsettled,
    under_ofEntries_unsettled, (sorted_perm _ _).length_eq, remainingOf_eq_drop]

/-- Current entries are walked over by fingerprint and path, and none changes its
place by staying. -/
theorem accounted_fst_eq :
    (accounted key order current previous).1 =
      sorted Entry.byFingerprint (remaining key Entry.byFingerprint current previous) := by
  have ascending : Ascending Entry.byFingerprint (accounted key order current previous).1 :=
    (ascending_sorted _ _).sublist (Buckets.absorb_sublist _ _)
  apply ascending.eq_sorted
  apply perm_of_forall_filter fun entry : Entry => key entry.fingerprint
  intro value
  rw [filter_accounted]
  exact (filter_remaining_perm key _ current previous value).symm

/-- Previous entries are listed by key and path. -/
theorem toList_accounted_snd :
    (accounted key order current previous).2.toList =
      sorted (compareLex (orderBy (fun entry => key entry.fingerprint) order) Entry.byPath)
        (remaining key Entry.byPath previous current) := by
  have ascending :
      Ascending (compareLex (orderBy (fun entry => key entry.fingerprint) order) Entry.byPath)
        (accounted key order current previous).2.toList := by
    apply Buckets.ascending_toList
    intro value
    rw [under_accounted]
    exact (ascending_sorted _ _).sublist (List.drop_sublist _ _)
  have perm : (accounted key order current previous).2.toList.Perm
      (remaining key Entry.byPath previous current) := by
    apply perm_of_forall_filter fun entry : Entry => key entry.fingerprint
    intro value
    rw [Buckets.filter_toList, under_accounted]
    exact (filter_remaining_perm key _ previous current value).symm
  exact ascending.eq_sorted_of_distinct (Entry.path_eq_of_compareLex_eq _)
    (distinct_remaining key _ previous current) perm

end Accounted

end Drift.Reconcile
