import Drift.Proofs.Reconcile.ContentOrder
import Drift.Proofs.Reconcile.Matching
import Drift.Proofs.Reconcile.PathOrder
import Mathlib.Data.Multiset.UnionInter

/-!
# Changes as a balance

Read with additions, the changes lead from the previous state to the current one:
what they withdraw is there before, and with what they supply in its place there
is exactly what is there now. Each policy keeps this balance in what it looks at,
because it withdraws what the previous side has more of and supplies what the
current side has more of.
-/

namespace Drift

/-- What is lost was there, each element often enough, and with the gain in its
place there is what is there after. -/
structure Balanced [DecidableEq α] (before lost gained after : List α) : Prop where
  covered : (lost : Multiset α) ≤ before
  balance : (before : Multiset α) - lost + gained = after

namespace Balanced

variable [DecidableEq α] {before lost gained after : List α}

/-- To lose what one side has more of and to gain what the other one has more of
is balanced in everything that can be told about what is there. -/
theorem of_diff [DecidableEq β] {image : β → α} {own other : List β}
    (lostPerm : lost.Perm ((own.diff other).map image))
    (gainedPerm : gained.Perm ((other.diff own).map image)) :
    Balanced (own.map image) lost gained (other.map image) := by
  have ofOwn : (lost : Multiset α) + ((own : Multiset β) ∩ other).map image =
      own.map image := by
    rw [Multiset.coe_eq_coe.mpr lostPerm, ← Multiset.map_coe, ← Multiset.coe_sub,
      ← Multiset.map_add, Multiset.sub_add_inter, Multiset.map_coe]
  have ofOther : (gained : Multiset α) + ((own : Multiset β) ∩ other).map image =
      other.map image := by
    rw [Multiset.coe_eq_coe.mpr gainedPerm, ← Multiset.map_coe, ← Multiset.coe_sub,
      ← Multiset.map_add, Multiset.inter_comm, Multiset.sub_add_inter, Multiset.map_coe]
  constructor
  · rw [← ofOwn]
    exact Multiset.le_add_right _ _
  · rw [← ofOwn, add_tsub_cancel_left, add_comm, ofOther]

theorem length_eq (balanced : Balanced before lost gained after) :
    after.length + lost.length = before.length + gained.length := by
  have covered := Multiset.card_le_card balanced.covered
  have balance := congrArg Multiset.card balanced.balance
  rw [Multiset.card_add, Multiset.card_sub balanced.covered] at balance
  simp only [Multiset.coe_card] at covered balance
  omega

end Balanced

/-- The type of an entry, with a name of it. -/
def Entry.typed (name : Entry → String) (entry : Entry) : String × FileType :=
  (name entry, entry.fingerprint.fileType)

namespace Collection

/-- The types of all entries, each with a name of it. -/
def typed (name : Entry → String) (collection : Collection) : List (String × FileType) :=
  collection.entries.map (Entry.typed name)

/-- The digests and types of all entries, as looking them up gives them. -/
def contents (collection : Collection) : List (Option (Digest × FileType)) :=
  (collection.entries.map fun entry => entry.fingerprint.digestAndType).map some

/-- The digests and types at the paths of some changes. -/
def contentsAt (collection : Collection) (changes : List Change) :
    List (Option (Digest × FileType)) :=
  changes.map fun change => (collection.get? change.path).map Fingerprint.digestAndType

end Collection

/-- What changes say was there, by a name of theirs. -/
def withdrawn (name : Change → String) (changes : List Change) : List (String × FileType) :=
  changes.filterMap fun change => change.alteration.before?.map fun fileType =>
    (name change, fileType)

/-- What changes say is there now, by a name of theirs. -/
def supplied (name : Change → String) (changes : List Change) : List (String × FileType) :=
  changes.filterMap fun change => change.alteration.after?.map fun fileType =>
    (name change, fileType)

/-- Changes withdraw and supply equally much, apart from removals and additions. -/
theorem length_withdrawn_add_added (name : Change → String) (changes : List Change) :
    (withdrawn name changes).length +
        changes.countP (fun change => change.alteration.isAdded) =
      (supplied name changes).length +
        changes.countP fun change => change.alteration.isRemoved := by
  induction changes with
  | nil => rfl
  | cons change rest ih =>
      simp only [withdrawn, supplied, List.filterMap_cons, List.countP_cons] at ih ⊢
      cases change.alteration <;>
        grind [Alteration.before?, Alteration.after?, Alteration.isAdded, Alteration.isRemoved]

theorem withdrawn_append (name : Change → String) (left right : List Change) :
    withdrawn name (left ++ right) = withdrawn name left ++ withdrawn name right :=
  List.filterMap_append

theorem supplied_append (name : Change → String) (left right : List Change) :
    supplied name (left ++ right) = supplied name left ++ supplied name right :=
  List.filterMap_append

theorem withdrawn_map_added (name : Change → String) (title : String) (entries : List Entry) :
    withdrawn name (entries.map (Entry.added title)) = [] := by
  rw [withdrawn, List.filterMap_map]
  exact List.filterMap_eq_nil_iff.mpr fun _ _ => rfl

theorem supplied_map_added (name : Change → String) (title : String) (entries : List Entry) :
    supplied name (entries.map (Entry.added title)) =
      entries.map (Entry.typed fun entry => name (entry.added title)) := by
  rw [supplied, List.filterMap_map, ← List.filterMap_eq_map]
  rfl

namespace Reconcile

namespace ByPath

theorem before?_changeOf? (title path : String) (new? old? : Option Fingerprint) :
    ((changeOf? title true path new? old?).bind fun change =>
        change.alteration.before?.map fun fileType => (change.path, fileType)) =
      if new? = old? then none else old?.map fun old => (path, old.fileType) := by
  cases new? with
  | none => cases old? <;> rfl
  | some new =>
      cases old? with
      | none => rfl
      | some old =>
          by_cases same : new = old
          · simp [changeOf?, same]
          · simp [changeOf?, same, Ne.symm same, Alteration.before?]

theorem after?_changeOf? (title path : String) (new? old? : Option Fingerprint) :
    ((changeOf? title true path new? old?).bind fun change =>
        change.alteration.after?.map fun fileType => (change.path, fileType)) =
      if old? = new? then none else new?.map fun new => (path, new.fileType) := by
  cases new? with
  | none => cases old? <;> rfl
  | some new =>
      cases old? with
      | none => rfl
      | some old => by_cases same : old = new <;> simp [changeOf?, same, Alteration.after?]

/-- Where the sides differ, a side has what it has more of. -/
theorem filterMap_differing_perm (own other : Collection) :
    ((walk other own).filterMap fun path =>
        if other.get? path = own.get? path then none
        else (own.get? path).map fun fingerprint => (path, fingerprint.fileType)).Perm
      ((own.entries.diff other.entries).map (Entry.typed Entry.path)) := by
  have nothing : ((other.entries.filter fun entry =>
      entry.path ∉ own.paths).filterMap fun entry =>
      if other.get? entry.path = own.get? entry.path then none
      else (own.get? entry.path).map fun fingerprint =>
        (entry.path, fingerprint.fileType)) = [] := by
    apply List.filterMap_eq_nil_iff.mpr
    intro entry member
    have absent : entry.path ∉ own.paths := of_decide_eq_true (List.mem_filter.mp member).2
    simp [Collection.get?_eq_none_iff.mpr absent]
  refine (filterMap_walk_perm other own _).trans (.of_eq ?_)
  rw [nothing, List.append_nil, own.nodup_entries.sdiff_eq_filter, ← List.filterMap_eq_map,
    List.filterMap_filter]
  apply List.filterMap_congr
  intro entry member
  have held := Collection.get?_path_eq_some_iff.mpr member
  simp [held, Collection.get?_path_eq_some_iff, Entry.typed]

theorem balanced_outcome (current previous : Collection) (title : String) :
    Balanced (previous.typed Entry.path)
      (withdrawn Change.path (outcome current previous title true))
      (supplied Change.path (outcome current previous title true))
      (current.typed Entry.path) := by
  apply Balanced.of_diff
  · rw [withdrawn, outcome, List.filterMap_filterMap]
    simp only [before?_changeOf?]
    exact filterMap_differing_perm previous current
  · rw [supplied, outcome, List.filterMap_filterMap]
    simp only [after?_changeOf?]
    refine ((walk_comm current previous).filterMap _).trans ?_
    exact filterMap_differing_perm current previous

end ByPath

namespace ByName

theorem withdrawn_map_fate {outcomes : List (Entry × Option Entry)}
    (named : ∀ old candidate, (old, some candidate) ∈ outcomes →
      candidate.fingerprint.normalizedPath = old.fingerprint.normalizedPath) (title : String) :
    withdrawn Change.normalizedPath (outcomes.map (fate title)) =
      (outcomes.map Prod.fst).map
        (Entry.typed fun entry => entry.fingerprint.normalizedPath) := by
  rw [withdrawn, List.filterMap_map, List.map_map, ← List.filterMap_eq_map]
  apply List.filterMap_congr
  rintro ⟨old, candidate?⟩ member
  cases candidate? with
  | none => rfl
  | some candidate =>
      simp [Entry.modified, Entry.typed, Alteration.before?, named old candidate member]

theorem supplied_map_fate (outcomes : List (Entry × Option Entry)) (title : String) :
    supplied Change.normalizedPath (outcomes.map (fate title)) =
      (outcomes.filterMap Prod.snd).map
        (Entry.typed fun entry => entry.fingerprint.normalizedPath) := by
  rw [supplied, List.filterMap_map, List.map_filterMap]
  apply List.filterMap_congr
  rintro ⟨old, candidate?⟩ -
  cases candidate? <;> rfl

theorem typed_eq (collection : Collection) :
    (collection.typed fun entry => entry.fingerprint.normalizedPath) =
      (collection.entries.map Entry.fingerprint).map fun fingerprint =>
        (fingerprint.normalizedPath, fingerprint.fileType) := by
  rw [Collection.typed, List.map_map]
  rfl

/-- What remains of a side is what it has more of. -/
theorem typed_remaining_perm (own other : Collection) :
    ((remaining own other).map (Entry.typed fun entry => entry.fingerprint.normalizedPath)).Perm
      (((own.entries.map Entry.fingerprint).diff (other.entries.map Entry.fingerprint)).map
        fun fingerprint => (fingerprint.normalizedPath, fingerprint.fileType)) := by
  have shown := (map_fingerprint_remaining_perm own other).map fun fingerprint =>
    (fingerprint.normalizedPath, fingerprint.fileType)
  rwa [List.map_map] at shown

theorem balanced_reconciled (current previous : Collection) (title : String) :
    Balanced (previous.typed fun entry => entry.fingerprint.normalizedPath)
      (withdrawn Change.normalizedPath (reconciled current previous title true))
      (supplied Change.normalizedPath (reconciled current previous title true))
      (current.typed fun entry => entry.fingerprint.normalizedPath) := by
  rw [typed_eq, typed_eq]
  apply Balanced.of_diff
  · have named (old candidate : Entry)
        (member : (old, some candidate) ∈ outcomes current previous) :
        candidate.fingerprint.normalizedPath = old.fingerprint.normalizedPath :=
      normalizedPath_of_mem_pairing member
    rw [reconciled_eq, withdrawn_append, withdrawn_map_fate named, map_fst_outcomes, if_pos rfl,
      withdrawn_map_added, List.append_nil]
    exact ((sorted_perm _ _).map _).trans (typed_remaining_perm previous current)
  · rw [reconciled_eq, supplied_append, supplied_map_fate, if_pos rfl, supplied_map_added]
    have taken := (taken_append_leftover_perm current previous).symm.map
      (Entry.typed fun entry => entry.fingerprint.normalizedPath)
    rw [List.map_append] at taken
    exact taken.trans (typed_remaining_perm current previous)

end ByName

namespace ByContent

theorem contentsAt_map {collection : Collection} {entries : List Entry}
    {change : Entry → Change}
    (included : entries ⊆ collection.entries)
    (here : ∀ entry, (change entry).path = entry.path) :
    collection.contentsAt (entries.map change) =
      (entries.map fun entry => entry.fingerprint.digestAndType).map some := by
  rw [Collection.contentsAt, List.map_map, List.map_map]
  apply List.map_congr_left
  intro entry member
  rw [Function.comp_apply, here, Collection.get?_path_eq_some_iff.mpr (included member)]
  rfl

/-- Only the additions are told to be added. -/
theorem filter_isAdded_outcome (current previous : Collection) (title : String) :
    ((outcome current previous title true).filter fun change => change.alteration.isAdded) =
      (additions current previous).map (Entry.added title) := by
  simp [outcome_eq, List.filter_map, Function.comp_def, Entry.added, Entry.removed,
    Alteration.isAdded]

/-- Only the removals are told to be removed. -/
theorem filter_isRemoved_outcome (current previous : Collection) (title : String) :
    ((outcome current previous title true).filter fun change => change.alteration.isRemoved) =
      (removals current previous).map (Entry.removed title) := by
  simp [outcome_eq, List.filter_map, Function.comp_def, Entry.added, Entry.removed,
    Alteration.isRemoved]

theorem balanced_outcome (current previous : Collection) (title : String) :
    Balanced previous.contents
      (previous.contentsAt ((outcome current previous title true).filter fun change =>
        change.alteration.isRemoved))
      (current.contentsAt ((outcome current previous title true).filter fun change =>
        change.alteration.isAdded))
      current.contents := by
  apply Balanced.of_diff
  · have included : removals current previous ⊆ previous.entries := fun entry member =>
      List.mem_of_mem_filter (mem_sorted.mp member)
    rw [filter_isRemoved_outcome, contentsAt_map included fun _ => rfl]
    apply List.Perm.map
    exact ((sorted_perm _ _).map _).trans (map_key_remaining_perm _ _ previous current)
  · have included : additions current previous ⊆ current.entries := fun entry member =>
      List.mem_of_mem_filter (mem_sorted.mp member)
    rw [filter_isAdded_outcome, contentsAt_map included fun _ => rfl]
    apply List.Perm.map
    exact ((sorted_perm _ _).map _).trans (map_key_remaining_perm _ _ current previous)

end ByContent

end Reconcile

/-- Whatever names a balance is kept in, the sizes differ by what was added and
removed. -/
theorem Balanced.size_add_removed {current previous : Collection} {name : Entry → String}
    {told : Change → String} {changes : List Change}
    (balanced : Balanced (previous.typed name) (withdrawn told changes) (supplied told changes)
      (current.typed name)) :
    current.size + changes.countP (fun change => change.alteration.isRemoved) =
      previous.size + changes.countP fun change => change.alteration.isAdded := by
  have lengths := balanced.length_eq
  have kinds := length_withdrawn_add_added told changes
  simp only [Collection.typed, List.length_map] at lengths
  rw [Collection.size, Collection.size]
  omega

namespace Policy

variable (current previous : Collection) (title : String)

/-- All changes together account for the whole difference between two states: by
path and by name for what there is with its type, by content for the digests and
types at the paths of removals and additions. Nothing is withdrawn that was not there, and
the sizes differ by what was added and removed. -/
theorem changes_balanced :
    (let changes := absolute.changes current previous title true
     Balanced (previous.typed Entry.path) (withdrawn Change.path changes)
      (supplied Change.path changes) (current.typed Entry.path)) ∧
    (let changes := normalized.changes current previous title true
     Balanced (previous.typed fun entry => entry.fingerprint.normalizedPath)
      (withdrawn Change.normalizedPath changes) (supplied Change.normalizedPath changes)
      (current.typed fun entry => entry.fingerprint.normalizedPath)) ∧
    (let changes := ignoredPath.changes current previous title true
     Balanced previous.contents
      (previous.contentsAt (changes.filter fun change => change.alteration.isRemoved))
      (current.contentsAt (changes.filter fun change => change.alteration.isAdded))
      current.contents) ∧
    ∀ policy : Policy,
      let changes := policy.changes current previous title true
      current.size + changes.countP (fun change => change.alteration.isRemoved) =
        previous.size + changes.countP fun change => change.alteration.isAdded := by
  have byPath := Reconcile.ByPath.balanced_outcome current previous title
  have byName := Reconcile.ByName.balanced_reconciled current previous title
  have byContent := Reconcile.ByContent.balanced_outcome current previous title
  rw [← Reconcile.ByPath.sequence_eq_outcome] at byPath
  rw [← Reconcile.ByName.sequence_eq_reconciled] at byName
  rw [← Reconcile.ByContent.sequence_eq_outcome] at byContent
  simp only [changes_eq_sequence]
  refine ⟨byPath, byName, byContent, ?_⟩
  intro policy
  cases policy with
  | absolute => exact byPath.size_add_removed
  | normalized => exact byName.size_add_removed
  | ignoredPath =>
      have lengths := byContent.length_eq
      simp only [Collection.contents, Collection.contentsAt, List.length_map,
        ← List.countP_eq_length_filter] at lengths
      exact lengths

end Policy

end Drift
