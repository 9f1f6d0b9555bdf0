import Drift.Proofs.Message
import Drift.Proofs.Reconcile.Balance
import Drift.Proofs.Report

/-!
# Truth of changes

A change that tells of a file that is there now tells it as the current state has
it, and one that tells of a file that is gone tells it as the previous state had it.
Each state has a path once, so it is enough that what is told of a state is a part of
its entries: then no file is told twice, and no message either.
-/

namespace Drift

/-- The images of some of the values are a part of the images of all. -/
theorem filterMap_sublist_map {select : α → Option β} {image : α → β} {values : List α}
    (same : ∀ value ∈ values, ∀ selected,
      select value = some selected → selected = image value) :
    (values.filterMap select).Sublist (values.map image) := by
  induction values with
  | nil => exact .slnil
  | cons value rest ih =>
      have sublist := ih fun other member => same other (List.mem_cons_of_mem _ member)
      cases selected : select value with
      | none =>
          rw [List.filterMap_cons_none selected]
          exact sublist.cons _
      | some chosen =>
          rw [List.filterMap_cons_some selected, same value List.mem_cons_self chosen selected]
          exact sublist.cons_cons _

/-- What there is to tell of an entry: its path, its normalized path and its type. -/
def Entry.described (entry : Entry) : String × String × FileType :=
  (entry.path, entry.fingerprint.normalizedPath, entry.fingerprint.fileType)

namespace Change

/-- What an addition or a modification tells of the file that is there now. -/
def now? (change : Change) : Option (String × String × FileType) :=
  change.alteration.after?.map fun fileType => (change.path, change.normalizedPath, fileType)

/-- What a removal tells of the file that is gone. -/
def gone? (change : Change) : Option (String × String × FileType) :=
  match change.alteration with
  | .removed fileType => some (change.path, change.normalizedPath, fileType)
  | _ => none

theorem filterMap_now?_map_removed (title : String) (entries : List Entry) :
    (entries.map (Entry.removed title)).filterMap now? = [] := by
  rw [List.filterMap_map]
  exact List.filterMap_eq_nil_iff.mpr fun _ _ => rfl

theorem filterMap_gone?_map_removed (title : String) (entries : List Entry) :
    (entries.map (Entry.removed title)).filterMap gone? = entries.map Entry.described := by
  rw [List.filterMap_map, ← List.filterMap_eq_map]
  rfl

/-- Additions tell of their entries, if they are asked for. -/
theorem filterMap_now?_additions_sublist (title : String) (includeAdded : Bool)
    (entries : List Entry) :
    ((if includeAdded then entries.map (Entry.added title) else []).filterMap now?).Sublist
      (entries.map Entry.described) := by
  cases includeAdded with
  | false => exact List.nil_sublist _
  | true =>
      rw [if_pos rfl, List.filterMap_map]
      exact filterMap_sublist_map fun _ _ _ found => (Option.some.inj found).symm

theorem filterMap_gone?_additions (title : String) (includeAdded : Bool)
    (entries : List Entry) :
    (if includeAdded then entries.map (Entry.added title) else []).filterMap gone? = [] := by
  cases includeAdded with
  | false => rfl
  | true =>
      rw [if_pos rfl, List.filterMap_map]
      exact List.filterMap_eq_nil_iff.mpr fun _ _ => rfl

end Change

theorem Entry.described_subperm {part whole : List Entry} (subperm : part.Subperm whole) :
    (part.map described).Subperm (whole.map described) := by
  obtain ⟨chosen, perm, sublist⟩ := subperm
  exact ⟨chosen.map described, perm.map described, sublist.map described⟩

/-- Changes that tell of two states what there is in them, and nothing twice. -/
structure Truthful (current previous : Collection) (changes : List Change) : Prop where
  now : (changes.filterMap Change.now?).Subperm (current.entries.map Entry.described)
  gone : (changes.filterMap Change.gone?).Subperm (previous.entries.map Entry.described)

namespace Truthful

variable {current previous : Collection} {changes : List Change}

/-- What is told of a collection as a part of it is told of one path at most once. -/
theorem nodup_paths_of_subperm {told : List (String × String × FileType)}
    {collection : Collection} (part : told.Subperm (collection.entries.map Entry.described)) :
    (told.map Prod.fst).Nodup := by
  obtain ⟨chosen, perm, sublist⟩ := part
  have paths : (collection.entries.map Entry.described).map Prod.fst = collection.paths :=
    List.map_map
  have distinct := collection.nodup_paths.sublist (paths ▸ sublist.map Prod.fst)
  exact (perm.map Prod.fst).nodup_iff.mp distinct

/-- No path is told about twice in the same way. -/
theorem pairwise_kind_or_path_ne (truthful : Truthful current previous changes) :
    changes.Pairwise fun change other =>
      ¬(change.alteration.kind = other.alteration.kind ∧ change.path = other.path) := by
  have now := List.pairwise_filterMap.mp
    (List.pairwise_map.mp (nodup_paths_of_subperm truthful.now))
  have gone := List.pairwise_filterMap.mp
    (List.pairwise_map.mp (nodup_paths_of_subperm truthful.gone))
  refine (now.and gone).imp ?_
  rintro ⟨_, path, _, alteration⟩ ⟨_, _, _, other⟩ ⟨apartNow, apartGone⟩ ⟨sameKind, rfl⟩
  -- Changes of one kind tell of the same side.
  cases alteration with
  | added =>
      cases other with
      | added => exact apartNow _ rfl _ rfl rfl
      | _ => cases sameKind
  | removed =>
      cases other with
      | removed => exact apartGone _ rfl _ rfl rfl
      | _ => cases sameKind
  | modified =>
      cases other with
      | modified => exact apartNow _ rfl _ rfl rfl
      | _ => cases sameKind

/-- Under one title no message is told twice. -/
theorem nodup_messages (truthful : Truthful current previous changes) {title : String}
    (entitled : ∀ change ∈ changes, change.title = title) :
    (changes.map Change.message).Nodup := by
  refine List.pairwise_map.mpr (truthful.pairwise_kind_or_path_ne.imp_of_mem ?_)
  intro change other member memberOther apart
  have sameTitle := (entitled change member).trans (entitled other memberOther).symm
  rwa [Ne, Change.message_inj sameTitle]

end Truthful

namespace Reconcile

variable (current previous : Collection) (title : String) (includeAdded : Bool)

namespace ByPath

/-- What is told along the walk of what one side has there is a part of that side. -/
theorem filterMap_walk_subperm {own other : Collection}
    {image : String → Option (String × String × FileType)}
    (told : ∀ path value, image path = some value →
      ∃ fingerprint, own.get? path = some fingerprint ∧
        value = (Entry.mk path fingerprint).described) :
    ((walk other own).filterMap image).Subperm (own.entries.map Entry.described) := by
  -- Nothing is told at a path that only the other side has.
  have nothing : ((other.entries.filter fun entry => entry.path ∉ own.paths).filterMap
      fun entry => image entry.path) = [] := by
    apply List.filterMap_eq_nil_iff.mpr
    intro entry member
    have fresh : entry.path ∉ own.paths := by simpa using List.of_mem_filter member
    apply Option.eq_none_iff_forall_ne_some.mpr
    intro value found
    obtain ⟨fingerprint, held, -⟩ := told entry.path value found
    rw [Collection.get?_eq_none_iff.mpr fresh] at held
    cases held
  have ofOwn := filterMap_walk_perm other own image
  rw [nothing, List.append_nil] at ofOwn
  refine ofOwn.subperm.trans (List.Sublist.subperm (filterMap_sublist_map ?_))
  intro entry member value found
  obtain ⟨fingerprint, held, rfl⟩ := told entry.path value found
  rw [Collection.get?_path_eq_some_iff.mpr member, Option.some.injEq] at held
  rw [← held]

theorem now?_changeOf? {path : String} {new? old? : Option Fingerprint}
    {told : String × String × FileType}
    (found : (changeOf? title includeAdded path new? old?).bind Change.now? = some told) :
    ∃ new, new? = some new ∧ told = (Entry.mk path new).described := by
  cases new? with
  | none => cases old? <;> cases found
  | some new =>
      refine ⟨new, rfl, ?_⟩
      obtain ⟨change, changed, kept⟩ := Option.bind_eq_some_iff.mp found
      cases old? <;>
        grind [changeOf?, Change.now?, Alteration.after?, Entry.described]

theorem gone?_changeOf? {path : String} {new? old? : Option Fingerprint}
    {told : String × String × FileType}
    (found : (changeOf? title includeAdded path new? old?).bind Change.gone? = some told) :
    ∃ old, old? = some old ∧ told = (Entry.mk path old).described := by
  obtain ⟨change, changed, kept⟩ := Option.bind_eq_some_iff.mp found
  cases new? <;> cases old? <;>
    grind [changeOf?, Change.gone?, Entry.described]

theorem truthful_sequence :
    Truthful current previous (sequence current previous title includeAdded) where
  now := by
    rw [sequence_eq_outcome, outcome, List.filterMap_filterMap]
    refine (((walk_comm current previous).filterMap _).subperm).trans
      (filterMap_walk_subperm ?_)
    exact fun path told found => now?_changeOf? title includeAdded found
  gone := by
    rw [sequence_eq_outcome, outcome, List.filterMap_filterMap]
    apply filterMap_walk_subperm
    exact fun path told found => gone?_changeOf? title includeAdded found

end ByPath

namespace ByName

theorem filterMap_now?_map_fate (outcomes : List (Entry × Option Entry)) :
    (outcomes.map (fate title)).filterMap Change.now? =
      (outcomes.filterMap Prod.snd).map Entry.described := by
  rw [List.filterMap_map, List.map_filterMap]
  apply List.filterMap_congr
  rintro ⟨old, _ | candidate⟩ - <;> rfl

/-- Removals tell of missing entries. -/
theorem filterMap_gone?_map_fate_sublist (outcomes : List (Entry × Option Entry)) :
    ((outcomes.map (fate title)).filterMap Change.gone?).Sublist
      ((outcomes.map Prod.fst).map Entry.described) := by
  rw [List.filterMap_map, List.map_map]
  apply filterMap_sublist_map
  rintro ⟨old, _ | candidate⟩ - told found
  · exact (Option.some.inj found).symm
  · cases found

theorem truthful_sequence :
    Truthful current previous (sequence current previous title includeAdded) where
  now := by
    have part : ((outcomes current previous).filterMap Prod.snd ++
        leftover current previous).Subperm current.entries :=
      (taken_append_leftover_perm current previous).symm.subperm.trans
        List.filter_sublist.subperm
    refine List.Subperm.trans ?_ (Entry.described_subperm part)
    rw [sequence_eq_reconciled, reconciled_eq, List.filterMap_append, filterMap_now?_map_fate,
      List.map_append]
    exact ((List.Sublist.refl _).append
      (Change.filterMap_now?_additions_sublist title includeAdded _)).subperm
  gone := by
    have part : ((outcomes current previous).map Prod.fst).Subperm previous.entries := by
      rw [map_fst_outcomes]
      exact (sorted_perm _ _).subperm.trans List.filter_sublist.subperm
    refine List.Subperm.trans ?_ (Entry.described_subperm part)
    rw [sequence_eq_reconciled, reconciled_eq, List.filterMap_append,
      Change.filterMap_gone?_additions, List.append_nil]
    exact (filterMap_gone?_map_fate_sublist title _).subperm

end ByName

namespace ByContent

theorem truthful_sequence :
    Truthful current previous (sequence current previous title includeAdded) where
  now := by
    have part : (additions current previous).Subperm current.entries :=
      (sorted_perm _ _).subperm.trans List.filter_sublist.subperm
    refine List.Subperm.trans ?_ (Entry.described_subperm part)
    rw [sequence_eq_outcome, outcome_eq, List.filterMap_append,
      Change.filterMap_now?_map_removed, List.append_nil]
    exact (Change.filterMap_now?_additions_sublist title includeAdded _).subperm
  gone := by
    have part : (removals current previous).Subperm previous.entries :=
      (sorted_perm _ _).subperm.trans List.filter_sublist.subperm
    rw [sequence_eq_outcome, outcome_eq, List.filterMap_append,
      Change.filterMap_gone?_additions, List.nil_append, Change.filterMap_gone?_map_removed]
    exact Entry.described_subperm part

end ByContent

end Reconcile

namespace Policy

theorem truthful_changes (policy : Policy) (current previous : Collection) (title : String)
    (includeAdded : Bool) :
    Truthful current previous (policy.changes current previous title includeAdded) := by
  rw [changes_eq_sequence]
  cases policy with
  | absolute => exact Reconcile.ByPath.truthful_sequence current previous title includeAdded
  | normalized => exact Reconcile.ByName.truthful_sequence current previous title includeAdded
  | ignoredPath =>
      exact Reconcile.ByContent.truthful_sequence current previous title includeAdded

theorem title_of_mem_changes {policy : Policy} {current previous : Collection} {title : String}
    {includeAdded : Bool} {change : Change}
    (member : change ∈ policy.changes current previous title includeAdded) :
    change.title = title := by
  rw [changes_eq_sequence, sequence_entitled] at member
  obtain ⟨untitled, -, rfl⟩ := List.mem_map.mp member
  rfl

end Policy

/-- The messages of a report are part of those of all changes. -/
theorem Report.nodup_messages_collect (settings : Settings) (title : String)
    (current previous : Collection) :
    (collect settings title current previous).messages.Nodup := by
  have told := (settings.policy.truthful_changes current previous title
    settings.includeAdded).nodup_messages fun _ member => Policy.title_of_mem_changes member
  have reported : (collect settings title current previous).messages =
      ((settings.changes current previous title).take settings.cap.toNat).map Change.message :=
    congrArg messages (collect_eq settings title current previous)
  rw [reported]
  exact told.sublist ((List.take_sublist _ _).map Change.message)

/-- Additions and modifications tell of files that are there now, with the type and the
normalized path they have there, and of none of them twice; removals tell in the same
way of files that were there before. So no message of a report comes twice, and under
one title a message tells the kind and the path of its change. -/
theorem Policy.changes_truthful (policy : Policy) (current previous : Collection)
    (title : String) (includeAdded : Bool) :
    let changes := policy.changes current previous title includeAdded
    ((changes.filterMap Change.now?).map Prod.fst).Nodup ∧
      changes.filterMap Change.now? ⊆ current.entries.map Entry.described ∧
      ((changes.filterMap Change.gone?).map Prod.fst).Nodup ∧
      changes.filterMap Change.gone? ⊆ previous.entries.map Entry.described ∧
      (∀ settings, (Report.collect settings title current previous).messages.Nodup) ∧
      ∀ change other : Change, change.title = other.title →
        (change.message = other.message ↔
          change.alteration.kind = other.alteration.kind ∧ change.path = other.path) := by
  intro changes
  have truthful := policy.truthful_changes current previous title includeAdded
  refine ⟨Truthful.nodup_paths_of_subperm truthful.now, truthful.now.subset,
    Truthful.nodup_paths_of_subperm truthful.gone, truthful.gone.subset, ?_, ?_⟩
  · exact fun settings => Report.nodup_messages_collect settings title current previous
  · exact fun change other sameTitle => Change.message_inj sameTitle

end Drift
