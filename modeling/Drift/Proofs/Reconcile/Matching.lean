import Drift.Proofs.Reconcile.Surplus

/-!
# Matchings of two states

A matching pairs entries of two states that share their normalized path, each
entry at most once. It explains a list of changes: equal pairs are silent,
unequal ones are modified, and what is unmatched was added or removed. However
it is chosen, the surplus of each side at a name has to show in these changes.
-/

namespace Drift

/-- Numbers of changes by kind. -/
@[ext] structure Tally where
  added : Nat
  removed : Nat
  modified : Nat

namespace Tally

/-- The changes at a normalized path, counted. -/
def ofChanges (changes : List Change) (name : String) : Tally where
  added := changes.countP fun change => change.normalizedPath = name ∧ change.alteration.isAdded
  removed := changes.countP fun change =>
    change.normalizedPath = name ∧ change.alteration.isRemoved
  modified := changes.countP fun change =>
    change.normalizedPath = name ∧ change.alteration.isModified

/-- The tally of the changes the other way round. -/
def exchanged (tally : Tally) : Tally :=
  ⟨tally.removed, tally.added, tally.modified⟩

theorem ofChanges_eq_of_perm {left right : List Change} (perm : left.Perm right)
    (name : String) :
    ofChanges left name = ofChanges right name := by
  simp only [ofChanges, perm.countP_eq]

end Tally

namespace Reconcile

/-- Pairs of a current and a previous entry that share their normalized path,
no entry in two of them. -/
structure Matching (current previous : Collection) where
  pairs : List (Entry × Entry)
  mem_current : ∀ pair ∈ pairs, pair.1 ∈ current.entries
  mem_previous : ∀ pair ∈ pairs, pair.2 ∈ previous.entries
  same_name : ∀ pair ∈ pairs,
    pair.1.fingerprint.normalizedPath = pair.2.fingerprint.normalizedPath
  nodup_current : (pairs.map Prod.fst).Nodup
  nodup_previous : (pairs.map Prod.snd).Nodup

namespace Matching

variable {current previous : Collection} (matching : Matching current previous)

/-- The pairs of different fingerprints. -/
def unequal : List (Entry × Entry) :=
  matching.pairs.filter fun pair => pair.1.fingerprint ≠ pair.2.fingerprint

/-- The unmatched current entries. -/
def added : List Entry :=
  current.entries.filter fun entry => entry ∉ matching.pairs.map Prod.fst

/-- The unmatched previous entries. -/
def removed : List Entry :=
  previous.entries.filter fun entry => entry ∉ matching.pairs.map Prod.snd

/-- How much a matching leaves to be told. -/
def cost : Nat :=
  matching.unequal.length + matching.added.length + matching.removed.length

/-- The changes that a matching explains. -/
def changes (title : String) : List Change :=
  (matching.unequal.map fun pair =>
    ⟨title, pair.1.path, pair.1.fingerprint.normalizedPath,
      .modified pair.2.fingerprint.fileType pair.1.fingerprint.fileType⟩) ++
  ((matching.added.map fun entry =>
    ⟨title, entry.path, entry.fingerprint.normalizedPath, .added entry.fingerprint.fileType⟩) ++
  matching.removed.map fun entry =>
    ⟨title, entry.path, entry.fingerprint.normalizedPath, .removed entry.fingerprint.fileType⟩)

theorem length_changes (title : String) : (matching.changes title).length = matching.cost := by
  simp [changes, cost, Nat.add_assoc]

/-- The same pairs seen from the other side. -/
def exchanged : Matching previous current where
  pairs := matching.pairs.map Prod.swap
  mem_current := by
    intro pair member
    obtain ⟨original, inside, rfl⟩ := List.mem_map.mp member
    exact matching.mem_previous original inside
  mem_previous := by
    intro pair member
    obtain ⟨original, inside, rfl⟩ := List.mem_map.mp member
    exact matching.mem_current original inside
  same_name := by
    intro pair member
    obtain ⟨original, inside, rfl⟩ := List.mem_map.mp member
    exact (matching.same_name original inside).symm
  nodup_current := by
    simpa [Function.comp_def] using matching.nodup_previous
  nodup_previous := by
    simpa [Function.comp_def] using matching.nodup_current

theorem unequal_exchanged : matching.exchanged.unequal = matching.unequal.map Prod.swap := by
  simp only [unequal, exchanged, List.filter_map]
  congr 1
  apply List.filter_congr
  intro pair _
  simp [eq_comm]

theorem removed_exchanged : matching.exchanged.removed = matching.added := by
  simp only [removed, added, exchanged, List.map_map]
  rfl

theorem same_name_of_unequal (pair : Entry × Entry) (member : pair ∈ matching.unequal) :
    pair.1.fingerprint.normalizedPath = pair.2.fingerprint.normalizedPath :=
  matching.same_name pair (List.mem_of_mem_filter member)

theorem previous_perm :
    previous.entries.Perm (matching.pairs.map Prod.snd ++ matching.removed) := by
  apply perm_append_filter_not_mem previous.nodup_entries matching.nodup_previous
  intro entry member
  obtain ⟨pair, inside, rfl⟩ := List.mem_map.mp member
  exact matching.mem_previous pair inside

theorem current_subperm : (matching.pairs.map Prod.fst).Subperm current.entries := by
  apply List.subperm_of_subset matching.nodup_current
  intro entry member
  obtain ⟨pair, inside, rfl⟩ := List.mem_map.mp member
  exact matching.mem_current pair inside

/-- Equal pairs use up one fingerprint of each side, so what the previous side
has more of is modified or removed. -/
theorem diff_subperm :
    ((previous.entries.map Entry.fingerprint).diff
        (current.entries.map Entry.fingerprint)).Subperm
      ((matching.unequal.map Prod.snd ++ matching.removed).map Entry.fingerprint) := by
  apply List.subperm_ext_iff.mpr
  intro fingerprint _
  -- An equal pair counts once on each side, so it makes up for no difference.
  let equal := matching.pairs.filter fun pair => pair.1.fingerprint = pair.2.fingerprint
  have held := matching.previous_perm.countP_eq
    fun entry => decide (entry.fingerprint = fingerprint)
  have parted : matching.pairs.Perm (equal ++ matching.unequal) := by
    simp only [equal, unequal, ne_eq, decide_not]
    exact (List.filter_append_perm _ _).symm
  have counted := parted.countP_eq fun pair => decide (pair.2.fingerprint = fingerprint)
  have aligned : equal.countP (fun pair => pair.2.fingerprint = fingerprint) =
      equal.countP (fun pair => pair.1.fingerprint = fingerprint) := by
    apply List.countP_congr
    intro pair member
    have same : pair.1.fingerprint = pair.2.fingerprint := by
      simpa using List.of_mem_filter member
    simp [same]
  have inside : equal.countP (fun pair => pair.1.fingerprint = fingerprint) ≤
      matching.pairs.countP fun pair => pair.1.fingerprint = fingerprint :=
    List.filter_sublist.countP_le
  have available := matching.current_subperm.countP_le
    fun entry => decide (entry.fingerprint = fingerprint)
  rw [List.count_diff, count_map_eq_countP, count_map_eq_countP, count_map_eq_countP]
  simp only [List.countP_append, List.countP_map, Function.comp_def] at held counted available ⊢
  omega

theorem surplus_le_unequal_add_removed (name : String) :
    surplus previous current name ≤
      matching.unequal.countP (fun pair => pair.2.fingerprint.normalizedPath = name) +
        matching.removed.countP fun entry => entry.fingerprint.normalizedPath = name := by
  rw [surplus_eq_countP_diff]
  have bound := matching.diff_subperm.countP_le
    fun fingerprint => decide (fingerprint.normalizedPath = name)
  rw [List.countP_map, List.countP_append, List.countP_map] at bound
  exact bound

theorem surplus_le_unequal_add_added (name : String) :
    surplus current previous name ≤
      matching.unequal.countP (fun pair => pair.1.fingerprint.normalizedPath = name) +
        matching.added.countP fun entry => entry.fingerprint.normalizedPath = name := by
  have bound := matching.exchanged.surplus_le_unequal_add_removed name
  rw [unequal_exchanged, removed_exchanged, List.countP_map] at bound
  exact bound

theorem countP_unequal (name : String) :
    matching.unequal.countP (fun pair => pair.2.fingerprint.normalizedPath = name) =
      matching.unequal.countP fun pair => pair.1.fingerprint.normalizedPath = name := by
  apply List.countP_congr
  intro pair member
  rw [matching.same_name_of_unequal pair member]

theorem tally_changes (title name : String) :
    Tally.ofChanges (matching.changes title) name =
      ⟨matching.added.countP fun entry => entry.fingerprint.normalizedPath = name,
        matching.removed.countP fun entry => entry.fingerprint.normalizedPath = name,
        matching.unequal.countP fun pair => pair.1.fingerprint.normalizedPath = name⟩ := by
  simp [Tally.ofChanges, changes, List.countP_append, List.countP_map, Function.comp_def,
    Alteration.isAdded, Alteration.isRemoved, Alteration.isModified]

theorem countP_changes (title name : String) :
    (matching.changes title).countP (fun change => change.normalizedPath = name) =
      matching.unequal.countP (fun pair => pair.1.fingerprint.normalizedPath = name) +
        (matching.added.countP (fun entry => entry.fingerprint.normalizedPath = name) +
          matching.removed.countP fun entry => entry.fingerprint.normalizedPath = name) := by
  rw [changes, List.countP_append, List.countP_append, List.countP_map, List.countP_map,
    List.countP_map]
  rfl

/-- No matching explains fewer changes at a name than the larger surplus. -/
theorem max_surplus_le (title name : String) :
    max (surplus current previous name) (surplus previous current name) ≤
      (matching.changes title).countP fun change => change.normalizedPath = name := by
  have towardsPrevious := matching.surplus_le_unequal_add_removed name
  have towardsCurrent := matching.surplus_le_unequal_add_added name
  rw [countP_unequal] at towardsPrevious
  rw [countP_changes]
  omega

end Matching

end Reconcile

end Drift
