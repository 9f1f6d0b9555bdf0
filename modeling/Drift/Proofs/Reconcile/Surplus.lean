import Drift.Proofs.Reconcile.Pairing
import Mathlib.Algebra.BigOperators.Group.Finset.Basic

/-!
# Surplus fingerprints

What remains of a side is, up to order, what it has more of than the other one.
Counted for a name this is a sum over the fingerprints of that name, in which no
path occurs.
-/

namespace Drift.Reconcile

/-- How many fingerprints of a name one side has more than the other, summed
over all fingerprints of that name. -/
def surplus (own other : Collection) (name : String) : Nat :=
  ∑ fingerprint ∈ (((own.entries ++ other.entries).map Entry.fingerprint).filter
      fun fingerprint => fingerprint.normalizedPath = name).toFinset,
    ((own.entries.map Entry.fingerprint).count fingerprint -
      (other.entries.map Entry.fingerprint).count fingerprint)

theorem surplus_eq_countP_diff (own other : Collection) (name : String) :
    surplus own other name =
      ((own.entries.map Entry.fingerprint).diff (other.entries.map Entry.fingerprint)).countP
        fun fingerprint => fingerprint.normalizedPath = name := by
  let mine := own.entries.map Entry.fingerprint
  let theirs := other.entries.map Entry.fingerprint
  let excess := (mine.diff theirs).filter fun fingerprint => fingerprint.normalizedPath = name
  have counted : ∀ fingerprint ∈ (excess : Multiset Fingerprint), fingerprint ∈
      (((own.entries ++ other.entries).map Entry.fingerprint).filter fun fingerprint =>
        fingerprint.normalizedPath = name).toFinset := by
    intro fingerprint member
    obtain ⟨inside, named⟩ := List.mem_filter.mp (Multiset.mem_coe.mp member)
    apply List.mem_toFinset.mpr
    apply List.mem_filter.mpr
    rw [List.map_append]
    exact ⟨List.mem_append_left _ (List.diff_subset mine theirs inside), named⟩
  have total := Multiset.sum_count_eq_card counted
  rw [Multiset.coe_card] at total
  rw [List.countP_eq_length_filter, ← total, surplus]
  apply Finset.sum_congr rfl
  intro fingerprint member
  have named := (List.mem_filter.mp (List.mem_toFinset.mp member)).2
  have kept : excess.count fingerprint = (mine.diff theirs).count fingerprint :=
    List.count_filter named
  rw [Multiset.coe_count, kept, List.count_diff]

theorem surplus_eq_of_perm {own own' other other' : Collection}
    (perm : (own.entries.map Entry.fingerprint).Perm (own'.entries.map Entry.fingerprint))
    (permOther :
      (other.entries.map Entry.fingerprint).Perm (other'.entries.map Entry.fingerprint))
    (name : String) : surplus own other name = surplus own' other' name := by
  rw [surplus_eq_countP_diff, surplus_eq_countP_diff]
  exact (perm.diff permOther).countP_eq _

/-- Entries that remain of a side by name carry its excess of fingerprints. -/
theorem ByName.map_fingerprint_remaining_perm (own other : Collection) :
    ((remaining own other).map Entry.fingerprint).Perm
      ((own.entries.map Entry.fingerprint).diff (other.entries.map Entry.fingerprint)) :=
  map_key_remaining_perm Fingerprint.self Entry.byPath own other

/-- As many entries of a name remain as a side has in surplus. -/
theorem ByName.countP_remaining (own other : Collection) (name : String) :
    (remaining own other).countP (fun entry => entry.fingerprint.normalizedPath = name) =
      surplus own other name := by
  rw [surplus_eq_countP_diff, ← (map_fingerprint_remaining_perm own other).countP_eq,
    List.countP_map]
  rfl

end Drift.Reconcile
