import Drift.Fingerprint
import Mathlib.Data.List.Perm.Basic

/-!
# Contents as pairs

The content of a fingerprint is nothing but its digest and its type. Statements
about contents are made about these pairs, and what tells contents apart tells
the pairs apart.
-/

namespace Drift

namespace Fingerprint

/-- The digest of a fingerprint and its type. -/
def digestAndType (fingerprint : Fingerprint) : Digest × FileType :=
  (fingerprint.digest, fingerprint.fileType)

theorem content_eq_iff (left right : Fingerprint) :
    left.content = right.content ↔ left.digestAndType = right.digestAndType := by
  simp [content, digestAndType]

/-- Fingerprints have the same contents, each as often, if they have the same
pairs. -/
theorem map_content_perm_iff {left right : List Fingerprint} :
    (left.map content).Perm (right.map content) ↔
      (left.map digestAndType).Perm (right.map digestAndType) := by
  let pair (content : Content) : Digest × FileType := (content.digest, content.fileType)
  have injective : Function.Injective pair := by
    intro first second equal
    exact Content.ext (congrArg Prod.fst equal) (congrArg Prod.snd equal)
  have pairs (fingerprints : List Fingerprint) :
      (fingerprints.map content).map pair = fingerprints.map digestAndType := by
    rw [List.map_map]
    rfl
  rw [← List.map_perm_map_iff injective, pairs, pairs]

end Fingerprint

end Drift
