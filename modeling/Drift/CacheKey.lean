import Drift.Collection
import Drift.Policy

/-!
# Cache keys

The key material of a collection lists what a policy looks at in sorted form,
without paths, counts or separators. The key of a property covers the name of
its policy and that material, so it stays the same exactly as long as the
policy sees no difference.
-/

namespace Drift

/-- The key material of fingerprints, whatever order they come in. -/
def Fingerprint.materialOfAll (fingerprints : List Fingerprint)
    (sorter : Sorter := .stable) : List UInt8 :=
  (sorter.sort order fingerprints).flatMap material

/-- The key material of contents, whatever order they come in. -/
def Content.materialOfAll (contents : List Content) (sorter : Sorter := .stable) :
    List UInt8 :=
  (sorter.sort order contents).flatMap material

/-- The key material of what a policy looks at in some fingerprints. -/
def Policy.material (policy : Policy) (fingerprints : List Fingerprint)
    (sorter : Sorter := .stable) : List UInt8 :=
  match policy with
  | absolute | normalized => Fingerprint.materialOfAll fingerprints sorter
  | ignoredPath => Content.materialOfAll (fingerprints.map Fingerprint.content) sorter

/-- The digest of a collection's fingerprints on their own. -/
def Collection.digest (collection : Collection) (sorter : Sorter := .stable) : Digest :=
  .ofContent (Fingerprint.materialOfAll collection.fingerprints sorter)

end Drift
