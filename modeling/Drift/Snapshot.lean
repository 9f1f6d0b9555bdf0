import Drift.CacheKey
import Drift.Reconcile

/-!
# Snapshots of a property

A snapshot is the state of one property: its title, its policy and the
fingerprints of its files. It has a cache key and can be compared with an
earlier snapshot, under its own policy and title.
-/

namespace Drift

/-- The state of one property. -/
structure Snapshot where
  title : String
  policy : Policy
  collection : Collection
  deriving DecidableEq

namespace Snapshot

/-- A snapshot without files. -/
def empty (title : String) (policy : Policy) : Snapshot :=
  ⟨title, policy, .empty⟩

/-- The bytes that stand for a snapshot in key material: the name of its policy
and what that policy looks at. Neither the title nor any path enters. -/
def material (snapshot : Snapshot) (sorter : Sorter := .stable) : List UInt8 :=
  KeyMaterial.text snapshot.policy.identifier ++
    snapshot.policy.material snapshot.collection.fingerprints sorter

/-- The cache key of a snapshot on its own. -/
def key (snapshot : Snapshot) (sorter : Sorter := .stable) : Digest :=
  .ofContent (snapshot.material sorter)

/-- Hands the changes since an earlier snapshot to an observer. -/
def compareWith (snapshot previous : Snapshot) (observer : Observer σ) (state : σ)
    (includeAdded : Bool) (sorter : Sorter := .stable) : Bool × σ :=
  snapshot.policy.compare observer state snapshot.collection previous.collection
    snapshot.title includeAdded sorter

/-- Whether two snapshots agree in title, policy and what is at each path, in
whatever order the paths were inserted. -/
def same (left right : Snapshot) : Bool :=
  left.title == right.title && left.policy == right.policy &&
    left.collection.identical right.collection

end Snapshot

end Drift
