import Drift.Proofs.Observer.EarlyStop
import Drift.Reconcile

/-!
# The sequence of changes

A comparison interleaves its offers with what it does to its own state, and
ends whenever the observer wants no more. Here the offers of each comparison
are written down as a list that does not depend on the observer, and each
comparison is shown to relay that list.
-/

namespace Drift

namespace Reconcile.ByName

variable {σ : Type u}

/-- What becomes of missing entries: each with the candidate that stands for it,
if there is one. Also gives the candidates left over. -/
def pairing : List Entry → Candidates → List (Entry × Option Entry) × Candidates
  | [], candidates => ([], candidates)
  | old :: missing, candidates =>
      match candidates.take? old.fingerprint.normalizedPath with
      | some (candidate, others) =>
          ((old, some candidate) :: (pairing missing others).1, (pairing missing others).2)
      | none => ((old, none) :: (pairing missing candidates).1, (pairing missing candidates).2)

/-- The change that tells what became of a missing entry: it was modified to its
candidate, or it is gone if it has none. -/
def fate (title : String) : Entry × Option Entry → Change
  | (old, some candidate) =>
      ⟨title, candidate.path, candidate.fingerprint.normalizedPath,
        .modified old.fingerprint.fileType candidate.fingerprint.fileType⟩
  | (old, none) =>
      ⟨title, old.path, old.fingerprint.normalizedPath, .removed old.fingerprint.fileType⟩

@[simp] theorem fate_some (title : String) (old candidate : Entry) :
    fate title (old, some candidate) = candidate.modified title old.fingerprint.fileType :=
  rfl

@[simp] theorem fate_none (title : String) (old : Entry) :
    fate title (old, none) = old.removed title :=
  rfl

theorem pair_eq_relay (observer : Observer σ) (title : String) (missing : List Entry)
    (candidates : Candidates) :
    pair observer title missing candidates = (do
      observer.relay ((pairing missing candidates).1.map (fate title))
      pure (pairing missing candidates).2) := by
  induction missing generalizing candidates with
  | nil => rfl
  | cons old missing ih =>
      simp only [pair, pairing]
      cases candidates.take? old.fingerprint.normalizedPath with
      | none => simp [ih]
      | some taken => simp [ih]

/-- What `reconcile` offers, in order. -/
def reconciled (current previous : Collection) (title : String) (includeAdded : Bool) :
    List Change :=
  let split := split current previous
  let paired := pairing split.missing.toList split.candidates
  paired.1.map (fate title) ++
    if includeAdded then paired.2.toList.map (Entry.added title) else []

theorem reconcile_eq_relay (observer : Observer σ) (current previous : Collection)
    (title : String) (includeAdded : Bool) :
    reconcile observer current previous title includeAdded =
      observer.relay (reconciled current previous title includeAdded) := by
  simp only [reconcile, reconciled, pair_eq_relay, Observer.relay_append, bind_assoc, pure_bind]
  cases includeAdded with
  | false => rfl
  | true => simp [Observer.offerEach_some_eq_relay]

/-- What `compare` offers, in order. -/
def sequence (current previous : Collection) (title : String) (includeAdded : Bool) :
    List Change :=
  if current.identical previous then [] else reconciled current previous title includeAdded

theorem compare_eq_relay (observer : Observer σ) (current previous : Collection)
    (title : String) (includeAdded : Bool) :
    compare observer current previous title includeAdded =
      observer.relay (sequence current previous title includeAdded) := by
  simp only [compare, sequence]
  split
  · rfl
  · exact reconcile_eq_relay observer current previous title includeAdded

end Reconcile.ByName

namespace Reconcile.ByContent

variable {σ : Type u}

theorem consume_eq_relay (observer : Observer σ) (title : String) (includeAdded : Bool)
    (entries : List Entry) (unaccounted : Unaccounted) :
    consume observer title includeAdded entries unaccounted = (do
      observer.relay
        (if includeAdded then (Buckets.absorb entries unaccounted).1.map (Entry.added title)
          else [])
      pure (Buckets.absorb entries unaccounted).2) := by
  induction entries generalizing unaccounted with
  | nil => cases includeAdded <;> rfl
  | cons entry rest ih =>
      simp only [consume, Buckets.absorb]
      cases unaccounted.take? entry.fingerprint.content with
      | some taken => exact ih taken.2
      | none =>
          cases includeAdded with
          | false => simpa using ih unaccounted
          | true => simp [ih]

/-- What `reconcile` offers, in order. -/
def reconciled (current previous : Collection) (title : String) (includeAdded : Bool) :
    List Change :=
  let (unmatched, unaccounted) : List Entry × Unaccounted := Buckets.absorb
    (sorted Entry.byFingerprint (unsettled Fingerprint.content current previous))
    (.ofEntries (unsettled Fingerprint.content previous current))
  (if includeAdded then unmatched.map (Entry.added title) else []) ++
    unaccounted.toList.map (Entry.removed title)

theorem reconcile_eq_relay (observer : Observer σ) (current previous : Collection)
    (title : String) (includeAdded : Bool) :
    reconcile observer current previous title includeAdded =
      observer.relay (reconciled current previous title includeAdded) := by
  simp only [reconcile, reconciled, Sorter.sort_stable, consume_eq_relay, Observer.relay_append,
    bind_assoc, pure_bind, Observer.offerEach_some_eq_relay]

/-- What `compare` offers, in order. -/
def sequence (current previous : Collection) (title : String) (includeAdded : Bool) :
    List Change :=
  if current.identical previous then [] else reconciled current previous title includeAdded

theorem compare_eq_relay (observer : Observer σ) (current previous : Collection)
    (title : String) (includeAdded : Bool) :
    compare observer current previous title includeAdded =
      observer.relay (sequence current previous title includeAdded) := by
  simp only [compare, sequence]
  split
  · rfl
  · exact reconcile_eq_relay observer current previous title includeAdded

end Reconcile.ByContent

namespace Reconcile.ByPath

variable {σ : Type u}

/-- What is offered between collections over the same paths, in order. -/
def sharedSequence? (current previous : Collection) (title : String) : Option (List Change) :=
  (joined? current previous).map fun pairs =>
    (sorted (orderBy Prod.fst Entry.byPath)
      (pairs.filter fun pair => pair.2 ≠ pair.1.fingerprint)).map
        fun pair => pair.1.modified title pair.2.fileType

theorem overSharedPaths?_eq_relay (observer : Observer σ) (current previous : Collection)
    (title : String) :
    overSharedPaths? observer current previous title =
      (sharedSequence? current previous title).map observer.relay := by
  simp only [overSharedPaths?, sharedSequence?, Sorter.sort_stable, Option.map_map,
    Function.comp_def, Observer.offerEach_some_eq_relay]

/-- What `reconcile` offers, in order. -/
def reconciled (current previous : Collection) (title : String) (includeAdded : Bool) :
    List Change :=
  (sorted Entry.byPath current.entries).filterMap
      (fun entry => changeAt? title includeAdded entry (previous.get? entry.path)) ++
    (sorted Entry.byPath
      (previous.entries.filter fun entry => (current.get? entry.path).isNone)).map
        (Entry.removed title)

theorem reconcile_eq_relay (observer : Observer σ) (current previous : Collection)
    (title : String) (includeAdded : Bool) :
    reconcile observer current previous title includeAdded =
      observer.relay (reconciled current previous title includeAdded) := by
  simp only [reconcile, reconciled, Sorter.sort_stable, Observer.relay_append,
    Collection.getElem?_index]
  rw [Observer.offerEach_eq_relay, Observer.offerEach_some_eq_relay]

/-- What `compare` offers, in order. -/
def sequence (current previous : Collection) (title : String) (includeAdded : Bool) :
    List Change :=
  (sharedSequence? current previous title).getD
    (reconciled current previous title includeAdded)

theorem compare_eq_relay (observer : Observer σ) (current previous : Collection)
    (title : String) (includeAdded : Bool) :
    compare observer current previous title includeAdded =
      observer.relay (sequence current previous title includeAdded) := by
  rw [compare, sequence, overSharedPaths?_eq_relay]
  cases sharedSequence? current previous title with
  | none => exact reconcile_eq_relay observer current previous title includeAdded
  | some changes => rfl

end Reconcile.ByPath

namespace Policy

variable {σ : Type u}

/-- What a comparison offers under a policy, in order. -/
def sequence (policy : Policy) (current previous : Collection) (title : String)
    (includeAdded : Bool) : List Change :=
  match policy with
  | absolute => Reconcile.ByPath.sequence current previous title includeAdded
  | normalized => Reconcile.ByName.sequence current previous title includeAdded
  | ignoredPath => Reconcile.ByContent.sequence current previous title includeAdded

theorem delivery_eq_relay (policy : Policy) (observer : Observer σ)
    (current previous : Collection) (title : String) (includeAdded : Bool) :
    policy.delivery observer current previous title includeAdded =
      observer.relay (policy.sequence current previous title includeAdded) := by
  cases policy with
  | absolute =>
      exact Reconcile.ByPath.compare_eq_relay observer current previous title includeAdded
  | normalized =>
      exact Reconcile.ByName.compare_eq_relay observer current previous title includeAdded
  | ignoredPath =>
      exact Reconcile.ByContent.compare_eq_relay observer current previous title includeAdded

/-- Every change between two states, in order: what an observer is handed that
always goes on. -/
def changes (policy : Policy) (current previous : Collection) (title : String)
    (includeAdded : Bool) : List Change :=
  (policy.compare .collecting #[] current previous title includeAdded).2.toList

theorem compare_collecting (policy : Policy) (current previous : Collection) (title : String)
    (includeAdded : Bool) :
    policy.compare .collecting #[] current previous title includeAdded =
      (true, (policy.sequence current previous title includeAdded).toArray) := by
  simp [compare, delivery_eq_relay, Observer.run_relay_collecting]

theorem changes_eq_sequence (policy : Policy) (current previous : Collection) (title : String)
    (includeAdded : Bool) :
    policy.changes current previous title includeAdded =
      policy.sequence current previous title includeAdded := by
  simp [changes, compare_collecting]

end Policy

end Drift
