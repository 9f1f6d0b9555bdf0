import Drift.Digest
import Drift.FileType
import Drift.KeyMaterial

/-!
# Fingerprints

A fingerprint says what a file is: its normalized path, which does not depend
on where the property's root lives, its type, and the digest of its content.
Fingerprints are totally ordered by digest, normalized path and type, so that
collections of them have one sorted form. The content of a fingerprint, its
digest and type, has an order and key material of its own.
-/

namespace Drift

/-- Identity of a file whose location does not matter. -/
@[ext] structure Content where
  digest : Digest
  fileType : FileType
  deriving DecidableEq

namespace Content

/-- Contents compare by digest, then by type. -/
def order : Content → Content → Ordering :=
  compareLex (orderBy digest Digest.order) (orderBy fileType FileType.order)

instance : Std.TransCmp order :=
  inferInstanceAs
    (Std.TransCmp (compareLex (orderBy digest Digest.order) (orderBy fileType FileType.order)))

instance : Std.LawfulEqCmp order where
  compare_self {content} := by
    simp [order, Std.ReflCmp.compare_self]
  eq_of_compare equal := by
    obtain ⟨digests, fileTypes⟩ := compareLex_eq_eq.mp equal
    exact Content.ext (eq_of_orderBy_eq digests) (eq_of_orderBy_eq fileTypes)

/-- The 33 bytes that stand for a content in key material. -/
def material (content : Content) : List UInt8 :=
  content.digest.bytes ++ [content.fileType.tag]

end Content

/-- Identity of one file for comparison. -/
@[ext] structure Fingerprint where
  /-- The path relative to the property's root, or whatever else identifies the
  file independently of where it is. -/
  normalizedPath : String
  fileType : FileType
  digest : Digest
  deriving DecidableEq

namespace Fingerprint

/-- All of a fingerprint, as what tells files apart. -/
abbrev self (fingerprint : Fingerprint) : Fingerprint := fingerprint

/-- A fingerprint without its normalized path. -/
def content (fingerprint : Fingerprint) : Content :=
  ⟨fingerprint.digest, fingerprint.fileType⟩

/-- Fingerprints compare by digest, then by normalized path, then by type. -/
def order : Fingerprint → Fingerprint → Ordering :=
  compareLex (orderBy digest Digest.order)
    (compareLex (orderBy normalizedPath Text.order) (orderBy fileType FileType.order))

instance : Std.TransCmp order :=
  inferInstanceAs (Std.TransCmp (compareLex (orderBy digest Digest.order)
    (compareLex (orderBy normalizedPath Text.order) (orderBy fileType FileType.order))))

instance : Std.LawfulEqCmp order where
  compare_self {fingerprint} := by
    simp [order, Std.ReflCmp.compare_self]
  eq_of_compare equal := by
    obtain ⟨digests, others⟩ := compareLex_eq_eq.mp equal
    obtain ⟨paths, fileTypes⟩ := compareLex_eq_eq.mp others
    exact Fingerprint.ext (eq_of_orderBy_eq paths) (eq_of_orderBy_eq fileTypes)
      (eq_of_orderBy_eq digests)

/-- The order as one that could leave fingerprints incomparable; it leaves none. -/
def order? (left right : Fingerprint) : Option Ordering :=
  some (order left right)

instance : LT Fingerprint where
  lt left right := order? left right = some .lt

instance : LE Fingerprint where
  le left right := (order? left right).any Ordering.isLE = true

instance : DecidableLT Fingerprint :=
  fun left right => inferInstanceAs (Decidable (order? left right = some .lt))

instance : DecidableLE Fingerprint :=
  fun left right => inferInstanceAs (Decidable ((order? left right).any Ordering.isLE = true))

/-- The bytes that stand for a fingerprint in key material: those of its
content, then its normalized path behind its length. -/
def material (fingerprint : Fingerprint) : List UInt8 :=
  fingerprint.content.material ++ KeyMaterial.text fingerprint.normalizedPath

end Fingerprint

end Drift
