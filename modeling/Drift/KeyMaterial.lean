import Drift.Text.Utf8

/-!
# Key material

The bytes that go into a digest. A text is written as its length, eight bytes
with the lowest first, and then its UTF-8 bytes, so that neighbouring texts
cannot run into each other.
-/

namespace Drift.KeyMaterial

/-- The lowest bytes of a number, the lowest first. -/
def littleEndian : Nat → Nat → List UInt8
  | 0, _ => []
  | count + 1, value => value.toUInt8 :: littleEndian count (value / 256)

@[simp] theorem length_littleEndian (count value : Nat) :
    (littleEndian count value).length = count := by
  induction count generalizing value with
  | zero => rfl
  | succ count ih => simp [littleEndian, ih]

/-- A text behind its length in bytes. -/
def text (value : String) : List UInt8 :=
  littleEndian 8 value.utf8ByteSize ++ Text.utf8 value

end Drift.KeyMaterial
