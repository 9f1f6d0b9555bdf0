import Drift.Blake3.Tree
import Drift.Hex
import Drift.Sorting
import Drift.Text.Quoted
import Drift.Text.Utf8

/-!
# Content digests

A digest is 32 bytes, here always the BLAKE3 hash of something. Digests are
written as 64 lower-case hexadecimal digits and compared byte by byte.
-/

namespace Drift

/-- A 32-byte digest. -/
@[ext] structure Digest where
  bytes : List UInt8
  length_bytes : bytes.length = 32
  deriving DecidableEq

namespace Digest

/-- The BLAKE3 digest of some bytes. -/
def ofContent (bytes : List UInt8) : Digest :=
  ⟨Blake3.hash bytes, Blake3.length_hash bytes⟩

/-- Digests compare by their bytes, the first differing one deciding. -/
def order : Digest → Digest → Ordering :=
  orderBy Digest.bytes compare

instance : Std.TransCmp order :=
  inferInstanceAs (Std.TransCmp (orderBy Digest.bytes compare))

instance : Std.LawfulEqCmp order :=
  lawfulEqCmp_orderBy Digest.ext

/-- The 64 lower-case hexadecimal digits of a digest. -/
def toHex (digest : Digest) : String :=
  String.ofList (Hex.encode digest.bytes)

/-- Why a text is not the hexadecimal form of a digest. -/
inductive HexFault where
  | wrongLength (bytes : Nat)
  | badDigit (text : String) (digit : Hex.BadDigit)
  deriving DecidableEq, Repr

namespace HexFault

/-- What went wrong, in one line. -/
def message : HexFault → String
  | wrongLength bytes => s!"Invalid hex length: expected 64 characters, got {bytes}"
  | badDigit text _ => s!"Invalid hex hash: {text}"

/-- The underlying cause, where there is one. -/
def cause? : HexFault → Option String
  | wrongLength _ => none
  | badDigit _ digit =>
      some s!"Invalid character {Text.quotedByte digit.byte} at position {digit.position}"

/-- The message followed by its causes. -/
def chain (fault : HexFault) : List String :=
  fault.message :: fault.cause?.toList

end HexFault

/-- Reads a digest from 64 bytes of text that are hexadecimal digits of either
case. The length is checked before any digit. -/
def ofHex (text : String) : Except HexFault Digest :=
  if long : (Text.utf8 text).length = 64 then
    match decoded : Hex.decode (Text.utf8 text) with
    | .ok bytes => .ok ⟨bytes, by rw [Hex.length_of_decode decoded, long]⟩
    | .error digit => .error (.badDigit text digit)
  else
    .error (.wrongLength (Text.utf8 text).length)

end Digest

end Drift
