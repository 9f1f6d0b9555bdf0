import Drift.Blake3.Compression

/-!
# The BLAKE3 hash of a byte list

The input is cut into chunks of 1024 bytes, the leaves of a binary tree whose
left subtrees are full. A chunk is a chain of 64-byte blocks; a parent is one
block of its children's chaining values. The last compression of the root is
flagged as such and yields the hash.
-/

namespace Drift.Blake3

/-- Bytes in a block. -/
def blockLength : Nat := 64

/-- Bytes in a chunk. -/
def chunkLength : Nat := 1024

/-- Marks the first block of a chunk. -/
def chunkStart : UInt32 := 1

/-- Marks the last block of a chunk. -/
def chunkEnd : UInt32 := 2

/-- Marks a block of two chaining values. -/
def parent : UInt32 := 4

/-- Marks the compression that yields the hash. -/
def root : UInt32 := 8

/-- The little-endian word of four bytes of an array; bytes past its end count
as zero. -/
def wordAt (bytes : Array UInt8) (index : Nat) : UInt32 :=
  (bytes[index]?.getD 0).toUInt32 ||| (bytes[index + 1]?.getD 0).toUInt32 <<< 8 |||
    (bytes[index + 2]?.getD 0).toUInt32 <<< 16 ||| (bytes[index + 3]?.getD 0).toUInt32 <<< 24

/-- The sixteen words of at most 64 bytes, filled up with zeros. -/
def blockOfBytes (bytes : List UInt8) : Block :=
  let array := bytes.toArray
  Vector.ofFn fun index : Fin 16 => wordAt array (4 * index.val)

/-- The little-endian bytes of a word. -/
def bytesOfWord (word : UInt32) : List UInt8 :=
  [word.toUInt8, (word >>> 8).toUInt8, (word >>> 16).toUInt8, (word >>> 24).toUInt8]

/-- A subtree before its last compression, which differs for the root. -/
structure Node where
  value : ChainingValue
  block : Block
  position : Position

/-- What a subtree hands to its parent. -/
def Node.chainingValue (node : Node) : ChainingValue :=
  compress node.value node.block node.position

/-- The words of the hash, if the node is the root. -/
def Node.rootWords (node : Node) : ChainingValue :=
  compress node.value node.block
    { node.position with counter := 0, flags := node.position.flags ||| root }

/-- Runs the blocks of a chunk from a chaining value on; `flags` marks the
first block that is left. -/
def chunkFrom (counter : UInt64) (value : ChainingValue) (flags : UInt32)
    (bytes : List UInt8) : Node :=
  if blockLength < bytes.length then
    let next := compress value (blockOfBytes (bytes.take blockLength))
      ⟨counter, UInt32.ofNat blockLength, flags⟩
    chunkFrom counter next 0 (bytes.drop blockLength)
  else
    ⟨value, blockOfBytes bytes, counter, UInt32.ofNat bytes.length, flags ||| chunkEnd⟩
termination_by bytes.length
decreasing_by simp_all [blockLength]; omega

/-- The node of one chunk, which is number `counter` of the input. -/
def chunk (counter : Nat) (bytes : List UInt8) : Node :=
  chunkFrom (UInt64.ofNat counter) initial chunkStart bytes

/-- The node over two subtrees. -/
def join (left right : Node) : Node where
  value := initial
  block := left.chainingValue ++ right.chainingValue
  position := ⟨0, UInt32.ofNat blockLength, parent⟩

/-- Chunks in the left subtree of an input of more than one chunk: the largest
power of two that leaves a byte for the right one. -/
def leftChunks (length : Nat) : Nat :=
  Nat.pow 2 ((length - 1) / chunkLength).log2

theorem leftChunks_pos (length : Nat) : 0 < leftChunks length :=
  Nat.two_pow_pos _

theorem leftChunks_lt {length : Nat} (large : chunkLength < length) :
    chunkLength * leftChunks length < length := by
  have positive : (length - 1) / chunkLength ≠ 0 := by
    have : chunkLength ≤ length - 1 := by omega
    have := Nat.div_pos this (by decide)
    omega
  have power : leftChunks length ≤ (length - 1) / chunkLength := Nat.log2_self_le positive
  have := Nat.mul_le_mul_left chunkLength power
  have := Nat.mul_div_le (length - 1) chunkLength
  omega

/-- The node of the input whose first chunk has number `counter`. -/
def subtree (counter : Nat) (bytes : List UInt8) : Node :=
  if chunkLength < bytes.length then
    let chunks := leftChunks bytes.length
    join (subtree counter (bytes.take (chunkLength * chunks)))
      (subtree (counter + chunks) (bytes.drop (chunkLength * chunks)))
  else
    chunk counter bytes
termination_by bytes.length
decreasing_by
  · have := leftChunks_lt ‹_›
    simp only [List.length_take]
    omega
  · have := leftChunks_pos bytes.length
    simp only [List.length_drop, chunkLength] at *
    omega

/-- The 32-byte hash of some bytes. -/
def hash (bytes : List UInt8) : List UInt8 :=
  (subtree 0 bytes).rootWords.toList.flatMap bytesOfWord

@[simp] theorem length_hash (bytes : List UInt8) : (hash bytes).length = 32 := by
  simp [hash, List.length_flatMap, bytesOfWord, List.map_const']

end Drift.Blake3
