/-!
# The BLAKE3 compression function

Seven rounds mix a sixteen-word state, made of a chaining value, the
initialisation vector and the block's position, with the sixteen words of one
block. Additions wrap at thirty-two bits.
-/

namespace Drift.Blake3

/-- Eight words that carry the hash from block to block and up the tree. -/
abbrev ChainingValue := Vector UInt32 8

/-- Sixteen words, either of a block or of the mixing state. -/
abbrev Block := Vector UInt32 16

/-- The initialisation vector, which also is the key of the unkeyed hash. -/
def initial : ChainingValue :=
  #v[0x6A09E667, 0xBB67AE85, 0x3C6EF372, 0xA54FF53A,
     0x510E527F, 0x9B05688C, 0x1F83D9AB, 0x5BE0CD19]

/-- Where each word of the next round's block comes from. -/
def permutation : Vector (Fin 16) 16 :=
  #v[2, 6, 3, 10, 7, 0, 4, 13, 1, 11, 12, 5, 9, 14, 15, 8]

/-- Rotation of a word to the right by fewer than thirty-two places. -/
def rotateRight (word count : UInt32) : UInt32 :=
  word >>> count ||| word <<< (32 - count)

/-- Mixes two block words into four state words. -/
def mix (state : Block) (a b c d : Fin 16) (first second : UInt32) : Block :=
  let wordA := state[a] + state[b] + first
  let wordD := rotateRight (state[d] ^^^ wordA) 16
  let wordC := state[c] + wordD
  let wordB := rotateRight (state[b] ^^^ wordC) 12
  let wordA := wordA + wordB + second
  let wordD := rotateRight (wordD ^^^ wordA) 8
  let wordC := wordC + wordD
  let wordB := rotateRight (wordB ^^^ wordC) 7
  (((state.set a wordA).set b wordB).set c wordC).set d wordD

/-- One round: the columns of the state are mixed, then its diagonals. -/
def round (state block : Block) : Block :=
  let state := mix state 0 4 8 12 block[0] block[1]
  let state := mix state 1 5 9 13 block[2] block[3]
  let state := mix state 2 6 10 14 block[4] block[5]
  let state := mix state 3 7 11 15 block[6] block[7]
  let state := mix state 0 5 10 15 block[8] block[9]
  let state := mix state 1 6 11 12 block[10] block[11]
  let state := mix state 2 7 8 13 block[12] block[13]
  mix state 3 4 9 14 block[14] block[15]

/-- Runs some rounds, permuting the block after each. -/
def rounds : Nat → Block → Block → Block
  | 0, state, _ => state
  | count + 1, state, block =>
      rounds count (round state block) (permutation.map fun position => block[position])

/-- What a block's compression knows besides its words: the number of its
chunk, its length in bytes and its place in the tree. -/
structure Position where
  counter : UInt64
  length : UInt32
  flags : UInt32

/-- The compression function, cut to its first eight words. -/
def compress (value : ChainingValue) (block : Block) (position : Position) : ChainingValue :=
  let start := value ++ initial.take 4 ++
    #v[position.counter.toUInt32, (position.counter >>> 32).toUInt32,
       position.length, position.flags]
  let final := rounds 7 start block
  Vector.ofFn fun index : Fin 8 => final[index.val] ^^^ final[index.val + 8]

end Drift.Blake3
