/-!
# The BLAKE3 digest

The unkeyed BLAKE3 hash of an octet sequence.  The octets are cut into chunks of 1024 and each
chunk into blocks of 64; the chunks are the leaves of a binary tree whose left subtree always
holds the largest power of two of chunks that leaves something for the right one.  Every node is
described by the last compression that it needs, its `Output`, because the root finishes that
compression with a flag of its own.
-/

namespace RunArchive.Blake3

/-- Eight words: a chaining value, or the digest itself. -/
abbrev Words : Type := Vector UInt32 8

/-- Sixteen words: a block, or the state of a compression. -/
abbrev Block : Type := Vector UInt32 16

/-- The initial chaining value. -/
def initial : Words :=
  #v[0x6A09E667, 0xBB67AE85, 0x3C6EF372, 0xA54FF53A, 0x510E527F, 0x9B05688C, 0x1F83D9AB, 0x5BE0CD19]

/-- The place that each message word takes its next value from. -/
def permutation : Vector (Fin 16) 16 :=
  #v[2, 6, 3, 10, 7, 0, 4, 13, 1, 11, 12, 5, 9, 14, 15, 8]

/-- Marks the first block of a chunk. -/
def chunkStart : UInt32 := 1

/-- Marks the last block of a chunk. -/
def chunkEnd : UInt32 := 2

/-- Marks an inner node. -/
def parent : UInt32 := 4

/-- Marks the root. -/
def root : UInt32 := 8

/-- A word rotated to the right. -/
def rotateRight (word : UInt32) (count : UInt32) : UInt32 :=
  (word >>> count) ||| (word <<< (32 - count))

/-- Mixes two message words into four places of the state. -/
def mix (state : Block) (a b c d : Fin 16) (x y : UInt32) : Block :=
  let va := state[a] + state[b] + x
  let vd := rotateRight (state[d] ^^^ va) 16
  let vc := state[c] + vd
  let vb := rotateRight (state[b] ^^^ vc) 12
  let va := va + vb + y
  let vd := rotateRight (vd ^^^ va) 8
  let vc := vc + vd
  let vb := rotateRight (vb ^^^ vc) 7
  (((state.set a va).set b vb).set c vc).set d vd

/-- One round: first the columns of the state, then its diagonals. -/
def mixAll (state message : Block) : Block :=
  let state := mix state 0 4 8 12 message[0] message[1]
  let state := mix state 1 5 9 13 message[2] message[3]
  let state := mix state 2 6 10 14 message[4] message[5]
  let state := mix state 3 7 11 15 message[6] message[7]
  let state := mix state 0 5 10 15 message[8] message[9]
  let state := mix state 1 6 11 12 message[10] message[11]
  let state := mix state 2 7 8 13 message[12] message[13]
  mix state 3 4 9 14 message[14] message[15]

/-- The message of the next round. -/
def permute (message : Block) : Block := permutation.map fun place => message[place]

/-- This many rounds. -/
def rounds : Nat → Block → Block → Block
  | 0, state, _ => state
  | count + 1, state, message => rounds count (mixAll state message) (permute message)

/-- A compression that has not been run yet. -/
structure Output where
  /-- The chaining value that goes in. -/
  chaining : Words
  /-- The block that is compressed. -/
  block : Block
  /-- The number of the chunk, and zero for an inner node. -/
  counter : UInt64
  /-- How many octets of the block are input. -/
  length : UInt32
  /-- What the block is. -/
  flags : UInt32

/-- The eight words that a compression yields under additional flags. -/
def Output.compress (output : Output) (extra : UInt32) : Words :=
  let h := output.chaining
  let state : Block :=
    #v[h[0], h[1], h[2], h[3], h[4], h[5], h[6], h[7],
      initial[0], initial[1], initial[2], initial[3],
      output.counter.toUInt32, (output.counter >>> 32).toUInt32, output.length,
      output.flags ||| extra]
  let state := rounds 7 state output.block
  #v[state[0] ^^^ state[8], state[1] ^^^ state[9], state[2] ^^^ state[10], state[3] ^^^ state[11],
    state[4] ^^^ state[12], state[5] ^^^ state[13], state[6] ^^^ state[14], state[7] ^^^ state[15]]

/-- The chaining value of a node that is not the root. -/
def Output.chain (output : Output) : Words := output.compress 0

/-- The little-endian word at a place of an octet array; octets beyond its end count as zero. -/
def wordAt (octets : Array UInt8) (place : Nat) : UInt32 :=
  let byte (offset : Nat) : UInt32 := (octets.getD (4 * place + offset) 0).toUInt32
  byte 0 ||| (byte 1 <<< 8) ||| (byte 2 <<< 16) ||| (byte 3 <<< 24)

/-- A block from at most 64 octets, filled up with zeros. -/
def blockOf (octets : List UInt8) : Block :=
  let array := octets.toArray
  Vector.ofFn fun place => wordAt array place

/--
Cuts a sequence into pieces of `size + 1` items; the last piece may be shorter, and there is one.
-/
def pieces {α : Type} (size : Nat) (items : List α) : List (List α) :=
  if items.length ≤ size + 1 then [items]
  else items.take (size + 1) :: pieces size (items.drop (size + 1))
termination_by items.length
decreasing_by simp only [List.length_drop]; omega

/-- The compressions of a chunk, behind the given chaining value and first-block mark. -/
def chunkOutput (counter : UInt64) (chaining : Words) (flags : UInt32) : List (List UInt8) → Output
  | [] => ⟨chaining, blockOf [], counter, 0, flags ||| chunkEnd⟩
  | [octets] =>
    ⟨chaining, blockOf octets, counter, UInt32.ofNat octets.length, flags ||| chunkEnd⟩
  | octets :: rest =>
    let output : Output := ⟨chaining, blockOf octets, counter, UInt32.ofNat octets.length, flags⟩
    chunkOutput counter output.chain 0 rest

/-- The leaf of a chunk of at most 1024 octets. -/
def leaf (counter : Nat) (chunk : List UInt8) : Output :=
  chunkOutput (UInt64.ofNat counter) initial chunkStart (pieces 63 chunk)

/-- The inner node over two subtrees. -/
def join (left right : Output) : Output :=
  let l := left.chain
  let r := right.chain
  { chaining := initial
    block := (l ++ r)
    counter := 0
    length := 64
    flags := parent }

/--
The number of chunks in the left subtree over this many chunks, of which there are at least two.
-/
def leftSize (count : Nat) : Nat := Nat.pow 2 (count - 1).log2

/-- The tree over chunks of which the first one has this number. -/
def tree (counter : Nat) (chunks : List (List UInt8)) : Output :=
  if _few : chunks.length ≤ 1 then leaf counter chunks.flatten
  else
    let size := leftSize chunks.length
    join (tree counter (chunks.take size)) (tree (counter + size) (chunks.drop size))
termination_by chunks.length
decreasing_by
  · have below : Nat.pow 2 (chunks.length - 1).log2 ≤ chunks.length - 1 :=
      Nat.log2_self_le (by omega)
    simp only [List.length_take, leftSize]
    omega
  · have positive : 0 < Nat.pow 2 (chunks.length - 1).log2 := Nat.two_pow_pos _
    simp only [List.length_drop, leftSize]
    omega

/-- The digest of an octet sequence. -/
def hash (octets : List UInt8) : Words := (tree 0 (pieces 1023 octets)).compress root

/-- The two hexadecimal digits of an octet. -/
def octetHex (value : UInt32) : List Char :=
  [Nat.digitChar (value.toNat / 16 % 16), Nat.digitChar (value.toNat % 16)]

/-- The eight hexadecimal digits of a word, its lowest octet first. -/
def wordHex (word : UInt32) : List Char :=
  octetHex (word &&& 0xFF) ++ octetHex ((word >>> 8) &&& 0xFF) ++
    octetHex ((word >>> 16) &&& 0xFF) ++ octetHex (word >>> 24)

/-- The digest of an octet sequence as 64 lower-case hexadecimal digits. -/
def hexDigest (octets : List UInt8) : List Char := (hash octets).toList.flatMap wordHex

end RunArchive.Blake3
