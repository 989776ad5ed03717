import DriverAlerts.Number.Hex
/-!
# BLAKE3

The digest of a byte sequence. The sequence is cut into chunks of 1024 bytes, a chunk into blocks of 64
bytes, and each block is compressed together with the chaining value so far. The chunks are the leaves
of a binary tree whose left subtrees are complete, and an inner node compresses the chaining values of
its two subtrees. The digest is taken from the last compression at the root of the tree.
-/

namespace DriverAlerts.Blake3

/-- Eight words that are handed from one compression to the next. -/
abbrev Chain := Vector UInt32 8

/-- Sixteen words: a block of the message, or the state of a compression. -/
abbrev Block := Vector UInt32 16

def startChain : Chain :=
  #v[0x6A09E667, 0xBB67AE85, 0x3C6EF372, 0xA54FF53A, 0x510E527F, 0x9B05688C, 0x1F83D9AB, 0x5BE0CD19]

/-! ### Flags -/

def chunkStart : UInt32 := 1
def chunkEnd : UInt32 := 2
def parent : UInt32 := 4
def root : UInt32 := 8

/-! ### Compression -/

def rotateRight (w : UInt32) (n : UInt32) : UInt32 :=
  (w >>> n) ||| (w <<< (32 - n))

/-- Mixes two words of the message into four words of the state. -/
def mix (v : Block) (a b c d : Fin 16) (x y : UInt32) : Block :=
  let v := v.set a (v[a] + v[b] + x)
  let v := v.set d (rotateRight (v[d] ^^^ v[a]) 16)
  let v := v.set c (v[c] + v[d])
  let v := v.set b (rotateRight (v[b] ^^^ v[c]) 12)
  let v := v.set a (v[a] + v[b] + y)
  let v := v.set d (rotateRight (v[d] ^^^ v[a]) 8)
  let v := v.set c (v[c] + v[d])
  v.set b (rotateRight (v[b] ^^^ v[c]) 7)

/-- Mixes a whole block into the state, first its columns and then its diagonals. -/
def round (m v : Block) : Block :=
  let v := mix v 0 4 8 12 m[0] m[1]
  let v := mix v 1 5 9 13 m[2] m[3]
  let v := mix v 2 6 10 14 m[4] m[5]
  let v := mix v 3 7 11 15 m[6] m[7]
  let v := mix v 0 5 10 15 m[8] m[9]
  let v := mix v 1 6 11 12 m[10] m[11]
  let v := mix v 2 7 8 13 m[12] m[13]
  mix v 3 4 9 14 m[14] m[15]

/-- The order in which the next round takes the words of a block. -/
def permutation : Vector (Fin 16) 16 :=
  #v[2, 6, 3, 10, 7, 0, 4, 13, 1, 11, 12, 5, 9, 14, 15, 8]

def permute (m : Block) : Block :=
  permutation.map fun i => m[i]

/-- Some rounds, the block being permuted between them. -/
def rounds : Nat → Block → Block → Block
  | 0, _, v => v
  | n + 1, m, v => rounds n (permute m) (round m v)

/-- All that one compression takes in. -/
structure Node where
  chain : Chain
  block : Block
  /-- The number of the chunk. -/
  counter : UInt64
  /-- How many bytes of the block are part of the message. -/
  length : UInt32
  flags : UInt32

namespace Node

def state (node : Node) : Block :=
  node.chain ++ #v[
    startChain[0], startChain[1], startChain[2], startChain[3],
    node.counter.toUInt32, (node.counter >>> 32).toUInt32, node.length, node.flags]

/-- The chaining value of a node. -/
def compress (node : Node) : Chain :=
  let v := rounds 7 node.block node.state
  .ofFn fun i : Fin 8 => v[i.val] ^^^ v[i.val + 8]

end Node

/-! ### Chunks -/

def wordOfBytes (bytes : List UInt8) : UInt32 :=
  bytes.foldr (fun byte word => word <<< 8 ||| byte.toUInt32) 0

/-- The words of at most 64 bytes, filled up with zeros. -/
def blockOfBytes (bytes : List UInt8) : Block :=
  .ofFn fun i : Fin 16 => wordOfBytes ((bytes.drop (4 * i.val)).take 4)

/-- The pieces of a list, each of the same positive size but for the last. -/
def pieces {α : Type} (size : Nat) (list : List α) : List (List α) :=
  if _h : size = 0 ∨ list = [] then []
  else list.take size :: pieces size (list.drop size)
termination_by list.length
decreasing_by
  have : 0 < list.length := List.length_pos_iff.2 fun e => _h (.inr e)
  simp only [List.length_drop]
  omega

/-- The last node of a chunk whose first block carries the flags given. -/
def chunkNode (counter : UInt64) : UInt32 → Chain → List (List UInt8) → Node
  | flags, chain, [] => ⟨chain, blockOfBytes [], counter, 0, flags ||| chunkEnd⟩
  | flags, chain, [block] =>
    ⟨chain, blockOfBytes block, counter, UInt32.ofNat block.length, flags ||| chunkEnd⟩
  | flags, chain, block :: next :: blocks =>
    let node : Node := ⟨chain, blockOfBytes block, counter, UInt32.ofNat block.length, flags⟩
    chunkNode counter 0 node.compress (next :: blocks)

/-! ### The tree -/

def parentNode (left right : Chain) : Node :=
  ⟨startChain, left ++ right, 0, 64, parent⟩

/-- How many of at least two chunks stand in the left subtree: the greatest power of two that leaves
some for the right one. -/
def leftChunks (count : Nat) : Nat :=
  Nat.pow 2 (count - 1).log2

theorem leftChunks_lt {count : Nat} (h : 2 ≤ count) : leftChunks count < count := by
  have : leftChunks count ≤ count - 1 := Nat.log2_self_le (by omega)
  omega

theorem leftChunks_pos (count : Nat) : 0 < leftChunks count :=
  Nat.pow_pos (by decide)

/-- The node over chunks that start with the one numbered `first`. -/
def treeNode (first : Nat) : List (List UInt8) → Node
  | [] => chunkNode (UInt64.ofNat first) chunkStart startChain []
  | [chunk] => chunkNode (UInt64.ofNat first) chunkStart startChain (pieces 64 chunk)
  | a :: b :: chunks =>
    let left := leftChunks (chunks.length + 2)
    parentNode
      (treeNode first ((a :: b :: chunks).take left)).compress
      (treeNode (first + left) ((a :: b :: chunks).drop left)).compress
termination_by chunks => chunks.length
decreasing_by
  all_goals
    have := @leftChunks_lt (chunks.length + 2) (by omega)
    have := leftChunks_pos (chunks.length + 2)
    simp only [List.length_take, List.length_drop, List.length_cons]
    omega

/-- The first 32 bytes of output, as words. -/
def digest (message : List UInt8) : Chain :=
  let node := treeNode 0 (pieces 1024 message)
  { node with flags := node.flags ||| root }.compress

/-! ### Hexadecimal text -/

/-- The bytes of a word, the lowest first. -/
def bytesOfWord (word : UInt32) : List UInt8 :=
  [word.toUInt8, (word >>> 8).toUInt8, (word >>> 16).toUInt8, (word >>> 24).toUInt8]

/-- The digest in hexadecimal digits. -/
def hexDigest (message : List UInt8) : String :=
  String.ofList ((digest message).toList.flatMap fun word => (bytesOfWord word).flatMap Number.Hex.ofByte)

end DriverAlerts.Blake3
