set_option autoImplicit false

/-!
BLAKE3 without a key. The input is cut into chunks of 1024 bytes and each chunk into blocks of
64; a chunk is hashed block after block, neighbouring chunks are joined in pairs until one node
is left, and that node, marked as the root, yields the digest. A node that has no neighbour
passes unchanged to the next level, so the left part of the tree is always a full one.
-/
namespace CodeReview.Hash.Blake3

abbrev Words (n : Nat) := Vector UInt32 n

def start : Words 8 :=
  #v[0x6a09e667, 0xbb67ae85, 0x3c6ef372, 0xa54ff53a,
    0x510e527f, 0x9b05688c, 0x1f83d9ab, 0x5be0cd19]

def schedule : Vector (Fin 16) 16 :=
  #v[2, 6, 3, 10, 7, 0, 4, 13, 1, 11, 12, 5, 9, 14, 15, 8]

def chunkStart : UInt32 := 1
def chunkEnd : UInt32 := 2
def parent : UInt32 := 4
def root : UInt32 := 8

def rotate (x : UInt32) (k : UInt32) : UInt32 :=
  (x >>> k) ||| (x <<< (32 - k))

def mix (v : Words 16) (a b c d : Fin 16) (x y : UInt32) : Words 16 :=
  let va := v[a] + v[b] + x
  let vd := rotate (v[d] ^^^ va) 16
  let vc := v[c] + vd
  let vb := rotate (v[b] ^^^ vc) 12
  let va := va + vb + y
  let vd := rotate (vd ^^^ va) 8
  let vc := vc + vd
  let vb := rotate (vb ^^^ vc) 7
  (((v.set a va).set b vb).set c vc).set d vd

/-- One round: the four columns, then the four diagonals. -/
def round (v m : Words 16) : Words 16 :=
  let v := mix v 0 4 8 12 m[0] m[1]
  let v := mix v 1 5 9 13 m[2] m[3]
  let v := mix v 2 6 10 14 m[4] m[5]
  let v := mix v 3 7 11 15 m[6] m[7]
  let v := mix v 0 5 10 15 m[8] m[9]
  let v := mix v 1 6 11 12 m[10] m[11]
  let v := mix v 2 7 8 13 m[12] m[13]
  mix v 3 4 9 14 m[14] m[15]

def rounds : Nat → Words 16 → Words 16 → Words 16
  | 0, v, _ => v
  | n + 1, v, m => rounds n (round v m) (schedule.map fun i => m[i])

/-- What is compressed: the chain so far, a block, its number and length, and its marks. -/
structure Node where
  chain : Words 8
  block : Words 16
  counter : Nat
  length : Nat
  marks : UInt32

def Node.compress (n : Node) (marks : UInt32) : Words 16 :=
  let v : Words 16 := n.chain ++ (#v[start[0], start[1], start[2], start[3],
    UInt32.ofNat n.counter, UInt32.ofNat (n.counter / UInt32.size), UInt32.ofNat n.length,
    n.marks ||| marks] : Words 8)
  let v := rounds 7 v n.block
  Vector.ofFn fun i =>
    if h : i.val < 8 then v.get ⟨i.val, by omega⟩ ^^^ v.get ⟨i.val + 8, by omega⟩
    else v.get ⟨i.val, by omega⟩ ^^^ n.chain.get ⟨i.val - 8, by omega⟩

def Node.value (n : Node) : Words 8 :=
  let w := n.compress 0
  Vector.ofFn fun i => w.get ⟨i.val, by omega⟩

def word (bs : ByteArray) (i : Nat) : UInt32 :=
  let byte (k : Nat) : UInt32 := if h : k < bs.size then bs[k].toUInt32 else 0
  byte i ||| (byte (i + 1) <<< 8) ||| (byte (i + 2) <<< 16) ||| (byte (i + 3) <<< 24)

/-- The block at an offset, zeros after the end of the input. -/
def blockAt (bs : ByteArray) (offset : Nat) : Words 16 :=
  Vector.ofFn fun i => word bs (offset + 4 * i.val)

/-- The last node of a chunk, after the blocks from the given one on. -/
def blocks (chunk : ByteArray) (counter : Nat) : Nat → Nat → Words 8 → Node
  | 0, i, chain => ⟨chain, blockAt chunk (64 * i), counter, chunk.size - 64 * i,
      (if i = 0 then chunkStart else 0) ||| chunkEnd⟩
  | left + 1, i, chain =>
    blocks chunk counter left (i + 1)
      (Node.value ⟨chain, blockAt chunk (64 * i), counter, 64, if i = 0 then chunkStart else 0⟩)

def chunkNode (chunk : ByteArray) (counter : Nat) : Node :=
  blocks chunk counter ((chunk.size - 1) / 64) 0 start

/-- The chunks of an input; an empty input has one empty chunk. -/
def chunks (bs : ByteArray) : List Node :=
  (List.range ((bs.size - 1) / 1024 + 1)).map fun i =>
    chunkNode (bs.extract (1024 * i) (1024 * (i + 1))) i

def join (l r : Node) : Node :=
  ⟨start, l.value ++ r.value, 0, 64, parent⟩

def joinPairs : List Node → List Node
  | l :: r :: rest => join l r :: joinPairs rest
  | rest => rest

theorem length_joinPairs_le (ns : List Node) : (joinPairs ns).length ≤ ns.length := by
  fun_induction joinPairs ns with
  | case1 l r rest ih => simp; omega
  | case2 => simp

def tree (first : Node) : List Node → Node
  | [] => first
  | second :: rest =>
    let left := join first second
    tree left (joinPairs rest)
termination_by rest => rest.length
decreasing_by
  have := length_joinPairs_le rest
  simp; omega

def wordBytes (w : UInt32) : List UInt8 :=
  [w.toUInt8, (w >>> 8).toUInt8, (w >>> 16).toUInt8, (w >>> 24).toUInt8]

theorem length_flatMap_wordBytes (ws : List UInt32) :
    (ws.flatMap wordBytes).length = 4 * ws.length := by
  induction ws with
  | nil => rfl
  | cons w ws ih => simp [List.flatMap_cons, wordBytes, ih]; omega

/-- The sixty-four bytes of the root, from which digests of up to that length are cut. -/
def rootBytes (bs : ByteArray) : List UInt8 :=
  let node := match chunks bs with
    | [] => chunkNode bs 0
    | n :: ns => tree n ns
  (Node.compress { node with counter := 0 } root).toList.flatMap wordBytes

theorem length_rootBytes (bs : ByteArray) : (rootBytes bs).length = 64 := by
  simp only [rootBytes, length_flatMap_wordBytes, Vector.length_toList]

def digest (size : Nat) (bs : List UInt8) : List UInt8 :=
  (rootBytes (ByteArray.mk bs.toArray)).take size

theorem length_digest {size : Nat} (h : size ≤ 64) (bs : List UInt8) :
    (digest size bs).length = size := by
  simp [digest, length_rootBytes, h]

end CodeReview.Hash.Blake3
