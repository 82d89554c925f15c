/-!
# BLAKE3

The BLAKE3 hash of a byte string, 256 bits long. The input is cut into chunks of 1024 bytes, each
chunk is compressed block by block, and the chunks are joined pairwise: of two or more chunks, the
left part holds the greatest power of two that is less than their number.
-/

namespace Rollout.Blake3

/-- The initial chaining value. -/
def initial : Vector UInt32 8 :=
  #v[0x6A09E667, 0xBB67AE85, 0x3C6EF372, 0xA54FF53A, 0x510E527F, 0x9B05688C, 0x1F83D9AB,
    0x5BE0CD19]

/-- The flag of the first block of a chunk. -/
def chunkStart : UInt32 := 1

/-- The flag of the last block of a chunk. -/
def chunkEnd : UInt32 := 2

/-- The flag of a block that joins two nodes. -/
def joins : UInt32 := 4

/-- The flag of the last block of all. -/
def root : UInt32 := 8

/-- A word rotated to the right. -/
def rotate (x : UInt32) (n : UInt32) : UInt32 :=
  (x >>> n) ||| (x <<< (32 - n))

/-- Mixes two words of the block into four words of the state. -/
def mix (s : Vector UInt32 16) (a b c d : Fin 16) (x y : UInt32) : Vector UInt32 16 :=
  let va := s[a] + s[b] + x
  let vd := rotate (s[d] ^^^ va) 16
  let vc := s[c] + vd
  let vb := rotate (s[b] ^^^ vc) 12
  let va := va + vb + y
  let vd := rotate (vd ^^^ va) 8
  let vc := vc + vd
  let vb := rotate (vb ^^^ vc) 7
  (((s.set a va).set b vb).set c vc).set d vd

/-- One round: the columns of the state, then its diagonals. -/
def round (s m : Vector UInt32 16) : Vector UInt32 16 :=
  let s := mix s 0 4 8 12 m[0] m[1]
  let s := mix s 1 5 9 13 m[2] m[3]
  let s := mix s 2 6 10 14 m[4] m[5]
  let s := mix s 3 7 11 15 m[6] m[7]
  let s := mix s 0 5 10 15 m[8] m[9]
  let s := mix s 1 6 11 12 m[10] m[11]
  let s := mix s 2 7 8 13 m[12] m[13]
  mix s 3 4 9 14 m[14] m[15]

/-- The words of a block in the order of the next round. -/
def permute (m : Vector UInt32 16) : Vector UInt32 16 :=
  #v[m[2], m[6], m[3], m[10], m[7], m[0], m[4], m[13], m[1], m[11], m[12], m[5], m[9], m[14],
    m[15], m[8]]

/-- A number of rounds, with the block permuted between them. -/
def rounds : Nat → Vector UInt32 16 → Vector UInt32 16 → Vector UInt32 16
  | 0, s, _ => s
  | n + 1, s, m => rounds n (round s m) (permute m)

/-- One block, ready to be compressed. -/
structure Block where
  chaining : Vector UInt32 8
  words : Vector UInt32 16
  counter : Nat
  length : Nat
  flags : UInt32

/-- The chaining value that compression gives: seven rounds, then the halves of the state joined. -/
def Block.compress (b : Block) (further : UInt32) : Vector UInt32 8 :=
  let h := b.chaining
  let s : Vector UInt32 16 :=
    #v[h[0], h[1], h[2], h[3], h[4], h[5], h[6], h[7], initial[0], initial[1], initial[2],
      initial[3], UInt32.ofNat b.counter, UInt32.ofNat (b.counter >>> 32),
      UInt32.ofNat b.length, b.flags ||| further]
  let s := rounds 7 s b.words
  Vector.ofFn fun i : Fin 8 => s[i.val] ^^^ s[i.val + 8]

/-- The word at a place of a block's bytes, least significant byte first; missing bytes are
zero. -/
def wordAt (bytes : Array UInt8) (start : Nat) : UInt32 :=
  let byte (i : Nat) : UInt32 := (bytes.getD (start + i) 0).toUInt32
  byte 0 ||| (byte 1 <<< 8) ||| (byte 2 <<< 16) ||| (byte 3 <<< 24)

/-- The words of up to 64 bytes. -/
def wordsOf (bytes : Array UInt8) : Vector UInt32 16 :=
  Vector.ofFn fun i => wordAt bytes (4 * i.val)

/-- The last block of a chunk, all blocks before it being compressed. -/
def lastBlock (counter : Nat) (chaining : Vector UInt32 8) (flags : UInt32) (bytes : Array UInt8) :
    Block :=
  if bytes.size ≤ 64 then
    ⟨chaining, wordsOf bytes, counter, bytes.size, flags ||| chunkEnd⟩
  else
    let first : Block := ⟨chaining, wordsOf (bytes.extract 0 64), counter, 64, flags⟩
    lastBlock counter (first.compress 0) 0 (bytes.extract 64 bytes.size)
termination_by bytes.size
decreasing_by
  simp only [Array.size_extract]
  omega

/-- The last block of a chunk with its place among the chunks. -/
def ofChunk (counter : Nat) (bytes : Array UInt8) : Block :=
  lastBlock counter initial chunkStart bytes

/-- The block that joins two nodes. -/
def join (left right : Vector UInt32 8) : Block :=
  ⟨initial, left ++ right, 0, 64, joins⟩

/-- The greatest power of two, from `p` on, whose double is not less than `n`. -/
def leftCount (n : Nat) : Nat → Nat → Nat
  | 0, p => p
  | steps + 1, p => if 2 * p < n then leftCount n steps (2 * p) else p

/-- The left part of a tree is never empty. -/
theorem leftCount_pos (n steps p : Nat) (h : 0 < p) : 0 < leftCount n steps p := by
  induction steps generalizing p with
  | zero => exact h
  | succ s ih =>
    unfold leftCount
    split
    · exact ih _ (by omega)
    · exact h

/-- The number of bytes in the left part of more than one chunk. -/
def leftSize (size : Nat) : Nat :=
  let chunks := (size + 1023) / 1024
  min (1024 * leftCount chunks chunks 1) (size - 1)

/-- The block on top of the tree over the bytes, whose first chunk has the place `counter`. -/
def top (counter : Nat) (bytes : Array UInt8) : Block :=
  if _h : bytes.size ≤ 1024 then ofChunk counter bytes
  else
    let left := leftSize bytes.size
    join ((top counter (bytes.extract 0 left)).compress 0)
      ((top (counter + left / 1024) (bytes.extract left bytes.size)).compress 0)
termination_by bytes.size
decreasing_by
  · simp only [Array.size_extract, leftSize]
    omega
  · have := leftCount_pos ((bytes.size + 1023) / 1024) ((bytes.size + 1023) / 1024) 1 (by omega)
    simp only [Array.size_extract, leftSize]
    omega

/-- The hash of a byte string in lower-case hexadecimal. -/
def hash (bytes : ByteArray) : String :=
  let words := (top 0 bytes.data).compress root
  let byteText (n : Nat) : List Char :=
    [Nat.digitChar (n / 16 % 16), Nat.digitChar (n % 16)]
  String.ofList (words.toList.flatMap fun w =>
    let n := w.toNat
    byteText n ++ byteText (n >>> 8) ++ byteText (n >>> 16) ++ byteText (n >>> 24))

end Rollout.Blake3
