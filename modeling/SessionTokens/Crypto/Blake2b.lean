import SessionTokens.Crypto.Words

/-!
# Keyed BLAKE2b

The hash function with a key of at most 64 bytes and a digest of any length up to 64 bytes. Main
statement: the digest has the length asked for (`length_digest`).
-/

namespace SessionTokens.Crypto.Blake2b

/-- The chaining value: eight words. -/
abbrev Chain := Vector UInt64 8

/-- Sixteen words: the message block, or the working state of a compression. -/
abbrev Block := Vector UInt64 16

/-- The number of bytes of a message block. -/
def blockSize : Nat := 128

/-- The initial words: the fractional parts of the square roots of the first eight primes. -/
def initialWords : Chain := #v[
  0x6a09e667f3bcc908, 0xbb67ae8584caa73b, 0x3c6ef372fe94f82b, 0xa54ff53a5f1d36f1,
  0x510e527fade682d1, 0x9b05688c2b3e6c1f, 0x1f83d9abfb41bd6b, 0x5be0cd19137e2179]

/-- The order in which each of the ten kinds of round takes the words of the message. -/
def schedules : List (Vector (Fin 16) 16) := [
  #v[0, 1, 2, 3, 4, 5, 6, 7, 8, 9, 10, 11, 12, 13, 14, 15],
  #v[14, 10, 4, 8, 9, 15, 13, 6, 1, 12, 0, 2, 11, 7, 5, 3],
  #v[11, 8, 12, 0, 5, 2, 15, 13, 10, 14, 3, 6, 7, 1, 9, 4],
  #v[7, 9, 3, 1, 13, 12, 11, 14, 2, 6, 5, 10, 4, 0, 15, 8],
  #v[9, 0, 5, 7, 2, 4, 10, 15, 14, 1, 11, 12, 6, 8, 3, 13],
  #v[2, 12, 6, 10, 0, 11, 8, 3, 4, 13, 7, 5, 15, 14, 1, 9],
  #v[12, 5, 1, 15, 14, 13, 4, 10, 0, 7, 6, 3, 9, 2, 8, 11],
  #v[13, 11, 7, 14, 12, 1, 3, 9, 5, 0, 15, 4, 8, 6, 2, 10],
  #v[6, 15, 14, 9, 11, 3, 0, 8, 12, 2, 13, 7, 1, 4, 10, 5],
  #v[10, 2, 8, 4, 7, 6, 1, 5, 15, 11, 9, 14, 3, 12, 13, 0]]

/-- The twelve rounds: after the ten schedules the first two come again. -/
def rounds : List (Vector (Fin 16) 16) :=
  schedules ++ schedules.take 2

/-- Rotates a word to the right. -/
def rotateRight (x n : UInt64) : UInt64 :=
  (x >>> n) ||| (x <<< (64 - n))

/-- Mixes two words of the message into four words of the state. -/
def mix (v : Block) (a b c d : Fin 16) (x y : UInt64) : Block :=
  let va := v.get a + v.get b + x
  let vd := rotateRight (v.get d ^^^ va) 32
  let vc := v.get c + vd
  let vb := rotateRight (v.get b ^^^ vc) 24
  let va := va + vb + y
  let vd := rotateRight (vd ^^^ va) 16
  let vc := vc + vd
  let vb := rotateRight (vb ^^^ vc) 63
  put (put (put (put v a va) b vb) c vc) d vd

/-- One round: the columns of the state, then its diagonals. -/
def round (m v : Block) (s : Vector (Fin 16) 16) : Block :=
  let v := mix v 0 4 8 12 m[s[0]] m[s[1]]
  let v := mix v 1 5 9 13 m[s[2]] m[s[3]]
  let v := mix v 2 6 10 14 m[s[4]] m[s[5]]
  let v := mix v 3 7 11 15 m[s[6]] m[s[7]]
  let v := mix v 0 5 10 15 m[s[8]] m[s[9]]
  let v := mix v 1 6 11 12 m[s[10]] m[s[11]]
  let v := mix v 2 7 8 13 m[s[12]] m[s[13]]
  mix v 3 4 9 14 m[s[14]] m[s[15]]

/-- Folds one block into the chaining value. `counted` is the number of bytes up to its end. -/
def compress (h : Chain) (block : Bytes) (counted : Nat) (last : Bool) : Chain :=
  let m : Block := Vector.ofFn fun i => UInt64.ofNat (wordAt 8 block i)
  let v : Block := h ++ initialWords
  let v := v.set 12 (v[12] ^^^ UInt64.ofNat counted)
  let v := v.set 13 (v[13] ^^^ UInt64.ofNat (counted >>> 64))
  let v := if last then v.set 14 (v[14] ^^^ 0xffffffffffffffff) else v
  let v := rounds.foldl (round m) v
  Vector.ofFn fun i : Fin 8 => h[i] ^^^ v[i.val] ^^^ v[i.val + 8]

/-- Folds all blocks of the data into the chaining value; the last one may be short. -/
def absorb (h : Chain) (counted : Nat) (data : Bytes) : Chain :=
  match _rest : data.drop blockSize with
  | [] => compress h data (counted + data.length) true
  | x :: r =>
    absorb (compress h (data.take blockSize) (counted + blockSize) false) (counted + blockSize)
      (x :: r)
termination_by data.length
decreasing_by
  have hl := congrArg List.length _rest
  simp only [List.length_drop, List.length_cons, blockSize] at hl
  simp only [List.length_cons]
  omega

/-- The chaining value before any data: the digest's length and the key's length are part of it. -/
def initialChain (digestLength keyLength : Nat) : Chain :=
  initialWords.set 0
    (initialWords[0] ^^^ UInt64.ofNat (0x01010000 + 256 * keyLength + digestLength))

/-- A key, filled up to a block. -/
def keyBlock (key : Bytes) : Bytes :=
  key ++ List.replicate (blockSize - key.length) 0

/-- The first `digestLength` bytes of the hash of a message under a key that is not empty. -/
def digest (digestLength : Nat) (key message : Bytes) : Bytes :=
  let h := absorb (initialChain digestLength key.length) 0 (keyBlock key ++ message)
  (h.toList.flatMap fun w => toLittleEndian 8 w.toNat).take digestLength

theorem length_digest {digestLength : Nat} (hd : digestLength ≤ 64) (key message : Bytes) :
    (digest digestLength key message).length = digestLength := by
  simp only [digest, List.length_take, List.length_flatMap, length_toLittleEndian, List.map_const',
    Vector.length_toList, List.sum_replicate_nat]
  omega

end SessionTokens.Crypto.Blake2b
