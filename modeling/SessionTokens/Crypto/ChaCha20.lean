import SessionTokens.Crypto.Words

/-!
# XChaCha20

A stream cipher with a key of 32 bytes and a nonce of 24 bytes: the first sixteen bytes of the nonce
turn the key into a subkey, the other eight go into the blocks of the key stream. Main statements:
the cipher keeps lengths (`length_xor`) and undoes itself (`xor_xor`).
-/

namespace SessionTokens.Crypto.ChaCha20

/-- The state: four constant words, eight of the key, four of counter and nonce. -/
abbrev State := Vector UInt32 16

/-- Rotates a word to the left. -/
def rotateLeft (x n : UInt32) : UInt32 :=
  (x <<< n) ||| (x >>> (32 - n))

/-- Mixes four words of the state. -/
def quarterRound (v : State) (a b c d : Fin 16) : State :=
  let va := v.get a + v.get b
  let vd := rotateLeft (v.get d ^^^ va) 16
  let vc := v.get c + vd
  let vb := rotateLeft (v.get b ^^^ vc) 12
  let va := va + vb
  let vd := rotateLeft (vd ^^^ va) 8
  let vc := vc + vd
  let vb := rotateLeft (vb ^^^ vc) 7
  put (put (put (put v a va) b vb) c vc) d vd

/-- A round on the columns of the state and one on its diagonals. -/
def doubleRound (v : State) : State :=
  let v := quarterRound v 0 4 8 12
  let v := quarterRound v 1 5 9 13
  let v := quarterRound v 2 6 10 14
  let v := quarterRound v 3 7 11 15
  let v := quarterRound v 0 5 10 15
  let v := quarterRound v 1 6 11 12
  let v := quarterRound v 2 7 8 13
  quarterRound v 3 4 9 14

/-- The twenty rounds. -/
def permute (v : State) : State :=
  Nat.repeat doubleRound 10 v

/-- The state for a key and sixteen bytes of counter and nonce. -/
def initialState (key input : Bytes) : State :=
  Vector.ofFn fun i =>
    if i.val < 4 then #v[0x61707865, 0x3320646e, 0x79622d32, 0x6b206574][i.val % 4]
    else if i.val < 12 then UInt32.ofNat (wordAt 4 key (i.val - 4))
    else UInt32.ofNat (wordAt 4 input (i.val - 12))

/-- The bytes of a list of words. -/
def wordBytes (l : List UInt32) : Bytes :=
  l.flatMap fun w => toLittleEndian 4 w.toNat

/-- One block of the key stream: 64 bytes. -/
def block (key input : Bytes) : Bytes :=
  let v := initialState key input
  wordBytes (Vector.zipWith (· + ·) (permute v) v).toList

/-- The subkey for sixteen bytes of nonce. -/
def subkey (key input : Bytes) : Bytes :=
  let l := (permute (initialState key input)).toList
  wordBytes (l.take 4 ++ l.drop 12)

/-- The first `count` blocks of the key stream for a key and a nonce of 24 bytes. -/
def keyStream (key nonce : Bytes) (count : Nat) : Bytes :=
  let inner := subkey key (nonce.take 16)
  (List.range count).flatMap fun i => block inner (toLittleEndian 8 i ++ nonce.drop 16)

/-- Encrypts or decrypts. -/
def xor (key nonce data : Bytes) : Bytes :=
  List.zipWith (· ^^^ ·) data (keyStream key nonce ((data.length + 63) / 64))

@[simp] theorem length_wordBytes (l : List UInt32) : (wordBytes l).length = 4 * l.length := by
  simp only [wordBytes, List.length_flatMap, length_toLittleEndian, List.map_const',
    List.sum_replicate_nat]
  omega

@[simp] theorem length_block (key input : Bytes) : (block key input).length = 64 := by
  simp only [block, length_wordBytes, Vector.length_toList]

@[simp] theorem length_keyStream (key nonce : Bytes) (count : Nat) :
    (keyStream key nonce count).length = 64 * count := by
  simp only [keyStream, List.length_flatMap, length_block, List.map_const', List.length_range,
    List.sum_replicate_nat]
  omega

@[simp] theorem length_xor (key nonce data : Bytes) : (xor key nonce data).length = data.length := by
  simp only [xor, List.length_zipWith, length_keyStream]
  omega

private theorem zipWith_xor_self {a k : Bytes} (h : a.length ≤ k.length) :
    List.zipWith (· ^^^ ·) (List.zipWith (· ^^^ ·) a k) k = a := by
  induction a generalizing k with
  | nil => simp
  | cons x a ih =>
    cases k with
    | nil => simp at h
    | cons y k =>
      have hx : x ^^^ y ^^^ y = x := by rw [UInt8.xor_assoc, UInt8.xor_self, UInt8.xor_zero]
      simp [hx, ih (by simpa using h)]

theorem xor_xor (key nonce data : Bytes) : xor key nonce (xor key nonce data) = data := by
  rw [xor, length_xor]
  exact zipWith_xor_self (by rw [length_keyStream]; omega)

end SessionTokens.Crypto.ChaCha20
