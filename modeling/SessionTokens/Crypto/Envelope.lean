import SessionTokens.Crypto.Blake2b
import SessionTokens.Crypto.ChaCha20

/-!
# Sealed envelopes

Authenticated encryption under a key of 32 bytes. An envelope is a nonce of 32 bytes, the ciphertext
and a tag of 32 bytes, which covers the header, the nonce and the ciphertext. Main statements: what
was sealed is opened again (`unwrap?_wrap`), and only what was sealed under the key can be opened
(`eq_wrap_of_unwrap?`).
-/

namespace SessionTokens.Crypto

/-- A key: 32 bytes. -/
structure SealingKey where
  bytes : Bytes
  length_bytes : bytes.length = 32

/-- A nonce: 32 bytes that serve one envelope. -/
structure Nonce where
  bytes : Bytes
  length_bytes : bytes.length = 32

/-- The key of the given bytes, if there are 32 of them. -/
def SealingKey.ofBytes? (b : Bytes) : Option SealingKey :=
  if h : b.length = 32 then some ⟨b, h⟩ else none

namespace Envelope

/-- The text in front of every envelope: its version and purpose. -/
def header : String :=
  "v4.local."

/-- The length of a nonce. -/
def nonceLength : Nat := 32

/-- The length of a tag. -/
def tagLength : Nat := 32

/-- Encodes pieces so that no other pieces have the same encoding: their number, then each after its
length. -/
def preAuthenticate (pieces : List Bytes) : Bytes :=
  toLittleEndian 8 pieces.length ++ pieces.flatMap fun p => toLittleEndian 8 p.length ++ p

/-- The bytes from which the cipher's key and nonce are taken. -/
def cipherMaterial (key : SealingKey) (nonce : Bytes) : Bytes :=
  Blake2b.digest 56 key.bytes (Text.Utf8.encode "paseto-encryption-key" ++ nonce)

/-- Encrypts or decrypts the content of the envelope with the given nonce. -/
def cipher (key : SealingKey) (nonce data : Bytes) : Bytes :=
  let material := cipherMaterial key nonce
  ChaCha20.xor (material.take 32) (material.drop 32) data

/-- The tag of an envelope, which has neither a footer nor an implicit assertion. -/
def tag (key : SealingKey) (nonce ciphertext : Bytes) : Bytes :=
  let authKey := Blake2b.digest 32 key.bytes (Text.Utf8.encode "paseto-auth-key-for-aead" ++ nonce)
  Blake2b.digest tagLength authKey
    (preAuthenticate [Text.Utf8.encode header, nonce, ciphertext, [], []])

/-- Seals a plaintext with the given nonce. -/
def wrap (key : SealingKey) (nonce : Nonce) (plaintext : Bytes) : Bytes :=
  let ciphertext := cipher key nonce.bytes plaintext
  nonce.bytes ++ (ciphertext ++ tag key nonce.bytes ciphertext)

/-- An envelope has room for a nonce and a tag. -/
abbrev HasRoom (envelope : Bytes) : Prop :=
  nonceLength + tagLength ≤ envelope.length

/-- The plaintext of an envelope, if its tag is right. -/
def unwrap? (key : SealingKey) (envelope : Bytes) : Option Bytes :=
  let nonce := envelope.take nonceLength
  let rest := envelope.drop nonceLength
  let ciphertext := rest.take (rest.length - tagLength)
  if HasRoom envelope ∧ rest.drop (rest.length - tagLength) = tag key nonce ciphertext then
    some (cipher key nonce ciphertext)
  else none

@[simp] theorem length_tag (key : SealingKey) (nonce ciphertext : Bytes) :
    (tag key nonce ciphertext).length = tagLength :=
  Blake2b.length_digest (by decide) _ _

@[simp] theorem length_cipher (key : SealingKey) (nonce data : Bytes) :
    (cipher key nonce data).length = data.length := by
  simp [cipher]

@[simp] theorem cipher_cipher (key : SealingKey) (nonce data : Bytes) :
    cipher key nonce (cipher key nonce data) = data := by
  simp [cipher, ChaCha20.xor_xor]

/-- What was sealed is opened again. -/
theorem unwrap?_wrap (key : SealingKey) (nonce : Nonce) (plaintext : Bytes) :
    unwrap? key (wrap key nonce plaintext) = some plaintext := by
  have hn : nonce.bytes.length = nonceLength := nonce.length_bytes
  have ht (c : Bytes) : (tag key nonce.bytes c).length = tagLength := length_tag _ _ _
  simp [unwrap?, wrap, HasRoom, hn, ht]

/-- Only what was sealed under the key can be opened. -/
theorem eq_wrap_of_unwrap? {key : SealingKey} {envelope plaintext : Bytes}
    (h : unwrap? key envelope = some plaintext) :
    ∃ nonce : Nonce, envelope = wrap key nonce plaintext := by
  simp only [unwrap?] at h
  split at h
  · next hc =>
    obtain ⟨hlen, htag⟩ := hc
    simp only [Option.some.injEq] at h
    refine ⟨⟨envelope.take nonceLength, by
      simp only [HasRoom, nonceLength, tagLength] at hlen
      simp only [List.length_take, nonceLength]
      omega⟩, ?_⟩
    simp only [wrap, ← h, cipher_cipher]
    rw [← htag, List.take_append_drop, List.take_append_drop]
  · simp at h

end Envelope

end SessionTokens.Crypto
