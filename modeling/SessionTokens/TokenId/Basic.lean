import SessionTokens.Random
import SessionTokens.Text.Hex

/-!
# Token identifiers

A token identifier is a UUID: 128 bits, written as 32 lower-case hexadecimal digits in five groups
with hyphens between them. A token's identifier is also that of the session opened with it.
-/

namespace SessionTokens

/-- An identifier of 128 bits. -/
structure TokenId where
  bytes : Bytes
  length_bytes : bytes.length = 16
deriving DecidableEq

namespace TokenId

/-- The identifier of the given bytes, if there are sixteen of them. -/
def ofBytes? (b : Bytes) : Option TokenId :=
  if h : b.length = 16 then some ⟨b, h⟩ else none

/-- The version: the upper half of byte 6. -/
def version (id : TokenId) : Nat :=
  (id.bytes.getD 6 0).toNat / 16

/-- Sets the version bits of byte 6 to 4 and the variant bits of byte 8 to binary 10. -/
def markRandom (b : Bytes) : Bytes :=
  (b.set 6 (0x40 ||| (b.getD 6 0 &&& 0x0f))).set 8 (0x80 ||| (b.getD 8 0 &&& 0x3f))

/-- Draws a random identifier, which has version 4. -/
def random (s : ByteStream) : TokenId × ByteStream :=
  (⟨markRandom (s.draw 16).1, by simp [markRandom]⟩, (s.draw 16).2)

/-- Puts hyphens between the groups of 8, 4, 4, 4 and 12 digits. -/
def hyphenate (l : List Char) : List Char :=
  l.take 8 ++ '-' :: ((l.drop 8).take 4 ++ '-' :: ((l.drop 12).take 4 ++ '-' ::
    ((l.drop 16).take 4 ++ '-' :: l.drop 20)))

/-- The characters of the written identifier. -/
def toChars (id : TokenId) : List Char :=
  hyphenate (Text.Hex.encode id.bytes)

/-- The written identifier: 36 characters. -/
def toText (id : TokenId) : String :=
  String.ofList id.toChars

end TokenId

end SessionTokens
