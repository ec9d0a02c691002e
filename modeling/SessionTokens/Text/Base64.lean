import SessionTokens.Text.Utf8

/-!
# Base64

Three bytes become four symbols of an alphabet of 64. Reading is strict: the bits that a last, short
group leaves over have to be zero, so each sequence of bytes has one text. Two forms are in use: the
URL-safe alphabet without padding, and the standard alphabet with padding to groups of four.
-/

namespace SessionTokens.Text.Base64

/-- An alphabet of 64 symbols: letters, digits and two symbols of its own. -/
structure Alphabet where
  symbol62 : Char
  symbol63 : Char

/-- The alphabet that is safe in a URL. -/
def urlSafe : Alphabet := ⟨'-', '_'⟩

/-- The standard alphabet. -/
def standard : Alphabet := ⟨'+', '/'⟩

namespace Alphabet

/-- The symbol for a number below 64. -/
def symbol (a : Alphabet) (n : Nat) : Char :=
  if n < 26 then Char.ofNat (65 + n)
  else if n < 52 then Char.ofNat (71 + n)
  else if n < 62 then Char.ofNat (n - 4)
  else if n = 62 then a.symbol62
  else a.symbol63

/-- The number that a symbol stands for. -/
def value? (a : Alphabet) (c : Char) : Option Nat :=
  let n := c.toNat
  if 65 ≤ n ∧ n ≤ 90 then some (n - 65)
  else if 97 ≤ n ∧ n ≤ 122 then some (n - 71)
  else if 48 ≤ n ∧ n ≤ 57 then some (n + 4)
  else if c = a.symbol62 then some 62
  else if c = a.symbol63 then some 63
  else none

end Alphabet

/-! ## Groups of three bytes as numbers below 64 -/

/-- Splits bytes into numbers of six bits; a last, short group is filled up with zero bits. -/
def sextets (b : Bytes) : List Nat :=
  go [] b
where
  /-- Puts the numbers for the rest behind those of `acc`, which stand in reverse. -/
  go (acc : List Nat) : Bytes → List Nat
    | [] => acc.reverse
    | [x] => acc.reverse ++ [x.toNat / 4, x.toNat % 4 * 16]
    | [x, y] => acc.reverse ++ [x.toNat / 4, x.toNat % 4 * 16 + y.toNat / 16, y.toNat % 16 * 4]
    | x :: y :: z :: r =>
      go (z.toNat % 64 :: (y.toNat % 16 * 4 + z.toNat / 64) :: (x.toNat % 4 * 16 + y.toNat / 16)
        :: x.toNat / 4 :: acc) r

/-- Joins numbers of six bits to bytes, if the bits left over are zero. -/
def ofSextets? (l : List Nat) : Option Bytes :=
  go [] l
where
  /-- Puts the bytes for the rest behind those of `acc`, which stand in reverse. -/
  go (acc : Bytes) : List Nat → Option Bytes
    | [] => some acc.reverse
    | [_] => none
    | [p, q] =>
      if q % 16 = 0 then some (acc.reverse ++ [UInt8.ofNat (p * 4 + q / 16)]) else none
    | [p, q, s] =>
      if s % 4 = 0 then
        some (acc.reverse ++ [UInt8.ofNat (p * 4 + q / 16), UInt8.ofNat (q % 16 * 16 + s / 4)])
      else none
    | p :: q :: s :: t :: r =>
      go (UInt8.ofNat (s % 4 * 64 + t) :: UInt8.ofNat (q % 16 * 16 + s / 4)
        :: UInt8.ofNat (p * 4 + q / 16) :: acc) r

/-! ## Texts -/

/-- The text of a sequence of bytes, without padding. -/
def encode (a : Alphabet) (b : Bytes) : List Char :=
  (sextets b).map a.symbol

/-- Reads a text without padding. -/
def decode? (a : Alphabet) (l : List Char) : Option Bytes :=
  (l.mapM a.value?).bind ofSextets?

/-- How many padding symbols follow a text of `n` symbols. -/
def paddingLength (n : Nat) : Nat :=
  (4 - n % 4) % 4

/-- The text of a sequence of bytes, padded to groups of four symbols. -/
def encodePadded (a : Alphabet) (b : Bytes) : List Char :=
  let l := encode a b
  l ++ List.replicate (paddingLength l.length) '='

/-- Reads a text that is padded to groups of four symbols. -/
def decodePadded? (a : Alphabet) (l : List Char) : Option Bytes :=
  let body := (l.reverse.dropWhile (· == '=')).reverse
  if l.length = body.length + paddingLength body.length then decode? a body else none

end SessionTokens.Text.Base64
