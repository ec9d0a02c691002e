import SessionTokens.Json.Scanner

/-!
# Numbers that are too large

A number is read as its first digits, as long as they fit 64 bits, times a power of ten. Both factors
and their product are rounded to 53 significant bits; a product of 2^1024 or more is too large.
-/

namespace SessionTokens.Json

/-- Rounds to 53 significant bits, and a tie to the even neighbour. -/
def roundTo53Bits (n : Nat) : Nat :=
  let shift := n.log2 + 1 - 53
  let unit := 1 <<< shift
  let floor := n / unit
  let excess := 2 * (n % unit)
  (if unit < excess ∨ (excess = unit ∧ floor % 2 = 1) then floor + 1 else floor) * unit

/-- Joins digits to a number as long as it fits 64 bits, and counts the digits left over. -/
def significand (n : Nat) : Bytes → Nat × Nat
  | [] => (n, 0)
  | b :: r =>
    let m := 10 * n + (b.toNat - 48)
    if m < 1 <<< 64 then significand m r else (n, r.length + 1)

/-- The largest exponent of which the reader takes note. -/
def maxExponent : Nat := 1000000000

/-- The value of the digits of an exponent. -/
def exponentOf (digits : Bytes) : Nat :=
  digits.foldl (fun n b => min maxExponent (10 * n + (b.toNat - 48))) 0

/-- Whether the number is beyond the range of binary floating point with 53 significant bits. -/
def Numeral.isTooLarge (n : Numeral) : Bool :=
  let (digits, dropped) := significand 0 (n.whole ++ n.fraction)
  let written : Int := exponentOf n.exponent
  let exponent := (if n.smaller then -written else written) - n.fraction.length + dropped
  if digits = 0 ∨ exponent < 0 then false
  else
    308 < exponent
      || 1 <<< 1024 ≤ roundTo53Bits (roundTo53Bits digits * roundTo53Bits (Nat.pow 10 exponent.toNat))

end SessionTokens.Json
