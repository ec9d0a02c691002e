import SessionTokens.Text.Utf8

/-!
# Hexadecimal digits

Bytes are written with two lower-case digits each and read in either case.
-/

namespace SessionTokens.Text.Hex

/-- The digit for a number below sixteen, in lower case. -/
def digit (n : Nat) : Char :=
  Char.ofNat (if n < 10 then 48 + n else 87 + n)

/-- The number that a digit stands for, in either case. -/
def value? (c : Char) : Option Nat :=
  let n := c.toNat
  if 48 ≤ n ∧ n ≤ 57 then some (n - 48)
  else if 65 ≤ n ∧ n ≤ 70 then some (n - 55)
  else if 97 ≤ n ∧ n ≤ 102 then some (n - 87)
  else none

/-- Whether the character is a hexadecimal digit in either case. -/
def isDigit (c : Char) : Bool :=
  (value? c).isSome

/-- The two digits of a byte. -/
def encodeByte (b : UInt8) : List Char :=
  [digit (b.toNat / 16), digit (b.toNat % 16)]

/-- The digits of a sequence of bytes. -/
def encode (b : Bytes) : List Char :=
  b.flatMap encodeByte

/-- Reads bytes from pairs of digits. -/
def decode? (l : List Char) : Option Bytes :=
  go [] l
where
  /-- Reads the rest behind the bytes of `acc`, which stand in reverse. -/
  go (acc : Bytes) : List Char → Option Bytes
    | [] => some acc.reverse
    | [_] => none
    | c :: d :: r =>
      match value? c, value? d with
      | some m, some n => go (UInt8.ofNat (16 * m + n) :: acc) r
      | _, _ => none

theorem value?_digit {n : Nat} (h : n < 16) : value? (digit n) = some n := by
  revert n
  decide

theorem decode?.go_encode (acc b : Bytes) : decode?.go acc (encode b) = some (acc.reverse ++ b) := by
  induction b generalizing acc with
  | nil => simp [encode, decode?.go]
  | cons x r ih =>
    have hx : x.toNat < 256 := x.toNat_lt
    have h : UInt8.ofNat (16 * (x.toNat / 16) + x.toNat % 16) = x := by
      rw [Nat.div_add_mod]; simp
    have ih := ih (x :: acc)
    simp only [encode] at ih
    simp only [encode, encodeByte, List.flatMap_cons, List.cons_append, List.nil_append, decode?.go]
    rw [value?_digit (by omega), value?_digit (by omega)]
    simp [h, ih]

/-- Bytes are read back from their digits. -/
@[simp] theorem decode?_encode (b : Bytes) : decode? (encode b) = some b := by
  simp [decode?, decode?.go_encode]

end SessionTokens.Text.Hex
