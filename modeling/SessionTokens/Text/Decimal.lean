/-!
# Decimal numerals

Numerals of a fixed number of digits, and the reading of a numeral that must not exceed a bound.
-/

namespace SessionTokens.Text.Decimal

/-- The digit for a number below ten. -/
def digit (n : Nat) : Char :=
  Char.ofNat (48 + n)

/-- The number that a digit stands for. Only the ten ASCII digits count. -/
def value? (c : Char) : Option Nat :=
  let n := c.toNat
  if 48 ≤ n ∧ n ≤ 57 then some (n - 48) else none

/-- Whether the character is an ASCII digit. -/
def isDigit (c : Char) : Bool :=
  (value? c).isSome

/-- The number that a run of digits stands for; other characters count as zero. -/
def valueOf (l : List Char) : Nat :=
  l.foldl (fun n c => 10 * n + (value? c).getD 0) 0

/-- The last `width` digits of a number, with leading zeros. -/
def fixed : Nat → Nat → List Char
  | 0, _ => []
  | width + 1, n => fixed width (n / 10) ++ [digit (n % 10)]

/-- The digits of a number without leading zeros, but at least `width` of them. -/
def atLeast (width n : Nat) : List Char :=
  let l := Nat.toDigits 10 n
  List.replicate (width - l.length) '0' ++ l

/-- Why a text is no numeral within a bound. -/
inductive Fault where
  | empty
  | invalidDigit
  | tooLarge
deriving DecidableEq, Repr

/-- The wording of a fault. -/
def Fault.message : Fault → String
  | .empty => "cannot parse integer from empty string"
  | .invalidDigit => "invalid digit found in string"
  | .tooLarge => "number too large to fit in target type"

/-- Reads digits from left to right; the first fault decides, and a character that is no digit comes
before a number that has grown too large at the same place. -/
def readDigits (bound n : Nat) : List Char → Except Fault Nat
  | [] => .ok n
  | c :: r =>
    match value? c with
    | none => .error .invalidDigit
    | some d => if 10 * n + d ≤ bound then readDigits bound (10 * n + d) r else .error .tooLarge

/-- Reads a numeral of any length, with a leading `+` or without, that is at most `bound`. -/
def readUpTo (bound : Nat) (s : String) : Except Fault Nat :=
  match s.toList with
  | [] => .error .empty
  | ['+'] => .error .invalidDigit
  | '+' :: l => readDigits bound 0 l
  | l => readDigits bound 0 l

end SessionTokens.Text.Decimal
