import SessionTokens.Text.Utf8

/-!
# Bytes that are no text

Where bytes stop being UTF-8, and the text that remains of them with a replacement character for each
run of bytes that belongs to no character.
-/

namespace SessionTokens.Text.Utf8

/-! ## The first character -/

/-- How bytes begin. -/
inductive Opening where
  /-- With a character of that many bytes. -/
  | character (length : Nat)
  /-- With that many bytes that belong to no character. -/
  | broken (length : Nat)
  /-- With a part of a character that the end cuts off. -/
  | cut
deriving DecidableEq, Repr

/-- The number of bytes of a character by its first byte, if a character may begin with it. -/
def lengthBy? (first : UInt8) : Option Nat :=
  if first ≤ 0x7F then some 1
  else if 0xC2 ≤ first ∧ first ≤ 0xDF then some 2
  else if 0xE0 ≤ first ∧ first ≤ 0xEF then some 3
  else if 0xF0 ≤ first ∧ first ≤ 0xF4 then some 4
  else none

/-- Whether a byte goes on with a character. -/
def isContinuation (b : UInt8) : Bool :=
  0x80 ≤ b && b ≤ 0xBF

/-- Whether the second byte of a character may follow its first. Longer forms than necessary,
surrogates and numbers beyond U+10FFFF are ruled out here. -/
def mayFollow (first second : UInt8) : Bool :=
  if first = 0xE0 then 0xA0 ≤ second && second ≤ 0xBF
  else if first = 0xED then 0x80 ≤ second && second ≤ 0x9F
  else if first = 0xF0 then 0x90 ≤ second && second ≤ 0xBF
  else if first = 0xF4 then 0x80 ≤ second && second ≤ 0x8F
  else isContinuation second

/-- How many of the bytes go on with the character that `first` begins. -/
def countFollowing (first : UInt8) : Bytes → Nat
  | [] => 0
  | second :: r => if mayFollow first second then 1 + (r.takeWhile isContinuation).length else 0

/-- How the bytes `first` and `rest` begin. -/
def opening (first : UInt8) (rest : Bytes) : Opening :=
  match lengthBy? first with
  | none => .broken 1
  | some length =>
    let following := rest.take (length - 1)
    let count := countFollowing first following
    if count + 1 = length then .character length
    else if count = following.length then .cut
    else .broken (count + 1)

/-! ## Faults -/

/-- Why bytes are no text. -/
inductive Fault where
  /-- At that index there are so many bytes that belong to no character. -/
  | invalid (index length : Nat)
  /-- The character at that index is cut off. -/
  | incomplete (index : Nat)
deriving DecidableEq, Repr

/-- The wording of a fault. -/
def Fault.message : Fault → String
  | .invalid index length =>
    "invalid utf-8 sequence of " ++ toString length ++ " bytes from index " ++ toString index
  | .incomplete index => "incomplete utf-8 byte sequence from index " ++ toString index

/-- The first fault in bytes that stand at an index. -/
def fault? (index : Nat) : Bytes → Option Fault
  | [] => none
  | b :: r =>
    match opening b r with
    | .character length => fault? (index + length) (r.drop (length - 1))
    | .broken length => some (.invalid index length)
    | .cut => some (.incomplete index)
termination_by l => l.length
decreasing_by simp only [List.length_drop, List.length_cons]; omega

/-- Reads a text, or tells where the bytes stop being one. -/
def read (b : Bytes) : Except Fault String :=
  match decode? b with
  | some s => .ok s
  | none => .error ((fault? 0 b).getD (.incomplete b.length))

/-! ## Repair -/

/-- The bytes of the replacement character. -/
def replacement : Bytes := encode "\ufffd"

/-- Puts the replacement character in the place of bytes that belong to no character. -/
def repair : Bytes → Bytes
  | [] => []
  | b :: r =>
    match opening b r with
    | .character length => b :: (r.take (length - 1) ++ repair (r.drop (length - 1)))
    | .broken length => replacement ++ repair (r.drop (length - 1))
    | .cut => replacement
termination_by l => l.length
decreasing_by all_goals simp only [List.length_drop, List.length_cons]; omega

/-- Reads a text from bytes that may be damaged. -/
def readDamaged (b : Bytes) : String :=
  (decode? (repair b)).getD ""

end SessionTokens.Text.Utf8
