import SessionTokens.Text.Hex
import SessionTokens.Text.Repair

/-!
# Percent escapes and forms

A byte may be written as a percent sign and two hexadecimal digits. A form is a sequence of names and
values in which a plus sign stands for a space.
-/

namespace SessionTokens.Text.UrlEncoded

/-! ## Escapes -/

/-- The number that a digit stands for. -/
def digitValue? (b : UInt8) : Option Nat :=
  Hex.value? (Char.ofNat b.toNat)

/-- The byte that stands behind a percent sign. -/
def escaped? : Bytes → Option UInt8
  | a :: b :: _ => do return UInt8.ofNat (16 * (← digitValue? a) + (← digitValue? b))
  | _ => none

/-- Undoes escapes. A percent sign without two digits stands for itself. -/
def decode : Bytes → Bytes
  | [] => []
  | b :: r =>
    match if b = 0x25 then escaped? r else none with
    | some c => c :: decode (r.drop 2)
    | none => b :: decode r
termination_by l => l.length
decreasing_by all_goals simp only [List.length_drop, List.length_cons]; omega

/-! ## Forms -/

/-- The pieces between the given bytes; there is always one. -/
def pieces (separator : UInt8) (l : Bytes) : List Bytes :=
  l.foldr (fun b found =>
    if b = separator then [] :: found
    else
      match found with
      | [] => [[b]]
      | piece :: r => (b :: piece) :: r) [[]]

/-- A name or a value. -/
def component (l : Bytes) : String :=
  Utf8.readDamaged (decode (l.map fun b => if b = 0x2B then 0x20 else b))

/-- A name and a value, with an equals sign between them; the value may be left out. -/
def pair (l : Bytes) : String × String :=
  (component (l.takeWhile (· != 0x3D)), component ((l.dropWhile (· != 0x3D)).drop 1))

/-- The names and values of a form. -/
def pairs (l : Bytes) : List (String × String) :=
  ((pieces 0x26 l).filter fun piece => !piece.isEmpty).map pair

end SessionTokens.Text.UrlEncoded
