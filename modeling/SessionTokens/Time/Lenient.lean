import SessionTokens.Text.Blank
import SessionTokens.Time.Strict

/-!
# Lenient timestamps

The timestamps that JSON may hold. Date and time are divided by exactly one `T`, `t` or space. White
space may stand before each number, each hyphen and each colon, and around the offset; months, days,
hours, minutes and seconds may have one digit; a year has one to four digits, or a sign and any number
of digits. The offset is `Z`, `UTC` in any case, or a sign and four digits, which white space and
colons may divide.
-/

namespace SessionTokens.Time.Lenient

open Text (isBlank)
open Text.Decimal (isDigit valueOf)

/-- Drops white space. -/
def skipBlanks (l : List Char) : List Char :=
  l.dropWhile isBlank

/-- Takes white space and then a numeral of one to `width` digits. -/
def takeNumber? (width : Nat) (l : List Char) : Option (Nat × List Char) :=
  let l := skipBlanks l
  let digits := (l.take width).takeWhile isDigit
  if digits.isEmpty then none else some (valueOf digits, l.drop digits.length)

/-- Takes the given character. -/
def takeChar? (c : Char) : List Char → Option (List Char)
  | d :: r => if c = d then some r else none
  | [] => none

/-- Takes white space and then a year. -/
def takeYear? (l : List Char) : Option (Int × List Char) :=
  match skipBlanks l with
  | [] => none
  | c :: r =>
    if c = '+' ∨ c = '-' then
      let digits := r.takeWhile isDigit
      let sign : Int := if c = '-' then -1 else 1
      if digits.isEmpty then none else some (sign * valueOf digits, r.dropWhile isDigit)
    else (takeNumber? 4 (c :: r)).map fun (n, rest) => ((n : Int), rest)

/-- Takes a separator, before which white space may stand, and then a number of at most two digits. -/
def takePart? (separator : Char) (l : List Char) : Option (Nat × List Char) :=
  (takeChar? separator (skipBlanks l)).bind (takeNumber? 2)

/-- Takes what divides date and time: `T`, `t` or a space. -/
def takeTimeMark? : List Char → Option (List Char)
  | [] => none
  | c :: r => if c = 'T' ∨ c = 't' ∨ c = ' ' then some r else none

/-- Takes a fraction, if there is one. -/
def takeFraction? (l : List Char) : Option (Nat × List Char) :=
  match l with
  | '.' :: r =>
    let digits := r.takeWhile isDigit
    if digits.isEmpty then none else some (Strict.nanosOf digits, r.dropWhile isDigit)
  | _ => some (0, l)

/-- Takes an offset in hours and minutes behind its sign, in seconds. -/
def takeHoursMinutes? (sign : Int) (l : List Char) : Option (Int × List Char) :=
  match l with
  | a :: b :: r =>
    match r.dropWhile fun c => c == ':' || isBlank c with
    | c :: d :: rest =>
      if [a, b, c, d].all isDigit ∧ valueOf [c, d] < 60 then
        some (sign * (valueOf [a, b] * 3600 + valueOf [c, d] * 60 : Nat), rest)
      else none
    | _ => none
  | _ => none

/-- Takes white space and then the offset from universal time, in seconds. -/
def takeOffset? (l : List Char) : Option (Int × List Char) :=
  let l := skipBlanks l
  if (l.take 3).map Char.toUpper = ['U', 'T', 'C'] then some (0, l.drop 3)
  else
    match l with
    | [] => none
    | c :: r =>
      if c = 'Z' ∨ c = 'z' then some (0, r)
      else if c = '+' then takeHoursMinutes? 1 r
      else if c = '-' ∨ c = '\u2212' then takeHoursMinutes? (-1) r
      else none

/-- Reads a timestamp. -/
def readChars? (l : List Char) : Option Instant := do
  let (year, l) ← takeYear? l
  let (month, l) ← takePart? '-' l
  let (day, l) ← takePart? '-' l
  let l ← takeTimeMark? l
  let (hour, l) ← takeNumber? 2 l
  let (minute, l) ← takePart? ':' l
  let (second, l) ← takePart? ':' l
  let (nanos, l) ← takeFraction? l
  let (offset, l) ← takeOffset? l
  if skipBlanks l = [] ∧ offset.natAbs < daySeconds then
    Reading.toInstant? ⟨⟨year, month, day⟩, hour, minute, second, nanos⟩ offset
  else none

/-- Reads a timestamp. -/
def read? (s : String) : Option Instant :=
  readChars? s.toList

end SessionTokens.Time.Lenient
