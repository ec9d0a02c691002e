import SessionTokens.Text.Utf8
import SessionTokens.Time.Calendar

/-!
# Strict timestamps

RFC 3339 as it stands: four digits for the year, two for all other numbers, `T`, `t` or one space
between date and time, an optional fraction, and `Z`, `z` or an offset in hours and minutes. Digits
after the ninth of a fraction are dropped. The first fault from the left is reported.
-/

namespace SessionTokens.Time.Strict

/-- Why a text is no timestamp. -/
inductive Fault where
  | premature
  /-- A character is not what has to stand there. -/
  | invalid
  /-- A number has no meaning in the calendar, on the clock or as an offset. -/
  | outOfRange
  | trailing
deriving DecidableEq, Repr

/-- The wording of a fault. -/
def Fault.message : Fault → String
  | .premature => "premature end of input"
  | .invalid => "input contains invalid characters"
  | .outOfRange => "input is out of range"
  | .trailing => "trailing input"

/-- The least number of bytes of a timestamp, apart from its offset. -/
def minLength : Nat := 19

/-- Takes one character. -/
def takeChar (accepted : Char → Bool) : List Char → Except Fault (List Char)
  | [] => .error .premature
  | c :: r => if accepted c then .ok r else .error .invalid

/-- Takes a numeral of exactly `count` digits. Too few bytes for it count as an early end, whatever
they are. -/
def takeNumber (count : Nat) (l : List Char) : Except Fault (Nat × List Char) :=
  let digits := l.take count
  if Text.Utf8.byteLength digits < count then .error .premature
  else if digits.length = count ∧ digits.all Text.Decimal.isDigit then
    .ok (Text.Decimal.valueOf digits, l.drop count)
  else .error .invalid

/-- Takes a date. -/
def takeDate (l : List Char) : Except Fault (Date × List Char) := do
  let (year, l) ← takeNumber 4 l
  let l ← takeChar (· == '-') l
  let (month, l) ← takeNumber 2 l
  let l ← takeChar (· == '-') l
  let (day, l) ← takeNumber 2 l
  let date : Date := ⟨year, month, day⟩
  if date.Valid then .ok (date, l) else .error .outOfRange

/-- The nanoseconds that the digits behind a point stand for; those after the ninth are dropped. -/
def nanosOf (digits : List Char) : Nat :=
  Text.Decimal.valueOf ((digits ++ List.replicate 9 '0').take 9)

/-- Takes a fraction, if there is one. -/
def takeFraction (l : List Char) : Except Fault (Nat × List Char) :=
  match l with
  | ['.'] => .error .premature
  | '.' :: r =>
    let digits := r.takeWhile Text.Decimal.isDigit
    if digits.isEmpty then .error .invalid
    else .ok (nanosOf digits, r.dropWhile Text.Decimal.isDigit)
  | _ => .ok (0, l)

/-- Takes the time of day. -/
def takeTime (date : Date) (l : List Char) : Except Fault (Reading × List Char) := do
  let (hour, l) ← takeNumber 2 l
  let l ← takeChar (· == ':') l
  let (minute, l) ← takeNumber 2 l
  let l ← takeChar (· == ':') l
  let (second, l) ← takeNumber 2 l
  let (nanos, l) ← takeFraction l
  let reading : Reading := ⟨date, hour, minute, second, nanos⟩
  if reading.ValidTime then .ok (reading, l) else .error .outOfRange

/-- The hours and minutes of an offset in seconds. -/
def takeHoursMinutes (sign : Int) (l : List Char) : Except Fault (Int × List Char) := do
  let (hours, l) ← takeNumber 2 l
  let l ← takeChar (· == ':') l
  let (minutes, l) ← takeNumber 2 l
  if minutes < 60 then .ok (sign * (hours * 3600 + minutes * 60), l) else .error .outOfRange

/-- Takes the offset from universal time, in seconds. The minus sign of mathematics is a minus too. -/
def takeOffset : List Char → Except Fault (Int × List Char)
  | [] => .error .premature
  | c :: r =>
    if c = 'Z' ∨ c = 'z' then .ok (0, r)
    else if c = '+' then takeHoursMinutes 1 r
    else if c = '-' ∨ c = '\u2212' then takeHoursMinutes (-1) r
    else .error .invalid

/-- Reads a timestamp. -/
def read (s : String) : Except Fault Instant := do
  if s.utf8ByteSize < minLength then .error .premature
  let (date, l) ← takeDate s.toList
  let l ← takeChar (fun c => c == 'T' || c == 't' || c == ' ') l
  let (reading, l) ← takeTime date l
  let (offset, l) ← takeOffset l
  if !l.isEmpty then .error .trailing
  if daySeconds ≤ offset.natAbs then .error .outOfRange
  match reading.toInstant? offset with
  | some t => .ok t
  | none => .error .outOfRange

end SessionTokens.Time.Strict
