import SessionTokens.Time.Calendar

/-!
# Writing instants

RFC 3339 texts in universal time. The fraction has 0, 3, 6 or 9 digits, the fewest that lose nothing;
a year outside 0 to 9999 has a sign.
-/

namespace SessionTokens.Time

open Text.Decimal (fixed atLeast)

/-- A year: four digits, or a sign and at least four digits. -/
def yearChars (y : Int) : List Char :=
  if 0 ≤ y ∧ y ≤ 9999 then fixed 4 y.toNat
  else (if y < 0 then '-' else '+') :: atLeast 4 y.natAbs

/-- The fraction of a second, with the point. -/
def fractionChars (nanos : Nat) : List Char :=
  if nanos = 0 then []
  else if nanos % 1000000 = 0 then '.' :: fixed 3 (nanos / 1000000)
  else if nanos % 1000 = 0 then '.' :: fixed 6 (nanos / 1000)
  else '.' :: fixed 9 nanos

/-- A date, with hyphens. -/
def Date.toChars (d : Date) : List Char :=
  yearChars d.year ++ '-' :: (fixed 2 d.month ++ '-' :: fixed 2 d.day)

/-- A reading, with `T` between date and time. -/
def Reading.toChars (r : Reading) : List Char :=
  r.date.toChars ++ 'T' :: (fixed 2 r.hour ++ ':' :: (fixed 2 r.minute ++ ':' :: (fixed 2 r.second
    ++ fractionChars r.nanos)))

namespace Instant

/-- The text with `Z` for universal time, as in JSON. -/
def toText (t : Instant) : String :=
  String.ofList (t.reading.toChars ++ ['Z'])

/-- The text with a numeric offset of zero, as in the rows of a table. -/
def toRowText (t : Instant) : String :=
  String.ofList (t.reading.toChars ++ ['+', '0', '0', ':', '0', '0'])

end Instant

end SessionTokens.Time
