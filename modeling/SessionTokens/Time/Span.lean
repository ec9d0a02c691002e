import SessionTokens.Text.Decimal

/-!
# Spans of time

A signed number of nanoseconds within ±9223372036854775.807 seconds, and its text as ISO 8601 seconds.
-/

namespace SessionTokens.Time

/-- The number of nanoseconds in a second. -/
abbrev second : Int := 1000000000

/-- The longest span in nanoseconds. -/
abbrev maxSpan : Int := 9223372036854775807000000

/-- A signed length of time. -/
@[ext] structure Span where
  nanos : Int
  min_le : -maxSpan ≤ nanos
  le_max : nanos ≤ maxSpan
deriving DecidableEq

namespace Span

/-- The span of the given nanoseconds, if it is within the range. -/
def ofNanos? (n : Int) : Option Span :=
  if h : -maxSpan ≤ n ∧ n ≤ maxSpan then some ⟨n, h.1, h.2⟩ else none

/-- The span of the given whole seconds, if it is within the range. -/
def ofSeconds? (n : Int) : Option Span :=
  ofNanos? (n * second)

/-- A quarter of an hour. -/
def quarterHour : Span :=
  ⟨900 * second, by decide, by decide⟩

/-- A day. -/
def day : Span :=
  ⟨86400 * second, by decide, by decide⟩

/-- The whole seconds, rounded toward zero. -/
def wholeSeconds (d : Span) : Int :=
  d.nanos.tdiv second

/-- The nanoseconds beyond the whole seconds, with the sign of the span. -/
def subsecond (d : Span) : Int :=
  d.nanos.tmod second

/-- The digits of a fraction of a second without the zeros at their end. -/
def fractionDigits (n : Nat) : List Char :=
  ((Text.Decimal.fixed 9 n).reverse.dropWhile (· == '0')).reverse

/-- The span as ISO 8601 seconds; zero is written in days. -/
def toText (d : Span) : String :=
  if d.nanos = 0 then "P0D"
  else
    let n := d.nanos.natAbs
    let sign := if d.nanos < 0 then "-" else ""
    let fraction := n % 1000000000
    let point := if fraction = 0 then "" else "." ++ String.ofList (fractionDigits fraction)
    sign ++ "PT" ++ toString (n / 1000000000) ++ point ++ "S"

end Span

end SessionTokens.Time
