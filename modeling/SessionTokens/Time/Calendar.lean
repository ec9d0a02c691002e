import SessionTokens.Time.Instant

/-!
# The calendar

Dates of the proleptic Gregorian calendar, the day numbers that they stand for, and the wall clock
readings that stand for instants. Main statements: a year is as long as its months
(`yearStart_succ`), and every day lies in its year (`yearStart_yearOf_le`, `lt_yearStart_yearOf_succ`).
-/

namespace SessionTokens.Time

/-! ## Years and months -/

/-- A year has a leap day every four years, but of the full centuries only every fourth. -/
def isLeapYear (y : Int) : Bool :=
  y % 4 == 0 && (y % 100 != 0 || y % 400 == 0)

/-- The number of days from the start of the year 0 to the start of a year. -/
def yearStart (y : Int) : Int :=
  365 * y + (y + 3) / 4 - (y + 99) / 100 + (y + 399) / 400

/-- The number of days in each month of a year. -/
def monthLengths (leap : Bool) : List Nat :=
  [31, if leap then 29 else 28, 31, 30, 31, 30, 31, 31, 30, 31, 30, 31]

/-- The number of days in some months. -/
def daysIn : List Nat → Nat
  | [] => 0
  | n :: r => n + daysIn r

/-- The day number of the start of 1970, counted from the start of the year 0. -/
abbrev epochDay : Int := 719528

/-- The year of the day with the given number, counted from the start of the year 0. The average
length of a year gives it up to one. -/
def yearOf (day : Int) : Int :=
  let y := day * 400 / 146097
  if day < yearStart y then y - 1
  else if yearStart (y + 1) ≤ day then y + 1
  else y

/-- A year is as long as its months together. -/
theorem yearStart_succ (y : Int) :
    yearStart (y + 1) = yearStart y + daysIn (monthLengths (isLeapYear y)) := by
  simp only [yearStart, isLeapYear, monthLengths, daysIn, Bool.and_eq_true,
    Bool.or_eq_true, beq_iff_eq, bne_iff_ne]
  split <;> omega

private theorem yearOf_bounds (day : Int) :
    yearStart (yearOf day) ≤ day ∧ day < yearStart (yearOf day + 1) := by
  have h1 : 146097 * (day * 400 / 146097) ≤ day * 400 := by omega
  have h2 : day * 400 < 146097 * (day * 400 / 146097) + 146097 := by omega
  simp only [yearOf]
  generalize day * 400 / 146097 = y at *
  split
  · rw [Int.sub_add_cancel]
    refine ⟨?_, by assumption⟩
    simp only [yearStart]
    omega
  split
  · refine ⟨by assumption, ?_⟩
    simp only [yearStart]
    omega
  · omega

/-- A day does not come before its year. -/
theorem yearStart_yearOf_le (day : Int) : yearStart (yearOf day) ≤ day :=
  (yearOf_bounds day).1

/-- A day comes before the year after its own. -/
theorem lt_yearStart_yearOf_succ (day : Int) : day < yearStart (yearOf day + 1) :=
  (yearOf_bounds day).2

/-- The month and the day of the month, both counted from one, at an offset from the start of the year
or of a later month. -/
def splitMonths (month : Nat) : List Nat → Nat → Nat × Nat
  | [], offset => (month, offset + 1)
  | n :: r, offset => if offset < n then (month, offset + 1) else splitMonths (month + 1) r (offset - n)

/-! ## Dates -/

/-- A day of the calendar. -/
@[ext] structure Date where
  /-- The year; the year before 1 is 0. -/
  year : Int
  /-- The month, from 1. -/
  month : Nat
  /-- The day of the month, from 1. -/
  day : Nat
deriving DecidableEq, Repr

namespace Date

/-- The date exists in the calendar. -/
def Valid (d : Date) : Prop :=
  1 ≤ d.month ∧ d.month ≤ 12 ∧ 1 ≤ d.day ∧
    d.day ≤ (monthLengths (isLeapYear d.year)).getD (d.month - 1) 0

instance (d : Date) : Decidable d.Valid :=
  inferInstanceAs (Decidable (_ ∧ _ ∧ _ ∧ _))

/-- The number of days since the start of 1970. -/
def dayNumber (d : Date) : Int :=
  yearStart d.year + daysIn ((monthLengths (isLeapYear d.year)).take (d.month - 1)) + d.day - 1 - epochDay

/-- The date that many days after the start of 1970. -/
def ofDayNumber (n : Int) : Date :=
  let day := n + epochDay
  let year := yearOf day
  let (month, dayOfMonth) := splitMonths 1 (monthLengths (isLeapYear year)) (day - yearStart year).toNat
  { year, month, day := dayOfMonth }

end Date

/-! ## Wall clock readings -/

/-- The number of seconds in a day. -/
abbrev daySeconds : Int := 86400

/-- What a calendar and a clock show somewhere. A second of 60 is a leap second. -/
@[ext] structure Reading where
  date : Date
  hour : Nat
  minute : Nat
  second : Nat
  /-- The nanoseconds since the second began. -/
  nanos : Nat
deriving DecidableEq, Repr

namespace Reading

/-- The time of day exists. -/
def ValidTime (r : Reading) : Prop :=
  r.hour < 24 ∧ r.minute < 60 ∧ r.second ≤ 60 ∧ r.nanos < 1000000000

instance (r : Reading) : Decidable r.ValidTime :=
  inferInstanceAs (Decidable (_ ∧ _ ∧ _ ∧ _))

/-- The moment at which a clock that is `offset` seconds ahead of universal time shows the reading. -/
def toInstant? (r : Reading) (offset : Int) : Option Instant :=
  if r.date.Valid ∧ r.ValidTime ∧ -262143 ≤ r.date.year ∧ r.date.year ≤ 262142 then
    let leap := r.second / 60
    let seconds := r.date.dayNumber * daySeconds + (r.hour * 3600 + r.minute * 60 + r.second - leap)
      - offset
    Instant.ofSeconds? seconds (r.nanos + leap * 1000000000)
  else none

end Reading

/-- What a clock in universal time shows at a moment. -/
def Instant.reading (t : Instant) : Reading :=
  let ofDay := (t.seconds % daySeconds).toNat
  { date := Date.ofDayNumber (t.seconds / daySeconds)
    hour := ofDay / 3600
    minute := ofDay / 60 % 60
    second := ofDay % 60 + t.nanos / 1000000000
    nanos := t.nanos % 1000000000 }

end SessionTokens.Time
