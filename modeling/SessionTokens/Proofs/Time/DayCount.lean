import Mathlib.Algebra.GroupWithZero.Nat
import SessionTokens.Time.Calendar

/-!
# Days counted one by one

The number of a day, which is computed from its year, is the number of days that come before it when they are
counted year by year and month by month (`dayNumber_eq`).
-/

namespace SessionTokens.Time

/-- The number of days of a year. -/
def yearLength (y : Nat) : Nat :=
  if isLeapYear y then 366 else 365

/-- The number of days before a date, counted from the start of the year 0. -/
def daysBefore (year month day : Nat) : Nat :=
  ((List.range year).map yearLength).sum
    + ((monthLengths (isLeapYear year)).take (month - 1)).sum + (day - 1)

theorem daysIn_eq_sum (lengths : List Nat) : daysIn lengths = lengths.sum := by
  induction lengths with
  | nil => rfl
  | cons n r ih => rw [daysIn, ih, List.sum_cons]

theorem daysIn_monthLengths (y : Nat) : daysIn (monthLengths (isLeapYear y)) = yearLength y := by
  unfold yearLength
  cases isLeapYear y <;> rfl

theorem yearStart_eq_sum (y : Nat) : yearStart y = (((List.range y).map yearLength).sum : Nat) := by
  induction y with
  | zero => rfl
  | succ y ih =>
    rw [List.range_succ, List.map_append, List.sum_append, List.map_singleton, List.sum_singleton,
      ← daysIn_monthLengths]
    show yearStart ((y : Int) + 1) = _
    rw [yearStart_succ, ih, Int.natCast_add]

/-- The start of 1970, counted from the start of the year 0. -/
theorem daysBefore_epoch : (daysBefore 1970 1 1 : Int) = epochDay := by
  have hstart := yearStart_eq_sum 1970
  simp only [daysBefore, List.take_zero, List.sum_nil, Nat.sub_self, Nat.add_zero]
  rw [← hstart]
  rfl

/-- **The number of a day is the number of days from the start of 1970 to it.** -/
theorem dayNumber_eq {year month day : Nat} (hday : 1 ≤ day) :
    (⟨year, month, day⟩ : Date).dayNumber = daysBefore year month day - daysBefore 1970 1 1 := by
  rw [daysBefore_epoch, daysBefore, Date.dayNumber]
  simp only [yearStart_eq_sum, daysIn_eq_sum]
  omega

/-- The last day of a leap year has 365 days of it before itself. -/
example : daysBefore 2024 12 31 = daysBefore 2024 1 1 + 365 := by
  decide +kernel

end SessionTokens.Time
