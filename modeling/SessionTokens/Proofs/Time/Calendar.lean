import SessionTokens.Time.Calendar

/-!
# Every day has one date

The date of a day exists and has the number of that day (`valid_ofDayNumber`,
`dayNumber_ofDayNumber`), so a moment is found again from what a clock in universal time shows at it, in
a leap second too (`toInstant?_reading`).
-/

namespace SessionTokens.Time

/-! ## Months -/

/-- A day of a year lies in one of its months. -/
theorem splitMonths_spec {lengths : List Nat} {offset : Nat} (month : Nat)
    (h : offset < daysIn lengths) :
    ∃ k, k < lengths.length ∧ (splitMonths month lengths offset).1 = month + k ∧
      1 ≤ (splitMonths month lengths offset).2 ∧
      (splitMonths month lengths offset).2 ≤ lengths.getD k 0 ∧
      daysIn (lengths.take k) + (splitMonths month lengths offset).2 = offset + 1 := by
  induction lengths generalizing month offset with
  | nil => exact absurd h (Nat.not_lt_zero offset)
  | cons n r ih =>
    -- the day is in this month, or in a later one by the induction hypothesis
    unfold splitMonths
    split
    · next hn => exact ⟨0, by simp, rfl, by simp, by simpa using Nat.succ_le_of_lt hn, by simp [daysIn]⟩
    · next hn =>
      rw [daysIn] at h
      obtain ⟨k, hk, hmonth, hpos, hle, hsum⟩ := ih (month + 1) (show offset - n < daysIn r by omega)
      refine ⟨k + 1, by simpa using hk, by omega, hpos, by simpa using hle, ?_⟩
      rw [List.take_succ_cons, daysIn]
      omega

/-- No month is longer than 31 days. -/
theorem getD_monthLengths_le (leap : Bool) (k : Nat) : (monthLengths leap).getD k 0 ≤ 31 := by
  by_cases hk : k < 12
  · revert k leap
    decide
  · have hlen : (monthLengths leap).length ≤ k := Nat.le_of_not_lt hk
    simp [List.getD_eq_getElem?_getD, List.getElem?_eq_none hlen]

namespace Date

theorem year_ofDayNumber (n : Int) : (ofDayNumber n).year = yearOf (n + epochDay) := rfl

/-- The month and the day of a date, by the place of its day in the year. -/
theorem ofDayNumber_spec (n : Int) :
    ∃ k, k < 12 ∧ (ofDayNumber n).month = 1 + k ∧ 1 ≤ (ofDayNumber n).day ∧
      (ofDayNumber n).day ≤ (monthLengths (isLeapYear (ofDayNumber n).year)).getD k 0 ∧
      yearStart (ofDayNumber n).year
        + daysIn ((monthLengths (isLeapYear (ofDayNumber n).year)).take k)
        + (ofDayNumber n).day = n + epochDay + 1 := by
  have h1 := yearStart_yearOf_le (n + epochDay)
  have h2 := lt_yearStart_yearOf_succ (n + epochDay)
  rw [yearStart_succ] at h2
  rw [year_ofDayNumber]
  have hoffset : (n + epochDay - yearStart (yearOf (n + epochDay))).toNat
      < daysIn (monthLengths (isLeapYear (yearOf (n + epochDay)))) := by omega
  obtain ⟨k, hk, hmonth, hpos, hle, hsum⟩ := splitMonths_spec 1 hoffset
  refine ⟨k, hk, hmonth, hpos, hle, ?_⟩
  simp only [ofDayNumber]
  omega

/-- The date of a day exists. -/
theorem valid_ofDayNumber (n : Int) : (ofDayNumber n).Valid := by
  obtain ⟨k, hk, hmonth, hpos, hle, -⟩ := ofDayNumber_spec n
  refine ⟨by omega, by omega, hpos, ?_⟩
  rw [hmonth, Nat.add_sub_cancel_left]
  exact hle

/-- The date of a day has the number of that day. -/
theorem dayNumber_ofDayNumber (n : Int) : (ofDayNumber n).dayNumber = n := by
  obtain ⟨k, -, hmonth, -, -, hsum⟩ := ofDayNumber_spec n
  unfold dayNumber
  rw [hmonth, Nat.add_sub_cancel_left]
  omega

/-- The days from `minSeconds` to `maxSeconds` are those of the years -262143 to 262142. -/
theorem year_ofDayNumber_bounds {n : Int} (h1 : minSeconds ≤ n * 86400)
    (h2 : n * 86400 ≤ maxSeconds) :
    -262143 ≤ (ofDayNumber n).year ∧ (ofDayNumber n).year ≤ 262142 := by
  have hle := yearStart_yearOf_le (n + epochDay)
  have hlt := lt_yearStart_yearOf_succ (n + epochDay)
  rw [year_ofDayNumber]
  generalize yearOf (n + epochDay) = y at *
  simp only [yearStart, minSeconds, maxSeconds, epochDay] at *
  have hlast : ¬262143 ≤ y := by
    intro hy
    -- the leap days are too close for bounds at the first year beyond the range
    rcases Int.lt_or_eq_of_le hy with hy | rfl
    · omega
    · omega
  omega

end Date

/-! ## Readings -/

theorem Instant.ofSeconds?_self (t : Instant) : ofSeconds? t.seconds t.nanos = some t :=
  dif_pos ⟨t.min_le, t.le_max, t.nanos_lt⟩

theorem Instant.ofSeconds?_eq_some_iff {seconds : Int} {nanos : Nat} {t : Instant} :
    ofSeconds? seconds nanos = some t ↔ seconds = t.seconds ∧ nanos = t.nanos := by
  constructor
  · intro h
    unfold ofSeconds? at h
    split at h
    · cases h
      exact ⟨rfl, rfl⟩
    · cases h
  · rintro ⟨rfl, rfl⟩
    exact t.ofSeconds?_self

theorem Instant.year_reading_bounds (t : Instant) :
    -262143 ≤ t.reading.date.year ∧ t.reading.date.year ≤ 262142 := by
  have h1 := t.min_le
  have h2 := t.le_max
  simp only [minSeconds, maxSeconds] at h1 h2
  refine Date.year_ofDayNumber_bounds ?_ ?_ <;> simp only [minSeconds, maxSeconds, daySeconds] <;>
    omega

theorem Instant.validTime_reading (t : Instant) : t.reading.ValidTime := by
  have hn := t.nanos_lt
  simp only [Reading.ValidTime, Instant.reading, daySeconds]
  refine ⟨?_, ?_, ?_, ?_⟩ <;> omega

/-- **A moment is found again from what a clock shows at it.** -/
theorem toInstant?_reading (t : Instant) : t.reading.toInstant? 0 = some t := by
  have hyear := t.year_reading_bounds
  have hn := t.nanos_lt
  unfold Reading.toInstant?
  rw [if_pos ⟨Date.valid_ofDayNumber _, t.validTime_reading, hyear.1, hyear.2⟩]
  simp only
  rw [show t.reading.date.dayNumber = t.seconds / daySeconds from Date.dayNumber_ofDayNumber _]
  -- a leap second is shown as the second 60, and goes back into the nanoseconds
  have hleap : t.reading.second / 60 = t.nanos / 1000000000 := by
    simp only [Instant.reading, daySeconds]
    omega
  rw [hleap]
  have hseconds : t.seconds / daySeconds * daySeconds
      + ((t.reading.hour : Int) * 3600 + t.reading.minute * 60 + t.reading.second
        - (t.nanos / 1000000000 : Nat)) - 0 = t.seconds := by
    simp only [Instant.reading, daySeconds]
    omega
  have hnanos : t.reading.nanos + t.nanos / 1000000000 * 1000000000 = t.nanos := by
    simp only [Instant.reading, daySeconds]
    omega
  rw [hseconds, hnanos]
  exact t.ofSeconds?_self

end SessionTokens.Time
