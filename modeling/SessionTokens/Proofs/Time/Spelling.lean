import Mathlib.Data.List.TakeWhile
import SessionTokens.Proofs.Except
import SessionTokens.Proofs.Time.DayCount
import SessionTokens.Proofs.Time.Strict

/-!
# What a strict timestamp spells

A spelling is a date and a time of day, written with the parts that may be written in more than one way: the
mark between date and time, the digits of the fraction and the offset from universal time. It stands for the
moment that is reached by counting from the start of 1970 to the date and time, less the offset. A text is
read as a moment exactly if it is a spelling of that moment (`read_eq_ok_iff`), and every spelling is one of
some moment (`exists_spells_iff`).
-/

namespace SessionTokens.Time.Strict

open Text.Decimal (isDigit valueOf fixed)

/-! ## Spellings -/

/-- How the offset from universal time is written. -/
inductive Zone where
  /-- A letter for universal time. -/
  | universal (letter : Char)
  /-- A sign, hours and minutes. -/
  | offset (sign : Char) (hours minutes : Nat)
deriving DecidableEq

namespace Zone

/-- The characters of an offset. -/
def chars : Zone → List Char
  | universal letter => [letter]
  | offset sign hours minutes => sign :: (fixed 2 hours ++ ':' :: fixed 2 minutes)

/-- The letter is a `Z` in either case; the sign is a plus, a hyphen or the minus of mathematics; and the
offset is less than a day. -/
def Proper : Zone → Prop
  | universal letter => letter = 'Z' ∨ letter = 'z'
  | offset sign hours minutes =>
    (sign = '+' ∨ sign = '-' ∨ sign = '\u2212') ∧ hours < 24 ∧ minutes < 60

/-- How many seconds a clock with the offset is ahead of universal time. -/
def seconds : Zone → Int
  | universal _ => 0
  | offset sign hours minutes => (if sign = '+' then 1 else -1) * (hours * 3600 + minutes * 60)

end Zone

/-- A date and a time of day as they are written. -/
structure Spelling where
  year : Nat
  month : Nat
  day : Nat
  /-- What stands between date and time. -/
  mark : Char
  hour : Nat
  minute : Nat
  second : Nat
  /-- The digits of the fraction; without any there is no point. -/
  fraction : List Char
  zone : Zone
deriving DecidableEq

/-- A fraction behind its point, if there is one. -/
def fractionPart (digits : List Char) : List Char :=
  if digits = [] then [] else '.' :: digits

namespace Spelling

/-- The characters of a spelling. -/
def chars (p : Spelling) : List Char :=
  fixed 4 p.year ++ '-' :: (fixed 2 p.month ++ '-' :: (fixed 2 p.day ++ p.mark ::
    (fixed 2 p.hour ++ ':' :: (fixed 2 p.minute ++ ':' :: (fixed 2 p.second
      ++ (fractionPart p.fraction ++ p.zone.chars))))))

/-- The date is one of the calendar in a year of four digits, the time is one of a clock, and all parts are
written as they may be. -/
structure Proper (p : Spelling) : Prop where
  year : p.year ≤ 9999
  date : (⟨p.year, p.month, p.day⟩ : Date).Valid
  mark : p.mark = 'T' ∨ p.mark = 't' ∨ p.mark = ' '
  hour : p.hour < 24
  minute : p.minute < 60
  /-- A second of 60 is a leap second. -/
  second : p.second ≤ 60
  fraction : ∀ d ∈ p.fraction, isDigit d = true
  zone : p.zone.Proper

/-- The whole nanoseconds of the fraction. -/
def nanos (p : Spelling) : Nat :=
  valueOf p.fraction * 10 ^ 9 / 10 ^ p.fraction.length

/-- The seconds from the start of 1970 in universal time to the date and time, less the offset. -/
def seconds (p : Spelling) : Int :=
  ((daysBefore p.year p.month p.day : Int) - daysBefore 1970 1 1) * 86400
    + p.hour * 3600 + p.minute * 60 + p.second - p.zone.seconds

/-- The nanoseconds from the start of 1970 in universal time to the date and time, less the offset. -/
def total (p : Spelling) : Int :=
  p.seconds * 1000000000 + p.nanos

end Spelling

/-- The text spells the moment. Of two moments that are as far from the start of 1970, the one inside a leap
second is meant where the second is 60. -/
def Spells (s : String) (t : Instant) : Prop :=
  ∃ p : Spelling, p.Proper ∧ s.toList = p.chars ∧ t.total = p.total ∧ (t.Ordinary ↔ p.second < 60)

/-! ## Numbers and characters -/

theorem takeNumber_eq_ok_iff {count n : Nat} {l rest : List Char} :
    takeNumber count l = .ok (n, rest) ↔ n < 10 ^ count ∧ l = fixed count n ++ rest := by
  constructor
  · intro h
    unfold takeNumber at h
    simp only at h
    split at h
    · cases h
    · split at h
      · next hdigits =>
        obtain ⟨hlength, hall⟩ := hdigits
        have hall := List.all_eq_true.mp hall
        cases h
        refine ⟨by simpa [hlength] using Text.Decimal.valueOf_lt hall, ?_⟩
        have hfixed := Text.Decimal.fixed_valueOf hall
        rw [hlength] at hfixed
        rw [hfixed, List.take_append_drop]
      · cases h
  · rintro ⟨hn, rfl⟩
    exact takeNumber_fixed hn rest

theorem takeChar_eq_ok_iff {accepted : Char → Bool} {l rest : List Char} :
    takeChar accepted l = .ok rest ↔ ∃ c, accepted c = true ∧ l = c :: rest := by
  cases l with
  | nil => simp [takeChar]
  | cons c r =>
    unfold takeChar
    cases hc : accepted c <;> simp [hc]

theorem takeChar_beq_eq_ok_iff {c : Char} {l rest : List Char} :
    takeChar (· == c) l = .ok rest ↔ l = c :: rest := by
  simp [takeChar_eq_ok_iff]

/-! ## Fractions -/

/-- Digits before others count for their place. -/
theorem valueOf_append_digits (l r : List Char) :
    valueOf (l ++ r) = valueOf l * 10 ^ r.length + valueOf r := by
  induction r using List.reverseRecOn with
  | nil => simp [valueOf]
  | append_singleton r c ih =>
    rw [← List.append_assoc, Text.Decimal.valueOf_append, Text.Decimal.valueOf_append, ih,
      List.length_append, List.length_singleton, Nat.pow_succ, Nat.mul_add, Nat.add_assoc,
      ← Nat.mul_assoc (valueOf l), Nat.mul_comm 10 (valueOf l * _)]

/-- Digits after the ninth count for nothing. -/
theorem nanosOf_eq {digits : List Char} (h : ∀ d ∈ digits, isDigit d = true) :
    nanosOf digits = valueOf digits * 10 ^ 9 / 10 ^ digits.length := by
  -- nine zeros are put behind the digits, and all but the first nine digits are dropped then
  have hzeros := valueOf_append_zeros digits 9
  have hsplit := valueOf_append_digits ((digits ++ List.replicate 9 '0').take 9)
    ((digits ++ List.replicate 9 '0').drop 9)
  have hlength : ((digits ++ List.replicate 9 '0').drop 9).length = digits.length := by simp
  have hdigits : ∀ d ∈ (digits ++ List.replicate 9 '0').drop 9, isDigit d = true := by
    intro d hd
    rcases List.mem_append.mp (List.mem_of_mem_drop hd) with hd | hd
    · exact h d hd
    · rw [List.eq_of_mem_replicate hd]
      decide
  have hlt := Text.Decimal.valueOf_lt hdigits
  rw [hlength] at hlt hsplit
  rw [List.take_append_drop, hzeros] at hsplit
  rw [hsplit, nanosOf, Nat.mul_comm _ (10 ^ digits.length), Nat.mul_add_div (Nat.pow_pos (by decide)),
    Nat.div_eq_of_lt hlt, Nat.add_zero]

theorem exists_of_takeFraction {nanos : Nat} {l rest : List Char}
    (h : takeFraction l = .ok (nanos, rest)) :
    ∃ digits, (∀ d ∈ digits, isDigit d = true) ∧ nanos = nanosOf digits ∧
      l = fractionPart digits ++ rest := by
  unfold takeFraction at h
  split at h
  · cases h
  · next r _ =>
    simp only at h
    split at h
    · cases h
    · next hne =>
      cases h
      refine ⟨r.takeWhile isDigit, fun d hd => List.mem_takeWhile_imp hd, rfl, ?_⟩
      rw [fractionPart, if_neg (by simpa using hne), List.cons_append, List.takeWhile_append_dropWhile]
  · cases h
    exact ⟨[], by simp, rfl, rfl⟩

theorem takeFraction_fractionPart {digits : List Char} (h : ∀ d ∈ digits, isDigit d = true) {c : Char}
    (hc : isDigit c = false) (hpoint : c ≠ '.') (rest : List Char) :
    takeFraction (fractionPart digits ++ c :: rest) = .ok (nanosOf digits, c :: rest) := by
  unfold fractionPart
  split
  · next hnil =>
    subst hnil
    rw [List.nil_append, takeFraction]
    · rfl
    · intro heq
      exact hpoint (List.cons.inj heq).1
    · intro r heq
      exact hpoint (List.cons.inj heq).1
  · next hne =>
    obtain ⟨htake, hdrop⟩ := takeWhile_isDigit h hc rest
    rw [List.cons_append, takeFraction]
    · simp only [htake, hdrop]
      rw [if_neg (by simpa using hne)]
    · simp

/-! ## Offsets -/

theorem takeHoursMinutes_eq_ok_iff {sign offset : Int} {l rest : List Char} :
    takeHoursMinutes sign l = .ok (offset, rest) ↔
      ∃ hours minutes : Nat, hours < 100 ∧ minutes < 60 ∧
        l = fixed 2 hours ++ ':' :: (fixed 2 minutes ++ rest) ∧
        offset = sign * (hours * 3600 + minutes * 60) := by
  simp only [takeHoursMinutes, bind_eq_ok_iff, Prod.exists, takeNumber_eq_ok_iff, takeChar_beq_eq_ok_iff]
  constructor
  · rintro ⟨hours, l₁, ⟨hhours, rfl⟩, l₂, rfl, minutes, l₃, ⟨-, rfl⟩, h⟩
    split at h
    · next hminutes =>
      cases h
      exact ⟨hours, minutes, hhours, hminutes, rfl, rfl⟩
    · cases h
  · rintro ⟨hours, minutes, hhours, hminutes, rfl, rfl⟩
    refine ⟨hours, _, ⟨hhours, rfl⟩, _, rfl, minutes, rest, ⟨by omega, rfl⟩, ?_⟩
    rw [if_pos hminutes]

/-- The offset that is taken and is less than a day is a proper one. -/
theorem exists_of_takeOffset {offset : Int} {l rest : List Char} (h : takeOffset l = .ok (offset, rest))
    (hday : offset.natAbs < daySeconds) :
    ∃ z : Zone, z.Proper ∧ l = z.chars ++ rest ∧ offset = z.seconds := by
  unfold takeOffset at h
  split at h
  · cases h
  · next c r =>
    split at h
    · next hletter =>
      cases h
      exact ⟨.universal c, hletter, rfl, rfl⟩
    split at h
    · next hplus =>
      obtain ⟨hours, minutes, -, hminutes, rfl, rfl⟩ := takeHoursMinutes_eq_ok_iff.mp h
      have hhours : hours < 24 := by
        simp only [daySeconds] at hday
        omega
      refine ⟨.offset c hours minutes, ⟨Or.inl hplus, hhours, hminutes⟩, ?_, ?_⟩
      · simp [Zone.chars]
      · rw [Zone.seconds, if_pos hplus]
    split at h
    · next hplus hminus =>
      obtain ⟨hours, minutes, -, hminutes, rfl, rfl⟩ := takeHoursMinutes_eq_ok_iff.mp h
      have hhours : hours < 24 := by
        simp only [daySeconds] at hday
        omega
      refine ⟨.offset c hours minutes, ⟨Or.inr hminus, hhours, hminutes⟩, ?_, ?_⟩
      · simp [Zone.chars]
      · rw [Zone.seconds, if_neg hplus]
    · cases h

theorem takeOffset_chars {z : Zone} (h : z.Proper) : takeOffset z.chars = .ok (z.seconds, []) := by
  cases z with
  | universal letter => exact if_pos h
  | offset sign hours minutes =>
    obtain ⟨hsign, hhours, hminutes⟩ := h
    have htake (s : Int) : takeHoursMinutes s (fixed 2 hours ++ ':' :: fixed 2 minutes)
        = .ok (s * (hours * 3600 + minutes * 60), []) :=
      takeHoursMinutes_eq_ok_iff.mpr ⟨hours, minutes, by omega, hminutes, by simp, rfl⟩
    unfold Zone.chars Zone.seconds takeOffset
    simp only [htake]
    rcases hsign with rfl | rfl | rfl <;> rfl

theorem natAbs_seconds_lt {z : Zone} (h : z.Proper) : z.seconds.natAbs < daySeconds := by
  cases z with
  | universal letter => exact show ((0 : Int).natAbs : Int) < daySeconds by decide
  | offset sign hours minutes =>
    obtain ⟨-, hhours, hminutes⟩ := h
    unfold Zone.seconds
    simp only [daySeconds]
    split <;> omega

/-- An offset starts with neither a digit nor a point, so that it ends a fraction. -/
theorem exists_chars_eq_cons {z : Zone} (h : z.Proper) :
    ∃ c r, z.chars = c :: r ∧ isDigit c = false ∧ c ≠ '.' := by
  cases z with
  | universal letter =>
    refine ⟨letter, [], rfl, ?_⟩
    rcases h with rfl | rfl <;> decide
  | offset sign hours minutes =>
    refine ⟨sign, _, rfl, ?_⟩
    rcases h.1 with rfl | rfl | rfl <;> decide

/-! ## Dates and times of day -/

theorem takeDate_eq_ok_iff {date : Date} {l rest : List Char} :
    takeDate l = .ok (date, rest) ↔
      ∃ year month day : Nat, year ≤ 9999 ∧ date = ⟨year, month, day⟩ ∧ date.Valid ∧
        l = fixed 4 year ++ '-' :: (fixed 2 month ++ '-' :: (fixed 2 day ++ rest)) := by
  simp only [takeDate, bind_eq_ok_iff, Prod.exists, takeNumber_eq_ok_iff, takeChar_beq_eq_ok_iff]
  constructor
  · rintro ⟨year, l₁, ⟨hyear, rfl⟩, l₂, rfl, month, l₃, ⟨-, rfl⟩, l₄, rfl, day, l₅, ⟨-, rfl⟩, h⟩
    split at h
    · next hvalid =>
      cases h
      exact ⟨year, month, day, by omega, rfl, hvalid, rfl⟩
    · cases h
  · rintro ⟨year, month, day, hyear, rfl, hvalid, rfl⟩
    obtain ⟨-, hmonth, -, hday⟩ := id hvalid
    have hday_le := Nat.le_trans hday (getD_monthLengths_le _ _)
    simp only at hmonth hday_le
    exact ⟨year, _, ⟨by omega, rfl⟩, _, rfl, month, _, ⟨by omega, rfl⟩, _, rfl, day, rest,
      ⟨by omega, rfl⟩, if_pos hvalid⟩

theorem exists_of_takeTime {date : Date} {r : Reading} {l rest : List Char}
    (h : takeTime date l = .ok (r, rest)) :
    ∃ (hour minute second : Nat) (digits : List Char), (∀ d ∈ digits, isDigit d = true) ∧
      r = ⟨date, hour, minute, second, nanosOf digits⟩ ∧ r.ValidTime ∧
      l = fixed 2 hour ++ ':' :: (fixed 2 minute ++ ':' :: (fixed 2 second
        ++ (fractionPart digits ++ rest))) := by
  simp only [takeTime, bind_eq_ok_iff, Prod.exists, takeNumber_eq_ok_iff, takeChar_beq_eq_ok_iff] at h
  obtain ⟨hour, l₁, ⟨-, rfl⟩, l₂, rfl, minute, l₃, ⟨-, rfl⟩, l₄, rfl, second, l₅, ⟨-, rfl⟩, nanos, l₆,
    hfraction, h⟩ := h
  obtain ⟨digits, hdigits, rfl, rfl⟩ := exists_of_takeFraction hfraction
  split at h
  · next hvalid =>
    cases h
    exact ⟨hour, minute, second, digits, hdigits, rfl, hvalid, rfl⟩
  · cases h

theorem takeTime_of_validTime {date : Date} {hour minute second : Nat} {digits : List Char}
    (hdigits : ∀ d ∈ digits, isDigit d = true)
    (hvalid : (⟨date, hour, minute, second, nanosOf digits⟩ : Reading).ValidTime) {c : Char}
    (hc : isDigit c = false) (hpoint : c ≠ '.') (rest : List Char) :
    takeTime date (fixed 2 hour ++ ':' :: (fixed 2 minute ++ ':' :: (fixed 2 second
      ++ (fractionPart digits ++ c :: rest))))
      = .ok (⟨date, hour, minute, second, nanosOf digits⟩, c :: rest) := by
  obtain ⟨hhour, hminute, hsecond, -⟩ := id hvalid
  simp only at hhour hminute hsecond
  simp only [takeTime, bind_eq_ok_iff, Prod.exists, takeNumber_eq_ok_iff, takeChar_beq_eq_ok_iff]
  exact ⟨hour, _, ⟨by omega, rfl⟩, _, rfl, minute, _, ⟨by omega, rfl⟩, _, rfl, second, _, ⟨by omega, rfl⟩,
    _, _, takeFraction_fractionPart hdigits hc hpoint rest, if_pos hvalid⟩

/-! ## Moments -/

namespace Spelling

variable {p : Spelling} {t : Instant}

/-- What a calendar and a clock show at the place of the spelling. -/
def reading (p : Spelling) : Reading :=
  ⟨⟨p.year, p.month, p.day⟩, p.hour, p.minute, p.second, p.nanos⟩

theorem nanos_lt (h : ∀ d ∈ p.fraction, isDigit d = true) : p.nanos < 1000000000 := by
  have hlt := Text.Decimal.valueOf_lt h
  refine Nat.div_lt_of_lt_mul ?_
  exact Nat.mul_lt_mul_of_pos_right hlt (by decide)

theorem Proper.validTime_reading (h : p.Proper) : p.reading.ValidTime :=
  ⟨h.hour, h.minute, h.second, nanos_lt h.fraction⟩

/-- The moment that a calendar and a clock give is the one that is found by counting. In a leap second the
nanoseconds run on behind the second before it. -/
theorem Proper.toInstant?_eq_some_iff (h : p.Proper) :
    p.reading.toInstant? p.zone.seconds = some t ↔
      t.total = p.total ∧ (t.Ordinary ↔ p.second < 60) := by
  have hyear := h.year
  have hsecond := h.second
  have hnanos := nanos_lt h.fraction
  have ht := t.nanos_lt
  unfold Reading.toInstant?
  rw [if_pos ⟨h.date, h.validTime_reading, by simp only [reading]; omega, by simp only [reading]; omega⟩]
  simp only [reading, dayNumber_eq h.date.2.2.1, Instant.ofSeconds?_eq_some_iff, Instant.total, total,
    seconds, Instant.Ordinary, Time.second, daySeconds]
  rcases Nat.lt_or_eq_of_le hsecond with hlt | hleap
  · have hnone : p.second / 60 = 0 := Nat.div_eq_of_lt hlt
    rw [hnone]
    omega
  · have hone : p.second / 60 = 1 := by rw [hleap]
    rw [hone]
    omega

/-- An offset is a whole number of minutes. -/
theorem seconds_zone_mod (z : Zone) : z.seconds % 60 = 0 := by
  cases z with
  | universal letter => rfl
  | offset sign hours minutes =>
    simp only [Zone.seconds]
    split <;> omega

/-- No month starts later than December of a leap year. -/
theorem sum_months_le (leap : Bool) (month : Nat) (h : month ≤ 12) :
    daysIn ((monthLengths leap).take (month - 1)) ≤ 335 := by
  revert leap month
  decide

/-- No moment in a year of four digits is out of range. -/
theorem Proper.exists_toInstant? (h : p.Proper) : ∃ t, p.reading.toInstant? p.zone.seconds = some t := by
  obtain ⟨-, hmonth, hday, hlong⟩ := id h.date
  have hday_le := Nat.le_trans hlong (getD_monthLengths_le _ _)
  have hmonths := sum_months_le (isLeapYear p.year) p.month hmonth
  have hyear := h.year
  have hhour := h.hour
  have hminute := h.minute
  have hsecond := h.second
  have hnanos := nanos_lt h.fraction
  have hzone := natAbs_seconds_lt h.zone
  have hzone_mod := seconds_zone_mod p.zone
  unfold Reading.toInstant?
  rw [if_pos ⟨h.date, h.validTime_reading, by simp only [reading]; omega, by simp only [reading]; omega⟩]
  simp only at hday hday_le
  simp only [reading, Date.dayNumber, yearStart, Instant.ofSeconds?, daySeconds, epochDay, minSeconds,
    maxSeconds] at hzone hmonths ⊢
  refine ⟨_, dif_pos ⟨?_, ?_, ?_⟩⟩
  · omega
  · omega
  · omega

end Spelling

/-! ## The whole text -/

/-- A text that is read is a proper spelling. -/
theorem exists_spelling_of_read {s : String} {t : Instant} (h : read s = .ok t) :
    ∃ p : Spelling, p.Proper ∧ s.toList = p.chars ∧ p.reading.toInstant? p.zone.seconds = some t := by
  unfold read at h
  split at h
  · cases h
  simp only [bind_eq_ok_iff, Prod.exists, takeDate_eq_ok_iff, takeChar_eq_ok_iff] at h
  obtain ⟨date, l₁, ⟨year, month, day, hyear, rfl, hdate, hchars⟩, l₂, ⟨mark, hmark, rfl⟩, r, l₃, htime,
    offset, l₄, hoffset, h⟩ := h
  obtain ⟨hour, minute, second, digits, hdigits, rfl, ⟨hhour, hminute, hsecond, -⟩, rfl⟩ :=
    exists_of_takeTime htime
  split at h
  · cases h
  split at h
  · cases h
  next hend hday =>
  have hnil : l₄ = [] := by simpa using hend
  obtain ⟨z, hz, rfl, rfl⟩ := exists_of_takeOffset hoffset (Int.lt_of_not_ge hday)
  refine ⟨⟨year, month, day, mark, hour, minute, second, digits, z⟩, ?_, ?_, ?_⟩
  · have hmark : mark = 'T' ∨ mark = 't' ∨ mark = ' ' := by simpa [or_assoc] using hmark
    exact ⟨hyear, hdate, hmark, hhour, hminute, hsecond, hdigits, hz⟩
  · rw [hchars, hnil, List.append_nil]
    rfl
  · split at h
    · next t' ht =>
      cases h
      rw [Spelling.reading, Spelling.nanos, ← nanosOf_eq hdigits]
      exact ht
    · cases h

/-- A proper spelling is read as its moment. -/
theorem read_of_spelling {s : String} {p : Spelling} (h : p.Proper) (hs : s.toList = p.chars)
    {t : Instant} (ht : p.reading.toInstant? p.zone.seconds = some t) : read s = .ok t := by
  obtain ⟨c, r, hzone, hc, hpoint⟩ := exists_chars_eq_cons h.zone
  have hnanos : p.nanos = nanosOf p.fraction := (nanosOf_eq h.fraction).symm
  have hvalid := h.validTime_reading
  rw [Spelling.reading, hnanos] at hvalid ht
  have hdate (l : List Char) : takeDate (fixed 4 p.year ++ '-' :: (fixed 2 p.month ++ '-' ::
      (fixed 2 p.day ++ l))) = .ok (⟨p.year, p.month, p.day⟩, l) :=
    takeDate_eq_ok_iff.mpr ⟨p.year, p.month, p.day, h.year, rfl, h.date, rfl⟩
  have hmark (l : List Char) :
      takeChar (fun c => c == 'T' || c == 't' || c == ' ') (p.mark :: l) = .ok l :=
    takeChar_eq_ok_iff.mpr ⟨p.mark, by simpa [or_assoc] using h.mark, rfl⟩
  have htime := takeTime_of_validTime h.fraction hvalid hc hpoint r
  have hoffset := takeOffset_chars h.zone
  rw [← hzone] at htime
  have hlong : ¬s.utf8ByteSize < minLength := by
    have hbytes := length_le_utf8ByteSize s.toList
    rw [String.ofList_toList] at hbytes
    have hlength : 19 ≤ s.toList.length := by
      simp only [hs, Spelling.chars, List.length_append, List.length_cons, Text.Decimal.length_fixed]
      omega
    exact Nat.not_lt.mpr (Nat.le_trans hlength hbytes)
  unfold read
  rw [if_neg hlong, hs, Spelling.chars]
  simp only [bind, Except.bind, hdate, hmark, htime, hoffset, ht]
  rw [if_neg (by simp), if_neg (Int.not_le.mpr (natAbs_seconds_lt h.zone))]

/-- **A text is read as a moment exactly if it spells that moment.** -/
theorem read_eq_ok_iff {s : String} {t : Instant} : read s = .ok t ↔ Spells s t := by
  constructor
  · intro h
    obtain ⟨p, hp, hs, ht⟩ := exists_spelling_of_read h
    exact ⟨p, hp, hs, hp.toInstant?_eq_some_iff.mp ht⟩
  · rintro ⟨p, hp, hs, ht⟩
    exact read_of_spelling hp hs (hp.toInstant?_eq_some_iff.mpr ht)

/-- Every proper spelling spells a moment. -/
theorem exists_spells_iff {s : String} :
    (∃ t, Spells s t) ↔ ∃ p : Spelling, p.Proper ∧ s.toList = p.chars := by
  constructor
  · rintro ⟨t, p, hp, hs, -⟩
    exact ⟨p, hp, hs⟩
  · rintro ⟨p, hp, hs⟩
    obtain ⟨t, ht⟩ := hp.exists_toInstant?
    exact ⟨t, p, hp, hs, hp.toInstant?_eq_some_iff.mp ht⟩

/-- An offset may carry over the end of a month and of a year. -/
example : read "2023-12-31 22:30:00.5000000009−02:15" = read "2024-01-01T00:45:00.5Z" := by
  decide +kernel

end SessionTokens.Time.Strict
