import SessionTokens.Proofs.Text.Decimal
import SessionTokens.Proofs.Time.Calendar
import SessionTokens.Time.Lenient
import SessionTokens.Time.Printer

/-!
# Written instants are read back

Each reader of a lenient timestamp takes the part that was written for it and leaves the rest alone, so a
moment is read back from its text, to the nanosecond and over the whole range of years
(`read?_toText`).
-/

namespace SessionTokens.Time

open Text (isBlank)
open Text.Decimal (isDigit valueOf fixed atLeast digit)

/-! ## Digits -/

theorem isBlank_of_isDigit {c : Char} (h : isDigit c = true) : isBlank c = false := by
  unfold isDigit Text.Decimal.value? at h
  simp only at h
  split at h
  · next hc =>
    unfold isBlank
    simp only [Bool.or_eq_false_iff, Bool.and_eq_false_iff, decide_eq_false_iff_not, beq_eq_false_iff_ne]
    omega
  · simp at h

/-- A run of digits ends where another character stands. -/
theorem takeWhile_isDigit {digits : List Char} {c : Char} (h : ∀ d ∈ digits, isDigit d = true)
    (hc : isDigit c = false) (rest : List Char) :
    (digits ++ c :: rest).takeWhile isDigit = digits ∧
      (digits ++ c :: rest).dropWhile isDigit = c :: rest := by
  rw [List.takeWhile_append_of_pos h, List.dropWhile_append_of_pos h,
    List.takeWhile_cons_of_neg (by simp [hc]), List.dropWhile_cons_of_neg (by simp [hc])]
  simp

/-- Zeros behind digits multiply the number. -/
theorem valueOf_append_zeros (l : List Char) (n : Nat) :
    valueOf (l ++ List.replicate n '0') = valueOf l * 10 ^ n := by
  induction n with
  | zero => simp
  | succ n ih =>
    rw [List.replicate_succ', ← List.append_assoc, Text.Decimal.valueOf_append, ih, Nat.pow_succ]
    rw [show (Text.Decimal.value? '0').getD 0 = 0 from by decide, Nat.add_zero, Nat.mul_comm,
      Nat.mul_assoc]

/-- Digits of a fraction stand for as many nanoseconds as their place says. -/
theorem nanosOf_fixed {width m : Nat} (hw : width ≤ 9) (hm : m < 10 ^ width) :
    Strict.nanosOf (fixed width m) = m * 10 ^ (9 - width) := by
  have htake : (fixed width m ++ List.replicate 9 '0').take 9
      = fixed width m ++ List.replicate (9 - width) '0' := by
    rw [List.take_append, Text.Decimal.length_fixed, List.take_replicate,
      List.take_of_length_le (by rw [Text.Decimal.length_fixed]; exact hw),
      Nat.min_eq_left (by omega)]
  rw [Strict.nanosOf, htake, valueOf_append_zeros, Text.Decimal.valueOf_fixed hm]

/-- The digits of a fraction, if there are any. -/
theorem fractionChars_spec {nanos : Nat} (h : nanos < 1000000000) :
    (nanos = 0 ∧ fractionChars nanos = []) ∨
      ∃ digits, fractionChars nanos = '.' :: digits ∧ digits ≠ [] ∧
        (∀ d ∈ digits, isDigit d = true) ∧ Strict.nanosOf digits = nanos := by
  unfold fractionChars
  have hne (width m : Nat) (hw : 0 < width) : fixed width m ≠ [] := by
    intro hnil
    have := congrArg List.length hnil
    rw [Text.Decimal.length_fixed, List.length_nil] at this
    omega
  split
  · next h0 => exact Or.inl ⟨h0, rfl⟩
  refine Or.inr ?_
  -- three, six or nine digits; the zeros that were left out are put back by the reader
  split
  · refine ⟨_, rfl, hne 3 _ (by decide), Text.Decimal.isDigit_of_mem_fixed _ _, ?_⟩
    rw [nanosOf_fixed (by decide) (by omega)]
    omega
  split
  · refine ⟨_, rfl, hne 6 _ (by decide), Text.Decimal.isDigit_of_mem_fixed _ _, ?_⟩
    rw [nanosOf_fixed (by decide) (by omega)]
    omega
  · refine ⟨_, rfl, hne 9 _ (by decide), Text.Decimal.isDigit_of_mem_fixed _ _, ?_⟩
    rw [nanosOf_fixed (by decide) (by omega)]
    omega

namespace Lenient

/-! ## Parts -/

theorem skipBlanks_cons {c : Char} {r : List Char} (h : isBlank c = false) :
    skipBlanks (c :: r) = c :: r :=
  List.dropWhile_cons_of_neg (by simp [h])

/-- Before digits there is no white space to skip. -/
theorem skipBlanks_digits {digits rest : List Char} (hne : digits ≠ [])
    (h : ∀ d ∈ digits, isDigit d = true) : skipBlanks (digits ++ rest) = digits ++ rest := by
  cases digits with
  | nil => exact absurd rfl hne
  | cons d r => exact skipBlanks_cons (isBlank_of_isDigit (h d List.mem_cons_self))

theorem takeNumber?_fixed {width n : Nat} (hw : 0 < width) (hn : n < 10 ^ width)
    (rest : List Char) :
    takeNumber? width (fixed width n ++ rest) = some (n, rest) := by
  have hlen : (fixed width n).length = width := Text.Decimal.length_fixed width n
  have hne : fixed width n ≠ [] := by
    intro hnil
    rw [hnil, List.length_nil] at hlen
    omega
  have hdigits : ((fixed width n ++ rest).take width).takeWhile isDigit = fixed width n := by
    have happ : (fixed width n ++ []).takeWhile isDigit = fixed width n ++ [].takeWhile isDigit :=
      List.takeWhile_append_of_pos (Text.Decimal.isDigit_of_mem_fixed width n)
    rw [List.take_left' hlen]
    simpa using happ
  simp only [takeNumber?, skipBlanks_digits hne (Text.Decimal.isDigit_of_mem_fixed width n),
    hdigits]
  rw [if_neg (by simpa using hne), Text.Decimal.valueOf_fixed hn, hlen, List.drop_left' hlen]

theorem takePart?_fixed {separator : Char} {n : Nat} (hs : isBlank separator = false) (hn : n < 100)
    (rest : List Char) : takePart? separator (separator :: (fixed 2 n ++ rest)) = some (n, rest) := by
  rw [takePart?, skipBlanks_cons hs, takeChar?, if_pos rfl]
  exact takeNumber?_fixed (by decide) hn rest

theorem takeYear?_yearChars (y : Int) (rest : List Char) :
    takeYear? (yearChars y ++ '-' :: rest) = some (y, '-' :: rest) := by
  have hend : isDigit '-' = false := by decide
  unfold yearChars
  split
  · next hy =>
    -- four digits, of which the first is no sign
    have hdigits := Text.Decimal.isDigit_of_mem_fixed 4 y.toNat
    have htake := takeNumber?_fixed (by decide) (show y.toNat < 10 ^ 4 by omega) ('-' :: rest)
    have hlen := Text.Decimal.length_fixed 4 y.toNat
    generalize fixed 4 y.toNat = digits at *
    cases digits with
    | nil => simp at hlen
    | cons d r =>
      have hd : isDigit d = true := hdigits d List.mem_cons_self
      have hsign : ¬(d = '+' ∨ d = '-') := by
        rintro (rfl | rfl)
        · exact absurd hd (by decide)
        · exact absurd hd (by decide)
      rw [List.cons_append] at htake ⊢
      simp only [takeYear?, skipBlanks_cons (isBlank_of_isDigit hd), if_neg hsign, htake,
        Option.map_some]
      rw [Int.toNat_of_nonneg hy.1]
  · next hy =>
    -- a sign, and then as many digits as there are
    obtain ⟨htake, hdrop⟩ :=
      takeWhile_isDigit (Text.Decimal.isDigit_of_mem_atLeast 4 y.natAbs) hend rest
    have hne : (atLeast 4 y.natAbs).isEmpty = false := by
      simpa using Text.Decimal.atLeast_ne_nil 4 y.natAbs
    by_cases hneg : y < 0
    · simp only [if_pos hneg, List.cons_append, takeYear?, skipBlanks_cons (c := '-') (by decide),
        htake, hdrop, hne, Text.Decimal.valueOf_atLeast]
      have hy : -1 * (y.natAbs : Int) = y := by omega
      rw [if_pos (Or.inr trivial), if_neg Bool.false_ne_true, if_pos trivial, hy]
    · simp only [if_neg hneg, List.cons_append, takeYear?, skipBlanks_cons (c := '+') (by decide),
        htake, hdrop, hne, Text.Decimal.valueOf_atLeast]
      have hy : 1 * (y.natAbs : Int) = y := by omega
      rw [if_pos (Or.inl trivial), if_neg Bool.false_ne_true, if_neg (by decide), hy]

theorem takeFraction?_fractionChars {nanos : Nat} (h : nanos < 1000000000) {c : Char}
    (hc : isDigit c = false) (hpoint : c ≠ '.') (rest : List Char) :
    takeFraction? (fractionChars nanos ++ c :: rest) = some (nanos, c :: rest) := by
  rcases fractionChars_spec h with ⟨rfl, h0⟩ | ⟨digits, hchars, hne, hdigits, hnanos⟩
  · rw [h0, List.nil_append, takeFraction?]
    intro r hr
    exact hpoint (List.cons.inj hr).1
  · obtain ⟨htake, hdrop⟩ := takeWhile_isDigit hdigits hc rest
    rw [hchars, List.cons_append, takeFraction?]
    simp only [htake, hdrop]
    rw [if_neg (by simpa using hne), hnanos]

/-! ## The whole text -/

/-- The bounds of the numbers in a reading. -/
theorem reading_bounds (t : Instant) :
    t.reading.date.month < 100 ∧ t.reading.date.day < 100 ∧ t.reading.hour < 100 ∧
      t.reading.minute < 100 ∧ t.reading.second < 100 ∧ t.reading.nanos < 1000000000 := by
  obtain ⟨hhour, hminute, hsecond, hnanos⟩ := t.validTime_reading
  obtain ⟨-, hmonth, -, hday⟩ : t.reading.date.Valid := Date.valid_ofDayNumber _
  have hlong := getD_monthLengths_le (isLeapYear t.reading.date.year) (t.reading.date.month - 1)
  omega

theorem readChars?_toChars (t : Instant) : readChars? (t.reading.toChars ++ ['Z']) = some t := by
  obtain ⟨hmonth, hday, hhour, hminute, hsecond, hnanos⟩ := reading_bounds t
  have hmark (l : List Char) : takeTimeMark? ('T' :: l) = some l := by simp [takeTimeMark?]
  have hoffset : takeOffset? ['Z'] = some (0, []) := by decide
  unfold readChars? Reading.toChars Date.toChars
  simp only [List.append_assoc, List.cons_append, Option.bind_eq_bind, Option.bind_some,
    takeYear?_yearChars,
    takePart?_fixed (show isBlank '-' = false by decide) hmonth,
    takePart?_fixed (show isBlank '-' = false by decide) hday, hmark,
    takeNumber?_fixed (by decide) (show t.reading.hour < 10 ^ 2 from hhour),
    takePart?_fixed (show isBlank ':' = false by decide) hminute,
    takePart?_fixed (show isBlank ':' = false by decide) hsecond,
    takeFraction?_fractionChars hnanos (show isDigit 'Z' = false by decide) (by decide), hoffset]
  rw [if_pos ⟨rfl, by decide⟩]
  exact toInstant?_reading t

/-- **A moment is read back from its text.** -/
theorem read?_toText (t : Instant) : read? t.toText = some t := by
  rw [read?, Instant.toText, String.toList_ofList]
  exact readChars?_toChars t

/-- The middle of a leap second. -/
example : (⟨78796799, 1500000000, by decide, by decide, by decide⟩ : Instant).reading.toChars
    = "1972-06-30T23:59:60.500".toList := by
  decide +kernel

end Lenient

end SessionTokens.Time
