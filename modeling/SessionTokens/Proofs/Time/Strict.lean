import SessionTokens.Proofs.Text.Utf8
import SessionTokens.Proofs.Time.Printer

/-!
# Written rows are read strictly

The text of a moment as a table keeps it is a strict timestamp exactly if the year has four digits: then
the moment is read back, and otherwise the sign in front of the year is refused (`read_toRowText`,
`read_toRowText_of_not`).
-/

namespace SessionTokens.Time

open Text.Decimal (isDigit valueOf fixed atLeast)
open Text.Utf8 (byteLength byteLength_of_ascii)

/-- The year of the moment is written with four digits and no sign. -/
def Instant.FourDigitYear (t : Instant) : Prop :=
  0 ≤ t.reading.date.year ∧ t.reading.date.year ≤ 9999

instance (t : Instant) : Decidable t.FourDigitYear :=
  inferInstanceAs (Decidable (_ ∧ _))

namespace Strict

/-! ## Lengths in bytes -/

theorem utf8Size_of_isDigit {c : Char} (h : isDigit c = true) : c.utf8Size = 1 := by
  have hc : c.toNat ≤ 57 := by
    unfold isDigit Text.Decimal.value? at h
    simp only at h
    split at h
    · next hn => exact hn.2
    · simp at h
  exact Char.utf8Size_eq_one_iff.mpr (UInt32.le_iff_toNat_le.mpr (Nat.le_trans hc (by decide)))

theorem byteLength_of_isDigit {digits : List Char} (h : ∀ d ∈ digits, isDigit d = true) :
    byteLength digits = digits.length :=
  byteLength_of_ascii fun d hd => utf8Size_of_isDigit (h d hd)

theorem length_le_utf8ByteSize (l : List Char) : l.length ≤ (String.ofList l).utf8ByteSize := by
  induction l with
  | nil => simp
  | cons c r ih =>
    have hc : 0 < c.utf8Size := c.utf8Size_pos
    have hcons : String.ofList (c :: r) = String.singleton c ++ String.ofList r := by
      rw [String.singleton_eq_ofList, ← String.ofList_append]
      rfl
    rw [hcons, String.utf8ByteSize_append, String.utf8ByteSize_singleton, List.length_cons]
    omega

/-! ## Parts -/

theorem takeNumber_fixed {width n : Nat} (hn : n < 10 ^ width) (rest : List Char) :
    takeNumber width (fixed width n ++ rest) = .ok (n, rest) := by
  have hlen : (fixed width n).length = width := Text.Decimal.length_fixed width n
  have hdigits := Text.Decimal.isDigit_of_mem_fixed width n
  simp only [takeNumber, List.take_left' hlen, List.drop_left' hlen]
  rw [byteLength_of_isDigit hdigits, if_neg (by omega), if_pos ⟨hlen, List.all_eq_true.mpr hdigits⟩,
    Text.Decimal.valueOf_fixed hn]

theorem takeFraction_fractionChars {nanos : Nat} (h : nanos < 1000000000) {c : Char}
    (hc : isDigit c = false) (hpoint : c ≠ '.') (rest : List Char) :
    takeFraction (fractionChars nanos ++ c :: rest) = .ok (nanos, c :: rest) := by
  rcases fractionChars_spec h with ⟨rfl, h0⟩ | ⟨digits, hchars, hne, hdigits, hnanos⟩
  · rw [h0, List.nil_append, takeFraction]
    · intro hnil
      exact hpoint (List.cons.inj hnil).1
    · intro r hr
      exact hpoint (List.cons.inj hr).1
  · obtain ⟨htake, hdrop⟩ := takeWhile_isDigit hdigits hc rest
    rw [hchars, List.cons_append, takeFraction]
    · simp only [htake, hdrop]
      rw [if_neg (by simpa using hne), hnanos]
    · simp

/-- A date is taken, if it has four digits for its year. -/
theorem takeDate_toChars {d : Date} (hd : d.Valid) (h0 : 0 ≤ d.year) (h9 : d.year ≤ 9999)
    (rest : List Char) : takeDate (d.toChars ++ rest) = .ok (d, rest) := by
  obtain ⟨year, month, day⟩ := d
  obtain ⟨-, hmonth, -, hday⟩ := id hd
  have hlong := getD_monthLengths_le (isLeapYear year) (month - 1)
  simp only at h0 h9 hmonth hday
  have hyear : ((year.toNat : Nat) : Int) = year := Int.toNat_of_nonneg h0
  have hchars : yearChars year = fixed 4 year.toNat := if_pos ⟨h0, h9⟩
  have hhyphen (r : List Char) : takeChar (· == '-') ('-' :: r) = .ok r := rfl
  simp only [takeDate, Date.toChars, hchars, List.append_assoc, List.cons_append, bind, Except.bind,
    takeNumber_fixed (show year.toNat < 10 ^ 4 by omega), hhyphen,
    takeNumber_fixed (show month < 10 ^ 2 by omega), takeNumber_fixed (show day < 10 ^ 2 by omega),
    hyear]
  exact if_pos hd

theorem takeNumber_sign {sign : Char} (hsign : isDigit sign = false) (hsize : sign.utf8Size = 1)
    {digits : List Char} (hlen : 3 ≤ digits.length) (hdigits : ∀ d ∈ digits, isDigit d = true)
    (rest : List Char) : takeNumber 4 (sign :: (digits ++ rest)) = .error .invalid := by
  have htake : (sign :: (digits ++ rest)).take 4 = sign :: digits.take 3 := by
    rw [List.take_succ_cons, List.take_append_of_le_length hlen]
  have hshort : (digits.take 3).length = 3 := by rw [List.length_take, Nat.min_eq_left hlen]
  have hbytes : byteLength (sign :: digits.take 3) = 4 := by
    rw [byteLength, hsize, byteLength_of_isDigit fun d hd => hdigits d (List.mem_of_mem_take hd), hshort]
  simp only [takeNumber, htake, hbytes, Nat.lt_irrefl, if_false]
  exact if_neg fun h => by simp [hsign] at h

theorem takeDate_of_sign {d : Date} (h : ¬(0 ≤ d.year ∧ d.year ≤ 9999)) (rest : List Char) :
    takeDate (d.toChars ++ rest) = .error .invalid := by
  have hlen : 3 ≤ (atLeast 4 d.year.natAbs).length := by
    rw [atLeast, List.length_append, List.length_replicate]
    omega
  have hdigits := Text.Decimal.isDigit_of_mem_atLeast 4 d.year.natAbs
  have hyear (l : List Char) : takeNumber 4 (yearChars d.year ++ l) = .error .invalid := by
    rw [yearChars, if_neg h]
    split
    · exact takeNumber_sign (by decide) (by decide) hlen hdigits l
    · exact takeNumber_sign (by decide) (by decide) hlen hdigits l
  simp only [takeDate, Date.toChars, List.append_assoc, bind, Except.bind, hyear]

/-- A time of day is taken, and what follows it is left alone. -/
theorem takeTime_toChars {r : Reading} (h : r.ValidTime) {c : Char} (hc : isDigit c = false)
    (hpoint : c ≠ '.') (rest : List Char) :
    takeTime r.date (fixed 2 r.hour ++ ':' :: (fixed 2 r.minute ++ ':' :: (fixed 2 r.second
      ++ (fractionChars r.nanos ++ c :: rest)))) = .ok (r, c :: rest) := by
  obtain ⟨hhour, hminute, hsecond, hnanos⟩ := id h
  have hcolon (l : List Char) : takeChar (· == ':') (':' :: l) = .ok l := rfl
  simp only [takeTime, bind, Except.bind, takeNumber_fixed (show r.hour < 10 ^ 2 by omega), hcolon,
    takeNumber_fixed (show r.minute < 10 ^ 2 by omega),
    takeNumber_fixed (show r.second < 10 ^ 2 by omega), takeFraction_fractionChars hnanos hc hpoint]
  exact if_pos h

/-! ## The whole text -/

/-- No text of a moment is too short for a timestamp. -/
theorem minLength_le_toRowText (t : Instant) : ¬t.toRowText.utf8ByteSize < minLength := by
  have hbytes := length_le_utf8ByteSize (t.reading.toChars ++ ['+', '0', '0', ':', '0', '0'])
  have hyear : 4 ≤ (yearChars t.reading.date.year).length := by
    unfold yearChars
    split
    · simp
    · simp only [List.length_cons, atLeast, List.length_append, List.length_replicate]
      omega
  have hlength : 19 ≤ (t.reading.toChars ++ ['+', '0', '0', ':', '0', '0']).length := by
    simp only [Reading.toChars, Date.toChars, List.length_append, List.length_cons, List.length_nil,
      Text.Decimal.length_fixed]
    omega
  exact Nat.not_lt.mpr (Nat.le_trans hlength hbytes)

/-- **A moment in a year of four digits is read back from its row.** -/
theorem read_toRowText {t : Instant} (h : t.FourDigitYear) : read t.toRowText = .ok t := by
  have hdate (l : List Char) : takeDate (t.reading.date.toChars ++ l) = .ok (t.reading.date, l) :=
    takeDate_toChars (Date.valid_ofDayNumber _) h.1 h.2 l
  have hmark (l : List Char) :
      takeChar (fun c => c == 'T' || c == 't' || c == ' ') ('T' :: l) = .ok l := rfl
  have htime := takeTime_toChars t.validTime_reading (show isDigit '+' = false by decide) (by decide)
    ['0', '0', ':', '0', '0']
  have hoffset : takeOffset ['+', '0', '0', ':', '0', '0'] = .ok (0, []) := rfl
  unfold read
  rw [if_neg (minLength_le_toRowText t)]
  simp only [Instant.toRowText, String.toList_ofList, Reading.toChars, List.append_assoc, List.cons_append,
    bind, Except.bind, hdate, hmark, htime, hoffset, toInstant?_reading]
  rfl

/-- The sign in front of a year is refused. -/
theorem read_toRowText_of_not {t : Instant} (h : ¬t.FourDigitYear) :
    read t.toRowText = .error .invalid := by
  unfold read
  rw [if_neg (minLength_le_toRowText t)]
  simp only [Instant.toRowText, String.toList_ofList, Reading.toChars, List.append_assoc, bind, Except.bind,
    takeDate_of_sign h]

/-- The first moment of the year 10000 is written with a sign. -/
example : (⟨253402300800, 0, by decide, by decide, by decide⟩ : Instant).toRowText
    = "+10000-01-01T00:00:00+00:00" := by
  decide +kernel

end Strict

end SessionTokens.Time
