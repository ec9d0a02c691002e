import SessionTokens.Time.Instant

/-!
# Sums in machine words

The whole seconds of a moment and of a span add up in words of 64 bits, and what is left of them in words of 32
bits; then at most one second is carried. Words wrap round, but from an ordinary moment on no step ever leaves
its word: the sum in words is the exact one (`addInWords?_eq_add?`).
-/

namespace SessionTokens.Time

/-! ## Order -/

namespace Instant

variable {a b : Instant}

/-- Outside leap seconds the order is that of the nanoseconds since the start of 1970. -/
theorem le_iff_total_le (ha : a.Ordinary) (hb : b.Ordinary) : a ≤ b ↔ a.total ≤ b.total := by
  simp only [le_def, total, second, Ordinary] at *
  omega

/-- Inside a leap second all moments of its second are over. -/
theorem le_iff_total_lt (ha : a.Ordinary) (hb : ¬b.Ordinary) :
    a ≤ b ↔ a.total < (b.seconds + 1) * second := by
  simp only [le_def, total, second, Ordinary] at *
  omega

end Instant

/-! ## The parts of a span -/

/-- A span is its whole seconds and the rest, which is less than a second. -/
theorem Span.parts (d : Span) :
    d.nanos = d.wholeSeconds * second + d.subsecond ∧ -second < d.subsecond ∧ d.subsecond < second :=
  ⟨(Int.tdiv_mul_add_tmod d.nanos second).symm, Int.lt_tmod_of_pos _ (by decide),
    Int.tmod_lt_of_pos _ (by decide)⟩

/-! ## Sums -/

namespace Instant

theorem toInt_ofInt_seconds {n : Int} (hmin : -10000000000000000 ≤ n) (hmax : n ≤ 10000000000000000) :
    (Int64.ofInt n).toInt = n :=
  Int64.toInt_ofInt_of_le (by omega) (by omega)

theorem toInt_ofInt_nanos {n : Int} (hmin : -second ≤ n) (hmax : n ≤ 2 * second) : (Int32.ofInt n).toInt = n := by
  simp only [second] at *
  exact Int32.toInt_ofInt_of_le (by omega) (by omega)

/-- The moment a span later, in signed words: seconds in 64 bits, and nanoseconds in 32 bits. -/
def addInWords? (t : Instant) (d : Span) : Option Instant :=
  let seconds := Int64.ofInt t.seconds + Int64.ofInt d.wholeSeconds
  let nanos := Int32.ofInt t.nanos + Int32.ofInt d.subsecond
  if nanos < 0 then ofSeconds? (seconds - 1).toInt (nanos + 1000000000).toInt.toNat
  else if nanos < 1000000000 then ofSeconds? seconds.toInt nanos.toInt.toNat
  else ofSeconds? (seconds + 1).toInt (nanos - 1000000000).toInt.toNat

/-- The moment of a second and the nanoseconds in it. -/
theorem ofTotal?_eq_ofSeconds? {total seconds nanos : Int} (h : total = seconds * second + nanos)
    (hmin : 0 ≤ nanos) (hmax : nanos < second) : ofTotal? total = ofSeconds? seconds nanos.toNat := by
  have hdiv : total / second = seconds := by
    simp only [second] at *
    omega
  have hmod : total % second = nanos := by
    simp only [second] at *
    omega
  rw [ofTotal?, hdiv, hmod]

/-- **No step of a sum leaves its word**, neither the parts nor what is carried between them. -/
theorem addInWords?_eq_add? {t : Instant} (h : t.Ordinary) (d : Span) : t.addInWords? d = t.add? d := by
  obtain ⟨hspan, hlow, hhigh⟩ := d.parts
  have htotal : t.total + d.nanos
      = (t.seconds + d.wholeSeconds) * second + (t.nanos + d.subsecond) := by
    rw [total, hspan, Int.add_mul]
    omega
  have hseconds : -10000000000000000 < t.seconds + d.wholeSeconds ∧
      t.seconds + d.wholeSeconds < 10000000000000000 := by
    have hmin := t.min_le
    have hmax := t.le_max
    have hmin' := d.min_le
    have hmax' := d.le_max
    simp only [second, minSeconds, maxSeconds, maxSpan] at *
    omega
  have hnanos : -second < t.nanos + d.subsecond ∧ t.nanos + d.subsecond < 2 * second := by
    simp only [Ordinary, second] at *
    omega
  rw [add?_of_ordinary h, addInWords?, ← Int64.ofInt_add, ← Int32.ofInt_add, htotal]
  generalize t.seconds + d.wholeSeconds = s at *
  generalize (t.nanos : Int) + d.subsecond = n at *
  have hone : (1 : Int64) = Int64.ofInt 1 := rfl
  have hsecond : (1000000000 : Int32) = Int32.ofInt second := rfl
  have hword : (Int32.ofInt n).toInt = n := toInt_ofInt_nanos (by omega) (by omega)
  rw [hone, hsecond, ← Int64.ofInt_add, ← Int64.ofInt_sub, ← Int32.ofInt_add, ← Int32.ofInt_sub]
  simp only [Int32.lt_iff_toInt_lt, hword, Int32.toInt_zero, show (Int32.ofInt second).toInt = second from rfl]
  split
  · next hborrow =>
    rw [toInt_ofInt_seconds (by omega) (by omega), toInt_ofInt_nanos (by omega) (by omega)]
    exact (ofTotal?_eq_ofSeconds? (by rw [Int.sub_mul]; omega) (by omega) (by omega)).symm
  split
  · next hmin hmax =>
    rw [toInt_ofInt_seconds (by omega) (by omega)]
    exact (ofTotal?_eq_ofSeconds? rfl (by omega) hmax).symm
  · next hmin hcarry =>
    rw [toInt_ofInt_seconds (by omega) (by omega), toInt_ofInt_nanos (by omega) (by omega)]
    exact (ofTotal?_eq_ofSeconds? (by rw [Int.add_mul]; omega) (by omega) (by omega)).symm

end Instant

end SessionTokens.Time
