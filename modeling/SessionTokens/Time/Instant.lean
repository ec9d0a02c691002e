import SessionTokens.Time.Span

/-!
# Instants

A moment in seconds and nanoseconds since the start of 1970 in universal time, from the year -262143 to
the year 262142. Inside a leap second the nanoseconds run on to two thousand million behind the 59th
second of a minute. Main statement: the sum of an ordinary instant and a span is exact, and exists when it lies in
the range (`add?_eq_some_iff`).
-/

namespace SessionTokens.Time

/-- The first second of the year -262143. -/
abbrev minSeconds : Int := -8334601228800

/-- The last second of the year 262142. -/
abbrev maxSeconds : Int := 8210266876799

/-- A moment in universal time. -/
@[ext] structure Instant where
  /-- The seconds since the start of 1970. -/
  seconds : Int
  /-- The nanoseconds since that second began. -/
  nanos : Nat
  min_le : minSeconds ≤ seconds
  le_max : seconds ≤ maxSeconds
  /-- More than one second is counted at the end of a minute only. -/
  nanos_lt : nanos < 1000000000 ∨ (nanos < 2000000000 ∧ seconds % 60 = 59)
deriving DecidableEq

namespace Instant

/-- The moment of the given seconds and nanoseconds, if there is one. -/
def ofSeconds? (seconds : Int) (nanos : Nat) : Option Instant :=
  if h : minSeconds ≤ seconds ∧ seconds ≤ maxSeconds ∧
      (nanos < 1000000000 ∨ (nanos < 2000000000 ∧ seconds % 60 = 59)) then
    some ⟨seconds, nanos, h.1, h.2.1, h.2.2⟩
  else none

/-- The moment is not inside a leap second. -/
abbrev Ordinary (t : Instant) : Prop :=
  t.nanos < 1000000000

/-- The start of 1970. -/
def epoch : Instant :=
  ⟨0, 0, by decide, by decide, by decide⟩

/-- The earliest moment. -/
def earliest : Instant :=
  ⟨minSeconds, 0, by decide, by decide, by decide⟩

/-! ## Order -/

/-- Moments are in the order of their seconds, then of their nanoseconds. -/
instance : LE Instant where
  le a b := a.seconds < b.seconds ∨ (a.seconds = b.seconds ∧ a.nanos ≤ b.nanos)

/-- Moments are in the order of their seconds, then of their nanoseconds. -/
instance : LT Instant where
  lt a b := a.seconds < b.seconds ∨ (a.seconds = b.seconds ∧ a.nanos < b.nanos)

theorem le_def {a b : Instant} :
    a ≤ b ↔ a.seconds < b.seconds ∨ (a.seconds = b.seconds ∧ a.nanos ≤ b.nanos) := Iff.rfl

theorem lt_def {a b : Instant} :
    a < b ↔ a.seconds < b.seconds ∨ (a.seconds = b.seconds ∧ a.nanos < b.nanos) := Iff.rfl

instance (a b : Instant) : Decidable (a ≤ b) :=
  decidable_of_iff _ le_def.symm

instance (a b : Instant) : Decidable (a < b) :=
  decidable_of_iff _ lt_def.symm

theorem not_le {a b : Instant} : ¬a ≤ b ↔ b < a := by
  simp only [le_def, lt_def]
  omega

/-! ## Sums -/

/-- The nanoseconds since the start of 1970. -/
def total (t : Instant) : Int :=
  t.seconds * second + t.nanos

/-- The ordinary moment that many nanoseconds after the start of 1970. -/
def ofTotal? (n : Int) : Option Instant :=
  ofSeconds? (n / second) (n % second).toNat

/-- The moment a span later. A leap second counts for nothing once a sum has gone beyond it; inside it
the nanoseconds run on. -/
def add? (t : Instant) (d : Span) : Option Instant :=
  let nanos : Int := t.nanos + d.nanos
  if t.Ordinary ∨ nanos < second then ofTotal? (t.total + d.nanos)
  else if nanos < 2 * second then ofSeconds? t.seconds nanos.toNat
  else ofTotal? (t.total + d.nanos - second)

theorem ofTotal?_eq_some_iff {n : Int} {t : Instant} :
    ofTotal? n = some t ↔ t.Ordinary ∧ t.total = n := by
  have h1 := t.min_le
  have h2 := t.le_max
  simp only [ofTotal?, ofSeconds?, Ordinary, total, second]
  constructor
  · intro h
    split at h
    · next hc =>
      simp only [Option.some.injEq] at h
      subst h
      simp only
      omega
    · simp at h
  · rintro ⟨ho, rfl⟩
    rw [dif_pos ⟨by omega, by omega, by omega⟩]
    simp only [Option.some.injEq, Instant.ext_iff]
    omega

theorem ofTotal?_eq_none_iff {n : Int} :
    ofTotal? n = none ↔ n < minSeconds * second ∨ maxSeconds * second + 999999999 < n := by
  simp only [ofTotal?, ofSeconds?, second, minSeconds, maxSeconds]
  split
  · simp only [reduceCtorEq, false_iff]
    omega
  · simp only [true_iff]
    omega

/-- A sum from an ordinary moment on is a sum of nanoseconds. -/
theorem add?_of_ordinary {t : Instant} (h : t.Ordinary) (d : Span) :
    t.add? d = ofTotal? (t.total + d.nanos) :=
  if_pos (Or.inl h)

/-- The sum is exact. -/
theorem add?_eq_some_iff {t u : Instant} {d : Span} (h : t.Ordinary) :
    t.add? d = some u ↔ u.Ordinary ∧ u.total = t.total + d.nanos := by
  rw [add?_of_ordinary h]
  exact ofTotal?_eq_some_iff

/-- There is no sum where it would leave the range. -/
theorem add?_eq_none_iff {t : Instant} {d : Span} (h : t.Ordinary) :
    t.add? d = none ↔ t.total + d.nanos < minSeconds * second
      ∨ maxSeconds * second + 999999999 < t.total + d.nanos := by
  rw [add?_of_ordinary h]
  exact ofTotal?_eq_none_iff

/-- The moment that many milliseconds later, or the same one where that would leave the range. -/
def afterMillis (t : Instant) (n : Nat) : Instant :=
  if n = 0 then t else (ofTotal? (t.total + n * 1000000)).getD t

end Instant

end SessionTokens.Time
