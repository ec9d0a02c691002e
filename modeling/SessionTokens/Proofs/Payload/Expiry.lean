import SessionTokens.Payload
import SessionTokens.Proofs.Time.Sums

/-!
# When a payload ends

A payload ends exactly its lifetime after its start, to the nanosecond, and is made wherever that end is a moment
of the range; elsewhere nothing is drawn for it (`create_exact`). The sum is the same in machine words, which no
step of it leaves.
-/

namespace SessionTokens

open Time (Instant Span second)

namespace Time.Instant

theorem minSeconds_le_maxSeconds : minSeconds ≤ maxSeconds := by
  decide

/-- The latest moment outside a leap second. -/
def latest : Instant :=
  ⟨maxSeconds, 999999999, minSeconds_le_maxSeconds, Int.le_refl _, .inl (by decide)⟩

theorem toText_earliest : earliest.toText = "-262143-01-01T00:00:00Z" := by
  decide +kernel

theorem toText_latest : latest.toText = "+262142-12-31T23:59:59.999999999Z" := by
  decide +kernel

/-- A number of nanoseconds that does not leave the range. -/
def InRange (n : Int) : Prop :=
  earliest.total ≤ n ∧ n ≤ latest.total

instance (n : Int) : Decidable (InRange n) :=
  inferInstanceAs (Decidable (_ ∧ _))

theorem add?_ne_none_iff {t : Instant} (h : t.Ordinary) {d : Span} :
    t.add? d ≠ none ↔ InRange (t.total + d.nanos) := by
  rw [Ne, add?_eq_none_iff h]
  simp only [InRange, total, earliest, latest, second, minSeconds, maxSeconds]
  omega

end Time.Instant

namespace Payload

variable {duration : Span} {now : Instant}

/-! ## Making a payload -/

theorem create_of_some (subject : String) (s : ByteStream) {expiry : Instant}
    (h : now.add? duration = some expiry) :
    create subject duration now s
      = (.ok ⟨(TokenId.random s).1, subject, now, expiry⟩, (TokenId.random s).2) := by
  unfold create
  simp only [h]

theorem create_of_none (subject : String) (s : ByteStream) (h : now.add? duration = none) :
    create subject duration now s
      = (.error (.invalidArgument ("token duration out of range: " ++ duration.toText)), s) := by
  unfold create
  simp only [h]

/-! ## The end of a payload -/

/-- The payload ends that many nanoseconds after the start of 1970: at that very moment it is over. -/
structure EndsAt (p : Payload) (n : Int) : Prop where
  ordinary : p.expiredAt.Ordinary
  total : p.expiredAt.total = n
  over_iff : ∀ t : Instant, t.Ordinary → (p.ExpiredAt t ↔ n ≤ t.total)
  /-- A leap second comes behind all of the second that it is added to. -/
  over_leap_iff : ∀ t : Instant, ¬t.Ordinary → (p.ExpiredAt t ↔ n < (t.seconds + 1) * second)

theorem endsAt_of_total {p : Payload} {n : Int} (h : p.expiredAt.Ordinary) (htotal : p.expiredAt.total = n) :
    p.EndsAt n := by
  subst htotal
  exact ⟨h, rfl, fun t => Instant.le_iff_total_le h, fun t => Instant.le_iff_total_lt h⟩

/-- **A payload ends exactly its lifetime after its start.** From any ordinary moment on and for any span, a
payload is made exactly if the sum of both, in nanoseconds, is in the range of moments: it starts at that moment,
ends at that sum and not a nanosecond earlier or later, and takes its identifier from the stream. Otherwise the
argument is invalid and nothing is drawn. The sum is found in machine words too, without a step that leaves its
word. -/
theorem create_exact (subject : String) (duration : Span) (now : Instant) (s : ByteStream) (h : now.Ordinary) :
    let sum := now.total + duration.nanos
    let made := create subject duration now s
    (Instant.earliest.toText = "-262143-01-01T00:00:00Z" ∧
      Instant.latest.toText = "+262142-12-31T23:59:59.999999999Z") ∧
    ((∃ p, made.1 = .ok p) ↔ Instant.InRange sum) ∧
    (∀ p, made.1 = .ok p → p.subject = subject ∧ p.issuedAt = now ∧ p.EndsAt sum ∧
      (p.id, made.2) = TokenId.random s) ∧
    (¬Instant.InRange sum →
      made = (.error (.invalidArgument ("token duration out of range: " ++ duration.toText)), s)) ∧
    now.addInWords? duration = now.add? duration := by
  intro sum made
  have hrange := Instant.add?_ne_none_iff h (d := duration)
  refine ⟨⟨Instant.toText_earliest, Instant.toText_latest⟩, ?_⟩
  cases hsum : now.add? duration with
  | none =>
    have hmade : made = _ := create_of_none subject s hsum
    have hout : ¬Instant.InRange sum := fun hin => hrange.mpr hin hsum
    refine ⟨iff_of_false ?_ hout, fun p hp => ?_, fun _ => hmade, ?_⟩
    · rintro ⟨p, hp⟩
      rw [hmade] at hp
      cases hp
    · rw [hmade] at hp
      cases hp
    · rw [Instant.addInWords?_eq_add? h, hsum]
  | some expiry =>
    have hmade : made = _ := create_of_some subject s hsum
    have hin : Instant.InRange sum := hrange.mp (by simp [hsum])
    obtain ⟨hordinary, htotal⟩ := (Instant.add?_eq_some_iff h).mp hsum
    refine ⟨iff_of_true ⟨_, congrArg Prod.fst hmade⟩ hin, fun p hp => ?_, fun hout => absurd hin hout, ?_⟩
    · rw [hmade] at hp
      cases hp
      exact ⟨rfl, rfl, endsAt_of_total hordinary htotal, congrArg (Prod.mk _ ·.2) hmade⟩
    · rw [Instant.addInWords?_eq_add? h, hsum]

/-- A nanosecond before the latest moment there is room for a nanosecond and for no more. -/
theorem create_exact_latest :
    let now : Instant := ⟨Time.maxSeconds, 999999998, by decide, by decide, by decide⟩
    let nanosecond : Span := ⟨1, by decide, by decide⟩
    let two : Span := ⟨2, by decide, by decide⟩
    let s : ByteStream := ⟨fun _ => 7, 0⟩
    now.Ordinary ∧ (∃ p, (create "a" nanosecond now s).1 = .ok p ∧ p.expiredAt.total = Instant.latest.total) ∧
      create "a" two now s
        = (.error (.invalidArgument "token duration out of range: PT0.000000002S"), s) := by
  intro now nanosecond two s
  have h : now.Ordinary := by decide
  obtain ⟨-, hmade, hexact, -, -⟩ := create_exact "a" nanosecond now s h
  obtain ⟨p, hp⟩ := hmade.mpr (by decide)
  obtain ⟨-, -, hends, -⟩ := hexact p hp
  obtain ⟨-, -, -, hout, -⟩ := create_exact "a" two now s h
  have htext : "token duration out of range: " ++ two.toText = "token duration out of range: PT0.000000002S" := by
    decide +kernel
  refine ⟨h, ⟨p, hp, hends.total.trans (by decide)⟩, ?_⟩
  rw [hout (by decide), htext]

end Payload

end SessionTokens
