import SessionTokens.Proofs.Payload.Roundtrip
import SessionTokens.Proofs.Token.Acceptance

/-!
# The life of a token

A token that was issued is accepted before its expiry and counts as expired from then on, at every moment
of the range (`issue_verify_boundary`). Sealing and opening are inverse to each other, and so are writing
and reading a payload, so nothing of what a token says is lost on the way.
-/

namespace SessionTokens.Token

open Crypto (SealingKey Nonce)
open Time (Instant Span)

/-! ## Verifying what is known to be sealed -/

/-- The text sealed over a payload's JSON holds that payload. -/
theorem payload_ofContent (key : SealingKey) (nonce : Nonce) (p : Payload) :
    payload key (ofContent key nonce (Text.Utf8.encode p.toJson)) = .ok p :=
  payload_eq_ok_iff.mpr ⟨nonce, p.toJson, rfl, Payload.ofJson?_toJson p⟩

theorem verify_of_lt {key : SealingKey} {text : String} {p : Payload} {t : Instant}
    (h : payload key text = .ok p) (ht : t < p.expiredAt) : verify key text t = .ok p :=
  verify_eq_ok_iff.mpr ⟨h, ht⟩

theorem verify_of_le {key : SealingKey} {text : String} {p : Payload} {t : Instant}
    (h : payload key text = .ok p) (ht : p.expiredAt ≤ t) :
    verify key text t = .error .tokenExpired :=
  verify_eq_tokenExpired_iff.mpr ⟨p, h, ht⟩

/-! ## Issuing -/

/-- The token was issued under the key to the subject, from a moment on and for a span of time. -/
structure IssuedAs (key : SealingKey) (subject : String) (duration : Span) (now : Instant)
    (i : IssuedToken) : Prop where
  subject : i.payload.subject = subject
  issuedAt : i.payload.issuedAt = now
  expiredAt : now.add? duration = some i.payload.expiredAt
  /-- The text holds the payload. -/
  holds : payload key i.text = .ok i.payload

section

variable {key : SealingKey} {subject : String} {duration : Span} {now : Instant} {s : ByteStream}

theorem issue_of_empty (hsubject : subject = "") :
    issue key subject duration now s
      = (.error (.invalidArgument "subject must not be empty"), s) :=
  if_pos hsubject

/-- No token is issued whose expiry would be out of range. -/
theorem issue_of_none (hsubject : subject ≠ "") (hsum : now.add? duration = none) :
    issue key subject duration now s
      = (.error (.invalidArgument ("token duration out of range: " ++ duration.toText)), s) := by
  rw [issue, if_neg hsubject, Payload.create]
  simp only [hsum]

/-- A token is issued wherever there is a subject and an expiry, whatever is drawn. -/
theorem issue_of_some (key : SealingKey) (s : ByteStream) {expiry : Instant}
    (hsubject : subject ≠ "") (hsum : now.add? duration = some expiry) :
    ∃ i, (issue key subject duration now s).1 = .ok i ∧ IssuedAs key subject duration now i := by
  let p : Payload := ⟨(TokenId.random s).1, subject, now, expiry⟩
  let nonce := (Nonce.random (TokenId.random s).2).1
  refine ⟨⟨ofContent key nonce (Text.Utf8.encode p.toJson), p⟩, ?_, rfl, rfl, hsum, ?_⟩
  · rw [issue, if_neg hsubject, Payload.create]
    simp only [hsum]
    rfl
  · exact payload_ofContent key nonce p

/-- A token takes an identifier from the stream and then a nonce. -/
theorem drawn_of_issue {i : IssuedToken} (h : (issue key subject duration now s).1 = .ok i) :
    i.payload.id = (TokenId.random s).1 ∧
      (issue key subject duration now s).2 = (Nonce.random (TokenId.random s).2).2 := by
  by_cases hsubject : subject = ""
  · simp [issue_of_empty hsubject] at h
  cases hsum : now.add? duration with
  | none => simp [issue_of_none hsubject hsum] at h
  | some expiry =>
    rw [issue, if_neg hsubject, Payload.create] at h ⊢
    simp only [hsum, and_true] at h ⊢
    cases h
    rfl

/-- The text of a token is its payload, sealed with the nonce that is drawn behind the identifier. -/
theorem text_of_issue {i : IssuedToken} (h : (issue key subject duration now s).1 = .ok i) :
    i.text = ofContent key (Nonce.random (TokenId.random s).2).1 (Text.Utf8.encode i.payload.toJson) := by
  by_cases hsubject : subject = ""
  · simp [issue_of_empty hsubject] at h
  cases hsum : now.add? duration with
  | none => simp [issue_of_none hsubject hsum] at h
  | some expiry =>
    rw [issue, if_neg hsubject, Payload.create] at h
    simp only [hsum] at h
    cases h
    rfl

/-- What was issued has a subject, and was issued as it was asked for. -/
theorem issuedAs_of_issue {i : IssuedToken} (h : (issue key subject duration now s).1 = .ok i) :
    subject ≠ "" ∧ IssuedAs key subject duration now i := by
  by_cases hsubject : subject = ""
  · simp [issue_of_empty hsubject] at h
  refine ⟨hsubject, ?_⟩
  cases hsum : now.add? duration with
  | none => simp [issue_of_none hsubject hsum] at h
  | some expiry =>
    obtain ⟨i', hi', his⟩ := issue_of_some key s hsubject hsum
    cases hi'.symm.trans h
    exact his

end

/-! ## The boundary -/

/-- **A token is valid up to its expiry and not from then on.** Wherever the expiry is in range a token is
issued, whatever is drawn. It says what it was issued for; whoever holds the key reads just that before the
expiry, and finds the token expired at the expiry and at every later moment. From a moment outside leap
seconds the expiry is exact. -/
theorem issue_verify_boundary (key : SealingKey) (subject : String) (duration : Span)
    (now expiry : Instant) (s : ByteStream) (hsubject : subject ≠ "")
    (hsum : now.add? duration = some expiry) :
    ∃ i, (issue key subject duration now s).1 = .ok i ∧
      i.payload.subject = subject ∧ i.payload.issuedAt = now ∧ i.payload.expiredAt = expiry ∧
      (now.Ordinary → expiry.Ordinary ∧ expiry.total = now.total + duration.nanos) ∧
      ∀ holder : SealingKey, holder.bytes = key.bytes → ∀ t,
        (t < expiry → verify holder i.text t = .ok i.payload) ∧
        (expiry ≤ t → verify holder i.text t = .error .tokenExpired) := by
  obtain ⟨i, hi, his⟩ := issue_of_some key s hsubject hsum
  have hexpiry : i.payload.expiredAt = expiry := Option.some.inj (his.expiredAt.symm.trans hsum)
  refine ⟨i, hi, his.subject, his.issuedAt, hexpiry, fun hnow => ?exact, ?verdict⟩
  case exact =>
    exact (Instant.add?_eq_some_iff hnow).mp hsum
  case verdict =>
    intro holder hbytes t
    -- a key is nothing but its bytes
    have hholder : holder = key := by
      cases holder
      cases key
      cases hbytes
      rfl
    rw [hholder, ← hexpiry]
    exact ⟨verify_of_lt his.holds, verify_of_le his.holds⟩

/-- A token for a quarter of an hour from the start of 1970 on is read then, and has expired after that
quarter of an hour. -/
theorem issue_verify_boundary_quarterHour :
    let key : SealingKey := ⟨List.replicate 32 0, rfl⟩
    let expiry : Instant := ⟨900, 0, by decide, by decide, by decide⟩
    Instant.epoch.add? .quarterHour = some expiry ∧
      ∃ i, (issue key "a" .quarterHour .epoch ⟨fun _ => 7, 0⟩).1 = .ok i ∧
        verify key i.text .epoch = .ok i.payload ∧
        verify key i.text expiry = .error .tokenExpired := by
  intro key expiry
  have hsum : Instant.epoch.add? .quarterHour = some expiry := by decide
  obtain ⟨i, hi, -, -, -, -, hverdict⟩ := issue_verify_boundary key "a" .quarterHour .epoch expiry
    ⟨fun _ => 7, 0⟩ (by decide) hsum
  exact ⟨hsum, i, hi, (hverdict key rfl .epoch).1 (by decide), (hverdict key rfl expiry).2 (by decide)⟩

end SessionTokens.Token
