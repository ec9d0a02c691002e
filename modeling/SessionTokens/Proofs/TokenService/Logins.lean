import SessionTokens.Proofs.TokenService.Renewal
import SessionTokens.Proofs.TokenService.Runs

/-!
# The life of a login

From its opening on, the refresh token of a session renews until it expires or the session is revoked,
whatever else is done with the service in between (`renewal_throughout_login`). The session that was made
for the token admits it; a run leaves that session as it was or blocks it; and a renewal depends on nothing
else in the store.
-/

namespace SessionTokens

open Crypto (SealingKey)
open Time (Instant Span)

/-- What an issued token says, other than its identifier. -/
def IssuedToken.terms (i : IssuedToken) : String × Instant × Instant :=
  (i.payload.subject, i.payload.issuedAt, i.payload.expiredAt)

/-! ## The session of a login -/

namespace Login.Opened

variable {key : SealingKey} {l : Login}

theorem id_eq (h : l.Opened key) : l.tokens.refresh.payload.id = l.session.id := by
  obtain ⟨client, now, hs⟩ := h.session
  rw [hs]
  rfl

/-- The session admits its refresh token until that expires. -/
theorem admits (h : l.Opened key) {now : Instant} (hnow : now < l.tokens.refresh.payload.expiredAt) :
    ¬l.session.Rejects l.tokens.refresh.payload l.tokens.refresh.text now := by
  obtain ⟨client, stored, hs⟩ := h.session
  rw [hs]
  rintro (hblocked | hsubject | htoken | hexpired)
  · cases hblocked
  · exact hsubject rfl
  · exact htoken rfl
  · exact Instant.not_le.mpr hnow hexpired

end Login.Opened

namespace TokenService

/-! ## The verdict on a refresh token -/

/-- The error of a renewal whose new token would expire out of range. -/
def renewalOutOfRange (t : TokenService) : AuthError :=
  let e : AuthError := .invalidArgument ("token duration out of range: " ++ t.lifetimes.access.toText)
  .internal ("error creating access token: " ++ e.message)

/-- What the holder of a refresh token is told: nothing of why the token is refused, and the terms of the
new token otherwise. -/
def verdict (t : TokenService) (l : Login) (revoked : Bool) (now : Instant) :
    Except AuthError (String × Instant × Instant) :=
  if l.tokens.refresh.payload.expiredAt ≤ now ∨ revoked then .error .unauthenticated
  else
    match now.add? t.lifetimes.access with
    | some expiry => .ok (l.session.subject, now, expiry)
    | none => .error t.renewalOutOfRange

variable {t : TokenService} {l : Login} {revoked : Bool} {now : Instant}

theorem verdict_of_expired (h : l.tokens.refresh.payload.expiredAt ≤ now) :
    t.verdict l revoked now = .error .unauthenticated :=
  if_pos (Or.inl h)

theorem verdict_of_revoked : t.verdict l true now = .error .unauthenticated :=
  if_pos (Or.inr rfl)

theorem verdict_of_lt (h : now < l.tokens.refresh.payload.expiredAt) :
    t.verdict l false now =
      match now.add? t.lifetimes.access with
      | some expiry => .ok (l.session.subject, now, expiry)
      | none => .error t.renewalOutOfRange := by
  refine if_neg ?_
  rintro (hle | hr)
  · exact Instant.not_le.mpr h hle
  · cases hr

theorem verdict_isOk_iff : (∃ terms, t.verdict l revoked now = .ok terms) ↔
    now < l.tokens.refresh.payload.expiredAt ∧ revoked = false ∧
      now.add? t.lifetimes.access ≠ none := by
  by_cases h : now < l.tokens.refresh.payload.expiredAt
  · cases revoked with
    | true => simp [verdict_of_revoked]
    | false =>
      rw [verdict_of_lt h]
      cases now.add? t.lifetimes.access with
      | none => simp
      | some expiry => simp [h]
  · have hle := Decidable.not_not.mp (mt Instant.not_le.mp h)
    simp [verdict_of_expired hle, h]

/-! ## The answer to the holder of the refresh token -/

/-- Where the session of a login is in a store, blocked or not, a renewal gives the verdict. -/
theorem terms_renewAccess {σ : Type} [SessionStore σ] {c : CallContext} {w : World σ} (hw : w.Prompt)
    (hc : c.Admitted) (hl : l.Opened t.key)
    (hs : SessionStore.find l.session.id w.store
      = .ok (if revoked then l.session.block else l.session)) :
    (t.renewAccess c l.tokens.refresh.text w).1.map IssuedToken.terms = t.verdict l revoked w.now := by
  rw [← hl.id_eq] at hs
  by_cases hnow : w.now < l.tokens.refresh.payload.expiredAt
  case neg =>
    have hle := Decidable.not_not.mp (mt Instant.not_le.mp hnow)
    have hrefused : ∀ p, Token.verify t.key l.tokens.refresh.text w.now ≠ .ok p := by
      intro p hp
      cases (Token.verify_of_le hl.holds hle).symm.trans hp
    rw [verdict_of_expired hle, renewAccess_of_refused hrefused]
    rfl
  case pos =>
    have hverify := Token.verify_of_lt hl.holds hnow
    cases revoked with
    | true =>
      rw [verdict_of_revoked, renewAccess_of_rejects hw hc hverify hs (l.session.rejects_block _ _ _)]
      rfl
    | false =>
      rw [verdict_of_lt hnow]
      cases hsum : w.now.add? t.lifetimes.access with
      | none =>
        rw [renewAccess_of_admitted hw hc hverify hs (hl.admits hnow) (Token.issue_of_none hl.subject hsum)]
        rfl
      | some expiry =>
        obtain ⟨a, ha, has⟩ := Token.issue_of_some t.key w.random hl.subject hsum
        have hexpiry : a.payload.expiredAt = expiry :=
          Option.some.inj (has.expiredAt.symm.trans hsum)
        rw [renewAccess_of_admitted hw hc hverify hs (hl.admits hnow) (Prod.ext ha rfl)]
        show Except.ok a.terms = _
        rw [IssuedToken.terms, has.subject, has.issuedAt, hexpiry]

/-- What a renewal answers at a moment after some events. -/
def answerAfter (t : TokenService) (token : String) (w : World MemoryStore) (events : List Event)
    (now : Instant) : Except AuthError IssuedToken :=
  (t.renewAccess .background token { t.run events w with now }).1

/-- **The answer depends on the moment and on whether the session was revoked, and on nothing else.** -/
theorem terms_answerAfter {w : World MemoryStore} (hw : w.Prompt) (hl : l.Opened t.key)
    (hs : w.store.find? l.session.id = some l.session) (events : List Event) (now : Instant) :
    (t.answerAfter l.tokens.refresh.text w events now).map IssuedToken.terms
      = t.verdict l (Revoked l.session.id events) now := by
  have hrun := prompt_run (t := t) hw events
  have hnow : World.Prompt { t.run events w with now } := ⟨hrun.latency, hrun.outage⟩
  refine terms_renewAccess hnow CallContext.admitted_background hl (MemoryStore.find_of_some ?_)
  simpa only [decide_eq_true_eq] using find?_run t events hs

/-! ## All of a login's life -/

theorem isOk_of_map {ε α β : Type} {f : α → β} {r : Except ε α} :
    (∃ b, r.map f = .ok b) ↔ ∃ a, r = .ok a := by
  cases r with
  | error e => simp [Except.map]
  | ok a => simp [Except.map]

theorem eq_error_of_map {ε α β : Type} {f : α → β} {r : Except ε α} {e : ε}
    (h : r.map f = .error e) : r = .error e := by
  cases r with
  | error e' =>
    cases h
    rfl
  | ok a => cases h

/-- **A refresh token renews until it expires or its session is revoked, whatever else is done.** After a
session was opened over any store, and after any events at any moments, a renewal with the refresh token
succeeds exactly if the token has not expired, none of the events revoked that session, and the expiry of
the new token is in range. A revocation holds for good, and an expired token is refused; both are
reported in the same way. No event other than that revocation changes the answer, up to the bytes that are
drawn. -/
theorem renewal_throughout_login (t : TokenService) (c : CallContext) (subject : String)
    (client : Client) (m : MemoryStore) (opening : Instant) (random : ByteStream) (l : Login)
    (w : World MemoryStore)
    (hopen : t.openSession c subject client (World.inMemory m opening random) = (.ok l, w)) :
    let refresh := l.tokens.refresh
    ∀ events now,
      ((∃ a, t.answerAfter refresh.text w events now = .ok a) ↔
        now < refresh.payload.expiredAt ∧ ¬Revoked l.session.id events ∧
          now.add? t.lifetimes.access ≠ none) ∧
      (now < refresh.payload.expiredAt → Revoked l.session.id events → ∀ later,
        t.answerAfter refresh.text w (events ++ later) now = .error .unauthenticated) ∧
      (refresh.payload.expiredAt ≤ now →
        t.answerAfter refresh.text w events now = .error .unauthenticated) ∧
      (∀ other later, other.operation ≠ .block l.session.id →
        (t.answerAfter refresh.text w (events ++ other :: later) now).map IssuedToken.terms =
          (t.answerAfter refresh.text w (events ++ later) now).map IssuedToken.terms) := by
  intro refresh events now
  obtain ⟨hl, hs, -⟩ := opened_of_openSession hopen
  have hkept := keeps_openSession t c subject client (World.inMemory m opening random)
  rw [hopen] at hkept
  -- both the session and the surroundings of the opening are there for every later run
  have hterms := terms_answerAfter (hkept.prompt (World.prompt_inMemory m opening random)) hl hs
  refine ⟨?renews, fun _ hrevoked later => ?revoked, fun hle => ?expired, ?others⟩
  case renews =>
    rw [← isOk_of_map, hterms, verdict_isOk_iff, decide_eq_false_iff_not]
  case revoked =>
    refine eq_error_of_map ((hterms _ now).trans ?_)
    rw [decide_eq_true (revoked_append.mpr (Or.inl hrevoked))]
    exact verdict_of_revoked
  case expired =>
    exact eq_error_of_map ((hterms events now).trans (verdict_of_expired hle))
  case others =>
    intro other later hother
    have hsame : Revoked l.session.id (events ++ other :: later)
        ↔ Revoked l.session.id (events ++ later) := by
      simp only [revoked_append, revoked_cons, hother, false_or]
    rw [hterms, hterms]
    simp only [hsame]

/-- A session that was opened at the start of 1970 is renewed then, and not once it was revoked. -/
theorem renewal_throughout_login_epoch :
    let t : TokenService := { key := ⟨List.replicate 32 0, rfl⟩ }
    let w := World.inMemory .empty .epoch ⟨fun _ => 7, 0⟩
    ∃ l w', t.openSession .background "a" {} w = (.ok l, w') ∧
      (∃ a, t.answerAfter l.tokens.refresh.text w' [] .epoch = .ok a) ∧
      t.answerAfter l.tokens.refresh.text w' [⟨.epoch, .block l.session.id⟩] .epoch
        = .error .unauthenticated := by
  intro t w
  have haccess : Instant.epoch.add? .quarterHour = some ⟨900, 0, by decide, by decide, by decide⟩ := by
    decide
  have hrefresh : Instant.epoch.add? .day = some ⟨86400, 0, by decide, by decide, by decide⟩ := by
    decide
  obtain ⟨l, w', hopen⟩ := openSession_of_empty t .background "a" {}
    (World.prompt_inMemory .empty .epoch ⟨fun _ => 7, 0⟩) CallContext.admitted_background
    (by decide) haccess hrefresh (fun _ => rfl)
  obtain ⟨-, -, hissued⟩ := opened_of_openSession hopen
  have hexpiry := Option.some.inj (hissued.expiredAt.symm.trans hrefresh)
  have hlt : Instant.epoch < l.tokens.refresh.payload.expiredAt := by
    rw [hexpiry]
    decide
  have hlife := renewal_throughout_login t .background "a" {} .empty .epoch ⟨fun _ => 7, 0⟩ l w' hopen
  refine ⟨l, w', hopen, ?_, ?_⟩
  · refine (hlife [] .epoch).1.mpr ⟨hlt, by simp [Revoked], ?_⟩
    rw [show t.lifetimes.access = .quarterHour from rfl, haccess]
    exact Option.some_ne_none _
  · exact (hlife [⟨.epoch, .block l.session.id⟩] .epoch).2.1 hlt ⟨_, List.mem_singleton_self _, rfl⟩ []

end TokenService

end SessionTokens
