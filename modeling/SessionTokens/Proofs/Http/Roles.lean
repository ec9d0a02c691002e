import SessionTokens.Proofs.Http.Guard
import SessionTokens.Proofs.Http.Logins
import SessionTokens.Proofs.Http.Visits
import SessionTokens.Proofs.TokenService.AllOrNothing

/-!
# Refresh tokens among access tokens

Access tokens and refresh tokens are sealed under one key and say the same things, and nothing in a token tells
which of both it is. So a refresh token is an access token too, for as long as it lasts, and whatever becomes of
its session (`refresh_token_admits`): a revocation ends the renewals, but not the token
(`refresh_token_admits_revoked`).
-/

namespace SessionTokens

open Crypto (SealingKey)
open Time (Instant)

/-! ## Tokens that were handed out -/

/-- The token was handed out as a refresh token: in a pair, or with a session. -/
inductive TokenService.HandsOut (t : TokenService) (i : IssuedToken) : Prop where
  /-- A pair of tokens was issued, of which it is the second. -/
  | pair {σ : Type} {w w' : World σ} {subject : String} {lifetimes : Lifetimes} {access : IssuedToken}
      (h : t.issuePair subject lifetimes w = (.ok ⟨access, i⟩, w'))
  /-- A session was opened with it. -/
  | opening {σ : Type} [SessionStore σ] {w w' : World σ} {c : CallContext} {subject : String} {client : Client}
      {session : Session} {access : IssuedToken}
      (h : t.openSession c subject client w = (.ok ⟨session, ⟨access, i⟩⟩, w'))

namespace TokenService

variable {t : TokenService} {i : IssuedToken}

theorem HandsOut.holds (h : t.HandsOut i) : Token.payload t.key i.text = .ok i.payload := by
  cases h with
  | pair h =>
    obtain ⟨-, -, hrefresh⟩ := issuedAs_of_issuePair h
    exact hrefresh.holds
  | opening h =>
    obtain ⟨-, hrefresh, -⟩ := openSession_eq_ok h
    exact hrefresh.holds

/-- Whoever verifies a refresh token as an access token reads its payload until it expires. -/
theorem HandsOut.verifyAccess {σ : Type} (h : t.HandsOut i) (w : World σ) :
    t.verifyAccess i.text w
      = if w.now < i.payload.expiredAt then .ok i.payload else .error .tokenExpired := by
  unfold TokenService.verifyAccess
  split
  · next hlt => exact Token.verify_of_lt h.holds hlt
  · next hle => exact Token.verify_of_le h.holds (Decidable.not_not.mp (mt Instant.not_le.mp hle))

end TokenService

namespace Http

/-! ## Tokens that are carried -/

variable {s : Server}

/-- The answer to a request for the payload of a token with the given payload. -/
def tokenAnswer (p : Payload) (now : Instant) (id : String) : Response :=
  if now < p.expiredAt then { status := 200, body := .json p.toJson }
  else RequestError.toResponse (.auth .tokenExpired) (some id)

/-- A refresh token that is carried is answered like an access token. -/
theorem response_of_handsOut {σ : Type} [SessionStore σ] {i : IssuedToken} {r : Request}
    (hi : s.service.HandsOut i) (h : r.Asks .me) (hcarries : Carries r.headers i.text) (w : World σ) :
    (handle s r w).1.response = tokenAnswer i.payload w.now (handle s r w).1.requestId := by
  obtain ⟨random, hw⟩ := handle_of_asks_me h s w
  have hverify : Token.verify s.service.key i.text w.now = _ := hi.verifyAccess w
  rw [hw, authenticate_of_some (bearerToken?_eq_some_iff.mpr hcarries), hverify]
  unfold tokenAnswer
  split <;> rfl

/-- Every reply of a run was given to its request in the state that it met. -/
theorem reply_of_mem_visits {arrivals : List Arrival} {w : World SessionTable} {v : Visit}
    (hv : v ∈ visits s arrivals w) : v.reply = (handle s v.request v.before).1 := by
  induction arrivals generalizing w with
  | nil => exact absurd hv List.not_mem_nil
  | cons a r ih =>
    rcases List.mem_cons.mp hv with rfl | hv
    · rfl
    · exact ih hv

/-- **A refresh token acts as an access token until it expires.** Whatever it was handed out for, and whatever
requests have been answered since then, revocations included: until its expiry it is verified as an access token
and its payload is told to whoever carries it; from then on it is refused. -/
theorem refresh_token_admits (s : Server) (i : IssuedToken) (h : s.service.HandsOut i) :
    (∀ {σ : Type} (w : World σ), s.service.verifyAccess i.text w
      = if w.now < i.payload.expiredAt then .ok i.payload else .error .tokenExpired) ∧
    ∀ (arrivals : List Arrival) (w : World SessionTable), ∀ v ∈ visits s arrivals w,
      v.request.Asks .me → Carries v.request.headers i.text →
        v.reply.response = tokenAnswer i.payload v.before.now v.reply.requestId := by
  refine ⟨fun w => h.verifyAccess w, fun arrivals w v hv hme hcarries => ?_⟩
  rw [reply_of_mem_visits hv]
  exact response_of_handsOut h hme hcarries v.before

/-- The refresh token of a pair for a day is verified as an access token at first, and expired a day later. -/
theorem refresh_token_admits_day :
    let key : SealingKey := ⟨List.replicate 32 0, rfl⟩
    let s : Server :=
      { settings := ⟨80, "sqlite::memory:", "", 900, 86400, 1000⟩, service := { key } }
    let w : World SessionTable := { store := .empty, now := .epoch, random := ⟨fun _ => 7, 0⟩ }
    let nextDay : Instant := ⟨86400, 0, by decide, by decide, by decide⟩
    ∃ pair w', s.service.issuePair "a" {} w = (.ok pair, w') ∧ s.service.HandsOut pair.refresh ∧
      s.service.verifyAccess pair.refresh.text w = .ok pair.refresh.payload ∧
      s.service.verifyAccess pair.refresh.text { w with now := nextDay } = .error .tokenExpired := by
  intro key s w nextDay
  have haccess : w.now.add? .quarterHour = some ⟨900, 0, by decide, by decide, by decide⟩ := by decide
  have hrefresh : w.now.add? .day = some nextDay := by decide
  obtain ⟨pair, random, hissue⟩ : ∃ pair random, s.service.issuePair "a" {} w = (.ok pair, { w with random }) :=
    TokenService.issuePair_of_some (by decide) haccess hrefresh
  obtain ⟨-, -, hissued⟩ := TokenService.issuedAs_of_issuePair hissue
  have hexpiry : pair.refresh.payload.expiredAt = nextDay :=
    Option.some.inj (hissued.expiredAt.symm.trans hrefresh)
  have hands : s.service.HandsOut pair.refresh := .pair hissue
  obtain ⟨hverify, -⟩ := refresh_token_admits s pair.refresh hands
  refine ⟨pair, _, hissue, hands, ?_, ?_⟩
  · rw [hverify, hexpiry]
    exact if_pos (show Instant.epoch < nextDay by decide)
  · rw [hverify, hexpiry]
    exact if_neg (show ¬nextDay < nextDay by decide)

/-! ## Revoked sessions -/

/-- A revocation is granted where its token can be revoked, whatever bytes its identifier takes. -/
theorem granted_of_revoke {a : Arrival} {w : World SessionTable} {text : String}
    (h : a.request.IsRevocation) (htext : readRefresh a.request = .ok text)
    (hrevoke : ∀ random, (revoke s text
      { w with now := a.moment, latency := a.latency, outage? := a.outage?, random }).1 = .ok ()) :
    (visit s a w).Granted := by
  let before : World SessionTable :=
    { w with now := a.moment, latency := a.latency, outage? := a.outage? }
  obtain ⟨id, random, hid⟩ := requestId_eq a.request before
  refine ⟨h, ?_⟩
  have hreply : (visit s a w).reply.response = (answerRevoke s id a.request { before with random }).1 := by
    show (handle s a.request before).1.response = _
    unfold handle
    simp only [hid, respond_of_isRevocation h]
  rw [hreply, status_answerRevoke_iff]
  exact ⟨text, _, htext, Prod.ext (hrevoke random) rfl⟩

/-- A client logs in and has its session revoked, and at that very moment asks for the payload of its refresh
token: it is told, and the token is still verified as an access token. -/
theorem refresh_token_admits_revoked :
    let key : SealingKey := ⟨List.replicate 32 0, rfl⟩
    let s : Server :=
      { settings := ⟨80, "sqlite::memory:", "", 900, 86400, 1000⟩, service := { key } }
    let w : World SessionTable := { store := .empty, now := .epoch, random := ⟨fun _ => 7, 0⟩ }
    ∃ l w', s.service.openSession .background "a" {} w = (.ok l, w') ∧
      let refresh := l.tokens.refresh
      let revocation : Request :=
        { method := "POST", target := "/tokens/revoke"
          headers := [("content-type", "application/json")], body := refreshBody refresh.text }
      let question : Request :=
        { method := "GET", target := "/tokens/me"
          headers := [("authorization", "Bearer " ++ refresh.text)] }
      ∃ a b, visits s [⟨.epoch, 0, none, revocation⟩, ⟨.epoch, 0, none, question⟩] w' = [a, b] ∧
        a.Granted ∧ s.service.verifyAccess refresh.text b.before = .ok refresh.payload ∧
        b.reply.response = { status := 200, body := .json refresh.payload.toJson } := by
  intro key s w
  let nextDay : Instant := ⟨86400, 0, by decide, by decide, by decide⟩
  have hlater : Instant.epoch < nextDay := by decide
  have hsum : w.now.add? .day = some nextDay := by decide
  obtain ⟨l, w', hopen, hcreated, hexpires, hexpiry⟩ :=
    TokenService.openSession_of_empty_table (t := s.service) (w := w) ⟨rfl, rfl⟩ rfl
      CallContext.admitted_background (show "a" ≠ "" by decide) {} (by decide) hsum
  obtain ⟨hl, hfind⟩ := TokenService.opened_in_table hopen
  have hlegible : l.session.Legible := by
    rw [Session.Legible, hcreated, hexpires]
    decide +kernel
  rw [if_pos hlegible] at hfind
  have hfits : (refreshBody l.tokens.refresh.text).length ≤ maxBodyLength := by
    obtain ⟨w₁, hissue⟩ := TokenService.issuePair_of_openSession hopen
    obtain ⟨-, nonce, htext⟩ := TokenService.texts_of_issuePair hissue
    obtain ⟨-, -, hissued⟩ := TokenService.issuedAs_of_issuePair hissue
    have hid := TokenService.id_of_issuePair hissue
    let p : Payload := ⟨TokenService.refreshId w.random, "a", w.now, nextDay⟩
    have hcontent : (Text.Utf8.encode p.toJson).length ≤ 1000 := by decide +kernel
    unfold p at hcontent
    rw [← hid, ← hissued.subject, ← hissued.issuedAt, ← hexpiry] at hcontent
    rw [htext]
    exact length_refreshBody_le key nonce (Nat.le_trans hcontent (by decide))
  have hnow : Instant.epoch < l.tokens.refresh.payload.expiredAt := hexpiry ▸ hlater
  have hands : s.service.HandsOut l.tokens.refresh := .opening hopen
  refine ⟨l, w', hopen, ?_⟩
  intro refresh revocation question
  refine ⟨_, _, rfl, ?granted, ?verified, ?told⟩
  case granted =>
    have hrevocation : revocation.IsRevocation := ⟨rfl, show pathOf "/tokens/revoke" = _ by decide⟩
    have htype : (header? [("content-type", "application/json")] "content-type").any MediaType.isJson = true := by
      decide
    have htext : readRefresh revocation = .ok refresh.text :=
      readRefresh_of_refreshBody htype hfits (by dsimp only [revocation, refresh])
    refine granted_of_revoke hrevocation htext fun random => ?_
    exact TokenService.revoke_of_found ⟨rfl, rfl⟩ (show 0 < s.settings.storeTimeout by decide) hl hnow hfind
  case verified =>
    rw [hands.verifyAccess]
    exact if_pos hnow
  case told =>
    have hfirst : FirstHeader question.headers "authorization" ("Bearer " ++ refresh.text) :=
      ⟨[], "authorization", [], rfl, by decide, List.forall_mem_nil _⟩
    have hme : question.Asks .me := ⟨rfl, show pathOf "/tokens/me" = _ by decide⟩
    have hanswer := response_of_handsOut hands hme (carries_of_payload hl.holds hfirst)
      { (visit s ⟨.epoch, 0, none, revocation⟩ w').after with
        now := .epoch, latency := 0, outage? := none }
    exact hanswer.trans (if_pos hnow)

end Http

end SessionTokens
