import SessionTokens.Proofs.Http.Bearer
import SessionTokens.Proofs.Http.Routes
import SessionTokens.Proofs.Token.Lifetime
import SessionTokens.Proofs.TokenService.Renewal

/-!
# Who is told what a token says

The payload of a token is told to whoever carries a token that is verified, and to nobody else
(`guard_exact`). The store has no part in it.
-/

namespace SessionTokens.Http

open Time (Instant)

/-! ## Authentication -/

section

variable {s : Server} {headers : List (String × String)} {now : Instant}

theorem authenticate_of_none (h : bearerToken? headers = none) (s : Server) (now : Instant) :
    ∃ message, authenticate s headers now = .error (.unauthorized message) := by
  unfold bearerToken? at h
  unfold authenticate
  cases hheader : header? headers "authorization" with
  | none => exact ⟨_, rfl⟩
  | some value =>
    cases hread : Bearer.read value with
    | error fault => exact ⟨fault.message, by simp only [hread]⟩
    | ok token => simp [hheader, hread, Except.toOption] at h

theorem authenticate_of_some {token : String} (h : bearerToken? headers = some token) (s : Server)
    (now : Instant) :
    authenticate s headers now = (Token.verify s.service.key token now).mapError .auth := by
  obtain ⟨value, hheader, hread⟩ := Option.bind_eq_some_iff.mp h
  have hok : Bearer.read value = .ok token := by
    cases hread' : Bearer.read value <;> simp_all [Except.toOption]
  unfold authenticate
  simp only [hheader, hok]
  cases Token.verify s.service.key token now <;> rfl

/-- **Authenticated is exactly who carries a token that is verified.** -/
theorem authenticate_eq_ok_iff {p : Payload} :
    authenticate s headers now = .ok p ↔
      ∃ token, Carries headers token ∧ Token.verify s.service.key token now = .ok p := by
  simp only [← bearerToken?_eq_some_iff]
  cases htoken : bearerToken? headers with
  | none =>
    obtain ⟨message, herror⟩ := authenticate_of_none htoken s now
    simp [herror]
  | some token =>
    rw [authenticate_of_some htoken]
    cases hverify : Token.verify s.service.key token now <;> simp [Except.mapError, hverify]

/-- Whatever is wrong with the header or with its token, the error is of one kind. -/
theorem kind?_of_authenticate {e : RequestError} (h : authenticate s headers now = .error e) :
    e.kind? = some .unauthenticated := by
  cases htoken : bearerToken? headers with
  | none =>
    obtain ⟨message, herror⟩ := authenticate_of_none htoken s now
    cases herror.symm.trans h
    rfl
  | some token =>
    rw [authenticate_of_some htoken] at h
    cases hverify : Token.verify s.service.key token now with
    | ok p => simp [hverify, Except.mapError] at h
    | error failure =>
      rw [hverify] at h
      cases h
      exact congrArg some (TokenService.kind_of_verify hverify)

end

/-! ## Answers -/

theorem handle_of_asks_me {σ : Type} [SessionStore σ] {r : Request} (h : r.Asks .me) (s : Server)
    (w : World σ) :
    ∃ random, handle s r w =
      (⟨(requestId r w).1, .ofResult (requestId r w).1
        (fun p => { status := 200, body := .json p.toJson }) (authenticate s r.headers w.now)⟩,
        { w with random }) := by
  obtain ⟨id, random, hid⟩ := requestId_eq r w
  refine ⟨random, ?_⟩
  rw [handle_of_asks s h, hid, answerRoute_me h]

/-- **The payload of a token is told to whoever carries it while it is verified.** A request for the payload
of its token is granted exactly if the first authorization header is plain text whose first two fields are
the word `bearer` and a token that is verified then. The answer is the payload, which is read back from it.
In every other case the answer is 401. So every token that was issued under the key can be carried: it is
answered with its payload before its expiry, and with 401 from then on. The store is left as it was, and
with any other store the reply is the same. -/
theorem guard_exact {σ τ : Type} [SessionStore σ] [SessionStore τ] (s : Server) (r : Request)
    (w : World σ) (h : r.Asks .me) :
    let a := (handle s r w).1.response
    (a.status = 200 ↔
      ∃ token p, Carries r.headers token ∧ Token.verify s.service.key token w.now = .ok p) ∧
    (∀ token p, Carries r.headers token → Token.verify s.service.key token w.now = .ok p →
      a = { status := 200, body := .json p.toJson } ∧
        Payload.ofJson? (Text.Utf8.encode p.toJson) = some p) ∧
    (a.status ≠ 200 → a.status = 401) ∧
    (∀ subject duration start random i,
      (Token.issue s.service.key subject duration start random).1 = .ok i →
      FirstHeader r.headers "authorization" ("Bearer " ++ i.text) →
      (w.now < i.payload.expiredAt → a = { status := 200, body := .json i.payload.toJson }) ∧
        (i.payload.expiredAt ≤ w.now → a.status = 401)) ∧
    (∃ random, (handle s r w).2 = { w with random }) ∧
    ∀ v : World τ, v.now = w.now → v.random = w.random → (handle s r v).1 = (handle s r w).1 := by
  obtain ⟨random, hw⟩ := handle_of_asks_me h s w
  intro a
  have ha : a = .ofResult (requestId r w).1 (fun p => { status := 200, body := .json p.toJson })
      (authenticate s r.headers w.now) := congrArg (·.1.response) hw
  have hauthentic : a.status = 200 ↔ ∃ p, authenticate s r.headers w.now = .ok p := by
    rw [ha]
    exact Response.status_ofResult_eq_iff (show 200 < 400 by decide) fun _ => rfl
  have hrefused : a.status ≠ 200 → a.status = 401 := by
    intro hne
    cases hp : authenticate s r.headers w.now with
    | error e =>
      rw [ha, hp]
      exact RequestError.status_of_kind? (kind?_of_authenticate hp)
    | ok p => exact absurd (hauthentic.mpr ⟨p, hp⟩) hne
  have hgranted : a.status = 200 ↔
      ∃ token p, Carries r.headers token ∧ Token.verify s.service.key token w.now = .ok p := by
    rw [hauthentic]
    simp only [authenticate_eq_ok_iff]
    exact exists_comm
  refine ⟨hgranted, fun token p hcarries hverify => ⟨?told, ?back⟩, hrefused,
    fun subject duration start bytes i hi hfirst => ?issued, ⟨random, congrArg Prod.snd hw⟩,
    fun v hnow hrandom => ?store⟩
  case told =>
    rw [ha, authenticate_eq_ok_iff.mpr ⟨token, hcarries, hverify⟩]
    rfl
  case back => exact Payload.ofJson?_toJson p
  case issued =>
    have hholds := (Token.issuedAs_of_issue hi).2.holds
    have hcarries : bearerToken? r.headers = some i.text :=
      bearerToken?_eq_some_iff.mpr (carries_of_payload hholds hfirst)
    rw [ha, authenticate_of_some hcarries]
    constructor
    · intro hlt
      rw [Token.verify_of_lt hholds hlt]
      rfl
    · intro hle
      rw [Token.verify_of_le hholds hle]
      rfl
  case store =>
    obtain ⟨random', hv⟩ := handle_of_asks_me h s v
    rw [hv, hw, hnow, fst_requestId_congr hrandom]

/-- A token for a quarter of an hour from the start of 1970 on is answered with its payload then, and with
401 after that quarter of an hour. -/
theorem guard_exact_quarterHour :
    let key : Crypto.SealingKey := ⟨List.replicate 32 0, rfl⟩
    let s : Server :=
      { settings := ⟨80, "sqlite::memory:", "", 900, 900, 1000⟩, service := { key } }
    let w : World MemoryStore := { store := .empty, now := .epoch, random := ⟨fun _ => 7, 0⟩ }
    let later : World MemoryStore := { w with now := ⟨900, 0, by decide, by decide, by decide⟩ }
    ∃ i, (Token.issue key "a" .quarterHour .epoch w.random).1 = .ok i ∧
      let r : Request :=
        { method := "GET", target := "/tokens/me", headers := [("Authorization", "Bearer " ++ i.text)] }
      r.Asks .me ∧
        (handle s r w).1.response = { status := 200, body := .json i.payload.toJson } ∧
        (handle s r later).1.response.status = 401 := by
  intro key s w later
  have hsum : Instant.epoch.add? .quarterHour = some later.now := by decide
  obtain ⟨i, hi, his⟩ := Token.issue_of_some key w.random (show "a" ≠ "" by decide) hsum
  have hexpiry : i.payload.expiredAt = later.now := Option.some.inj (his.expiredAt.symm.trans hsum)
  refine ⟨i, hi, ?_⟩
  intro r
  have h : r.Asks .me := ⟨rfl, show pathOf "/tokens/me" = Route.me.path by decide⟩
  have hfirst : FirstHeader r.headers "authorization" ("Bearer " ++ i.text) :=
    ⟨[], "Authorization", [], rfl, by decide, nofun⟩
  obtain ⟨-, -, -, hnow, -, -⟩ := guard_exact (τ := MemoryStore) s r w h
  obtain ⟨-, -, -, hlater, -, -⟩ := guard_exact (τ := MemoryStore) s r later h
  refine ⟨h, (hnow "a" .quarterHour .epoch w.random i hi hfirst).1 ?_,
    (hlater "a" .quarterHour .epoch w.random i hi hfirst).2 ?_⟩
  · rw [hexpiry]
    decide
  · rw [hexpiry]
    decide

end SessionTokens.Http
