import SessionTokens.Proofs.Http.Guard
import SessionTokens.Proofs.Http.Renewal
import SessionTokens.Proofs.Http.Revocation

/-!
# What failures give away

Whoever is told of an error learns its status and nothing else: two errors with one status are told in one
and the same reply, whatever they are about (`failures_reveal_status`). The errors that reach a client are
few (`Discreet`): a bad request says only that the token is missing, and no fault of an argument or of the
configuration gets through.
-/

namespace SessionTokens.Http

open Time (Instant)

theorem status_inj {a b : ErrorKind} (ha : a ≠ .configuration) (hb : b ≠ .configuration)
    (h : a.status = b.status) : a = b := by
  cases a <;> cases b <;> first | rfl | contradiction

/-! ## Errors that say no more than their status -/

namespace RequestError

/-- The error has a kind that its status tells, or it is that the token is missing. -/
def Discreet (e : RequestError) : Prop :=
  e = .badRequest "refresh_token is required" ∨
    ∃ kind, e.kind? = some kind ∧ kind ≠ .configuration ∧ kind ≠ .invalidArgument

theorem publicMessage_of_kind? {e : RequestError} {kind : ErrorKind} (h : e.kind? = some kind) :
    e.publicMessage = kind.publicMessage := by
  cases e with
  | badRequest message => cases h
  | unauthorized message => simp only [publicMessage, h, Option.map_some, Option.getD_some]
  | store failure => simp only [publicMessage, h, Option.map_some, Option.getD_some]
  | auth failure => simp only [publicMessage, h, Option.map_some, Option.getD_some]

/-- The kind of an error decides all of its response. -/
theorem toResponse_of_kind? {e f : RequestError} {kind : ErrorKind} (he : e.kind? = some kind)
    (hf : f.kind? = some kind) (id? : Option String) : e.toResponse id? = f.toResponse id? := by
  have hcode : e.code = f.code := by simp only [code, he, hf]
  have hjson : e.toJson id? = f.toJson id? := by
    simp only [toJson, hcode, publicMessage_of_kind? he, publicMessage_of_kind? hf]
  simp only [toResponse, status_of_kind? he, status_of_kind? hf, hjson]

/-- **The status of a discreet error decides all of its response.** -/
theorem toResponse_of_status {e f : RequestError} (he : e.Discreet) (hf : f.Discreet)
    (h : e.status = f.status) (id? : Option String) : e.toResponse id? = f.toResponse id? := by
  -- only a missing token has the status of a fault in an argument
  have hmissing {kind : ErrorKind} (hk : kind ≠ .invalidArgument) : kind.status ≠ 400 := by
    cases kind <;> first | decide | contradiction
  rcases he with rfl | ⟨a, he, hac, haa⟩ <;> rcases hf with rfl | ⟨b, hf, hbc, hba⟩
  · rfl
  · exact absurd ((status_of_kind? hf).symm.trans h.symm) (hmissing hba)
  · exact absurd ((status_of_kind? he).symm.trans h) (hmissing haa)
  · have hkind : a = b :=
      status_inj hac hbc (by rw [← status_of_kind? he, h, status_of_kind? hf])
    exact toResponse_of_kind? he (hkind ▸ hf) id?

theorem discreet_unauthorized (message : String) : (unauthorized message).Discreet :=
  Or.inr ⟨.unauthenticated, rfl, by decide, by decide⟩

theorem discreet_store (e : StoreError) : (store e).Discreet := by
  cases e with
  | notFound => exact Or.inr ⟨.notFound, rfl, by decide, by decide⟩
  | backend message => exact Or.inr ⟨.internal, rfl, by decide, by decide⟩

theorem discreet_auth {e : AuthError} (h : TokenService.RenewalFails e) : (auth e).Discreet := by
  cases h with
  | unauthenticated => exact Or.inr ⟨.unauthenticated, rfl, by decide, by decide⟩
  | sessionNotFound => exact Or.inr ⟨.notFound, rfl, by decide, by decide⟩
  | internal message => exact Or.inr ⟨.internal, rfl, by decide, by decide⟩
  | cancelled => exact Or.inr ⟨.cancelled, rfl, by decide, by decide⟩
  | deadlineExceeded => exact Or.inr ⟨.cancelled, rfl, by decide, by decide⟩

end RequestError

open RequestError (Discreet discreet_unauthorized discreet_store discreet_auth)

/-! ## Errors of the handlers -/

section

variable {σ : Type} [SessionStore σ] {s : Server} {text id : String} {w : World σ} {e : RequestError}
  {r : Request}

theorem discreet_of_requireRefresh (h : requireRefresh text = .error e) : e.Discreet := by
  simp only [requireRefresh] at h
  split at h
  · cases h
    exact Or.inl rfl
  · cases h

theorem discreet_of_renew (h : (renew s text w).1 = .error e) : e.Discreet := by
  by_cases htrim : Text.trim text = ""
  · rw [renew_of_blank htrim] at h
    cases h
    exact Or.inl rfl
  · rw [renew_of_not_blank htrim] at h
    cases hrenew : (s.service.renewAccess s.callContext (Text.trim text) w).1 with
    | ok access => simp [hrenew, Except.mapError] at h
    | error failure =>
      rw [hrenew] at h
      cases h
      exact discreet_auth (TokenService.renewalFails_of_renewAccess hrenew)

theorem discreet_of_revoke (h : (revoke s text w).1 = .error e) : e.Discreet := by
  unfold revoke at h
  split at h
  · next hrequire =>
    cases h
    exact discreet_of_requireRefresh hrequire
  · split at h
    · cases h
      exact discreet_unauthorized _
    · split at h
      · next why _ _ =>
        cases h
        exact discreet_auth (TokenService.renewalFails_toError why)
      · next failure _ _ =>
        cases h
        exact discreet_store failure
      · split at h
        · cases h
          exact discreet_unauthorized _
        · split at h
          · next failure _ _ =>
            cases h
            exact discreet_store failure
          · cases h

theorem discreet_of_authenticate {headers : List (String × String)} {now : Instant}
    (h : authenticate s headers now = .error e) : e.Discreet :=
  Or.inr ⟨.unauthenticated, kind?_of_authenticate h, by decide, by decide⟩

/-! ## Errors of the routes -/

/-- The response tells a discreet error, or no error at all. -/
def TellsDiscreetly (id : String) (a : Response) : Prop :=
  (∃ e : RequestError, e.Discreet ∧ a = e.toResponse (some id)) ∨
    ∀ e : RequestError, a ≠ e.toResponse (some id)

theorem tellsDiscreetly_ofResult {α : Type} {granted : α → Response} {result : Except RequestError α}
    (hgranted : ∀ x, (granted x).status < 400) (herror : ∀ e, result = .error e → e.Discreet) :
    TellsDiscreetly id (.ofResult id granted result) := by
  cases result with
  | error e => exact Or.inl ⟨e, herror e rfl, rfl⟩
  | ok x => exact Or.inr fun e => Response.ne_toResponse (hgranted x) e _

theorem tellsDiscreetly_fault (fault : BodyFault) :
    TellsDiscreetly id { status := fault.status, body := .plain } :=
  Or.inr fun e heq => by cases congrArg Response.body heq

/-- A route answers with a discreet error, or with no error at all. -/
theorem tellsDiscreetly_answerRoute {route : Route} (hroute : route ≠ .health) (h : r.Asks route)
    (s : Server) (id : String) (w : World σ) :
    TellsDiscreetly id (answerRoute s id route r w).1 := by
  cases route with
  | health => exact absurd rfl hroute
  | me =>
    rw [answerRoute_me h]
    exact tellsDiscreetly_ofResult (fun _ => show 200 < 400 by decide) fun _ => discreet_of_authenticate
  | renew =>
    rw [answerRoute_renew h]
    cases htext : readRefresh r with
    | error fault =>
      simp only [answerRenew, htext]
      exact tellsDiscreetly_fault fault
    | ok text =>
      simp only [answerRenew_of_text htext]
      exact tellsDiscreetly_ofResult (fun _ => show 200 < 400 by decide) fun _ => discreet_of_renew
  | revoke =>
    rw [answerRoute_revoke h]
    cases htext : readRefresh r with
    | error fault =>
      simp only [answerRevoke, htext]
      exact tellsDiscreetly_fault fault
    | ok text =>
      simp only [answerRevoke_of_text htext]
      exact tellsDiscreetly_ofResult (fun _ => show 204 < 400 by decide) fun _ => discreet_of_revoke

end

/-! ## Why requests fail -/

/-- The token that a request presents, in its authorization header or in its body. -/
def presented? (r : Request) : Route → Option String
  | .health => none
  | .me => bearerToken? r.headers
  | .renew | .revoke => (readRefresh r).toOption.bind fun text => (requireRefresh text).toOption

section

variable {σ : Type} [SessionStore σ]

/-- The token is verified, and this is found under its identifier. -/
structure Finds (s : Server) (token : String) (w : World σ) (p : Payload)
    (found : Except StoreError Session) (w' : World σ) : Prop where
  verified : Token.verify s.service.key token w.now = .ok p
  found : w.findUnder s.callContext p.id = (.ok found, w')

/-- Why a request is refused on a route. -/
inductive Refused (s : Server) (r : Request) (w : World σ) : Route → Prop where
  /-- There is no header, or no token in it. -/
  | bearer : presented? r .me = none → Refused s r w .me
  /-- The token is forged, cut short or expired. -/
  | token {route : Route} {token : String} : presented? r route = some token →
      (∀ p, Token.verify s.service.key token w.now ≠ .ok p) → Refused s r w route
  /-- The session is blocked or over, or was opened for another subject or with another token. -/
  | session {token : String} {p : Payload} {session : Session} {w' : World σ} :
      presented? r .renew = some token → Finds s token w p (.ok session) w' →
      session.Rejects p token w'.now → Refused s r w .renew
  /-- The session was opened for another subject or with another token. -/
  | owner {token : String} {p : Payload} {session : Session} {w' : World σ} :
      presented? r .revoke = some token → Finds s token w p (.ok session) w' →
      session.subject ≠ p.subject ∨ session.refreshToken ≠ token → Refused s r w .revoke

/-- What breaks on a route. -/
inductive Broken (s : Server) (r : Request) (w : World σ) : Route → Prop where
  /-- The store fails in the look-up. -/
  | lookup {route : Route} {token message : String} {p : Payload} {w' : World σ} :
      route = .renew ∨ route = .revoke → presented? r route = some token →
      Finds s token w p (.error (.backend message)) w' → Broken s r w route
  /-- No access token can be issued. -/
  | issue {token : String} {p : Payload} {session : Session} {w' : World σ} {e : AuthError} :
      presented? r .renew = some token → Finds s token w p (.ok session) w' →
      ¬session.Rejects p token w'.now →
      (s.service.issueToken session.subject s.service.lifetimes.access w').1 = .error e →
      Broken s r w .renew
  /-- The store fails in the revocation. -/
  | block {token message : String} {p : Payload} {session : Session} {w' : World σ} :
      presented? r .revoke = some token → Finds s token w p (.ok session) w' →
      session.subject = p.subject → session.refreshToken = token →
      (w'.block session.id).1 = .error (.backend message) → Broken s r w .revoke

variable {s : Server} {r : Request} {id token : String} {w : World σ}

/-! ## What is answered then -/

/-- The token of a body is the text in it without the white space around it. -/
theorem presented?_eq_some_iff {route : Route} (hroute : route = .renew ∨ route = .revoke) :
    presented? r route = some token ↔
      ∃ text, readRefresh r = .ok text ∧ Text.trim text ≠ "" ∧ token = Text.trim text := by
  have hbody : presented? r route =
      (readRefresh r).toOption.bind fun text => (requireRefresh text).toOption := by
    rcases hroute with rfl | rfl <;> rfl
  simp only [hbody, ← requireRefresh_eq_ok_iff]
  cases readRefresh r with
  | error fault => simp [Except.toOption]
  | ok text => cases h : requireRefresh text <;> simp [Except.toOption, h]

/-- Without a token in the header, or with one that is not verified, nobody is authenticated. -/
theorem answerRoute_of_unauthenticated (h : r.Asks .me)
    (hverify : ∀ token, presented? r .me = some token →
      ∀ p, Token.verify s.service.key token w.now ≠ .ok p) :
    ∃ e : RequestError, e.kind? = some .unauthenticated ∧
      (answerRoute s id .me r w).1 = e.toResponse (some id) := by
  rw [answerRoute_me h]
  cases hp : authenticate s r.headers w.now with
  | error e => exact ⟨e, kind?_of_authenticate hp, rfl⟩
  | ok p =>
    obtain ⟨token, hcarries, hverified⟩ := authenticate_eq_ok_iff.mp hp
    exact absurd hverified (hverify token (bearerToken?_eq_some_iff.mpr hcarries) p)

theorem answerRoute_of_renewAccess_error {e : AuthError} {w' : World σ} (h : r.Asks .renew)
    (htoken : presented? r .renew = some token)
    (hrenew : s.service.renewAccess s.callContext token w = (.error e, w')) :
    (answerRoute s id .renew r w).1 = (RequestError.auth e).toResponse (some id) := by
  obtain ⟨text, htext, hgiven, rfl⟩ := (presented?_eq_some_iff (Or.inl rfl)).mp htoken
  rw [answerRoute_renew h, answerRenew_of_text htext, renew_of_not_blank hgiven, hrenew]
  rfl

theorem answerRoute_of_revoke_error {e : RequestError} {text : String} {w' : World σ}
    (h : r.Asks .revoke) (htext : readRefresh r = .ok text) (hrevoke : revoke s text w = (.error e, w')) :
    (answerRoute s id .revoke r w).1 = e.toResponse (some id) := by
  rw [answerRoute_revoke h, answerRevoke_of_text htext, hrevoke]
  rfl

/-- **A request that is refused is told so in an error of one kind.** -/
theorem answerRoute_of_refused {route : Route} (id : String) (h : r.Asks route) (hrefused : Refused s r w route) :
    ∃ e : RequestError, e.kind? = some .unauthenticated ∧
      (answerRoute s id route r w).1 = e.toResponse (some id) := by
  cases hrefused with
  | bearer hnone =>
    refine answerRoute_of_unauthenticated h fun token htoken => ?_
    cases hnone.symm.trans htoken
  | @token _ token htoken hverify =>
    cases route with
    | health => cases htoken
    | me =>
      refine answerRoute_of_unauthenticated h fun token' htoken' => ?_
      cases htoken.symm.trans htoken'
      exact hverify
    | renew =>
      exact ⟨_, rfl, answerRoute_of_renewAccess_error h htoken
        (TokenService.renewAccess_of_refused hverify)⟩
    | revoke =>
      obtain ⟨text, htext, hgiven, rfl⟩ := (presented?_eq_some_iff (Or.inr rfl)).mp htoken
      cases hv : Token.verify s.service.key (Text.trim text) w.now with
      | ok p => exact absurd hv (hverify p)
      | error e => exact ⟨_, rfl, answerRoute_of_revoke_error h htext (revoke_of_refused hgiven hv)⟩
  | session htoken hfinds hrejects =>
    exact ⟨_, rfl, answerRoute_of_renewAccess_error h htoken
      (TokenService.renewAccess_of_found_rejects hfinds.verified hfinds.found hrejects)⟩
  | owner htoken hfinds hstranger =>
    obtain ⟨text, htext, hgiven, rfl⟩ := (presented?_eq_some_iff (Or.inr rfl)).mp htoken
    exact ⟨_, rfl, answerRoute_of_revoke_error h htext
      (revoke_of_stranger ⟨hgiven, hfinds.verified⟩ hfinds.found hstranger)⟩

/-- **What breaks is told in an error of one kind.** -/
theorem answerRoute_of_broken {route : Route} (id : String) (h : r.Asks route) (hbroken : Broken s r w route) :
    ∃ e : RequestError, e.kind? = some .internal ∧
      (answerRoute s id route r w).1 = e.toResponse (some id) := by
  cases hbroken with
  | @lookup _ token message p w' hroute htoken hfinds =>
    obtain ⟨text, htext, hgiven, rfl⟩ := (presented?_eq_some_iff hroute).mp htoken
    rcases hroute with rfl | rfl
    · exact ⟨.auth (.internal message), rfl, answerRoute_of_renewAccess_error h htoken
        (TokenService.renewAccess_of_not_found hfinds.verified hfinds.found)⟩
    · exact ⟨.store (.backend message), rfl, answerRoute_of_revoke_error h htext
        (revoke_of_store_error ⟨hgiven, hfinds.verified⟩ hfinds.found)⟩
  | issue htoken hfinds hadmits hissue =>
    have hrenew := TokenService.renewAccess_of_found_admits hfinds.verified hfinds.found hadmits
      (Prod.ext hissue rfl)
    exact ⟨_, rfl, answerRoute_of_renewAccess_error h htoken hrenew⟩
  | @block token message p session w' htoken hfinds hsubject hrefresh hblock =>
    obtain ⟨text, htext, hgiven, rfl⟩ := (presented?_eq_some_iff (Or.inr rfl)).mp htoken
    exact ⟨.store (.backend message), rfl, answerRoute_of_revoke_error h htext
      (revoke_of_block_error ⟨hgiven, hfinds.verified⟩ hfinds.found hsubject hrefresh
        (Prod.ext hblock rfl))⟩

end

/-! ## Replies -/

/-- The reply tells of an error. -/
def Reply.IsFailure (a : Reply) : Prop :=
  ∃ e : RequestError, a.response = e.toResponse (some a.requestId)

/-- **A failure reveals nothing but its status.** Take any two requests for renewals, revocations or payloads
that carry one identifier, to any two servers over any two stores at any two moments. If both are told of
errors with one status, both get the same reply to the last byte. So it is with all requests that are
refused, whatever is wrong with the token or with its session, and with all that break in the store or in
the issuing, whatever the store says. -/
theorem failures_reveal_status {σ τ : Type} [SessionStore σ] [SessionStore τ] (s s' : Server)
    (r r' : Request) (route route' : Route) (w : World σ) (w' : World τ) (id : String)
    (hroute : route ≠ .health) (hroute' : route' ≠ .health) (h : r.Asks route) (h' : r'.Asks route')
    (hid : givenId? r = some id) (hid' : givenId? r' = some id) :
    let a := (handle s r w).1
    let b := (handle s' r' w').1
    (a.IsFailure → b.IsFailure → a.response.status = b.response.status → a = b) ∧
      (Refused s r w route →
        a.IsFailure ∧ a.response.status = 401 ∧ (Refused s' r' w' route' → a = b)) ∧
      (Broken s r w route →
        a.IsFailure ∧ a.response.status = 500 ∧ (Broken s' r' w' route' → a = b)) := by
  have ha : (handle s r w).1 = ⟨id, (answerRoute s id route r w).1⟩ := by
    rw [handle_of_asks s h, requestId_of_given hid]
  have hb : (handle s' r' w').1 = ⟨id, (answerRoute s' id route' r' w').1⟩ := by
    rw [handle_of_asks s' h', requestId_of_given hid']
  intro a b
  simp only [a, b, ha, hb]
  refine ⟨?same, fun hrefused => ?refused, fun hbroken => ?broken⟩
  case same =>
    rintro ⟨e, he⟩ ⟨f, hf⟩ hstatus
    obtain ⟨e', hediscreet, he'⟩ | hnone := tellsDiscreetly_answerRoute hroute h s id w
    · obtain ⟨f', hfdiscreet, hf'⟩ | hnone := tellsDiscreetly_answerRoute hroute' h' s' id w'
      · rw [he', hf'] at hstatus ⊢
        rw [RequestError.toResponse_of_status hediscreet hfdiscreet hstatus]
      · exact absurd hf (hnone f)
    · exact absurd he (hnone e)
  case refused =>
    obtain ⟨e, hkind, he⟩ := answerRoute_of_refused id h hrefused
    refine ⟨⟨e, he⟩, ?_, fun hrefused' => ?_⟩
    · rw [he]
      exact RequestError.status_of_kind? hkind
    · obtain ⟨f, hkind', hf⟩ := answerRoute_of_refused id h' hrefused'
      rw [he, hf, RequestError.toResponse_of_kind? hkind hkind']
  case broken =>
    obtain ⟨e, hkind, he⟩ := answerRoute_of_broken id h hbroken
    refine ⟨⟨e, he⟩, ?_, fun hbroken' => ?_⟩
    · rw [he]
      exact RequestError.status_of_kind? hkind
    · obtain ⟨f, hkind', hf⟩ := answerRoute_of_broken id h' hbroken'
      rw [he, hf, RequestError.toResponse_of_kind? hkind hkind']

/-- A missing header and a forged token are told in one reply, and so are the outages of two stores. -/
theorem failures_reveal_status_outages :
    let key : Crypto.SealingKey := ⟨List.replicate 32 0, rfl⟩
    let p : Payload :=
      { id := ⟨List.replicate 16 7, rfl⟩, subject := "a", issuedAt := .epoch
        expiredAt := ⟨900, 0, by decide, by decide, by decide⟩ }
    let token := Token.ofContent key ⟨List.replicate 32 0, rfl⟩ (Text.Utf8.encode p.toJson)
    let s : Server :=
      { settings := ⟨80, "sqlite::memory:", "", 900, 900, 1000⟩, service := { key } }
    let anonymous : Request := { method := "GET", target := "/tokens/me", headers := [("x-request-id", "7")] }
    let request (target text : String) : Request :=
      { method := "POST", target, headers := [("content-type", "application/json"), ("x-request-id", "7")]
        body := refreshBody text }
    let w : World MemoryStore := { store := .empty, now := .epoch, random := ⟨fun _ => 7, 0⟩ }
    let dark (message : String) : World MemoryStore := { w with outage? := some message }
    let renewal := (handle s (request "/tokens/renew" token) (dark "a")).1
    (handle s anonymous w).1.response.status = 401 ∧
      (handle s anonymous w).1 = (handle s (request "/tokens/renew" "x") w).1 ∧
      renewal.response.status = 500 ∧
      renewal = (handle s (request "/tokens/revoke" token) (dark "b")).1 := by
  intro key p token s anonymous request w dark renewal
  have hpayload : Token.payload key token = .ok p := Token.payload_ofContent _ _ p
  have hlength : (refreshBody token).length ≤ maxBodyLength := by
    have hcontent : (Text.Utf8.encode p.toJson).length ≤ 1000 := by decide +kernel
    exact length_refreshBody_le key _ (Nat.le_trans hcontent (by decide))
  have hverify : Token.verify key token w.now = .ok p := Token.verify_of_lt hpayload (by decide)
  have hshort : (refreshBody "x").length ≤ maxBodyLength := by decide
  -- the token is nothing but a text from here on
  clear_value token
  have hpresented {target text : String} {route : Route} (hroute : route = .renew ∨ route = .revoke)
      (hlength : (refreshBody text).length ≤ maxBodyLength) (htrim : Text.trim text = text)
      (hne : text ≠ "") : presented? (request target text) route = some text := by
    have htype : (header? [("content-type", "application/json"), ("x-request-id", "7")]
        "content-type").any MediaType.isJson = true := by decide
    exact (presented?_eq_some_iff hroute).mpr
      ⟨text, readRefresh_of_refreshBody htype hlength (by dsimp only [request]), htrim.symm ▸ hne, htrim.symm⟩
  have hshown {target : String} {route : Route} (hroute : route = .renew ∨ route = .revoke) :
      presented? (request target token) route = some token :=
    hpresented hroute hlength (Token.trim_of_payload hpayload) (Token.ne_empty_of_payload hpayload)
  have hheader : header? [("content-type", "application/json"), ("x-request-id", "7")] "x-request-id"
      = some "7" := by decide
  have hid {target text : String} : givenId? (request target text) = some "7" :=
    givenId?_of_header hheader (by decide)
  have hrenew {text : String} : (request "/tokens/renew" text).Asks .renew :=
    ⟨rfl, show pathOf "/tokens/renew" = Route.renew.path by decide⟩
  have hrevoke {text : String} : (request "/tokens/revoke" text).Asks .revoke :=
    ⟨rfl, show pathOf "/tokens/revoke" = Route.revoke.path by decide⟩
  have hforged : Refused s (request "/tokens/renew" "x") w .renew := by
    refine Refused.token (hpresented (Or.inl rfl) hshort (by decide) (by decide)) fun q hq => ?_
    have hinvalid : Token.Invalid key "x" := Token.invalid_of_not_header (by decide)
    obtain ⟨reason, herror⟩ := hinvalid w.now
    cases herror.symm.trans hq
  have hbroken {target message : String} {route : Route} (hroute : route = .renew ∨ route = .revoke) :
      Broken s (request target token) (dark message) route :=
    Broken.lookup hroute (hshown hroute) ⟨hverify, rfl⟩
  obtain ⟨-, hrefused, -⟩ := failures_reveal_status s s anonymous (request "/tokens/renew" "x") .me .renew w
    w "7" (by decide) (by decide) (by decide) hrenew (by decide) hid
  obtain ⟨-, -, hbreaks⟩ := failures_reveal_status s s (request "/tokens/renew" token)
    (request "/tokens/revoke" token) .renew .revoke (dark "a") (dark "b") "7" (by decide) (by decide)
    hrenew hrevoke hid hid
  obtain ⟨-, hstatus, hsame⟩ := hrefused (Refused.bearer (by decide))
  obtain ⟨-, hstatus', hsame'⟩ := hbreaks (hbroken (Or.inl rfl))
  exact ⟨hstatus, hsame hforged, hstatus', hsame' (hbroken (Or.inr rfl))⟩

end SessionTokens.Http
