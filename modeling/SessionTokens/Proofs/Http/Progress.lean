import SessionTokens.Http.Handlers

/-!
# Requests in steps

A renewal, a revocation and a login, cut at their calls to the store: each step makes one call at most, so
that the steps of other requests may come in between. Taken without a break, the steps of a request do what
the request does as a whole (`proceed_asked`).
-/

namespace SessionTokens.Http

/-! ## Steps -/

/-- What is asked for. -/
inductive Errand where
  | renew (c : CallContext) (token : String)
  | revoke (text : String)
  | login (c : CallContext) (subject : String) (client : Client)

/-- How far a request has come. -/
inductive Progress where
  | asked (e : Errand)
  /-- The token of a renewal is verified; next, its session is looked up. -/
  | renewing (c : CallContext) (token : String) (p : Payload)
  /-- The session of a renewal was found; next, it is checked and the new token is issued. -/
  | admitting (token : String) (p : Payload) (session : Session)
  | renewed (r : Except AuthError IssuedToken)
  /-- The token of a revocation is verified; next, its session is looked up. -/
  | revoking (token : String) (p : Payload)
  /-- The session of a revocation was found; next, its owner is checked. -/
  | checking (token : String) (p : Payload) (session : Session)
  /-- The owner of the session asks for its revocation; next, it is blocked. -/
  | blocking (token : String) (p : Payload) (session : Session)
  | revoked (r : Except RequestError Unit)
  /-- The tokens of a login are issued; next, its session is stored. -/
  | storing (c : CallContext) (tokens : TokenPair) (client : Client)
  | loggedIn (r : Except AuthError Login)

namespace Progress

-- What a request becomes with the answer to a call: it goes on, or is over with an error of its own.

def ofVerified (c : CallContext) (token : String) : Except AuthError Payload → Progress
  | .error e => renewed (.error (TokenService.refusal e))
  | .ok p => renewing c token p

def ofFound (token : String) (p : Payload) : Except Interruption (Except StoreError Session) → Progress
  | .error why => renewed (.error why.toError)
  | .ok (.error e) => renewed (.error (TokenService.lookupError e))
  | .ok (.ok session) => admitting token p session

def ofIssued (r : Except AuthError IssuedToken) : Progress :=
  renewed (r.mapError fun e => .internal ("error creating access token: " ++ e.message))

def ofPresented (token : String) : Except AuthError Payload → Progress
  | .error e => revoked (.error (.unauthorized ("refresh token rejected: " ++ e.message)))
  | .ok p => revoking token p

def ofClaimed (token : String) (p : Payload) :
    Except Interruption (Except StoreError Session) → Progress
  | .error why => revoked (.error (.auth why.toError))
  | .ok (.error e) => revoked (.error (.store e))
  | .ok (.ok session) => checking token p session

def ofPair (c : CallContext) (client : Client) : Except AuthError TokenPair → Progress
  | .error e => loggedIn (.error e)
  | .ok tokens => storing c tokens client

def ofStored (tokens : TokenPair) : Except Interruption (Except StoreError Session) → Progress
  | .error why => loggedIn (.error why.toError)
  | .ok (.error e) => loggedIn (.error (.internal ("error creating session: " ++ e.message)))
  | .ok (.ok session) => loggedIn (.ok { session, tokens })

variable {σ : Type} [SessionStore σ]

/-- The next step of a request. One that is over stays as it is. -/
def advance (s : Server) (q : Progress) (w : World σ) : Progress × World σ :=
  match q with
  | asked (.renew c token) => (ofVerified c token (Token.verify s.service.key token w.now), w)
  | renewing c token p => (ofFound token p (w.findUnder c p.id).1, (w.findUnder c p.id).2)
  | admitting token p session =>
    if (session.rejection? p token w.now).isSome then (renewed (.error .unauthenticated), w)
    else
      let issued := s.service.issueToken session.subject s.service.lifetimes.access w
      (ofIssued issued.1, issued.2)
  | asked (.revoke text) =>
    match requireRefresh text with
    | .error e => (revoked (.error e), w)
    | .ok token => (ofPresented token (Token.verify s.service.key token w.now), w)
  | revoking token p =>
    (ofClaimed token p (w.findUnder s.callContext p.id).1, (w.findUnder s.callContext p.id).2)
  | checking token p session =>
    if session.subject ≠ p.subject ∨ session.refreshToken ≠ token then
      (revoked (.error (.unauthorized ("refresh token does not own session " ++ session.id.toText))), w)
    else (blocking token p session, w)
  | blocking _ _ session =>
    (revoked ((w.block session.id).1.mapError .store), (w.block session.id).2)
  | asked (.login c subject client) =>
    let issued := s.service.issuePair subject s.service.lifetimes w
    (ofPair c client issued.1, issued.2)
  | storing c tokens client =>
    let stored := w.insertUnder c
      (.ofRefreshToken tokens.refresh.text tokens.refresh.payload client)
    (ofStored tokens stored.1, stored.2)
  | renewed r => (renewed r, w)
  | revoked r => (revoked r, w)
  | loggedIn r => (loggedIn r, w)

/-- Some steps of one request without a break. -/
def proceed (s : Server) : Nat → Progress → World σ → Progress × World σ
  | 0, q, w => (q, w)
  | n + 1, q, w => proceed s n (q.advance s w).1 (q.advance s w).2

section

variable (s : Server) (w : World σ)

@[simp] theorem advance_renew (c : CallContext) (token : String) :
    (asked (.renew c token)).advance s w
      = (ofVerified c token (Token.verify s.service.key token w.now), w) := rfl

@[simp] theorem advance_renewing (c : CallContext) (token : String) (p : Payload) :
    (renewing c token p).advance s w
      = (ofFound token p (w.findUnder c p.id).1, (w.findUnder c p.id).2) := rfl

theorem advance_admitting_of_rejected {token : String} {p : Payload} {session : Session}
    (h : (session.rejection? p token w.now).isSome) :
    (admitting token p session).advance s w = (renewed (.error .unauthenticated), w) :=
  if_pos h

theorem advance_admitting_of_admitted {token : String} {p : Payload} {session : Session}
    (h : ¬(session.rejection? p token w.now).isSome) :
    (admitting token p session).advance s w
      = (ofIssued (s.service.issueToken session.subject s.service.lifetimes.access w).1,
        (s.service.issueToken session.subject s.service.lifetimes.access w).2) :=
  if_neg h

theorem advance_revoke (text : String) :
    (asked (.revoke text)).advance s w =
      match requireRefresh text with
      | .error e => (revoked (.error e), w)
      | .ok token => (ofPresented token (Token.verify s.service.key token w.now), w) := rfl

@[simp] theorem advance_revoking (token : String) (p : Payload) :
    (revoking token p).advance s w
      = (ofClaimed token p (w.findUnder s.callContext p.id).1,
        (w.findUnder s.callContext p.id).2) := rfl

theorem advance_checking_of_stranger {token : String} {p : Payload} {session : Session}
    (h : session.subject ≠ p.subject ∨ session.refreshToken ≠ token) :
    (checking token p session).advance s w = (revoked (.error (.unauthorized
      ("refresh token does not own session " ++ session.id.toText))), w) :=
  if_pos h

theorem advance_checking_of_owner {token : String} {p : Payload} {session : Session}
    (h : ¬(session.subject ≠ p.subject ∨ session.refreshToken ≠ token)) :
    (checking token p session).advance s w = (blocking token p session, w) :=
  if_neg h

@[simp] theorem advance_blocking (token : String) (p : Payload) (session : Session) :
    (blocking token p session).advance s w
      = (revoked ((w.block session.id).1.mapError .store), (w.block session.id).2) := rfl

@[simp] theorem advance_login (c : CallContext) (subject : String) (client : Client) :
    (asked (.login c subject client)).advance s w
      = (ofPair c client (s.service.issuePair subject s.service.lifetimes w).1,
        (s.service.issuePair subject s.service.lifetimes w).2) := rfl

@[simp] theorem advance_storing (c : CallContext) (tokens : TokenPair) (client : Client) :
    (storing c tokens client).advance s w
      = (ofStored tokens (w.insertUnder c
          (.ofRefreshToken tokens.refresh.text tokens.refresh.payload client)).1,
        (w.insertUnder c (.ofRefreshToken tokens.refresh.text tokens.refresh.payload client)).2) := rfl

end

end Progress

/-! ## All steps of one request -/

variable {σ : Type} [SessionStore σ]

/-- What a request does as a whole. -/
def Errand.perform (s : Server) (e : Errand) (w : World σ) : Progress × World σ :=
  match e with
  | renew c token =>
    (.renewed (s.service.renewAccess c token w).1, (s.service.renewAccess c token w).2)
  | revoke text => (.revoked (Http.revoke s text w).1, (Http.revoke s text w).2)
  | login c subject client =>
    (.loggedIn (s.service.openSession c subject client w).1, (s.service.openSession c subject client w).2)

section

variable {s : Server} {w : World σ}

theorem proceed_renew (c : CallContext) (token : String) :
    Progress.proceed s 4 (.asked (.renew c token)) w = (Errand.renew c token).perform s w := by
  rw [Errand.perform]
  unfold TokenService.renewAccess
  simp only [Progress.proceed, Progress.advance_renew]
  cases Token.verify s.service.key token w.now with
  | error e => rfl
  | ok p =>
    simp only [Progress.ofVerified, Progress.advance_renewing]
    obtain ⟨found, w₁⟩ := w.findUnder c p.id
    rcases found with why | e | session
    · rfl
    · rfl
    · simp only [Progress.ofFound]
      by_cases hrejected : (session.rejection? p token w₁.now).isSome
      · rw [Progress.advance_admitting_of_rejected s w₁ hrejected, if_pos hrejected]
        rfl
      · rw [Progress.advance_admitting_of_admitted s w₁ hrejected, if_neg hrejected]
        obtain ⟨issued, w₂⟩ := s.service.issueToken session.subject s.service.lifetimes.access w₁
        cases issued <;> rfl

theorem proceed_revoke (text : String) :
    Progress.proceed s 4 (.asked (.revoke text)) w = (Errand.revoke text).perform s w := by
  rw [Errand.perform]
  unfold Http.revoke
  rw [Progress.proceed, Progress.advance_revoke]
  cases requireRefresh text with
  | error e => rfl
  | ok token =>
    simp only [Progress.proceed]
    cases Token.verify s.service.key token w.now with
    | error e => rfl
    | ok p =>
      simp only [Progress.ofPresented, Progress.advance_revoking]
      obtain ⟨found, w₁⟩ := w.findUnder s.callContext p.id
      rcases found with why | e | session
      · rfl
      · rfl
      · simp only [Progress.ofClaimed]
        by_cases howner : session.subject ≠ p.subject ∨ session.refreshToken ≠ token
        · rw [Progress.advance_checking_of_stranger s w₁ howner, if_pos howner]
          rfl
        · rw [Progress.advance_checking_of_owner s w₁ howner, if_neg howner]
          simp only [Progress.advance_blocking]
          obtain ⟨blocked, w₂⟩ := w₁.block session.id
          cases blocked <;> rfl

theorem proceed_login (c : CallContext) (subject : String) (client : Client) :
    Progress.proceed s 4 (.asked (.login c subject client)) w
      = (Errand.login c subject client).perform s w := by
  rw [Errand.perform]
  unfold TokenService.openSession
  simp only [Progress.proceed, Progress.advance_login]
  obtain ⟨issued, w₁⟩ := s.service.issuePair subject s.service.lifetimes w
  cases issued with
  | error e => rfl
  | ok tokens =>
    simp only [Progress.ofPair, Progress.advance_storing]
    obtain ⟨inserted, w₂⟩ := w₁.insertUnder c
      (.ofRefreshToken tokens.refresh.text tokens.refresh.payload client)
    rcases inserted with why | e | session <;> rfl

end

/-- **The steps of a request make up the request.** -/
theorem proceed_asked (s : Server) (e : Errand) (w : World σ) :
    Progress.proceed s 4 (.asked e) w = e.perform s w := by
  cases e with
  | renew c token => exact proceed_renew c token
  | revoke text => exact proceed_revoke text
  | login c subject client => exact proceed_login c subject client

end SessionTokens.Http
