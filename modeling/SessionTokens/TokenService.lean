import SessionTokens.Token
import SessionTokens.World

/-!
# The token service

Opens sessions, issues access and refresh tokens, verifies access tokens, and renews an access token for
whoever presents the refresh token of a session.
-/

namespace SessionTokens

open Crypto (SealingKey)
open Time (Instant Span)

/-- How long tokens are valid. -/
structure Lifetimes where
  access : Span := .quarterHour
  /-- The span of a refresh token, and of the session opened with it. -/
  refresh : Span := .day
deriving DecidableEq

/-- An access token and a refresh token for one subject. -/
structure TokenPair where
  access : IssuedToken
  refresh : IssuedToken
deriving DecidableEq

/-- What the opening of a session hands out. -/
structure Login where
  /-- The session as it was stored. -/
  session : Session
  tokens : TokenPair
deriving DecidableEq

/-- The error of a call that was interrupted. -/
def Interruption.toError : Interruption → AuthError
  | .cancelled => .cancelled
  | .deadlineExceeded => .deadlineExceeded

/-- A service that seals its tokens under one key. -/
structure TokenService where
  key : SealingKey
  lifetimes : Lifetimes := {}

namespace TokenService

variable {σ : Type}

/-- Issues one token. -/
def issueToken (t : TokenService) (subject : String) (duration : Span) (w : World σ) :
    Except AuthError IssuedToken × World σ :=
  w.drawing (Token.issue t.key subject duration w.now)

/-- Issues an access token and then a refresh token. -/
def issuePair (t : TokenService) (subject : String) (lifetimes : Lifetimes) (w : World σ) :
    Except AuthError TokenPair × World σ :=
  match t.issueToken subject lifetimes.access w with
  | (.error e, w) => (.error e, w)
  | (.ok access, w) =>
    match t.issueToken subject lifetimes.refresh w with
    | (.error e, w) => (.error e, w)
    | (.ok refresh, w) => (.ok { access, refresh }, w)

/-- The payload of an access token. -/
def verifyAccess (t : TokenService) (token : String) (w : World σ) : Except AuthError Payload :=
  Token.verify t.key token w.now

variable [SessionStore σ]

/-- Issues two tokens and stores a session for the refresh token. -/
def openSession (t : TokenService) (c : CallContext) (subject : String) (client : Client)
    (w : World σ) : Except AuthError Login × World σ :=
  match t.issuePair subject t.lifetimes w with
  | (.error e, w) => (.error e, w)
  | (.ok tokens, w) =>
    match w.insertUnder c (.ofRefreshToken tokens.refresh.text tokens.refresh.payload client) with
    | (.error why, w) => (.error why.toError, w)
    | (.ok (.error e), w) => (.error (.internal ("error creating session: " ++ e.message)), w)
    | (.ok (.ok session), w) => (.ok { session, tokens }, w)

/-- The error of a renewal whose token was refused. Why it was refused is not told. -/
def refusal (e : AuthError) : AuthError :=
  if e.kind = .unauthenticated then .unauthenticated else e

/-- The error of a renewal whose session was not found. -/
def lookupError : StoreError → AuthError
  | .notFound => .sessionNotFound
  | .backend m => .internal m

/-- Issues an access token for the session of a refresh token, if the session admits it. -/
def renewAccess (t : TokenService) (c : CallContext) (token : String) (w : World σ) :
    Except AuthError IssuedToken × World σ :=
  match Token.verify t.key token w.now with
  | .error e => (.error (refusal e), w)
  | .ok p =>
    match w.findUnder c p.id with
    | (.error why, w) => (.error why.toError, w)
    | (.ok (.error e), w) => (.error (lookupError e), w)
    | (.ok (.ok session), w) =>
      if (session.rejection? p token w.now).isSome then (.error .unauthenticated, w)
      else
        match t.issueToken session.subject t.lifetimes.access w with
        | (.error e, w) => (.error (.internal ("error creating access token: " ++ e.message)), w)
        | (.ok access, w) => (.ok access, w)

end TokenService

end SessionTokens
