import SessionTokens.Http.Bearer
import SessionTokens.Http.Error
import SessionTokens.Http.MediaType
import SessionTokens.Server

/-!
# Handlers

What the server does on each of its paths, and how it reads the request for it.
-/

namespace SessionTokens.Http

open Time (Instant)

/-! ## Who asks -/

/-- The client that a request comes from, by its header fields. Of the addresses that a request was
forwarded for the first counts. -/
def clientOf (headers : List (String × String)) : Client where
  userAgent := (header? headers "user-agent").getD ""
  ip := ((header? headers "x-forwarded-for").map fun v =>
    Text.trim (String.ofList (v.toList.takeWhile (· != ',')))).getD ""

/-- The payload of the bearer token of a request. -/
def authenticate (s : Server) (headers : List (String × String)) (now : Instant) :
    Except RequestError Payload :=
  match header? headers "authorization" with
  | none => .error (.unauthorized Bearer.Fault.missing.message)
  | some value =>
    match Bearer.read value with
    | .error fault => .error (.unauthorized fault.message)
    | .ok token =>
      match Token.verify s.service.key token now with
      | .error e => .error (.auth e)
      | .ok p => .ok p

/-- The payload that authentication left behind. -/
def requirePayload (p? : Option Payload) : Except RequestError Payload :=
  match p? with
  | some p => .ok p
  | none => .error (.unauthorized "missing authenticated payload")

/-! ## Bodies -/

/-- Why the body of a request is not read. -/
inductive BodyFault where
  /-- The content type does not say JSON. -/
  | contentType
  | tooLong
  /-- The body is no JSON. -/
  | malformed
  /-- The body has the wrong shape. -/
  | mismatch
deriving DecidableEq, Repr

/-- The status of the response. -/
def BodyFault.status : BodyFault → Nat
  | .contentType => 415
  | .tooLong => 413
  | .malformed => 400
  | .mismatch => 422

/-- The greatest length of a body. -/
def maxBodyLength : Nat := 2097152

/-- The members of a request about a refresh token. -/
def refreshShape : Json.Shape :=
  [{ name := "refresh_token", fallback? := some (.text "") }]

/-- Reads the refresh token from a JSON text. -/
def decodeRefresh (b : Bytes) : Except BodyFault String :=
  match Json.readRecord refreshShape b with
  | .ok [.text token] => .ok token
  | .ok _ => .error .mismatch
  | .error .malformed => .error .malformed
  | .error .mismatch => .error .mismatch

/-- Reads the refresh token from the body of a request. -/
def readRefresh (r : Request) : Except BodyFault String :=
  if !((header? r.headers "content-type").any MediaType.isJson) then .error .contentType
  else if maxBodyLength < r.body.length then .error .tooLong
  else decodeRefresh r.body

/-- The refresh token without the white space around it, which must leave something. -/
def requireRefresh (token : String) : Except RequestError String :=
  let token := Text.trim token
  if token = "" then .error (.badRequest "refresh_token is required") else .ok token

/-! ## What is done -/

variable {σ : Type} [SessionStore σ]

/-- Renews an access token. -/
def renew (s : Server) (token : String) (w : World σ) : Except RequestError IssuedToken × World σ :=
  match requireRefresh token with
  | .error e => (.error e, w)
  | .ok token =>
    match s.service.renewAccess s.callContext token w with
    | (.error e, w) => (.error (.auth e), w)
    | (.ok access, w) => (.ok access, w)

/-- Revokes the session of a refresh token, if the token is that of the session. -/
def revoke (s : Server) (token : String) (w : World σ) : Except RequestError Unit × World σ :=
  match requireRefresh token with
  | .error e => (.error e, w)
  | .ok token =>
    match Token.verify s.service.key token w.now with
    | .error e => (.error (.unauthorized ("refresh token rejected: " ++ e.message)), w)
    | .ok p =>
      match w.findUnder s.callContext p.id with
      | (.error why, w) => (.error (.auth why.toError), w)
      | (.ok (.error e), w) => (.error (.store e), w)
      | (.ok (.ok session), w) =>
        if session.subject ≠ p.subject ∨ session.refreshToken ≠ token then
          (.error (.unauthorized ("refresh token does not own session " ++ session.id.toText)), w)
        else
          match w.block session.id with
          | (.error e, w) => (.error (.store e), w)
          | (.ok (), w) => (.ok (), w)

/-! ## Responses -/

/-- The JSON text about a renewed access token. -/
def renewedJson (t : IssuedToken) : String :=
  String.ofList (Json.object [
    ("access_token", Json.text t.text),
    ("access_token_expires_at", Json.text t.payload.expiredAt.toText)])

/-- The JSON text about the health of the server. -/
def healthJson : String :=
  String.ofList (Json.object [("status", Json.text "ok")])

/-- Answers a request that renews an access token. -/
def answerRenew (s : Server) (requestId : String) (r : Request) (w : World σ) : Response × World σ :=
  match readRefresh r with
  | .error fault => ({ status := fault.status, body := .plain }, w)
  | .ok token =>
    match renew s token w with
    | (.error e, w) => (e.toResponse (some requestId), w)
    | (.ok access, w) => ({ status := 200, body := .json (renewedJson access) }, w)

/-- Answers a request that revokes a session. -/
def answerRevoke (s : Server) (requestId : String) (r : Request) (w : World σ) : Response × World σ :=
  match readRefresh r with
  | .error fault => ({ status := fault.status, body := .plain }, w)
  | .ok token =>
    match revoke s token w with
    | (.error e, w) => (e.toResponse (some requestId), w)
    | (.ok (), w) => ({ status := 204 }, w)

end SessionTokens.Http
