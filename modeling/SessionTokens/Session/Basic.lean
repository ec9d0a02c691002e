import SessionTokens.Payload

/-!
# Sessions

A session is opened with a refresh token and has that token's identifier. It admits a renewal to whoever
presents the very same token, as long as it is neither blocked nor over.
-/

namespace SessionTokens

open Time (Instant)

/-- What is known of the program that a request comes from. -/
structure Client where
  userAgent : String := ""
  /-- The address that it is said to have. -/
  ip : String := ""
deriving DecidableEq, Repr

/-- A session. -/
@[ext] structure Session where
  /-- The identifier, which is that of the refresh token. -/
  id : TokenId
  subject : String
  refreshToken : String
  userAgent : String
  clientIp : String
  isBlocked : Bool
  /-- The first moment at which the session is over. -/
  expiresAt : Instant
  /-- When the session was stored. -/
  createdAt : Instant
deriving DecidableEq

/-- A session that is yet to be stored. -/
structure NewSession where
  id : TokenId
  subject : String
  refreshToken : String
  client : Client
  isBlocked : Bool := false
  /-- The first moment at which the session is over. -/
  expiresAt : Instant
deriving DecidableEq

/-- The session for a refresh token. -/
def NewSession.ofRefreshToken (token : String) (p : Payload) (client : Client) : NewSession where
  id := p.id
  subject := p.subject
  refreshToken := token
  client := client
  expiresAt := p.expiredAt

/-- The session as it is from the moment on at which it is stored. -/
def NewSession.stored (n : NewSession) (now : Instant) : Session where
  id := n.id
  subject := n.subject
  refreshToken := n.refreshToken
  userAgent := n.client.userAgent
  clientIp := n.client.ip
  isBlocked := n.isBlocked
  expiresAt := n.expiresAt
  createdAt := now

/-- Why a session does not admit a token. -/
inductive Rejection where
  | blocked
  | subjectMismatch
  | tokenMismatch
  | expired
deriving DecidableEq, Repr

/-- The wording of a rejection. -/
def Rejection.reason : Rejection → String
  | .blocked => "blocked session"
  | .subjectMismatch => "incorrect session user"
  | .tokenMismatch => "mismatched session token"
  | .expired => "expired session"

namespace Session

/-- The session is over. -/
abbrev ExpiredAt (s : Session) (now : Instant) : Prop :=
  s.expiresAt ≤ now

/-- The session as it is once it has been revoked. -/
def block (s : Session) : Session :=
  { s with isBlocked := true }

/-- Why the session does not admit a token with the given payload, if it does not. -/
def rejection? (s : Session) (p : Payload) (token : String) (now : Instant) : Option Rejection :=
  if s.isBlocked then some .blocked
  else if s.subject ≠ p.subject then some .subjectMismatch
  else if s.refreshToken ≠ token then some .tokenMismatch
  else if s.ExpiredAt now then some .expired
  else none

theorem rejection?_eq_none_iff {s : Session} {p : Payload} {token : String} {now : Instant} :
    s.rejection? p token now = none ↔
      s.isBlocked = false ∧ s.subject = p.subject ∧ s.refreshToken = token ∧ ¬s.ExpiredAt now := by
  simp only [rejection?]
  split
  · simp_all
  split
  · simp_all
  split
  · simp_all
  split <;> simp_all

/-! ## JSON -/

/-- The session's JSON text. -/
def toJsonChars (s : Session) : List Char :=
  Json.object [
    ("id", Json.text s.id.toText),
    ("subject", Json.text s.subject),
    ("refresh_token", Json.text s.refreshToken),
    ("user_agent", Json.text s.userAgent),
    ("client_ip", Json.text s.clientIp),
    ("is_blocked", Json.flag s.isBlocked),
    ("expires_at", Json.text s.expiresAt.toText),
    ("created_at", Json.text s.createdAt.toText)]

/-- The session's JSON text. -/
def toJson (s : Session) : String :=
  String.ofList s.toJsonChars

/-- The members of a session. -/
def shape : Json.Shape :=
  [{ name := "id" }, { name := "subject" }, { name := "refresh_token" }, { name := "user_agent" },
    { name := "client_ip" }, { name := "is_blocked", kind := .flag }, { name := "expires_at" },
    { name := "created_at" }]

/-- The session with the given members. -/
def ofValues? : List Json.Value → Option Session
  | [.text id, .text subject, .text refreshToken, .text userAgent, .text clientIp, .flag isBlocked,
      .text expiresAt, .text createdAt] => do
    let id ← TokenId.ofChars? id.toList
    let expiresAt ← Time.Lenient.read? expiresAt
    let createdAt ← Time.Lenient.read? createdAt
    return { id, subject, refreshToken, userAgent, clientIp, isBlocked, expiresAt, createdAt }
  | _ => none

/-- Reads a session from the bytes of a JSON text. -/
def ofJson? (b : Bytes) : Option Session :=
  match Json.readRecord shape b with
  | .ok values => ofValues? values
  | .error _ => none

end Session

namespace Client

/-- The client's JSON text. -/
def toJson (c : Client) : String :=
  String.ofList (Json.object [("user_agent", Json.text c.userAgent), ("client_ip", Json.text c.ip)])

/-- The members of a client. -/
def shape : Json.Shape :=
  [{ name := "user_agent" }, { name := "client_ip" }]

/-- Reads a client from the bytes of a JSON text. -/
def ofJson? (b : Bytes) : Option Client :=
  match Json.readRecord shape b with
  | .ok [.text userAgent, .text ip] => some { userAgent, ip }
  | _ => none

end Client

end SessionTokens
