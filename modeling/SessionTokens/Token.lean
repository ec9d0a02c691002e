import SessionTokens.Crypto.Envelope
import SessionTokens.Payload
import SessionTokens.Text.Base64

/-!
# Tokens

A token is a header and the envelope of a payload in URL-safe base64 without padding. It is issued
under a key for a subject and a span of time, and verified under the same key.
-/

namespace SessionTokens

open Crypto (SealingKey Nonce Envelope.wrap Envelope.unwrap?)
open Time (Instant Span)

/-- A token together with what it says. -/
structure IssuedToken where
  text : String
  payload : Payload
deriving DecidableEq

namespace Crypto.Nonce

/-- Draws a nonce. -/
def random (s : ByteStream) : Nonce × ByteStream :=
  (⟨(s.draw 32).1, by simp⟩, (s.draw 32).2)

end Crypto.Nonce

namespace Token

/-! ## Issuing -/

/-- The token with the given content, sealed with the given nonce. -/
def ofContent (key : SealingKey) (nonce : Nonce) (content : Bytes) : String :=
  Crypto.Envelope.header
    ++ String.ofList (Text.Base64.encode Text.Base64.urlSafe (Envelope.wrap key nonce content))

/-- Issues a token. The identifier is drawn first and then the nonce; nothing is drawn where the
subject is empty or the expiry is out of range. -/
def issue (key : SealingKey) (subject : String) (duration : Span) (now : Instant) (s : ByteStream) :
    Except AuthError IssuedToken × ByteStream :=
  if subject = "" then (.error (.invalidArgument "subject must not be empty"), s)
  else
    match Payload.create subject duration now s with
    | (.error e, s) => (.error e, s)
    | (.ok payload, s) =>
      let (nonce, s) := Nonce.random s
      (.ok ⟨ofContent key nonce (Text.Utf8.encode payload.toJson), payload⟩, s)

/-! ## Verifying -/

/-- Why a text is no token under a key. -/
inductive Fault where
  /-- The header is missing. -/
  | header
  /-- What follows the header is not base64. -/
  | body
  /-- The envelope has no room for a nonce and a tag. -/
  | tooShort
  /-- The envelope was not sealed under the key. -/
  | tag
  /-- The content of the envelope is no text. -/
  | content
  /-- The text in the envelope is no payload. -/
  | payload
deriving DecidableEq, Repr

/-- The wording of a fault. -/
def Fault.reason : Fault → String
  | .header => "unsupported token header"
  | .body => "malformed token body"
  | .tooShort => "token body too short"
  | .tag => "decryption failed: An unspecified cipher error occurred"
  | .content => "decryption failed: A Utf8 parsing error occurred"
  | .payload => "payload deserialization failed"

/-- What follows the header. -/
def stripHeader? (token : String) : Option (List Char) :=
  let header := Crypto.Envelope.header.toList
  let l := token.toList
  if l.take header.length = header then some (l.drop header.length) else none

/-- The envelope in a token. -/
def envelope (token : String) : Except Fault Bytes :=
  match stripHeader? token with
  | none => .error .header
  | some body =>
    match Text.Base64.decode? Text.Base64.urlSafe body with
    | none => .error .body
    | some envelope => if Crypto.Envelope.HasRoom envelope then .ok envelope else .error .tooShort

/-- The content of a token, if it was sealed under the key. -/
def content (key : SealingKey) (token : String) : Except Fault Bytes :=
  (envelope token).bind fun envelope =>
    match Envelope.unwrap? key envelope with
    | some content => .ok content
    | none => .error .tag

/-- The payload of a token, whether its time is over or not. -/
def payload (key : SealingKey) (token : String) : Except Fault Payload :=
  (content key token).bind fun content =>
    if (Text.Utf8.decode? content).isNone then .error .content
    else
      match Payload.ofJson? content with
      | some payload => .ok payload
      | none => .error .payload

/-- The payload of a token that was issued under the key and whose time is not over. -/
def verify (key : SealingKey) (token : String) (now : Instant) : Except AuthError Payload :=
  match payload key token with
  | .error fault => .error (.invalidToken fault.reason)
  | .ok p => if p.ExpiredAt now then .error .tokenExpired else .ok p

end Token

end SessionTokens
