import SessionTokens.Error
import SessionTokens.Json.Record
import SessionTokens.Json.Writer
import SessionTokens.Time.Lenient
import SessionTokens.Time.Printer
import SessionTokens.TokenId.Reader

/-!
# Token payloads

What a token says: its identifier, whom it was issued to, when, and until when it is valid.
-/

namespace SessionTokens

open Time (Instant Span)

/-- The content of a token. -/
structure Payload where
  id : TokenId
  subject : String
  issuedAt : Instant
  /-- The first moment at which it is no longer valid. -/
  expiredAt : Instant
deriving DecidableEq

namespace Payload

/-- The token's time is over. -/
abbrev ExpiredAt (p : Payload) (now : Instant) : Prop :=
  p.expiredAt ≤ now

/-- Makes a payload with a random identifier. Nothing is drawn where the expiry is out of range. -/
def create (subject : String) (duration : Span) (now : Instant) (s : ByteStream) :
    Except AuthError Payload × ByteStream :=
  match now.add? duration with
  | none => (.error (.invalidArgument ("token duration out of range: " ++ duration.toText)), s)
  | some expiredAt =>
    let (id, s) := TokenId.random s
    (.ok { id, subject, issuedAt := now, expiredAt }, s)

/-! ## JSON -/

/-- The characters of the payload's JSON text. -/
def toJsonChars (p : Payload) : List Char :=
  Json.object [
    ("id", Json.text p.id.toText),
    ("subject", Json.text p.subject),
    ("issued_at", Json.text p.issuedAt.toText),
    ("expired_at", Json.text p.expiredAt.toText)]

/-- The payload's JSON text. -/
def toJson (p : Payload) : String :=
  String.ofList p.toJsonChars

/-- The members of a payload. -/
def shape : Json.Shape :=
  [{ name := "id" }, { name := "subject" }, { name := "issued_at" }, { name := "expired_at" }]

/-- The payload with the given members. -/
def ofValues? : List Json.Value → Option Payload
  | [.text id, .text subject, .text issuedAt, .text expiredAt] => do
    let id ← TokenId.ofChars? id.toList
    let issuedAt ← Time.Lenient.read? issuedAt
    let expiredAt ← Time.Lenient.read? expiredAt
    return { id, subject, issuedAt, expiredAt }
  | _ => none

/-- Reads a payload from the bytes of a JSON text. -/
def ofJson? (b : Bytes) : Option Payload :=
  match Json.readRecord shape b with
  | .ok values => ofValues? values
  | .error _ => none

end Payload

end SessionTokens
