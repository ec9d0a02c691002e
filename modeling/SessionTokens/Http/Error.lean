import SessionTokens.Http.Message
import SessionTokens.Json.Writer
import SessionTokens.Store.Basic

/-!
# Error responses

What the handlers answer when something fails. The body has a code, a message that gives nothing away,
and the identifier of the request.
-/

namespace SessionTokens.Http

/-- Why a request failed. -/
inductive RequestError where
  /-- The request has no meaning; the client is told why. -/
  | badRequest (message : String)
  | unauthorized (message : String)
  | store (e : StoreError)
  | auth (e : AuthError)
deriving DecidableEq, Repr

namespace RequestError

/-- The text for the operator. -/
def message : RequestError → String
  | badRequest m => "bad request: " ++ m
  | unauthorized m => "unauthorized: " ++ m
  | store e => "session store error: " ++ e.message
  | auth e => "core error: " ++ e.message

/-- The kind of an error, for all errors but those that tell the client why. -/
def kind? : RequestError → Option ErrorKind
  | badRequest _ => none
  | unauthorized _ => some .unauthenticated
  | store .notFound => some .notFound
  | store (.backend _) => some .internal
  | auth e => some e.kind

/-- The status of the response. -/
def status (e : RequestError) : Nat :=
  (e.kind?.map ErrorKind.status).getD 400

/-- The code in the body. -/
def code (e : RequestError) : String :=
  (e.kind?.map ErrorKind.code).getD "BAD_REQUEST"

/-- The message in the body. -/
def publicMessage : RequestError → String
  | badRequest m => m
  | e => (e.kind?.map ErrorKind.publicMessage).getD ""

/-- The JSON text of the body, with the identifier of the request if there is one. -/
def toJson (e : RequestError) (requestId? : Option String) : String :=
  String.ofList (Json.object [("error", Json.object (
    [("code", Json.text e.code), ("message", Json.text e.publicMessage)]
      ++ (requestId?.map fun id => ("requestId", Json.text id)).toList))])

/-- The response. -/
def toResponse (e : RequestError) (requestId? : Option String) : Response where
  status := e.status
  body := .json (e.toJson requestId?)

end RequestError

end SessionTokens.Http
