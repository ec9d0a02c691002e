import SessionTokens.Text.Utf8

/-!
# Requests and responses

The parts of HTTP messages that the server looks at or writes. Names of header fields ignore case; of
several fields with one name the first counts.
-/

namespace SessionTokens.Http

/-- A request. -/
structure Request where
  method : String
  /-- The target, in one of the forms that a request line may have. -/
  target : String
  headers : List (String × String) := []
  body : Bytes := []

/-- The body of a response. -/
inductive Body where
  | empty
  | json (text : String)
  /-- A message in plain words about a body that was not read. The wording is left open. -/
  | plain
  /-- JSON that was asked about but not for. -/
  | omittedJson
deriving DecidableEq, Repr

/-- A response. -/
structure Response where
  status : Nat
  body : Body := .empty
  /-- The methods that the path knows, where they are told. -/
  allow? : Option String := none
deriving DecidableEq, Repr

/-- A response with the identifier of its request. -/
structure Reply where
  requestId : String
  response : Response
deriving DecidableEq, Repr

/-! ## Header fields -/

/-- A text of visible ASCII, spaces and tabs. Other texts count as absent. -/
def isUsable (value : String) : Bool :=
  value.toList.all fun c => c == '\t' || (0x20 ≤ c.toNat && c.toNat ≤ 0x7E)

/-- Two names are equal but for the case of ASCII letters. -/
def sameName (a b : String) : Bool :=
  a.toList.map Char.toLower == b.toList.map Char.toLower

/-- The value of the first field with a name, if it is usable. -/
def header? (headers : List (String × String)) (name : String) : Option String :=
  ((headers.find? fun h => sameName h.1 name).map fun h => h.2).filter isUsable

/-! ## Responses -/

/-- The content type of a body, if it has one. -/
def Body.contentType? : Body → Option String
  | empty => none
  | json _ | omittedJson => some "application/json"
  | plain => some "text/plain; charset=utf-8"

/-- The body has no bytes. -/
def Body.isEmpty : Body → Bool
  | empty | omittedJson => true
  | json _ | plain => false

/-- The body as it answers a request that asks about it but not for it. -/
def Body.omit : Body → Body
  | json _ => omittedJson
  | plain => empty
  | b => b

/-- The header fields of a reply. Every origin may read it. -/
def Reply.headers (r : Reply) : List (String × String) :=
  [("access-control-allow-origin", "*"), ("x-request-id", r.requestId)]
    ++ (r.response.allow?.map fun v => ("allow", v)).toList
    ++ (r.response.body.contentType?.map fun v => ("content-type", v)).toList

end SessionTokens.Http
