import SessionTokens.Http.Handlers
import SessionTokens.Http.Target

/-!
# The router

Finds the path and the method of a request, and answers it. Every reply carries the identifier of its
request: the one that the client gave, or else a fresh one, which is drawn before anything else.
-/

namespace SessionTokens.Http

/-- The paths that the server knows. -/
inductive Route where
  /-- Whether the server is well. -/
  | health
  /-- What the caller's access token says. -/
  | me
  /-- A new access token for a refresh token. -/
  | renew
  /-- The end of the session of a refresh token. -/
  | revoke
deriving DecidableEq, Repr

namespace Route

/-- The route of a path. -/
def ofPath? (path : String) : Option Route :=
  if path = "/health" then some health
  else if path = "/tokens/me" then some me
  else if path = "/tokens/renew" then some renew
  else if path = "/tokens/revoke" then some revoke
  else none

/-- The methods that a route knows. -/
def methods : Route → List String
  | health | me => ["GET", "HEAD"]
  | renew | revoke => ["POST"]

/-- The methods that a route knows, as they are told. -/
def allow (route : Route) : String :=
  ",".intercalate route.methods

end Route

/-- The identifier that the client gave the request, if it can be used. -/
def givenId? (r : Request) : Option String :=
  (header? r.headers "x-request-id").filter fun v => v != ""

variable {σ : Type} [SessionStore σ]

/-- The identifier of a request. -/
def requestId (r : Request) (w : World σ) : String × World σ :=
  match givenId? r with
  | some id => (id, w)
  | none =>
    let (id, w) := w.drawing TokenId.random
    (id.toText, w)

/-- The response where the route does not know the method. -/
def methodNotAllowed : Response :=
  { status := 405 }

/-- Answers a request on a route with a method that it may not know. Who asks is checked before the
method is. -/
def answerRoute (s : Server) (id : String) (route : Route) (r : Request) (w : World σ) :
    Response × World σ :=
  let known := route.methods.contains r.method
  match route with
  | .health => (if known then { status := 200, body := .json healthJson } else methodNotAllowed, w)
  | .me =>
    match authenticate s r.headers w.now with
    | .error e => (e.toResponse (some id), w)
    | .ok p => (if known then { status := 200, body := .json p.toJson } else methodNotAllowed, w)
  | .renew => if known then answerRenew s id r w else (methodNotAllowed, w)
  | .revoke => if known then answerRevoke s id r w else (methodNotAllowed, w)

/-- Answers a request. A question for the options of a path is answered on every path. -/
def respond (s : Server) (id : String) (r : Request) (w : World σ) : Response × World σ :=
  let route? := Route.ofPath? (pathOf r.target)
  if r.method = "OPTIONS" then ({ status := 200, allow? := route?.map Route.allow }, w)
  else
    match route? with
    | none => ({ status := 404 }, w)
    | some route =>
      let (response, w) := answerRoute s id route r w
      let response :=
        if route.methods.contains r.method then response
        else { response with allow? := some route.allow }
      (if r.method = "HEAD" then { response with body := response.body.omit } else response, w)

/-- Handles a request. -/
def handle (s : Server) (r : Request) (w : World σ) : Reply × World σ :=
  let (id, w) := requestId r w
  let (response, w) := respond s id r w
  ({ requestId := id, response }, w)

end SessionTokens.Http
