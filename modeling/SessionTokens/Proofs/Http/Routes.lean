import SessionTokens.Http.Router

/-!
# How requests find their route

A request that comes on the path of a route, with the method that the route is made for, is answered by that
route and by nothing else (`handle_of_asks`). Before it is answered, nothing is taken but the random bytes of
its identifier (`requestId_eq`). Each route answers with the response to a result (`Response.ofResult`): the
status tells whether that was an error.
-/

namespace SessionTokens.Http

/-! ## Statuses of failures -/

theorem BodyFault.status_ne (fault : BodyFault) {n : Nat} (h : n < 400) : fault.status ≠ n := by
  have hle : 400 ≤ fault.status := by cases fault <;> decide
  omega

theorem RequestError.status_ne (e : RequestError) {n : Nat} (h : n < 400) : e.status ≠ n := by
  have hle : 400 ≤ e.status := by
    unfold RequestError.status
    cases e.kind? with
    | none => decide
    | some kind => cases kind <;> decide
  omega

theorem RequestError.status_of_kind? {e : RequestError} {kind : ErrorKind} (h : e.kind? = some kind) :
    e.status = kind.status := by
  simp only [status, h, Option.map_some, Option.getD_some]

/-! ## Responses to results -/

/-- The response to a result: an error is told, and a value is answered with what is granted for it. -/
def Response.ofResult {α : Type} (id : String) (granted : α → Response) :
    Except RequestError α → Response
  | .error e => e.toResponse (some id)
  | .ok x => granted x

theorem Response.ne_toResponse {a : Response} (h : a.status < 400) (e : RequestError)
    (id? : Option String) : a ≠ e.toResponse id? := by
  rintro rfl
  exact e.status_ne h rfl

/-- No error has the status of what is granted. -/
theorem Response.status_ofResult_eq_iff {α : Type} {id : String} {granted : α → Response} {n : Nat}
    (hn : n < 400) (hgranted : ∀ x, (granted x).status = n) {result : Except RequestError α} :
    (ofResult id granted result).status = n ↔ ∃ x, result = .ok x := by
  cases result with
  | error e => simp [ofResult, RequestError.toResponse, e.status_ne hn]
  | ok x => simp [ofResult, hgranted]

/-! ## Routes -/

namespace Route

def path : Route → String
  | health => "/health"
  | me => "/tokens/me"
  | renew => "/tokens/renew"
  | revoke => "/tokens/revoke"

/-- The method that a route is made for. -/
def verb : Route → String
  | health | me => "GET"
  | renew | revoke => "POST"

theorem ofPath?_eq_some_iff {route : Route} {p : String} :
    ofPath? p = some route ↔ p = route.path := by
  unfold ofPath?
  cases route <;> grind [path]

theorem verb_mem_methods (route : Route) : route.methods.contains route.verb = true := by
  cases route <;> decide

theorem verb_ne_options (route : Route) : route.verb ≠ "OPTIONS" := by
  cases route <;> decide

theorem verb_ne_head (route : Route) : route.verb ≠ "HEAD" := by
  cases route <;> decide

end Route

/-- The request comes on the path of the route, with the method that the route is made for. -/
def Request.Asks (r : Request) (route : Route) : Prop :=
  r.method = route.verb ∧ pathOf r.target = route.path

instance (r : Request) (route : Route) : Decidable (r.Asks route) :=
  inferInstanceAs (Decidable (_ ∧ _))

variable {σ : Type} [SessionStore σ] {s : Server} {r : Request} {route : Route} {id : String}

theorem respond_of_asks (h : r.Asks route) (w : World σ) :
    respond s id r w = answerRoute s id route r w := by
  obtain ⟨hmethod, hpath⟩ := h
  have hroute : Route.ofPath? (pathOf r.target) = some route := Route.ofPath?_eq_some_iff.mpr hpath
  have hknown : route.methods.contains r.method = true := by
    rw [hmethod]
    exact route.verb_mem_methods
  unfold respond
  rw [if_neg (by rw [hmethod]; exact route.verb_ne_options)]
  simp only [hroute, hknown, if_true]
  rw [if_neg (by rw [hmethod]; exact route.verb_ne_head)]

theorem answerRoute_me (h : r.Asks .me) (w : World σ) :
    answerRoute s id .me r w =
      (.ofResult id (fun p => { status := 200, body := .json p.toJson })
        (authenticate s r.headers w.now), w) := by
  unfold answerRoute
  simp only [h.1, Route.verb_mem_methods, if_true]
  cases authenticate s r.headers w.now <;> rfl

theorem answerRoute_renew (h : r.Asks .renew) (w : World σ) :
    answerRoute s id .renew r w = answerRenew s id r w := by
  unfold answerRoute
  simp only [h.1, Route.verb_mem_methods, if_true]

theorem answerRoute_revoke (h : r.Asks .revoke) (w : World σ) :
    answerRoute s id .revoke r w = answerRevoke s id r w := by
  unfold answerRoute
  simp only [h.1, Route.verb_mem_methods, if_true]

section

variable {text : String} (htext : readRefresh r = .ok text) (s : Server) (id : String) (w : World σ)

include htext

theorem answerRenew_of_text :
    answerRenew s id r w =
      (.ofResult id (fun t => { status := 200, body := .json (renewedJson t) }) (renew s text w).1,
        (renew s text w).2) := by
  unfold answerRenew
  simp only [htext]
  rcases renew s text w with ⟨e | access, w'⟩ <;> rfl

theorem answerRevoke_of_text :
    answerRevoke s id r w =
      (.ofResult id (fun _ => { status := 204 }) (revoke s text w).1, (revoke s text w).2) := by
  unfold answerRevoke
  simp only [htext]
  rcases revoke s text w with ⟨e | ⟨⟩, w'⟩ <;> rfl

end

/-! ## Identifiers of requests -/

theorem givenId?_of_header (h : header? r.headers "x-request-id" = some id) (hne : id ≠ "") :
    givenId? r = some id := by
  simp [givenId?, h, hne]

omit [SessionStore σ] in
theorem requestId_eq (r : Request) (w : World σ) :
    ∃ id random, requestId r w = (id, { w with random }) := by
  unfold requestId
  split
  · exact ⟨_, w.random, rfl⟩
  · exact ⟨_, _, rfl⟩

omit [SessionStore σ] in
theorem requestId_of_given (h : givenId? r = some id) (w : World σ) : requestId r w = (id, w) := by
  simp only [requestId, h]

omit [SessionStore σ] in
theorem fst_requestId_congr {τ : Type} {w : World σ} {v : World τ} (h : v.random = w.random)
    (r : Request) : (requestId r v).1 = (requestId r w).1 := by
  unfold requestId World.drawing
  rw [h]
  cases givenId? r <;> rfl

/-- **A request is answered by the route that it asks for**, after its identifier was settled. -/
theorem handle_of_asks (s : Server) (h : r.Asks route) (w : World σ) :
    handle s r w =
      (⟨(requestId r w).1, (answerRoute s (requestId r w).1 route r (requestId r w).2).1⟩,
        (answerRoute s (requestId r w).1 route r (requestId r w).2).2) := by
  unfold handle
  simp only [respond_of_asks h]

end SessionTokens.Http
