import SessionTokens.Proofs.Http.Bearer
import SessionTokens.Proofs.Http.Routes
import SessionTokens.Proofs.Json.Paths
import SessionTokens.Proofs.TokenId.Roundtrip

/-!
# The identifier of an exchange

A reply has one identifier. It is the one that the client gave with its request, or else one that was drawn for it;
it stands in one header field, and where the body tells of an error, it tells the identifier too
(`requestId_exact`). Which errors a body tells of, and that nothing else in a body looks like them, is said first
(`json_of_respond`, `Granted.ne_toJson`).
-/

namespace SessionTokens

open Text.Utf8 (encode encodeChars)

/-! ## Drawn identifiers -/

namespace TokenId

/-- The variant: the two highest bits of byte 8. -/
def variant (id : TokenId) : Nat :=
  (id.bytes.getD 8 0).toNat / 64

theorem version_random (s : ByteStream) : (random s).1.version = 4 := by
  have hbits : ∀ n < 256, (64 ||| n &&& 15) / 16 = 4 := by decide +kernel
  simp [version, random, markRandom, hbits _ (UInt8.toNat_lt _)]

theorem variant_random (s : ByteStream) : (random s).1.variant = 2 := by
  have hbits : ∀ n < 256, (128 ||| n &&& 63) / 64 = 2 := by decide +kernel
  simp [variant, random, markRandom, hbits _ (UInt8.toNat_lt _)]

end TokenId

namespace Http

theorem plainText_toText (id : TokenId) : PlainText id.toText := by
  intro c hc
  rw [TokenId.toText, String.toList_ofList, TokenId.toChars] at hc
  have hdigits : ∀ n < 16, 0x20 ≤ (Text.Hex.digit n).toNat ∧ (Text.Hex.digit n).toNat ≤ 0x7E := by decide
  right
  obtain rfl | hdigit := TokenId.mem_hyphenate hc
  · decide
  · obtain ⟨n, hn, rfl⟩ := Text.Hex.mem_encode hdigit
    exact hdigits n hn

/-! ## Errors as they are told -/

/-- **The identifier is read back from the text of an error.** -/
theorem RequestError.requestId_toJson (e : RequestError) (id? : Option String) :
    Json.textAt? ["error", "requestId"] (encode (e.toJson id?)) = id? := by
  let told := [("code", Json.text e.code), ("message", Json.text e.publicMessage)]
    ++ (id?.map fun id => ("requestId", Json.text id)).toList
  have htold : ∀ m ∈ told, Json.IsValue m.2 := by
    intro m hm
    cases id? <;> simp [told] at hm <;> rcases hm with rfl | rfl | rfl <;> exact Json.isValue_text _
  have houter : ∀ m ∈ [("error", Json.object told)], Json.IsValue m.2 := by
    intro m hm
    obtain rfl := List.mem_singleton.mp hm
    exact Json.isValue_object htold
  have hne : told ≠ [] := List.cons_ne_nil _ _
  obtain ⟨behind, herror⟩ := Json.descend?_object (List.cons_ne_nil _ _) houter "error" ["requestId"] []
  obtain ⟨rest, hid⟩ := Json.descend?_object hne htold "requestId" [] behind
  rw [List.append_nil] at herror
  rw [toJson, Json.textAt?_of_isValue (Json.isValue_object houter), herror]
  simp only [List.lookup_cons_self, Option.bind_some]
  rw [hid]
  cases id? with
  | none => rfl
  | some id => exact Json.denotedBy?_text id rest

/-- What is told where nothing failed. -/
inductive Granted : String → Prop where
  | health : Granted healthJson
  | me (p : Payload) : Granted p.toJson
  | renewal (t : IssuedToken) : Granted (renewedJson t)

/-- What is granted is not told like an error: its first member has another name. -/
theorem Granted.ne_toJson {text : String} (h : Granted text) (e : RequestError) (id? : Option String) :
    text ≠ e.toJson id? := by
  have hthird {name : String} {c : Char} {l : List Char} (value : List Char) (r : List (String × List Char))
      (hname : Json.text name = '"' :: c :: l) : (Json.object ((name, value) :: r))[2]? = some c := by
    rw [Json.object, Json.members_cons, hname]
    rfl
  have herror : (e.toJson id?).toList[2]? = some 'e' := by
    rw [RequestError.toJson, String.toList_ofList]
    exact hthird _ _ rfl
  have hother : text.toList[2]? ≠ some 'e' := by
    cases h with
    | health =>
      rw [healthJson, String.toList_ofList, hthird _ _ rfl]
      decide
    | me p =>
      rw [Payload.toJson, String.toList_ofList, Payload.toJsonChars, hthird _ _ rfl]
      decide
    | renewal t =>
      rw [renewedJson, String.toList_ofList, hthird _ _ rfl]
      decide
  exact fun heq => hother (by rw [heq, herror])

/-! ## Headers -/

theorem Reply.filter_headers (r : Reply) :
    r.headers.filter (fun h => sameName h.1 "x-request-id") = [("x-request-id", r.requestId)] := by
  have hcors : sameName "access-control-allow-origin" "x-request-id" = false := by decide
  have hid : sameName "x-request-id" "x-request-id" = true := by decide
  have hallow : sameName "allow" "x-request-id" = false := by decide
  have htype : sameName "content-type" "x-request-id" = false := by decide
  rw [headers]
  cases r.response.allow? <;> cases r.response.body.contentType? <;> simp [hcors, hid, hallow, htype]

/-! ## Failures -/

/-- What the route does fails with that error, before anything was answered: the guard turns the request away, or
the handler's operation does not succeed. -/
inductive Route.Fails {σ : Type} [SessionStore σ] (s : Server) (r : Request) (w : World σ) :
    Route → RequestError → Prop where
  | guard {e : RequestError} (h : authenticate s r.headers w.now = .error e) : Fails s r w .me e
  | renewal {e : RequestError} {text : String} (hmethod : r.method = "POST") (htext : readRefresh r = .ok text)
      (h : (Http.renew s text w).1 = .error e) : Fails s r w .renew e
  | revocation {e : RequestError} {text : String} (hmethod : r.method = "POST") (htext : readRefresh r = .ok text)
      (h : (Http.revoke s text w).1 = .error e) : Fails s r w .revoke e

/-- The request fails with that error: it comes on the path of a route that does, and asks for a body. -/
def Request.Fails {σ : Type} [SessionStore σ] (s : Server) (r : Request) (w : World σ) (e : RequestError) : Prop :=
  r.method ≠ "OPTIONS" ∧ r.method ≠ "HEAD" ∧ ∃ route, pathOf r.target = route.path ∧ Route.Fails s r w route e

variable {σ : Type} [SessionStore σ] {s : Server} {r : Request} {route : Route} {id : String} {w : World σ}
  {e : RequestError} {text : String}

/-- Whoever fails on a route is told so. -/
theorem Route.Fails.answerRoute_eq (h : Route.Fails s r w route e) :
    (answerRoute s id route r w).1 = e.toResponse (some id) := by
  cases h with
  | guard h =>
    simp only [answerRoute, h]
  | renewal hmethod htext h =>
    have hknown : Route.renew.methods.contains r.method = true := by rw [hmethod]; decide
    simp only [answerRoute, hknown, if_true, answerRenew_of_text htext, h, Response.ofResult]
  | revocation hmethod htext h =>
    have hknown : Route.revoke.methods.contains r.method = true := by rw [hmethod]; decide
    simp only [answerRoute, hknown, if_true, answerRevoke_of_text htext, h, Response.ofResult]

theorem json_of_ofResult {α : Type} {granted : α → Response} {result : Except RequestError α}
    (hgranted : ∀ x text, (granted x).body = .json text → Granted text)
    (h : (Response.ofResult id granted result).body = .json text) :
    (∃ e, result = .error e ∧ text = e.toJson (some id)) ∨ Granted text := by
  cases result with
  | error e => exact .inl ⟨e, rfl, (Body.json.inj h).symm⟩
  | ok x => exact .inr (hgranted x text h)

theorem json_of_answerRenew (h : (answerRenew s id r w).1.body = .json text) :
    (∃ token e, readRefresh r = .ok token ∧ (renew s token w).1 = .error e ∧ text = e.toJson (some id)) ∨
      Granted text := by
  cases htext : readRefresh r with
  | error fault =>
    rw [answerRenew, htext] at h
    cases h
  | ok token =>
    rw [answerRenew_of_text htext] at h
    refine (json_of_ofResult (fun t text ht => ?_) h).imp_left ?_
    · obtain rfl := Body.json.inj ht
      exact .renewal t
    · rintro ⟨e, he, htold⟩
      exact ⟨token, e, rfl, he, htold⟩

theorem json_of_answerRevoke (h : (answerRevoke s id r w).1.body = .json text) :
    (∃ token e, readRefresh r = .ok token ∧ (revoke s token w).1 = .error e ∧ text = e.toJson (some id)) ∨
      Granted text := by
  cases htext : readRefresh r with
  | error fault =>
    rw [answerRevoke, htext] at h
    cases h
  | ok token =>
    rw [answerRevoke_of_text htext] at h
    refine (json_of_ofResult (fun _ _ ht => ?_) h).imp_left ?_
    · cases ht
    · rintro ⟨e, he, htold⟩
      exact ⟨token, e, rfl, he, htold⟩

/-- JSON that a route answers tells that it failed, or what it grants. -/
theorem json_of_answerRoute (h : (answerRoute s id route r w).1.body = .json text) :
    (∃ e, Route.Fails s r w route e ∧ text = e.toJson (some id)) ∨ Granted text := by
  -- the method of the two routes that read a body
  have hpost : ["POST"].contains r.method = true → r.method = "POST" := by simp
  unfold answerRoute at h
  cases route with
  | health =>
    simp only at h
    split at h
    · obtain rfl := Body.json.inj h
      exact .inr .health
    · cases h
  | me =>
    simp only at h
    split at h
    · next e hguard => exact .inl ⟨e, .guard hguard, (Body.json.inj h).symm⟩
    · next p _ =>
      split at h
      · obtain rfl := Body.json.inj h
        exact .inr (.me p)
      · cases h
  | renew =>
    simp only at h
    split at h
    · next hknown =>
      refine (json_of_answerRenew h).imp_left ?_
      rintro ⟨token, e, htext, hrenew, htold⟩
      exact ⟨e, .renewal (hpost hknown) htext hrenew, htold⟩
    · cases h
  | revoke =>
    simp only at h
    split at h
    · next hknown =>
      refine (json_of_answerRevoke h).imp_left ?_
      rintro ⟨token, e, htext, hrevoke, htold⟩
      exact ⟨e, .revocation (hpost hknown) htext hrevoke, htold⟩
    · cases h

/-- Where a body is asked for on a path of the server, its route says what is answered. -/
theorem respond_of_path (s : Server) (id : String) (w : World σ) (hoptions : r.method ≠ "OPTIONS")
    (hhead : r.method ≠ "HEAD") (hpath : pathOf r.target = route.path) :
    (respond s id r w).1.status = (answerRoute s id route r w).1.status ∧
      (respond s id r w).1.body = (answerRoute s id route r w).1.body := by
  unfold respond
  rw [if_neg hoptions]
  simp only [Route.ofPath?_eq_some_iff.mpr hpath]
  rw [if_neg hhead]
  split <;> exact ⟨rfl, rfl⟩

/-- Whoever fails is told so. -/
theorem Request.Fails.respond_eq (h : Request.Fails s r w e) :
    (respond s id r w).1.status = e.status ∧ (respond s id r w).1.body = .json (e.toJson (some id)) := by
  obtain ⟨hoptions, hhead, route, hpath, hfails⟩ := h
  obtain ⟨hstatus, hbody⟩ := respond_of_path s id w hoptions hhead hpath
  rw [hstatus, hbody, hfails.answerRoute_eq]
  exact ⟨rfl, rfl⟩

/-- JSON that a request is answered with tells that it failed, or what it is granted. -/
theorem json_of_respond (h : (respond s id r w).1.body = .json text) :
    (∃ e, Request.Fails s r w e ∧ text = e.toJson (some id)) ∨ Granted text := by
  by_cases hoptions : r.method = "OPTIONS"
  · rw [respond, if_pos hoptions] at h
    cases h
  cases hroute : Route.ofPath? (pathOf r.target) with
  | none =>
    rw [respond, if_neg hoptions, hroute] at h
    cases h
  | some route =>
    by_cases hhead : r.method = "HEAD"
    · -- whatever the body would be, it is left out
      have homit (b : Body) : b.omit ≠ .json text := by cases b <;> nofun
      rw [respond, if_neg hoptions, hroute] at h
      simp only [if_pos hhead] at h
      exact absurd h (homit _)
    have hpath := Route.ofPath?_eq_some_iff.mp hroute
    rw [(respond_of_path s id w hoptions hhead hpath).2] at h
    refine (json_of_answerRoute h).imp_left ?_
    rintro ⟨e, hfails, htold⟩
    exact ⟨e, ⟨hoptions, hhead, route, hpath, hfails⟩, htold⟩

/-! ## Replies -/

/-- The identifier that a client gives: its first `x-request-id`, if that is plain text and not empty. -/
def Gives (r : Request) (id : String) : Prop :=
  FirstHeader r.headers "x-request-id" id ∧ PlainText id ∧ id ≠ ""

theorem givenId?_eq_some_iff : givenId? r = some id ↔ Gives r id := by
  rw [givenId?, Option.filter_eq_some_iff, header?_eq_some_iff, bne_iff_ne, and_assoc]
  rfl

theorem givenId?_eq_none (h : ¬∃ id, Gives r id) : givenId? r = none := by
  by_contra hsome
  obtain ⟨id, hid⟩ := Option.ne_none_iff_exists'.mp hsome
  exact h ⟨id, givenId?_eq_some_iff.mp hid⟩

omit [SessionStore σ] in
theorem requestId_of_none (h : givenId? r = none) (w : World σ) : requestId r w =
    ((TokenId.random w.random).1.toText, { w with random := (TokenId.random w.random).2 }) := by
  simp only [requestId, h, World.drawing]

/-- What it means that a reply has one identifier; `w'` is the world behind the exchange. -/
structure Identified (s : Server) (r : Request) (w : World σ) (reply : Reply) (w' : World σ) : Prop where
  /-- One header field tells it. -/
  header : reply.headers.filter (fun h => sameName h.1 "x-request-id") = [("x-request-id", reply.requestId)]
  /-- It can be told in a header field, and is not empty. -/
  plain : PlainText reply.requestId ∧ reply.requestId ≠ ""
  /-- What the client gives is kept, and nothing is drawn for it. -/
  given : ∀ id, Gives r id → reply.requestId = id ∧ respond s id r w = (reply.response, w')
  /-- If the client gives none, then it is drawn before anything else is done. -/
  drawn : (¬∃ id, Gives r id) → ∃ id random, TokenId.random w.random = (id, random) ∧ id.version = 4 ∧
    id.variant = 2 ∧ reply.requestId = id.toText ∧ respond s id.toText r { w with random } = (reply.response, w')
  /-- Whoever fails is told so, and the identifier with it. -/
  failed : ∀ e, Request.Fails s r (requestId r w).2 e → reply.response.status = e.status ∧
    reply.response.body = .json (e.toJson (some reply.requestId))
  /-- A body that tells of an error tells the identifier, and of an error with which the request failed. -/
  told : ∀ (e : RequestError) (id? : Option String), reply.response.body = .json (e.toJson id?) →
    Json.textAt? ["error", "requestId"] (encode (e.toJson id?)) = some reply.requestId ∧
      ∃ e', Request.Fails s r (requestId r w).2 e' ∧ e.toJson id? = e'.toJson (some reply.requestId)

/-- **A reply has one identifier**: in its header, and in its body if that tells of an error. -/
theorem requestId_exact (s : Server) (r : Request) (w : World σ) :
    Identified s r w (handle s r w).1 (handle s r w).2 := by
  have hreply : (handle s r w).1 = ⟨(requestId r w).1, (respond s (requestId r w).1 r (requestId r w).2).1⟩ := rfl
  have hworld : (handle s r w).2 = (respond s (requestId r w).1 r (requestId r w).2).2 := rfl
  constructor
  case header => exact Reply.filter_headers _
  case plain =>
    rw [hreply]
    cases hgiven : givenId? r with
    | some id =>
      rw [requestId_of_given hgiven]
      exact (givenId?_eq_some_iff.mp hgiven).2
    | none =>
      rw [requestId_of_none hgiven]
      exact ⟨plainText_toText _, TokenId.toText_ne_empty _⟩
  case given =>
    intro id hgives
    rw [hreply, hworld, requestId_of_given (givenId?_eq_some_iff.mpr hgives)]
    exact ⟨rfl, rfl⟩
  case drawn =>
    intro hnone
    refine ⟨_, _, rfl, TokenId.version_random _, TokenId.variant_random _, ?_⟩
    rw [hreply, hworld, requestId_of_none (givenId?_eq_none hnone)]
    exact ⟨rfl, rfl⟩
  case failed => exact fun e hfails => hfails.respond_eq
  case told =>
    intro e id? htold
    obtain ⟨e', hfails, htext⟩ | hgranted := json_of_respond htold
    · refine ⟨?_, e', hfails, htext⟩
      rw [htext]
      exact e'.requestId_toJson _
    · exact absurd rfl (hgranted.ne_toJson e id?)

end Http

end SessionTokens
