import SessionTokens.Proofs.Http.Bodies
import SessionTokens.Proofs.Http.Routes
import SessionTokens.Proofs.Text.Blank
import SessionTokens.Proofs.Time.Printer
import SessionTokens.Proofs.TokenService.Renewal

/-!
# Renewals over HTTP

A request for a renewal is answered as the service renews the token in its body, without the white space
around it (`renewal_refines`). What the service issues is read back from the answer, and what goes wrong in it
is told by the status.
-/

namespace SessionTokens.Http

open Text (AllBlank trim)

/-! ## The JSON text about a renewed token -/

/-- The members of the JSON text about a renewed access token. -/
def renewedShape : Json.Shape :=
  [{ name := "access_token" }, { name := "access_token_expires_at" }]

/-- The fields of the JSON text about a renewed access token, with their values. -/
def renewedMembers (t : IssuedToken) : List Json.Member :=
  [({ name := "access_token" }, .text t.text),
    ({ name := "access_token_expires_at" }, .text t.payload.expiredAt.toText)]

theorem map_fst_renewedMembers (t : IssuedToken) : (renewedMembers t).map Prod.fst = renewedShape := rfl

theorem renewedJson_eq (t : IssuedToken) :
    renewedJson t = String.ofList (Json.object ((renewedMembers t).map Json.Member.written)) := rfl

/-- The JSON text is about the token. -/
def Describes (text : String) (t : IssuedToken) : Prop :=
  ∃ expiry, Json.readRecord renewedShape (Text.Utf8.encode text) = .ok [.text t.text, .text expiry] ∧
    Time.Lenient.read? expiry = some t.payload.expiredAt

/-- **Nothing is lost in the JSON text about a renewed access token.** -/
theorem describes_renewedJson (t : IssuedToken) : Describes (renewedJson t) t := by
  have hfits : ∀ m ∈ renewedMembers t, m.Fits := by
    intro m hm
    simp only [renewedMembers, List.mem_cons, List.not_mem_nil, or_false] at hm
    rcases hm with rfl | rfl <;> rfl
  have hnames : ((renewedMembers t).map fun m => m.1.name).Nodup := by
    show ["access_token", "access_token_expires_at"].Nodup
    decide
  have hne : renewedMembers t ≠ [] := List.cons_ne_nil _ _
  have hread := Json.readRecord_object hne hfits hnames
  rw [map_fst_renewedMembers, ← renewedJson_eq] at hread
  exact ⟨t.payload.expiredAt.toText, hread, Time.Lenient.read?_toText t.payload.expiredAt⟩

/-! ## Errors and results -/

/-- The status that an error of a renewal is told by. -/
inductive ToldBy : AuthError → Nat → Prop where
  | unauthenticated : ToldBy .unauthenticated 401
  | sessionNotFound : ToldBy .sessionNotFound 404
  | internal (message : String) : ToldBy (.internal message) 500
  | cancelled : ToldBy .cancelled 499
  | deadlineExceeded : ToldBy .deadlineExceeded 499

theorem toldBy_of_fails {e : AuthError} (h : TokenService.RenewalFails e) :
    ToldBy e (RequestError.auth e).status := by
  cases h with
  | unauthenticated => exact .unauthenticated
  | sessionNotFound => exact .sessionNotFound
  | internal message => exact .internal message
  | cancelled => exact .cancelled
  | deadlineExceeded => exact .deadlineExceeded

variable {σ : Type} [SessionStore σ] {s : Server} {r : Request} {text : String}

theorem renew_of_blank (h : trim text = "") (s : Server) (w : World σ) :
    renew s text w = (.error (.badRequest "refresh_token is required"), w) := by
  simp only [renew, requireRefresh, h, if_true]

/-- The token is renewed without the white space around it. -/
theorem renew_of_not_blank (h : trim text ≠ "") (s : Server) (w : World σ) :
    renew s text w =
      ((s.service.renewAccess s.callContext (trim text) w).1.mapError .auth,
        (s.service.renewAccess s.callContext (trim text) w).2) := by
  simp only [renew, requireRefresh, if_neg h]
  rcases s.service.renewAccess s.callContext (trim text) w with ⟨e | access, w'⟩ <;> rfl

/-- A renewal leaves the store as it was. -/
theorem store_renew (s : Server) (text : String) (w : World σ) : (renew s text w).2.store = w.store := by
  by_cases h : trim text = ""
  · rw [renew_of_blank h]
  · simp only [renew_of_not_blank h, TokenService.store_renewAccess]

/-- White space around a token never changes what is done with it. -/
theorem renew_append {before after : String} (hbefore : AllBlank before.toList)
    (hafter : AllBlank after.toList) (s : Server) (text : String) (w : World σ) :
    renew s (before ++ text ++ after) w = renew s text w := by
  simp only [renew, requireRefresh, Text.trim_append hbefore hafter]

/-! ## Requests -/

/-- A request for a renewal is handled by renewing the text in its body. -/
theorem handle_of_asks_renew (h : r.Asks .renew) (htext : readRefresh r = .ok text) (s : Server)
    (w : World σ) :
    handle s r w =
      let (id, w) := requestId r w
      (⟨id, .ofResult id (fun t => { status := 200, body := .json (renewedJson t) }) (renew s text w).1⟩,
        (renew s text w).2) := by
  rw [handle_of_asks s h, answerRoute_renew h, answerRenew_of_text htext]

/-- **A renewal over HTTP is a renewal by the service.** The text that is read from the body is that of the
refresh token, and empty if there is none. If it is white space throughout, the answer is 400, and nothing is
looked up. Otherwise all is as the service leaves it that renews the text without the white space around it,
from the same state on but for the random bytes of a fresh identifier: an access token is answered with 200
and a JSON text from which the token and the moment of its expiry are read back, and each error with its
status. White space around the text changes nothing. -/
theorem renewal_refines (s : Server) (r : Request) (text : String) (w : World σ) (h : r.Asks .renew)
    (htext : readRefresh r = .ok text) :
    let a := (handle s r w).1.response
    let start := (requestId r w).2
    let renewed := s.service.renewAccess s.callContext (trim text) start
    Holds r.body text ∧
    start = { w with random := start.random } ∧
    (AllBlank text.toList → a.status = 400 ∧ (handle s r w).2 = start) ∧
    (¬AllBlank text.toList → (handle s r w).2 = renewed.2 ∧
      (∀ t, renewed.1 = .ok t → a.status = 200 ∧ ∃ body, a.body = .json body ∧ Describes body t) ∧
      ∀ e, renewed.1 = .error e → ToldBy e a.status) ∧
    ∀ (r' : Request) (before after : String), AllBlank before.toList → AllBlank after.toList →
      r'.Asks .renew → givenId? r' = givenId? r → readRefresh r' = .ok (before ++ text ++ after) →
      handle s r' w = handle s r w := by
  have hhandle := handle_of_asks_renew h htext s w
  obtain ⟨id, random, hid⟩ := requestId_eq r w
  intro a start renewed
  have hstart : start = { w with random } := congrArg Prod.snd hid
  have ha : a = .ofResult id (fun t => { status := 200, body := .json (renewedJson t) })
      (renew s text start).1 := by
    simp only [a, hhandle, start, hid]
  have hafter : (handle s r w).2 = (renew s text start).2 := by
    simp only [hhandle, start]
  have hrenew : ¬AllBlank text.toList →
      renew s text start = (renewed.1.mapError .auth, renewed.2) := fun hgiven =>
    renew_of_not_blank (fun htrim => hgiven (Text.trim_eq_empty_iff.mp htrim)) s start
  refine ⟨(readRefresh_eq_ok_iff.mp htext).2.2, ?start, fun hblank => ?blank,
    fun hgiven => ⟨?world, fun t ht => ?issued, fun e he => ?failed⟩,
    fun r' before after hbefore hafter h' hid' htext' => ?spaced⟩
  case start => rw [hstart]
  case blank =>
    rw [ha, hafter, renew_of_blank (Text.trim_eq_empty_iff.mpr hblank)]
    exact ⟨rfl, rfl⟩
  case world =>
    rw [hafter, hrenew hgiven]
  case issued =>
    rw [ha, hrenew hgiven, ht]
    exact ⟨rfl, _, rfl, describes_renewedJson t⟩
  case failed =>
    rw [ha, hrenew hgiven, he]
    exact toldBy_of_fails (TokenService.renewalFails_of_renewAccess he)
  case spaced =>
    have hsame : requestId r' w = requestId r w := by simp only [requestId, hid']
    rw [handle_of_asks_renew h' htext', hhandle, hsame]
    simp only [renew_append hbefore hafter]

/-- A body without a token is answered with 400, and the token of a session with an access token. -/
theorem renewal_refines_owner :
    let key : Crypto.SealingKey := ⟨List.replicate 32 0, rfl⟩
    let p : Payload :=
      { id := ⟨List.replicate 16 7, rfl⟩, subject := "a", issuedAt := .epoch
        expiredAt := ⟨900, 0, by decide, by decide, by decide⟩ }
    let token := Token.ofContent key ⟨List.replicate 32 0, rfl⟩ (Text.Utf8.encode p.toJson)
    let session := (NewSession.ofRefreshToken token p {}).stored .epoch
    let s : Server :=
      { settings := ⟨80, "sqlite::memory:", "", 900, 900, 1000⟩, service := { key } }
    let request (body : Bytes) : Request :=
      { method := "POST", target := "/tokens/renew"
        headers := [("content-type", "application/json"), ("x-request-id", "7")], body }
    let w := World.inMemory ⟨[(p.id, session)]⟩ .epoch ⟨fun _ => 7, 0⟩
    (handle s (request [0x7B, 0x7D]) w).1.response.status = 400 ∧
      (handle s (request (refreshBody token)) w).1.response.status = 200 := by
  intro key p token session s request w
  have hpayload : Token.payload key token = .ok p := Token.payload_ofContent _ _ p
  have hlength : (refreshBody token).length ≤ maxBodyLength := by
    have hcontent : (Text.Utf8.encode p.toJson).length ≤ 1000 := by decide +kernel
    exact length_refreshBody_le key _ (Nat.le_trans hcontent (by decide))
  -- the token is nothing but a text from here on
  clear_value token
  have hasks {body : Bytes} : (request body).Asks .renew :=
    ⟨rfl, show pathOf "/tokens/renew" = Route.renew.path by decide⟩
  have htype : (header? [("content-type", "application/json"), ("x-request-id", "7")]
      "content-type").any MediaType.isJson = true := by decide
  have hid : header? [("content-type", "application/json"), ("x-request-id", "7")] "x-request-id"
      = some "7" := by decide
  have hgiven : givenId? (request (refreshBody token)) = some "7" := givenId?_of_header hid (by decide)
  have hmissing : readRefresh (request [0x7B, 0x7D]) = .ok "" :=
    readRefresh_eq_ok_iff.mpr ⟨htype, by decide, [], [], by decide, by decide, Or.inr ⟨rfl, rfl⟩⟩
  have htext : readRefresh (request (refreshBody token)) = .ok token :=
    readRefresh_of_refreshBody htype hlength (by dsimp only [request])
  obtain ⟨-, -, hblank, -, -⟩ := renewal_refines s (request [0x7B, 0x7D]) "" w hasks hmissing
  obtain ⟨-, -, -, hrenewed, -⟩ := renewal_refines s (request (refreshBody token)) token w hasks htext
  have htrim : trim token = token := Token.trim_of_payload hpayload
  have hsome : ¬AllBlank token.toList := fun h =>
    Token.ne_empty_of_payload hpayload (htrim ▸ Text.trim_eq_empty_iff.mpr h)
  have hearly : Time.Instant.epoch < p.expiredAt := by decide
  have hadmits : ¬session.Rejects p token w.now := by
    rintro (h | h | h | h)
    · cases h
    · exact h rfl
    · exact h rfl
    · exact absurd h (show ¬p.expiredAt ≤ .epoch by decide)
  have hsubject : session.subject ≠ "" := show "a" ≠ "" by decide
  have hsum : Time.Instant.epoch.add? s.service.lifetimes.access = some p.expiredAt := by decide
  obtain ⟨t, random, ht, -⟩ := TokenService.renewAccess_of_issuable (t := s.service)
    (World.prompt_inMemory _ _ _) (c := s.callContext) ⟨by decide, by decide⟩
    (Token.verify_of_lt hpayload hearly) (w := w) rfl hadmits hsubject hsum
  have hissued := (hrenewed hsome).2.1 t
  rw [requestId_of_given hgiven, htrim, ht] at hissued
  exact ⟨(hblank (Text.trim_eq_empty_iff.mp (by decide))).1, (hissued rfl).1⟩

end SessionTokens.Http
