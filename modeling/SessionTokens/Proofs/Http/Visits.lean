import SessionTokens.Proofs.Http.Renewal
import SessionTokens.Proofs.Http.Revocation
import SessionTokens.Proofs.Token.Lifetime
import SessionTokens.Proofs.Token.Spelling
import SessionTokens.Proofs.TokenService.Renewal

/-!
# Who changes the table

Of all the requests that the router answers, only a revocation changes the table of sessions, and only one
that is granted: one that came with the refresh token of a row. Then that row is marked, and nothing else
is touched. This holds along every sequence of requests (`sound_visits`).
-/

namespace SessionTokens.Http

open Crypto (SealingKey)
open Time (Instant)

section

variable {σ : Type} [SessionStore σ] {s : Server} {id : String} {r : Request}

/-! ## Revocations and other requests -/

/-- The request asks for a revocation. -/
def Request.IsRevocation (r : Request) : Prop :=
  r.method = "POST" ∧ pathOf r.target = "/tokens/revoke"

instance (r : Request) : Decidable r.IsRevocation :=
  inferInstanceAs (Decidable (_ ∧ _))

theorem respond_of_isRevocation (h : r.IsRevocation) (w : World σ) :
    respond s id r w = answerRevoke s id r w :=
  (respond_of_asks (show r.Asks .revoke from h) w).trans (answerRoute_revoke h w)

theorem store_answerRenew (s : Server) (id : String) (r : Request) (w : World σ) :
    (answerRenew s id r w).2.store = w.store := by
  cases htext : readRefresh r with
  | error fault => simp only [answerRenew, htext]
  | ok text =>
    simp only [answerRenew_of_text htext, store_renew]

theorem store_answerRoute {route : Route} (h : route = .revoke → r.method ≠ "POST") (w : World σ) :
    (answerRoute s id route r w).2.store = w.store := by
  unfold answerRoute
  cases route with
  | health => rfl
  | me => cases authenticate s r.headers w.now <;> rfl
  | renew =>
    simp only
    split
    · exact store_answerRenew s id r w
    · rfl
  | revoke =>
    have hmethod : (Route.methods .revoke).contains r.method = false := by
      simpa [Route.methods] using h rfl
    simp only [hmethod]
    rfl

/-- **No other request touches the store.** -/
theorem store_respond (h : ¬r.IsRevocation) (w : World σ) : (respond s id r w).2.store = w.store := by
  unfold respond
  by_cases hoptions : r.method = "OPTIONS"
  · rw [if_pos hoptions]
  · rw [if_neg hoptions]
    cases hroute : Route.ofPath? (pathOf r.target) with
    | none => rfl
    | some route =>
      -- where the path is that of revocations, the method is not
      refine store_answerRoute (fun hrevoke hmethod => h ⟨hmethod, ?_⟩) w
      rw [hrevoke] at hroute
      exact Route.ofPath?_eq_some_iff.mp hroute

end

/-! ## Revocations that are granted -/

section

variable {s : Server} {r : Request} {id text : String} {w : World SessionTable}

theorem answerRevoke_of_error {fault : BodyFault} (h : readRefresh r = .error fault)
    (w : World SessionTable) :
    answerRevoke s id r w = ({ status := fault.status, body := .plain }, w) := by
  unfold answerRevoke
  simp only [h]

theorem answerRevoke_of_ok (s : Server) (id : String) (h : readRefresh r = .ok text)
    (w : World SessionTable) :
    ((answerRevoke s id r w).1.status = 204 ↔ (revoke s text w).1 = .ok ()) ∧
      (answerRevoke s id r w).2 = (revoke s text w).2 := by
  simp only [answerRevoke_of_text h, and_true]
  rw [Response.status_ofResult_eq_iff (show 204 < 400 by decide) fun _ => rfl]
  exact ⟨fun ⟨_, hok⟩ => hok, fun hok => ⟨(), hok⟩⟩

/-- A revocation is granted if its token can be read and revoked. -/
theorem status_answerRevoke_iff :
    (answerRevoke s id r w).1.status = 204 ↔
      ∃ text w', readRefresh r = .ok text ∧ revoke s text w = (.ok (), w') := by
  cases htext : readRefresh r with
  | error fault =>
    simp [answerRevoke_of_error htext, fault.status_ne (show 204 < 400 by decide)]
  | ok text =>
    rw [(answerRevoke_of_ok s id htext w).1]
    constructor
    · intro h
      exact ⟨text, _, rfl, Prod.ext h rfl⟩
    · rintro ⟨text', w', heq, h⟩
      cases heq
      rw [h]

theorem store_answerRevoke (h : (answerRevoke s id r w).1.status ≠ 204) :
    (answerRevoke s id r w).2.store = w.store := by
  cases htext : readRefresh r with
  | error fault => rw [answerRevoke_of_error htext]
  | ok text =>
    obtain ⟨hstatus, hafter⟩ := answerRevoke_of_ok s id htext w
    rw [hafter]
    cases hresult : (revoke s text w).1 with
    | error e => exact store_of_revoke_error (Prod.ext hresult rfl)
    | ok _ => exact absurd (hstatus.mpr hresult) h

end

/-! ## Visits -/

/-- A request as it arrives: the moment, and what its calls to the store will meet with. -/
structure Arrival where
  moment : Instant
  /-- The milliseconds that each look-up will take. -/
  latency : Nat := 0
  /-- The message with which all look-ups will fail, if they will. -/
  outage? : Option String := none
  request : Request

/-- A request with its reply, and with what was there before and after it. -/
structure Visit where
  before : World SessionTable
  request : Request
  reply : Reply
  after : World SessionTable

/-- Handles a request as it arrives. -/
def visit (s : Server) (a : Arrival) (w : World SessionTable) : Visit :=
  let before := { w with now := a.moment, latency := a.latency, outage? := a.outage? }
  { before, request := a.request, reply := (handle s a.request before).1
    after := (handle s a.request before).2 }

/-- Handles requests one after the other. -/
def visits (s : Server) : List Arrival → World SessionTable → List Visit
  | [], _ => []
  | a :: r, w => visit s a w :: visits s r (visit s a w).after

namespace Visit

/-- The request asked for a revocation, and got it. -/
def Granted (v : Visit) : Prop :=
  v.request.IsRevocation ∧ v.reply.response.status = 204

/-- Only a revocation that is granted changes the table, and only to the owner of a row it is granted. -/
structure Sound (s : Server) (v : Visit) : Prop where
  /-- Everything else leaves the table as it was. -/
  frame : ¬v.Granted → v.after.store = v.before.store
  /-- The row that is marked is that of the token that came with the request. -/
  marks : v.Granted → ∃ text p r, readRefresh v.request = .ok text ∧
    Presents s text v.before.now p ∧ OwnedRow text p v.before.store r ∧
    v.before.store.Marks r v.after.store
  /-- In time, whoever holds the token of a row is granted its revocation, and nobody else is. -/
  granted : Timely s v.before → v.request.IsRevocation →
    ∀ text, readRefresh v.request = .ok text →
      (v.Granted ↔ ∃ p r, Presents s text v.before.now p ∧ OwnedRow text p v.before.store r)

/-- A visit leaves a table whose rows are sessions, if it found one. -/
theorem Sound.proper {s : Server} {v : Visit} (h : v.Sound s) (ht : v.before.store.Proper) :
    v.after.store.Proper := by
  by_cases hgranted : v.Granted
  · obtain ⟨text, p, r, -, -, -, hmarks⟩ := h.marks hgranted
    exact hmarks.proper ht
  · rw [h.frame hgranted]
    exact ht

end Visit

/-! ## One visit and many -/

variable {s : Server}

theorem sound_visit (a : Arrival) {w : World SessionTable} (ht : w.store.Proper) :
    (visit s a w).Sound s := by
  let before : World SessionTable :=
    { w with now := a.moment, latency := a.latency, outage? := a.outage? }
  obtain ⟨id, random, hid⟩ := requestId_eq a.request before
  -- the identifier of the request takes nothing but random bytes
  let start : World SessionTable := { before with random }
  have hvisit : visit s a w =
      ⟨before, a.request, ⟨id, (respond s id a.request start).1⟩, (respond s id a.request start).2⟩ := by
    simp only [visit, handle, before, start] at hid ⊢
    rw [hid]
  rw [hvisit]
  by_cases hrevocation : a.request.IsRevocation
  · rw [respond_of_isRevocation hrevocation]
    have hproper : start.store.Proper := ht
    refine ⟨fun hfree => ?frame, fun hgranted => ?marks, fun htimely _ text htext => ⟨?owner, ?grant⟩⟩
    case frame => exact store_answerRevoke fun hstatus => hfree ⟨hrevocation, hstatus⟩
    case marks =>
      obtain ⟨text, w', htext, hrevoke⟩ := status_answerRevoke_iff.mp hgranted.2
      obtain ⟨p, r, hp, hr, hmarks⟩ := marks_of_revoke hproper hrevoke
      refine ⟨text, p, r, htext, hp, hr, ?_⟩
      simpa only [(answerRevoke_of_ok s id htext start).2, hrevoke] using hmarks
    case owner =>
      intro hgranted
      obtain ⟨text', w', htext', hrevoke⟩ := status_answerRevoke_iff.mp hgranted.2
      cases htext.symm.trans htext'
      obtain ⟨p, r, hp, hr, -⟩ := marks_of_revoke hproper hrevoke
      exact ⟨p, r, hp, hr⟩
    case grant =>
      rintro ⟨p, r, hp, hr⟩
      have hstart : Timely s start := ⟨htimely.latency, htimely.outage⟩
      obtain ⟨w', hrevoke⟩ := revoke_of_owned hstart hproper hp hr
      exact ⟨hrevocation, status_answerRevoke_iff.mpr ⟨text, w', htext, hrevoke⟩⟩
  · exact ⟨fun _ => store_respond hrevocation start, fun h => absurd h.1 hrevocation,
      fun _ h => absurd h hrevocation⟩

/-- **Only an owner's revocation changes the table.** Whatever requests arrive, at whatever moments, over a
table whose rows are sessions: each leaves the table as it was, but for a revocation that is granted. That
is one that came with a token that is verified then, and whose session is in the table with that very token
and that subject; its row is blocked, and nothing else is touched. -/
theorem sound_visits (s : Server) (arrivals : List Arrival) (w : World SessionTable)
    (ht : w.store.Proper) : ∀ v ∈ visits s arrivals w, v.Sound s := by
  induction arrivals generalizing w with
  | nil => exact fun _ hv => absurd hv List.not_mem_nil
  | cons a r ih =>
    have hfirst := sound_visit (s := s) a ht
    intro v hv
    rcases List.mem_cons.mp hv with rfl | hv
    · exact hfirst
    · exact ih _ (hfirst.proper ht) v hv

/-- The owner of a row asks for its revocation: that is granted, and the row is blocked. -/
theorem sound_visits_granted :
    let key : SealingKey := ⟨List.replicate 32 0, rfl⟩
    let p : Payload :=
      { id := ⟨List.replicate 16 7, rfl⟩, subject := "a", issuedAt := .epoch
        expiredAt := ⟨900, 0, by decide, by decide, by decide⟩ }
    let token := Token.ofContent key ⟨List.replicate 32 0, rfl⟩ (Text.Utf8.encode p.toJson)
    let session := (NewSession.ofRefreshToken token p {}).stored .epoch
    let row := SessionRow.ofSession session
    let s : Server :=
      { settings := ⟨80, "sqlite::memory:", "", 900, 900, 1000⟩, service := { key } }
    let request : Request :=
      { method := "POST", target := "/tokens/revoke"
        headers := [("content-type", "application/json")], body := refreshBody token }
    let w : World SessionTable := { store := ⟨[row]⟩, now := .epoch, random := ⟨fun _ => 7, 0⟩ }
    let v := visit s { moment := .epoch, request } w
    w.store.Proper ∧ visits s [{ moment := .epoch, request }] w = [v] ∧ v.Sound s ∧ v.Granted ∧
      v.after.store.rows = [row.block] := by
  intro key p token session row s request w v
  have hlegible : session.Legible := by decide +kernel
  have hpayload : Token.payload key token = .ok p := Token.payload_ofContent _ _ p
  have hlength : (refreshBody token).length ≤ maxBodyLength := by
    have hcontent : (Text.Utf8.encode p.toJson).length ≤ 1000 := by decide +kernel
    exact length_refreshBody_le key _ (Nat.le_trans hcontent (by decide))
  have htype : (header? request.headers "content-type").any MediaType.isJson := by decide
  have hearly : Instant.epoch < p.expiredAt := by decide
  have hpath : pathOf request.target = "/tokens/revoke" := by decide
  -- the token is nothing but a text from here on
  clear_value token
  have hproper : w.store.Proper := by
    refine ⟨fun r hr => ?_, List.nodup_singleton _⟩
    rw [List.mem_singleton.mp hr]
    exact ⟨session, SessionRow.toSession_eq_ok_iff.mp (SessionRow.toSession_ofSession hlegible), rfl⟩
  have hsound : v.Sound s :=
    sound_visits s [{ moment := .epoch, request }] w hproper v List.mem_cons_self
  have htrim : Text.trim token = token := Token.trim_of_payload hpayload
  have hpresents : Presents s token w.now p :=
    presents_of_lt (s := s) hpayload hearly
  have hrow : OwnedRow token p w.store row := ⟨List.mem_cons_self, rfl, rfl, htrim.symm⟩
  have htext : readRefresh request = .ok token :=
    readRefresh_of_refreshBody htype hlength (by dsimp only [request])
  have hrevocation : request.IsRevocation := ⟨rfl, hpath⟩
  have hgranted : v.Granted :=
    (hsound.granted ⟨Nat.zero_lt_succ 999, rfl⟩ hrevocation token htext).mpr ⟨p, row, hpresents, hrow⟩
  refine ⟨hproper, rfl, hsound, hgranted, ?_⟩
  obtain ⟨_, _, r, -, -, -, before, after, hbefore, hafter⟩ := hsound.marks hgranted
  -- there is one row only
  have hrows : before ++ r :: after = [row] := hbefore.symm
  cases before with
  | nil =>
    obtain ⟨rfl, rfl⟩ := List.cons.inj hrows
    exact hafter
  | cons _ _ => simp at hrows

end SessionTokens.Http
