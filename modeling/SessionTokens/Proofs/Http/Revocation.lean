import SessionTokens.Http.Router
import SessionTokens.Proofs.Store.Table
import SessionTokens.Proofs.Token.Lifetime
import SessionTokens.Proofs.Token.Spelling
import SessionTokens.Proofs.World

/-!
# Revocations

A revocation succeeds exactly if the text is a token that is verified, its session is found, and the session
was opened with that very token for that very subject; then that session is blocked (`revoke_eq_ok_iff`).
In a table this marks the row of the session and nothing else (`marks_of_revoke`), and a revocation that
fails changes nothing (`store_of_revoke_error`).
-/

namespace SessionTokens.Http

open Time (Instant)

variable {σ : Type} [SessionStore σ] {s : Server} {text : String} {w w' : World σ}

/-! ## What a revocation demands -/

/-- Without the white space around it, the text is a token with the given payload. -/
structure Presents (s : Server) (text : String) (now : Instant) (p : Payload) : Prop where
  given : Text.trim text ≠ ""
  verified : Token.verify s.service.key (Text.trim text) now = .ok p

theorem requireRefresh_eq_ok_iff {token : String} :
    requireRefresh text = .ok token ↔ Text.trim text ≠ "" ∧ token = Text.trim text := by
  by_cases h : Text.trim text = "" <;> simp [requireRefresh, h, eq_comm]

/-- **What makes a revocation succeed.** -/
theorem revoke_eq_ok_iff :
    revoke s text w = (.ok (), w') ↔ ∃ p session w₁, Presents s text w.now p ∧
      w.findUnder s.callContext p.id = (.ok (.ok session), w₁) ∧
      session.subject = p.subject ∧ session.refreshToken = Text.trim text ∧
      w₁.block session.id = (.ok (), w') := by
  constructor
  · intro h
    unfold revoke at h
    split at h
    · cases h
    · next token htoken =>
      obtain ⟨hgiven, rfl⟩ := requireRefresh_eq_ok_iff.mp htoken
      split at h
      · cases h
      · next p hp =>
        split at h
        · cases h
        · cases h
        · next session w₁ hfind =>
          split at h
          · cases h
          · next howns =>
            obtain ⟨hsubject, hrefresh⟩ := not_or.mp howns
            split at h
            · cases h
            · next w₂ hblock =>
              cases h
              exact ⟨p, session, w₁, ⟨hgiven, hp⟩, hfind, Decidable.not_not.mp hsubject,
                Decidable.not_not.mp hrefresh, hblock⟩
  · rintro ⟨p, session, w₁, hp, hfind, hsubject, hrefresh, hblock⟩
    have howns : ¬(session.subject ≠ p.subject ∨ session.refreshToken ≠ Text.trim text) :=
      fun h => h.elim (· hsubject) (· hrefresh)
    unfold revoke
    simp only [requireRefresh_eq_ok_iff.mpr ⟨hp.given, rfl⟩, hp.verified, hfind]
    rw [if_neg howns, hblock]

/-! ## Revocations that fail -/

theorem revoke_of_refused {e : AuthError} (hgiven : Text.trim text ≠ "")
    (hverify : Token.verify s.service.key (Text.trim text) w.now = .error e) :
    revoke s text w = (.error (.unauthorized ("refresh token rejected: " ++ e.message)), w) := by
  unfold revoke
  simp only [requireRefresh_eq_ok_iff.mpr ⟨hgiven, rfl⟩, hverify]

theorem revoke_of_store_error {p : Payload} {e : StoreError} (hp : Presents s text w.now p)
    (hfind : w.findUnder s.callContext p.id = (.ok (.error e), w')) :
    revoke s text w = (.error (.store e), w') := by
  unfold revoke
  simp only [requireRefresh_eq_ok_iff.mpr ⟨hp.given, rfl⟩, hp.verified, hfind]

section

variable {p : Payload} {session : Session} (hp : Presents s text w.now p)
  (hfind : w.findUnder s.callContext p.id = (.ok (.ok session), w'))

include hp hfind

theorem revoke_of_stranger
    (hstranger : session.subject ≠ p.subject ∨ session.refreshToken ≠ Text.trim text) :
    revoke s text w =
      (.error (.unauthorized ("refresh token does not own session " ++ session.id.toText)), w') := by
  unfold revoke
  simp only [requireRefresh_eq_ok_iff.mpr ⟨hp.given, rfl⟩, hp.verified, hfind]
  rw [if_pos hstranger]

theorem revoke_of_block_error {e : StoreError} {w'' : World σ} (hsubject : session.subject = p.subject)
    (hrefresh : session.refreshToken = Text.trim text) (hblock : w'.block session.id = (.error e, w'')) :
    revoke s text w = (.error (.store e), w'') := by
  have howns : ¬(session.subject ≠ p.subject ∨ session.refreshToken ≠ Text.trim text) :=
    fun h => h.elim (· hsubject) (· hrefresh)
  unfold revoke
  simp only [requireRefresh_eq_ok_iff.mpr ⟨hp.given, rfl⟩, hp.verified, hfind]
  rw [if_neg howns, hblock]

end

/-! ## Holders of a token -/

/-- Whoever holds a token presents it until its time is over. -/
theorem presents_of_lt {p : Payload} (h : Token.payload s.service.key text = .ok p) {now : Instant}
    (hnow : now < p.expiredAt) : Presents s text now p := by
  have htrim := Token.trim_of_payload h
  refine ⟨?_, ?_⟩
  · rw [htrim]
    exact Token.ne_empty_of_payload h
  · rw [htrim]
    exact Token.verify_of_lt h hnow

/-! ## Look-ups in time -/

/-- Calls to the store are done before a request's time is over, and do not fail. -/
structure Timely (s : Server) (w : World σ) : Prop where
  latency : w.latency < s.settings.storeTimeout
  outage : w.outage? = none

omit [SessionStore σ] in
theorem timely_of_prompt (hs : 0 < s.settings.storeTimeout) (hw : w.Prompt) : Timely s w :=
  ⟨hw.latency.symm ▸ hs, hw.outage⟩

omit [SessionStore σ] in
theorem race_callContext {delay : Nat} (h : delay < s.settings.storeTimeout) :
    ∃ moment, s.callContext.race 0 delay = .finished moment := by
  have hcancel : ¬s.callContext.IsCancelled := by simp [Server.callContext]
  have hover (now : Nat) : s.callContext.Overdue now ↔ s.settings.storeTimeout ≤ now := by
    simp [CallContext.Overdue, Server.callContext]
  have hlimit : s.callContext.limit 0 delay = delay := by
    simp only [CallContext.limit, Server.callContext, Option.map_some, Option.getD_some, Nat.zero_add]
    omega
  unfold CallContext.race
  rw [if_neg hcancel, if_neg (by rw [hover]; omega)]
  split
  · exact ⟨0, rfl⟩
  · have hquiet : s.callContext.signal? = none := rfl
    have hintime : ¬s.callContext.Overdue delay := by rw [hover]; omega
    simp only [hlimit, hquiet, if_neg hintime]
    exact ⟨delay, rfl⟩

theorem findUnder_of_timely (h : Timely s w) (id : TokenId) :
    w.findUnder s.callContext id = (.ok (SessionStore.find id w.store), w.looked.elapse) := by
  obtain ⟨moment, hrace⟩ := race_callContext h.latency
  have hfind : w.find id = (SessionStore.find id w.store, w.looked.elapse) := by
    unfold World.find
    simp only [World.elapse, World.looked, h.outage]
  unfold World.findUnder World.under
  rw [hrace]
  simp only [hfind]

/-! ## Revocations in a table -/

variable {p : Payload} {r : SessionRow} {v v' : World SessionTable}

/-- The row of a payload, whose session was opened with that very token for that very subject. -/
structure OwnedRow (text : String) (p : Payload) (t : SessionTable) (r : SessionRow) : Prop where
  mem : r ∈ t.rows
  key : r.id = p.id.toText
  subject : r.subject = p.subject
  refreshToken : r.refreshToken = Text.trim text

/-- **A revocation that succeeds was made by whoever holds the token of a row, and marks that row.** -/
theorem marks_of_revoke (ht : v.store.Proper) (h : revoke s text v = (.ok (), v')) :
    ∃ p r, Presents s text v.now p ∧ OwnedRow text p v.store r ∧ v.store.Marks r v'.store := by
  obtain ⟨p, session, v₁, hp, hfound, hsubject, hrefresh, hblock⟩ := revoke_eq_ok_iff.mp h
  obtain ⟨hfind, hstore⟩ := World.findUnder_eq_ok hfound
  obtain ⟨r, hr, hspells⟩ := SessionTable.find_eq_ok_iff.mp hfind
  obtain ⟨hmem, hkey⟩ := SessionTable.row?_spec hr
  refine ⟨p, r, hp, ⟨hmem, hkey, hspells.subject ▸ hsubject, hspells.refreshToken ▸ hrefresh⟩, ?_⟩
  have hmarks := SessionTable.marks_block ht.keys hr
  rw [← SessionTable.id_of_find hfind, ← hstore] at hmarks
  rw [← hstore]
  exact (congrArg (fun r => r.2.store) hblock) ▸ hmarks

/-- Where the session of a token is found in time, and was opened with that token, the revocation
succeeds. -/
theorem revoke_of_find {session : Session} (hv : Timely s v) (hp : Presents s text v.now p)
    (hfind : v.store.find p.id = .ok session) (hsubject : session.subject = p.subject)
    (hrefresh : session.refreshToken = Text.trim text) : ∃ v', revoke s text v = (.ok (), v') := by
  obtain ⟨r, hr, -⟩ := SessionTable.find_eq_ok_iff.mp hfind
  have hfound : v.findUnder s.callContext p.id = (.ok (.ok session), v.looked.elapse) := by
    rw [findUnder_of_timely hv]
    exact congrArg (fun r => (Except.ok r, v.looked.elapse)) hfind
  have hblock : (v.looked.elapse.block session.id).1 = .ok () := by
    rw [SessionTable.id_of_find hfind]
    exact congrArg Prod.fst (SessionTable.block_of_some hr)
  exact ⟨_, revoke_eq_ok_iff.mpr ⟨p, session, _, hp, hfound, hsubject, hrefresh, Prod.ext hblock rfl⟩⟩

/-- **Whoever holds the token of a row can block it**, whether it is blocked already or not. -/
theorem revoke_of_owned (hv : Timely s v) (ht : v.store.Proper) (hp : Presents s text v.now p)
    (hr : OwnedRow text p v.store r) : ∃ v', revoke s text v = (.ok (), v') := by
  have hrow := (SessionTable.row?_eq_some_iff ht.keys).mpr ⟨hr.mem, hr.key⟩
  obtain ⟨session, hspells, -⟩ := ht.reads r hr.mem
  have hfind : v.store.find p.id = .ok session := SessionTable.find_eq_ok_iff.mpr ⟨r, hrow, hspells⟩
  exact revoke_of_find hv hp hfind (hspells.subject.trans hr.subject)
    (hspells.refreshToken.trans hr.refreshToken)

/-- **A revocation that fails changes nothing.** -/
theorem store_of_revoke_error {e : RequestError} (h : revoke s text v = (.error e, v')) :
    v'.store = v.store := by
  unfold revoke at h
  split at h
  · cases h
    rfl
  · split at h
    · cases h
      rfl
    · next p _ =>
      have hstore := World.store_findUnder s.callContext p.id v
      split at h
      · next hfind =>
        cases h
        rwa [hfind] at hstore
      · next hfind =>
        cases h
        rwa [hfind] at hstore
      · next session v₁ hfind =>
        rw [hfind] at hstore
        split at h
        · cases h
          exact hstore
        · split at h
          · next hblock =>
            cases h
            refine Eq.trans ?_ hstore
            exact SessionTable.store_of_block_error (congrArg (fun r => (r.1, r.2.store)) hblock)
          · cases h

end SessionTokens.Http
