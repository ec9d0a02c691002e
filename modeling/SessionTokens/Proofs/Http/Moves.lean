import SessionTokens.Proofs.Http.Progress
import SessionTokens.Proofs.Store.Growth
import SessionTokens.Proofs.TokenService.Opening
import SessionTokens.Proofs.TokenService.Renewal

/-!
# What a step of a request does

A step stores the session of a login, blocks the session of a revocation, or leaves the table as it is; and a request
goes on only with what it takes to go on (`step_advance`). All that is said of steps and of runs is derived from that.
-/

namespace SessionTokens

open Time (Instant)

/-! ## Logins -/

/-- The login with the tokens: its session is what the refresh token says, and is not blocked. -/
def TokenPair.login (tokens : TokenPair) (client : Client) (now : Instant) : Login where
  session :=
    { id := tokens.refresh.payload.id
      subject := tokens.refresh.payload.subject
      refreshToken := tokens.refresh.text
      userAgent := client.userAgent
      clientIp := client.ip
      isBlocked := false
      expiresAt := tokens.refresh.payload.expiredAt
      createdAt := now }
  tokens := tokens

/-- The row of the session of a login, column by column. -/
def Login.row (l : Login) : SessionRow where
  id := l.session.id.toText
  subject := l.session.subject
  refreshToken := l.session.refreshToken
  userAgent := l.session.userAgent
  clientIp := l.session.clientIp
  isBlocked := 0
  expiresAt := l.session.expiresAt.toRowText
  createdAt := l.session.createdAt.toRowText

namespace Http.Progress

/-! ## Ends -/

/-- There is an answer. -/
def Over : Progress → Prop
  | renewed _ | revoked _ | loggedIn _ => True
  | _ => False

/-- The answer is an error. -/
def Failed : Progress → Prop
  | renewed (.error _) | revoked (.error _) | loggedIn (.error _) => True
  | _ => False

/-! ## Steps -/

/-- The steps that leave the table as it is. -/
inductive Moves (s : Server) (w : World SessionTable) : Progress → Progress → Prop
  /-- A request that is over stays as it is. -/
  | stays {q : Progress} (h : q.Over) : Moves s w q q
  | fails {q q' : Progress} (hq : ¬q.Over) (h : q'.Failed) : Moves s w q q'
  | verified {c : CallContext} {token : String} {p : Payload} (h : Token.payload s.service.key token = .ok p) :
    Moves s w (asked (.renew c token)) (renewing c token p)
  | found {c : CallContext} {token : String} {p : Payload} {session : Session} (h : w.store.find p.id = .ok session) :
    Moves s w (renewing c token p) (admitting token p session)
  /-- A session that is not blocked admits a renewal. -/
  | admitted {token : String} {p : Payload} {session : Session} {a : IssuedToken} (h : session.isBlocked = false) :
    Moves s w (admitting token p session) (renewed (.ok a))
  | presented {text token : String} {p : Payload} (htoken : requireRefresh text = .ok token)
    (h : Token.payload s.service.key token = .ok p) : Moves s w (asked (.revoke text)) (revoking token p)
  | claimed {token : String} {p : Payload} {session : Session} (h : w.store.find p.id = .ok session) :
    Moves s w (revoking token p) (checking token p session)
  | owned {token : String} {p : Payload} {session : Session} (hsubject : session.subject = p.subject)
    (hrefresh : session.refreshToken = token) : Moves s w (checking token p session) (blocking token p session)
  | issued {c : CallContext} {subject : String} {client : Client} {tokens : TokenPair} (hsubject : subject ≠ "")
    (haccess : Token.IssuedAs s.service.key subject s.service.lifetimes.access w.now tokens.access)
    (hrefresh : Token.IssuedAs s.service.key subject s.service.lifetimes.refresh w.now tokens.refresh) :
    Moves s w (asked (.login c subject client)) (storing c tokens client)

/-- What a step makes of a request and of the table. -/
inductive Step (s : Server) (w : World SessionTable) : Progress → Progress → SessionTable → Prop
  | moves {q q' : Progress} (h : Moves s w q q') : Step s w q q' w.store
  /-- The session of a login is stored when the time of the insertion has passed. -/
  | stored {c : CallContext} {tokens : TokenPair} {client : Client} {l : Login} {t : SessionTable}
    (hl : l = tokens.login client (w.now.afterMillis w.latency))
    (h : w.store.insert (.ofRefreshToken tokens.refresh.text tokens.refresh.payload client)
      (w.now.afterMillis w.latency) = (.ok l.session, t)) :
    Step s w (storing c tokens client) (loggedIn (.ok l)) t
  | blocked {token : String} {p : Payload} {session : Session} {r : SessionRow}
    (h : w.store.row? session.id.toText = some r) :
    Step s w (blocking token p session) (revoked (.ok ())) (w.store.block session.id).2

/-- An insertion into a table that does not succeed leaves it as it was. -/
theorem store_of_insertUnder {c : CallContext} {n : NewSession} {w : World SessionTable}
    (h : ∀ session, (w.insertUnder c n).1 ≠ .ok (.ok session)) : (w.insertUnder c n).2.store = w.store := by
  rcases World.insertUnder_cases c n w with ⟨-, hstore⟩ | ⟨hresult, hstore⟩
  · exact hstore
  · rcases SessionTable.insert_cases n (w.now.afterMillis w.latency) w.store with hinsert | ⟨-, hinsert⟩
    · exact hstore.trans (congrArg Prod.snd hinsert)
    · exact absurd (hresult.trans (congrArg (fun r => Except.ok r.1) hinsert)) (h _)

/-- A session that was stored under a context is that of the login. -/
theorem insert_of_insertUnder {c : CallContext} {tokens : TokenPair} {client : Client} {w : World SessionTable}
    {session : Session}
    (h : (w.insertUnder c (.ofRefreshToken tokens.refresh.text tokens.refresh.payload client)).1
      = .ok (.ok session)) :
    ({ session, tokens } : Login) = tokens.login client (w.now.afterMillis w.latency) ∧
      w.store.insert (.ofRefreshToken tokens.refresh.text tokens.refresh.payload client)
        (w.now.afterMillis w.latency) = (.ok session,
          (w.insertUnder c (.ofRefreshToken tokens.refresh.text tokens.refresh.payload client)).2.store) := by
  have hinsert := World.insert_eq_ok (World.eq_of_under (Prod.ext h rfl))
  obtain ⟨-, rfl, -⟩ := SessionTable.insert_eq_ok hinsert
  exact ⟨rfl, hinsert⟩

variable {s : Server} {w : World SessionTable} {q q' : Progress} {t : SessionTable}

theorem moves_asked (s : Server) (e : Errand) (w : World SessionTable) :
    Moves s w (asked e) ((asked e).advance s w).1 := by
  cases e with
  | renew c token =>
    rw [advance_renew]
    cases h : Token.verify s.service.key token w.now with
    | error e => exact .fails id trivial
    | ok p => exact .verified (Token.verify_eq_ok_iff.mp h).1
  | revoke text =>
    rw [advance_revoke]
    cases htoken : requireRefresh text with
    | error e => exact .fails id trivial
    | ok token =>
      show Moves s w _ (ofPresented token (Token.verify s.service.key token w.now))
      cases h : Token.verify s.service.key token w.now with
      | error e => exact .fails id trivial
      | ok p => exact .presented htoken (Token.verify_eq_ok_iff.mp h).1
  | login c subject client =>
    rw [advance_login]
    cases h : (s.service.issuePair subject s.service.lifetimes w).1 with
    | error e => exact .fails id trivial
    | ok tokens =>
      obtain ⟨hsubject, haccess, hrefresh⟩ := TokenService.issuedAs_of_issuePair (Prod.ext h rfl)
      exact .issued hsubject haccess hrefresh

theorem moves_renewing (s : Server) (c : CallContext) (token : String) (p : Payload) (w : World SessionTable) :
    Moves s w (renewing c token p) ((renewing c token p).advance s w).1 := by
  rw [advance_renewing]
  match h : (w.findUnder c p.id).1 with
  | .error why => exact .fails id trivial
  | .ok (.error e) => exact .fails id trivial
  | .ok (.ok session) => exact .found (World.findUnder_eq_ok (Prod.ext h rfl)).1

theorem moves_revoking (s : Server) (token : String) (p : Payload) (w : World SessionTable) :
    Moves s w (revoking token p) ((revoking token p).advance s w).1 := by
  rw [advance_revoking]
  match h : (w.findUnder s.callContext p.id).1 with
  | .error why => exact .fails id trivial
  | .ok (.error e) => exact .fails id trivial
  | .ok (.ok session) => exact .claimed (World.findUnder_eq_ok (Prod.ext h rfl)).1

/-- **What a step makes of a request and of the table.** -/
theorem step_advance (s : Server) (q : Progress) (w : World SessionTable) :
    Step s w q (q.advance s w).1 (q.advance s w).2.store := by
  -- a step that leaves the table as it is
  have hquiet {next : Progress × World SessionTable} (h : Moves s w q next.1) (hstore : next.2.store = w.store) :
      Step s w q next.1 next.2.store := hstore ▸ .moves h
  cases q with
  | asked e =>
    refine hquiet (moves_asked s e w) ?_
    cases e with
    | renew c token => rfl
    | revoke text =>
      rw [advance_revoke]
      cases requireRefresh text <;> rfl
    | login c subject client => exact s.service.store_issuePair subject s.service.lifetimes w
  | renewing c token p => exact hquiet (moves_renewing s c token p w) (World.store_findUnder c p.id w)
  | revoking token p => exact hquiet (moves_revoking s token p w) (World.store_findUnder s.callContext p.id w)
  | admitting token p session =>
    by_cases h : (session.rejection? p token w.now).isSome
    · rw [advance_admitting_of_rejected s w h]
      exact .moves (.fails id trivial)
    · rw [advance_admitting_of_admitted s w h]
      refine hquiet ?_ rfl
      cases (s.service.issueToken session.subject s.service.lifetimes.access w).1 with
      | error e => exact .fails id trivial
      | ok a =>
        have hrejects := mt Session.rejects_iff.mp h
        exact .admitted (Bool.eq_false_iff.mpr fun hblocked => hrejects (Or.inl hblocked))
  | checking token p session =>
    by_cases h : session.subject ≠ p.subject ∨ session.refreshToken ≠ token
    · rw [advance_checking_of_stranger s w h]
      exact .moves (.fails id trivial)
    · rw [advance_checking_of_owner s w h]
      obtain ⟨hsubject, hrefresh⟩ := not_or.mp h
      exact .moves (.owned (Decidable.not_not.mp hsubject) (Decidable.not_not.mp hrefresh))
  | blocking token p session =>
    rw [advance_blocking]
    cases hrow : w.store.row? session.id.toText with
    | none =>
      have hblock : w.store.block session.id = (.error .notFound, w.store) := SessionTable.block_of_none hrow
      refine hquiet ?_ (congrArg Prod.snd hblock)
      rw [show (w.block session.id).1 = .error .notFound from congrArg Prod.fst hblock]
      exact .fails id trivial
    | some r =>
      have hblock : (w.block session.id).1 = .ok () := congrArg Prod.fst (SessionTable.block_of_some hrow)
      rw [hblock]
      exact .blocked hrow
  | storing c tokens client =>
    rw [advance_storing]
    have hfails := store_of_insertUnder (c := c) (w := w)
      (n := .ofRefreshToken tokens.refresh.text tokens.refresh.payload client)
    match h : (w.insertUnder c (.ofRefreshToken tokens.refresh.text tokens.refresh.payload client)).1 with
    | .error why => exact hquiet (.fails id trivial) (hfails (by simp [h]))
    | .ok (.error e) => exact hquiet (.fails id trivial) (hfails (by simp [h]))
    | .ok (.ok session) =>
      obtain ⟨hlogin, hinsert⟩ := insert_of_insertUnder h
      exact .stored hlogin hinsert
  | renewed r => exact .moves (.stays trivial)
  | revoked r => exact .moves (.stays trivial)
  | loggedIn r => exact .moves (.stays trivial)

/-! ## What a step does to the table -/

theorem Step.grows (h : Step s w q q' t) : w.store.Grows t := by
  cases h with
  | moves => exact SessionTable.Grows.refl w.store
  | stored _ h => exact SessionTable.grows_of_insert h
  | blocked => exact SessionTable.grows_block _ w.store

theorem Step.nodup (h : Step s w q q' t) (hkeys : (w.store.rows.map SessionRow.id).Nodup) :
    (t.rows.map SessionRow.id).Nodup := by
  cases h with
  | moves => exact hkeys
  | stored _ h => exact SessionTable.nodup_of_insert h hkeys
  | blocked => rwa [SessionTable.ids_block]

/-! ## What an answer says was done -/

/-- The login that a step completed, if it did. -/
def opened? (before after : Progress) : Option Login :=
  match before, after with
  | storing .., loggedIn (.ok l) => some l
  | _, _ => none

/-- The identifier of the session that a step blocked, if it did. -/
def closed? (before after : Progress) : Option TokenId :=
  match before, after with
  | blocking _ _ session, revoked (.ok ()) => some session.id
  | _, _ => none

theorem blocking_of_closed? {id : TokenId} (h : q.closed? q' = some id) :
    ∃ token p session, q = blocking token p session ∧ id = session.id := by
  unfold closed? at h
  split at h
  · cases h
    exact ⟨_, _, _, rfl, rfl⟩
  · cases h

theorem opened?_of_failed (h : q'.Failed) : q.opened? q' = none := by
  cases q' with
  | loggedIn r =>
    cases r with
    | error e => cases q <;> rfl
    | ok l => exact absurd h id
  | _ => cases q <;> rfl

theorem closed?_of_failed (h : q'.Failed) : q.closed? q' = none := by
  cases q' with
  | revoked r =>
    cases r with
    | error e => cases q <;> rfl
    | ok => exact absurd h id
  | _ => cases q <;> rfl

namespace Moves

theorem opened?_eq (h : Moves s w q q') : q.opened? q' = none := by
  cases h with
  | stays => cases q <;> rfl
  | fails _ h => exact opened?_of_failed h
  | _ => rfl

theorem closed?_eq (h : Moves s w q q') : q.closed? q' = none := by
  cases h with
  | stays => cases q <;> rfl
  | fails _ h => exact closed?_of_failed h
  | _ => rfl

theorem loggedIn_iff (h : Moves s w q q') {l : Login} : q' = loggedIn (.ok l) ↔ q = loggedIn (.ok l) := by
  cases h with
  | stays => exact Iff.rfl
  | fails hq h =>
    refine iff_of_false ?_ ?_
    · rintro rfl
      exact h
    · rintro rfl
      exact hq trivial
  | _ => simp

theorem revoked_iff (h : Moves s w q q') : q' = revoked (.ok ()) ↔ q = revoked (.ok ()) := by
  cases h with
  | stays => exact Iff.rfl
  | fails hq h =>
    refine iff_of_false ?_ ?_
    · rintro rfl
      exact h
    · rintro rfl
      exact hq trivial
  | _ => simp

end Moves

/-- A login has succeeded if it had before, or its session was stored by this step. -/
theorem Step.loggedIn_iff (h : Step s w q q' t) {l : Login} :
    q' = loggedIn (.ok l) ↔ q = loggedIn (.ok l) ∨ q.opened? q' = some l := by
  cases h with
  | moves h => simp [h.loggedIn_iff, h.opened?_eq]
  | stored => simp [opened?]
  | blocked => simp [opened?]

/-- A revocation has succeeded if it had before, or its session was blocked by this step. -/
theorem Step.revoked_iff (h : Step s w q q' t) :
    q' = revoked (.ok ()) ↔ q = revoked (.ok ()) ∨ ∃ id, q.closed? q' = some id := by
  cases h with
  | moves h => simp [h.revoked_iff, h.closed?_eq]
  | stored => simp [closed?]
  | blocked => simp [closed?]

end Http.Progress

end SessionTokens
