import Mathlib.Data.List.Induction
import SessionTokens.Proofs.Http.Flight

/-!
# All interleavings

Between two steps of a request anything may happen to the table, but no row is lost, no row changes whose it is, and
none is unblocked. That makes it safe to decide by what was looked up earlier, and leaves the table with exactly the
rows that the answers tell of (`safe_interleaved`).
-/

namespace SessionTokens.Http

open Time (Instant)

/-! ## What a request went through -/

/-- What was presented is a refresh token with the payload. -/
def Shows (s : Server) (text token : String) (p : Payload) : Prop :=
  requireRefresh text = .ok token ∧ Token.payload s.service.key token = .ok p

/-- The login of a subject: the tokens were issued at the first step, and the session, which is theirs, was stored at
the second one. -/
structure Made (t : TokenService) (subject : String) (client : Client) (first second : Tick) (l : Login) : Prop where
  named : subject ≠ ""
  access : Token.IssuedAs t.key subject t.lifetimes.access first.moment l.tokens.access
  refresh : Token.IssuedAs t.key subject t.lifetimes.refresh first.moment l.tokens.refresh
  session : l = l.tokens.login client (second.moment.afterMillis second.latency)

/-- The steps of one request. -/
def stepsOf (i : Nat) (ticks : List Tick) : List Tick :=
  ticks.filter fun k => k.request = i

theorem stepsOf_own {i : Nat} {k : Tick} (h : k.request = i) (ticks : List Tick) :
    stepsOf i (ticks ++ [k]) = stepsOf i ticks ++ [k] := by
  simp [stepsOf, h]

theorem stepsOf_other {i : Nat} {k : Tick} (h : k.request ≠ i) (ticks : List Tick) :
    stepsOf i (ticks ++ [k]) = stepsOf i ticks := by
  simp [stepsOf, h]

theorem isPrefix_stepsOf (i : Nat) (k : Tick) (ticks : List Tick) : stepsOf i ticks <+: stepsOf i (ticks ++ [k]) := by
  rw [stepsOf, stepsOf, List.filter_append]
  exact List.prefix_append _ _

namespace System

/-- At one of its steps a renewal looked its session up, and found it. -/
def FoundAt (s : Server) (y : System) (ticks : List Tick) (i : Nat) (c : CallContext) (token : String) (p : Payload)
    (session : Session) : Prop :=
  ∃ earlier k later, ticks = earlier ++ k :: later ∧ k.request = i ∧
    (y.run s earlier).requests i = .renewing c token p ∧ (y.run s earlier).world.store.find p.id = .ok session

/-- What a request went through that has come so far. -/
inductive Course (s : Server) (y : System) (ticks : List Tick) (i : Nat) : Errand → Progress → Prop
  | asked {e : Errand} (h : stepsOf i ticks = []) : Course s y ticks i e (.asked e)
  | renewing {c : CallContext} {token : String} {p : Payload} (hp : Token.payload s.service.key token = .ok p) :
    Course s y ticks i (.renew c token) (.renewing c token p)
  | admitting {c : CallContext} {token : String} {p : Payload} {session : Session}
    (hp : Token.payload s.service.key token = .ok p) (h : FoundAt s y ticks i c token p session) :
    Course s y ticks i (.renew c token) (.admitting token p session)
  | renewed {c : CallContext} {token : String} {p : Payload} {session : Session} {a : IssuedToken}
    (hp : Token.payload s.service.key token = .ok p) (h : FoundAt s y ticks i c token p session)
    (hopen : session.isBlocked = false) : Course s y ticks i (.renew c token) (.renewed (.ok a))
  | revoking {text token : String} {p : Payload} (hp : Shows s text token p) :
    Course s y ticks i (.revoke text) (.revoking token p)
  | checking {text token : String} {p : Payload} {session : Session} (hp : Shows s text token p)
    (hid : session.id = p.id) : Course s y ticks i (.revoke text) (.checking token p session)
  | blocking {text token : String} {p : Payload} {session : Session} (hp : Shows s text token p)
    (hid : session.id = p.id) (hsubject : session.subject = p.subject) (hrefresh : session.refreshToken = token) :
    Course s y ticks i (.revoke text) (.blocking token p session)
  | revoked {text : String} : Course s y ticks i (.revoke text) (.revoked (.ok ()))
  | storing {c : CallContext} {subject : String} {client : Client} {tokens : TokenPair} {first : Tick}
    (h : stepsOf i ticks = [first]) (hsubject : subject ≠ "")
    (haccess : Token.IssuedAs s.service.key subject s.service.lifetimes.access first.moment tokens.access)
    (hrefresh : Token.IssuedAs s.service.key subject s.service.lifetimes.refresh first.moment tokens.refresh) :
    Course s y ticks i (.login c subject client) (.storing c tokens client)
  | loggedIn {c : CallContext} {subject : String} {client : Client} {first second : Tick} {l : Login}
    (h : [first, second] <+: stepsOf i ticks) (hl : Made s.service subject client first second l) :
    Course s y ticks i (.login c subject client) (.loggedIn (.ok l))
  | failed {e : Errand} {q : Progress} (h : q.Failed) : Course s y ticks i e q

variable {s : Server} {y : System} {ticks : List Tick} {k : Tick} {i : Nat}

theorem FoundAt.snoc {c : CallContext} {token : String} {p : Payload} {session : Session}
    (h : FoundAt s y ticks i c token p session) (k : Tick) : FoundAt s y (ticks ++ [k]) i c token p session := by
  obtain ⟨earlier, j, later, hticks, hrest⟩ := h
  refine ⟨earlier, j, later ++ [k], ?_, hrest⟩
  rw [hticks, List.append_assoc, List.cons_append]

namespace Course

variable {e : Errand} {q q' : Progress}

/-- A step of another request, or after the end of this one, leaves it where it is. -/
theorem stays (h : Course s y ticks i e q) (hk : k.request = i → q.Over) : Course s y (ticks ++ [k]) i e q := by
  -- a request that is not over has not taken this step
  have hown (hq : ¬q.Over) : stepsOf i (ticks ++ [k]) = stepsOf i ticks := stepsOf_other (fun hi => hq (hk hi)) ticks
  cases h with
  | asked h => exact .asked ((hown id).trans h)
  | renewing hp => exact .renewing hp
  | admitting hp h => exact .admitting hp (h.snoc k)
  | renewed hp h hopen => exact .renewed hp (h.snoc k) hopen
  | revoking hp => exact .revoking hp
  | checking hp hid => exact .checking hp hid
  | blocking hp hid hsubject hrefresh => exact .blocking hp hid hsubject hrefresh
  | revoked => exact .revoked
  | storing h hsubject haccess hrefresh => exact .storing ((hown id).trans h) hsubject haccess hrefresh
  | loggedIn h hl => exact .loggedIn (h.trans (isPrefix_stepsOf i k ticks)) hl
  | failed h => exact .failed h

/-- The next step of the request. -/
theorem moves (h : Course s y ticks i e q) (hi : k.request = i) (hq : (y.run s ticks).requests i = q)
    (hmoves : Progress.Moves s ((y.run s ticks).worldAt k) q q') : Course s y (ticks ++ [k]) i e q' := by
  cases hmoves with
  | stays hover => exact h.stays fun _ => hover
  | fails _ hfailed => exact .failed hfailed
  | verified hp =>
    cases h with
    | asked => exact .renewing hp
    | failed h => exact absurd h id
  | found hfind =>
    cases h with
    | renewing hp => exact .admitting hp ⟨ticks, k, [], rfl, hi, hq, hfind⟩
    | failed h => exact absurd h id
  | admitted hopen =>
    cases h with
    | admitting hp h => exact .renewed hp (h.snoc k) hopen
    | failed h => exact absurd h id
  | presented htoken hp =>
    cases h with
    | asked => exact .revoking ⟨htoken, hp⟩
    | failed h => exact absurd h id
  | claimed hfind =>
    cases h with
    | revoking hp => exact .checking hp (SessionTable.id_of_find hfind)
    | failed h => exact absurd h id
  | owned hsubject hrefresh =>
    cases h with
    | checking hp hid => exact .blocking hp hid hsubject hrefresh
    | failed h => exact absurd h id
  | issued hsubject haccess hrefresh =>
    cases h with
    | asked h =>
      have hsteps : stepsOf i (ticks ++ [k]) = [k] := by rw [stepsOf_own hi, h, List.nil_append]
      exact .storing hsteps hsubject haccess hrefresh
    | failed h => exact absurd h id

theorem step {t : SessionTable} (h : Course s y ticks i e q) (hi : k.request = i)
    (hq : (y.run s ticks).requests i = q) (hstep : Progress.Step s ((y.run s ticks).worldAt k) q q' t) :
    Course s y (ticks ++ [k]) i e q' := by
  cases hstep with
  | moves hmoves => exact h.moves hi hq hmoves
  | stored hl hinsert =>
    cases h with
    | @storing c subject client tokens first h hsubject haccess hrefresh =>
      subst hl
      have hsteps : stepsOf i (ticks ++ [k]) = [first, k] := by rw [stepsOf_own hi, h, List.singleton_append]
      exact .loggedIn (hsteps ▸ List.prefix_refl _) ⟨hsubject, haccess, hrefresh, rfl⟩
    | failed h => exact absurd h id
  | blocked hr =>
    cases h with
    | blocking => exact .revoked
    | failed h => exact absurd h id

/-- A renewal that succeeded had found a session that was not blocked. -/
theorem of_renewed {a : IssuedToken} (h : Course s y ticks i e (.renewed (.ok a))) :
    ∃ c token p session, e = .renew c token ∧ Token.payload s.service.key token = .ok p ∧
      FoundAt s y ticks i c token p session ∧ session.isBlocked = false := by
  cases h with
  | renewed hp h hopen => exact ⟨_, _, _, _, rfl, hp, h, hopen⟩
  | failed h => exact absurd h id

/-- A revocation that is about to block a session was asked for by its owner. -/
theorem of_blocking {token : String} {p : Payload} {session : Session}
    (h : Course s y ticks i e (.blocking token p session)) :
    ∃ text, e = .revoke text ∧ Shows s text token p ∧ session.id = p.id ∧ session.subject = p.subject ∧
      session.refreshToken = token := by
  cases h with
  | blocking hp hid hsubject hrefresh => exact ⟨_, rfl, hp, hid, hsubject, hrefresh⟩
  | failed h => exact absurd h id

/-- A login that succeeded was made by its first two steps. -/
theorem of_loggedIn {l : Login} (h : Course s y ticks i e (.loggedIn (.ok l))) :
    ∃ c subject client first second, e = .login c subject client ∧ [first, second] <+: stepsOf i ticks ∧
      Made s.service subject client first second l := by
  cases h with
  | loggedIn h hl => exact ⟨_, _, _, _, _, rfl, h, hl⟩
  | failed h => exact absurd h id

end Course

/-- **Every request went through what brings it to where it is.** -/
theorem course_run (s : Server) (errands : Nat → Errand) (w : World SessionTable) (ticks : List Tick) (i : Nat) :
    Course s (start errands w) ticks i (errands i) (((start errands w).run s ticks).requests i) := by
  -- on the last step: it is one of the request itself, or leaves it where it is
  induction ticks using List.reverseRecOn with
  | nil => exact .asked rfl
  | append_singleton ticks k ih =>
    rw [run_snoc]
    by_cases hi : k.request = i
    · subst hi
      exact ih.step rfl rfl (step_tick s k _)
    · rw [requests_tick_other (Ne.symm hi)]
      exact ih.stays fun h => absurd h hi

theorem course_of_eq {errands : Nat → Errand} {w : World SessionTable} {q : Progress}
    (h : ((start errands w).run s ticks).requests i = q) : Course s (start errands w) ticks i (errands i) q :=
  h ▸ course_run s errands w ticks i

/-- Whoever revoked a session had presented a refresh token with its identifier. -/
theorem shows_of_revocation {errands : Nat → Errand} {w : World SessionTable} {id : TokenId}
    (h : (i, id) ∈ ((start errands w).run s ticks).revocations) :
    ∃ text token p, errands i = .revoke text ∧ Shows s text token p ∧ p.id = id := by
  induction ticks using List.reverseRecOn with
  | nil => exact absurd h List.not_mem_nil
  | append_singleton ticks k ih =>
    rw [run_snoc, revocations_tick, List.mem_append, mem_toList_iff] at h
    rcases h with h | ⟨rfl, hclosed⟩
    · exact ih h
    · obtain ⟨token, p, session, hbefore, rfl⟩ := Progress.blocking_of_closed? hclosed
      obtain ⟨text, herrand, hp, hid, -⟩ := (course_of_eq hbefore).of_blocking
      exact ⟨text, token, p, herrand, hp, hid.symm⟩

end System

/-! ## What a revocation knows of its session -/

namespace Progress

/-- What a revocation found out about its session is what the table says. -/
def Grounded (t : SessionTable) : Progress → Prop
  | checking _ _ session | blocking _ _ session => t.Holds session
  | _ => True

variable {s : Server} {w : World SessionTable} {q q' : Progress} {t t' : SessionTable}

theorem Grounded.mono (h : t.Grows t') (hq : q.Grounded t) : q.Grounded t' := by
  cases q with
  | checking token p session => exact h.holds hq
  | blocking token p session => exact h.holds hq
  | _ => trivial

theorem Failed.grounded (h : q.Failed) : q.Grounded t := by
  cases q with
  | checking token p session => exact absurd h id
  | blocking token p session => exact absurd h id
  | _ => trivial

theorem Step.grounded (h : Step s w q q' t) (hq : q.Grounded w.store) : q'.Grounded t := by
  refine Grounded.mono h.grows ?_
  cases h with
  | moves hmoves =>
    cases hmoves with
    | stays => exact hq
    | fails _ hfailed => exact hfailed.grounded
    | claimed hfind => exact SessionTable.holds_of_find hfind
    | owned => exact hq
    | _ => trivial
  | _ => trivial

/-! ## Renewals of blocked sessions -/

/-- The renewal was refused, or the session that it found is blocked. -/
def Refused : Progress → Prop
  | renewed (.error _) => True
  | admitting _ _ session => session.isBlocked = true
  | _ => False

theorem refused_advance (h : q.Refused) : (q.advance s w).1.Refused := by
  cases q with
  | renewed r =>
    cases r with
    | error e => trivial
    | ok a => exact absurd h id
  | admitting token p session =>
    have hrejects : session.Rejects p token w.now := Or.inl h
    rw [advance_admitting_of_rejected s w (Session.rejects_iff.mp hrejects)]
    trivial
  | _ => exact absurd h id

/-- A renewal that looks a blocked session up is refused. -/
theorem refused_of_blocks {c : CallContext} {token : String} {p : Payload} (h : w.store.Blocks p.id) :
    ((renewing c token p).advance s w).1.Refused := by
  rw [advance_renewing]
  match hfound : (w.findUnder c p.id).1 with
  | .error why => trivial
  | .ok (.error e) => trivial
  | .ok (.ok session) => exact h.isBlocked (World.findUnder_eq_ok (Prod.ext hfound rfl)).1

end Progress

namespace System

variable {s : Server} {y : System} {ticks : List Tick} {i : Nat}

theorem grounded_run (s : Server) (errands : Nat → Errand) (w : World SessionTable) (ticks : List Tick) (i : Nat) :
    (((start errands w).run s ticks).requests i).Grounded ((start errands w).run s ticks).world.store := by
  refine run_induction (y := start errands w) (fun y => ∀ i, (y.requests i).Grounded y.world.store)
    (fun k y h i => ?_) ticks (fun _ => trivial) i
  by_cases hi : i = k.request
  · subst hi
    exact (step_tick s k y).grounded (h k.request)
  · rw [requests_tick_other hi]
    exact (h i).mono (grows_tick s k y)

/-- The step that blocks a session of which there is a row. -/
theorem tick_of_blocking {k : Tick} {token : String} {p : Payload} {session : Session} {r : SessionRow}
    (h : y.requests k.request = .blocking token p session) (hr : y.world.store.row? session.id.toText = some r) :
    (y.tick s k).requests k.request = .revoked (.ok ()) ∧
      (y.tick s k).world.store.row? session.id.toText = some r.block := by
  have hnext : (y.requests k.request).advance s (y.worldAt k)
      = (.revoked (((y.worldAt k).block session.id).1.mapError .store), ((y.worldAt k).block session.id).2) := by
    rw [h, Progress.advance_blocking]
  have hanswer : ((y.worldAt k).block session.id).1 = .ok () := congrArg Prod.fst (SessionTable.block_of_some hr)
  constructor
  · rw [requests_tick_own, hnext, hanswer]
    rfl
  · have hworld : (y.tick s k).world.store = (y.world.store.block session.id).2 :=
      congrArg (fun next => next.2.store) hnext
    rw [hworld, SessionTable.row?_block hr hr, if_pos (SessionTable.row?_spec hr).2]

theorem refused_run (h : (y.requests i).Refused) : ((y.run s ticks).requests i).Refused := by
  refine run_induction (fun y => (y.requests i).Refused) (fun k y h => ?_) ticks h
  by_cases hi : i = k.request
  · subst hi
    rw [requests_tick_own]
    exact Progress.refused_advance h
  · rwa [requests_tick_other hi]

/-! ## All interleavings -/

/-- What was decided by a look-up is right when it is acted upon, and the table has what the answers tell of. -/
structure Safe (s : Server) (errands : Nat → Errand) (y : System) (ticks : List Tick) : Prop where
  /-- Whoever got a new token had found the session of the token that was presented, and it was not blocked. -/
  renewed : ∀ i a, (y.run s ticks).requests i = .renewed (.ok a) →
    ∃ c token p session, errands i = .renew c token ∧ Token.payload s.service.key token = .ok p ∧
      FoundAt s y ticks i c token p session ∧ session.isBlocked = false
  /-- A renewal that looks its session up after a revocation of it is refused. -/
  refused : ∀ earlier k later c token p j, ticks = earlier ++ k :: later →
    (y.run s earlier).requests k.request = .renewing c token p → (j, p.id) ∈ (y.run s earlier).revocations →
    ((y.run s ticks).requests k.request).Refused
  /-- Whoever owns a session blocks it, and it is the one that was checked. -/
  revoked : ∀ earlier k later token p session, ticks = earlier ++ k :: later →
    (y.run s earlier).requests k.request = .blocking token p session →
    (∃ text, errands k.request = .revoke text ∧ Shows s text token p) ∧
      ((y.run s earlier).tick s k).requests k.request = .revoked (.ok ()) ∧
      ∃ r, (y.run s earlier).world.store.row? p.id.toText = some r ∧
        ((y.run s earlier).tick s k).world.store.row? p.id.toText = some r.block ∧
        r.subject = p.subject ∧ r.refreshToken = token
  /-- The logins and the revocations that were completed are those that were answered so. -/
  logged : (y.run s ticks).Logged
  /-- The session of a login has the fields with which it was created. -/
  made : ∀ i l, (i, l) ∈ (y.run s ticks).logins → ∃ c subject client first second,
    errands i = .login c subject client ∧ [first, second] <+: stepsOf i ticks ∧
      Made s.service subject client first second l
  /-- Whoever revoked a session had presented a refresh token with its identifier. -/
  shown : ∀ i id, (i, id) ∈ (y.run s ticks).revocations →
    ∃ text token p, errands i = .revoke text ∧ Shows s text token p ∧ p.id = id
  /-- The identifiers are those of before and those of all logins, in the order in which these were completed. -/
  ids : (y.run s ticks).world.store.rows.map SessionRow.id
    = y.world.store.rows.map SessionRow.id ++ (y.run s ticks).logins.map fun e => e.2.session.id.toText
  /-- So are the rows, and nothing in them has changed but that those of revoked sessions are blocked. -/
  rows : (y.run s ticks).world.store.rows = (entered y.world.store.rows (y.run s ticks).logins).map
    (SessionRow.marked ((y.run s ticks).revocations.map Prod.snd))
  /-- The session of a login is found as it was stored, or blocked if it was revoked. -/
  found : ∀ i l, (i, l) ∈ (y.run s ticks).logins → l.session.Legible →
    (y.run s ticks).world.store.find l.session.id
      = .ok (if l.session.id ∈ (y.run s ticks).revocations.map Prod.snd then l.session.block else l.session)
  /-- A session is blocked if it was at first, or was revoked. -/
  blocked : ∀ id, (y.run s ticks).world.store.Blocks id ↔
    y.world.store.Blocks id ∨ ∃ i, (i, id) ∈ (y.run s ticks).revocations
  /-- No two rows have one key, if none had. -/
  keys : (y.world.store.rows.map SessionRow.id).Nodup →
    ((y.run s ticks).world.store.rows.map SessionRow.id).Nodup

/-- **Requests may be interleaved in any way.** Whatever is asked for, over whatever table, and in whatever order and at
whatever moments the requests take their steps, which without a break are the whole requests: a renewal succeeds only if
the session of its token was not blocked when it was looked up, and not if it was revoked before; a revocation whose
owner was checked blocks that very session; and at the end the table has the rows that it had and one for each login
that was answered, with the fields that the login asked for and issued, blocked where it was blocked before or its
revocation was answered. -/
theorem safe_interleaved (s : Server) (errands : Nat → Errand) (w : World SessionTable) (ticks : List Tick) :
    Safe s errands (start errands w) ticks ∧
      ∀ e (v : World SessionTable), Progress.proceed s 4 (.asked e) v = e.perform s v := by
  refine ⟨?_, proceed_asked s⟩
  have hkept := kept_run s errands w
  have hlogged := logged_run s errands w ticks
  have hmade (i : Nat) (l : Login) (hl : (i, l) ∈ ((start errands w).run s ticks).logins) :=
    (course_of_eq ((hlogged.logins i l).mp hl)).of_loggedIn
  refine ⟨fun i a h => (course_of_eq h).of_renewed, ?refused, ?revoked, hlogged, hmade,
    fun i id => shows_of_revocation, ?ids, (hkept ticks).rows, ?found, ?blocked, nodup_run s errands w ticks⟩
  case refused =>
    rintro earlier k later c token p j rfl hrequest hrevoked
    -- the row is blocked since, so the session that is found is
    rw [run_append]
    refine refused_run (y := ((start errands w).run s earlier).tick s k) ?_
    rw [requests_tick_own, hrequest]
    exact Progress.refused_of_blocks ((hkept earlier).revoked p.id (List.mem_map.mpr ⟨_, hrevoked, rfl⟩))
  case revoked =>
    intro earlier k later token p session _ hrequest
    -- whatever happened since the check, the table still has the row that was checked
    obtain ⟨r, hr, hrsubject, hrrefresh⟩ : ((start errands w).run s earlier).world.store.Holds session := by
      have hgrounded := grounded_run s errands w earlier k.request
      rwa [hrequest] at hgrounded
    obtain ⟨text, herrand, hp, hid, hsubject, hrefresh⟩ := (course_of_eq hrequest).of_blocking
    obtain ⟨hanswer, hblock⟩ := tick_of_blocking (s := s) hrequest hr
    exact ⟨⟨text, herrand, hp⟩, hanswer, r, hid ▸ hr, hid ▸ hblock, hrsubject.trans hsubject,
      hrrefresh.trans hrefresh⟩
  case ids =>
    rw [(hkept ticks).rows, List.map_map, entered]
    simp [Function.comp_def, Login.row, start]
  case found =>
    intro i l hl hlegible
    obtain ⟨_, _, _, _, _, _, _, hl'⟩ := hmade i l hl
    have hopen : l.session.isBlocked = false := by rw [hl'.session]; rfl
    exact (hkept ticks).find_login hl hopen hlegible
  case blocked =>
    intro id
    rw [(hkept ticks).blocks_iff, List.mem_map]
    simp [start]

end System

end SessionTokens.Http
