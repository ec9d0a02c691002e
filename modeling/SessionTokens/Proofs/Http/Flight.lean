import SessionTokens.Proofs.Http.Moves

/-!
# Requests in flight

Any number of renewals, revocations and logins are in flight over one table, and take their steps in any order. Their
answers tell which logins and which revocations were completed (`logged_run`), and the table has what these make of it
(`kept_run`).
-/

namespace SessionTokens.Http

open Time (Instant)

/-! ## Interleaved steps -/

/-- The next step of one of the requests: the moment, and what its call to the store will meet with. -/
structure Tick where
  request : Nat
  moment : Instant
  /-- The milliseconds that a look-up or an insertion will take. -/
  latency : Nat := 0
  /-- The message with which a look-up or an insertion will fail, if it will. -/
  outage? : Option String := none

/-- Requests in flight, with the logins and the revocations that were completed, in the order in which they were. -/
structure System where
  world : World SessionTable
  requests : Nat → Progress
  logins : List (Nat × Login) := []
  /-- The revocations, each with the identifier of the session. -/
  revocations : List (Nat × TokenId) := []

namespace System

/-- Requests of which none has begun. -/
def start (errands : Nat → Errand) (w : World SessionTable) : System where
  world := w
  requests i := .asked (errands i)

/-- What a step of a request acts on. -/
def worldAt (y : System) (k : Tick) : World SessionTable :=
  { y.world with now := k.moment, latency := k.latency, outage? := k.outage? }

/-- Takes one step of one request. -/
def tick (s : Server) (k : Tick) (y : System) : System :=
  let before := y.requests k.request
  let next := before.advance s (y.worldAt k)
  { world := next.2
    requests := fun i => if i = k.request then next.1 else y.requests i
    logins := y.logins ++ ((before.opened? next.1).map (k.request, ·)).toList
    revocations := y.revocations ++ ((before.closed? next.1).map (k.request, ·)).toList }

def run (s : Server) : List Tick → System → System
  | [], y => y
  | k :: r, y => run s r (y.tick s k)

theorem run_append (s : Server) (a b : List Tick) (y : System) :
    y.run s (a ++ b) = (y.run s a).run s b := by
  induction a generalizing y with
  | nil => rfl
  | cons k r ih => exact ih (y.tick s k)

theorem run_snoc (s : Server) (ticks : List Tick) (k : Tick) (y : System) :
    y.run s (ticks ++ [k]) = (y.run s ticks).tick s k :=
  run_append s ticks [k] y

/-- What every step keeps holds after all of them. -/
theorem run_induction {s : Server} (P : System → Prop) (hstep : ∀ k y, P y → P (y.tick s k))
    (ticks : List Tick) {y : System} (h : P y) : P (y.run s ticks) := by
  induction ticks generalizing y with
  | nil => exact h
  | cons k r ih => exact ih (hstep k y h)

section

variable {s : Server} {y : System} {k : Tick}

theorem requests_tick_own : (y.tick s k).requests k.request
    = ((y.requests k.request).advance s (y.worldAt k)).1 :=
  if_pos rfl

theorem requests_tick_other {i : Nat} (h : i ≠ k.request) : (y.tick s k).requests i = y.requests i :=
  if_neg h

/-- What a step makes of its request and of the table. -/
theorem step_tick (s : Server) (k : Tick) (y : System) :
    Progress.Step s (y.worldAt k) (y.requests k.request) ((y.tick s k).requests k.request)
      (y.tick s k).world.store := by
  rw [requests_tick_own]
  exact Progress.step_advance s (y.requests k.request) (y.worldAt k)

theorem logins_tick : (y.tick s k).logins = y.logins
    ++ (((y.requests k.request).opened? ((y.tick s k).requests k.request)).map (k.request, ·)).toList := by
  rw [requests_tick_own]
  rfl

theorem revocations_tick : (y.tick s k).revocations = y.revocations
    ++ (((y.requests k.request).closed? ((y.tick s k).requests k.request)).map (k.request, ·)).toList := by
  rw [requests_tick_own]
  rfl

theorem grows_tick (s : Server) (k : Tick) (y : System) : y.world.store.Grows (y.tick s k).world.store :=
  (step_tick s k y).grows

end

end System

/-! ## What the table keeps -/

/-- The rows of before and those of the logins, as they were entered. -/
def entered (initial : List SessionRow) (logins : List (Nat × Login)) : List SessionRow :=
  initial ++ logins.map fun e => e.2.row

/-- The table has the rows that were entered, and those of revoked sessions are blocked. -/
structure Kept (initial : List SessionRow) (t : SessionTable) (logins : List (Nat × Login))
    (revocations : List (Nat × TokenId)) : Prop where
  rows : t.rows = (entered initial logins).map (SessionRow.marked (revocations.map Prod.snd))
  revoked : ∀ id ∈ revocations.map Prod.snd, t.Blocks id
  /-- The row of a login is the one behind its key. -/
  recorded : ∀ e ∈ logins, SessionTable.row? ⟨entered initial logins⟩ e.2.session.id.toText = some e.2.row

theorem entered_snoc (initial : List SessionRow) (logins : List (Nat × Login)) (e : Nat × Login) :
    entered initial (logins ++ [e]) = entered initial logins ++ [e.2.row] := by
  rw [entered, List.map_append, List.map_singleton, ← List.append_assoc, entered]

namespace Kept

variable {initial : List SessionRow} {t t' : SessionTable} {logins : List (Nat × Login)}
  {revocations : List (Nat × TokenId)}

theorem start (t : SessionTable) : Kept t.rows t [] [] := by
  refine ⟨?_, fun id hid => absurd hid List.not_mem_nil, fun e he => absurd he List.not_mem_nil⟩
  show t.rows = (t.rows ++ []).map (SessionRow.marked [])
  rw [List.append_nil, show SessionRow.marked [] = id from funext SessionRow.marked_nil, List.map_id]

/-- A session that is stored is entered under a key that was free. -/
theorem login (h : Kept initial t logins revocations) (i : Nat) {tokens : TokenPair} {client : Client}
    {now : Instant} (hinsert : t.insert (.ofRefreshToken tokens.refresh.text tokens.refresh.payload client) now
      = (.ok (tokens.login client now).session, t')) :
    Kept initial t' (logins ++ [(i, tokens.login client now)]) revocations := by
  have hrows := SessionTable.rows_insert h.rows h.revoked hinsert
  obtain ⟨hfree, -, -⟩ := SessionTable.insert_eq_ok hinsert
  rw [SessionTable.row?_of_marked h.rows, Option.map_eq_none_iff] at hfree
  refine ⟨?_, fun id hid => (SessionTable.grows_of_insert hinsert).blocks (h.revoked id hid), ?_⟩
  · rw [entered_snoc]
    exact hrows
  · intro e he
    rw [entered_snoc, SessionTable.row?_append]
    rcases List.mem_append.mp he with he | he
    · rw [h.recorded e he, Option.some_or]
    · rw [List.mem_singleton.mp he]
      have hkey : (tokens.login client now).session.id.toText
          = (NewSession.ofRefreshToken tokens.refresh.text tokens.refresh.payload client).id.toText := rfl
      rw [hkey, hfree, Option.none_or]
      simp [SessionTable.row?, Login.row, hkey]

theorem revocation (h : Kept initial t logins revocations) (i : Nat) {id : TokenId} {r : SessionRow}
    (hr : t.row? id.toText = some r) : Kept initial (t.block id).2 logins (revocations ++ [(i, id)]) := by
  refine ⟨?_, ?_, h.recorded⟩
  · rw [List.map_append]
    exact SessionTable.rows_block h.rows hr
  · intro id' hid'
    rw [List.map_append] at hid'
    rcases List.mem_append.mp hid' with hid' | hid'
    · exact (SessionTable.grows_block id t).blocks (h.revoked id' hid')
    · rw [List.mem_singleton.mp hid']
      exact SessionTable.blocks_block hr

/-- **One step keeps the table**, whether it stores a session, blocks one, or neither. -/
theorem step {s : Server} {w : World SessionTable} {q q' : Progress} (h : Kept initial w.store logins revocations)
    (hstep : Progress.Step s w q q' t) (i : Nat) :
    Kept initial t (logins ++ ((q.opened? q').map (i, ·)).toList)
      (revocations ++ ((q.closed? q').map (i, ·)).toList) := by
  cases hstep with
  | moves hmoves =>
    rw [hmoves.opened?_eq, hmoves.closed?_eq]
    simpa using h
  | stored hl hinsert =>
    subst hl
    simpa [Progress.opened?, Progress.closed?] using h.login i hinsert
  | blocked hr => simpa [Progress.opened?, Progress.closed?] using h.revocation i hr

/-- A session is blocked if it was at first, or was revoked. -/
theorem blocks_iff (h : Kept initial t logins revocations) {id : TokenId} :
    t.Blocks id ↔ SessionTable.Blocks ⟨initial⟩ id ∨ id ∈ revocations.map Prod.snd := by
  constructor
  · rintro ⟨r, hr, hblocked⟩
    rw [SessionTable.row?_of_marked h.rows] at hr
    obtain ⟨r₀, hr₀, rfl⟩ := Option.map_eq_some_iff.mp hr
    have hkey : r₀.id = id.toText := (SessionTable.row?_spec hr₀).2
    rcases SessionRow.isBlocked_marked.mp hblocked with hblocked | hrevoked
    · rw [entered, SessionTable.row?_append] at hr₀
      rcases Option.or_eq_some_iff.mp hr₀ with hinitial | ⟨-, hlogin⟩
      · exact Or.inl ⟨r₀, hinitial, hblocked⟩
      · -- no login enters a row that is blocked
        obtain ⟨e, -, rfl⟩ := List.mem_map.mp (SessionTable.row?_spec hlogin).1
        exact absurd rfl hblocked
    · obtain ⟨id', hid', htext⟩ := List.mem_map.mp hrevoked
      rw [hkey] at htext
      exact Or.inr (TokenId.toText_inj htext ▸ hid')
  · rintro (⟨r, hr, hblocked⟩ | hrevoked)
    · refine ⟨r.marked (revocations.map Prod.snd), ?_, SessionRow.isBlocked_marked.mpr (Or.inl hblocked)⟩
      rw [SessionTable.row?_of_marked h.rows, entered, SessionTable.row?_append, hr]
      rfl
    · exact h.revoked id hrevoked

/-- The session of a login is found as it was stored, or blocked if it was revoked. -/
theorem find_login (h : Kept initial t logins revocations) {i : Nat} {l : Login} (hl : (i, l) ∈ logins)
    (hopen : l.session.isBlocked = false) (hlegible : l.session.Legible) :
    t.find l.session.id
      = .ok (if l.session.id ∈ revocations.map Prod.snd then l.session.block else l.session) := by
  have hrow : l.row = SessionRow.ofSession l.session := by
    rw [SessionRow.ofSession, hopen]
    rfl
  have hmem : l.row.id ∈ (revocations.map Prod.snd).map TokenId.toText
      ↔ l.session.id ∈ revocations.map Prod.snd :=
    List.mem_map_of_injective fun _ _ => TokenId.toText_inj
  have hfound : t.row? l.session.id.toText = some (l.row.marked (revocations.map Prod.snd)) := by
    rw [SessionTable.row?_of_marked h.rows, h.recorded (i, l) hl, Option.map_some]
  refine SessionTable.find_eq_ok_iff.mpr ⟨_, hfound, SessionRow.toSession_eq_ok_iff.mp ?_⟩
  simp only [SessionRow.marked, hmem]
  split
  · have hblock : l.row.block = SessionRow.ofSession l.session.block := rfl
    rw [hblock]
    exact SessionRow.toSession_ofSession hlegible
  · rw [hrow]
    exact SessionRow.toSession_ofSession hlegible

end Kept

/-! ## What is logged -/

namespace System

variable {s : Server} {y : System} {k : Tick} {i : Nat}

/-- What was done is what the answers say. -/
structure Logged (y : System) : Prop where
  logins : ∀ i l, (i, l) ∈ y.logins ↔ y.requests i = .loggedIn (.ok l)
  /-- No request logs in twice. -/
  once : (y.logins.map Prod.fst).Nodup
  revocations : ∀ i, (∃ id, (i, id) ∈ y.revocations) ↔ y.requests i = .revoked (.ok ())

theorem logged_start (errands : Nat → Errand) (w : World SessionTable) : (start errands w).Logged where
  logins := fun i l => iff_of_false List.not_mem_nil (by simp [start])
  once := List.nodup_nil
  revocations := fun i => iff_of_false (fun ⟨_, h⟩ => absurd h List.not_mem_nil) (by simp [start])

/-- What a step adds to a log is said of its request. -/
theorem mem_toList_iff {α : Type} {o : Option α} {a : α} : (i, a) ∈ (o.map (k.request, ·)).toList ↔
    k.request = i ∧ o = some a := by
  rw [Option.mem_toList, Option.map_eq_some_iff]
  constructor
  · rintro ⟨b, hb, heq⟩
    cases heq
    exact ⟨rfl, hb⟩
  · rintro ⟨rfl, ha⟩
    exact ⟨a, ha, rfl⟩

theorem logged_tick (s : Server) (k : Tick) (y : System) (h : y.Logged) : (y.tick s k).Logged := by
  have hstep := step_tick s k y
  refine ⟨fun i l => ?logins, ?once, fun i => ?revocations⟩
  case logins =>
    rw [logins_tick, List.mem_append, mem_toList_iff, h.logins]
    by_cases hi : k.request = i
    · subst hi
      rw [hstep.loggedIn_iff, eq_self_iff_true, true_and]
    · rw [requests_tick_other (Ne.symm hi), or_iff_left fun hnew => hi hnew.1]
  case once =>
    rw [logins_tick, List.map_append]
    refine List.nodup_append.mpr ⟨h.once, ?_, fun i hi j hj hij => ?_⟩
    · cases (y.requests k.request).opened? _ with
      | none => exact List.nodup_nil
      | some l => exact List.nodup_singleton _
    · -- whoever logs in by this step had not done so before
      obtain ⟨⟨_, l⟩, hl, rfl⟩ := List.mem_map.mp hi
      obtain ⟨⟨_, l'⟩, hl', rfl⟩ := List.mem_map.mp hj
      obtain ⟨hown, hopened⟩ := mem_toList_iff.mp hl'
      obtain rfl : k.request = _ := hown.trans hij.symm
      rw [(h.logins _ l).mp hl] at hopened
      cases hopened
  case revocations =>
    simp only [revocations_tick, List.mem_append, mem_toList_iff, exists_or, h.revocations]
    by_cases hi : k.request = i
    · subst hi
      simp only [true_and, hstep.revoked_iff]
    · rw [requests_tick_other (Ne.symm hi), or_iff_left fun ⟨_, hnew⟩ => hi hnew.1]

theorem logged_run (s : Server) (errands : Nat → Errand) (w : World SessionTable) (ticks : List Tick) :
    ((start errands w).run s ticks).Logged :=
  run_induction Logged (logged_tick s) ticks (logged_start errands w)

theorem kept_run (s : Server) (errands : Nat → Errand) (w : World SessionTable) (ticks : List Tick) :
    let y := (start errands w).run s ticks
    Kept w.store.rows y.world.store y.logins y.revocations := by
  refine run_induction (fun y => Kept w.store.rows y.world.store y.logins y.revocations) (fun k y h => ?_) ticks
    (Kept.start w.store)
  rw [logins_tick, revocations_tick]
  have hworld : (y.worldAt k).store = y.world.store := rfl
  exact Kept.step (hworld ▸ h) (step_tick s k y) k.request

theorem nodup_run (s : Server) (errands : Nat → Errand) (w : World SessionTable) (ticks : List Tick)
    (h : (w.store.rows.map SessionRow.id).Nodup) :
    (((start errands w).run s ticks).world.store.rows.map SessionRow.id).Nodup :=
  run_induction (fun y => (y.world.store.rows.map SessionRow.id).Nodup)
    (fun k y h => (step_tick s k y).nodup h) ticks h

end System

end SessionTokens.Http
