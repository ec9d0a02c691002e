import Mathlib.Data.List.Nodup
import SessionTokens.Proofs.Time.Strict
import SessionTokens.Proofs.TokenId.Roundtrip
import SessionTokens.Store.Table

/-!
# What a table keeps

A session that was added is found again exactly if both its times are in years of four digits; the table
takes others too, but their rows cannot be read (`find_of_insert`). An insertion adds one row, a revocation
marks the row with its key, and neither touches anything else.
-/

namespace SessionTokens

open Time (Instant)

/-- The times of the session can be read in a row. -/
def Session.Legible (s : Session) : Prop :=
  s.expiresAt.FourDigitYear ∧ s.createdAt.FourDigitYear

instance (s : Session) : Decidable s.Legible :=
  inferInstanceAs (Decidable (_ ∧ _))

namespace SessionRow

/-! ## Rows -/

/-- The row as a revocation leaves it. -/
def block (r : SessionRow) : SessionRow :=
  { r with isBlocked := 1 }

@[simp] theorem id_block (r : SessionRow) : r.block.id = r.id := rfl

/-- The session is what the row says. -/
structure Spells (r : SessionRow) (s : Session) : Prop where
  id : TokenId.read r.id = .ok s.id
  expiresAt : Time.Strict.read r.expiresAt = .ok s.expiresAt
  createdAt : Time.Strict.read r.createdAt = .ok s.createdAt
  subject : s.subject = r.subject
  refreshToken : s.refreshToken = r.refreshToken
  userAgent : s.userAgent = r.userAgent
  clientIp : s.clientIp = r.clientIp
  isBlocked : s.isBlocked = decide (r.isBlocked ≠ 0)

theorem readId_eq_ok_iff {text : String} {id : TokenId} :
    readId text = .ok id ↔ TokenId.read text = .ok id := by
  unfold readId
  cases TokenId.read text <;> simp

theorem readTimestamp_eq_ok_iff {text : String} {t : Instant} :
    readTimestamp text = .ok t ↔ Time.Strict.read text = .ok t := by
  unfold readTimestamp
  cases Time.Strict.read text <;> simp

theorem toSession_eq_ok_iff {r : SessionRow} {s : Session} : r.toSession = .ok s ↔ r.Spells s := by
  unfold toSession
  constructor
  · intro h
    cases hid : readId r.id with
    | error fault => simp [hid, bind, Except.bind] at h
    | ok id =>
      cases hexpires : readTimestamp r.expiresAt with
      | error fault => simp [hid, hexpires, bind, Except.bind] at h
      | ok expiresAt =>
        cases hcreated : readTimestamp r.createdAt with
        | error fault => simp [hid, hexpires, hcreated, bind, Except.bind] at h
        | ok createdAt =>
          simp only [hid, hexpires, hcreated, bind, Except.bind, pure, Except.pure, Except.ok.injEq] at h
          subst h
          exact ⟨readId_eq_ok_iff.mp hid, readTimestamp_eq_ok_iff.mp hexpires,
            readTimestamp_eq_ok_iff.mp hcreated, rfl, rfl, rfl, rfl, rfl⟩
  · intro h
    rw [readId_eq_ok_iff.mpr h.id, readTimestamp_eq_ok_iff.mpr h.expiresAt,
      readTimestamp_eq_ok_iff.mpr h.createdAt]
    simp only [bind, Except.bind, pure, Except.pure, ← h.subject, ← h.refreshToken, ← h.userAgent,
      ← h.clientIp, ← h.isBlocked]

theorem readTimestamp_of_not {t : Instant} (h : ¬t.FourDigitYear) :
    readTimestamp t.toRowText = .error (.timestamp t.toRowText .invalid) := by
  rw [readTimestamp, Time.Strict.read_toRowText_of_not h]

theorem toSession_ofSession {s : Session} (h : s.Legible) : (ofSession s).toSession = .ok s := by
  refine toSession_eq_ok_iff.mpr ⟨s.id.read_toText, Time.Strict.read_toRowText h.1,
    Time.Strict.read_toRowText h.2, rfl, rfl, rfl, rfl, ?_⟩
  cases hblocked : s.isBlocked <;> simp [ofSession, hblocked]

/-- In the row of any other session, a time is at fault. -/
theorem toSession_ofSession_of_not {s : Session} (h : ¬s.Legible) :
    ∃ text, (ofSession s).toSession = .error (.timestamp text .invalid) := by
  have hid : readId (ofSession s).id = .ok s.id := readId_eq_ok_iff.mpr s.id.read_toText
  have hexpiresAt : (ofSession s).expiresAt = s.expiresAt.toRowText := rfl
  have hcreatedAt : (ofSession s).createdAt = s.createdAt.toRowText := rfl
  simp only [toSession, hid, hexpiresAt, hcreatedAt, bind, Except.bind]
  by_cases hexpires : s.expiresAt.FourDigitYear
  · have hcreated : ¬s.createdAt.FourDigitYear := fun hcreated => h ⟨hexpires, hcreated⟩
    simp only [readTimestamp_eq_ok_iff.mpr (Time.Strict.read_toRowText hexpires),
      readTimestamp_of_not hcreated]
    exact ⟨_, rfl⟩
  · simp only [readTimestamp_of_not hexpires]
    exact ⟨_, rfl⟩

end SessionRow

namespace SessionTable

variable {t t' : SessionTable} {n : NewSession} {now : Instant} {id : TokenId} {s : Session}

/-! ## Insertion -/

theorem insert_of_some {r : SessionRow} (h : t.row? n.id.toText = some r) :
    t.insert n now = (.error (.backend taken), t) := by
  rw [insert, if_pos (by simp [h])]

theorem insert_of_none (h : t.row? n.id.toText = none) :
    t.insert n now = (.ok (n.stored now), ⟨t.rows ++ [SessionRow.ofSession (n.stored now)]⟩) := by
  rw [insert, if_neg (by simp [h])]

/-- An insertion fails and changes nothing, or adds one row with a new key. -/
theorem insert_cases (n : NewSession) (now : Instant) (t : SessionTable) :
    t.insert n now = (.error (.backend taken), t) ∨
      t.row? n.id.toText = none ∧
        t.insert n now = (.ok (n.stored now), ⟨t.rows ++ [SessionRow.ofSession (n.stored now)]⟩) := by
  cases h : t.row? n.id.toText with
  | some r => exact Or.inl (insert_of_some h)
  | none => exact Or.inr ⟨rfl, insert_of_none h⟩

theorem insert_eq_ok (h : t.insert n now = (.ok s, t')) :
    t.row? n.id.toText = none ∧ s = n.stored now ∧ t'.rows = t.rows ++ [SessionRow.ofSession s] := by
  rcases insert_cases n now t with hins | ⟨hfree, hins⟩
  · simp [hins] at h
  · rw [hins] at h
    cases h
    exact ⟨hfree, rfl, rfl⟩

/-! ## Looking up -/

theorem find_eq_ok_iff : t.find id = .ok s ↔ ∃ r, t.row? id.toText = some r ∧ r.Spells s := by
  unfold find
  cases h : t.row? id.toText with
  | none => simp
  | some r =>
    simp only [Option.some.injEq, exists_eq_left']
    rw [← SessionRow.toSession_eq_ok_iff]
    cases r.toSession <;> simp

theorem row?_spec {key : String} {r : SessionRow} (h : t.row? key = some r) :
    r ∈ t.rows ∧ r.id = key := by
  unfold row? at h
  exact ⟨List.mem_of_find?_eq_some h, by simpa using List.find?_some h⟩

theorem id_of_find (h : t.find id = .ok s) : s.id = id := by
  obtain ⟨r, hr, hs⟩ := find_eq_ok_iff.mp h
  have hid := hs.id
  rw [(row?_spec hr).2, TokenId.read_toText] at hid
  exact (Except.ok.inj hid).symm

/-- The row of a session that was added is found by its key. -/
theorem row?_of_insert (h : t.insert n now = (.ok s, t')) : t'.row? s.id.toText = some (SessionRow.ofSession s) := by
  obtain ⟨hfree, rfl, hrows⟩ := insert_eq_ok h
  unfold row? at hfree ⊢
  have hkey : (n.stored now).id = n.id := rfl
  rw [hrows, List.find?_append, hkey, hfree]
  simp [SessionRow.ofSession, NewSession.stored]

/-- **A session that was added is found again if its times can be read in a row.** Otherwise the table is
at fault. -/
theorem find_of_insert (h : t.insert n now = (.ok s, t')) :
    if s.Legible then t'.find s.id = .ok s else ∃ message, t'.find s.id = .error (.backend message) := by
  unfold find
  simp only [row?_of_insert h]
  split
  · next hs => rw [SessionRow.toSession_ofSession hs]
  · next hs =>
    obtain ⟨text, hfault⟩ := SessionRow.toSession_ofSession_of_not hs
    rw [hfault]
    exact ⟨_, rfl⟩

/-! ## Revocation -/

theorem block_of_none (h : t.row? id.toText = none) : t.block id = (.error .notFound, t) := by
  rw [block, if_neg (by simp [h])]

theorem block_of_some {r : SessionRow} (h : t.row? id.toText = some r) :
    t.block id = (.ok (), ⟨t.rows.map fun r => if r.id = id.toText then r.block else r⟩) :=
  if_pos (by simp [h])

theorem store_of_block_error {e : StoreError} (h : t.block id = (.error e, t')) : t' = t := by
  cases hrow : t.row? id.toText with
  | none =>
    rw [block_of_none hrow] at h
    cases h
    rfl
  | some r =>
    rw [block_of_some hrow] at h
    cases h

/-! ## Tables whose rows are sessions -/

/-- Every row is read as a session, whose written identifier is its key; and no two rows have one key. -/
structure Proper (t : SessionTable) : Prop where
  reads : ∀ r ∈ t.rows, ∃ s, r.Spells s ∧ r.id = s.id.toText
  keys : (t.rows.map SessionRow.id).Nodup

/-- The row with a key is the only one that has it. -/
theorem row?_eq_some_iff (ht : (t.rows.map SessionRow.id).Nodup) {key : String} {r : SessionRow} :
    t.row? key = some r ↔ r ∈ t.rows ∧ r.id = key := by
  refine ⟨row?_spec, fun ⟨hmem, hid⟩ => ?_⟩
  cases hrow : t.row? key with
  | none =>
    have hnone := List.find?_eq_none.mp hrow r hmem
    simp [hid] at hnone
  | some q =>
    obtain ⟨hq, hkey⟩ := row?_spec hrow
    rw [List.inj_on_of_nodup_map ht hq hmem (hkey.trans hid.symm)]

/-- The tables are the same but for one row, which is blocked in the second. -/
def Marks (r : SessionRow) (t t' : SessionTable) : Prop :=
  ∃ before after, t.rows = before ++ r :: after ∧ t'.rows = before ++ r.block :: after

/-- A revocation marks the row with the written identifier, and no other. -/
theorem marks_block (ht : (t.rows.map SessionRow.id).Nodup) {r : SessionRow}
    (hr : t.row? id.toText = some r) : t.Marks r (t.block id).2 := by
  obtain ⟨hmem, hid⟩ := row?_spec hr
  obtain ⟨before, after, hrows⟩ := List.append_of_mem hmem
  refine ⟨before, after, hrows, ?_⟩
  rw [block_of_some hr]
  simp only [hrows, List.map_append, List.map_cons, if_pos hid]
  -- the other rows have other keys
  have hother (l : List SessionRow) (hl : ∀ q ∈ l, q.id ≠ r.id) :
      (l.map fun q => if q.id = id.toText then q.block else q) = l := by
    refine (List.map_congr_left fun q hq => if_neg ?_).trans (List.map_id l)
    rw [← hid]
    exact hl q hq
  rw [hrows, List.map_append, List.map_cons, List.nodup_append, List.nodup_cons] at ht
  obtain ⟨-, ⟨hafter, -⟩, hbefore⟩ := ht
  rw [hother before fun q hq => hbefore q.id (List.mem_map_of_mem hq) r.id List.mem_cons_self,
    hother after fun q hq heq => hafter (heq ▸ List.mem_map_of_mem hq)]

namespace Marks

variable {r : SessionRow}

/-- A row that is marked is still read as a session, under the same key. -/
theorem proper (h : t.Marks r t') (ht : t.Proper) : t'.Proper := by
  obtain ⟨before, after, hrows, hrows'⟩ := h
  refine ⟨fun q hq => ?_, ?_⟩
  · obtain ⟨hreads, -⟩ := ht
    rw [hrows] at hreads
    rw [hrows'] at hq
    rcases List.mem_append.mp hq with hq | hq
    · exact hreads q (List.mem_append_left _ hq)
    rcases List.mem_cons.mp hq with rfl | hq
    · obtain ⟨s, hs, hid⟩ := hreads r (List.mem_append_right _ List.mem_cons_self)
      exact ⟨s.block, ⟨hs.id, hs.expiresAt, hs.createdAt, hs.subject, hs.refreshToken, hs.userAgent,
        hs.clientIp, rfl⟩, hid⟩
    · exact hreads q (List.mem_append_right _ (List.mem_cons_of_mem _ hq))
  · have hkeys := ht.keys
    rw [hrows] at hkeys
    rw [hrows']
    simpa using hkeys

end Marks

end SessionTable

end SessionTokens
