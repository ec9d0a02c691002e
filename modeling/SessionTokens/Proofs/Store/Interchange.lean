import Mathlib.Data.List.Forall2
import SessionTokens.Proofs.Store.Memory
import SessionTokens.Proofs.Store.Table

/-!
# Stores are interchangeable

As long as all times are in years of four digits, a table answers every call as a store in memory does, and
holds the same sessions after it (`same_answers_and_sessions`). A table is the store in memory with each
session written as a row, and every call keeps it so.
-/

namespace SessionTokens

open Time (Instant)

/-! ## Calls -/

/-- What can be asked of a store. -/
inductive StoreCall where
  | create (n : NewSession) (now : Instant)
  | get (id : TokenId)
  | block (id : TokenId)
deriving DecidableEq

/-- What a store answers. -/
inductive StoreAnswer where
  | session (r : Except StoreError Session)
  | done (r : Except StoreError Unit)

/-- An error without what the store says about its failure. -/
def StoreError.unworded : StoreError → StoreError
  | .notFound => .notFound
  | .backend _ => .backend ""

/-- An answer without what the store says about its failure. -/
def StoreAnswer.unworded : StoreAnswer → StoreAnswer
  | .session r => .session (r.mapError StoreError.unworded)
  | .done r => .done (r.mapError StoreError.unworded)

namespace StoreCall

/-- The times of a session that is added can be read in a row. -/
def Legible : StoreCall → Prop
  | create n now => (n.stored now).Legible
  | get _ | block _ => True

instance : (c : StoreCall) → Decidable c.Legible
  | create n now => inferInstanceAs (Decidable (n.stored now).Legible)
  | get _ | block _ => inferInstanceAs (Decidable True)

variable {σ : Type} [SessionStore σ]

/-- The answer to a call, and the store that it leaves. -/
def perform (c : StoreCall) (store : σ) : StoreAnswer × σ :=
  match c with
  | create n now => (.session (SessionStore.insert n now store).1, (SessionStore.insert n now store).2)
  | get id => (.session (SessionStore.find id store), store)
  | block id => (.done (SessionStore.block id store).1, (SessionStore.block id store).2)

/-- The answers to some calls, each with the store that the call leaves. -/
def trace : List StoreCall → σ → List (StoreAnswer × σ)
  | [], _ => []
  | c :: r, store => c.perform store :: trace r (c.perform store).2

end StoreCall

/-! ## A store in memory, written as a table -/

def MemoryStore.sessions (m : MemoryStore) : List Session :=
  m.entries.map Prod.snd

/-- The sessions in the table, as its rows are read. -/
def SessionTable.sessions (t : SessionTable) : List (Except RowFault Session) :=
  t.rows.map SessionRow.toSession

namespace MemoryStore

/-- The table with the sessions of a store. -/
def toTable (m : MemoryStore) : SessionTable where
  rows := m.sessions.map SessionRow.ofSession

/-- Every session is kept under its own identifier, and can be read in a row. -/
def Tabular (m : MemoryStore) : Prop :=
  ∀ e ∈ m.entries, e.1 = e.2.id ∧ e.2.Legible

theorem tabular_empty : empty.Tabular := by
  intro e he
  cases he

theorem find?_row {l : List (TokenId × Session)} (h : ∀ e ∈ l, e.1 = e.2.id) (id : TokenId) :
    ((l.map Prod.snd).map SessionRow.ofSession).find? (fun r => r.id == id.toText)
      = (l.lookup id).map SessionRow.ofSession := by
  induction l with
  | nil => rfl
  | cons e r ih =>
    obtain ⟨key, s⟩ := e
    have hkey : key = s.id := h (key, s) List.mem_cons_self
    have ih := ih fun e he => h e (List.mem_cons_of_mem _ he)
    rw [List.map_cons, List.map_cons, List.find?_cons, List.lookup_cons]
    -- written identifiers are equal where the identifiers are
    by_cases hid : s.id = id
    · subst hid
      simp [hkey, SessionRow.ofSession]
    · have htext : (s.id.toText == id.toText) = false :=
        beq_eq_false_iff_ne.mpr fun htext => hid (TokenId.toText_inj htext)
      have hne : (id == key) = false := beq_eq_false_iff_ne.mpr fun heq => hid (hkey ▸ heq.symm)
      simp only [SessionRow.ofSession, htext, hne]
      exact ih

variable {m : MemoryStore}

theorem row?_toTable (hm : m.Tabular) (id : TokenId) :
    m.toTable.row? id.toText = (m.find? id).map SessionRow.ofSession :=
  find?_row (fun e he => (hm e he).1) id

theorem mem_of_find? {id : TokenId} {s : Session} (h : m.find? id = some s) : (id, s) ∈ m.entries := by
  obtain ⟨before, after, hentries, -⟩ := List.lookup_eq_some_iff.mp h
  rw [hentries]
  exact List.mem_append_right before List.mem_cons_self

theorem sessions_toTable (hm : m.Tabular) : m.toTable.sessions = m.sessions.map .ok := by
  unfold SessionTable.sessions toTable sessions
  simp only [List.map_map]
  refine List.map_congr_left fun e he => ?_
  exact SessionRow.toSession_ofSession (hm e he).2

/-! ## Calls to both -/

theorem find_toTable (hm : m.Tabular) (id : TokenId) : m.toTable.find id = m.find id := by
  unfold SessionTable.find find
  rw [row?_toTable hm]
  cases hfind : m.find? id with
  | none => rfl
  | some s => simp only [Option.map_some, SessionRow.toSession_ofSession (hm _ (mem_of_find? hfind)).2]

/-- An insertion is answered alike but for the wording, and adds the same session. -/
theorem insert_toTable (hm : m.Tabular) (n : NewSession) (now : Instant) :
    (m.toTable.insert n now).1.mapError StoreError.unworded
        = (m.insert n now).1.mapError StoreError.unworded ∧
      (m.toTable.insert n now).2 = (m.insert n now).2.toTable := by
  have hrow := row?_toTable hm n.id
  cases hfind : m.find? n.id with
  | some s =>
    rw [hfind, Option.map_some] at hrow
    rw [SessionTable.insert_of_some hrow, insert_of_some hfind]
    exact ⟨rfl, rfl⟩
  | none =>
    rw [hfind, Option.map_none] at hrow
    rw [SessionTable.insert_of_none hrow, insert_of_none hfind]
    refine ⟨rfl, ?_⟩
    simp [toTable, sessions]

theorem tabular_insert (hm : m.Tabular) {n : NewSession} {now : Instant} (hn : (n.stored now).Legible) :
    (m.insert n now).2.Tabular :=
  forall_insert hm ⟨rfl, hn⟩

theorem block_toTable (hm : m.Tabular) (id : TokenId) :
    m.toTable.block id = ((m.block id).1, (m.block id).2.toTable) := by
  have hrow := row?_toTable hm id
  cases hfind : m.find? id with
  | none =>
    rw [hfind, Option.map_none] at hrow
    rw [SessionTable.block_of_none hrow, block_of_none hfind]
  | some s =>
    rw [hfind, Option.map_some] at hrow
    rw [SessionTable.block_of_some hrow, block, if_pos (by simp [hfind])]
    refine Prod.ext rfl (congrArg SessionTable.mk ?_)
    simp only [toTable, sessions, List.map_map]
    refine List.map_congr_left fun e he => ?_
    obtain ⟨hkey, -⟩ := hm e he
    by_cases hid : e.1 = id
    · have htext : e.2.id.toText = id.toText := by rw [← hkey, hid]
      simp [SessionRow.ofSession, SessionRow.block, Session.block, hid, htext]
    · have htext : e.2.id.toText ≠ id.toText := fun h => hid (hkey.trans (TokenId.toText_inj h))
      simp [SessionRow.ofSession, hid, htext]

theorem tabular_block (hm : m.Tabular) (id : TokenId) : (m.block id).2.Tabular :=
  forall_block hm (fun _ h => h) id

end MemoryStore

/-! ## Runs of both -/

namespace StoreCall

/-- One call is answered alike by both, and leaves both with the same sessions. -/
theorem perform_toTable {m : MemoryStore} (hm : m.Tabular) {c : StoreCall} (hc : c.Legible) :
    (c.perform m.toTable).1.unworded = (c.perform m).1.unworded ∧
      (c.perform m.toTable).2 = (c.perform m).2.toTable ∧ (c.perform m).2.Tabular := by
  cases c with
  | create n now =>
    obtain ⟨hanswer, hstore⟩ := MemoryStore.insert_toTable hm n now
    exact ⟨congrArg StoreAnswer.session hanswer, hstore, MemoryStore.tabular_insert hm hc⟩
  | get id =>
    exact ⟨congrArg (fun r => (StoreAnswer.session r).unworded) (MemoryStore.find_toTable hm id), rfl, hm⟩
  | block id =>
    have hblock := MemoryStore.block_toTable hm id
    exact ⟨congrArg (fun r : _ × SessionTable => (StoreAnswer.done r.1).unworded) hblock,
      congrArg Prod.snd hblock, MemoryStore.tabular_block hm id⟩

/-- Both answers to a call are alike, and so are the sessions after it. -/
def Alike (a : StoreAnswer × MemoryStore) (b : StoreAnswer × SessionTable) : Prop :=
  b.1.unworded = a.1.unworded ∧ b.2.sessions = a.2.sessions.map .ok

theorem alike_trace {m : MemoryStore} (hm : m.Tabular) {calls : List StoreCall}
    (h : ∀ c ∈ calls, c.Legible) : List.Forall₂ Alike (trace calls m) (trace calls m.toTable) := by
  induction calls generalizing m with
  | nil => exact .nil
  | cons c r ih =>
    obtain ⟨hanswer, hstore, hnext⟩ := perform_toTable hm (h c List.mem_cons_self)
    have hrest := ih hnext fun d hd => h d (List.mem_cons_of_mem c hd)
    rw [← hstore] at hrest
    refine .cons ⟨hanswer, ?_⟩ hrest
    rw [hstore, MemoryStore.sessions_toTable hnext]

/-- **A table answers as a store in memory does, and holds the same sessions.** Whatever calls are made,
in whatever order, from the empty stores on: call by call both give the same session, both find none, or
both fail; and after each call every row of the table is read as the session that the store in memory has
in its place. -/
theorem same_answers_and_sessions (calls : List StoreCall) (h : ∀ c ∈ calls, c.Legible) :
    List.Forall₂ Alike (trace calls MemoryStore.empty) (trace calls SessionTable.empty) :=
  alike_trace MemoryStore.tabular_empty h

/-- A session that is added twice and then revoked: the second insertion fails in both stores, and both
find the session blocked. -/
theorem same_answers_and_sessions_revoked :
    let n : NewSession :=
      { id := ⟨List.replicate 16 7, rfl⟩, subject := "a", refreshToken := "t", client := {}
        expiresAt := ⟨900, 1500000, by decide, by decide, by decide⟩ }
    let calls := [.create n .epoch, .create n .epoch, .block n.id, .get n.id]
    (∀ c ∈ calls, c.Legible) ∧
      List.Forall₂ Alike (trace calls MemoryStore.empty) (trace calls SessionTable.empty) ∧
      (trace calls MemoryStore.empty).map Prod.fst =
        [.session (.ok (n.stored .epoch)), .session (.error (.backend (MemoryStore.taken n.id))),
          .done (.ok ()), .session (.ok (n.stored .epoch).block)] := by
  intro n calls
  have hlegible : ∀ c ∈ calls, c.Legible := by decide +kernel
  exact ⟨hlegible, same_answers_and_sessions calls hlegible, rfl⟩

end StoreCall

end SessionTokens
