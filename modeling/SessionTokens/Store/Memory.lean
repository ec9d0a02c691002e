import SessionTokens.Store.Basic

/-!
# Sessions in memory

A store that keeps each session under its identifier.
-/

namespace SessionTokens

open Time (Instant)

/-- Sessions by identifier, in the order in which they were added. -/
structure MemoryStore where
  entries : List (TokenId × Session) := []

namespace MemoryStore

/-- The store without sessions. -/
def empty : MemoryStore := {}

/-- The number of sessions. -/
def size (m : MemoryStore) : Nat :=
  m.entries.length

/-- The session with an identifier. -/
def find? (m : MemoryStore) (id : TokenId) : Option Session :=
  m.entries.lookup id

/-- The message about an identifier that is taken. -/
def taken (id : TokenId) : String :=
  "session " ++ id.toText ++ " already exists"

/-- Adds a session, if its identifier is free. -/
def insert (n : NewSession) (now : Instant) (m : MemoryStore) : Except StoreError Session × MemoryStore :=
  if (m.find? n.id).isSome then (.error (.backend (taken n.id)), m)
  else
    let s := n.stored now
    (.ok s, { entries := m.entries ++ [(n.id, s)] })

/-- The session with an identifier. -/
def find (id : TokenId) (m : MemoryStore) : Except StoreError Session :=
  match m.find? id with
  | some s => .ok s
  | none => .error .notFound

/-- Blocks the session with an identifier. -/
def block (id : TokenId) (m : MemoryStore) : Except StoreError Unit × MemoryStore :=
  if (m.find? id).isSome then
    (.ok (), { entries := m.entries.map fun e => if e.1 = id then (e.1, e.2.block) else e })
  else (.error .notFound, m)

instance : SessionStore MemoryStore where
  insert := insert
  find := find
  block := block

end MemoryStore

end SessionTokens
