import SessionTokens.Store.Basic
import SessionTokens.Time.Strict

/-!
# Sessions in a table

A store that keeps each session as a row of texts, found by the written identifier. Times are written
with a numeric offset and read back as strict timestamps; other programs write rows too.
-/

namespace SessionTokens

open Time (Instant)

/-- A row of the table. -/
structure SessionRow where
  /-- The written identifier, which is the key of the table. -/
  id : String
  subject : String := ""
  refreshToken : String := ""
  userAgent : String := ""
  clientIp : String := ""
  /-- Other than zero if the session was revoked. -/
  isBlocked : Int := 0
  expiresAt : String
  createdAt : String
deriving DecidableEq, Repr

/-- Why a row is no session. -/
inductive RowFault where
  | id (text : String) (fault : TokenId.Fault)
  | timestamp (text : String) (fault : Time.Strict.Fault)
deriving DecidableEq, Repr

/-- The wording of a fault. -/
def RowFault.message : RowFault → String
  | .id text fault => (fault.toError text).message
  | .timestamp text fault => "invalid timestamp '" ++ text ++ "': " ++ fault.message

namespace SessionRow

/-- Reads a timestamp of a row. -/
def readTimestamp (text : String) : Except RowFault Instant :=
  match Time.Strict.read text with
  | .ok t => .ok t
  | .error fault => .error (.timestamp text fault)

/-- Reads the identifier of a row. -/
def readId (text : String) : Except RowFault TokenId :=
  match TokenId.read text with
  | .ok id => .ok id
  | .error fault => .error (.id text fault)

/-- Reads a row. The first field that cannot be read decides, among the identifier, the end and the
start of the session in this order. -/
def toSession (r : SessionRow) : Except RowFault Session := do
  let id ← readId r.id
  let expiresAt ← readTimestamp r.expiresAt
  let createdAt ← readTimestamp r.createdAt
  return {
    id, expiresAt, createdAt
    subject := r.subject
    refreshToken := r.refreshToken
    userAgent := r.userAgent
    clientIp := r.clientIp
    isBlocked := r.isBlocked ≠ 0 }

/-- Writes a row. -/
def ofSession (s : Session) : SessionRow where
  id := s.id.toText
  subject := s.subject
  refreshToken := s.refreshToken
  userAgent := s.userAgent
  clientIp := s.clientIp
  isBlocked := if s.isBlocked then 1 else 0
  expiresAt := s.expiresAt.toRowText
  createdAt := s.createdAt.toRowText

end SessionRow

/-- A table of sessions. -/
structure SessionTable where
  /-- The rows, in the order in which they were added. -/
  rows : List SessionRow := []

namespace SessionTable

/-- The table without rows. -/
def empty : SessionTable := {}

/-- The row with the given key. -/
def row? (t : SessionTable) (key : String) : Option SessionRow :=
  t.rows.find? fun r => r.id == key

/-- The message about a key that is taken. -/
def taken : String :=
  "error returned from database: (code: 1555) UNIQUE constraint failed: sessions.id"

/-- Puts a row into the table as it is, in the place of one with the same key. -/
def put (r : SessionRow) (t : SessionTable) : SessionTable where
  rows := (t.rows.filter fun q => q.id != r.id) ++ [r]

/-- Adds a session, if its identifier is free. -/
def insert (n : NewSession) (now : Instant) (t : SessionTable) :
    Except StoreError Session × SessionTable :=
  if (t.row? n.id.toText).isSome then (.error (.backend taken), t)
  else
    let s := n.stored now
    (.ok s, { rows := t.rows ++ [SessionRow.ofSession s] })

/-- The session with an identifier. -/
def find (id : TokenId) (t : SessionTable) : Except StoreError Session :=
  match t.row? id.toText with
  | none => .error .notFound
  | some r =>
    match r.toSession with
    | .ok s => .ok s
    | .error fault => .error (.backend fault.message)

/-- Blocks the session with an identifier. -/
def block (id : TokenId) (t : SessionTable) : Except StoreError Unit × SessionTable :=
  if (t.row? id.toText).isSome then
    (.ok (), { rows := t.rows.map fun r => if r.id = id.toText then { r with isBlocked := 1 } else r })
  else (.error .notFound, t)

instance : SessionStore SessionTable where
  insert := insert
  find := find
  block := block

end SessionTable

end SessionTokens
