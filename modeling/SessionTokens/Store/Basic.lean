import SessionTokens.Session.Basic

/-!
# Session stores

What the services ask of a place where sessions are kept: to add a session under its identifier, to find
it again, and to block it for good.
-/

namespace SessionTokens

open Time (Instant)

/-- Why a store did not do what it was asked for. -/
inductive StoreError where
  | notFound
  | backend (message : String)
deriving DecidableEq, Repr

/-- The wording of an error. -/
def StoreError.message : StoreError → String
  | .notFound => "session not found"
  | .backend m => "session store error: " ++ m

/-- A place where sessions are kept. An operation that fails leaves it as it was. -/
class SessionStore (σ : Type) where
  /-- Adds a session, which was stored at the given moment. -/
  insert : NewSession → Instant → σ → Except StoreError Session × σ
  find : TokenId → σ → Except StoreError Session
  block : TokenId → σ → Except StoreError Unit × σ

end SessionTokens
