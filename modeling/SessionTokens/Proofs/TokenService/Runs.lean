import SessionTokens.Proofs.TokenService.Opening
import SessionTokens.Proofs.World

/-!
# Runs of a service

What is done with a token service and its store, step by step, each step at a moment of its own. Only a
revocation changes a session that is there, and no step removes one: after any run a session is as it was,
but blocked if the run revoked it (`find?_run`).
-/

namespace SessionTokens

open Time (Instant Span)

/-! ## Steps -/

/-- What can be asked of a token service and its store. -/
inductive Operation where
  | openSession (c : CallContext) (subject : String) (client : Client)
  | issue (subject : String) (duration : Span)
  | issuePair (subject : String) (lifetimes : Lifetimes)
  | renew (c : CallContext) (token : String)
  | verify (token : String)
  | get (id : TokenId)
  | create (n : NewSession)
  | block (id : TokenId)
deriving DecidableEq

/-- An operation at a moment. -/
structure Event where
  moment : Instant
  operation : Operation
deriving DecidableEq

/-- What an operation leaves behind. -/
def Operation.perform (t : TokenService) : Operation → World MemoryStore → World MemoryStore
  | .openSession c subject client, w => (t.openSession c subject client w).2
  | .issue subject duration, w => (t.issueToken subject duration w).2
  | .issuePair subject lifetimes, w => (t.issuePair subject lifetimes w).2
  | .renew c token, w => (t.renewAccess c token w).2
  | .verify _, w => w
  | .get id, w => (w.find id).2
  | .create n, w => (w.insert n).2
  | .block id, w => (w.block id).2

namespace TokenService

/-- The world after an event. -/
def step (t : TokenService) (e : Event) (w : World MemoryStore) : World MemoryStore :=
  e.operation.perform t { w with now := e.moment }

/-- The world after some events. -/
def run (t : TokenService) : List Event → World MemoryStore → World MemoryStore
  | [], w => w
  | e :: r, w => t.run r (t.step e w)

/-! ## What one operation keeps -/

theorem keeps_renewAccess (t : TokenService) (c : CallContext) (token : String)
    (w : World MemoryStore) : w.Keeps (t.renewAccess c token w).2 := by
  unfold renewAccess
  split
  · exact World.Keeps.refl w
  · next p hv =>
    have hfind := World.keeps_findUnder c p.id w
    split
    · next h =>
      rw [h] at hfind
      exact hfind
    · next h =>
      rw [h] at hfind
      exact hfind
    · next session w₁ h =>
      rw [h] at hfind
      split
      · exact hfind
      · have hissue := keeps_issueToken t session.subject t.lifetimes.access w₁
        split <;> next h =>
          rw [h] at hissue
          exact hfind.trans hissue

/-- All that is done other than revoking keeps every session. -/
theorem keeps_perform {t : TokenService} {o : Operation} {w : World MemoryStore}
    (h : ∀ id, o ≠ .block id) : w.Keeps (o.perform t w) := by
  cases o with
  | openSession c subject client => exact keeps_openSession t c subject client w
  | issue subject duration => exact keeps_issueToken t subject duration w
  | issuePair subject lifetimes => exact keeps_issuePair t subject lifetimes w
  | renew c token => exact keeps_renewAccess t c token w
  | verify token => exact World.Keeps.refl w
  | get id => exact World.keeps_find id w
  | create n => exact World.keeps_insert n w
  | block id => exact absurd rfl (h id)

/-! ## What a step does to a session -/

theorem prompt_step {t : TokenService} {w : World MemoryStore} (hw : w.Prompt) (e : Event) :
    (t.step e w).Prompt := by
  have hnow : World.Prompt { w with now := e.moment } := ⟨hw.latency, hw.outage⟩
  by_cases h : ∃ id, e.operation = .block id
  · obtain ⟨id, hid⟩ := h
    rw [step, hid]
    exact ⟨hnow.latency, hnow.outage⟩
  · exact (keeps_perform fun id hid => h ⟨id, hid⟩).prompt hnow

variable {id : TokenId} {s : Session}

/-- A step changes a session only by revoking it. -/
theorem find?_step (t : TokenService) (e : Event) {w : World MemoryStore}
    (hs : w.store.find? id = some s) :
    (t.step e w).store.find? id = some (if e.operation = .block id then s.block else s) := by
  by_cases h : ∃ k, e.operation = .block k
  · obtain ⟨k, hk⟩ := h
    rw [step, hk]
    show (w.store.block k).2.find? id = _
    rw [MemoryStore.find?_block, hs, Option.map_some]
    simp only [Operation.block.injEq, eq_comm]
  · have hne : e.operation ≠ .block id := fun hid => h ⟨id, hid⟩
    rw [if_neg hne]
    exact (keeps_perform fun k hk => h ⟨k, hk⟩).sessions id s hs

/-! ## What a run does to a session -/

theorem prompt_run {t : TokenService} {w : World MemoryStore} (hw : w.Prompt) (events : List Event) :
    (t.run events w).Prompt := by
  induction events generalizing w with
  | nil => exact hw
  | cons e r ih => exact ih (prompt_step hw e)

/-- One of the events revoked the session. -/
def Revoked (id : TokenId) (events : List Event) : Prop :=
  ∃ e ∈ events, e.operation = .block id

instance (id : TokenId) (events : List Event) : Decidable (Revoked id events) :=
  inferInstanceAs (Decidable (∃ e ∈ events, e.operation = .block id))

theorem revoked_append {a b : List Event} : Revoked id (a ++ b) ↔ Revoked id a ∨ Revoked id b := by
  simp only [Revoked, List.mem_append, or_and_right, exists_or]

theorem revoked_cons {e : Event} {r : List Event} :
    Revoked id (e :: r) ↔ e.operation = .block id ∨ Revoked id r := by
  simp only [Revoked, List.mem_cons, exists_eq_or_imp]

/-- **A run changes a session only by revoking it**, and leaves it revoked. -/
theorem find?_run (t : TokenService) (events : List Event) {w : World MemoryStore}
    (hs : w.store.find? id = some s) :
    (t.run events w).store.find? id = some (if Revoked id events then s.block else s) := by
  induction events generalizing w s with
  | nil =>
    have hnone : ¬Revoked id [] := by simp [Revoked]
    rw [if_neg hnone]
    exact hs
  | cons e r ih =>
    rw [run, ih (find?_step t e hs)]
    by_cases he : e.operation = .block id
    · rw [if_pos he, if_pos (revoked_cons.mpr (Or.inl he))]
      -- a session that is revoked once more stays as it is
      exact congrArg some (ite_self s.block)
    · rw [if_neg he]
      by_cases hr : Revoked id r
      · rw [if_pos hr, if_pos (revoked_cons.mpr (Or.inr hr))]
      · have hnone : ¬Revoked id (e :: r) := fun h => (revoked_cons.mp h).elim he hr
        rw [if_neg hr, if_neg hnone]

end TokenService

end SessionTokens
