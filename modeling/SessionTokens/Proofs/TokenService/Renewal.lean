import SessionTokens.Proofs.Token.Lifetime
import SessionTokens.Proofs.World
import SessionTokens.TokenService

/-!
# What a renewal answers

A renewal goes through its stages in a fixed order: the token, the context, the look-up, the session, the
issuing. Each stage is described by the answer that it gives if all stages before it were passed; together
they fix the answer for every token, context and store (`renewAccess_exact`).
-/

namespace SessionTokens

open Crypto (SealingKey)
open Time (Instant)

/-! ## Sessions that admit a token -/

namespace Session

/-- The session does not admit a token with the given payload. -/
def Rejects (s : Session) (p : Payload) (token : String) (now : Instant) : Prop :=
  s.isBlocked ∨ s.subject ≠ p.subject ∨ s.refreshToken ≠ token ∨ s.expiresAt ≤ now

theorem rejects_iff {s : Session} {p : Payload} {token : String} {now : Instant} :
    s.Rejects p token now ↔ (s.rejection? p token now).isSome := by
  have hnone : ¬s.Rejects p token now ↔ s.rejection? p token now = none := by
    rw [rejection?_eq_none_iff, Rejects]
    simp only [not_or, Bool.not_eq_true, ne_eq, Decidable.not_not, ExpiredAt]
  rw [Option.isSome_iff_ne_none, ne_eq, ← hnone, Classical.not_not]

/-- Once it is blocked, a session admits no token. -/
theorem rejects_block (s : Session) (p : Payload) (token : String) (now : Instant) :
    s.block.Rejects p token now :=
  Or.inl rfl

end Session

namespace TokenService

variable {σ : Type} [SessionStore σ] {t : TokenService} {c : CallContext} {token : String} {w : World σ}

/-! ## Before the look-up -/

/-- A token is invalid or has expired, and both errors are of one kind. -/
theorem kind_of_verify {key : SealingKey} {now : Instant} {e : AuthError}
    (h : Token.verify key token now = .error e) : e.kind = .unauthenticated := by
  unfold Token.verify at h
  split at h
  · cases h
    rfl
  · split at h
    · cases h
      rfl
    · cases h

/-- Every refusal of a token is reported in the same way. -/
theorem refusal_of_verify {key : SealingKey} {now : Instant} {e : AuthError}
    (h : Token.verify key token now = .error e) : refusal e = .unauthenticated :=
  if_pos (kind_of_verify h)

/-- A token that is refused is not looked up. -/
theorem renewAccess_of_refused (h : ∀ p, Token.verify t.key token w.now ≠ .ok p) :
    t.renewAccess c token w = (.error .unauthenticated, w) := by
  unfold renewAccess
  cases hv : Token.verify t.key token w.now with
  | ok p => exact absurd hv (h p)
  | error e => simp only [refusal_of_verify hv]

variable {p : Payload}

theorem renewAccess_of_cancelled (hv : Token.verify t.key token w.now = .ok p)
    (hc : c.IsCancelled) : t.renewAccess c token w = (.error .cancelled, w) := by
  unfold renewAccess
  simp only [hv, World.findUnder, World.under_of_cancelled hc]
  rfl

theorem renewAccess_of_overdue (hv : Token.verify t.key token w.now = .ok p)
    (hc : ¬c.IsCancelled) (hd : c.Overdue 0) :
    t.renewAccess c token w = (.error .deadlineExceeded, w) := by
  unfold renewAccess
  simp only [hv, World.findUnder, World.under_of_overdue hc hd]
  rfl

/-! ## After the look-up -/

section

variable {w' : World σ} (hv : Token.verify t.key token w.now = .ok p)

include hv

theorem renewAccess_of_not_found {e : StoreError} (hs : w.findUnder c p.id = (.ok (.error e), w')) :
    t.renewAccess c token w = (.error (lookupError e), w') := by
  unfold renewAccess
  simp only [hv, hs]

variable {s : Session} (hs : w.findUnder c p.id = (.ok (.ok s), w'))

include hs

theorem renewAccess_of_found_rejects (hr : s.Rejects p token w'.now) :
    t.renewAccess c token w = (.error .unauthenticated, w') := by
  unfold renewAccess
  simp only [hv, hs]
  exact if_pos (Session.rejects_iff.mp hr)

/-- A renewal that passed all checks answers as the issuing does. -/
theorem renewAccess_of_found_admits (hr : ¬s.Rejects p token w'.now) {r : Except AuthError IssuedToken}
    {w'' : World σ} (hissue : t.issueToken s.subject t.lifetimes.access w' = (r, w'')) :
    t.renewAccess c token w =
      (r.mapError fun e => .internal ("error creating access token: " ++ e.message), w'') := by
  have hnone : ¬(s.rejection? p token w'.now).isSome = true :=
    fun h => hr (Session.rejects_iff.mpr h)
  unfold renewAccess
  simp only [hv, hs]
  rw [if_neg hnone, hissue]
  cases r with
  | error e => rfl
  | ok a => rfl

end

/-! ## Prompt look-ups -/

theorem findUnder_of_prompt (hw : w.Prompt) (hc : c.Admitted) {id : TokenId}
    {r : Except StoreError Session} (hs : SessionStore.find id w.store = r) :
    w.findUnder c id = (.ok r, w.looked) := by
  rw [World.findUnder, World.under_of_prompt hw hc, World.find_of_prompt hw, hs]

section

variable (hw : w.Prompt) (hc : c.Admitted) (hv : Token.verify t.key token w.now = .ok p)

include hw hc hv

theorem renewAccess_of_error {e : StoreError} (hs : SessionStore.find p.id w.store = .error e) :
    t.renewAccess c token w = (.error (lookupError e), w.looked) :=
  renewAccess_of_not_found hv (findUnder_of_prompt hw hc hs)

variable {s : Session} (hs : SessionStore.find p.id w.store = .ok s)

include hs

theorem renewAccess_of_rejects (hr : s.Rejects p token w.now) :
    t.renewAccess c token w = (.error .unauthenticated, w.looked) :=
  renewAccess_of_found_rejects hv (findUnder_of_prompt hw hc hs) hr

theorem renewAccess_of_admitted (hr : ¬s.Rejects p token w.now) {r : Except AuthError IssuedToken}
    {random : ByteStream}
    (hissue : Token.issue t.key s.subject t.lifetimes.access w.now w.random = (r, random)) :
    t.renewAccess c token w =
      (r.mapError fun e => .internal ("error creating access token: " ++ e.message),
        { w.looked with random }) := by
  refine renewAccess_of_found_admits hv (findUnder_of_prompt hw hc hs) hr ?_
  show ((Token.issue t.key s.subject t.lifetimes.access w.now w.random).1,
    { w.looked with random := (Token.issue t.key s.subject t.lifetimes.access w.now w.random).2 }) = _
  rw [hissue]

end

/-! ## Errors and effects -/

/-- The errors that a renewal has. -/
inductive RenewalFails : AuthError → Prop where
  | unauthenticated : RenewalFails .unauthenticated
  | sessionNotFound : RenewalFails .sessionNotFound
  | internal (message : String) : RenewalFails (.internal message)
  | cancelled : RenewalFails .cancelled
  | deadlineExceeded : RenewalFails .deadlineExceeded

theorem renewalFails_toError (why : Interruption) : RenewalFails why.toError := by
  cases why with
  | cancelled => exact .cancelled
  | deadlineExceeded => exact .deadlineExceeded

theorem renewalFails_lookupError (e : StoreError) : RenewalFails (lookupError e) := by
  cases e with
  | notFound => exact .sessionNotFound
  | backend message => exact .internal message

/-- Whatever goes wrong in a renewal is told as one of five errors. -/
theorem renewalFails_of_renewAccess {e : AuthError} (h : (t.renewAccess c token w).1 = .error e) :
    RenewalFails e := by
  unfold renewAccess at h
  split at h
  · next hverify =>
    rw [refusal_of_verify hverify] at h
    cases h
    exact .unauthenticated
  · split at h
    · next why _ _ =>
      cases h
      exact renewalFails_toError why
    · next failure _ _ =>
      cases h
      exact renewalFails_lookupError failure
    · split at h
      · cases h
        exact .unauthenticated
      · split at h
        · cases h
          exact .internal _
        · cases h

/-- A renewal leaves the store as it was. -/
theorem store_renewAccess (t : TokenService) (c : CallContext) (token : String) (w : World σ) :
    (t.renewAccess c token w).2.store = w.store := by
  unfold renewAccess
  split
  · rfl
  · next p _ =>
    have hfind := World.store_findUnder c p.id w
    split
    · next h =>
      rw [h] at hfind
      exact hfind
    · next h =>
      rw [h] at hfind
      exact hfind
    · next session w₁ h =>
      rw [h] at hfind
      split
      · exact hfind
      · -- to issue a token takes nothing but random bytes
        have hissue : (t.issueToken session.subject t.lifetimes.access w₁).2.store = w₁.store := rfl
        split <;> next h =>
          rw [h] at hissue
          exact hissue.trans hfind

/-! ## In memory -/

section

variable {w : World MemoryStore} (hw : w.Prompt) (hc : c.Admitted)
  (hv : Token.verify t.key token w.now = .ok p)

include hw hc hv

theorem renewAccess_of_missing (hs : w.store.find? p.id = none) :
    t.renewAccess c token w = (.error .sessionNotFound, w.looked) :=
  renewAccess_of_error hw hc hv (MemoryStore.find_of_none hs)

variable {s : Session} (hs : w.store.find? p.id = some s)

include hs

theorem renewAccess_of_rejected (hr : s.Rejects p token w.now) :
    t.renewAccess c token w = (.error .unauthenticated, w.looked) :=
  renewAccess_of_rejects hw hc hv (MemoryStore.find_of_some hs) hr

/-- Without a subject, or with an expiry out of range, a renewal fails in the service. -/
theorem renewAccess_of_unissuable (hr : ¬s.Rejects p token w.now)
    (h : s.subject = "" ∨ w.now.add? t.lifetimes.access = none) :
    ∃ message, t.renewAccess c token w = (.error (.internal message), w.looked) := by
  have hfind := MemoryStore.find_of_some hs
  by_cases hsubject : s.subject = ""
  · exact ⟨_, renewAccess_of_admitted hw hc hv hfind hr (Token.issue_of_empty hsubject)⟩
  · have hsum := h.resolve_left hsubject
    exact ⟨_, renewAccess_of_admitted hw hc hv hfind hr (Token.issue_of_none hsubject hsum)⟩

/-- A renewal that passed all checks issues an access token for the subject of the session. -/
theorem renewAccess_of_issuable (hr : ¬s.Rejects p token w.now) (hsubject : s.subject ≠ "")
    {expiry : Instant} (hsum : w.now.add? t.lifetimes.access = some expiry) :
    ∃ a random, t.renewAccess c token w = (.ok a, { w.looked with random }) ∧
      Token.IssuedAs t.key s.subject t.lifetimes.access w.now a := by
  obtain ⟨a, ha, has⟩ := Token.issue_of_some t.key w.random hsubject hsum
  exact ⟨a, _, renewAccess_of_admitted hw hc hv (MemoryStore.find_of_some hs) hr (Prod.ext ha rfl), has⟩

end

/-! ## All answers -/

/-- **What a renewal answers.** A token that is not verified is refused, whatever the context is, and a
call that is over is not begun; neither looks anything up. Any other renewal looks up one session, the one
with the token's identifier. Without it, the session is not found; a session that rejects the token is
reported like a bad token; a session without a subject or an expiry out of range is a failure of the
service; and otherwise an access token for the subject of the session is issued, which is read back until
it expires. The store is left as it was. -/
theorem renewAccess_exact (t : TokenService) (c : CallContext) (token : String) (m : MemoryStore)
    (now : Instant) (random : ByteStream) :
    let w := World.inMemory m now random
    ((∀ p, Token.verify t.key token now ≠ .ok p) →
      t.renewAccess c token w = (.error .unauthenticated, w)) ∧
    ∀ p, Token.verify t.key token now = .ok p →
      (c.IsCancelled → t.renewAccess c token w = (.error .cancelled, w)) ∧
      (¬c.IsCancelled → c.Overdue 0 → t.renewAccess c token w = (.error .deadlineExceeded, w)) ∧
      (¬c.IsCancelled → ¬c.Overdue 0 →
        (m.find? p.id = none → t.renewAccess c token w = (.error .sessionNotFound, w.looked)) ∧
        ∀ s, m.find? p.id = some s →
          (s.Rejects p token now → t.renewAccess c token w = (.error .unauthenticated, w.looked)) ∧
          (¬s.Rejects p token now → s.subject = "" ∨ now.add? t.lifetimes.access = none →
            ∃ message, t.renewAccess c token w = (.error (.internal message), w.looked)) ∧
          (¬s.Rejects p token now → s.subject ≠ "" →
            ∀ expiry, now.add? t.lifetimes.access = some expiry →
              ∃ a rest, t.renewAccess c token w = (.ok a, { w.looked with random := rest }) ∧
                a.payload.subject = s.subject ∧ a.payload.issuedAt = now ∧
                a.payload.expiredAt = expiry ∧
                ∀ u, u < expiry → Token.verify t.key a.text u = .ok a.payload)) := by
  intro w
  have hw : w.Prompt := World.prompt_inMemory m now random
  refine ⟨renewAccess_of_refused (w := w), fun p hv => ?_⟩
  refine ⟨renewAccess_of_cancelled (w := w) hv, renewAccess_of_overdue (w := w) hv, ?_⟩
  intro hcancel hover
  have hc : c.Admitted := ⟨hcancel, hover⟩
  refine ⟨renewAccess_of_missing hw hc hv, fun s hs => ?_⟩
  refine ⟨renewAccess_of_rejected hw hc hv hs, renewAccess_of_unissuable hw hc hv hs, ?_⟩
  intro hr hsubject expiry hsum
  obtain ⟨a, rest, ha, has⟩ := renewAccess_of_issuable hw hc hv hs hr hsubject hsum
  have hexpiry : a.payload.expiredAt = expiry := Option.some.inj (has.expiredAt.symm.trans hsum)
  refine ⟨a, rest, ha, has.subject, has.issuedAt, hexpiry, fun u hu => ?_⟩
  exact Token.verify_of_lt has.holds (hexpiry ▸ hu)

end TokenService

end SessionTokens
