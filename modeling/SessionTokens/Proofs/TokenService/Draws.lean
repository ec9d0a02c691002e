import SessionTokens.Proofs.Token.Draws
import SessionTokens.Proofs.TokenService.Runs

/-!
# No random byte serves two tokens

Tokens are made from random bytes of their own, whether they are handed out or thrown away because something behind
them failed (`no_byte_serves_two`). What an operation takes from the stream is accounted for by the tokens that it
creates, whatever its store and its call context do (`accounted_outcome`), and so is what a run of operations takes.
-/

namespace SessionTokens

open Crypto (SealingKey)
open Time (Span)

/-! ## Accounts -/

/-- Whatever is taken from the first stream up to the second is taken by the creations, which follow one another, and
what is handed out are tokens made by them, in their order. -/
structure Accounted (key : SealingKey) (s : ByteStream) (made : List Creation) (handed : List IssuedToken)
    (s' : ByteStream) : Prop where
  linked : Linked key s made s'
  handed : handed.Sublist (made.flatMap (Creation.tokens key))

namespace Accounted

variable {key : SealingKey} {s s' s'' : ByteStream} {made made' : List Creation} {handed handed' : List IssuedToken}

theorem nothing (h : s' = s) : Accounted key s [] [] s' := by
  rw [h]
  exact ⟨.nil s, .slnil⟩

theorem single (c : Creation) : Accounted key c.random [c] (c.tokens key) (c.rest key) :=
  ⟨.cons (.nil _), by simp⟩

theorem append (h : Accounted key s made handed s') (h' : Accounted key s' made' handed' s'') :
    Accounted key s (made ++ made') (handed ++ handed') s'' where
  linked := h.linked.append h'.linked
  handed := by
    rw [List.flatMap_append]
    exact h.handed.append h'.handed

/-- Tokens may be thrown away. -/
theorem fewer (h : Accounted key s made handed s') (hsub : handed'.Sublist handed) :
    Accounted key s made handed' s' :=
  ⟨h.linked, hsub.trans h.handed⟩

end Accounted

/-! ## What operations create -/

/-- The tokens of a pair. -/
def TokenPair.tokens (p : TokenPair) : List IssuedToken :=
  [p.access, p.refresh]

namespace TokenService

variable {σ : Type}

/-- The creation of one token. -/
def creation (subject : String) (duration : Span) (w : World σ) : Creation where
  subject := subject
  duration := duration
  moment := w.now
  random := w.random

/-- The creations of a pair of tokens. The second is tried where the first has made a token. -/
def pairCreations (t : TokenService) (subject : String) (lifetimes : Lifetimes) (w : World σ) : List Creation :=
  creation subject lifetimes.access w ::
    match t.issueToken subject lifetimes.access w with
    | (.error _, _) => []
    | (.ok _, w) => [creation subject lifetimes.refresh w]

variable [SessionStore σ]

/-- The creation of a renewal, which is tried where a session admits the token. -/
def renewalCreations (t : TokenService) (c : CallContext) (token : String) (w : World σ) : List Creation :=
  match Token.verify t.key token w.now with
  | .error _ => []
  | .ok p =>
    match w.findUnder c p.id with
    | (.ok (.ok session), w) =>
      if (session.rejection? p token w.now).isSome then [] else [creation session.subject t.lifetimes.access w]
    | (_, _) => []

end TokenService

namespace Operation

variable {σ : Type} [SessionStore σ]

/-- The creations that an operation tries, in their order. An opening tries those of its two tokens, whatever follows
them. -/
def creations (t : TokenService) : Operation → World σ → List Creation
  | .openSession _ subject _, w => t.pairCreations subject t.lifetimes w
  | .issue subject duration, w => [TokenService.creation subject duration w]
  | .issuePair subject lifetimes, w => t.pairCreations subject lifetimes w
  | .renew c token, w => t.renewalCreations c token w
  | .verify _, _ => []
  | .get _, _ => []
  | .create _, _ => []
  | .block _, _ => []

/-- The tokens that an operation hands out, and the world that it leaves, over a store of any kind. -/
def outcome (t : TokenService) : Operation → World σ → List IssuedToken × World σ
  | .openSession c subject client, w =>
    let r := t.openSession c subject client w
    (tokensIn (fun l => l.tokens.tokens) r.1, r.2)
  | .issue subject duration, w =>
    let r := t.issueToken subject duration w
    (tokensIn (fun i => [i]) r.1, r.2)
  | .issuePair subject lifetimes, w =>
    let r := t.issuePair subject lifetimes w
    (tokensIn TokenPair.tokens r.1, r.2)
  | .renew c token, w =>
    let r := t.renewAccess c token w
    (tokensIn (fun i => [i]) r.1, r.2)
  | .verify _, w => ([], w)
  | .get id, w => ([], (w.find id).2)
  | .create n, w => ([], (w.insert n).2)
  | .block id, w => ([], (w.block id).2)

end Operation

namespace TokenService

variable {σ : Type}

/-! ## One operation -/

theorem accounted_issueToken (t : TokenService) (subject : String) (duration : Span) (w : World σ) :
    Accounted t.key w.random [creation subject duration w]
      (tokensIn (fun i => [i]) (t.issueToken subject duration w).1) (t.issueToken subject duration w).2.random :=
  .single (creation subject duration w)

/-- A first token is accounted for even where the second is not made. -/
theorem accounted_issuePair (t : TokenService) (subject : String) (lifetimes : Lifetimes) (w : World σ) :
    Accounted t.key w.random (t.pairCreations subject lifetimes w)
      (tokensIn TokenPair.tokens (t.issuePair subject lifetimes w).1)
      (t.issuePair subject lifetimes w).2.random := by
  have hfirst := accounted_issueToken t subject lifetimes.access w
  unfold pairCreations issuePair
  generalize t.issueToken subject lifetimes.access w = first at hfirst ⊢
  obtain ⟨⟨e⟩ | ⟨access⟩, w₁⟩ := first
  · exact hfirst
  · have hsecond := accounted_issueToken t subject lifetimes.refresh w₁
    simp only
    generalize t.issueToken subject lifetimes.refresh w₁ = second at hsecond ⊢
    obtain ⟨⟨e⟩ | ⟨refresh⟩, w₂⟩ := second
    · exact (hfirst.append hsecond).fewer (List.nil_sublist _)
    · exact hfirst.append hsecond

variable [SessionStore σ]

/-- An opening takes what its tokens take, and hands them out or throws them away, as the store decides. -/
theorem draws_openSession (t : TokenService) (c : CallContext) (subject : String) (client : Client) (w : World σ) :
    (t.openSession c subject client w).2.random = (t.issuePair subject t.lifetimes w).2.random ∧
      (tokensIn (fun l => l.tokens.tokens) (t.openSession c subject client w).1).Sublist
        (tokensIn TokenPair.tokens (t.issuePair subject t.lifetimes w).1) := by
  unfold openSession
  obtain ⟨⟨e⟩ | ⟨tokens⟩, w₁⟩ := t.issuePair subject t.lifetimes w
  · exact ⟨rfl, .slnil⟩
  · have hinsert := World.random_insertUnder c (.ofRefreshToken tokens.refresh.text tokens.refresh.payload client) w₁
    simp only
    generalize w₁.insertUnder c _ = inserted at hinsert ⊢
    obtain ⟨⟨why⟩ | ⟨⟨e⟩ | ⟨session⟩⟩, w₂⟩ := inserted
    · exact ⟨hinsert, List.nil_sublist _⟩
    · exact ⟨hinsert, List.nil_sublist _⟩
    · exact ⟨hinsert, List.Sublist.refl _⟩

theorem accounted_openSession (t : TokenService) (c : CallContext) (subject : String) (client : Client)
    (w : World σ) :
    Accounted t.key w.random (t.pairCreations subject t.lifetimes w)
      (tokensIn (fun l => l.tokens.tokens) (t.openSession c subject client w).1)
      (t.openSession c subject client w).2.random := by
  obtain ⟨hrandom, htokens⟩ := t.draws_openSession c subject client w
  rw [hrandom]
  exact (accounted_issuePair t subject t.lifetimes w).fewer htokens

/-- A renewal tries no creation and fails, or answers with what it creates. -/
theorem renewAccess_cases (t : TokenService) (c : CallContext) (token : String) (w : World σ) :
    (t.renewalCreations c token w = [] ∧ (∃ e, (t.renewAccess c token w).1 = .error e) ∧
      (t.renewAccess c token w).2.random = w.random) ∨
    ∃ made, t.renewalCreations c token w = [made] ∧ made.random = w.random ∧
      tokensIn (fun i => [i]) (t.renewAccess c token w).1 = made.tokens t.key ∧
      (t.renewAccess c token w).2.random = made.rest t.key := by
  unfold renewalCreations renewAccess
  cases Token.verify t.key token w.now with
  | error e => exact .inl ⟨rfl, ⟨_, rfl⟩, rfl⟩
  | ok p =>
    have hfind := World.random_findUnder c p.id w
    simp only
    generalize w.findUnder c p.id = found at hfind ⊢
    obtain ⟨⟨why⟩ | ⟨⟨e⟩ | ⟨session⟩⟩, w₁⟩ := found
    · exact .inl ⟨rfl, ⟨_, rfl⟩, hfind⟩
    · exact .inl ⟨rfl, ⟨_, rfl⟩, hfind⟩
    · simp only
      split
      · exact .inl ⟨rfl, ⟨_, rfl⟩, hfind⟩
      · refine .inr ⟨_, rfl, hfind, ?_⟩
        have hissue : t.issueToken session.subject t.lifetimes.access w₁ =
            ((creation session.subject t.lifetimes.access w₁).result t.key,
              { w₁ with random := (creation session.subject t.lifetimes.access w₁).rest t.key }) := rfl
        rw [hissue, Creation.tokens]
        cases (creation session.subject t.lifetimes.access w₁).result t.key with
        | error e => exact ⟨rfl, rfl⟩
        | ok access => exact ⟨rfl, rfl⟩

theorem accounted_renewAccess (t : TokenService) (c : CallContext) (token : String) (w : World σ) :
    Accounted t.key w.random (t.renewalCreations c token w)
      (tokensIn (fun i => [i]) (t.renewAccess c token w).1) (t.renewAccess c token w).2.random := by
  rcases t.renewAccess_cases c token w with ⟨hmade, ⟨e, he⟩, hrandom⟩ | ⟨made, hmade, hrandom, htokens, hrest⟩
  · rw [hmade, he]
    exact .nothing hrandom
  · rw [hmade, htokens, hrest, ← hrandom]
    exact .single made

/-- A renewal that fails takes nothing, wherever it fails. -/
theorem random_of_renewAccess_error {t : TokenService} {c : CallContext} {token : String} {w : World σ}
    {e : AuthError} (h : (t.renewAccess c token w).1 = .error e) :
    (t.renewAccess c token w).2.random = w.random := by
  rcases t.renewAccess_cases c token w with ⟨-, -, hrandom⟩ | ⟨made, -, hrandom, htokens, hrest⟩
  · exact hrandom
  · have hnone : made.tokens t.key = [] := by
      rw [← htokens, h]
      rfl
    rw [hrest, made.rest_eq, hnone, ← hrandom]
    rfl

/-- **What an operation takes from the stream is accounted for by its creations.** -/
theorem accounted_outcome (t : TokenService) (o : Operation) (w : World σ) :
    Accounted t.key w.random (o.creations t w) (o.outcome t w).1 (o.outcome t w).2.random := by
  cases o with
  | openSession c subject client => exact accounted_openSession t c subject client w
  | issue subject duration => exact accounted_issueToken t subject duration w
  | issuePair subject lifetimes => exact accounted_issuePair t subject lifetimes w
  | renew c token => exact accounted_renewAccess t c token w
  | verify token => exact .nothing rfl
  | get id => exact .nothing (World.random_find id w)
  | create n => exact .nothing (World.random_insert n w)
  | block id => exact .nothing rfl

end TokenService

/-! ## Runs over one stream -/

/-- An operation, and what becomes of the surroundings before it. -/
structure Turn (σ : Type) where
  /-- The surroundings, which may change in any way. -/
  setting : World σ → World σ
  operation : Operation

/-- The surroundings of the operation. Only the stream goes on from where it was left. -/
def Turn.before {σ : Type} (u : Turn σ) (w : World σ) : World σ :=
  { u.setting w with random := w.random }

namespace TokenService

variable {σ : Type} [SessionStore σ]

/-- What is left by some turns. -/
def afterTurns (t : TokenService) : List (Turn σ) → World σ → World σ
  | [], w => w
  | u :: r, w => t.afterTurns r (u.operation.outcome t (u.before w)).2

/-- The creations that are tried in some turns, in their order. -/
def creations (t : TokenService) : List (Turn σ) → World σ → List Creation
  | [], _ => []
  | u :: r, w => u.operation.creations t (u.before w) ++ t.creations r (u.operation.outcome t (u.before w)).2

/-- The tokens that are handed out in some turns, in their order. -/
def handedOut (t : TokenService) : List (Turn σ) → World σ → List IssuedToken
  | [], _ => []
  | u :: r, w => (u.operation.outcome t (u.before w)).1 ++ t.handedOut r (u.operation.outcome t (u.before w)).2

section

variable (t : TokenService) (turns later : List (Turn σ)) (w : World σ)

theorem creations_append :
    t.creations (turns ++ later) w = t.creations turns w ++ t.creations later (t.afterTurns turns w) := by
  induction turns generalizing w with
  | nil => rfl
  | cons u r ih => rw [List.cons_append, creations, ih, creations, afterTurns, List.append_assoc]

theorem handedOut_append :
    t.handedOut (turns ++ later) w = t.handedOut turns w ++ t.handedOut later (t.afterTurns turns w) := by
  induction turns generalizing w with
  | nil => rfl
  | cons u r ih => rw [List.cons_append, handedOut, ih, handedOut, afterTurns, List.append_assoc]

end

/-- What some turns take from the stream is accounted for by their creations. -/
theorem accounted_turns (t : TokenService) (turns : List (Turn σ)) (w : World σ) :
    Accounted t.key w.random (t.creations turns w) (t.handedOut turns w) (t.afterTurns turns w).random := by
  induction turns generalizing w with
  | nil => exact .nothing rfl
  | cons u r ih => exact (accounted_outcome t u.operation (u.before w)).append (ih _)

/-- **No random byte serves two tokens.** In every run of operations over one stream, whatever becomes of the clock,
the store and its failures in between, the creations of tokens follow one another on the stream: each begins where the
one before has ended, and nothing else takes a byte, so that 48 are taken for each token made. A creation without a
subject or with an expiry out of range fails and takes nothing. Every other one makes a token, with the identifier from
the next 16 bytes and the nonce from the 32 bytes behind them, with which the body of its text begins. So no two
creations take the same byte, nor do those whose tokens are thrown away; and every token that is handed out is one of
those that were made, each handed out once. Look-ups and insertions take nothing, however they end; an opening takes
what its two tokens take, whatever the store answers; and a renewal that fails takes nothing, wherever it fails. -/
theorem no_byte_serves_two (t : TokenService) (turns : List (Turn σ)) (w : World σ) :
    Accounted t.key w.random (t.creations turns w) (t.handedOut turns w) (t.afterTurns turns w).random ∧
    (t.afterTurns turns w).random = { w.random with
      position := w.random.position + 48 * ((t.creations turns w).flatMap (Creation.tokens t.key)).length } ∧
    (∀ c ∈ t.creations turns w,
      if c.Refused then (∃ e, c.result t.key = .error e) ∧ c.rest t.key = c.random
      else ∃ i, c.result t.key = .ok i ∧ i.TakenFrom t.key w.random c.random.position ∧
        c.rest t.key = { c.random with position := c.random.position + 48 }) ∧
    ((t.creations turns w).Pairwise fun c d => ∀ n, ¬(c.Takes t.key n ∧ d.Takes t.key n)) ∧
    ∀ (v : World σ) (c : CallContext),
      (∀ id, (v.findUnder c id).2.random = v.random) ∧
      (∀ n, (v.insertUnder c n).2.random = v.random) ∧
      (∀ subject client,
        (t.openSession c subject client v).2.random = (t.issuePair subject t.lifetimes v).2.random) ∧
      ∀ token e, (t.renewAccess c token v).1 = .error e → (t.renewAccess c token v).2.random = v.random := by
  have haccounted := t.accounted_turns turns w
  refine ⟨haccounted, haccounted.linked.eq, fun c hc => ?creation, haccounted.linked.pairwise_apart, fun v c =>
    ⟨fun id => v.random_findUnder c id, fun n => v.random_insertUnder c n,
      fun subject client => (t.draws_openSession c subject client v).1, fun _ _ => random_of_renewAccess_error⟩⟩
  case creation =>
    split
    · next hrefused => exact Creation.result_of_refused t.key hrefused
    · next hrefused =>
      obtain ⟨i, hi⟩ := Creation.result_of_not_refused t.key hrefused
      exact ⟨i, hi, Creation.takenFrom_of_ok (haccounted.linked.of_mem hc).1 hi, Creation.rest_of_ok hi⟩

/-- During an outage two tokens are made and thrown away, without a subject none is, and a third is thrown away because
the expiry of the one behind it is out of range. The fourth is handed out and has the bytes behind all of these. -/
theorem no_byte_serves_two_outage :
    let t : TokenService := { key := ⟨List.replicate 32 0, rfl⟩ }
    let s : ByteStream := { byte := fun n => UInt8.ofNat n }
    let w := World.inMemory .empty .epoch s
    let turns : List (Turn MemoryStore) := [
      ⟨fun w => { w with outage? := some "no connection" }, .openSession .background "a" {}⟩,
      ⟨fun w => { w with outage? := none }, .issue "" .day⟩,
      ⟨id, .issuePair "a" { access := .day, refresh := ⟨Time.maxSpan, by decide, by decide⟩ }⟩,
      ⟨id, .issue "a" .day⟩]
    (t.creations turns w).map (fun c => c.random.position) = [0, 48, 96, 96, 144, 144] ∧
      (t.handedOut turns w).length = 1 ∧
      ∃ i ∈ t.handedOut turns w, i.payload.id.bytes = TokenId.markRandom (s.segment 144 16) ∧
        ∃ envelope, Token.envelope i.text = .ok envelope ∧ envelope.take 32 = s.segment 160 32 := by
  intro t s w turns
  have hpositions : (t.creations turns w).map (fun c => c.random.position) = [0, 48, 96, 96, 144, 144] := by
    decide +kernel
  have hcount : (t.handedOut turns w).length = 1 := by decide +kernel
  -- the last turn creates its token from what the others leave
  have hturns : turns = turns.take 3 ++ [⟨id, .issue "a" .day⟩] := rfl
  obtain ⟨v, hv⟩ : ∃ v, v = t.afterTurns (turns.take 3) w := ⟨_, rfl⟩
  have hmade : creation "a" .day v ∈ t.creations turns w := by
    rw [hturns, creations_append, ← hv]
    exact List.mem_append_right _ (List.mem_singleton_self _)
  have hrefused : ¬(creation "a" .day v).Refused := by
    rw [hv]
    decide +kernel
  have hposition : (creation "a" .day v).random.position = 144 := by
    rw [hv]
    decide +kernel
  obtain ⟨-, -, hcreations, -, -⟩ := no_byte_serves_two t turns w
  have hcreation := hcreations _ hmade
  rw [if_neg hrefused] at hcreation
  obtain ⟨i, hi, htaken, -⟩ := hcreation
  rw [hposition] at htaken
  have hhanded : i ∈ t.handedOut turns w := by
    rw [hturns, handedOut_append, ← hv]
    refine List.mem_append_right _ (List.mem_append_left _ ?_)
    show i ∈ tokensIn (fun i => [i]) ((creation "a" .day v).result t.key)
    rw [hi]
    exact List.mem_singleton_self i
  exact ⟨hpositions, hcount, i, hhanded, htaken.id, htaken.body⟩

end TokenService

end SessionTokens
