import SessionTokens.Proofs.Token.Lifetime
import SessionTokens.Proofs.World
import SessionTokens.TokenService

/-!
# What the opening of a session leaves behind

An opening that succeeds hands out a refresh token that was issued to the subject, and leaves a session in
the store that was made for that very token (`opened_of_openSession`). No opening loses a session that was
there before (`keeps_openSession`).
-/

namespace SessionTokens

open Crypto (SealingKey)
open Time (Instant Span)

/-- The session was made for the refresh token, which was issued under the key. -/
structure Login.Opened (key : SealingKey) (l : Login) : Prop where
  subject : l.session.subject ≠ ""
  /-- The text of the refresh token holds its payload. -/
  holds : Token.payload key l.tokens.refresh.text = .ok l.tokens.refresh.payload
  session : ∃ client now, l.session =
    (NewSession.ofRefreshToken l.tokens.refresh.text l.tokens.refresh.payload client).stored now

namespace TokenService

variable {t : TokenService} {c : CallContext} {subject : String} {client : Client}

/-! ## Tokens -/

section

variable {σ : Type} {w : World σ} {duration : Span}

theorem issueToken_of_empty (hsubject : subject = "") : t.issueToken subject duration w
    = (.error (.invalidArgument "subject must not be empty"), w) := by
  rw [issueToken, World.drawing, Token.issue_of_empty hsubject]

theorem issueToken_of_none (hsubject : subject ≠ "") (hsum : w.now.add? duration = none) :
    t.issueToken subject duration w
      = (.error (.invalidArgument ("token duration out of range: " ++ duration.toText)), w) := by
  rw [issueToken, World.drawing, Token.issue_of_none hsubject hsum]

theorem issueToken_of_some (hsubject : subject ≠ "") {expiry : Instant}
    (hsum : w.now.add? duration = some expiry) :
    ∃ i random, t.issueToken subject duration w = (.ok i, { w with random }) := by
  obtain ⟨i, hi, -⟩ := Token.issue_of_some t.key w.random hsubject hsum
  exact ⟨i, _, Prod.ext hi rfl⟩

end

/-! ## Pairs of tokens -/

theorem issuePair_of_some {σ : Type} {w : World σ} {lifetimes : Lifetimes} {a r : Instant}
    (hsubject : subject ≠ "") (ha : w.now.add? lifetimes.access = some a)
    (hr : w.now.add? lifetimes.refresh = some r) :
    ∃ pair random, t.issuePair subject lifetimes w = (.ok pair, { w with random }) := by
  obtain ⟨access, rest, hfirst⟩ := issueToken_of_some (t := t) hsubject ha
  -- the second token is drawn from where the first one left the stream
  obtain ⟨refresh, last, hsecond⟩ :=
    issueToken_of_some (t := t) (w := { w with random := rest }) hsubject hr
  refine ⟨⟨access, refresh⟩, last, ?_⟩
  unfold issuePair
  simp only [hfirst, hsecond]

/-- Both tokens of a pair were issued as they were asked for. -/
theorem issuedAs_of_issuePair {σ : Type} {w w' : World σ} {lifetimes : Lifetimes} {pair : TokenPair}
    (h : t.issuePair subject lifetimes w = (.ok pair, w')) :
    subject ≠ "" ∧ Token.IssuedAs t.key subject lifetimes.access w.now pair.access ∧
      Token.IssuedAs t.key subject lifetimes.refresh w.now pair.refresh := by
  unfold issuePair at h
  split at h
  · cases h
  · next access w₁ hfirst =>
    split at h
    · cases h
    · next refresh w₂ hsecond =>
      cases h
      have hnow : w₁.now = w.now := (congrArg (fun r => r.2.now) hfirst).symm
      obtain ⟨hsubject, haccess⟩ := Token.issuedAs_of_issue (congrArg Prod.fst hfirst)
      obtain ⟨-, hrefresh⟩ := Token.issuedAs_of_issue (congrArg Prod.fst hsecond)
      rw [hnow] at hrefresh
      exact ⟨hsubject, haccess, hrefresh⟩

/-- The texts of both tokens of a pair are their payloads, sealed under the key. -/
theorem texts_of_issuePair {σ : Type} {w w' : World σ} {lifetimes : Lifetimes} {pair : TokenPair}
    (h : t.issuePair subject lifetimes w = (.ok pair, w')) :
    (∃ nonce, pair.access.text = Token.ofContent t.key nonce (Text.Utf8.encode pair.access.payload.toJson)) ∧
      ∃ nonce,
        pair.refresh.text = Token.ofContent t.key nonce (Text.Utf8.encode pair.refresh.payload.toJson) := by
  unfold issuePair at h
  split at h
  · cases h
  · next access w₁ hfirst =>
    split at h
    · cases h
    · next refresh w₂ hsecond =>
      cases h
      exact ⟨⟨_, Token.text_of_issue (congrArg Prod.fst hfirst)⟩,
        ⟨_, Token.text_of_issue (congrArg Prod.fst hsecond)⟩⟩

/-- To issue tokens takes nothing but random bytes. -/
theorem store_issuePair {σ : Type} (t : TokenService) (subject : String) (lifetimes : Lifetimes)
    (w : World σ) : (t.issuePair subject lifetimes w).2.store = w.store := by
  have hfirst : (t.issueToken subject lifetimes.access w).2.store = w.store := rfl
  unfold issuePair
  split
  · next h =>
    rw [h] at hfirst
    exact hfirst
  · next access w₁ h =>
    rw [h] at hfirst
    have hsecond : (t.issueToken subject lifetimes.refresh w₁).2.store = w₁.store := rfl
    split <;> next h =>
      rw [h] at hsecond
      exact hsecond.trans hfirst

theorem keeps_issueToken (t : TokenService) (subject : String) (duration : Span)
    (w : World MemoryStore) : w.Keeps (t.issueToken subject duration w).2 :=
  World.keeps_drawing w _

theorem keeps_issuePair (t : TokenService) (subject : String) (lifetimes : Lifetimes)
    (w : World MemoryStore) : w.Keeps (t.issuePair subject lifetimes w).2 := by
  have hfirst := keeps_issueToken t subject lifetimes.access w
  unfold issuePair
  split
  · next h =>
    rw [h] at hfirst
    exact hfirst
  · next access w₁ h =>
    rw [h] at hfirst
    have hsecond := keeps_issueToken t subject lifetimes.refresh w₁
    split
    · next h =>
      rw [h] at hsecond
      exact hfirst.trans hsecond
    · next h =>
      rw [h] at hsecond
      exact hfirst.trans hsecond

/-! ## Openings -/

/-- The opening of a session loses no other session. -/
theorem keeps_openSession (t : TokenService) (c : CallContext) (subject : String) (client : Client)
    (w : World MemoryStore) : w.Keeps (t.openSession c subject client w).2 := by
  have hpair := keeps_issuePair t subject t.lifetimes w
  unfold openSession
  split
  · next h =>
    rw [h] at hpair
    exact hpair
  · next tokens w₁ h =>
    rw [h] at hpair
    have hinsert := World.keeps_insertUnder c
      (.ofRefreshToken tokens.refresh.text tokens.refresh.payload client) w₁
    split <;> next h =>
      rw [h] at hinsert
      exact hpair.trans hinsert

/-- An opening that succeeded hands out a pair of tokens that was issued for it. -/
theorem issuePair_of_openSession {σ : Type} [SessionStore σ] {w w' : World σ} {l : Login}
    (h : t.openSession c subject client w = (.ok l, w')) :
    ∃ w₁, t.issuePair subject t.lifetimes w = (.ok l.tokens, w₁) := by
  unfold openSession at h
  split at h
  · cases h
  · next tokens w₁ hpair =>
    split at h
    · cases h
    · cases h
    · cases h
      exact ⟨w₁, hpair⟩

/-- An opening that succeeded issued a refresh token to the subject, and added a session for it. -/
theorem openSession_eq_ok {σ : Type} [SessionStore σ] {w w' : World σ} {l : Login}
    (h : t.openSession c subject client w = (.ok l, w')) :
    subject ≠ "" ∧ Token.IssuedAs t.key subject t.lifetimes.refresh w.now l.tokens.refresh ∧
      ∃ w₁ : World σ, w₁.insert (.ofRefreshToken l.tokens.refresh.text l.tokens.refresh.payload client)
        = (.ok l.session, w') := by
  unfold openSession at h
  split at h
  · cases h
  · next tokens w₁ hpair =>
    split at h
    · cases h
    · cases h
    · next session w₂ hinsert =>
      cases h
      obtain ⟨hsubject, -, hrefresh⟩ := issuedAs_of_issuePair hpair
      exact ⟨hsubject, hrefresh, w₁, World.eq_of_under hinsert⟩

/-- The session of a refresh token that was issued was made for that token. -/
theorem opened_of_stored {l : Login} {opening now : Instant} (hsubject : subject ≠ "")
    (hrefresh : Token.IssuedAs t.key subject t.lifetimes.refresh opening l.tokens.refresh)
    (hstored : l.session =
      (NewSession.ofRefreshToken l.tokens.refresh.text l.tokens.refresh.payload client).stored now) :
    l.Opened t.key := by
  refine ⟨?_, hrefresh.holds, client, now, hstored⟩
  rw [hstored]
  show l.tokens.refresh.payload.subject ≠ ""
  rwa [hrefresh.subject]

/-- **An opened session is found, and was made for its refresh token.** -/
theorem opened_of_openSession {w w' : World MemoryStore} {l : Login}
    (h : t.openSession c subject client w = (.ok l, w')) :
    l.Opened t.key ∧ w'.store.find? l.session.id = some l.session ∧
      Token.IssuedAs t.key subject t.lifetimes.refresh w.now l.tokens.refresh := by
  obtain ⟨hsubject, hrefresh, w₁, hinsert⟩ := openSession_eq_ok h
  obtain ⟨⟨now, hstored⟩, hfind⟩ := World.find?_of_insert hinsert
  refine ⟨opened_of_stored hsubject hrefresh hstored, ?_, hrefresh⟩
  rw [show l.session.id = l.tokens.refresh.payload.id by rw [hstored]; rfl]
  exact hfind

section

variable {σ : Type} [SessionStore σ] {w w₁ : World σ} {pair : TokenPair} {store : σ}

/-- With both tokens issued, the store decides. -/
theorem openSession_of_stored {s : Session}
    (hissue : t.issuePair subject t.lifetimes w = (.ok pair, w₁)) (hw : w₁.Prompt) (hc : c.Admitted)
    (hinsert : SessionStore.insert
      (.ofRefreshToken pair.refresh.text pair.refresh.payload client) w₁.now w₁.store = (.ok s, store)) :
    t.openSession c subject client w
      = (.ok ⟨s, pair⟩, { w₁ with store, insertions := w₁.insertions + 1 }) := by
  unfold openSession
  simp only [hissue, World.insertUnder, World.under_of_prompt hw hc, World.insert_of_prompt hw, hinsert]

theorem openSession_of_store_error {e : StoreError}
    (hissue : t.issuePair subject t.lifetimes w = (.ok pair, w₁)) (hw : w₁.Prompt) (hc : c.Admitted)
    (hinsert : SessionStore.insert
      (.ofRefreshToken pair.refresh.text pair.refresh.payload client) w₁.now w₁.store
        = (.error e, store)) :
    t.openSession c subject client w
      = (.error (.internal ("error creating session: " ++ e.message)),
        { w₁ with store, insertions := w₁.insertions + 1 }) := by
  unfold openSession
  simp only [hissue, World.insertUnder, World.under_of_prompt hw hc, World.insert_of_prompt hw, hinsert]

end

/-- Over a store that takes any session, a session is opened wherever both tokens can be issued and the call
is not over. -/
theorem openSession_of_insert {σ : Type} [SessionStore σ] (t : TokenService) (c : CallContext)
    (subject : String) (client : Client) {w : World σ} (hw : w.Prompt) (hc : c.Admitted) {a r : Instant}
    (hsubject : subject ≠ "")
    (ha : w.now.add? t.lifetimes.access = some a) (hr : w.now.add? t.lifetimes.refresh = some r)
    (hinsert : ∀ n : NewSession, (SessionStore.insert n w.now w.store).1 = .ok (n.stored w.now)) :
    ∃ l w', t.openSession c subject client w = (.ok l, w') ∧ l.session.createdAt = w.now := by
  obtain ⟨pair, random, hissue⟩ := issuePair_of_some (t := t) hsubject ha hr
  have hw₁ : World.Prompt { w with random } := ⟨hw.latency, hw.outage⟩
  exact ⟨_, _, openSession_of_stored hissue hw₁ hc (Prod.ext (hinsert _) rfl), rfl⟩

/-- Over a store without sessions, a session is opened. -/
theorem openSession_of_empty (t : TokenService) (c : CallContext) (subject : String)
    (client : Client) {w : World MemoryStore} (hw : w.Prompt) (hc : c.Admitted) {a r : Instant}
    (hsubject : subject ≠ "")
    (ha : w.now.add? t.lifetimes.access = some a) (hr : w.now.add? t.lifetimes.refresh = some r)
    (hempty : ∀ id, w.store.find? id = none) :
    ∃ l w', t.openSession c subject client w = (.ok l, w') := by
  obtain ⟨l, w', hopen, -⟩ := openSession_of_insert t c subject client hw hc hsubject ha hr
    fun n => congrArg Prod.fst (MemoryStore.insert_of_none (hempty n.id))
  exact ⟨l, w', hopen⟩

end TokenService

end SessionTokens
