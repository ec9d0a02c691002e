import SessionTokens.Proofs.TokenService.Opening

/-!
# An opening is all or nothing

An opening that fails leaves the store as it was, and one that succeeds adds exactly the session that it
hands out (`openSession_all_or_nothing`). Which of several errors is reported is told by `openingError?`,
which asks for the subject and the expiries before the call context, and for the store last.
-/

namespace SessionTokens

open Crypto (Nonce)
open Time (Instant Span)

namespace MemoryStore

/-- An insertion that fails leaves the store as it was. -/
theorem store_of_insert_error {m : MemoryStore} {n : NewSession} {now : Instant} {e : StoreError}
    (h : (m.insert n now).1 = .error e) : (m.insert n now).2 = m := by
  cases hs : m.find? n.id with
  | some s => rw [insert_of_some hs]
  | none => simp [insert_of_none hs] at h

end MemoryStore

namespace TokenService

/-! ## The order of the errors -/

/-- The error of an expiry that is out of range. -/
def outOfRange (duration : Span) : AuthError :=
  .invalidArgument ("token duration out of range: " ++ duration.toText)

/-- Why a pair of tokens is not issued, if it is not. -/
def issuingError? (subject : String) (lifetimes : Lifetimes) (now : Instant) : Option AuthError :=
  if subject = "" then some (.invalidArgument "subject must not be empty")
  else if now.add? lifetimes.access = none then some (outOfRange lifetimes.access)
  else if now.add? lifetimes.refresh = none then some (outOfRange lifetimes.refresh)
  else none

/-- The error of an identifier that is taken. -/
def takenError (id : TokenId) : AuthError :=
  .internal ("error creating session: " ++ (StoreError.backend (MemoryStore.taken id)).message)

/-- Why a session with the given identifier is not opened over a store in memory, if it is not. -/
def openingError? (t : TokenService) (c : CallContext) (subject : String) (m : MemoryStore)
    (now : Instant) (id : TokenId) : Option AuthError :=
  (issuingError? subject t.lifetimes now).or <|
    if c.IsCancelled then some .cancelled
    else if c.Overdue 0 then some .deadlineExceeded
    else if (m.find? id).isSome then some (takenError id)
    else none

variable {t : TokenService} {c : CallContext} {subject : String} {client : Client}

/-! ## Pairs of tokens -/

/-- The identifier of a refresh token, which is drawn after the identifier and the nonce of the access
token. -/
def refreshId (s : ByteStream) : TokenId :=
  (TokenId.random (Nonce.random (TokenId.random s).2).2).1

/-- The first token decides on the subject and its own expiry, before the second one is issued. -/
theorem issuePair_of_error {σ : Type} {w : World σ} {lifetimes : Lifetimes} {e : AuthError}
    (h : issuingError? subject lifetimes w.now = some e) :
    (t.issuePair subject lifetimes w).1 = .error e := by
  unfold issuingError? at h
  unfold issuePair
  split at h
  · next hsubject =>
    cases h
    simp only [issueToken_of_empty hsubject]
  split at h
  · next hsubject haccess =>
    cases h
    simp only [issueToken_of_none hsubject haccess, outOfRange]
  split at h
  · next hsubject haccess hrefresh =>
    cases h
    obtain ⟨expiry, hexpiry⟩ := Option.ne_none_iff_exists'.mp haccess
    obtain ⟨access, random, hfirst⟩ := issueToken_of_some (t := t) hsubject hexpiry
    have hsecond : t.issueToken subject lifetimes.refresh { w with random }
        = (.error (outOfRange lifetimes.refresh), { w with random }) :=
      issueToken_of_none hsubject hrefresh
    simp only [hfirst, hsecond]
  · cases h

theorem issuePair_of_issuable {σ : Type} {w : World σ} {lifetimes : Lifetimes}
    (h : issuingError? subject lifetimes w.now = none) :
    ∃ pair random, t.issuePair subject lifetimes w = (.ok pair, { w with random }) := by
  unfold issuingError? at h
  split at h
  · cases h
  split at h
  · cases h
  split at h
  · cases h
  next hsubject haccess hrefresh =>
  obtain ⟨a, ha⟩ := Option.ne_none_iff_exists'.mp haccess
  obtain ⟨r, hr⟩ := Option.ne_none_iff_exists'.mp hrefresh
  exact issuePair_of_some hsubject ha hr

/-- The refresh token of a pair has the identifier that is drawn behind the access token. -/
theorem id_of_issuePair {σ : Type} {w w' : World σ} {lifetimes : Lifetimes} {pair : TokenPair}
    (h : t.issuePair subject lifetimes w = (.ok pair, w')) :
    pair.refresh.payload.id = refreshId w.random := by
  unfold issuePair at h
  split at h
  · cases h
  · next access w₁ hfirst =>
    split at h
    · cases h
    · next refresh w₂ hsecond =>
      cases h
      -- the second token is drawn from where the first one left the stream
      obtain ⟨-, hdrawn⟩ := Token.drawn_of_issue (congrArg Prod.fst hfirst)
      have hrandom : w₁.random = (Token.issue t.key subject lifetimes.access w.now w.random).2 :=
        (congrArg (fun r => r.2.random) hfirst).symm
      rw [(Token.drawn_of_issue (congrArg Prod.fst hsecond)).1, hrandom, hdrawn]
      rfl

/-! ## Nothing -/

/-- An insertion under a context that adds no session leaves the store as it was. -/
theorem store_of_insertUnder {n : NewSession} {w : World MemoryStore}
    (h : ∀ s, (w.insertUnder c n).1 ≠ .ok (.ok s)) : (w.insertUnder c n).2.store = w.store := by
  rcases World.insertUnder_cases c n w with ⟨-, hstore⟩ | ⟨hresult, hstore⟩
  · exact hstore
  · cases hinsert : (w.store.insert n (w.now.afterMillis w.latency)).1 with
    | ok s => exact absurd (hresult.trans (congrArg Except.ok hinsert)) (h s)
    | error e => exact hstore.trans (MemoryStore.store_of_insert_error hinsert)

/-- An opening that fails leaves the store as it was, however long the store takes. -/
theorem store_of_openSession {w w' : World MemoryStore} {e : AuthError}
    (h : t.openSession c subject client w = (.error e, w')) : w'.store = w.store := by
  have hpair := store_issuePair t subject t.lifetimes w
  unfold openSession at h
  split at h
  · next hissue =>
    cases h
    rw [hissue] at hpair
    exact hpair
  · next tokens w₁ hissue =>
    rw [hissue] at hpair
    have hinsert := store_of_insertUnder (c := c) (w := w₁)
      (n := .ofRefreshToken tokens.refresh.text tokens.refresh.payload client)
    split at h
    · next hmade =>
      cases h
      rw [hmade] at hinsert
      exact (hinsert (by simp)).trans hpair
    · next hmade =>
      cases h
      rw [hmade] at hinsert
      exact (hinsert (by simp)).trans hpair
    · cases h

/-! ## What an opening answers -/

/-- Without tokens, the session is not tried. -/
theorem openSession_of_unissued {σ : Type} [SessionStore σ] {w : World σ} {e : AuthError}
    (h : issuingError? subject t.lifetimes w.now = some e) :
    (t.openSession c subject client w).1 = .error e := by
  have hpair : t.issuePair subject t.lifetimes w = (.error e, (t.issuePair subject t.lifetimes w).2) :=
    Prod.ext (issuePair_of_error h) rfl
  unfold openSession
  rw [hpair]

section

variable {w w₁ : World MemoryStore} {pair : TokenPair}
  (hissue : t.issuePair subject t.lifetimes w = (.ok pair, w₁))

include hissue

theorem openSession_of_cancelled (hc : c.IsCancelled) :
    (t.openSession c subject client w).1 = .error .cancelled := by
  unfold openSession
  simp only [hissue, World.insertUnder, World.under_of_cancelled hc]
  rfl

theorem openSession_of_overdue (hc : ¬c.IsCancelled) (hd : c.Overdue 0) :
    (t.openSession c subject client w).1 = .error .deadlineExceeded := by
  unfold openSession
  simp only [hissue, World.insertUnder, World.under_of_overdue hc hd]
  rfl

variable (hw : w₁.Prompt) (hc : c.Admitted)

include hw hc

theorem openSession_of_taken {s : Session} (hs : w₁.store.find? pair.refresh.payload.id = some s) :
    (t.openSession c subject client w).1 = .error (takenError pair.refresh.payload.id) := by
  rw [openSession_of_store_error hissue hw hc (MemoryStore.insert_of_some hs)]
  rfl

/-- A session that is added is the last entry of the store. -/
theorem openSession_of_free (client : Client) (hs : w₁.store.find? pair.refresh.payload.id = none) :
    let s := (NewSession.ofRefreshToken pair.refresh.text pair.refresh.payload client).stored w₁.now
    t.openSession c subject client w =
      (.ok ⟨s, pair⟩,
        { w₁ with
          store := ⟨w₁.store.entries ++ [(s.id, s)]⟩
          insertions := w₁.insertions + 1 }) :=
  openSession_of_stored hissue hw hc (MemoryStore.insert_of_none hs)

end

/-- What is handed out by an opening at a moment: two tokens as they were asked for, and the session that was
stored for the refresh token. -/
structure Granted (t : TokenService) (subject : String) (client : Client) (now : Instant) (l : Login) :
    Prop where
  access : Token.IssuedAs t.key subject t.lifetimes.access now l.tokens.access
  refresh : Token.IssuedAs t.key subject t.lifetimes.refresh now l.tokens.refresh
  session : l.session =
    (NewSession.ofRefreshToken l.tokens.refresh.text l.tokens.refresh.payload client).stored now

section

variable {w : World MemoryStore} (hw : w.Prompt)

include hw

/-- An opening fails with the error that comes first. -/
theorem openSession_of_error (client : Client) {e : AuthError}
    (h : openingError? t c subject w.store w.now (refreshId w.random) = some e) :
    (t.openSession c subject client w).1 = .error e := by
  unfold openingError? at h
  cases hissuing : issuingError? subject t.lifetimes w.now with
  | some e' =>
    rw [hissuing] at h
    cases h
    exact openSession_of_unissued hissuing
  | none =>
    obtain ⟨pair, random, hissue⟩ := issuePair_of_issuable (t := t) hissuing
    have hid := id_of_issuePair hissue
    rw [hissuing, Option.none_or, ← hid] at h
    split at h
    · next hcancel =>
      cases h
      exact openSession_of_cancelled hissue hcancel
    split at h
    · next hcancel hover =>
      cases h
      exact openSession_of_overdue hissue hcancel hover
    split at h
    · next hcancel hover htaken =>
      cases h
      obtain ⟨s, hs⟩ := Option.isSome_iff_exists.mp htaken
      exact openSession_of_taken hissue ⟨hw.latency, hw.outage⟩ ⟨hcancel, hover⟩ hs
    · cases h

/-- An opening without a reason to fail grants what it was asked for, and adds one session. -/
theorem openSession_of_none (client : Client)
    (h : openingError? t c subject w.store w.now (refreshId w.random) = none) :
    ∃ l, (t.openSession c subject client w).1 = .ok l ∧ t.Granted subject client w.now l ∧
      l.session.id = refreshId w.random ∧ w.store.find? l.session.id = none ∧
      (t.openSession c subject client w).2.store = ⟨w.store.entries ++ [(l.session.id, l.session)]⟩ := by
  unfold openingError? at h
  obtain ⟨hissuing, h⟩ := Option.or_eq_none_iff.mp h
  obtain ⟨pair, random, hissue⟩ := issuePair_of_issuable (t := t) hissuing
  have hid := id_of_issuePair hissue
  split at h
  · cases h
  split at h
  · cases h
  split at h
  · cases h
  next hcancel hover hfree =>
  rw [← hid] at hfree ⊢
  have hs := Option.not_isSome_iff_eq_none.mp hfree
  obtain ⟨-, haccess, hrefresh⟩ := issuedAs_of_issuePair hissue
  rw [openSession_of_free hissue ⟨hw.latency, hw.outage⟩ ⟨hcancel, hover⟩ client hs]
  exact ⟨_, rfl, ⟨haccess, hrefresh, rfl⟩, rfl, hs, rfl⟩

end

/-! ## All or nothing -/

/-- **An opening is all or nothing.** Over a store in memory it fails with the error that comes first, and
leaves the store as it was; or it adds exactly one session, the one that it hands out, under the identifier
drawn for the refresh token, which was free. That session says what the refresh token says, whom it was
opened for and from where, and when; and both tokens are read back until they expire. -/
theorem openSession_all_or_nothing (t : TokenService) (c : CallContext) (subject : String)
    (client : Client) (m : MemoryStore) (now : Instant) (random : ByteStream) :
    let r := t.openSession c subject client (World.inMemory m now random)
    (∀ e, r.1 = .error e ↔ openingError? t c subject m now (refreshId random) = some e) ∧
    (∀ e, r.1 = .error e → r.2.store = m) ∧
    ∀ l, r.1 = .ok l →
      let access := l.tokens.access
      let refresh := l.tokens.refresh
      r.2.store.entries = m.entries ++ [(l.session.id, l.session)] ∧
      m.find? l.session.id = none ∧ l.session.id = refreshId random ∧
      l.session =
        { id := refresh.payload.id
          subject := subject
          refreshToken := refresh.text
          userAgent := client.userAgent
          clientIp := client.ip
          isBlocked := false
          expiresAt := refresh.payload.expiredAt
          createdAt := now } ∧
      Token.IssuedAs t.key subject t.lifetimes.access now access ∧
      Token.IssuedAs t.key subject t.lifetimes.refresh now refresh ∧
      (∀ u, u < access.payload.expiredAt → Token.verify t.key access.text u = .ok access.payload) ∧
      (∀ u, u < refresh.payload.expiredAt →
        Token.verify t.key refresh.text u = .ok refresh.payload) := by
  intro r
  have hw : (World.inMemory m now random).Prompt := World.prompt_inMemory m now random
  refine ⟨fun e => ⟨fun he => ?first, openSession_of_error hw client⟩, fun e he => ?nothing,
    fun l hl => ?all⟩
  case first =>
    cases hwhy : openingError? t c subject m now (refreshId random) with
    | none =>
      obtain ⟨l, hl, -⟩ := openSession_of_none hw client hwhy
      cases hl.symm.trans he
    | some e' =>
      cases (openSession_of_error hw client hwhy).symm.trans he
      rfl
  case nothing => exact store_of_openSession (Prod.ext he rfl)
  case all =>
    intro access refresh
    cases hwhy : openingError? t c subject m now (refreshId random) with
    | some e => cases (openSession_of_error hw client hwhy).symm.trans hl
    | none =>
      obtain ⟨l', hl', hgrant, hid, hfree, hstore⟩ := openSession_of_none hw client hwhy
      cases hl'.symm.trans hl
      refine ⟨congrArg MemoryStore.entries hstore, hfree, hid, ?_, hgrant.access, hgrant.refresh, ?_, ?_⟩
      · rw [hgrant.session, ← hgrant.refresh.subject]
        rfl
      · exact fun u => Token.verify_of_lt hgrant.access.holds
      · exact fun u => Token.verify_of_lt hgrant.refresh.holds

/-- The first opening over a store without sessions succeeds, and leaves the one session. -/
theorem openSession_all_or_nothing_first :
    let t : TokenService := { key := ⟨List.replicate 32 0, rfl⟩ }
    let r := t.openSession .background "a" {} (World.inMemory .empty .epoch ⟨fun _ => 7, 0⟩)
    ∃ l, r.1 = .ok l ∧ r.2.store.entries = [(l.session.id, l.session)] := by
  intro t r
  obtain ⟨herror, -, hok⟩ :=
    openSession_all_or_nothing t .background "a" {} .empty .epoch ⟨fun _ => 7, 0⟩
  have hnone : openingError? t .background "a" .empty .epoch (refreshId ⟨fun _ => 7, 0⟩) = none := by
    decide
  cases hr : r.1 with
  | error e => cases hnone.symm.trans ((herror e).mp hr)
  | ok l => exact ⟨l, rfl, (hok l hr).1⟩

end TokenService

end SessionTokens
