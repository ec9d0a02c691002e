import SessionTokens.Proofs.Settings.Soundness
import SessionTokens.Proofs.TokenService.AllOrNothing
import SessionTokens.Proofs.TokenService.Renewal

/-!
# Lifetimes from settings

Settings accept any lifetime that is a span, while a token is issued only if its expiry is a moment, and spans
are longer than the range of moments. So a lifetime that was accepted may still be one with which no token is
issued (`accepted_lifetime_unissuable`); a lifetime of up to 260000 years never is, until the end of the year
2100 (`issuable_iff_reaches`).
-/

namespace SessionTokens

open Crypto (SealingKey)
open Time (Instant Span)

/-! ## Moments that a lifetime reaches -/

/-- The moment that many seconds later is in the range. -/
def Time.Instant.Reaches (now : Instant) (seconds : Nat) : Prop :=
  now.seconds + seconds ≤ Time.maxSeconds

namespace Time.Instant

/-- A positive number of seconds can be added exactly if the range is not left, from inside a leap second
too. -/
theorem add?_eq_none_iff_of_seconds (now : Instant) {d : Span} {n : Nat} (hd : d.nanos = n * second)
    (hn : 1 ≤ n) : now.add? d = none ↔ ¬now.Reaches n := by
  have hnanos := now.nanos_lt
  have hmin := now.min_le
  unfold Reaches
  by_cases hordinary : now.Ordinary
  · rw [add?_eq_none_iff hordinary]
    simp only [Ordinary, total, hd, second, minSeconds, maxSeconds] at *
    omega
  · have hbeyond : ¬((now.nanos : Int) + d.nanos < second) ∧ ¬((now.nanos : Int) + d.nanos < 2 * second) := by
      simp only [Ordinary, hd, second] at *
      omega
    unfold add?
    simp only [hordinary, hbeyond, or_self, if_false, ofTotal?_eq_none_iff]
    simp only [Ordinary, total, hd, second, minSeconds, maxSeconds] at *
    omega

/-- A moment comes before the end of its year. -/
theorem seconds_lt_of_year_le {t : Instant} {y : Int} (h : t.reading.date.year ≤ y) :
    t.seconds < (yearStart (y + 1) - epochDay) * daySeconds := by
  have hday := lt_yearStart_yearOf_succ (t.seconds / daySeconds + epochDay)
  rw [← Date.year_ofDayNumber] at hday
  change (Date.ofDayNumber (t.seconds / daySeconds)).year ≤ y at h
  generalize (Date.ofDayNumber (t.seconds / daySeconds)).year = x at *
  have hmono : yearStart (x + 1) ≤ yearStart (y + 1) := by
    simp only [yearStart]
    omega
  simp only [daySeconds, epochDay] at *
  omega

end Time.Instant

/-- The longest lifetime with which tokens are issued until the end of the year 2100, in seconds. -/
def Settings.safeLifetime : Nat := 8206132896000

/-- A moment at which tokens with the lifetimes of the settings are issued. -/
def Settings.IssuableAt (s : Settings) (now : Instant) : Prop :=
  now.Reaches s.accessSeconds ∧ now.Reaches s.refreshSeconds

theorem Settings.reaches_of_le {now : Instant} {seconds : Nat} (hyear : now.reading.date.year ≤ 2100)
    (h : seconds ≤ safeLifetime) : now.Reaches seconds := by
  have hend := Time.Instant.seconds_lt_of_year_le hyear
  have hstart : Time.yearStart (2100 + 1) = 767375 := by decide
  rw [hstart] at hend
  simp only [Time.Instant.Reaches, safeLifetime, Time.maxSeconds, Time.epochDay, Time.daySeconds] at *
  omega

namespace TokenService

variable {t : TokenService} {subject : String} {lifetimes : Lifetimes}

/-! ## Pairs of tokens -/

/-- Lifetimes of so many seconds. -/
structure Lasting (lifetimes : Lifetimes) (access refresh : Nat) : Prop where
  access_pos : 1 ≤ access
  refresh_pos : 1 ≤ refresh
  access : lifetimes.access.nanos = access * Time.second
  refresh : lifetimes.refresh.nanos = refresh * Time.second

variable {access refresh : Nat} {now : Instant}

/-- Of the two lifetimes, that of the access token is found to be too long first. -/
theorem issuingError?_of_lasting (now : Instant) (hl : Lasting lifetimes access refresh)
    (hsubject : subject ≠ "") :
    (now.Reaches access → now.Reaches refresh → issuingError? subject lifetimes now = none) ∧
      (¬now.Reaches access → issuingError? subject lifetimes now = some (outOfRange lifetimes.access)) ∧
      (now.Reaches access → ¬now.Reaches refresh →
        issuingError? subject lifetimes now = some (outOfRange lifetimes.refresh)) := by
  have haccess := Time.Instant.add?_eq_none_iff_of_seconds now hl.access hl.access_pos
  have hrefresh := Time.Instant.add?_eq_none_iff_of_seconds now hl.refresh hl.refresh_pos
  unfold issuingError?
  rw [if_neg hsubject]
  refine ⟨fun ha hr => ?_, fun ha => if_pos (haccess.mpr ha), fun ha hr => ?_⟩
  · rw [if_neg (fun h => haccess.mp h ha), if_neg (fun h => hrefresh.mp h hr)]
  · rw [if_neg (fun h => haccess.mp h ha), if_pos (hrefresh.mpr hr)]

theorem issuingError?_eq_none_iff (hl : Lasting lifetimes access refresh) (hsubject : subject ≠ "") :
    issuingError? subject lifetimes now = none ↔ now.Reaches access ∧ now.Reaches refresh := by
  obtain ⟨hnone, haccess, hrefresh⟩ := issuingError?_of_lasting now hl hsubject
  refine ⟨fun h => ?_, fun ⟨ha, hr⟩ => hnone ha hr⟩
  by_contra hnot
  by_cases ha : now.Reaches access
  · cases h.symm.trans (hrefresh ha fun hr => hnot ⟨ha, hr⟩)
  · cases h.symm.trans (haccess ha)

theorem invalidArgument_of_issuingError? {e : AuthError} (h : issuingError? subject lifetimes now = some e) :
    ∃ m, e = .invalidArgument m := by
  unfold issuingError? at h
  split at h
  · exact ⟨_, (Option.some.inj h).symm⟩
  split at h
  · exact ⟨_, (Option.some.inj h).symm⟩
  split at h
  · exact ⟨_, (Option.some.inj h).symm⟩
  · cases h

section

variable {σ : Type} {w : World σ}

theorem isOk_issuePair_iff :
    (∃ pair, (t.issuePair subject lifetimes w).1 = .ok pair) ↔
      issuingError? subject lifetimes w.now = none := by
  cases h : issuingError? subject lifetimes w.now with
  | none =>
    obtain ⟨pair, random, hissue⟩ := issuePair_of_issuable (t := t) h
    exact iff_of_true ⟨pair, by rw [hissue]⟩ rfl
  | some e => simp [issuePair_of_error h]

variable [SessionStore σ]

/-- An argument of an opening is invalid exactly where the tokens are not issued. -/
theorem openSession_invalidArgument_iff (c : CallContext) (client : Client) :
    (∃ m, (t.openSession c subject client w).1 = .error (.invalidArgument m)) ↔
      issuingError? subject t.lifetimes w.now ≠ none := by
  constructor
  · -- behind the issuing no error is of this kind
    rintro ⟨m, hm⟩ hnone
    obtain ⟨pair, random, hissue⟩ := issuePair_of_issuable (t := t) hnone
    unfold openSession at hm
    rw [hissue] at hm
    simp only at hm
    split at hm
    · next why _ _ => cases why <;> cases hm
    · cases hm
    · cases hm
  · intro h
    obtain ⟨e, he⟩ := Option.ne_none_iff_exists'.mp h
    obtain ⟨m, rfl⟩ := invalidArgument_of_issuingError? he
    exact ⟨m, openSession_of_unissued he⟩

/-! ## Renewals -/

/-- A renewal that passed all checks takes the clock and the access lifetime alone to decide whether there is a
token. -/
theorem renewAccess_of_lasting (hl : Lasting t.lifetimes access refresh) {c : CallContext} {token : String}
    {p : Payload} {session : Session} {w' : World σ} (hv : Token.verify t.key token w.now = .ok p)
    (hs : w.findUnder c p.id = (.ok (.ok session), w')) (hr : ¬session.Rejects p token w'.now)
    (hsubject : session.subject ≠ "") :
    (w'.now.Reaches access → ∃ a, (t.renewAccess c token w).1 = .ok a) ∧
      (¬w'.now.Reaches access → (t.renewAccess c token w).1
        = .error (.internal ("error creating access token: " ++ (outOfRange t.lifetimes.access).message))) := by
  have hnone := Time.Instant.add?_eq_none_iff_of_seconds w'.now hl.access hl.access_pos
  constructor
  · intro ha
    obtain ⟨expiry, hsum⟩ := Option.ne_none_iff_exists'.mp fun h => hnone.mp h ha
    obtain ⟨a, random, hissue⟩ := issueToken_of_some (t := t) hsubject hsum
    exact ⟨a, by rw [renewAccess_of_found_admits hv hs hr hissue]; rfl⟩
  · intro ha
    have hissue := issueToken_of_none (t := t) hsubject (hnone.mpr ha)
    rw [renewAccess_of_found_admits hv hs hr hissue]
    rfl

end

/-! ## Lifetimes that settings gave -/

theorem lasting_of_read {env : Environment} {s : Settings} (hread : Settings.read env = .ok s)
    (hlifetimes : s.lifetimes? = some lifetimes) : Lasting lifetimes s.accessSeconds s.refreshSeconds := by
  have hsound := Settings.sound_of_read hread
  obtain ⟨l, hl, haccess, hrefresh⟩ := hsound.lifetimes
  cases hl.symm.trans hlifetimes
  exact ⟨hsound.access.1, hsound.refresh.1, haccess, hrefresh⟩

/-- **Tokens are issued for as long as their expiries are moments.** With settings that were read, a pair of
tokens is issued exactly if the clock reaches both expiries, and the error tells the first lifetime that is too
long. An argument of an opening is invalid exactly if a pair is not issued, and a renewal that passed all checks
fails exactly if the clock does not reach the expiry of the access token. Until the end of the year 2100 that
never happens to lifetimes of up to 8206132896000 seconds. -/
theorem issuable_iff_reaches {env : Environment} {s : Settings} (hread : Settings.read env = .ok s)
    (hlifetimes : s.lifetimes? = some lifetimes) (key : SealingKey) (hsubject : subject ≠ "") {σ : Type}
    [SessionStore σ] (w : World σ) :
    let t : TokenService := { key, lifetimes }
    (∀ now : Instant, now.reading.date.year ≤ 2100 → s.accessSeconds ≤ Settings.safeLifetime →
      s.refreshSeconds ≤ Settings.safeLifetime → s.IssuableAt now) ∧
    ((∃ pair, (t.issuePair subject lifetimes w).1 = .ok pair) ↔ s.IssuableAt w.now) ∧
    (¬w.now.Reaches s.accessSeconds →
      (t.issuePair subject lifetimes w).1 = .error (outOfRange lifetimes.access)) ∧
    (w.now.Reaches s.accessSeconds → ¬w.now.Reaches s.refreshSeconds →
      (t.issuePair subject lifetimes w).1 = .error (outOfRange lifetimes.refresh)) ∧
    (∀ c client, (∃ m, (t.openSession c subject client w).1 = .error (.invalidArgument m)) ↔
      ¬s.IssuableAt w.now) ∧
    ∀ c token p session w', Token.verify key token w.now = .ok p →
      w.findUnder c p.id = (.ok (.ok session), w') → ¬session.Rejects p token w'.now →
      session.subject ≠ "" →
      (w'.now.Reaches s.accessSeconds → ∃ a, (t.renewAccess c token w).1 = .ok a) ∧
      (¬w'.now.Reaches s.accessSeconds → (t.renewAccess c token w).1
        = .error (.internal ("error creating access token: " ++ (outOfRange lifetimes.access).message))) := by
  intro t
  have hl := lasting_of_read hread hlifetimes
  have hiff : issuingError? subject lifetimes w.now = none ↔ s.IssuableAt w.now :=
    issuingError?_eq_none_iff hl hsubject
  obtain ⟨-, haccess, hrefresh⟩ := issuingError?_of_lasting w.now hl hsubject
  refine ⟨fun now hyear ha hr => ?safe, isOk_issuePair_iff.trans hiff, fun ha => ?access,
    fun ha hr => ?refresh, fun c client => ?opening, fun c token p session w' hv hs hr hne => ?renewal⟩
  case safe => exact ⟨Settings.reaches_of_le hyear ha, Settings.reaches_of_le hyear hr⟩
  case access => exact issuePair_of_error (haccess ha)
  case refresh => exact issuePair_of_error (hrefresh ha hr)
  case opening => exact (openSession_invalidArgument_iff c client).trans (not_congr hiff)
  case renewal => exact renewAccess_of_lasting hl hv hs hr hne

/-- With the longest lifetime that is always issued until the end of the year 2100, access tokens are issued at
the epoch. -/
theorem issuable_iff_reaches_longest :
    let env : Environment := fun name =>
      if name = Settings.keyVariable then some "0123456789abcdef0123456789abcdef"
      else if name = Settings.accessVariable then some "8206132896000" else none
    ∃ s lifetimes, Settings.read env = .ok s ∧ s.lifetimes? = some lifetimes ∧
      s.accessSeconds = Settings.safeLifetime ∧
      ∀ key, ∃ pair, (TokenService.issuePair { key, lifetimes } "alice" lifetimes
        (World.inMemory .empty .epoch ⟨fun _ => 7, 0⟩)).1 = .ok pair := by
  intro env
  have hread : Settings.read env = .ok ⟨4100, "sqlite://sessions.db", "0123456789abcdef0123456789abcdef",
      8206132896000, 86400, 5000⟩ := by
    decide +kernel
  obtain ⟨lifetimes, hlifetimes, -⟩ := (Settings.sound_of_read hread).lifetimes
  refine ⟨_, lifetimes, hread, hlifetimes, rfl, fun key => ?_⟩
  obtain ⟨hsafe, hissue, -⟩ := issuable_iff_reaches hread hlifetimes key (by decide : "alice" ≠ "")
    (World.inMemory .empty .epoch ⟨fun _ => 7, 0⟩)
  exact hissue.mpr (hsafe .epoch (by decide) (by decide) (by decide))

/-- The longest lifetime that settings accept is one with which no token is issued, at the epoch for one. -/
theorem accepted_lifetime_unissuable :
    let env : Environment := fun name =>
      if name = Settings.keyVariable then some "0123456789abcdef0123456789abcdef"
      else if name = Settings.accessVariable then some "9223372036854775" else none
    let w : World MemoryStore := World.inMemory .empty .epoch ⟨fun _ => 7, 0⟩
    ∃ s lifetimes, Settings.read env = .ok s ∧ s.lifetimes? = some lifetimes ∧
      w.now.reading.date.year = 1970 ∧
      ∀ key, (TokenService.issuePair { key, lifetimes } "alice" lifetimes w).1
        = .error (.invalidArgument "token duration out of range: PT9223372036854775S") := by
  intro env w
  have hread : Settings.read env = .ok ⟨4100, "sqlite://sessions.db", "0123456789abcdef0123456789abcdef",
      9223372036854775, 86400, 5000⟩ := by
    decide +kernel
  let lifetimes : Lifetimes := { access := ⟨9223372036854775 * Time.second, by decide, by decide⟩ }
  have herror : issuingError? "alice" lifetimes w.now
      = some (.invalidArgument "token duration out of range: PT9223372036854775S") := by
    decide +kernel
  exact ⟨_, lifetimes, hread, rfl, by decide, fun key => issuePair_of_error herror⟩

end TokenService

end SessionTokens
