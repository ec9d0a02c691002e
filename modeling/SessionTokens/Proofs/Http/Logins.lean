import SessionTokens.Proofs.Http.Revocation
import SessionTokens.Proofs.TokenService.Logins

/-!
# Logins over a table

A session that a table took is found there, and its refresh token renews and revokes, exactly if the times of
the session are in years of four digits. A table takes other sessions too: then the login succeeds, but the
row is never read again, and nothing can be done with the refresh token (`found_exactly_if_legible`).
-/

namespace SessionTokens

open Crypto (SealingKey)
open Time (Instant Span)

namespace Server

theorem admitted_callContext {s : Server} (h : 0 < s.settings.storeTimeout) :
    s.callContext.Admitted := by
  refine ⟨by simp [callContext], ?_⟩
  simp [CallContext.Overdue, callContext]
  omega

end Server

namespace TokenService

/-! ## The session of a login in a table -/

variable {t : TokenService} {c : CallContext} {subject : String} {client : Client} {l : Login}

/-- The session of a login is in the table, and is found if its times can be read in a row. -/
theorem opened_in_table {w w' : World SessionTable}
    (h : t.openSession c subject client w = (.ok l, w')) :
    l.Opened t.key ∧
      if l.session.Legible then w'.store.find l.session.id = .ok l.session
      else ∃ message, w'.store.find l.session.id = .error (.backend message) := by
  obtain ⟨hsubject, hrefresh, w₁, hinsert⟩ := openSession_eq_ok h
  have hstored := World.insert_eq_ok hinsert
  obtain ⟨-, hsession, -⟩ := SessionTable.insert_eq_ok hstored
  exact ⟨opened_of_stored hsubject hrefresh hsession, SessionTable.find_of_insert hstored⟩

/-- Over an empty table a session is opened that ends with its refresh token. -/
theorem openSession_of_empty_table {w : World SessionTable} (hw : w.Prompt) (hempty : w.store = .empty)
    (hc : c.Admitted) (hsubject : subject ≠ "") (client : Client)
    (ha : (w.now.add? t.lifetimes.access).isSome) {r : Instant} (hr : w.now.add? t.lifetimes.refresh = some r) :
    ∃ l w', t.openSession c subject client w = (.ok l, w') ∧ l.session.createdAt = w.now ∧
      l.session.expiresAt = r ∧ l.tokens.refresh.payload.expiredAt = r := by
  have hinsert (n : NewSession) : (SessionStore.insert n w.now w.store).1 = .ok (n.stored w.now) := by
    rw [hempty]
    rfl
  obtain ⟨a, ha⟩ := Option.isSome_iff_exists.mp ha
  obtain ⟨l, w', hopen, hcreated⟩ := openSession_of_insert t c subject client hw hc hsubject ha hr hinsert
  obtain ⟨⟨-, -, client', now, hsession⟩, -⟩ := opened_in_table hopen
  obtain ⟨-, hissued, -⟩ := openSession_eq_ok hopen
  have hexpiry : l.tokens.refresh.payload.expiredAt = r :=
    Option.some.inj (hissued.expiredAt.symm.trans hr)
  refine ⟨l, w', hopen, hcreated, ?_, hexpiry⟩
  rw [hsession]
  exact hexpiry

/-! ## The refresh token of a login -/

section

variable {s : Server} {u : World SessionTable} (hu : u.Prompt) (hs : 0 < s.settings.storeTimeout)
  (hl : l.Opened s.service.key) (hnow : u.now < l.tokens.refresh.payload.expiredAt)

include hu hs hl hnow

theorem revoke_of_found (hfind : u.store.find l.session.id = .ok l.session) :
    (Http.revoke s l.tokens.refresh.text u).1 = .ok () := by
  obtain ⟨client, now, hsession⟩ := hl.session
  have hsubject : l.session.subject = l.tokens.refresh.payload.subject := by
    rw [hsession]
    rfl
  have hrefresh : l.session.refreshToken = l.tokens.refresh.text := by
    rw [hsession]
    rfl
  rw [← hl.id_eq] at hfind
  obtain ⟨u', hrevoke⟩ := Http.revoke_of_find (Http.timely_of_prompt hs hu)
    (Http.presents_of_lt hl.holds hnow) hfind hsubject
    (hrefresh.trans (Token.trim_of_payload hl.holds).symm)
  rw [hrevoke]

/-- Where the session of a login cannot be read, neither a renewal nor a revocation can. -/
theorem fails_of_backend {message : String}
    (hfind : u.store.find l.session.id = .error (.backend message)) :
    (s.service.renewAccess s.callContext l.tokens.refresh.text u).1 = .error (.internal message) ∧
      (Http.revoke s l.tokens.refresh.text u).1 = .error (.store (.backend message)) := by
  rw [← hl.id_eq] at hfind
  have hfound : SessionStore.find l.tokens.refresh.payload.id u.store = .error (.backend message) := hfind
  have hlookup := Http.findUnder_of_timely (Http.timely_of_prompt hs hu) l.tokens.refresh.payload.id
  rw [hfound] at hlookup
  have hrenew := renewAccess_of_error (t := s.service) hu (Server.admitted_callContext hs)
    (Token.verify_of_lt hl.holds hnow) hfound
  have hrevoke := Http.revoke_of_store_error (Http.presents_of_lt hl.holds hnow) hlookup
  exact ⟨congrArg Prod.fst hrenew, congrArg Prod.fst hrevoke⟩

end

/-! ## All sessions and all logins -/

/-- **A table finds the sessions that it took exactly if their times are in years of four digits.** Whatever
was added to whatever table at whatever moment is found from then on as it was stored, if the years of its
expiry and of that moment have four digits; otherwise the look-up fails in the store. So with the refresh
token of a login to a server, while it is valid, a renewal gives the verdict on an unrevoked session and a
revocation succeeds, or both fail in the store. -/
theorem found_exactly_if_legible (s : Server) :
    (∀ (n : NewSession) (now : Instant) (t t' : SessionTable) (session : Session),
      t.insert n now = (.ok session, t') →
        if session.Legible then t'.find session.id = .ok session
        else ∃ message, t'.find session.id = .error (.backend message)) ∧
    ∀ (c : CallContext) (subject : String) (client : Client) (l : Login) (w w' : World SessionTable),
      0 < s.settings.storeTimeout → s.service.openSession c subject client w = (.ok l, w') →
      ∀ u : World SessionTable, u.Prompt → u.store = w'.store →
        u.now < l.tokens.refresh.payload.expiredAt →
        if l.session.Legible then
          (s.service.renewAccess s.callContext l.tokens.refresh.text u).1.map IssuedToken.terms
              = s.service.verdict l false u.now ∧
            (Http.revoke s l.tokens.refresh.text u).1 = .ok ()
        else
          ∃ message,
            (s.service.renewAccess s.callContext l.tokens.refresh.text u).1
                = .error (.internal message) ∧
              (Http.revoke s l.tokens.refresh.text u).1 = .error (.store (.backend message)) := by
  refine ⟨fun n now t t' session => SessionTable.find_of_insert, ?_⟩
  intro c subject client l w w' hs hopen u hu hstore hnow
  obtain ⟨hl, hfind⟩ := opened_in_table hopen
  rw [← hstore] at hfind
  split
  · next hlegible =>
    rw [if_pos hlegible] at hfind
    exact ⟨terms_renewAccess hu (Server.admitted_callContext hs) hl hfind,
      revoke_of_found hu hs hl hnow hfind⟩
  · next hlegible =>
    rw [if_neg hlegible] at hfind
    obtain ⟨message, hfind⟩ := hfind
    exact ⟨message, fails_of_backend hu hs hl hnow hfind⟩

/-- A session that ends within a day is taken and found, and a login for a day can be revoked. -/
theorem found_exactly_if_legible_day :
    let n : NewSession :=
      { id := ⟨List.replicate 16 7, rfl⟩, subject := "a", refreshToken := "t", client := {}
        expiresAt := ⟨86399, 0, by decide, by decide, by decide⟩ }
    let s : Server :=
      { settings := ⟨80, "sqlite::memory:", "", 900, 86400, 1000⟩
        service := { key := ⟨List.replicate 32 0, rfl⟩, lifetimes := { refresh := .day } } }
    let w : World SessionTable := { store := .empty, now := .epoch, random := ⟨fun _ => 7, 0⟩ }
    (∃ t, SessionTable.empty.insert n .epoch = (.ok (n.stored .epoch), t) ∧
      t.find n.id = .ok (n.stored .epoch)) ∧
    ∃ l w', s.service.openSession .background "a" {} w = (.ok l, w') ∧
      (Http.revoke s l.tokens.refresh.text { w with store := w'.store }).1 = .ok () := by
  intro n s w
  refine ⟨⟨_, rfl, ?_⟩, ?_⟩
  · have hfind := (found_exactly_if_legible s).1 n .epoch .empty _ _ rfl
    have hlegible : (n.stored .epoch).Legible := by decide +kernel
    rwa [if_pos hlegible] at hfind
  · let nextDay : Instant := ⟨86400, 0, by decide, by decide, by decide⟩
    have hnextDay : Instant.epoch < nextDay := by decide
    obtain ⟨l, w', hopen, hcreated, hexpires, hpayload⟩ :=
      openSession_of_empty_table (t := s.service) (w := w) ⟨rfl, rfl⟩ rfl CallContext.admitted_background
        (show "a" ≠ "" by decide) {} (by decide) (r := nextDay) (by decide)
    have hlegible : l.session.Legible := by
      rw [Session.Legible, hcreated, hexpires]
      decide +kernel
    have hanswers := (found_exactly_if_legible s).2 .background "a" {} l w w' (by decide) hopen
      { w with store := w'.store } ⟨rfl, rfl⟩ rfl (hpayload ▸ hnextDay)
    rw [if_pos hlegible] at hanswers
    exact ⟨l, w', hopen, hanswers.2⟩

/-- A session that ends with the start of the year 10000 is taken and not found again, and a login until
then can neither be renewed nor revoked. -/
theorem not_found_year10000 :
    let newYear : Instant := ⟨253402300800, 0, by decide, by decide, by decide⟩
    let n : NewSession :=
      { id := ⟨List.replicate 16 7, rfl⟩, subject := "a", refreshToken := "t", client := {}
        expiresAt := newYear }
    let untilThen : Span := ⟨253402300800 * Time.second, by decide, by decide⟩
    let s : Server :=
      { settings := ⟨80, "sqlite::memory:", "", 900, 900, 1000⟩
        service := { key := ⟨List.replicate 32 0, rfl⟩, lifetimes := { refresh := untilThen } } }
    let w : World SessionTable := { store := .empty, now := .epoch, random := ⟨fun _ => 7, 0⟩ }
    (∃ t, SessionTable.empty.insert n .epoch = (.ok (n.stored .epoch), t) ∧
      t.find n.id ≠ .ok (n.stored .epoch)) ∧
    ∃ l w', s.service.openSession .background "a" {} w = (.ok l, w') ∧
      Instant.epoch < l.tokens.refresh.payload.expiredAt ∧
      ∃ message,
        (s.service.renewAccess s.callContext l.tokens.refresh.text { w with store := w'.store }).1
            = .error (.internal message) ∧
          (Http.revoke s l.tokens.refresh.text { w with store := w'.store }).1
            = .error (.store (.backend message)) := by
  intro newYear n untilThen s w
  have hlate : ¬(n.stored .epoch).Legible := by decide +kernel
  refine ⟨⟨_, rfl, ?_⟩, ?_⟩
  · have hfind := SessionTable.find_of_insert (show SessionTable.empty.insert n .epoch = _ from rfl)
    rw [if_neg hlate] at hfind
    obtain ⟨message, hfind⟩ := hfind
    intro hfound
    cases hfind.symm.trans hfound
  · have hnewYear : Instant.epoch < newYear := by decide
    obtain ⟨l, w', hopen, -, hexpires, hpayload⟩ :=
      openSession_of_empty_table (t := s.service) (w := w) ⟨rfl, rfl⟩ rfl CallContext.admitted_background
        (show "a" ≠ "" by decide) {} (by decide) (r := newYear) (by decide)
    obtain ⟨hl, hfind⟩ := opened_in_table hopen
    have hillegible : ¬l.session.Legible := by
      rw [Session.Legible, hexpires]
      exact fun h => hlate ⟨h.1, by decide +kernel⟩
    rw [if_neg hillegible] at hfind
    obtain ⟨message, hfind⟩ := hfind
    have hnow : Instant.epoch < l.tokens.refresh.payload.expiredAt := hpayload ▸ hnewYear
    exact ⟨l, w', hopen, hnow, message, fails_of_backend (u := { w with store := w'.store }) ⟨rfl, rfl⟩
      (by decide) hl hnow hfind⟩

end TokenService

end SessionTokens
