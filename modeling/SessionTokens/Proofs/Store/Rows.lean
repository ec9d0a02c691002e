import SessionTokens.Proofs.Store.Table
import SessionTokens.Proofs.Time.Spelling

/-!
# What a row says

Rows are written by other programs too, with any offset and any fraction in their times. A row is read exactly
if its identifier is one and both its times are spelled as they may be; the times of the session are the moments
that they spell, so that how they are spelled does not count (`toSession_exact`). Otherwise the fault is that
of the first field that cannot be read.
-/

namespace SessionTokens.SessionRow

open Time (Instant)
open Time.Strict (Spelling)

variable {r r' : SessionRow} {f : RowFault}

/-! ## Faults -/

/-- The fault of the first field that cannot be read: the identifier, the end or the start of the session. -/
inductive FirstFault (r : SessionRow) : RowFault → Prop where
  /-- The identifier cannot be read. -/
  | id {fault : TokenId.Fault} (hid : TokenId.read r.id = .error fault) : FirstFault r (.id r.id fault)
  /-- The identifier can be read, and the end spells no moment. -/
  | expiresAt {id : TokenId} {fault : Time.Strict.Fault} (hid : TokenId.read r.id = .ok id)
      (hnone : ∀ t, ¬Time.Strict.Spells r.expiresAt t)
      (hfault : Time.Strict.read r.expiresAt = .error fault) : FirstFault r (.timestamp r.expiresAt fault)
  /-- The identifier and the end can be read, and the start spells no moment. -/
  | createdAt {id : TokenId} {t : Instant} {fault : Time.Strict.Fault} (hid : TokenId.read r.id = .ok id)
      (hexpires : Time.Strict.Spells r.expiresAt t) (hnone : ∀ t, ¬Time.Strict.Spells r.createdAt t)
      (hfault : Time.Strict.read r.createdAt = .error fault) : FirstFault r (.timestamp r.createdAt fault)

theorem not_spells_of_error {text : String} {fault : Time.Strict.Fault}
    (h : Time.Strict.read text = .error fault) (t : Instant) : ¬Time.Strict.Spells text t := by
  intro ht
  rw [Time.Strict.read_eq_ok_iff.mpr ht] at h
  cases h

theorem readId_eq_error_iff {text : String} :
    readId text = .error f ↔ ∃ fault, TokenId.read text = .error fault ∧ f = .id text fault := by
  unfold readId
  cases TokenId.read text <;> simp [eq_comm]

theorem readTimestamp_eq_error_iff {text : String} :
    readTimestamp text = .error f ↔
      ∃ fault, Time.Strict.read text = .error fault ∧ f = .timestamp text fault := by
  unfold readTimestamp
  cases Time.Strict.read text <;> simp [eq_comm]

/-- **A row that is not read has the fault of its first field that cannot be read.** -/
theorem toSession_eq_error_iff : r.toSession = .error f ↔ r.FirstFault f := by
  simp only [toSession, bind_eq_error_iff, readId_eq_error_iff, readTimestamp_eq_error_iff, readId_eq_ok_iff,
    readTimestamp_eq_ok_iff, pure_ne_error, and_false, exists_false, or_false]
  constructor
  · rintro (⟨fault, hfault, rfl⟩ | ⟨id, hid, ⟨fault, hfault, rfl⟩ | ⟨t, hexpires, fault, hfault, rfl⟩⟩)
    · exact .id hfault
    · exact .expiresAt hid (not_spells_of_error hfault) hfault
    · exact .createdAt hid (Time.Strict.read_eq_ok_iff.mp hexpires) (not_spells_of_error hfault) hfault
  · intro h
    cases h with
    | id hid => exact Or.inl ⟨_, hid, rfl⟩
    | expiresAt hid _ hfault => exact Or.inr ⟨_, hid, Or.inl ⟨_, hfault, rfl⟩⟩
    | createdAt hid hexpires _ hfault =>
      exact Or.inr ⟨_, hid, Or.inr ⟨_, Time.Strict.read_eq_ok_iff.mpr hexpires, _, hfault, rfl⟩⟩

/-! ## Spellings -/

/-- The rows are the same but for the spelling of their times. -/
structure Respelled (r r' : SessionRow) : Prop where
  rest : r' = { r with expiresAt := r'.expiresAt, createdAt := r'.createdAt }
  expiresAt : ∃ t, Time.Strict.Spells r.expiresAt t ∧ Time.Strict.Spells r'.expiresAt t
  createdAt : ∃ t, Time.Strict.Spells r.createdAt t ∧ Time.Strict.Spells r'.createdAt t

theorem readTimestamp_congr {text text' : String}
    (h : ∃ t, Time.Strict.Spells text t ∧ Time.Strict.Spells text' t) :
    readTimestamp text = readTimestamp text' := by
  obtain ⟨t, ht, ht'⟩ := h
  rw [readTimestamp_eq_ok_iff.mpr (Time.Strict.read_eq_ok_iff.mpr ht),
    readTimestamp_eq_ok_iff.mpr (Time.Strict.read_eq_ok_iff.mpr ht')]

theorem Respelled.toSession_eq (h : r.Respelled r') : r.toSession = r'.toSession := by
  have hexpires := readTimestamp_congr h.expiresAt
  have hcreated := readTimestamp_congr h.createdAt
  rw [h.rest]
  simp only [toSession, hexpires, hcreated]

/-- A row is read if each of its three fields can be read by itself. -/
theorem isOk_toSession_iff :
    (∃ s, r.toSession = .ok s) ↔
      (∃ id, TokenId.read r.id = .ok id) ∧
        (∃ p : Spelling, p.Proper ∧ r.expiresAt.toList = p.chars) ∧
        ∃ p : Spelling, p.Proper ∧ r.createdAt.toList = p.chars := by
  rw [← Time.Strict.exists_spells_iff, ← Time.Strict.exists_spells_iff]
  constructor
  · rintro ⟨s, hs⟩
    have hspells := toSession_eq_ok_iff.mp hs
    exact ⟨⟨s.id, hspells.id⟩, ⟨s.expiresAt, Time.Strict.read_eq_ok_iff.mp hspells.expiresAt⟩,
      ⟨s.createdAt, Time.Strict.read_eq_ok_iff.mp hspells.createdAt⟩⟩
  · rintro ⟨⟨id, hid⟩, ⟨expiresAt, hexpires⟩, createdAt, hcreated⟩
    exact ⟨⟨id, r.subject, r.refreshToken, r.userAgent, r.clientIp, decide (r.isBlocked ≠ 0), expiresAt,
      createdAt⟩, toSession_eq_ok_iff.mpr ⟨hid, Time.Strict.read_eq_ok_iff.mpr hexpires,
        Time.Strict.read_eq_ok_iff.mpr hcreated, rfl, rfl, rfl, rfl, rfl⟩⟩

/-! ## The whole -/

/-- **A row means the moments that it spells.** It is read exactly if its identifier can be read and both its
times are proper spellings, and the session has the moments that they spell and all else as it stands in the
row. Rows that differ in the spelling of their times alone are read as the same session, which admits the same
tokens. A row that cannot be read has the fault of its first bad field, in the order of the identifier, the end
and the start, and a table in which it is found fails with the wording of that fault. -/
theorem toSession_exact (r : SessionRow) :
    ((∃ s, r.toSession = .ok s) ↔
      (∃ id, TokenId.read r.id = .ok id) ∧
        (∃ p : Spelling, p.Proper ∧ r.expiresAt.toList = p.chars) ∧
        ∃ p : Spelling, p.Proper ∧ r.createdAt.toList = p.chars) ∧
    (∀ s, r.toSession = .ok s →
      TokenId.read r.id = .ok s.id ∧
        Time.Strict.Spells r.expiresAt s.expiresAt ∧ Time.Strict.Spells r.createdAt s.createdAt ∧
        s.subject = r.subject ∧ s.refreshToken = r.refreshToken ∧ s.userAgent = r.userAgent ∧
        s.clientIp = r.clientIp ∧ s.isBlocked = decide (r.isBlocked ≠ 0)) ∧
    (∀ r', r.Respelled r' →
      r.toSession = r'.toSession ∧
      ∀ s s', r.toSession = .ok s → r'.toSession = .ok s' →
        s = s' ∧ ∀ p token now, s.rejection? p token now = s'.rejection? p token now) ∧
    ∀ f, r.toSession = .error f →
      r.FirstFault f ∧
      ∀ (t : SessionTable) (id : TokenId), t.row? id.toText = some r →
        t.find id = .error (.backend f.message) := by
  refine ⟨isOk_toSession_iff, fun s hs => ?fields, fun r' hrespelled => ⟨hrespelled.toSession_eq, ?same⟩,
    fun f hf => ⟨toSession_eq_error_iff.mp hf, fun t id hrow => ?backend⟩⟩
  case fields =>
    have h := toSession_eq_ok_iff.mp hs
    exact ⟨h.id, Time.Strict.read_eq_ok_iff.mp h.expiresAt, Time.Strict.read_eq_ok_iff.mp h.createdAt,
      h.subject, h.refreshToken, h.userAgent, h.clientIp, h.isBlocked⟩
  case same =>
    intro s s' hs hs'
    rw [hrespelled.toSession_eq, hs'] at hs
    cases hs
    exact ⟨rfl, fun _ _ _ => rfl⟩
  case backend =>
    unfold SessionTable.find
    simp only [hrow, hf]

/-- The end of a session may be written in Adelaide's time. -/
theorem toSession_exact_adelaide :
    let r : SessionRow :=
      { id := "00000000-0000-4000-8000-000000000001"
        expiresAt := "2023-12-31T15:28:20Z"
        createdAt := "2023-12-31T15:13:20Z" }
    let r' : SessionRow := { r with expiresAt := "2024-01-01 01:58:20.000+10:30" }
    r.toSession = r'.toSession ∧ ∃ s, r.toSession = .ok s := by
  intro r r'
  have hend : Time.Strict.read r.expiresAt = .ok ⟨1704036500, 0, by decide, by decide, by decide⟩ := by
    decide +kernel
  have hend' : Time.Strict.read r'.expiresAt = .ok ⟨1704036500, 0, by decide, by decide, by decide⟩ := by
    decide +kernel
  have hstart : Time.Strict.read r.createdAt = .ok ⟨1704035600, 0, by decide, by decide, by decide⟩ := by
    decide +kernel
  have hid : (TokenId.read r.id).isOk = true := by decide +kernel
  have hrespelled : r.Respelled r' :=
    ⟨rfl, ⟨_, Time.Strict.read_eq_ok_iff.mp hend, Time.Strict.read_eq_ok_iff.mp hend'⟩,
      ⟨_, Time.Strict.read_eq_ok_iff.mp hstart, Time.Strict.read_eq_ok_iff.mp hstart⟩⟩
  obtain ⟨hread, -, hsame, -⟩ := toSession_exact r
  refine ⟨(hsame r' hrespelled).1, hread.mpr ⟨?_, ?_, ?_⟩⟩
  · cases h : TokenId.read r.id with
    | ok id => exact ⟨id, rfl⟩
    | error e => simp [h, Except.isOk, Except.toBool] at hid
  · exact Time.Strict.exists_spells_iff.mp ⟨_, Time.Strict.read_eq_ok_iff.mp hend⟩
  · exact Time.Strict.exists_spells_iff.mp ⟨_, Time.Strict.read_eq_ok_iff.mp hstart⟩

end SessionTokens.SessionRow
