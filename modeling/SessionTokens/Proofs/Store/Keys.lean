import SessionTokens.Proofs.Store.Growth
import SessionTokens.Proofs.TokenId.Spelling

/-!
# Identifiers as keys

A table finds its rows by written identifiers, and reads the identifiers of sessions from them. Each identifier has one
written form, and what is read from it is that identifier again, so that a session is found by its own identifier and
by no other, and nothing that is done under one identifier shows under another (`identifiers_as_keys`).
-/

namespace SessionTokens

open Time (Instant)

namespace TokenId

/-! ## The written form -/

/-- The written form is the digits in lower case, in groups. -/
theorem grouped_toText (id : TokenId) : Grouped (Text.Hex.encode id.bytes) id.toText.toList := by
  rw [toText, String.toList_ofList]
  exact grouped_hyphenate id.length_digits

theorem length_toText (id : TokenId) : id.toText.length = 36 := by
  rw [toText, String.length_ofList, toChars, length_hyphenate id.length_digits]

theorem toLower_toText (id : TokenId) : ∀ c ∈ id.toText.toList, c.toLower = c := by
  intro c hc
  rw [toText, String.toList_ofList] at hc
  rcases mem_hyphenate hc with rfl | hdigit
  · rfl
  · exact List.map_inj_left.mp ((Text.Hex.toLower_encode id.bytes).trans (List.map_id _).symm) c hdigit

theorem spells_toText (id : TokenId) : id.Spells id.toText.toList :=
  .grouped (Text.Hex.toLower_encode id.bytes) id.grouped_toText

end TokenId

namespace SessionTable

variable {t : SessionTable} {id other : TokenId}

/-! ## The session of an identifier -/

/-- **What is found is the session of the identifier.** It is in the row with its own written identifier. -/
theorem find_eq_ok_iff_of_nodup (ht : (t.rows.map SessionRow.id).Nodup) {s : Session} :
    t.find id = .ok s ↔ s.id = id ∧ ∃ r ∈ t.rows, r.id = s.id.toText ∧ r.toSession = .ok s := by
  constructor
  · intro h
    obtain ⟨r, hr, hs⟩ := find_eq_ok_iff.mp h
    obtain ⟨hmem, hkey⟩ := row?_spec hr
    obtain rfl := id_of_find h
    exact ⟨rfl, r, hmem, hkey, SessionRow.toSession_eq_ok_iff.mpr hs⟩
  · rintro ⟨rfl, r, hmem, hkey, hs⟩
    exact find_eq_ok_iff.mpr ⟨r, (row?_eq_some_iff ht).mpr ⟨hmem, hkey⟩, SessionRow.toSession_eq_ok_iff.mp hs⟩

/-! ## Other identifiers -/

/-- What is found under an identifier is in its row. -/
theorem find_congr {t' : SessionTable} (h : t.row? id.toText = t'.row? id.toText) : t.find id = t'.find id := by
  unfold find
  rw [h]

theorem find_insert_of_ne (t : SessionTable) {n : NewSession} (now : Instant) (h : other ≠ n.id) :
    (t.insert n now).2.find other = t.find other := by
  rcases insert_cases n now t with hins | ⟨-, hins⟩
  · rw [hins]
  · rw [hins]
    have hkey : n.id.toText ≠ other.toText := fun htext => h (TokenId.toText_inj htext.symm)
    refine find_congr ?_
    simp [row?, SessionRow.ofSession, NewSession.stored, hkey]

theorem find_block_of_ne (t : SessionTable) (h : other ≠ id) : (t.block id).2.find other = t.find other := by
  cases hid : t.row? id.toText with
  | none => rw [block_of_none hid]
  | some r₀ =>
    refine find_congr ?_
    rw [row?_block_eq hid]
    cases hother : t.row? other.toText with
    | none => rfl
    | some r =>
      -- a row is marked under its own key, which is not this one
      have hkey : r.id ≠ id.toText := by
        rw [(row?_spec hother).2]
        exact fun htext => h (TokenId.toText_inj htext)
      rw [Option.map_some, if_neg hkey]

/-! ## The whole -/

/-- **Identifiers are faithful keys.** The written form of every identifier has 36 characters, which are its digits
in lower case with hyphens between the groups, and is read as that identifier; two identifiers never have the same
one. A text is read as an identifier exactly if it is one of its spellings, and every text that spells none is an
argument without a meaning. What a table finds under an identifier is the session of that identifier, in the row with
its written form; and whatever is added or revoked under an identifier, the same is found under every other. -/
theorem identifiers_as_keys :
    (∀ id : TokenId,
      id.toText.length = 36 ∧ TokenId.Grouped (Text.Hex.encode id.bytes) id.toText.toList ∧
        (∀ c ∈ id.toText.toList, c.toLower = c) ∧ TokenId.ofArgument id.toText = .ok id) ∧
    (∀ id other : TokenId, id.toText = other.toText ↔ id = other) ∧
    (∀ (text : String) (id : TokenId), TokenId.ofArgument text = .ok id ↔ id.Spells text.toList) ∧
    (∀ text : String, (∃ message, TokenId.ofArgument text = .error (.invalidArgument message)) ↔
      ∀ id : TokenId, ¬id.Spells text.toList) ∧
    ∀ (t : SessionTable) (id : TokenId),
      (∀ s, t.find id = .ok s → s.id = id) ∧
      ((t.rows.map SessionRow.id).Nodup → ∀ s, t.find id = .ok s ↔
        s.id = id ∧ ∃ r ∈ t.rows, r.id = s.id.toText ∧ r.toSession = .ok s) ∧
      ∀ other, other ≠ id →
        (t.block id).2.find other = t.find other ∧
        ∀ (n : NewSession) (now : Instant), n.id = id → (t.insert n now).2.find other = t.find other := by
  refine ⟨fun id => ⟨id.length_toText, id.grouped_toText, id.toLower_toText, ?written⟩,
    fun id other => ⟨TokenId.toText_inj, congrArg TokenId.toText⟩, fun _ _ => TokenId.ofArgument_eq_ok_iff,
    fun _ => TokenId.ofArgument_eq_invalid_iff,
    fun t id => ⟨fun s => id_of_find, fun ht s => find_eq_ok_iff_of_nodup ht, fun other hother => ⟨?block, ?insert⟩⟩⟩
  case written => exact TokenId.ofArgument_eq_ok_iff.mpr id.spells_toText
  case block => exact find_block_of_ne t hother
  case insert =>
    rintro n now rfl
    exact find_insert_of_ne t now hother

/-- An identifier in braces, with some letters in capitals, beside the one that differs from it in one bit. -/
theorem identifiers_as_keys_neighbours :
    let id : TokenId :=
      ⟨[0x7f, 0x3c, 0x1c, 0x9e, 0x2b, 0x64, 0x4d, 0x0a, 0x9a, 0x51, 0x0c, 0x8b, 0x6a, 0x1d, 0xe0, 0x42], rfl⟩
    let other : TokenId :=
      ⟨[0x7f, 0x3c, 0x1c, 0x9e, 0x2b, 0x64, 0x4d, 0x0a, 0x9a, 0x51, 0x0c, 0x8b, 0x6a, 0x1d, 0xe0, 0x43], rfl⟩
    let row : SessionRow :=
      { id := "7f3c1c9e-2b64-4d0a-9a51-0c8b6a1de042"
        expiresAt := "2023-12-31T15:28:20Z"
        createdAt := "2023-12-31T15:13:20Z" }
    let t : SessionTable := ⟨[row, { row with id := "7f3c1c9e-2b64-4d0a-9a51-0c8b6a1de043" }]⟩
    let s : Session :=
      { id := id
        subject := ""
        refreshToken := ""
        userAgent := ""
        clientIp := ""
        isBlocked := false
        expiresAt := ⟨1704036500, 0, by decide, by decide, by decide⟩
        createdAt := ⟨1704035600, 0, by decide, by decide, by decide⟩ }
    TokenId.ofArgument "\x7b7F3C1C9E-2b64-4d0A-9a51-0c8b6a1dE042\x7d" = .ok id ∧
      (t.rows.map SessionRow.id).Nodup ∧ t.find id = .ok s ∧ (t.block other).2.find id = .ok s := by
  intro id other row t s
  have hgrouped : TokenId.Grouped "7F3C1C9E2b644d0A9a510c8b6a1dE042".toList
      "7F3C1C9E-2b64-4d0A-9a51-0c8b6a1dE042".toList :=
    ⟨_, _, _, _, _, (TokenId.take_append_groups _).symm, rfl, rfl, rfl, rfl, rfl, rfl⟩
  have hdigits : id.HasDigits "7F3C1C9E2b644d0A9a510c8b6a1dE042".toList := by
    unfold TokenId.HasDigits
    decide +kernel
  have hkeys : (t.rows.map SessionRow.id).Nodup := by decide +kernel
  have hkey : row.id = s.id.toText := by decide +kernel
  have hs : row.toSession = .ok s := by decide +kernel
  obtain ⟨-, -, hspelled, -, htable⟩ := identifiers_as_keys
  obtain ⟨-, hfind, -⟩ := htable t id
  obtain ⟨-, -, hothers⟩ := htable t other
  have hfound : t.find id = .ok s :=
    (hfind hkeys s).mpr ⟨rfl, row, List.mem_cons_self, hkey, hs⟩
  refine ⟨(hspelled _ id).mpr (.braced hdigits hgrouped), hkeys, hfound, ?_⟩
  rw [(hothers id (by decide)).1, hfound]

end SessionTable

end SessionTokens
