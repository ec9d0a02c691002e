import SessionTokens.Proofs.Store.Table

/-!
# What happens to rows

Rows are never lost: whatever is added to a table or revoked in it, every row stays under its key, as it was
or blocked (`Grows`). After some insertions and revocations the rows are those of before and the added ones,
with the revoked ones blocked (`rows_insert`, `rows_block`).
-/

namespace SessionTokens

open Time (Instant)

namespace SessionRow

theorem isBlocked_block (r : SessionRow) : r.block.isBlocked ≠ 0 :=
  Int.one_ne_zero

/-- The row as it is left by the revocation of the sessions with the given identifiers. -/
def marked (blocked : List TokenId) (r : SessionRow) : SessionRow :=
  if r.id ∈ blocked.map TokenId.toText then r.block else r

@[simp] theorem id_marked (blocked : List TokenId) (r : SessionRow) : (r.marked blocked).id = r.id := by
  unfold marked
  split <;> rfl

theorem marked_of_not_mem {blocked : List TokenId} {r : SessionRow}
    (h : r.id ∉ blocked.map TokenId.toText) : r.marked blocked = r :=
  if_neg h

@[simp] theorem marked_nil (r : SessionRow) : r.marked [] = r :=
  marked_of_not_mem List.not_mem_nil

theorem isBlocked_marked {blocked : List TokenId} {r : SessionRow} :
    (r.marked blocked).isBlocked ≠ 0 ↔ r.isBlocked ≠ 0 ∨ r.id ∈ blocked.map TokenId.toText := by
  unfold marked
  split
  · next h => exact iff_of_true r.isBlocked_block (Or.inr h)
  · next h => exact (or_iff_left h).symm

theorem marked_append (blocked : List TokenId) (id : TokenId) (r : SessionRow) :
    r.marked (blocked ++ [id])
      = if r.id = id.toText then (r.marked blocked).block else r.marked blocked := by
  have hmem : r.id ∈ (blocked ++ [id]).map TokenId.toText
      ↔ r.id ∈ blocked.map TokenId.toText ∨ r.id = id.toText := by
    rw [List.map_append, List.mem_append, List.map_singleton, List.mem_singleton]
  unfold marked
  by_cases hid : r.id = id.toText
  · rw [if_pos (hmem.mpr (Or.inr hid)), if_pos hid]
    split <;> rfl
  · rw [if_neg hid]
    by_cases hblocked : r.id ∈ blocked.map TokenId.toText
    · rw [if_pos hblocked, if_pos (hmem.mpr (Or.inl hblocked))]
    · rw [if_neg hblocked, if_neg fun h => (hmem.mp h).elim hblocked hid]

end SessionRow

namespace SessionTable

variable {t t' : SessionTable}

/-! ## Rows stay -/

/-- Every row of the first table is in the second one under its key, as it was or blocked. -/
def Grows (t t' : SessionTable) : Prop :=
  ∀ key r, t.row? key = some r → ∃ r', t'.row? key = some r' ∧ (r' = r ∨ r' = r.block)

theorem Grows.refl (t : SessionTable) : t.Grows t :=
  fun _ r h => ⟨r, h, Or.inl rfl⟩

theorem grows_of_insert {n : NewSession} {now : Instant} {s : Session} (h : t.insert n now = (.ok s, t')) :
    t.Grows t' := by
  obtain ⟨-, -, hrows⟩ := insert_eq_ok h
  intro key r hr
  refine ⟨r, ?_, Or.inl rfl⟩
  unfold row? at hr ⊢
  rw [hrows, List.find?_append, hr]
  rfl

/-- A revocation marks the rows behind a key or leaves them. -/
theorem row?_block_eq {id : TokenId} {r₀ : SessionRow} (hid : t.row? id.toText = some r₀) (key : String) :
    (t.block id).2.row? key = (t.row? key).map fun r => if r.id = id.toText then r.block else r := by
  rw [block_of_some hid]
  have hkey : ((fun q : SessionRow => q.id == key) ∘
      fun q => if q.id = id.toText then q.block else q) = fun q => q.id == key := by
    funext q
    simp only [Function.comp_apply]
    split <;> rfl
  simp only [row?, List.find?_map, hkey]

theorem row?_block {id : TokenId} {key : String} {r r₀ : SessionRow}
    (hid : t.row? id.toText = some r₀) (hr : t.row? key = some r) :
    (t.block id).2.row? key = some (if r.id = id.toText then r.block else r) := by
  rw [row?_block_eq hid, hr]
  rfl

theorem nodup_of_insert {n : NewSession} {now : Instant} {s : Session} (h : t.insert n now = (.ok s, t'))
    (ht : (t.rows.map SessionRow.id).Nodup) : (t'.rows.map SessionRow.id).Nodup := by
  obtain ⟨hfree, rfl, hrows⟩ := insert_eq_ok h
  rw [hrows, List.map_append, List.map_singleton]
  refine List.nodup_append.mpr ⟨ht, List.nodup_singleton _, fun key hkey key' hkey' heq => ?_⟩
  obtain ⟨r, hr, rfl⟩ := List.mem_map.mp hkey
  have hother := List.find?_eq_none.mp hfree r hr
  rw [heq, List.mem_singleton.mp hkey'] at hother
  exact hother (beq_self_eq_true _)

theorem ids_block (id : TokenId) (t : SessionTable) :
    (t.block id).2.rows.map SessionRow.id = t.rows.map SessionRow.id := by
  cases hid : t.row? id.toText with
  | none => rw [block_of_none hid]
  | some r₀ =>
    rw [block_of_some hid, List.map_map]
    refine List.map_congr_left fun r _ => ?_
    simp only [Function.comp_apply]
    split <;> rfl

theorem grows_block (id : TokenId) (t : SessionTable) : t.Grows (t.block id).2 := by
  cases hid : t.row? id.toText with
  | none =>
    rw [block_of_none hid]
    exact Grows.refl t
  | some r₀ =>
    intro key r hr
    refine ⟨_, row?_block hid hr, ?_⟩
    split
    · exact Or.inr rfl
    · exact Or.inl rfl

/-! ## What is known of a row -/

/-- The table has a row for the session, with its subject and its refresh token. -/
def Holds (t : SessionTable) (s : Session) : Prop :=
  ∃ r, t.row? s.id.toText = some r ∧ r.subject = s.subject ∧ r.refreshToken = s.refreshToken

theorem holds_of_find {id : TokenId} {s : Session} (h : t.find id = .ok s) : t.Holds s := by
  have hid := id_of_find h
  obtain ⟨r, hr, hs⟩ := find_eq_ok_iff.mp h
  exact ⟨r, hid.symm ▸ hr, hs.subject.symm, hs.refreshToken.symm⟩

theorem Grows.holds (h : t.Grows t') {s : Session} (hs : t.Holds s) : t'.Holds s := by
  obtain ⟨r, hr, hsubject, hrefresh⟩ := hs
  obtain ⟨r', hr', rfl | rfl⟩ := h _ r hr
  · exact ⟨r', hr', hsubject, hrefresh⟩
  · exact ⟨_, hr', hsubject, hrefresh⟩

/-- The table has a row with the identifier, which is blocked. -/
def Blocks (t : SessionTable) (id : TokenId) : Prop :=
  ∃ r, t.row? id.toText = some r ∧ r.isBlocked ≠ 0

theorem Grows.blocks (h : t.Grows t') {id : TokenId} (hid : t.Blocks id) : t'.Blocks id := by
  obtain ⟨r, hr, hblocked⟩ := hid
  obtain ⟨r', hr', rfl | rfl⟩ := h _ r hr
  · exact ⟨r', hr', hblocked⟩
  · exact ⟨_, hr', r.isBlocked_block⟩

theorem blocks_block {id : TokenId} {r : SessionRow} (hr : t.row? id.toText = some r) :
    (t.block id).2.Blocks id := by
  refine ⟨_, row?_block hr hr, ?_⟩
  rw [if_pos (row?_spec hr).2]
  exact r.isBlocked_block

theorem Blocks.isBlocked {id : TokenId} {s : Session} (h : t.Blocks id) (hs : t.find id = .ok s) :
    s.isBlocked = true := by
  obtain ⟨r, hr, hblocked⟩ := h
  obtain ⟨q, hq, hspells⟩ := find_eq_ok_iff.mp hs
  cases hr.symm.trans hq
  rw [hspells.isBlocked, decide_eq_true hblocked]

/-! ## All rows -/

variable {rows : List SessionRow} {blocked : List TokenId}

/-- A row that is added was not revoked before. -/
theorem rows_insert {n : NewSession} {now : Instant} {s : Session}
    (ht : t.rows = rows.map (SessionRow.marked blocked)) (hblocked : ∀ id ∈ blocked, t.Blocks id)
    (h : t.insert n now = (.ok s, t')) :
    t'.rows = (rows ++ [SessionRow.ofSession s]).map (SessionRow.marked blocked) := by
  obtain ⟨hfree, hs, hrows⟩ := insert_eq_ok h
  have hnew : (SessionRow.ofSession s).id ∉ blocked.map TokenId.toText := by
    intro hmem
    obtain ⟨id, hid, htext⟩ := List.mem_map.mp hmem
    obtain ⟨r, hr, -⟩ := hblocked id hid
    rw [htext, hs] at hr
    cases hfree.symm.trans hr
  rw [hrows, ht, List.map_append, List.map_singleton, SessionRow.marked_of_not_mem hnew]

theorem rows_block {id : TokenId} {r : SessionRow} (ht : t.rows = rows.map (SessionRow.marked blocked))
    (hr : t.row? id.toText = some r) :
    (t.block id).2.rows = rows.map (SessionRow.marked (blocked ++ [id])) := by
  rw [block_of_some hr]
  simp only [ht, List.map_map]
  refine List.map_congr_left fun q _ => ?_
  simp only [Function.comp_apply, SessionRow.id_marked, SessionRow.marked_append]

theorem row?_append (first second : List SessionRow) (key : String) :
    row? ⟨first ++ second⟩ key = (row? ⟨first⟩ key).or (row? ⟨second⟩ key) :=
  List.find?_append

/-- Behind a key is the row that was entered under it, as the revocations leave it. -/
theorem row?_of_marked (ht : t.rows = rows.map (SessionRow.marked blocked)) (key : String) :
    t.row? key = (row? ⟨rows⟩ key).map (SessionRow.marked blocked) := by
  have hkey : (fun q : SessionRow => q.id == key) ∘ SessionRow.marked blocked = fun q => q.id == key := by
    funext q
    rw [Function.comp_apply, SessionRow.id_marked]
  simp only [row?, ht, List.find?_map, hkey]

end SessionTable

end SessionTokens
