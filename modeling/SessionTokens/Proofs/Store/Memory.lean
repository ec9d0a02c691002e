import SessionTokens.Store.Memory

/-!
# What a store in memory keeps

An insertion adds the session under its identifier if that is free, and changes nothing else; a revocation
blocks the session with its identifier and leaves all others alone (`find?_insert`, `find?_block`).
-/

namespace SessionTokens.MemoryStore

open Time (Instant)

/-! ## Looking up -/

theorem find_of_some {m : MemoryStore} {id : TokenId} {s : Session} (h : m.find? id = some s) :
    SessionStore.find id m = .ok s := by
  show m.find id = .ok s
  rw [find, h]

theorem find_of_none {m : MemoryStore} {id : TokenId} (h : m.find? id = none) :
    SessionStore.find id m = .error .notFound := by
  show m.find id = .error .notFound
  rw [find, h]

/-! ## Insertion -/

theorem insert_of_some {m : MemoryStore} {n : NewSession} {now : Instant} {s : Session}
    (h : m.find? n.id = some s) : m.insert n now = (.error (.backend (taken n.id)), m) := by
  rw [insert, if_pos (by simp [h])]

theorem insert_of_none {m : MemoryStore} {n : NewSession} {now : Instant}
    (h : m.find? n.id = none) :
    m.insert n now = (.ok (n.stored now), ⟨m.entries ++ [(n.id, n.stored now)]⟩) := by
  rw [insert, if_neg (by simp [h])]

/-- A session is found from its insertion on. -/
theorem find?_of_insert {m m' : MemoryStore} {n : NewSession} {now : Instant} {s : Session}
    (h : m.insert n now = (.ok s, m')) : s = n.stored now ∧ m'.find? n.id = some s := by
  cases hfree : m.find? n.id with
  | some old => simp [insert_of_some hfree] at h
  | none =>
    rw [insert_of_none hfree] at h
    cases h
    refine ⟨rfl, ?_⟩
    rw [find?] at hfree
    simp [find?, List.lookup_append, hfree]

/-- A session that was there before an insertion is there after it. -/
theorem find?_insert {m : MemoryStore} {id : TokenId} {s : Session} (h : m.find? id = some s)
    (n : NewSession) (now : Instant) : (m.insert n now).2.find? id = some s := by
  cases hfree : m.find? n.id with
  | some old => rwa [insert_of_some hfree]
  | none =>
    rw [insert_of_none hfree]
    rw [find?] at h
    simp [find?, List.lookup_append, h]

/-- What holds of every entry and of the new session holds of every entry after an insertion. -/
theorem forall_insert {m : MemoryStore} {p : TokenId × Session → Prop} (h : ∀ e ∈ m.entries, p e)
    {n : NewSession} {now : Instant} (hn : p (n.id, n.stored now)) :
    ∀ e ∈ (m.insert n now).2.entries, p e := by
  cases hfree : m.find? n.id with
  | some old => rwa [insert_of_some hfree]
  | none =>
    rw [insert_of_none hfree]
    intro e he
    rcases List.mem_append.mp he with he | he
    · exact h e he
    · rwa [List.mem_singleton.mp he]

/-! ## Revocation -/

/-- What holds of every entry holds of every entry after a revocation, if it does not depend on the flag. -/
theorem forall_block {m : MemoryStore} {p : TokenId × Session → Prop} (h : ∀ e ∈ m.entries, p e)
    (hblock : ∀ e, p e → p (e.1, e.2.block)) (id : TokenId) : ∀ e ∈ (m.block id).2.entries, p e := by
  unfold block
  split
  · intro e he
    obtain ⟨f, hf, rfl⟩ := List.mem_map.mp he
    split
    · exact hblock f (h f hf)
    · exact h f hf
  · exact h

theorem block_of_none {m : MemoryStore} {id : TokenId} (h : m.find? id = none) :
    m.block id = (.error .notFound, m) := by
  rw [block, if_neg (by simp [h])]

theorem lookup_map_block (id k : TokenId) (l : List (TokenId × Session)) :
    (l.map fun e => if e.1 = id then (e.1, e.2.block) else e).lookup k
      = (l.lookup k).map fun s => if k = id then s.block else s := by
  induction l with
  | nil => rfl
  | cons e r ih =>
    obtain ⟨key, s⟩ := e
    -- an entry keeps its identifier, blocked or not
    have hkey : (if key = id then (key, s.block) else (key, s))
        = (key, if key = id then s.block else s) := by
      split <;> rfl
    rw [List.map_cons, hkey, List.lookup_cons, List.lookup_cons, ih]
    by_cases hk : k = key
    · subst hk
      simp
    · simp [beq_eq_false_iff_ne.mpr hk]

/-- A revocation blocks the session with its identifier and no other. -/
theorem find?_block (id k : TokenId) (m : MemoryStore) :
    (m.block id).2.find? k = (m.find? k).map fun s => if k = id then s.block else s := by
  by_cases hid : (m.find? id).isSome
  · rw [block, if_pos hid]
    exact lookup_map_block id k m.entries
  · rw [block, if_neg hid]
    cases hk : m.find? k with
    | none => rfl
    | some s =>
      have hne : k ≠ id := by
        rintro rfl
        simp [hk] at hid
      simp [hne]

end SessionTokens.MemoryStore
