import SessionTokens.Proofs.Store.Memory
import SessionTokens.World

/-!
# Calls to a store

Where calls to the store take no time, a context either refuses a call before it is begun or lets it finish
(`under_of_prompt`). Look-ups and insertions take no random bytes, under any context and over any store
(`random_findUnder`, `random_insertUnder`), and keep all the sessions of a store in memory (`keeps_findUnder`,
`keeps_insertUnder`).
-/

namespace SessionTokens

/-- The call is not over before it has begun. -/
def CallContext.Admitted (c : CallContext) : Prop :=
  ¬c.IsCancelled ∧ ¬c.Overdue 0

theorem CallContext.admitted_background : CallContext.background.Admitted :=
  ⟨by decide, by decide⟩

namespace World

variable {σ : Type}

/-- Calls to the store take no time and do not fail. -/
structure Prompt (w : World σ) : Prop where
  latency : w.latency = 0
  outage : w.outage? = none

/-- A world around a store in memory. -/
def inMemory (m : MemoryStore) (now : Time.Instant) (random : ByteStream) : World MemoryStore :=
  { store := m, now, random }

theorem prompt_inMemory (m : MemoryStore) (now : Time.Instant) (random : ByteStream) :
    (inMemory m now random).Prompt :=
  ⟨rfl, rfl⟩

/-! ## What a call under a context can do -/

/-- A call under a context has not begun, was cut off, or was made. -/
theorem under_cases {α : Type} (c : CallContext) (begun : World σ → World σ)
    (call : World σ → α × World σ) (w : World σ) :
    (∃ why, w.under c begun call = (.error why, w)) ∨
    (∃ why, w.under c begun call = (.error why, begun w)) ∨
    w.under c begun call = (.ok (call w).1, (call w).2) := by
  unfold under
  cases c.race 0 w.latency with
  | refused why => exact Or.inl ⟨why, rfl⟩
  | cutOff why moment => exact Or.inr (Or.inl ⟨why, rfl⟩)
  | finished moment => exact Or.inr (Or.inr rfl)

/-- A call that gave an answer was made. -/
theorem eq_of_under {α : Type} {c : CallContext} {begun : World σ → World σ}
    {call : World σ → α × World σ} {w w' : World σ} {a : α}
    (h : w.under c begun call = (.ok a, w')) : call w = (a, w') := by
  rcases under_cases c begun call w with ⟨why, hu⟩ | ⟨why, hu⟩ | hu
  · simp [hu] at h
  · simp [hu] at h
  · rw [hu] at h
    cases h
    rfl

/-! ## Prompt calls -/

section

variable {α : Type} {c : CallContext} {begun : World σ → World σ} {call : World σ → α × World σ}
  {w : World σ}

theorem under_of_cancelled (hc : c.IsCancelled) : w.under c begun call = (.error .cancelled, w) := by
  rw [under, CallContext.race, if_pos hc]

theorem under_of_overdue (hc : ¬c.IsCancelled) (hd : c.Overdue 0) :
    w.under c begun call = (.error .deadlineExceeded, w) := by
  rw [under, CallContext.race, if_neg hc, if_pos hd]

theorem under_of_prompt (hw : w.Prompt) (hc : c.Admitted) :
    w.under c begun call = (.ok (call w).1, (call w).2) := by
  rw [under, CallContext.race, if_neg hc.1, if_neg hc.2, if_pos hw.latency]

end

/-- No time passes where calls take none. -/
theorem elapse_of_prompt {w : World σ} (hw : w.Prompt) : w.elapse = w := by
  have hnow : w.now.afterMillis w.latency = w.now := if_pos hw.latency
  rw [elapse, hnow]

/-- The world after one look-up. -/
def looked (w : World σ) : World σ :=
  { w with lookups := w.lookups + 1 }

section

variable [SessionStore σ]

/-- A prompt look-up is counted, and changes nothing else. -/
theorem find_of_prompt {w : World σ} (hw : w.Prompt) (id : TokenId) :
    w.find id = (SessionStore.find id w.store, w.looked) := by
  have hprompt : Prompt { w with lookups := w.lookups + 1 } := ⟨hw.latency, hw.outage⟩
  rw [find, elapse_of_prompt hprompt]
  simp only [looked, hw.outage]

/-- A prompt insertion is counted, and otherwise changes the store alone. -/
theorem insert_of_prompt {w : World σ} (hw : w.Prompt) (n : NewSession) :
    w.insert n = ((SessionStore.insert n w.now w.store).1,
      { w with
        store := (SessionStore.insert n w.now w.store).2
        insertions := w.insertions + 1 }) := by
  have hprompt : Prompt { w with insertions := w.insertions + 1 } := ⟨hw.latency, hw.outage⟩
  rw [insert, elapse_of_prompt hprompt]
  simp only [hw.outage]

end

/-- A look-up leaves the store as it was. -/
theorem store_find [SessionStore σ] (id : TokenId) (w : World σ) : (w.find id).2.store = w.store := by
  simp only [find, elapse]
  split <;> rfl

theorem store_findUnder [SessionStore σ] (c : CallContext) (id : TokenId) (w : World σ) :
    (w.findUnder c id).2.store = w.store := by
  unfold findUnder
  rcases under_cases c (fun w => { w with lookups := w.lookups + 1 }) (find id) w
    with ⟨why, h⟩ | ⟨why, h⟩ | h
  · rw [h]
  · rw [h]
  · rw [h]
    exact store_find id w

/-- A session that was found under a context is in the store. -/
theorem findUnder_eq_ok [SessionStore σ] {c : CallContext} {id : TokenId} {w w' : World σ} {s : Session}
    (h : w.findUnder c id = (.ok (.ok s), w')) :
    SessionStore.find id w.store = .ok s ∧ w'.store = w.store := by
  have hstore := store_findUnder c id w
  rw [h] at hstore
  have hfind := eq_of_under h
  unfold find at hfind
  simp only at hfind
  split at hfind
  · cases hfind
  · exact ⟨(Prod.mk.inj hfind).1, hstore⟩

/-- An insertion under a context fails and leaves the store as it was, or is made when its time has passed. -/
theorem insertUnder_cases [SessionStore σ] (c : CallContext) (n : NewSession) (w : World σ) :
    ((∀ s, (w.insertUnder c n).1 ≠ .ok (.ok s)) ∧ (w.insertUnder c n).2.store = w.store) ∨
    (w.insertUnder c n).1 = .ok (SessionStore.insert n (w.now.afterMillis w.latency) w.store).1 ∧
      (w.insertUnder c n).2.store = (SessionStore.insert n (w.now.afterMillis w.latency) w.store).2 := by
  unfold insertUnder
  rcases under_cases c (fun w => { w with insertions := w.insertions + 1 }) (insert n) w
    with ⟨why, h⟩ | ⟨why, h⟩ | h
  · rw [h]
    exact Or.inl ⟨by simp, rfl⟩
  · rw [h]
    exact Or.inl ⟨by simp, rfl⟩
  · rw [h]
    simp only [insert, elapse]
    split
    · exact Or.inl ⟨by simp, rfl⟩
    · exact Or.inr ⟨rfl, rfl⟩

/-- A session that was added is in the store that the insertion left. -/
theorem insert_eq_ok [SessionStore σ] {n : NewSession} {w w' : World σ} {s : Session}
    (h : w.insert n = (.ok s, w')) :
    SessionStore.insert n (w.now.afterMillis w.latency) w.store = (.ok s, w'.store) := by
  unfold insert at h
  simp only at h
  split at h
  · cases h
  · obtain ⟨hs, rfl⟩ := Prod.mk.inj h
    exact Prod.ext hs rfl

/-- A session that was added is the one that was asked for, and is found from then on. -/
theorem find?_of_insert {n : NewSession} {w w' : World MemoryStore} {s : Session}
    (h : w.insert n = (.ok s, w')) : (∃ now, s = n.stored now) ∧ w'.store.find? n.id = some s := by
  have hinsert := insert_eq_ok h
  obtain ⟨hstored, hfind⟩ := MemoryStore.find?_of_insert hinsert
  exact ⟨⟨_, hstored⟩, hfind⟩

/-! ## What takes no random bytes -/

theorem random_find [SessionStore σ] (id : TokenId) (w : World σ) : (w.find id).2.random = w.random := by
  simp only [find, elapse]
  split <;> rfl

theorem random_insert [SessionStore σ] (n : NewSession) (w : World σ) : (w.insert n).2.random = w.random := by
  simp only [insert, elapse]
  split <;> rfl

/-- A call under a context takes no random bytes if it takes none without one. -/
theorem random_under {α : Type} (c : CallContext) {begun : World σ → World σ} {call : World σ → α × World σ}
    {w : World σ} (hbegun : (begun w).random = w.random) (hcall : (call w).2.random = w.random) :
    (w.under c begun call).2.random = w.random := by
  rcases under_cases c begun call w with ⟨why, h⟩ | ⟨why, h⟩ | h
  · rw [h]
  · rwa [h]
  · rwa [h]

theorem random_findUnder [SessionStore σ] (c : CallContext) (id : TokenId) (w : World σ) :
    (w.findUnder c id).2.random = w.random :=
  random_under c rfl (random_find id w)

theorem random_insertUnder [SessionStore σ] (c : CallContext) (n : NewSession) (w : World σ) :
    (w.insertUnder c n).2.random = w.random :=
  random_under c rfl (random_insert n w)

/-! ## What is kept -/

/-- The second world fails and takes its time as the first one does, and has all its sessions. -/
structure Keeps (w w' : World MemoryStore) : Prop where
  latency : w'.latency = w.latency
  outage : w'.outage? = w.outage?
  sessions : ∀ id s, w.store.find? id = some s → w'.store.find? id = some s

namespace Keeps

theorem refl (w : World MemoryStore) : Keeps w w :=
  ⟨rfl, rfl, fun _ _ h => h⟩

theorem trans {u v w : World MemoryStore} (h : Keeps u v) (k : Keeps v w) : Keeps u w where
  latency := k.latency.trans h.latency
  outage := k.outage.trans h.outage
  sessions := fun id s hs => k.sessions id s (h.sessions id s hs)

theorem prompt {w w' : World MemoryStore} (h : Keeps w w') (hw : w.Prompt) : w'.Prompt :=
  ⟨h.latency.trans hw.latency, h.outage.trans hw.outage⟩

end Keeps

theorem keeps_drawing {α : Type} (w : World MemoryStore) (draw : ByteStream → α × ByteStream) :
    w.Keeps (w.drawing draw).2 :=
  ⟨rfl, rfl, fun _ _ h => h⟩

theorem keeps_find (id : TokenId) (w : World MemoryStore) : w.Keeps (w.find id).2 := by
  simp only [find, elapse]
  split
  · exact ⟨rfl, rfl, fun _ _ h => h⟩
  · exact ⟨rfl, rfl, fun _ _ h => h⟩

theorem keeps_insert (n : NewSession) (w : World MemoryStore) : w.Keeps (w.insert n).2 := by
  simp only [insert, elapse]
  split
  · exact ⟨rfl, rfl, fun _ _ h => h⟩
  · exact ⟨rfl, rfl, fun _ _ h => MemoryStore.find?_insert h n _⟩

/-- A call under a context keeps what it keeps without one. -/
theorem keeps_under {α : Type} (c : CallContext) {begun : World MemoryStore → World MemoryStore}
    {call : World MemoryStore → α × World MemoryStore} {w : World MemoryStore}
    (hbegun : w.Keeps (begun w)) (hcall : w.Keeps (call w).2) : w.Keeps (w.under c begun call).2 := by
  rcases under_cases c begun call w with ⟨why, h⟩ | ⟨why, h⟩ | h
  · rw [h]
    exact Keeps.refl w
  · rwa [h]
  · rwa [h]

theorem keeps_findUnder (c : CallContext) (id : TokenId) (w : World MemoryStore) :
    w.Keeps (w.findUnder c id).2 :=
  keeps_under c ⟨rfl, rfl, fun _ _ h => h⟩ (keeps_find id w)

theorem keeps_insertUnder (c : CallContext) (n : NewSession) (w : World MemoryStore) :
    w.Keeps (w.insertUnder c n).2 :=
  keeps_under c ⟨rfl, rfl, fun _ _ h => h⟩ (keeps_insert n w)

end World

end SessionTokens
