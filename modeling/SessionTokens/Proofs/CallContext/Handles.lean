import SessionTokens.Proofs.CallContext.Steps

/-!
# Handles that make no difference

Two timelines may differ in handles that belong to no signal, and in whether there is a signal that nobody can
raise. Every step keeps them alike, so they cannot be told apart later (`alike_follow`).
-/

namespace SessionTokens

namespace Timeline

variable {t u : Timeline}

/-- Two timelines that cannot be told apart, whatever is done other than through handles below `n`. -/
structure Alike (n : Nat) (t u : Timeline) : Prop where
  now : t.now = u.now
  deadline : t.context.deadline? = u.context.deadline?
  length : t.handles.length = u.handles.length
  held : ∀ handle, n ≤ handle → (t.Held handle ↔ u.Held handle)
  signal : t.context.signal? = u.context.signal? ∨ (t.context.Mute ∧ u.context.Mute)
  lt_length : n < t.handles.length

namespace Alike

variable {n : Nat}

theorem refl (h : n < t.handles.length) : Alike n t t :=
  ⟨rfl, rfl, rfl, fun _ _ => Iff.rfl, Or.inl rfl, h⟩

theorem isCancelled_iff (h : Alike n t u) : t.context.IsCancelled ↔ u.context.IsCancelled := by
  rcases h.signal with hs | ⟨ht, hu⟩
  · rw [CallContext.IsCancelled, hs]
  · exact iff_of_false ht.not_isCancelled hu.not_isCancelled

theorem race_eq (h : Alike n t u) (delay : Nat) :
    t.context.race t.now delay = u.context.race u.now delay := by
  have hdeadline := h.deadline
  have hnow := h.now
  obtain ⟨now, ⟨deadline?, signal?⟩, handles⟩ := t
  obtain ⟨now', ⟨deadline?', signal?'⟩, handles'⟩ := u
  subst hdeadline
  subst hnow
  rcases h.signal with hs | ⟨ht, hu⟩
  · subst hs
    rfl
  · rw [ht.race_eq, hu.race_eq]

theorem limit_eq (h : Alike n t u) (delay : Nat) :
    t.context.limit t.now delay = u.context.limit u.now delay := by
  rw [CallContext.limit, CallContext.limit, h.deadline, h.now]

theorem setSignal (h : Alike n t u) (handle : Nat) (s : Signal) :
    Alike n (t.setSignal handle s) (u.setSignal handle s) := by
  by_cases hlast : handle + 1 = t.handles.length
  · have hlast' := hlast.trans h.length
    by_cases hc : t.context.IsCancelled
    · rw [setSignal_of_cancelled hc, setSignal_of_cancelled (h.isCancelled_iff.mp hc)]
      exact h
    · rw [setSignal_of_last hlast hc, setSignal_of_last hlast' (mt h.isCancelled_iff.mpr hc)]
      exact { h with signal := Or.inl rfl }
  · rw [setSignal_of_old hlast, setSignal_of_old (h.length ▸ hlast)]
    exact h

theorem release (h : Alike n t u) (handle : Nat) : Alike n (t.release handle) (u.release handle) where
  now := h.now
  deadline := h.deadline
  length := by simpa [Timeline.release] using h.length
  held := fun k hk => by rw [held_release, held_release, h.held k hk]
  signal := h.signal
  lt_length := by simpa [Timeline.release] using h.lt_length

/-- A handle below `n` may be taken away from one of the two. -/
theorem release_left (h : Alike n t u) {handle : Nat} (hold : handle < n) :
    Alike n (t.release handle) u where
  now := h.now
  deadline := h.deadline
  length := by simpa [Timeline.release] using h.length
  held := fun k hk => by
    rw [held_release, ← h.held k hk, and_iff_right_iff_imp]
    rintro - rfl
    exact Nat.not_lt.mpr hk hold
  signal := h.signal
  lt_length := by simpa [Timeline.release] using h.lt_length

theorem elapse (h : Alike n t u) (now bound : Nat) :
    Alike n { t with now, context := t.context.elapse bound }
      { u with now, context := u.context.elapse bound } where
  now := rfl
  deadline := h.deadline
  length := h.length
  held := h.held
  signal := h.signal.imp (congrArg (Option.map (Signal.elapse bound)))
    fun ⟨ht, hu⟩ => ⟨ht.elapse bound, hu.elapse bound⟩
  lt_length := h.lt_length

theorem withCancel (h : Alike n t u) : Alike n t.withCancel.2 u.withCancel.2 where
  now := h.now
  deadline := h.deadline
  length := by simpa [Timeline.withCancel] using h.length
  held := fun k hk => by
    have hkeep := h.held k hk
    simp only [Held, Timeline.withCancel, List.getElem?_append, h.length] at hkeep ⊢
    split
    · exact hkeep
    · exact Iff.rfl
  signal := Or.inl rfl
  lt_length := by
    have hlt := h.lt_length
    simp only [Timeline.withCancel, List.length_append, List.length_singleton]
    omega

end Alike

/-- The handle through which something is done, if it is. -/
def Step.handle? : Step → Option Nat
  | .cancel handle | .drop handle | .cancelAfter handle _ => some handle
  | _ => none

/-- A step leaves timelines alike that were so. -/
theorem alike_perform {n : Nat} (h : Alike n t u) {s : Step} (hs : ∀ handle ∈ s.handle?, n ≤ handle) :
    Alike n (t.perform s) (u.perform s) ∧ t.outcome? s = u.outcome? s := by
  cases s with
  | withDeadline after => exact ⟨{ h with deadline := by simp [perform, withDeadline, h.now] }, rfl⟩
  | withTimeout after? =>
    cases after? with
    | none => exact ⟨h, rfl⟩
    | some after =>
      exact ⟨{ h with deadline := by simp [perform, withTimeout, withDeadline, h.now] }, rfl⟩
  | withCancel => exact ⟨h.withCancel, rfl⟩
  | cancel handle =>
    refine ⟨?_, rfl⟩
    simp only [perform, cancel, h.held handle (hs handle rfl)]
    split
    · exact h.setSignal handle _
    · exact h
  | drop handle =>
    refine ⟨?_, rfl⟩
    simp only [perform, drop, h.held handle (hs handle rfl)]
    split
    · exact (h.setSignal handle _).release handle
    · exact h
  | cancelAfter handle after =>
    refine ⟨?_, rfl⟩
    simp only [perform, cancelAfter, h.held handle (hs handle rfl), h.now]
    split
    · exact (h.setSignal handle _).release handle
    · exact h
  | wait delay =>
    refine ⟨?_, rfl⟩
    simp only [perform, wait, h.now]
    exact h.elapse _ _
  | run delay =>
    refine ⟨?_, congrArg some (h.race_eq delay)⟩
    simp only [perform, run]
    rw [h.race_eq delay, h.limit_eq delay, h.now]
    split
    · exact { h with now := rfl }
    · split
      · exact { h with now := rfl }
      · exact h.elapse _ _

/-- What is done through a handle below `n` has no effect on the context. -/
theorem alike_perform_left {n : Nat} (h : Alike n t u) {s : Step} {handle : Nat}
    (hs : s.handle? = some handle) (hold : handle < n) :
    Alike n (t.perform s) u ∧ t.outcome? s = none := by
  have hne : handle + 1 ≠ t.handles.length :=
    Nat.ne_of_lt (Nat.lt_of_le_of_lt hold h.lt_length)
  cases s with
  | cancel k =>
    cases hs
    refine ⟨?_, rfl⟩
    simp only [perform, cancel, setSignal_of_old hne]
    split <;> exact h
  | drop k =>
    cases hs
    refine ⟨?_, rfl⟩
    simp only [perform, drop, setSignal_of_old hne]
    split
    · exact h.release_left hold
    · exact h
  | cancelAfter k after =>
    cases hs
    refine ⟨?_, rfl⟩
    simp only [perform, cancelAfter, setSignal_of_old hne]
    split
    · exact h.release_left hold
    · exact h
  | _ => cases hs

/-- The step does nothing through a handle below `n`. -/
def Step.Spares (n : Nat) (s : Step) : Prop :=
  ∀ handle ∈ s.handle?, n ≤ handle

instance (n : Nat) (s : Step) : Decidable (s.Spares n) :=
  inferInstanceAs (Decidable (∀ handle ∈ s.handle?, n ≤ handle))

/-- **What is done through handles below `n` can be left out.** -/
theorem alike_follow {n : Nat} (h : Alike n t u) (steps : List Step) :
    Alike n (t.follow steps) (u.follow (steps.filter fun s => s.Spares n)) ∧
      t.outcomes steps = u.outcomes (steps.filter fun s => s.Spares n) := by
  induction steps generalizing t u with
  | nil => exact ⟨h, rfl⟩
  | cons s r ih =>
    by_cases hs : s.Spares n
    · obtain ⟨hnext, houtcome⟩ := alike_perform h hs
      obtain ⟨hrest, houtcomes⟩ := ih hnext
      rw [List.filter_cons, if_pos (decide_eq_true hs)]
      exact ⟨hrest, by rw [outcomes, outcomes, houtcome, houtcomes]⟩
    · obtain ⟨handle, hhandle, hold⟩ : ∃ handle, s.handle? = some handle ∧ handle < n := by
        simpa [Step.Spares] using hs
      obtain ⟨hnext, hnone⟩ := alike_perform_left h hhandle hold
      rw [List.filter_cons, if_neg (by simpa using hs), follow, outcomes, hnone]
      exact ih hnext

/-- No handle is below zero. -/
theorem filter_spares_zero (steps : List Step) : (steps.filter fun s => s.Spares 0) = steps :=
  List.filter_eq_self.mpr fun _ _ => decide_eq_true fun handle _ => Nat.zero_le handle

end Timeline

end SessionTokens
