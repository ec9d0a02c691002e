import SessionTokens.Proofs.CallContext.Race

/-!
# Steps of a context's life

What is done with a context and its handles, step by step. A signal that was raised stays so until the context
is given another one (`isCancelled_follow`), and what is set lies ahead at all times (`sound_follow`).
-/

namespace SessionTokens

namespace Timeline

/-! ## Steps -/

/-- What can be done with a context and the handles of its signals. -/
inductive Step where
  /-- Sets the deadline to a time from now. -/
  | withDeadline (after : Nat)
  /-- Sets the deadline to a time from now, unless that is too far away for the clock. -/
  | withTimeout (after? : Option Nat)
  /-- Gives the context a new signal. -/
  | withCancel
  /-- Raises the signal of a handle. -/
  | cancel (handle : Nat)
  | drop (handle : Nat)
  /-- Takes a handle away and raises its signal a time from now. -/
  | cancelAfter (handle after : Nat)
  | wait (delay : Nat)
  | run (delay : Nat)
deriving DecidableEq, Repr

/-- The timeline after a step. -/
def perform (t : Timeline) : Step → Timeline
  | .withDeadline after => t.withDeadline after
  | .withTimeout after? => t.withTimeout after?
  | .withCancel => t.withCancel.2
  | .cancel handle => (t.cancel handle).2
  | .drop handle => (t.drop handle).2
  | .cancelAfter handle after => t.cancelAfter handle after
  | .wait delay => t.wait delay
  | .run delay => (t.run delay).2

/-- How the work of a step ends, if the step does any. -/
def outcome? (t : Timeline) : Step → Option Outcome
  | .run delay => some (t.run delay).1
  | _ => none

/-- The timeline after some steps. -/
def follow (t : Timeline) : List Step → Timeline
  | [] => t
  | s :: r => (t.perform s).follow r

/-- How the work of some steps ends, in their order. -/
def outcomes (t : Timeline) : List Step → List Outcome
  | [] => []
  | s :: r => (t.outcome? s).toList ++ (t.perform s).outcomes r

variable {t u : Timeline}

/-! ## Signals that were raised -/

theorem setSignal_of_cancelled (h : t.context.IsCancelled) (handle : Nat) (s : Signal) :
    t.setSignal handle s = t :=
  if_neg fun hs => hs.2 h

theorem elapse_of_cancelled {c : CallContext} (h : c.IsCancelled) (bound : Nat) :
    (c.elapse bound).IsCancelled := by
  rw [CallContext.IsCancelled, CallContext.elapse, h]
  rfl

theorem run_of_cancelled (h : t.context.IsCancelled) (delay : Nat) :
    t.run delay = (.refused .cancelled, t) := by
  have hrace : t.context.race t.now delay = .refused .cancelled := if_pos h
  rw [run, hrace]
  rfl

/-- A signal that was raised stays so, whatever becomes of its handle. -/
theorem isCancelled_perform (h : t.context.IsCancelled) {s : Step} (hs : s ≠ .withCancel) :
    (t.perform s).context.IsCancelled := by
  cases s with
  | withDeadline after => exact h
  | withTimeout after? => cases after? <;> exact h
  | withCancel => exact absurd rfl hs
  | cancel handle =>
    simp only [perform, cancel, setSignal_of_cancelled h]
    split <;> exact h
  | drop handle =>
    simp only [perform, drop, setSignal_of_cancelled h]
    split <;> exact h
  | cancelAfter handle after =>
    simp only [perform, cancelAfter, setSignal_of_cancelled h]
    split <;> exact h
  | wait delay => exact elapse_of_cancelled h _
  | run delay =>
    rw [perform, run_of_cancelled h]
    exact h

/-- **A signal that was raised stays so until it is replaced**, and no work is begun under it. -/
theorem isCancelled_follow (h : t.context.IsCancelled) {steps : List Step} (hs : .withCancel ∉ steps) :
    (t.follow steps).context.IsCancelled ∧ ∀ o ∈ t.outcomes steps, o = .refused .cancelled := by
  induction steps generalizing t with
  | nil => exact ⟨h, fun o ho => absurd ho List.not_mem_nil⟩
  | cons s r ih =>
    obtain ⟨hne, hr⟩ := not_or.mp (mt List.mem_cons.mpr hs)
    obtain ⟨hafter, houtcomes⟩ := ih (isCancelled_perform h (Ne.symm hne)) hr
    refine ⟨hafter, fun o ho => ?_⟩
    rcases List.mem_append.mp ho with ho | ho
    · cases s with
      | run delay =>
        rw [outcome?, run_of_cancelled h] at ho
        exact List.mem_singleton.mp ho
      | _ => exact absurd ho List.not_mem_nil
    · exact houtcomes o ho

/-! ## What a step does to handles and signals -/

theorem setSignal_of_old {handle : Nat} (h : handle + 1 ≠ t.handles.length) (s : Signal) :
    t.setSignal handle s = t :=
  if_neg fun hs => h hs.1

theorem setSignal_of_last {handle : Nat} (h : handle + 1 = t.handles.length)
    (hc : ¬t.context.IsCancelled) (s : Signal) :
    t.setSignal handle s = { t with context := { t.context with signal? := some s } } :=
  if_pos ⟨h, hc⟩

@[simp] theorem now_setSignal (t : Timeline) (handle : Nat) (s : Signal) :
    (t.setSignal handle s).now = t.now := by
  unfold setSignal
  split <;> rfl

@[simp] theorem handles_setSignal (t : Timeline) (handle : Nat) (s : Signal) :
    (t.setSignal handle s).handles = t.handles := by
  unfold setSignal
  split <;> rfl

/-- A handle that was taken away is at hand no longer. -/
theorem held_release {handle k : Nat} : (t.release handle).Held k ↔ k ≠ handle ∧ t.Held k := by
  simp only [Held, release, List.getElem?_set]
  by_cases hk : handle = k
  · subst hk
    simp
  · rw [if_neg hk]
    exact ⟨fun h => ⟨Ne.symm hk, h⟩, fun h => h.2⟩

theorem lt_of_held {handle : Nat} (h : t.Held handle) : handle < t.handles.length :=
  (List.getElem?_eq_some_iff.mp h).1

theorem signal_elapse_of_due {c : CallContext} {bound m : Nat}
    (h : (c.elapse bound).signal? = some (.due m)) : c.signal? = some (.due m) ∧ bound ≤ m := by
  obtain ⟨s, hs, hdue⟩ := Option.map_eq_some_iff.mp h
  cases s with
  | due k =>
    simp only [Signal.elapse] at hdue
    split at hdue
    · cases hdue
    · next hlt =>
      cases hdue
      exact ⟨hs, Nat.not_lt.mp hlt⟩
  | _ => cases hdue

/-- Work either changes nothing, or lets time pass up to its limit at most. -/
theorem run_cases (t : Timeline) (delay : Nat) :
    (t.run delay).2 = t ∨
    ∃ now ≤ t.context.limit t.now delay, (t.run delay).2 =
      { t with now, context := t.context.elapse (t.context.limit t.now delay) } := by
  by_cases hc : t.context.IsCancelled
  · exact Or.inl (congrArg Prod.snd (run_of_cancelled hc delay))
  by_cases hover : t.context.Overdue t.now
  · have hrace : t.context.race t.now delay = .refused .deadlineExceeded := by
      rw [CallContext.race, if_neg hc, if_pos hover]
    rw [run, hrace]
    exact Or.inl rfl
  by_cases hdelay : delay = 0
  · have hrace : t.context.race t.now delay = .finished t.now := by
      rw [CallContext.race, if_neg hc, if_neg hover, if_pos hdelay]
    rw [run, hrace]
    simp only [if_pos hdelay]
    exact Or.inl rfl
  -- the work has begun, and goes on until its limit or until the signal is raised before that
  have hdeadline := CallContext.not_overdue_iff.mp hover
  have hlt : t.now < t.context.limit t.now delay :=
    CallContext.lt_limit_iff.mpr ⟨by omega, hdeadline⟩
  rcases CallContext.race_of_begun_cases hc hdeadline hdelay with ⟨m, hm, hrace⟩ | hrace
  · refine Or.inr ⟨max t.now m, Nat.max_le.mpr ⟨Nat.le_of_lt hlt, Nat.le_of_lt hm⟩, ?_⟩
    rw [run, hrace]
    simp only [if_neg hdelay, Outcome.moment]
  · refine Or.inr ⟨_, Nat.le_of_eq (CallContext.moment_atLimit t.context t.now delay), ?_⟩
    rw [run, hrace, CallContext.atLimit]
    simp only [if_neg hdelay]
    split <;> rfl

/-! ## What is set lies ahead -/

/-- No signal is overdue, and the handle of the context's signal is at hand only as long as nothing but its
holder decides over the signal. -/
structure Sound (t : Timeline) : Prop where
  due : ∀ m, t.context.signal? = some (.due m) → t.now ≤ m
  held : ∀ handle, handle + 1 = t.handles.length → t.Held handle →
    t.context.signal? = some .quiet ∨ t.context.IsCancelled

theorem sound_start : Sound {} :=
  ⟨fun m h => (by cases h), fun handle h => (by cases h)⟩

/-- Whoever sets a signal while it is quiet decides over it. -/
theorem sound_setSignal (ht : t.Sound) {handle : Nat} {s : Signal} (hs : ∀ m, s = .due m → t.now ≤ m)
    (hheld : handle + 1 = t.handles.length → s = .raised ∨ ¬t.Held handle) :
    (t.setSignal handle s).Sound := by
  by_cases hset : handle + 1 = t.handles.length ∧ ¬t.context.IsCancelled
  · rw [setSignal_of_last hset.1 hset.2]
    refine ⟨fun m hm => hs m (Option.some.inj hm), fun k hk hkheld => ?_⟩
    rcases hheld hset.1 with hraised | hgone
    · exact Or.inr (congrArg some hraised)
    · have hsame : k = handle := Nat.succ.inj (hk.trans hset.1.symm)
      exact absurd (hsame ▸ hkheld) hgone
  · rw [show t.setSignal handle s = t from if_neg hset]
    exact ht

theorem sound_release (ht : t.Sound) (handle : Nat) : (t.release handle).Sound := by
  refine ⟨ht.due, fun k hk hheld => ht.held k ?_ (held_release.mp hheld).2⟩
  rwa [release, List.length_set] at hk

/-- A handle may be taken away before its signal is set. -/
theorem release_setSignal (t : Timeline) (handle : Nat) (s : Signal) :
    (t.setSignal handle s).release handle = (t.release handle).setSignal handle s := by
  unfold setSignal release
  simp only [List.length_set]
  split <;> rfl

theorem sound_setSignal_release (ht : t.Sound) {handle : Nat} {s : Signal}
    (hs : ∀ m, s = .due m → t.now ≤ m) : ((t.setSignal handle s).release handle).Sound := by
  rw [release_setSignal]
  refine sound_setSignal (sound_release ht handle) hs fun _ => Or.inr fun h => ?_
  exact (held_release.mp h).1 rfl

theorem sound_elapse (ht : t.Sound) {now bound : Nat} (h : now ≤ bound) :
    Sound { t with now, context := t.context.elapse bound } := by
  refine ⟨fun m hm => Nat.le_trans h (signal_elapse_of_due hm).2, fun k hk hheld => ?_⟩
  rcases ht.held k hk hheld with hquiet | hraised
  · refine Or.inl ?_
    rw [CallContext.elapse, hquiet]
    rfl
  · exact Or.inr (elapse_of_cancelled hraised bound)

theorem sound_perform (ht : t.Sound) (s : Step) : (t.perform s).Sound := by
  cases s with
  | withDeadline after => exact ⟨ht.due, ht.held⟩
  | withTimeout after? =>
    cases after? with
    | none => exact ht
    | some after => exact ⟨ht.due, ht.held⟩
  | withCancel => exact ⟨fun m hm => (by cases hm), fun _ _ _ => Or.inl rfl⟩
  | cancel handle =>
    simp only [perform, cancel]
    split
    · exact sound_setSignal ht (fun m hm => (by cases hm)) fun _ => Or.inl rfl
    · exact ht
  | drop handle =>
    simp only [perform, drop]
    split
    · exact sound_setSignal_release ht fun m hm => (by cases hm)
    · exact ht
  | cancelAfter handle after =>
    simp only [perform, cancelAfter]
    split
    · refine sound_setSignal_release ht fun m hm => ?_
      cases hm
      exact Nat.le_add_right t.now after
    · exact ht
  | wait delay => exact sound_elapse ht (Nat.le_refl _)
  | run delay =>
    rw [perform]
    rcases run_cases t delay with h | ⟨now, hnow, h⟩
    · rwa [h]
    · rw [h]
      exact sound_elapse ht hnow

theorem sound_follow (ht : t.Sound) (steps : List Step) : (t.follow steps).Sound := by
  induction steps generalizing t with
  | nil => exact ht
  | cons s r ih => exact ih (sound_perform ht s)

end Timeline

end SessionTokens
