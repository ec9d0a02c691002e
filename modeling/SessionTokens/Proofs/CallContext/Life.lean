import SessionTokens.Proofs.CallContext.Handles

/-!
# The life of a context

Work under a context ends as polling says, whatever becomes of the handle of the signal while it is done
(`run_leave`). A handle that was given up is as good as no signal, and one whose signal was replaced has no
effect on the context any more (`outcomes_drop`, `outcomes_withCancel`).
-/

namespace SessionTokens

namespace Timeline

variable {t : Timeline}

/-! ## Fates -/

/-- Leaves a handle to its fate. -/
def leave (t : Timeline) (handle : Nat) : Fate → Timeline
  | .kept => t
  | .dropped _ => (t.drop handle).2
  | .raised m => t.cancelAfter handle (m - t.now)

/-- The handle of the context's signal, as long as it is at hand. -/
structure Current (t : Timeline) (handle : Nat) : Prop where
  last : handle + 1 = t.handles.length
  held : t.Held handle

theorem context_leave (ht : t.Sound) {handle : Nat} (h : t.Current handle) {f : Fate}
    (hf : ∀ m, f = .raised m → t.now ≤ m) : (t.leave handle f).context = t.context.scheduled f := by
  rcases ht.held handle h.last h.held with hquiet | hraised
  · have hc : ¬t.context.IsCancelled := by simp [CallContext.IsCancelled, hquiet]
    rw [CallContext.scheduled_of_quiet hquiet]
    cases f with
    | kept => rw [leave, Fate.scheduled, ← hquiet]
    | dropped m =>
      rw [leave, drop, if_pos h.held, setSignal_of_last h.last hc]
      rfl
    | raised m =>
      rw [leave, cancelAfter, if_pos h.held, setSignal_of_last h.last hc,
        Nat.add_sub_cancel' (hf m rfl)]
      rfl
  · rw [CallContext.scheduled_of_cancelled hraised]
    cases f with
    | kept => rfl
    | dropped m =>
      rw [leave, drop, if_pos h.held, setSignal_of_cancelled hraised]
      rfl
    | raised m =>
      rw [leave, cancelAfter, if_pos h.held, setSignal_of_cancelled hraised]
      rfl

theorem now_leave (t : Timeline) (handle : Nat) (f : Fate) : (t.leave handle f).now = t.now := by
  cases f with
  | kept => rfl
  | dropped m =>
    simp only [leave, drop]
    split <;> simp [release]
  | raised m =>
    simp only [leave, cancelAfter]
    split <;> simp [release]

/-- Work ends as polling says, whatever the handle of the signal is left to. -/
theorem run_leave (ht : t.Sound) {handle : Nat} (h : t.Current handle) {f : Fate}
    (hf : ∀ m, f = .raised m → t.now ≤ m) (delay : Nat) :
    ((t.leave handle f).run delay).1 = t.context.attempt f t.now delay := by
  rw [run, context_leave ht h hf, now_leave]
  refine CallContext.race_scheduled fun m hm => ?_
  rcases ht.held handle h.last h.held with hquiet | hraised
  · cases f with
    | raised k =>
      simp only [CallContext.raisedAt?, hquiet, Option.some.injEq] at hm
      exact hm ▸ hf k rfl
    | _ => simp [CallContext.raisedAt?, hquiet] at hm
  · simp [CallContext.raisedAt?, hraised] at hm

/-! ## Dropped and replaced handles -/

/-- The timeline without the signal of its context. -/
def withoutSignal (t : Timeline) : Timeline :=
  { t with context := { t.context with signal? := none } }

/-- **A handle that was given up is as good as no signal.** -/
theorem outcomes_drop (ht : t.Sound) {handle : Nat} (h : t.Current handle)
    (hc : ¬t.context.IsCancelled) (later : List Step) :
    let dropped := (t.drop handle).2
    dropped.outcomes later = dropped.withoutSignal.outcomes later ∧
      ((dropped.follow later).context.IsCancelled ↔
        (dropped.withoutSignal.follow later).context.IsCancelled) := by
  intro dropped
  have hclosed : dropped.context.signal? = some .closed := by
    have hleave := context_leave (f := .dropped t.now) ht h (fun m hm => (by cases hm))
    have hquiet := (ht.held handle h.last h.held).resolve_right hc
    rw [CallContext.scheduled_of_quiet hquiet] at hleave
    exact congrArg CallContext.signal? hleave
  have hlength : 0 < dropped.handles.length := by
    have hlt := lt_of_held h.held
    have hsame : dropped.handles.length = t.handles.length := by
      simp only [dropped, drop, if_pos h.held, release, handles_setSignal, List.length_set]
    omega
  have halike : Alike 0 dropped dropped.withoutSignal :=
    ⟨rfl, rfl, rfl, fun _ _ => Iff.rfl, Or.inr ⟨Or.inr hclosed, Or.inl rfl⟩, hlength⟩
  obtain ⟨hafter, houtcomes⟩ := alike_follow halike later
  rw [filter_spares_zero] at hafter houtcomes
  exact ⟨houtcomes, hafter.isCancelled_iff⟩

/-- **A handle whose signal was replaced has no effect on the context.** -/
theorem outcomes_withCancel (t : Timeline) (later : List Step) :
    let fresh := t.withCancel.2
    let others := later.filter fun s => s.Spares t.handles.length
    fresh.outcomes later = fresh.outcomes others ∧
      ((fresh.follow later).context.IsCancelled ↔ (fresh.follow others).context.IsCancelled) := by
  have hlength : t.handles.length < t.withCancel.2.handles.length := by simp [withCancel]
  obtain ⟨hafter, houtcomes⟩ := alike_follow (Alike.refl hlength) later
  exact ⟨houtcomes, hafter.isCancelled_iff⟩

/-! ## All of a context's life -/

/-- **How work under a context ends, and what becomes of its signal.** Work is not begun under a signal that
was raised. Otherwise it ends with the signal if that is raised before the deadline and before the work is
ready, with the deadline if that is not behind the moment at which the work is ready, and else when it is
ready; work whose deadline has come already is not begun. A signal that was raised stays so until the context
is given another one; a handle that was given up is as good as no signal; and one whose signal was replaced
has no effect any more. -/
theorem race_throughout_life :
    (∀ (c : CallContext) (f : Fate) (start delay : Nat), (∀ m, c.raisedAt? f = some m → start ≤ m) →
      let outcome := c.attempt f start delay
      let ready := start + delay
      (c.IsCancelled → outcome = .refused .cancelled) ∧
      (¬c.IsCancelled →
        (∀ m, c.GivesUp f ready m → outcome = .cutOff .cancelled m) ∧
        ((¬∃ m, c.GivesUp f ready m) →
          (∀ d, c.deadline? = some d → d ≤ ready →
            outcome = if d ≤ start then .refused .deadlineExceeded else .cutOff .deadlineExceeded d) ∧
          ((∀ d, c.deadline? = some d → ready < d) → outcome = .finished ready))) ∧
      (c.scheduled f).race start delay = outcome) ∧
    (∀ c : CallContext, c.signal? = some .quiet → ∀ m start delay,
      c.attempt (.dropped m) start delay = { c with signal? := none }.attempt .kept start delay) ∧
    ∀ steps, let t := follow {} steps
      (∀ handle f delay, t.Current handle → (∀ m, f = .raised m → t.now ≤ m) →
        ((t.leave handle f).run delay).1 = t.context.attempt f t.now delay) ∧
      (t.context.IsCancelled → ∀ later, .withCancel ∉ later →
        (t.follow later).context.IsCancelled ∧ ∀ o ∈ t.outcomes later, o = .refused .cancelled) ∧
      (∀ handle, t.Current handle → ¬t.context.IsCancelled → ∀ later,
        let dropped := (t.drop handle).2
        dropped.outcomes later = dropped.withoutSignal.outcomes later ∧
          ((dropped.follow later).context.IsCancelled ↔
            (dropped.withoutSignal.follow later).context.IsCancelled)) ∧
      ∀ later,
        let fresh := t.withCancel.2
        let others := later.filter fun s => s.Spares t.handles.length
        ¬fresh.context.IsCancelled ∧ fresh.outcomes later = fresh.outcomes others ∧
          ((fresh.follow later).context.IsCancelled ↔ (fresh.follow others).context.IsCancelled) := by
  refine ⟨fun c f start delay hstart => ?race, fun c => CallContext.attempt_dropped, fun steps => ?life⟩
  case race =>
    refine ⟨fun hc => CallContext.attempt_of_cancelled hc f start delay, fun hc => ?_,
      CallContext.race_scheduled hstart⟩
    exact ⟨fun m h => CallContext.attempt_of_givesUp hc hstart h, fun hnot =>
      ⟨fun d hd hready => CallContext.attempt_of_deadline hc hnot hd hready,
        fun hdeadline => CallContext.attempt_of_ready hc hnot hdeadline⟩⟩
  case life =>
    have ht := sound_follow sound_start steps
    refine ⟨fun handle f delay h hf => run_leave ht h hf delay, fun hc later hlater => ?_,
      fun handle h hc later => outcomes_drop ht h hc later, fun later => ⟨?_, ?_⟩⟩
    · exact isCancelled_follow hc hlater
    · exact Signal.noConfusion ∘ Option.some.inj
    · exact outcomes_withCancel _ later

/-- A signal that is raised after ten of a hundred milliseconds, with fifty to go until the deadline, ends the
work; and once it was raised no more work is begun, though its handle is given up. -/
theorem race_throughout_life_raised :
    let c : CallContext := { deadline? := some 50, signal? := some .quiet }
    let t := follow {} [.withCancel, .cancel 0]
    c.GivesUp (.raised 10) 100 10 ∧ c.attempt (.raised 10) 0 100 = .cutOff .cancelled 10 ∧
      t.context.IsCancelled ∧ ∀ o ∈ t.outcomes [.drop 0, .run 5], o = .refused .cancelled := by
  intro c t
  have hgives : c.GivesUp (.raised 10) 100 10 := by
    refine ⟨rfl, by decide, fun d hd => ?_⟩
    cases hd
    decide
  have hcancelled : t.context.IsCancelled := by decide
  obtain ⟨hrace, -, hlife⟩ := race_throughout_life
  obtain ⟨-, hbegun, -⟩ := hrace c (.raised 10) 0 100 fun m _ => Nat.zero_le m
  obtain ⟨-, hstays, -⟩ := hlife [.withCancel, .cancel 0]
  refine ⟨hgives, (hbegun (by decide)).1 10 hgives, hcancelled, ?_⟩
  exact (hstays hcancelled [.drop 0, .run 5] (by decide)).2

/-- Where the signal, the deadline and the work all come in one millisecond, the deadline ends the race; and
without a deadline the work does. -/
example :
    CallContext.race { deadline? := some 10, signal? := some (.due 10) } 0 10
      = .cutOff .deadlineExceeded 10 ∧
    CallContext.race { signal? := some (.due 10) } 0 10 = .finished 10 := by
  decide

end Timeline

end SessionTokens
