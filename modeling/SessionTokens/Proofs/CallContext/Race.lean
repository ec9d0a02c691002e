import SessionTokens.CallContext.Timeline

/-!
# How a race ends

Work under a context is polled once in every millisecond: the signal is looked at first, then the deadline, then
the work, and the first of them that is ready ends the race (`attempt_of_givesUp`, `attempt_of_deadline`,
`attempt_of_ready`). The outcome of a race is the one that this polling arrives at (`race_scheduled`).
-/

namespace SessionTokens

/-- What becomes of the handle of a signal while work is done. -/
inductive Fate where
  | kept
  | dropped (moment : Nat)
  | raised (moment : Nat)
deriving DecidableEq, Repr

/-- A quiet signal whose handle has the fate, once all time before a moment has passed. -/
def Fate.signal (bound : Nat) : Fate → Signal
  | kept => .quiet
  | dropped m => if m < bound then .closed else .quiet
  | raised m => if m < bound then .raised else .quiet

/-- A quiet signal whose handle has the fate, with what is set already. -/
def Fate.scheduled : Fate → Signal
  | kept => .quiet
  | dropped _ => .closed
  | raised m => .due m

namespace CallContext

/-! ## Polling -/

/-- The context once all time before a moment has passed, where the handle of its signal has a fate. -/
def seen (c : CallContext) (f : Fate) (bound : Nat) : CallContext :=
  { c with signal? := c.signal?.map fun s => if s = .quiet then f.signal bound else s.elapse bound }

/-- Polls work that is ready at one moment, from another moment on. What others do in a millisecond is
seen at its end. -/
def watch (c : CallContext) (f : Fate) (ready now : Nat) : Outcome :=
  if (c.seen f now).IsCancelled then .cutOff .cancelled now
  else if c.Overdue now then .cutOff .deadlineExceeded now
  else if ready ≤ now then .finished now
  else if (c.seen f (now + 1)).IsCancelled then .cutOff .cancelled now
  else c.watch f ready (now + 1)
termination_by ready - now

/-- Does work that takes `delay`, by polling. The work is not polled before the signal and the deadline
have been looked at. -/
def attempt (c : CallContext) (f : Fate) (start delay : Nat) : Outcome :=
  if c.IsCancelled then .refused .cancelled
  else if c.Overdue start then .refused .deadlineExceeded
  else c.watch f (start + delay) start

/-- The moment at which the signal is going to be raised, if it is. -/
def raisedAt? (c : CallContext) (f : Fate) : Option Nat :=
  match c.signal?, f with
  | some .quiet, .raised m => some m
  | some (.due m), _ => some m
  | _, _ => none

/-- The caller gives up at a moment, before the deadline and before the work is ready. -/
structure GivesUp (c : CallContext) (f : Fate) (ready moment : Nat) : Prop where
  raised : c.raisedAt? f = some moment
  lt_ready : moment < ready
  lt_deadline : ∀ d, c.deadline? = some d → moment < d

variable {c : CallContext} {f : Fate} {ready now start delay : Nat}

/-- The signal is seen from the moment on behind the one at which it is raised. -/
theorem isCancelled_seen (hc : ¬c.IsCancelled) {bound : Nat} :
    (c.seen f bound).IsCancelled ↔ ∃ m, c.raisedAt? f = some m ∧ m < bound := by
  obtain ⟨deadline?, signal?⟩ := c
  cases signal? with
  | none => simp [seen, raisedAt?, IsCancelled]
  | some s =>
    cases s with
    | quiet =>
      cases f with
      | kept => simp [seen, raisedAt?, IsCancelled, Fate.signal]
      | dropped m =>
        have hclosed : (if m < bound then Signal.closed else .quiet) ≠ .raised := by
          split
          · exact Signal.noConfusion
          · exact Signal.noConfusion
        simpa [seen, raisedAt?, IsCancelled, Fate.signal] using hclosed
      | raised m => simp [seen, raisedAt?, IsCancelled, Fate.signal]
    | due m => simp [seen, raisedAt?, IsCancelled, Signal.elapse]
    | raised => exact absurd rfl hc
    | closed => simp [seen, raisedAt?, IsCancelled, Signal.elapse]

theorem not_isCancelled_seen (hc : ¬c.IsCancelled) {bound : Nat}
    (h : ∀ m, c.raisedAt? f = some m → bound ≤ m) : ¬(c.seen f bound).IsCancelled := by
  rw [isCancelled_seen hc]
  rintro ⟨m, hm, hlt⟩
  exact Nat.not_lt.mpr (h m hm) hlt

theorem not_overdue_iff {now : Nat} :
    ¬c.Overdue now ↔ ∀ d, c.deadline? = some d → now < d := by
  simp only [Overdue, not_exists, not_and, Nat.not_le]

/-! ## The first moment at which something is ready -/

/-- A moment at which nothing is ready passes. -/
theorem watch_of_idle (hc : ¬c.IsCancelled) (hraised : ∀ m, c.raisedAt? f = some m → now < m)
    (hdeadline : ∀ d, c.deadline? = some d → now < d) (hready : now < ready) :
    c.watch f ready now = c.watch f ready (now + 1) := by
  have hsignal : ¬(c.seen f now).IsCancelled :=
    not_isCancelled_seen hc fun m hm => Nat.le_of_lt (hraised m hm)
  have hlate : ¬(c.seen f (now + 1)).IsCancelled := not_isCancelled_seen hc hraised
  rw [watch, if_neg hsignal, if_neg (not_overdue_iff.mpr hdeadline), if_neg (Nat.not_le.mpr hready),
    if_neg hlate]

/-- All moments pass before the first at which something is ready. -/
theorem watch_skip (hc : ¬c.IsCancelled) {later : Nat} (hle : now ≤ later)
    (hraised : ∀ m, c.raisedAt? f = some m → later ≤ m)
    (hdeadline : ∀ d, c.deadline? = some d → later ≤ d) (hready : later ≤ ready) :
    c.watch f ready now = c.watch f ready later := by
  induction hle with
  | refl => rfl
  | step _ ih =>
    have hbefore := ih (fun m hm => Nat.le_of_succ_le (hraised m hm))
      (fun d hd => Nat.le_of_succ_le (hdeadline d hd)) (Nat.le_of_succ_le hready)
    rw [hbefore, watch_of_idle hc hraised hdeadline hready]

section

variable (hc : ¬c.IsCancelled)

include hc

theorem watch_of_givesUp {m : Nat} (h : c.GivesUp f ready m) (hle : now ≤ m) :
    c.watch f ready now = .cutOff .cancelled m := by
  have honly (k : Nat) (hk : c.raisedAt? f = some k) : m ≤ k := by
    rw [h.raised] at hk
    exact Nat.le_of_eq (Option.some.inj hk)
  have hlast : (c.seen f (m + 1)).IsCancelled :=
    (isCancelled_seen hc).mpr ⟨m, h.raised, Nat.lt_succ_self m⟩
  rw [watch_skip hc hle honly (fun d hd => Nat.le_of_lt (h.lt_deadline d hd)) (Nat.le_of_lt h.lt_ready),
    watch, if_neg (not_isCancelled_seen hc honly), if_neg (not_overdue_iff.mpr h.lt_deadline),
    if_neg (Nat.not_le.mpr h.lt_ready), if_pos hlast]

theorem watch_of_deadline (h : ¬∃ m, c.GivesUp f ready m) {d : Nat} (hd : c.deadline? = some d)
    (hle : now ≤ d) (hready : d ≤ ready) : c.watch f ready now = .cutOff .deadlineExceeded d := by
  have hdeadline (k : Nat) (hk : c.deadline? = some k) : d ≤ k := by
    rw [hd] at hk
    exact Nat.le_of_eq (Option.some.inj hk)
  -- a signal before the deadline would be in time
  have hraised (m : Nat) (hm : c.raisedAt? f = some m) : d ≤ m := by
    refine Nat.le_of_not_lt fun hlt => h ⟨m, hm, Nat.lt_of_lt_of_le hlt hready, fun k hk => ?_⟩
    exact Nat.lt_of_lt_of_le hlt (hdeadline k hk)
  rw [watch_skip hc hle hraised hdeadline hready, watch, if_neg (not_isCancelled_seen hc hraised),
    if_pos ⟨d, hd, Nat.le_refl d⟩]

theorem watch_of_ready (h : ¬∃ m, c.GivesUp f ready m)
    (hdeadline : ∀ d, c.deadline? = some d → ready < d) (hle : now ≤ ready) :
    c.watch f ready now = .finished ready := by
  have hraised (m : Nat) (hm : c.raisedAt? f = some m) : ready ≤ m :=
    Nat.le_of_not_lt fun hlt => h ⟨m, hm, hlt, fun d hd => Nat.lt_trans hlt (hdeadline d hd)⟩
  rw [watch_skip hc hle hraised (fun d hd => Nat.le_of_lt (hdeadline d hd)) (Nat.le_refl ready), watch,
    if_neg (not_isCancelled_seen hc hraised), if_neg (not_overdue_iff.mpr hdeadline),
    if_pos (Nat.le_refl ready)]

end

/-! ## Attempts -/

theorem attempt_of_cancelled (hc : c.IsCancelled) (f : Fate) (start delay : Nat) :
    c.attempt f start delay = .refused .cancelled :=
  if_pos hc

section

variable (hc : ¬c.IsCancelled) (hstart : ∀ m, c.raisedAt? f = some m → start ≤ m)

include hc

/-- Work is begun unless its time is over already. -/
theorem attempt_eq_watch (hdeadline : ∀ d, c.deadline? = some d → start < d) :
    c.attempt f start delay = c.watch f (start + delay) start := by
  rw [attempt, if_neg hc, if_neg (not_overdue_iff.mpr hdeadline)]

include hstart

theorem attempt_of_givesUp {m : Nat} (h : c.GivesUp f (start + delay) m) :
    c.attempt f start delay = .cutOff .cancelled m := by
  have hle := hstart m h.raised
  rw [attempt_eq_watch hc fun d hd => Nat.lt_of_le_of_lt hle (h.lt_deadline d hd)]
  exact watch_of_givesUp hc h hle

omit hstart

theorem attempt_of_deadline (h : ¬∃ m, c.GivesUp f (start + delay) m) {d : Nat}
    (hd : c.deadline? = some d) (hready : d ≤ start + delay) :
    c.attempt f start delay =
      if d ≤ start then .refused .deadlineExceeded else .cutOff .deadlineExceeded d := by
  by_cases hle : d ≤ start
  · rw [if_pos hle, attempt, if_neg hc, if_pos ⟨d, hd, hle⟩]
  · have hlt : start < d := Nat.not_le.mp hle
    rw [if_neg hle, attempt_eq_watch hc fun k hk => ?_]
    · exact watch_of_deadline hc h hd (Nat.le_of_lt hlt) hready
    · rwa [← Option.some.inj (hd.symm.trans hk)]

theorem attempt_of_ready (h : ¬∃ m, c.GivesUp f (start + delay) m)
    (hdeadline : ∀ d, c.deadline? = some d → start + delay < d) :
    c.attempt f start delay = .finished (start + delay) := by
  have hle : start ≤ start + delay := Nat.le_add_right start delay
  rw [attempt_eq_watch hc fun d hd => Nat.lt_of_le_of_lt hle (hdeadline d hd)]
  exact watch_of_ready hc h hdeadline hle

end

/-! ## The race -/

/-- The context with what is set for its signal. -/
def scheduled (c : CallContext) (f : Fate) : CallContext :=
  { c with signal? := c.signal?.map fun s => if s = .quiet then f.scheduled else s }

theorem scheduled_of_quiet (h : c.signal? = some .quiet) :
    c.scheduled f = { c with signal? := some f.scheduled } := by
  rw [scheduled, h]
  rfl

/-- The fate of a handle makes no difference to a signal that was raised. -/
theorem scheduled_of_cancelled (h : c.IsCancelled) : c.scheduled f = c := by
  obtain ⟨deadline?, signal?⟩ := c
  cases h
  rfl

theorem isCancelled_scheduled : (c.scheduled f).IsCancelled ↔ c.IsCancelled := by
  obtain ⟨deadline?, signal?⟩ := c
  cases signal? with
  | none => simp [scheduled, IsCancelled]
  | some s => cases s <;> cases f <;> simp [scheduled, IsCancelled, Fate.scheduled]

theorem lt_limit_iff {m : Nat} : m < c.limit start delay ↔
    m < start + delay ∧ ∀ d, c.deadline? = some d → m < d := by
  unfold limit
  cases c.deadline? with
  | none => simp
  | some d => simp only [Option.map_some, Option.getD_some, Nat.lt_min, Option.some.injEq, forall_eq']

theorem limit_of_deadline {d : Nat} (hd : c.deadline? = some d) (hready : d ≤ start + delay) :
    c.limit start delay = d := by
  rw [limit, hd]
  exact Nat.min_eq_right hready

theorem limit_of_ready (h : ∀ d, c.deadline? = some d → start + delay < d) :
    c.limit start delay = start + delay := by
  unfold limit
  cases hd : c.deadline? with
  | none => rfl
  | some d => exact Nat.min_eq_left (Nat.le_of_lt (h d hd))

/-- How a race ends that no signal ends. -/
def atLimit (c : CallContext) (start delay : Nat) : Outcome :=
  let limit := c.limit start delay
  if c.Overdue limit then .cutOff .deadlineExceeded limit else .finished limit

/-- A race that has begun ends with its signal, if that is raised before the limit. -/
theorem race_of_begun (hc : ¬c.IsCancelled) (hdeadline : ∀ d, c.deadline? = some d → start < d)
    (hdelay : delay ≠ 0) : c.race start delay =
      match c.signal? with
      | some (.due m) =>
        if m < c.limit start delay then .cutOff .cancelled (max start m) else c.atLimit start delay
      | _ => c.atLimit start delay := by
  rw [race, if_neg hc, if_neg (not_overdue_iff.mpr hdeadline), if_neg hdelay]
  rfl

theorem race_of_begun_cases (hc : ¬c.IsCancelled) (hdeadline : ∀ d, c.deadline? = some d → start < d)
    (hdelay : delay ≠ 0) :
    (∃ m < c.limit start delay, c.race start delay = .cutOff .cancelled (max start m)) ∨
      c.race start delay = c.atLimit start delay := by
  rw [race_of_begun hc hdeadline hdelay]
  split
  · next m _ =>
    by_cases hm : m < c.limit start delay
    · exact Or.inl ⟨m, hm, if_pos hm⟩
    · exact Or.inr (if_neg hm)
  · exact Or.inr rfl

section

variable (hc : ¬c.IsCancelled) (hdeadline : ∀ d, c.deadline? = some d → start < d) (hdelay : delay ≠ 0)

include hc hdeadline hdelay

theorem race_scheduled_of_begun : (c.scheduled f).race start delay =
    match c.raisedAt? f with
    | some m => if m < c.limit start delay then .cutOff .cancelled (max start m) else c.atLimit start delay
    | none => c.atLimit start delay := by
  rw [race_of_begun (mt isCancelled_scheduled.mp hc) hdeadline hdelay]
  obtain ⟨deadline?, signal?⟩ := c
  cases signal? with
  | none => rfl
  | some s =>
    cases s with
    | quiet => cases f <;> rfl
    | due m => rfl
    | raised => rfl
    | closed => rfl

theorem race_scheduled_of_lt {m : Nat} (hm : c.raisedAt? f = some m) (hlt : m < c.limit start delay) :
    (c.scheduled f).race start delay = .cutOff .cancelled (max start m) := by
  rw [race_scheduled_of_begun hc hdeadline hdelay]
  simp only [hm, if_pos hlt]

theorem race_scheduled_of_le (h : ∀ m, c.raisedAt? f = some m → c.limit start delay ≤ m) :
    (c.scheduled f).race start delay = c.atLimit start delay := by
  rw [race_scheduled_of_begun hc hdeadline hdelay]
  cases hm : c.raisedAt? f with
  | none => rfl
  | some m => exact if_neg (Nat.not_lt.mpr (h m hm))

end

theorem atLimit_of_deadline {d : Nat} (hd : c.deadline? = some d) (hready : d ≤ start + delay) :
    c.atLimit start delay = .cutOff .deadlineExceeded d := by
  rw [atLimit, limit_of_deadline hd hready]
  exact if_pos ⟨d, hd, Nat.le_refl d⟩

theorem atLimit_of_ready (h : ∀ d, c.deadline? = some d → start + delay < d) :
    c.atLimit start delay = .finished (start + delay) := by
  rw [atLimit, limit_of_ready h]
  exact if_neg (not_overdue_iff.mpr h)

theorem moment_atLimit (c : CallContext) (start delay : Nat) :
    (c.atLimit start delay).moment start = c.limit start delay := by
  rw [atLimit]
  split <;> rfl

/-- Work that is ready at once is not raced against anything. -/
theorem attempt_of_zero (hc : ¬c.IsCancelled) (hstart : ∀ m, c.raisedAt? f = some m → start ≤ m)
    (hdeadline : ∀ d, c.deadline? = some d → start < d) : c.attempt f start 0 = .finished start := by
  refine attempt_of_ready hc ?_ hdeadline
  rintro ⟨m, h⟩
  exact Nat.not_lt.mpr (hstart m h.raised) h.lt_ready

/-- **A race ends as polling does.** -/
theorem race_scheduled (hstart : ∀ m, c.raisedAt? f = some m → start ≤ m) :
    (c.scheduled f).race start delay = c.attempt f start delay := by
  by_cases hc : c.IsCancelled
  · rw [attempt_of_cancelled hc, race, if_pos (isCancelled_scheduled.mpr hc)]
  have hcs : ¬(c.scheduled f).IsCancelled := mt isCancelled_scheduled.mp hc
  by_cases hover : c.Overdue start
  · have hovers : (c.scheduled f).Overdue start := hover
    rw [attempt, if_neg hc, if_pos hover, race, if_neg hcs, if_pos hovers]
  have hdeadline := not_overdue_iff.mp hover
  by_cases hdelay : delay = 0
  · have hovers : ¬(c.scheduled f).Overdue start := hover
    rw [race, if_neg hcs, if_neg hovers, if_pos hdelay, hdelay, attempt_of_zero hc hstart hdeadline]
  by_cases hgives : ∃ m, c.GivesUp f (start + delay) m
  · obtain ⟨m, h⟩ := hgives
    have hlt := lt_limit_iff.mpr ⟨h.lt_ready, h.lt_deadline⟩
    rw [attempt_of_givesUp hc hstart h, race_scheduled_of_lt hc hdeadline hdelay h.raised hlt,
      Nat.max_eq_right (hstart m h.raised)]
  -- a signal that is raised all the same is not in time
  have hlate (m : Nat) (hm : c.raisedAt? f = some m) : c.limit start delay ≤ m :=
    Nat.le_of_not_lt fun hlt => hgives ⟨m, hm, (lt_limit_iff.mp hlt).1, (lt_limit_iff.mp hlt).2⟩
  rw [race_scheduled_of_le hc hdeadline hdelay hlate]
  by_cases htime : ∃ d, c.deadline? = some d ∧ d ≤ start + delay
  · obtain ⟨d, hd, hready⟩ := htime
    rw [attempt_of_deadline hc hgives hd hready, if_neg (Nat.not_le.mpr (hdeadline d hd)),
      atLimit_of_deadline hd hready]
  · have hready (d : Nat) (hd : c.deadline? = some d) : start + delay < d :=
      Nat.not_le.mp fun hle => htime ⟨d, hd, hle⟩
    rw [attempt_of_ready hc hgives hready, atLimit_of_ready hready]

/-! ## Signals that nobody can raise -/

/-- There is no signal, or its handle was given up. -/
def Mute (c : CallContext) : Prop :=
  c.signal? = none ∨ c.signal? = some .closed

namespace Mute

theorem not_isCancelled (h : c.Mute) : ¬c.IsCancelled := by
  rcases h with h | h <;> simp [IsCancelled, h]

theorem elapse (h : c.Mute) (bound : Nat) : (c.elapse bound).Mute := by
  rcases h with h | h
  · exact Or.inl (by rw [CallContext.elapse, h]; rfl)
  · exact Or.inr (by rw [CallContext.elapse, h]; rfl)

/-- **A signal that nobody can raise is as good as none.** -/
theorem race_eq (h : c.Mute) (now delay : Nat) :
    c.race now delay = { c with signal? := none }.race now delay := by
  obtain ⟨deadline?, signal?⟩ := c
  rcases h with h | h
  · cases h
    rfl
  · cases h
    rfl

end Mute

/-- **A handle that is given up while work is done is as good as no signal.** -/
theorem attempt_dropped (h : c.signal? = some .quiet) (m start delay : Nat) :
    c.attempt (.dropped m) start delay = { c with signal? := none }.attempt .kept start delay := by
  have hmute : (c.scheduled (.dropped m)).Mute := by
    rw [scheduled_of_quiet h]
    exact Or.inr rfl
  have hdropped : c.raisedAt? (.dropped m) = none := by simp [raisedAt?, h]
  rw [← race_scheduled (by simp [hdropped]), hmute.race_eq, ← race_scheduled (by simp [raisedAt?])]
  rfl

end CallContext

end SessionTokens
