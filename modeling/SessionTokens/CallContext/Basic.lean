/-!
# Call contexts

A call may be given a deadline and a signal by which the caller gives up. Work is done in a race against
both. Times are milliseconds on the caller's clock.
-/

namespace SessionTokens

/-- What has become of a cancel signal. -/
inductive Signal where
  /-- It may still be raised at any time. -/
  | quiet
  /-- It will be raised at a moment that is set already. -/
  | due (moment : Nat)
  /-- It was raised, and stays so. -/
  | raised
  /-- It was given up without having been raised, and never will be. -/
  | closed
deriving DecidableEq, Repr

/-- The signal once all time before a moment has passed. -/
def Signal.elapse (bound : Nat) : Signal → Signal
  | due m => if m < bound then raised else due m
  | s => s

/-- The limits of a call. -/
structure CallContext where
  deadline? : Option Nat := none
  /-- The signal by which the caller gives up. -/
  signal? : Option Signal := none
deriving DecidableEq, Repr

/-- Why work was not done. -/
inductive Interruption where
  | cancelled
  | deadlineExceeded
deriving DecidableEq, Repr

/-- How a race ends. -/
inductive Outcome where
  /-- The work was not begun. -/
  | refused (why : Interruption)
  | cutOff (why : Interruption) (moment : Nat)
  | finished (moment : Nat)
deriving DecidableEq, Repr

namespace CallContext

/-- The context without limits. -/
def background : CallContext := {}

/-- The caller has given up. -/
abbrev IsCancelled (c : CallContext) : Prop :=
  c.signal? = some .raised

/-- The call's time is over at a moment. -/
def Overdue (c : CallContext) (now : Nat) : Prop :=
  ∃ d, c.deadline? = some d ∧ d ≤ now

instance (c : CallContext) (now : Nat) : Decidable (c.Overdue now) :=
  match h : c.deadline? with
  | none => isFalse (by simp [Overdue, h])
  | some d => decidable_of_iff (d ≤ now) (by simp [Overdue, h])

/-- The moment at which work that takes `delay` is done or its time is over, whichever is first. -/
def limit (c : CallContext) (now delay : Nat) : Nat :=
  (c.deadline?.map (min (now + delay))).getD (now + delay)

/-- Work that begins now and takes `delay`, in a race against the limits. A signal raised in the last
millisecond comes too late, and a deadline in it comes first. -/
def race (c : CallContext) (now delay : Nat) : Outcome :=
  if c.IsCancelled then .refused .cancelled
  else if c.Overdue now then .refused .deadlineExceeded
  else if delay = 0 then .finished now
  else
    let limit := c.limit now delay
    match c.signal? with
    | some (.due m) =>
      if m < limit then .cutOff .cancelled (max now m)
      else if c.Overdue limit then .cutOff .deadlineExceeded limit
      else .finished limit
    | _ => if c.Overdue limit then .cutOff .deadlineExceeded limit else .finished limit

/-- The context once all time before a moment has passed. -/
def elapse (c : CallContext) (bound : Nat) : CallContext :=
  { c with signal? := c.signal?.map (Signal.elapse bound) }

end CallContext

/-- The moment at which a race ends that began at `start`. -/
def Outcome.moment (start : Nat) : Outcome → Nat
  | refused _ => start
  | cutOff _ m => m
  | finished m => m

end SessionTokens
