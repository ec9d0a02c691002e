import SessionTokens.CallContext.Basic

/-!
# A context over time

The life of one context: its limits are set, its signals are handed out and raised or given up, and time
passes while work is done under it. Handles are numbered in the order in which they were handed out; only
the last one belongs to the context's signal.
-/

namespace SessionTokens

/-- A context with the handles of its signals, at a moment. -/
structure Timeline where
  now : Nat := 0
  context : CallContext := {}
  /-- For each handle, whether it is still at hand. -/
  handles : List Bool := []

namespace Timeline

/-- Sets the deadline to a time from now. -/
def withDeadline (t : Timeline) (after : Nat) : Timeline :=
  { t with context := { t.context with deadline? := some (t.now + after) } }

/-- Sets the deadline to a time from now, unless that is too far away for the clock. -/
def withTimeout (t : Timeline) (after? : Option Nat) : Timeline :=
  match after? with
  | some after => t.withDeadline after
  | none => t

/-- Gives the context a new signal in the place of the one it has, and hands out its handle. -/
def withCancel (t : Timeline) : Nat × Timeline :=
  (t.handles.length,
    { t with
      context := { t.context with signal? := some .quiet }
      handles := t.handles ++ [true] })

/-- The handle is still at hand. -/
abbrev Held (t : Timeline) (handle : Nat) : Prop :=
  t.handles[handle]? = some true

/-- Changes the context's signal through a handle, which has to belong to it, unless it was raised. -/
def setSignal (t : Timeline) (handle : Nat) (s : Signal) : Timeline :=
  if handle + 1 = t.handles.length ∧ ¬t.context.IsCancelled then
    { t with context := { t.context with signal? := some s } }
  else t

/-- Takes a handle away. -/
def release (t : Timeline) (handle : Nat) : Timeline :=
  { t with handles := t.handles.set handle false }

/-- Raises the signal of a handle. -/
def cancel (t : Timeline) (handle : Nat) : Bool × Timeline :=
  if t.Held handle then (true, t.setSignal handle .raised) else (false, t)

/-- Gives up a handle. -/
def drop (t : Timeline) (handle : Nat) : Bool × Timeline :=
  if t.Held handle then (true, (t.setSignal handle .closed).release handle) else (false, t)

/-- Takes a handle away and raises its signal a time from now. -/
def cancelAfter (t : Timeline) (handle after : Nat) : Timeline :=
  if t.Held handle then (t.setSignal handle (.due (t.now + after))).release handle else t

/-- Lets time pass. -/
def wait (t : Timeline) (delay : Nat) : Timeline :=
  { t with now := t.now + delay, context := t.context.elapse (t.now + delay) }

/-- Does work that takes `delay` under the context. -/
def run (t : Timeline) (delay : Nat) : Outcome × Timeline :=
  let outcome := t.context.race t.now delay
  let context :=
    match outcome with
    | .refused _ => t.context
    | _ => if delay = 0 then t.context else t.context.elapse (t.context.limit t.now delay)
  (outcome, { t with now := outcome.moment t.now, context })

end Timeline

end SessionTokens
