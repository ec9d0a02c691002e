import SessionTokens.CallContext.Basic
import SessionTokens.Store.Basic

/-!
# What services act on

A session store with the time that it takes and the way it may fail, a clock, and a stream of random
bytes. A call to the store is made under a call context.
-/

namespace SessionTokens

open Time (Instant)

/-- The surroundings of a service. -/
structure World (σ : Type) where
  store : σ
  now : Instant
  random : ByteStream
  /-- The milliseconds that each look-up and each insertion takes. -/
  latency : Nat := 0
  /-- The message with which all look-ups and insertions fail, if they do. -/
  outage? : Option String := none
  /-- How many look-ups were begun. -/
  lookups : Nat := 0
  /-- How many insertions were begun. -/
  insertions : Nat := 0

namespace World

variable {σ : Type}

/-- Draws from the random bytes. -/
def drawing {α : Type} (w : World σ) (draw : ByteStream → α × ByteStream) : α × World σ :=
  ((draw w.random).1, { w with random := (draw w.random).2 })

/-- Lets the time of a call to the store pass. -/
def elapse (w : World σ) : World σ :=
  { w with now := w.now.afterMillis w.latency }

variable [SessionStore σ]

/-- Looks a session up. The clock moves before the store is read. -/
def find (id : TokenId) (w : World σ) : Except StoreError Session × World σ :=
  let w := { w with lookups := w.lookups + 1 }.elapse
  match w.outage? with
  | some m => (.error (.backend m), w)
  | none => (SessionStore.find id w.store, w)

/-- Adds a session. The clock moves before the store is written to. -/
def insert (n : NewSession) (w : World σ) : Except StoreError Session × World σ :=
  let w := { w with insertions := w.insertions + 1 }.elapse
  match w.outage? with
  | some m => (.error (.backend m), w)
  | none =>
    let (result, store) := SessionStore.insert n w.now w.store
    (result, { w with store })

/-- Blocks a session. -/
def block (id : TokenId) (w : World σ) : Except StoreError Unit × World σ :=
  let (result, store) := SessionStore.block id w.store
  (result, { w with store })

/-- Makes a call to the store under a context, whose clock begins with the call. A call that is
refused is not begun, and one that is cut off has no effect but that `begun` records it. -/
def under {α : Type} (c : CallContext) (begun : World σ → World σ) (call : World σ → α × World σ)
    (w : World σ) : Except Interruption α × World σ :=
  match c.race 0 w.latency with
  | .refused why => (.error why, w)
  | .cutOff why _ => (.error why, begun w)
  | .finished _ => ((.ok (call w).1), (call w).2)

/-- Looks a session up under a context. -/
def findUnder (c : CallContext) (id : TokenId) (w : World σ) :
    Except Interruption (Except StoreError Session) × World σ :=
  w.under c (fun w => { w with lookups := w.lookups + 1 }) (find id)

/-- Adds a session under a context. -/
def insertUnder (c : CallContext) (n : NewSession) (w : World σ) :
    Except Interruption (Except StoreError Session) × World σ :=
  w.under c (fun w => { w with insertions := w.insertions + 1 }) (insert n)

end World

end SessionTokens
