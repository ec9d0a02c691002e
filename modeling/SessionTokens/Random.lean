import SessionTokens.Text.Utf8

/-!
# Streams of random bytes

An endless sequence of bytes and the place up to which it has been used. Main statement: what is drawn
are the bytes from that place on, and the next draw begins behind them (`draw_fst`, `draw_position`).
-/

namespace SessionTokens

/-- An endless sequence of bytes, used up to a position. -/
structure ByteStream where
  byte : Nat → UInt8
  /-- How many bytes have been used. -/
  position : Nat := 0

namespace ByteStream

/-- The `count` bytes from index `start` on. -/
def segment (s : ByteStream) (start count : Nat) : Bytes :=
  (List.range count).map fun i => s.byte (start + i)

/-- Takes the next `count` bytes. -/
def draw (s : ByteStream) (count : Nat) : Bytes × ByteStream :=
  (s.segment s.position count, { s with position := s.position + count })

@[simp] theorem length_segment (s : ByteStream) (start count : Nat) :
    (s.segment start count).length = count := by
  simp [segment]

@[simp] theorem draw_fst (s : ByteStream) (count : Nat) :
    (s.draw count).1 = s.segment s.position count := rfl

@[simp] theorem draw_position (s : ByteStream) (count : Nat) :
    (s.draw count).2.position = s.position + count := rfl

end ByteStream

/-! ## Seeded streams -/

/-- A map `x ↦ mul * x + add` on words of 64 bits. -/
structure AffineStep where
  mul : UInt64
  add : UInt64

namespace AffineStep

/-- Applies the map. -/
def apply (f : AffineStep) (x : UInt64) : UInt64 :=
  f.mul * x + f.add

/-- The map that applies `g` and then `f`. -/
def comp (f g : AffineStep) : AffineStep :=
  ⟨f.mul * g.mul, f.mul * g.add + f.add⟩

/-- The map that applies `f` as often as `n` says, found by repeated squaring. -/
def iterate (f : AffineStep) (n : Nat) : AffineStep :=
  if n = 0 then ⟨1, 0⟩
  else
    let half := f.iterate (n / 2)
    let even := half.comp half
    if n % 2 = 0 then even else even.comp f

end AffineStep

/-- The step from one state of the generator to the next. -/
def generatorStep : AffineStep :=
  ⟨6364136223846793005, 1442695040888963407⟩

/-- The stream of a linear congruential generator: after each step, the highest byte of its state. -/
def ByteStream.ofSeed (seed : UInt64) : ByteStream where
  byte i := (((generatorStep.iterate (i + 1)).apply seed) >>> 56).toUInt8

end SessionTokens
