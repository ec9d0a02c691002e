import SessionTokens.Text.Utf8

/-!
# Words and bytes

Little-endian numerals in base 256, by which words of any width are read from bytes and written to
them.
-/

namespace SessionTokens.Crypto

/-- The number with the given little-endian bytes. -/
def littleEndian (b : Bytes) : Nat :=
  b.foldr (fun x n => x.toNat + 256 * n) 0

/-- The lowest `count` bytes of a number, the lowest first. -/
def toLittleEndian : Nat → Nat → Bytes
  | 0, _ => []
  | count + 1, n => UInt8.ofNat n :: toLittleEndian count (n / 256)

@[simp] theorem length_toLittleEndian (count n : Nat) : (toLittleEndian count n).length = count := by
  induction count generalizing n with
  | zero => rfl
  | succ count ih => simp [toLittleEndian, ih]

/-- The number in the `width` bytes at index `i` of a sequence of such groups. -/
def wordAt (width : Nat) (b : Bytes) (i : Nat) : Nat :=
  littleEndian ((b.drop (width * i)).take width)

/-! ## Sixteen words -/

theorem mod_sixteen_lt (i : Nat) : i % 16 < 16 :=
  Nat.mod_lt i (by decide)

/-- The places of sixteen words are numbered from zero. -/
instance place (i : Nat) : OfNat (Fin 16) i :=
  ⟨⟨i % 16, mod_sixteen_lt i⟩⟩

/-- Writes one of sixteen words. -/
def put {α : Type} (v : Vector α 16) (i : Fin 16) (x : α) : Vector α 16 :=
  v.set i x

end SessionTokens.Crypto
