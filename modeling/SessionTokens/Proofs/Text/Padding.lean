import Mathlib.Data.List.TakeWhile
import SessionTokens.Proofs.Text.Base64

/-!
# Base64 with padding

Padding is none of the symbols, so what stands before it is found again. A padded text that can be read is
the one that is written for the bytes read (`decodePadded?_eq_some_iff`).
-/

namespace SessionTokens.Text.Base64

variable {a : Alphabet} {l : List Char} {b : Bytes}

/-! ## Taking padding away -/

/-- What is left of a text without the padding at its end. -/
def strip (l : List Char) : List Char :=
  (l.reverse.dropWhile (· == '=')).reverse

theorem strip_append_replicate (h : '=' ∉ l) (n : Nat) :
    strip (l ++ List.replicate n '=') = l := by
  have hpadding : ∀ c ∈ List.replicate n '=', (c == '=') = true := by
    intro c hc
    rw [List.eq_of_mem_replicate hc]
    rfl
  rw [strip, List.reverse_append, List.reverse_replicate, List.dropWhile_append_of_pos hpadding]
  cases hl : l.reverse with
  | nil =>
    rw [List.reverse_eq_nil_iff.mp hl]
    rfl
  | cons c r =>
    have hc : c ∈ l := List.mem_reverse.mp (hl ▸ List.mem_cons_self)
    have hne : c ≠ '=' := fun heq => h (heq ▸ hc)
    rw [List.dropWhile_cons_of_neg (by simpa using hne), ← hl, List.reverse_reverse]

/-- What is taken away is padding. -/
theorem strip_append_padding (l : List Char) :
    strip l ++ List.replicate (l.length - (strip l).length) '=' = l := by
  have hsplit : strip l ++ (l.reverse.takeWhile (· == '=')).reverse = l := by
    rw [strip, ← List.reverse_append, List.takeWhile_append_dropWhile, List.reverse_reverse]
  have htail : (l.reverse.takeWhile (· == '=')).reverse
      = List.replicate (l.length - (strip l).length) '=' := by
    refine List.eq_replicate_iff.mpr ⟨?_, fun c hc => ?_⟩
    · have hsum := congrArg List.length hsplit
      rw [List.length_append] at hsum
      omega
    · have hpadding := List.mem_takeWhile_imp (List.mem_reverse.mp hc)
      exact eq_of_beq hpadding
  rw [← htail]
  exact hsplit

/-! ## Padded texts -/

theorem length_encodePadded (a : Alphabet) (b : Bytes) :
    (encodePadded a b).length = 4 * ((b.length + 2) / 3) := by
  simp only [encodePadded, paddingLength, List.length_append, List.length_replicate, length_encode]
  omega

theorem strip_encodePadded (ha : a.Proper) (b : Bytes) : strip (encodePadded a b) = encode a b :=
  strip_append_replicate (padding_notMem ha (decode?_encode ha b)) _

theorem decodePadded?_eq (a : Alphabet) (l : List Char) :
    decodePadded? a l =
      if l.length = (strip l).length + paddingLength (strip l).length then decode? a (strip l) else none :=
  rfl

theorem encodePadded_of_decodePadded? (h : decodePadded? a l = some b) : encodePadded a b = l := by
  rw [decodePadded?_eq] at h
  split at h
  · next hlength =>
    have hpadding := strip_append_padding l
    rw [show l.length - (strip l).length = paddingLength (strip l).length by omega] at hpadding
    rw [encodePadded, encode_of_decode? h]
    exact hpadding
  · cases h

theorem decodePadded?_encodePadded (ha : a.Proper) (b : Bytes) :
    decodePadded? a (encodePadded a b) = some b := by
  have hlength : (encodePadded a b).length = (encode a b).length + paddingLength (encode a b).length := by
    rw [encodePadded, List.length_append, List.length_replicate]
  rw [decodePadded?_eq, strip_encodePadded ha, if_pos hlength, decode?_encode ha]

/-- **A padded text that can be read is the padded text of the bytes read.** -/
theorem decodePadded?_eq_some_iff (ha : a.Proper) :
    decodePadded? a l = some b ↔ encodePadded a b = l := by
  constructor
  · exact encodePadded_of_decodePadded?
  · rintro rfl
    exact decodePadded?_encodePadded ha b

end SessionTokens.Text.Base64
