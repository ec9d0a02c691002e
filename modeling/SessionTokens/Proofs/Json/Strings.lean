import SessionTokens.Json.Scanner
import SessionTokens.Json.Writer
import SessionTokens.Proofs.Text.Utf8

/-!
# Strings are read back

What is written for a character, escaped or not, takes the scanner of a string from one place between
characters to the next, and the content that it finds are the character's bytes (`run_escape`). So every
text is read back from its string, whatever follows it (`takeText?_text`).
-/

namespace SessionTokens.Json

open Text.Utf8 (encode encodeChars encodeChars_cons encodeChars_append encodeChars_nil)

/-! ## Runs of the scanner -/

/-- Reads bytes of a string that does not end among them, and collects their content. -/
def Place.run (pairs : Bool) (p : Place) : Bytes → Option (Place × Bytes)
  | [] => some (p, [])
  | b :: r =>
    if p = .plain ∧ b = 0x22 then none
    else
      (p.step pairs b).bind fun (q, content) =>
        (q.run pairs r).map fun (last, more) => (last, content ++ more)

/-- A run is the first part of a scan. -/
theorem scanString_of_run {pairs : Bool} {p q : Place} {l content : Bytes}
    (h : p.run pairs l = some (q, content)) (acc rest : Bytes) :
    scanString pairs p acc (l ++ rest) = scanString pairs q (content.reverse ++ acc) rest := by
  induction l generalizing p acc content with
  | nil =>
    obtain ⟨rfl, rfl⟩ := Prod.mk.inj (Option.some.inj h)
    rfl
  | cons b r ih =>
    unfold Place.run at h
    split at h
    · simp at h
    · next hend =>
      simp only [Option.bind_eq_some_iff, Option.map_eq_some_iff, Prod.exists] at h
      obtain ⟨s, c, hstep, last, more, hrun, heq⟩ := h
      obtain ⟨rfl, rfl⟩ := Prod.mk.inj heq
      -- the scan collects in reverse what the run collects in order
      rw [List.cons_append, scanString, if_neg hend, hstep]
      simp only
      rw [ih hrun]
      simp

theorem run_append {pairs : Bool} {p q s : Place} {l m c d : Bytes}
    (hl : p.run pairs l = some (q, c)) (hm : q.run pairs m = some (s, d)) :
    p.run pairs (l ++ m) = some (s, c ++ d) := by
  induction l generalizing p c with
  | nil =>
    obtain ⟨rfl, rfl⟩ := Prod.mk.inj (Option.some.inj hl)
    exact hm
  | cons b r ih =>
    unfold Place.run at hl
    split at hl
    · simp at hl
    · next hend =>
      simp only [Option.bind_eq_some_iff, Option.map_eq_some_iff, Prod.exists] at hl
      obtain ⟨t, e, hstep, last, more, hrun, heq⟩ := hl
      obtain ⟨rfl, rfl⟩ := Prod.mk.inj heq
      rw [List.cons_append, Place.run, if_neg hend, hstep]
      simp [ih hrun]

/-! ## Characters -/

/-- Bytes beyond ASCII stand for themselves. -/
theorem run_of_le {pairs : Bool} {l : Bytes} (h : ∀ b ∈ l, 128 ≤ b.toNat) :
    Place.plain.run pairs l = some (.plain, l) := by
  induction l with
  | nil => rfl
  | cons b r ih =>
    have hb : 128 ≤ b.toNat := h b List.mem_cons_self
    have hne {c : UInt8} (hc : c.toNat < 128) : b ≠ c := by
      rintro rfl
      omega
    have hctrl : ¬b < 0x20 := by
      rw [UInt8.lt_iff_toNat_lt]
      exact Nat.not_lt_of_le (Nat.le_trans (by decide) hb)
    have hstep : Place.plain.step pairs b = some (.plain, [b]) := by
      rw [Place.step, if_neg (hne (by decide)), if_neg hctrl]
    rw [Place.run, if_neg (fun he => hne (by decide) he.2), hstep]
    simp [ih fun c hc => h c (List.mem_cons_of_mem b hc)]

theorem run_escape_ascii : ∀ pairs : Bool, ∀ n < 128,
    Place.plain.run pairs (encodeChars (escape (Char.ofNat n))) = some (.plain, [UInt8.ofNat n]) := by
  decide +kernel

/-- **What is written for a character is read as its bytes.** -/
theorem run_escape (pairs : Bool) (c : Char) :
    Place.plain.run pairs (encodeChars (escape c)) = some (.plain, String.utf8EncodeChar c) := by
  by_cases h : c.toNat < 128
  -- only ASCII characters are escaped, and there are few enough to go through them all
  · have hrun := run_escape_ascii pairs c.toNat h
    rw [Char.ofNat_toNat] at hrun
    rw [hrun, Text.Utf8.utf8EncodeChar_ascii h]
  · have hescape : escape c = [c] := by
      have hne {d : Char} (hd : d.toNat < 128) : c ≠ d := by
        rintro rfl
        exact h hd
      unfold escape
      rw [if_neg (by simp [hne]), if_neg (hne (by decide)), if_neg (hne (by decide)),
        if_neg (hne (by decide)), if_neg (hne (by decide)), if_neg (hne (by decide)),
        if_neg (by omega)]
    rw [hescape, encodeChars_cons, encodeChars_nil, List.append_nil]
    exact run_of_le (Text.Utf8.le_of_mem_utf8EncodeChar (Nat.le_of_not_lt h))

theorem run_flatMap_escape (pairs : Bool) (l : List Char) :
    Place.plain.run pairs (encodeChars (l.flatMap escape)) = some (.plain, encodeChars l) := by
  induction l with
  | nil => rfl
  | cons c r ih =>
    rw [List.flatMap_cons, encodeChars_append, encodeChars_cons]
    exact run_append (run_escape pairs c) ih

/-! ## Strings -/

theorem encodeChars_text (s : String) :
    encodeChars (text s) = 0x22 :: (encodeChars (s.toList.flatMap escape) ++ [0x22]) := by
  have hquote : String.utf8EncodeChar '"' = [0x22] := by decide
  simp [text, hquote]

/-- A string is scanned to its end, and its content is the text. -/
theorem scanString_text (pairs : Bool) (s : String) (rest : Bytes) :
    scanString pairs .plain [] (encodeChars (s.toList.flatMap escape) ++ 0x22 :: rest)
      = some (encode s, rest) := by
  rw [scanString_of_run (run_flatMap_escape pairs s.toList), scanString, if_pos ⟨rfl, rfl⟩,
    Text.Utf8.encode_eq_encodeChars]
  simp

/-- **Every text is read back from its string.** -/
theorem takeText?_text (s : String) (rest : Bytes) :
    takeText? (encodeChars (s.toList.flatMap escape) ++ 0x22 :: rest) = some (s, rest) := by
  rw [takeText?, scanString_text]
  simp

end SessionTokens.Json
