import SessionTokens.Text.Utf8

/-!
# UTF-8 by characters

The bytes of a text are those of its characters one after the other (`encode_ofList`). An ASCII character
is one byte; the bytes of every other character are beyond ASCII.
-/

namespace SessionTokens.Text.Utf8

/-- The bytes of characters. -/
def encodeChars (l : List Char) : Bytes :=
  l.flatMap String.utf8EncodeChar

@[simp] theorem encodeChars_nil : encodeChars [] = [] := rfl

@[simp] theorem encodeChars_cons (c : Char) (l : List Char) :
    encodeChars (c :: l) = String.utf8EncodeChar c ++ encodeChars l := rfl

@[simp] theorem encodeChars_append (l m : List Char) :
    encodeChars (l ++ m) = encodeChars l ++ encodeChars m :=
  List.flatMap_append

/-- The bytes of a text are those of its characters. -/
theorem encode_ofList (l : List Char) : encode (String.ofList l) = encodeChars l := by
  rw [encode, String.toByteArray_ofList, List.utf8Encode, List.toList_data_toByteArray]
  rfl

theorem encode_eq_encodeChars (s : String) : encode s = encodeChars s.toList := by
  rw [← encode_ofList, String.ofList_toList]

theorem utf8EncodeChar_ascii {c : Char} (h : c.toNat < 128) :
    String.utf8EncodeChar c = [UInt8.ofNat c.toNat] := by
  unfold String.utf8EncodeChar
  exact if_pos (Nat.le_of_lt_succ h)

/-- No byte of a character beyond ASCII is an ASCII character. -/
theorem le_of_mem_utf8EncodeChar {c : Char} (h : 128 ≤ c.toNat) :
    ∀ b ∈ String.utf8EncodeChar c, 128 ≤ b.toNat := by
  have hc : ¬c.val.toNat ≤ 0x7f := Nat.not_le_of_lt h
  intro b hb
  unfold String.utf8EncodeChar at hb
  simp only [if_neg hc] at hb
  split at hb
  · simp only [List.mem_cons, List.not_mem_nil, or_false] at hb
    rcases hb with rfl | rfl <;> simp only [UInt8.toNat_ofNat'] <;> omega
  split at hb
  · simp only [List.mem_cons, List.not_mem_nil, or_false] at hb
    rcases hb with rfl | rfl | rfl <;> simp only [UInt8.toNat_ofNat'] <;> omega
  · simp only [List.mem_cons, List.not_mem_nil, or_false] at hb
    rcases hb with rfl | rfl | rfl | rfl <;> simp only [UInt8.toNat_ofNat'] <;> omega

/-- The byte of an ASCII character comes from that character alone. -/
theorem mem_of_byte_mem {d : Char} (hd : d.toNat < 128) {l : List Char}
    (h : UInt8.ofNat d.toNat ∈ encodeChars l) : d ∈ l := by
  have hbyte : (UInt8.ofNat d.toNat).toNat = d.toNat :=
    UInt8.toNat_ofNat_of_lt' (Nat.lt_trans hd (by decide))
  obtain ⟨c, hc, hb⟩ := List.mem_flatMap.mp h
  by_cases hascii : c.toNat < 128
  · rw [utf8EncodeChar_ascii hascii, List.mem_singleton] at hb
    have hnat : d.toNat = c.toNat := by
      rw [← hbyte, hb, UInt8.toNat_ofNat_of_lt' (Nat.lt_trans hascii (by decide))]
    have heq : d = c := by rw [← Char.ofNat_toNat d, hnat, Char.ofNat_toNat]
    exact heq ▸ hc
  · have hle := le_of_mem_utf8EncodeChar (Nat.le_of_not_lt hascii) _ hb
    omega

theorem utf8Size_of_ascii {c : Char} (h : c.toNat < 128) : c.utf8Size = 1 := by
  rw [← String.length_utf8EncodeChar, utf8EncodeChar_ascii h]
  rfl

theorem byteLength_append (l m : List Char) : byteLength (l ++ m) = byteLength l + byteLength m := by
  induction l with
  | nil => exact (Nat.zero_add _).symm
  | cons c r ih => rw [List.cons_append, byteLength, byteLength, ih, Nat.add_assoc]

/-- ASCII characters take one byte each. -/
theorem byteLength_of_ascii {l : List Char} (h : ∀ c ∈ l, c.utf8Size = 1) :
    byteLength l = l.length := by
  induction l with
  | nil => rfl
  | cons c r ih =>
    rw [byteLength, h c List.mem_cons_self, ih fun d hd => h d (List.mem_cons_of_mem c hd),
      List.length_cons, Nat.add_comm]

/-- Every character takes at least one byte. -/
theorem length_le_encodeChars (l : List Char) : l.length ≤ (encodeChars l).length := by
  induction l with
  | nil => exact Nat.le_refl 0
  | cons c r ih =>
    have hc : 0 < (String.utf8EncodeChar c).length := by
      rw [String.length_utf8EncodeChar]
      exact c.utf8Size_pos
    rw [encodeChars_cons, List.length_append, List.length_cons]
    omega

end SessionTokens.Text.Utf8
