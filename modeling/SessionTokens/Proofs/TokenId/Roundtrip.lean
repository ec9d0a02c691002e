import SessionTokens.Proofs.Text.Hex
import SessionTokens.Proofs.Text.Utf8
import SessionTokens.TokenId.Reader

/-!
# Identifiers are read back

The written identifier has 36 ASCII characters, of which four are hyphens at fixed places; without the
hyphens it is the digits of the identifier's bytes (`ofChars?_toChars`).
-/

namespace SessionTokens

namespace TokenId

open Text.Utf8 (byteLength byteLength_of_ascii)

/-! ## Hyphens -/

/-- The groups that hyphens separate, put together again. -/
theorem take_append_groups (l : List Char) :
    l.take 8 ++ ((l.drop 8).take 4 ++ ((l.drop 12).take 4 ++ ((l.drop 16).take 4 ++ l.drop 20)))
      = l := by
  rw [show l.drop 20 = (l.drop 16).drop 4 by rw [List.drop_drop], List.take_append_drop,
    show l.drop 16 = (l.drop 12).drop 4 by rw [List.drop_drop], List.take_append_drop,
    show l.drop 12 = (l.drop 8).drop 4 by rw [List.drop_drop], List.take_append_drop,
    List.take_append_drop]

theorem length_hyphenate {l : List Char} (h : l.length = 32) : (hyphenate l).length = 36 := by
  simp only [hyphenate, List.length_append, List.length_cons, List.length_take, List.length_drop, h]
  omega

/-- Hyphens that were put between digits are taken out again. -/
theorem unhyphenate?_hyphenate {l : List Char} (h : l.length = 32) :
    unhyphenate? (hyphenate l) = some l := by
  have hlen := length_hyphenate h
  have h8 : (l.take 8).length = 8 := by rw [List.length_take, h]; rfl
  have h12 : ((l.drop 8).take 4).length = 4 := by rw [List.length_take, List.length_drop, h]; rfl
  have h16 : ((l.drop 12).take 4).length = 4 := by rw [List.length_take, List.length_drop, h]; rfl
  have h20 : ((l.drop 16).take 4).length = 4 := by rw [List.length_take, List.length_drop, h]; rfl
  have hall := take_append_groups l
  unfold unhyphenate? hyphenate at *
  generalize l.take 8 = a at *
  generalize (l.drop 8).take 4 = b at *
  generalize (l.drop 12).take 4 = c at *
  generalize (l.drop 16).take 4 = d at *
  generalize l.drop 20 = e at *
  subst hall
  rw [if_pos]
  · -- what is taken behind a group has nothing of it
    simp [List.take_append, List.drop_append, h8, h12, h16, h20]
    simp (disch := omega) only [List.drop_eq_nil_of_le, List.take_nil, List.nil_append]
  · refine ⟨hlen, ?_, ?_, ?_, ?_⟩
    · simp [h8]
    · simp [List.getElem?_append, h8, h12]
    · simp [List.getElem?_append, h8, h12, h16]
    · simp [List.getElem?_append, h8, h12, h16, h20]

/-! ## The whole text -/

theorem mem_hyphenate {c : Char} {l : List Char} (hc : c ∈ hyphenate l) : c = '-' ∨ c ∈ l := by
  simp only [hyphenate, List.mem_append, List.mem_cons] at hc
  rcases hc with hc | rfl | hc | rfl | hc | rfl | hc | rfl | hc
  · exact .inr (List.mem_of_mem_take hc)
  · exact .inl rfl
  · exact .inr (List.mem_of_mem_drop (List.mem_of_mem_take hc))
  · exact .inl rfl
  · exact .inr (List.mem_of_mem_drop (List.mem_of_mem_take hc))
  · exact .inl rfl
  · exact .inr (List.mem_of_mem_drop (List.mem_of_mem_take hc))
  · exact .inl rfl
  · exact .inr (List.mem_of_mem_drop hc)

theorem utf8Size_of_mem_hyphenate {l : List Char} (h : ∀ c ∈ l, c.utf8Size = 1) :
    ∀ c ∈ hyphenate l, c.utf8Size = 1 := by
  intro c hc
  obtain rfl | hc := mem_hyphenate hc
  · decide
  · exact h c hc

theorem length_digits (id : TokenId) : (Text.Hex.encode id.bytes).length = 32 := by
  rw [Text.Hex.length_encode, id.length_bytes]

theorem toText_ne_empty (id : TokenId) : id.toText ≠ "" := by
  intro hempty
  have hlength := length_hyphenate id.length_digits
  rw [← toChars, show id.toChars = [] by simpa [toText] using hempty] at hlength
  cases hlength

/-- The written identifier has 36 bytes. -/
theorem byteLength_toChars (id : TokenId) : byteLength id.toChars = 36 := by
  rw [byteLength_of_ascii, toChars, length_hyphenate id.length_digits]
  exact utf8Size_of_mem_hyphenate fun c => Text.Hex.utf8Size_of_mem_encode

/-- **An identifier is read back from its text.** -/
theorem ofChars?_toChars (id : TokenId) : ofChars? id.toChars = some id := by
  have hbytes : ofBytes? id.bytes = some id := dif_pos id.length_bytes
  unfold ofChars? hyphenatedPart?
  rw [byteLength_toChars]
  simp only [Nat.reduceEqDiff, if_false, Option.bind_some]
  rw [toChars, unhyphenate?_hyphenate id.length_digits, Option.bind_some, ofDigits?,
    Text.Hex.decode?_encode, Option.bind_some, hbytes]

theorem ofChars?_toText (id : TokenId) : ofChars? id.toText.toList = some id := by
  rw [toText, String.toList_ofList, ofChars?_toChars]

theorem read_toText (id : TokenId) : read id.toText = .ok id := by
  rw [read, ofChars?_toText]

theorem toText_inj {a b : TokenId} (h : a.toText = b.toText) : a = b := by
  have ha := read_toText a
  rw [h, read_toText] at ha
  exact (Except.ok.inj ha).symm

end TokenId

end SessionTokens
