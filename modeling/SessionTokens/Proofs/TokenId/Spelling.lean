import SessionTokens.Proofs.TokenId.Roundtrip

/-!
# Spellings of an identifier

An identifier has four spellings: its digits alone, and its digits in groups, by themselves, in braces or behind a
marker; letters may be small or capital everywhere. What is read is one of them, and all of them are read
(`ofChars?_eq_some_iff`). The spellings differ in their lengths, so that none is taken for another.
-/

namespace SessionTokens.TokenId

open Text.Utf8 (byteLength byteLength_append byteLength_of_ascii utf8Size_of_ascii)

/-! ## Spellings -/

/-- The second text is the first one in groups of 8, 4, 4, 4 and 12 characters, with hyphens between the groups. -/
def Grouped (digits text : List Char) : Prop :=
  ∃ a b c d e : List Char, digits = a ++ (b ++ (c ++ (d ++ e))) ∧
    a.length = 8 ∧ b.length = 4 ∧ c.length = 4 ∧ d.length = 4 ∧ e.length = 12 ∧
    text = a ++ '-' :: (b ++ '-' :: (c ++ '-' :: (d ++ '-' :: e)))

/-- The text is the digits of the identifier, two for each byte, in either case. -/
def HasDigits (id : TokenId) (digits : List Char) : Prop :=
  digits.map Char.toLower = Text.Hex.encode id.bytes

/-- The texts that spell an identifier. -/
inductive Spells (id : TokenId) : List Char → Prop where
  /-- The digits alone. -/
  | plain {digits : List Char} (h : id.HasDigits digits) : Spells id digits
  /-- The digits in groups. -/
  | grouped {digits text : List Char} (h : id.HasDigits digits) (hg : Grouped digits text) : Spells id text
  /-- The digits in groups, in braces. -/
  | braced {digits text : List Char} (h : id.HasDigits digits) (hg : Grouped digits text) :
      Spells id ('\x7b' :: (text ++ ['\x7d']))
  /-- The digits in groups, behind the marker in either case. -/
  | marked {marker digits text : List Char} (hm : marker.map Char.toLower = "urn:uuid:".toList)
      (h : id.HasDigits digits) (hg : Grouped digits text) : Spells id (marker ++ text)

/-! ## Groups -/

theorem Grouped.hyphenate_eq {digits text : List Char} (h : Grouped digits text) : hyphenate digits = text := by
  obtain ⟨a, b, c, d, e, rfl, ha, hb, hc, hd, -, rfl⟩ := h
  -- each group is what is taken behind those in front of it
  have h8 : (a ++ (b ++ (c ++ (d ++ e)))).drop 8 = b ++ (c ++ (d ++ e)) := List.drop_left' ha
  have h12 : (a ++ (b ++ (c ++ (d ++ e)))).drop (8 + 4) = c ++ (d ++ e) := by
    rw [← List.drop_drop, h8, List.drop_left' hb]
  have h16 : (a ++ (b ++ (c ++ (d ++ e)))).drop (8 + 4 + 4) = d ++ e := by
    rw [← List.drop_drop, h12, List.drop_left' hc]
  have h20 : (a ++ (b ++ (c ++ (d ++ e)))).drop (8 + 4 + 4 + 4) = e := by
    rw [← List.drop_drop, h16, List.drop_left' hd]
  rw [hyphenate, h8, h12, h16, h20, List.take_left' ha, List.take_left' hb, List.take_left' hc, List.take_left' hd]

theorem Grouped.length_digits {digits text : List Char} (h : Grouped digits text) : digits.length = 32 := by
  obtain ⟨a, b, c, d, e, rfl, ha, hb, hc, hd, he, -⟩ := h
  simp only [List.length_append, ha, hb, hc, hd, he]

theorem grouped_hyphenate {digits : List Char} (h : digits.length = 32) : Grouped digits (hyphenate digits) := by
  refine ⟨_, _, _, _, _, (take_append_groups digits).symm, ?_, ?_, ?_, ?_, ?_, rfl⟩
  · rw [List.length_take, h]
    rfl
  · rw [List.length_take, List.length_drop, h]
    rfl
  · rw [List.length_take, List.length_drop, h]
    rfl
  · rw [List.length_take, List.length_drop, h]
    rfl
  · rw [List.length_drop, h]

/-- A text is cut at the character at an index. -/
theorem cut_of_getElem? {l : List Char} {n k : Nat} {c : Char} (h : l[n + k]? = some c) :
    ∃ group, group = (l.drop n).take k ∧ group.length = k ∧ l.drop n = group ++ c :: l.drop (n + k + 1) := by
  obtain ⟨hlt, rfl⟩ := List.getElem?_eq_some_iff.mp h
  refine ⟨_, rfl, ?_, ?_⟩
  · rw [List.length_take, List.length_drop]
    omega
  · rw [← List.drop_eq_getElem_cons hlt, ← List.drop_drop, List.take_append_drop]

/-- **The hyphens that are taken out stood between the groups.** -/
theorem unhyphenate?_eq_some_iff {digits text : List Char} :
    unhyphenate? text = some digits ↔ Grouped digits text := by
  constructor
  · intro h
    unfold unhyphenate? at h
    split at h
    · next hplaces =>
      obtain ⟨hlength, h8, h13, h18, h23⟩ := hplaces
      obtain ⟨a, ha, hla, htext⟩ := cut_of_getElem? (n := 0) (k := 8) h8
      obtain ⟨b, hb, hlb, h9⟩ := cut_of_getElem? (n := 9) (k := 4) h13
      obtain ⟨c, hc, hlc, h14⟩ := cut_of_getElem? (n := 14) (k := 4) h18
      obtain ⟨d, hd, hld, h19⟩ := cut_of_getElem? (n := 19) (k := 4) h23
      rw [List.drop_zero] at ha htext
      rw [← ha, ← hb, ← hc, ← hd] at h
      refine ⟨a, b, c, d, text.drop 24, ?_, hla, hlb, hlc, hld, by rw [List.length_drop, hlength], ?_⟩
      · simpa only [List.append_assoc] using (Option.some.inj h).symm
      · rw [← h19, ← h14, ← h9, ← htext]
    · cases h
  · intro h
    rw [← h.hyphenate_eq]
    exact unhyphenate?_hyphenate h.length_digits

/-! ## Digits -/

theorem ofBytes?_eq_some_iff {b : Bytes} {id : TokenId} : ofBytes? b = some id ↔ id.bytes = b := by
  unfold ofBytes?
  constructor
  · intro h
    split at h
    · cases h
      rfl
    · cases h
  · rintro rfl
    exact dif_pos id.length_bytes

theorem ofDigits?_eq_some_iff {digits : List Char} {id : TokenId} :
    ofDigits? digits = some id ↔ id.HasDigits digits := by
  simp only [ofDigits?, Option.bind_eq_some_iff, Text.Hex.decode?_eq_some_iff, ofBytes?_eq_some_iff]
  exact exists_eq_right'

namespace HasDigits

variable {id : TokenId} {digits : List Char}

theorem length_eq (h : id.HasDigits digits) : digits.length = 32 := by
  rw [← List.length_map (f := Char.toLower), h, length_digits]

theorem utf8Size_of_mem (h : id.HasDigits digits) : ∀ c ∈ digits, c.utf8Size = 1 := by
  intro c hc
  obtain ⟨n, hn⟩ := Option.isSome_iff_exists.mp (Text.Hex.isDigit_of_mem (Text.Hex.decode?_eq_some_iff.mpr h) hc)
  exact utf8Size_of_ascii (Nat.lt_trans (Text.Hex.toNat_lt_of_value? hn) (by decide))

end HasDigits

/-! ## Around the groups -/

theorem unbrace?_eq_some_iff {l inner : List Char} :
    unbrace? l = some inner ↔ l = '\x7b' :: (inner ++ ['\x7d']) := by
  constructor
  · intro h
    unfold unbrace? at h
    split at h
    · next r =>
      split at h
      · next hlast =>
        obtain ⟨inside, rfl⟩ := List.getLast?_eq_some_iff.mp hlast
        rw [← Option.some.inj h, List.dropLast_concat]
      · cases h
    · cases h
  · rintro rfl
    simp [unbrace?]

theorem stripUrn?_eq_some_iff {l inner : List Char} :
    stripUrn? l = some inner ↔ ∃ marker, marker.map Char.toLower = "urn:uuid:".toList ∧ l = marker ++ inner := by
  constructor
  · intro h
    unfold stripUrn? at h
    split at h
    · next hmarker =>
      refine ⟨l.take 9, hmarker, ?_⟩
      rw [← Option.some.inj h, List.take_append_drop]
    · cases h
  · rintro ⟨marker, hmarker, rfl⟩
    have hlength : marker.length = 9 := by
      rw [← List.length_map (f := Char.toLower), hmarker]
      rfl
    have htake : (marker ++ inner).take 9 = marker := List.take_left' hlength
    have hdrop : (marker ++ inner).drop 9 = inner := List.drop_left' hlength
    unfold stripUrn?
    rw [htake, hdrop]
    exact if_pos hmarker

/-- The length of a text tells where the groups have to stand in it. -/
theorem hyphenatedPart?_eq_some_iff {l part : List Char} :
    hyphenatedPart? l = some part ↔
      byteLength l = 36 ∧ l = part ∨ byteLength l = 38 ∧ l = '\x7b' :: (part ++ ['\x7d']) ∨
      byteLength l = 45 ∧ ∃ marker, marker.map Char.toLower = "urn:uuid:".toList ∧ l = marker ++ part := by
  unfold hyphenatedPart?
  split
  · next h => simp [h]
  · next h => simp [h, unbrace?_eq_some_iff]
  · next h => simp [h, stripUrn?_eq_some_iff]
  · next h36 h38 h45 => simp_all

/-! ## Lengths -/

theorem byteLength_of_hasDigits {id : TokenId} {digits : List Char} (h : id.HasDigits digits) :
    byteLength digits = 32 := by
  rw [byteLength_of_ascii h.utf8Size_of_mem, h.length_eq]

theorem byteLength_of_grouped {id : TokenId} {digits text : List Char} (h : id.HasDigits digits)
    (hg : Grouped digits text) : byteLength text = 36 := by
  rw [← hg.hyphenate_eq, byteLength_of_ascii (utf8Size_of_mem_hyphenate h.utf8Size_of_mem),
    length_hyphenate h.length_eq]

/-- A marker holds nothing beyond ASCII, whatever the case of its letters. -/
theorem byteLength_of_marker {marker : List Char} (h : marker.map Char.toLower = "urn:uuid:".toList) :
    byteLength marker = 9 := by
  have hascii : ∀ c ∈ marker, c.utf8Size = 1 := by
    intro c hc
    have hlower : c.toLower.toNat < 128 := by
      have hall : "urn:uuid:".toList.all (fun d => d.toNat < 128) = true := by decide
      exact of_decide_eq_true (List.all_eq_true.mp hall _ (h ▸ List.mem_map_of_mem hc))
    have hlt : c.toNat < 128 := by
      refine Decidable.byContradiction fun hge => ?_
      rw [Text.Hex.toLower_of_not_ascii hge] at hlower
      exact hge hlower
    exact utf8Size_of_ascii hlt
  rw [byteLength_of_ascii hascii, ← List.length_map (f := Char.toLower), h]
  rfl

/-! ## What is read -/

/-- A text of another length than that of the digits alone is read where its groups stand. -/
theorem ofChars?_of_part {l part digits : List Char} {id : TokenId} (hlength : byteLength l ≠ 32)
    (hpart : hyphenatedPart? l = some part) (hg : Grouped digits part) (h : id.HasDigits digits) :
    ofChars? l = some id := by
  rw [ofChars?, if_neg hlength, hpart, Option.bind_some, unhyphenate?_eq_some_iff.mpr hg, Option.bind_some,
    ofDigits?_eq_some_iff.mpr h]

theorem ofChars?_of_spells {l : List Char} {id : TokenId} (h : id.Spells l) : ofChars? l = some id := by
  cases h with
  | plain h => rw [ofChars?, if_pos (byteLength_of_hasDigits h), ofDigits?_eq_some_iff.mpr h]
  | grouped h hg =>
    have hlength := byteLength_of_grouped h hg
    exact ofChars?_of_part (by omega) (hyphenatedPart?_eq_some_iff.mpr (.inl ⟨hlength, rfl⟩)) hg h
  | @braced digits text h hg =>
    have hlength : byteLength ('\x7b' :: (text ++ ['\x7d'])) = 38 := by
      rw [byteLength, byteLength_append, byteLength_of_grouped h hg]
      rfl
    exact ofChars?_of_part (by omega) (hyphenatedPart?_eq_some_iff.mpr (.inr (.inl ⟨hlength, rfl⟩))) hg h
  | @marked marker digits text hm h hg =>
    have hlength : byteLength (marker ++ text) = 45 := by
      rw [byteLength_append, byteLength_of_marker hm, byteLength_of_grouped h hg]
    exact ofChars?_of_part (by omega) (hyphenatedPart?_eq_some_iff.mpr (.inr (.inr ⟨hlength, _, hm, rfl⟩))) hg h

/-- **What is read is a spelling of the identifier, and all of its spellings are read.** -/
theorem ofChars?_eq_some_iff {l : List Char} {id : TokenId} : ofChars? l = some id ↔ id.Spells l := by
  refine ⟨fun h => ?_, ofChars?_of_spells⟩
  unfold ofChars? at h
  split at h
  · exact .plain (ofDigits?_eq_some_iff.mp h)
  · obtain ⟨digits, hdigits, hid⟩ := Option.bind_eq_some_iff.mp h
    obtain ⟨part, hpart, hun⟩ := Option.bind_eq_some_iff.mp hdigits
    have hg := unhyphenate?_eq_some_iff.mp hun
    have hd := ofDigits?_eq_some_iff.mp hid
    rcases hyphenatedPart?_eq_some_iff.mp hpart with ⟨-, rfl⟩ | ⟨-, rfl⟩ | ⟨-, marker, hm, rfl⟩
    · exact .grouped hd hg
    · exact .braced hd hg
    · exact .marked hm hd hg

theorem read_eq_ok_iff {text : String} {id : TokenId} : read text = .ok id ↔ id.Spells text.toList := by
  rw [← ofChars?_eq_some_iff, read]
  cases ofChars? text.toList <;> simp

theorem ofArgument_eq_ok_iff {text : String} {id : TokenId} :
    ofArgument text = .ok id ↔ id.Spells text.toList := by
  rw [← read_eq_ok_iff, ofArgument]
  cases read text <;> simp

/-- Every other text is an argument without a meaning. -/
theorem ofArgument_eq_invalid_iff {text : String} :
    (∃ message, ofArgument text = .error (.invalidArgument message)) ↔ ∀ id : TokenId, ¬id.Spells text.toList := by
  simp only [← read_eq_ok_iff, ofArgument]
  cases read text <;> simp [Fault.toError]

end SessionTokens.TokenId
