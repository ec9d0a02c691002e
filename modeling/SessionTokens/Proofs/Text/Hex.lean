import SessionTokens.Text.Hex

/-!
# Hexadecimal texts

Bytes have one text in lower case, and what can be read is that text but for the case of its letters
(`decode?_eq_some_iff`).
-/

namespace SessionTokens.Text.Hex

/-! ## Digits -/

theorem value?_lt {c : Char} {n : Nat} (h : value? c = some n) : n < 16 := by
  unfold value? at h
  grind

theorem toNat_lt_of_value? {c : Char} {n : Nat} (h : value? c = some n) : c.toNat < 103 := by
  unfold value? at h
  grind

/-- What holds of the first characters, one by one, holds of every character below a bound. -/
theorem of_forall_ofNat {p : Char → Prop} {bound : Nat} (h : ∀ n < bound, p (Char.ofNat n)) {c : Char}
    (hc : c.toNat < bound) : p c := by
  have hp := h c.toNat hc
  rwa [Char.ofNat_toNat] at hp

/-- Beyond ASCII nothing is put in lower case. -/
theorem toLower_of_not_ascii {c : Char} (h : ¬c.toNat < 128) : c.toLower = c := by
  unfold Char.toLower
  refine dif_neg fun hupper => h ?_
  exact Nat.lt_of_le_of_lt hupper.2 (by decide)

/-- The case of a digit does not count. -/
theorem value?_toLower (c : Char) : value? c.toLower = value? c := by
  by_cases h : c.toNat < 128
  · exact of_forall_ofNat (p := fun c => value? c.toLower = value? c) (by decide) h
  · rw [toLower_of_not_ascii h]

/-- A digit is the one for its number, but for the case. -/
theorem toLower_of_value? {c : Char} {n : Nat} (h : value? c = some n) : c.toLower = digit n := by
  have hall : ((value? c).map digit).getD c.toLower = c.toLower :=
    of_forall_ofNat (p := fun c => ((value? c).map digit).getD c.toLower = c.toLower) (by decide)
      (toNat_lt_of_value? h)
  rw [h] at hall
  exact hall.symm

theorem value?_of_toLower {c : Char} {n : Nat} (hn : n < 16) (h : c.toLower = digit n) :
    value? c = some n := by
  rw [← value?_toLower, h, value?_digit hn]

/-! ## Texts -/

theorem encode_cons (x : UInt8) (r : Bytes) : encode (x :: r) = encodeByte x ++ encode r :=
  List.flatMap_cons

@[simp] theorem length_encode (b : Bytes) : (encode b).length = 2 * b.length := by
  induction b with
  | nil => rfl
  | cons x r ih =>
    rw [encode_cons, List.length_append, ih, List.length_cons]
    simp only [encodeByte, List.length_cons, List.length_nil]
    omega

theorem decode?_go (acc : Bytes) : ∀ l : List Char,
    decode?.go acc l = (decode? l).map (acc.reverse ++ ·)
  | [] => by simp [decode?, decode?.go]
  | [c] => by simp [decode?, decode?.go]
  | c :: d :: r => by
    unfold decode? decode?.go
    cases value? c with
    | none => rfl
    | some m =>
      cases value? d with
      | none => rfl
      | some n =>
        simp only
        rw [decode?_go _ r, decode?_go _ r, Option.map_map]
        congr 1
        funext b
        simp

/-- The bytes of a text that begins with two digits. -/
theorem decode?_cons {c d : Char} {r : List Char} {b : Bytes} :
    decode? (c :: d :: r) = some b ↔
      ∃ m n s, value? c = some m ∧ value? d = some n ∧ decode? r = some s ∧
        b = UInt8.ofNat (16 * m + n) :: s := by
  rw [decode?, decode?.go]
  cases value? c with
  | none => simp
  | some m =>
    cases value? d with
    | none => simp
    | some n =>
      simp only [decode?_go _ r, Option.map_eq_some_iff]
      constructor
      · rintro ⟨s, hs, rfl⟩
        exact ⟨m, n, s, rfl, rfl, hs, rfl⟩
      · rintro ⟨_, _, s, ⟨⟩, ⟨⟩, hs, rfl⟩
        exact ⟨s, hs, rfl⟩

/-- Two digits are the upper and the lower half of a byte. -/
theorem encodeByte_ofNat {m n : Nat} (hm : m < 16) (hn : n < 16) :
    encodeByte (UInt8.ofNat (16 * m + n)) = [digit m, digit n] := by
  have hbyte : (UInt8.ofNat (16 * m + n)).toNat = 16 * m + n := by
    rw [UInt8.toNat_ofNat']
    omega
  rw [encodeByte, hbyte, show (16 * m + n) / 16 = m by omega, show (16 * m + n) % 16 = n by omega]

theorem toLower_of_decode? : ∀ {l : List Char} {b : Bytes}, decode? l = some b →
    l.map Char.toLower = encode b
  | [], b, h => by
    cases h
    rfl
  | [_], b, h => by simp [decode?, decode?.go] at h
  | c :: d :: r, b, h => by
    obtain ⟨m, n, s, hm, hn, hs, rfl⟩ := decode?_cons.mp h
    rw [encode_cons, encodeByte_ofNat (value?_lt hm) (value?_lt hn), List.map_cons, List.map_cons,
      toLower_of_value? hm, toLower_of_value? hn, toLower_of_decode? hs]
    rfl

theorem decode?_of_toLower : ∀ {l : List Char} {b : Bytes}, l.map Char.toLower = encode b →
    decode? l = some b
  | l, [], h => by
    rw [List.map_eq_nil_iff.mp h]
    rfl
  | [], x :: b, h => by simp [encode_cons, encodeByte] at h
  | [c], x :: b, h => by simp [encode_cons, encodeByte] at h
  | c :: d :: r, x :: b, h => by
    have hx : x.toNat < 256 := x.toNat_lt
    simp only [encode_cons, encodeByte, List.map_cons, List.cons_append, List.nil_append,
      List.cons.injEq] at h
    obtain ⟨hc, hd, hr⟩ := h
    refine decode?_cons.mpr ⟨x.toNat / 16, x.toNat % 16, b, value?_of_toLower (by omega) hc,
      value?_of_toLower (by omega) hd, decode?_of_toLower hr, ?_⟩
    rw [Nat.div_add_mod, UInt8.ofNat_toNat]

/-- **What can be read is the text of the bytes read, but for the case of its letters.** -/
theorem decode?_eq_some_iff {l : List Char} {b : Bytes} :
    decode? l = some b ↔ l.map Char.toLower = encode b :=
  ⟨toLower_of_decode?, decode?_of_toLower⟩

/-- The text of bytes is in lower case. -/
theorem toLower_encode (b : Bytes) : (encode b).map Char.toLower = encode b :=
  toLower_of_decode? (decode?_encode b)

/-! ## Characters -/

theorem mem_encode {b : Bytes} {c : Char} (h : c ∈ encode b) : ∃ n < 16, digit n = c := by
  obtain ⟨x, -, hc⟩ := List.mem_flatMap.mp h
  have hx : x.toNat < 256 := x.toNat_lt
  simp only [encodeByte, List.mem_cons, List.not_mem_nil, or_false] at hc
  rcases hc with rfl | rfl
  · exact ⟨_, by omega, rfl⟩
  · exact ⟨_, by omega, rfl⟩

theorem utf8Size_digit {n : Nat} (h : n < 16) : (digit n).utf8Size = 1 := by
  revert n
  decide

theorem utf8Size_of_mem_encode {b : Bytes} {c : Char} (h : c ∈ encode b) : c.utf8Size = 1 := by
  obtain ⟨n, hn, rfl⟩ := mem_encode h
  exact utf8Size_digit hn

/-- What can be read consists of digits. -/
theorem isDigit_of_mem {l : List Char} {b : Bytes} (h : decode? l = some b) {c : Char} (hc : c ∈ l) :
    isDigit c = true := by
  have hlower : c.toLower ∈ encode b := by
    rw [← toLower_of_decode? h]
    exact List.mem_map_of_mem hc
  obtain ⟨n, hn, hdigit⟩ := mem_encode hlower
  rw [isDigit, value?_of_toLower hn hdigit.symm]
  rfl

end SessionTokens.Text.Hex
