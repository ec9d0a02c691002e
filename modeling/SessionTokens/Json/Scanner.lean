import SessionTokens.Text.Hex

/-!
# Scanning JSON

Scanners over bytes. Each takes one lexical element off the front and returns the bytes that follow.
A string is scanned by a machine that reads one byte at a time; in a string that is kept, escaped
surrogates have to come in pairs, in a string that is skipped they need not.
-/

namespace SessionTokens.Json

/-- Whether the byte is white space between elements. -/
def isGap (b : UInt8) : Bool :=
  b == 0x20 || b == 0x09 || b == 0x0A || b == 0x0D

/-- Drops white space. -/
def skipGaps (l : Bytes) : Bytes :=
  l.dropWhile isGap

/-- Takes the given bytes off the front. -/
def takeWord? (word l : Bytes) : Option Bytes :=
  if l.take word.length = word then some (l.drop word.length) else none

/-- The word for nothing. -/
def nullWord : Bytes := Text.Utf8.encode "null"

/-- The word for truth. -/
def trueWord : Bytes := Text.Utf8.encode "true"

/-- The word for falsehood. -/
def falseWord : Bytes := Text.Utf8.encode "false"

/-! ## Strings -/

/-- Where a scan stands inside a string. -/
inductive Place where
  /-- Between characters. -/
  | plain
  /-- Behind a backslash. -/
  | escape
  /-- Inside a Unicode escape: digits still to come, and the value of those read. -/
  | digits (missing value : Nat)
  /-- Behind the escape of a high surrogate. -/
  | high (value : Nat)
  /-- Behind the escape of a high surrogate and a backslash. -/
  | highEscape (value : Nat)
  /-- Inside the escape that belongs to a high surrogate. -/
  | lowDigits (first missing value : Nat)
deriving DecidableEq, Repr

/-- The byte that a short escape stands for. -/
def shortEscape? (b : UInt8) : Option UInt8 :=
  if b = 0x22 ∨ b = 0x5C ∨ b = 0x2F then some b
  else if b = 0x62 then some 0x08
  else if b = 0x66 then some 0x0C
  else if b = 0x6E then some 0x0A
  else if b = 0x72 then some 0x0D
  else if b = 0x74 then some 0x09
  else none

/-- The UTF-8 bytes of the character with the given code point. -/
def codePointBytes (n : Nat) : Bytes :=
  Text.Utf8.encode (String.singleton (Char.ofNat n))

/-- Ends a Unicode escape. -/
def finishEscape (pairs : Bool) (n : Nat) : Option (Place × Bytes) :=
  if 0xDC00 ≤ n ∧ n ≤ 0xDFFF then if pairs then none else some (.plain, [])
  else if 0xD800 ≤ n ∧ n ≤ 0xDBFF then if pairs then some (.high n, []) else some (.plain, [])
  else some (.plain, codePointBytes n)

/-- Ends the escape that belongs to a high surrogate. -/
def finishPair (first n : Nat) : Option (Place × Bytes) :=
  if 0xDC00 ≤ n ∧ n ≤ 0xDFFF then
    some (.plain, codePointBytes (0x10000 + (first - 0xD800) * 0x400 + (n - 0xDC00)))
  else none

/-- Reads one byte of a string that does not end there. `pairs` tells whether surrogates have to come
in pairs. The bytes returned are part of the content. -/
def Place.step (pairs : Bool) (p : Place) (b : UInt8) : Option (Place × Bytes) :=
  match p with
  | .plain =>
    if b = 0x5C then some (.escape, [])
    else if b < 0x20 then none
    else some (.plain, [b])
  | .escape =>
    if b = 0x75 then some (.digits 4 0, [])
    else (shortEscape? b).map fun c => (.plain, [c])
  | .digits missing value =>
    (Text.Hex.value? (Char.ofNat b.toNat)).bind fun d =>
      if missing ≤ 1 then finishEscape pairs (16 * value + d)
      else some (.digits (missing - 1) (16 * value + d), [])
  | .high value => if b = 0x5C then some (.highEscape value, []) else none
  | .highEscape value => if b = 0x75 then some (.lowDigits value 4 0, []) else none
  | .lowDigits first missing value =>
    (Text.Hex.value? (Char.ofNat b.toNat)).bind fun d =>
      if missing ≤ 1 then finishPair first (16 * value + d)
      else some (.lowDigits first (missing - 1) (16 * value + d), [])

/-- Scans to the end of a string. The content so far stands in `acc` in reverse. -/
def scanString (pairs : Bool) (p : Place) (acc : Bytes) : Bytes → Option (Bytes × Bytes)
  | [] => none
  | b :: r =>
    if p = .plain ∧ b = 0x22 then some (acc.reverse, r)
    else
      match p.step pairs b with
      | none => none
      | some (q, content) => scanString pairs q (content.reverse ++ acc) r

/-- Takes a string behind its opening quote, and decodes its content. -/
def takeText? (l : Bytes) : Option (String × Bytes) :=
  (scanString true .plain [] l).bind fun (content, rest) =>
    (Text.Utf8.decode? content).map fun s => (s, rest)

/-- Takes a string behind its opening quote, whatever it holds. -/
def skipText? (l : Bytes) : Option Bytes :=
  (scanString false .plain [] l).map fun p => p.2

/-! ## Numbers -/

/-- Whether the byte is an ASCII digit. -/
def isDigit (b : UInt8) : Bool :=
  0x30 ≤ b && b ≤ 0x39

/-- The parts of a number, as they are written. -/
structure Numeral where
  /-- The digits before the point. -/
  whole : Bytes
  /-- The digits behind the point. -/
  fraction : Bytes := []
  /-- The exponent is negative. -/
  smaller : Bool := false
  /-- The digits of the exponent. -/
  exponent : Bytes := []

/-- Takes a run of at least one digit. -/
def takeDigits? (l : Bytes) : Option (Bytes × Bytes) :=
  let digits := l.takeWhile isDigit
  if digits = [] then none else some (digits, l.dropWhile isDigit)

/-- Takes the digits before the point: one zero, or digits that begin with none. -/
def takeWhole? (l : Bytes) : Option (Bytes × Bytes) :=
  (takeDigits? l).bind fun (digits, rest) =>
    if digits.head? = some 0x30 ∧ 1 < digits.length then none else some (digits, rest)

/-- Takes a point and digits, if there is a point. -/
def takeFraction? (l : Bytes) : Option (Bytes × Bytes) :=
  if l.head? = some 0x2E then takeDigits? (l.drop 1) else some ([], l)

/-- Takes an exponent, if there is one: whether it is negative, and its digits. -/
def takeExponent? (l : Bytes) : Option ((Bool × Bytes) × Bytes) :=
  if l.head? = some 0x65 ∨ l.head? = some 0x45 then
    let sign := (l.drop 1).head?
    let digits := if sign = some 0x2D ∨ sign = some 0x2B then l.drop 2 else l.drop 1
    (takeDigits? digits).map fun (digits, rest) => ((sign = some 0x2D, digits), rest)
  else some ((false, []), l)

/-- Takes a number. -/
def takeNumeral? (l : Bytes) : Option (Numeral × Bytes) := do
  let l := if l.head? = some 0x2D then l.drop 1 else l
  let (whole, l) ← takeWhole? l
  let (fraction, l) ← takeFraction? l
  let ((smaller, exponent), l) ← takeExponent? l
  return (⟨whole, fraction, smaller, exponent⟩, l)

/-! ## Progress -/

theorem length_skipGaps_le (l : Bytes) : (skipGaps l).length ≤ l.length :=
  (List.dropWhile_sublist isGap).length_le

theorem length_lt_of_scanString {pairs : Bool} {p : Place} {acc l content rest : Bytes}
    (h : scanString pairs p acc l = some (content, rest)) : rest.length < l.length := by
  induction l generalizing p acc with
  | nil => simp [scanString] at h
  | cons b r ih =>
    simp only [scanString] at h
    split at h
    · simp only [Option.some.injEq, Prod.mk.injEq] at h
      simp [← h.2]
    · split at h
      · simp at h
      · have := ih h
        simp only [List.length_cons]
        omega

theorem length_lt_of_takeText? {l rest : Bytes} {s : String} (h : takeText? l = some (s, rest)) :
    rest.length < l.length := by
  simp only [takeText?, Option.bind_eq_some_iff, Option.map_eq_some_iff, Prod.exists,
    Prod.mk.injEq] at h
  obtain ⟨content, r, hr, s', -, -, rfl⟩ := h
  exact length_lt_of_scanString hr

theorem length_lt_of_skipText? {l rest : Bytes} (h : skipText? l = some rest) :
    rest.length < l.length := by
  simp only [skipText?, Option.map_eq_some_iff, Prod.exists] at h
  obtain ⟨content, r, hr, rfl⟩ := h
  exact length_lt_of_scanString hr

theorem length_le_of_takeWord? {word l rest : Bytes} (h : takeWord? word l = some rest) :
    rest.length ≤ l.length := by
  simp only [takeWord?] at h
  split at h
  · simp only [Option.some.injEq] at h
    simp [← h]
  · simp at h

theorem length_lt_of_takeDigits? {l digits rest : Bytes} (h : takeDigits? l = some (digits, rest)) :
    rest.length < l.length := by
  simp only [takeDigits?] at h
  split at h
  · simp at h
  · next hne =>
    simp only [Option.some.injEq, Prod.mk.injEq] at h
    have hl := congrArg List.length (List.takeWhile_append_dropWhile (p := isDigit) (l := l))
    have := List.length_pos_iff.2 hne
    rw [List.length_append] at hl
    rw [← h.2]
    omega

theorem length_lt_of_takeWhole? {l digits rest : Bytes} (h : takeWhole? l = some (digits, rest)) :
    rest.length < l.length := by
  simp only [takeWhole?, Option.bind_eq_some_iff, Prod.exists] at h
  obtain ⟨d, r, hd, h⟩ := h
  split at h
  · simp at h
  · simp only [Option.some.injEq, Prod.mk.injEq] at h
    rw [← h.2]
    exact length_lt_of_takeDigits? hd

theorem length_le_of_takeFraction? {l digits rest : Bytes}
    (h : takeFraction? l = some (digits, rest)) : rest.length ≤ l.length := by
  simp only [takeFraction?] at h
  split at h
  · have := length_lt_of_takeDigits? h
    simp only [List.length_drop] at this
    omega
  · simp only [Option.some.injEq, Prod.mk.injEq] at h
    exact Nat.le_of_eq (congrArg List.length h.2.symm)

theorem length_le_of_takeExponent? {l rest : Bytes} {e : Bool × Bytes}
    (h : takeExponent? l = some (e, rest)) : rest.length ≤ l.length := by
  simp only [takeExponent?] at h
  split at h
  · simp only [Option.map_eq_some_iff, Prod.exists, Prod.mk.injEq] at h
    obtain ⟨d, r, hd, -, rfl⟩ := h
    have := length_lt_of_takeDigits? hd
    split at this <;> simp only [List.length_drop] at this <;> omega
  · simp only [Option.some.injEq, Prod.mk.injEq] at h
    exact Nat.le_of_eq (congrArg List.length h.2.symm)

theorem length_lt_of_takeNumeral? {l rest : Bytes} {n : Numeral}
    (h : takeNumeral? l = some (n, rest)) : rest.length < l.length := by
  simp only [takeNumeral?, Option.bind_eq_bind, Option.bind_eq_some_iff, Option.pure_def,
    Option.some.injEq, Prod.exists, Prod.mk.injEq] at h
  obtain ⟨whole, l1, h1, fraction, l2, h2, smaller, exponent, l3, h3, -, rfl⟩ := h
  have h1 := length_lt_of_takeWhole? h1
  have h2 := length_le_of_takeFraction? h2
  have h3 := length_le_of_takeExponent? h3
  have h0 : (if l.head? = some 0x2D then l.drop 1 else l).length ≤ l.length := by
    split <;> simp
  omega

end SessionTokens.Json
