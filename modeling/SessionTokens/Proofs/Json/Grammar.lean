import SessionTokens.Json.Skipper
import SessionTokens.Proofs.Json.Pieces
import SessionTokens.Proofs.Json.Records
import SessionTokens.Proofs.Text.Decimal

/-!
# The grammar of JSON

What values are, as they are written: with white space wherever it may stand, numbers of any length, strings with
any escapes, and arrays and objects of any depth whose members may have any names (`IsValue`). What
is written as a number is read to its end (`takeNumeral?_number`).
-/

namespace SessionTokens.Json

open Text.Utf8 (encodeChars encodeChars_append encodeChars_nil)

/-! ## White space -/

/-- White space between elements. -/
def IsGapText (l : List Char) : Prop :=
  ∀ c ∈ l, c = ' ' ∨ c = '\t' ∨ c = '\n' ∨ c = '\r'

instance (l : List Char) : Decidable (IsGapText l) :=
  List.decidableBAll (p := fun c => c = ' ' ∨ c = '\t' ∨ c = '\n' ∨ c = '\r') l

theorem isGapText_nil : IsGapText [] :=
  fun _ h => absurd h List.not_mem_nil

theorem IsGapText.append {l m : List Char} (hl : IsGapText l) (hm : IsGapText m) : IsGapText (l ++ m) :=
  fun c hc => (List.mem_append.mp hc).elim (hl c) (hm c)

/-- White space does not count. -/
theorem skipGaps_gap {gap : List Char} (h : IsGapText gap) (rest : Bytes) :
    skipGaps (encodeChars gap ++ rest) = skipGaps rest := by
  induction gap with
  | nil => rfl
  | cons c r ih =>
    obtain ⟨hc, hr⟩ := List.forall_mem_cons.mp h
    have hbyte : c.toNat < 128 ∧ isGap (UInt8.ofNat c.toNat) = true := by
      rcases hc with rfl | rfl | rfl | rfl <;> decide
    rw [encodeChars_ascii hbyte.1, List.cons_append, skipGaps, List.dropWhile_cons_of_pos hbyte.2]
    exact ih hr

/-! ## Numbers -/

/-- Digits, of which there is at least one. -/
def IsDigits (l : List Char) : Prop :=
  l ≠ [] ∧ ∀ c ∈ l, Text.Decimal.isDigit c = true

/-- The digits before the point: one zero, or digits that begin with none. -/
def IsWhole (l : List Char) : Prop :=
  IsDigits l ∧ (l.head? = some '0' → l = ['0'])

/-- A point and digits, or nothing. -/
inductive IsFraction : List Char → Prop where
  | none : IsFraction []
  | digits {l : List Char} (h : IsDigits l) : IsFraction ('.' :: l)

/-- The mark of an exponent and its digits, with a sign or without, or nothing. -/
inductive IsExponent : List Char → Prop where
  | none : IsExponent []
  | digits {mark : Char} {sign l : List Char} (hmark : mark = 'e' ∨ mark = 'E')
      (hsign : sign = [] ∨ sign = ['+'] ∨ sign = ['-']) (h : IsDigits l) : IsExponent (mark :: (sign ++ l))

/-- A number. -/
inductive IsNumber : List Char → Prop where
  | mk {sign whole fraction exponent : List Char} (hsign : sign = [] ∨ sign = ['-']) (hwhole : IsWhole whole)
      (hfraction : IsFraction fraction) (hexponent : IsExponent exponent) :
      IsNumber (sign ++ (whole ++ (fraction ++ exponent)))

/-! ## Values -/

/-- A string with its quotes. -/
def quoted (pieces : List Piece) : List Char :=
  '"' :: (body pieces ++ ['"'])

/-- An element of an array, with the white space around it. -/
structure Item where
  lead : List Char
  value : List Char
  behind : List Char

/-- A member of an object, with the white space around its parts. -/
structure Entry where
  lead : List Char
  name : List Piece
  afterName : List Char
  before : List Char
  value : List Char
  behind : List Char

/-- The element as it is written. -/
def Item.chars (i : Item) : List Char :=
  i.lead ++ (i.value ++ i.behind)

/-- The member as it is written. -/
def Entry.chars (e : Entry) : List Char :=
  e.lead ++ (quoted e.name ++ (e.afterName ++ ':' :: (e.before ++ (e.value ++ e.behind))))

/-- White space stands where white space may stand. -/
structure Item.Spaced (i : Item) : Prop where
  lead : IsGapText i.lead
  behind : IsGapText i.behind

/-- White space stands where white space may stand, and the name is a string. -/
structure Entry.Spaced (e : Entry) : Prop where
  lead : IsGapText e.lead
  name : AllProper e.name
  afterName : IsGapText e.afterName
  before : IsGapText e.before
  behind : IsGapText e.behind

instance (e : Entry) : Decidable e.Spaced :=
  decidable_of_iff
    (IsGapText e.lead ∧ AllProper e.name ∧ IsGapText e.afterName ∧ IsGapText e.before ∧ IsGapText e.behind)
    ⟨fun ⟨lead, name, afterName, before, behind⟩ => ⟨lead, name, afterName, before, behind⟩,
      fun h => ⟨h.lead, h.name, h.afterName, h.before, h.behind⟩⟩

/-- Parts with commas between them, and brackets around them all. -/
def enclosed (opening closing : Char) (gap : List Char) (parts : List (List Char)) : List Char :=
  opening :: (gap ++ ([','].intercalate parts ++ [closing]))

/-- An array. -/
def arrayChars (gap : List Char) (items : List Item) : List Char :=
  enclosed '[' ']' gap (items.map Item.chars)

/-- An object. -/
def objectChars (gap : List Char) (entries : List Entry) : List Char :=
  enclosed '\x7b' '\x7d' gap (entries.map Entry.chars)

/-- **A JSON value**, without white space around it. -/
inductive IsValue : List Char → Prop where
  | null : IsValue ['n', 'u', 'l', 'l']
  | flag (b : Bool) : IsValue (flag b)
  | number {l : List Char} (h : IsNumber l) : IsValue l
  | string {pieces : List Piece} (h : AllProper pieces) : IsValue (quoted pieces)
  | array {gap : List Char} {items : List Item} (hgap : IsGapText gap) (hitems : ∀ i ∈ items, i.Spaced)
      (hvalues : ∀ i ∈ items, IsValue i.value) : IsValue (arrayChars gap items)
  | object {gap : List Char} {entries : List Entry} (hgap : IsGapText gap) (hentries : ∀ e ∈ entries, e.Spaced)
      (hvalues : ∀ e ∈ entries, IsValue e.value) : IsValue (objectChars gap entries)

/-- The string that is written for a text is a string. -/
theorem text_eq_quoted (s : String) : text s = quoted (piecesOf s) := by
  rw [text, quoted, body_piecesOf]

/-! ## Numbers are skipped -/

/-- No number goes on with the given bytes: they are none, or begin with white space, a comma or a closing
bracket. -/
def Delimits (l : Bytes) : Prop :=
  ∀ b, l.head? = some b → isGap b = true ∨ b = 0x2C ∨ b = 0x5D ∨ b = 0x7D

theorem delimits_nil : Delimits [] :=
  nofun

theorem delimits_cons {b : UInt8} (h : isGap b = true ∨ b = 0x2C ∨ b = 0x5D ∨ b = 0x7D) (r : Bytes) :
    Delimits (b :: r) := by
  intro c hc
  cases hc
  exact h

theorem Delimits.head?_ne {l : Bytes} (h : Delimits l) {b : UInt8}
    (hb : ¬(isGap b = true ∨ b = 0x2C ∨ b = 0x5D ∨ b = 0x7D)) : l.head? ≠ some b :=
  fun hhead => hb (h b hhead)

/-- No digits go on with the given bytes. -/
def EndsDigits (l : Bytes) : Prop :=
  ∀ b, l.head? = some b → isDigit b = false

theorem Delimits.endsDigits {l : Bytes} (h : Delimits l) : EndsDigits l := by
  intro b hb
  rcases h b hb with hgap | rfl | rfl | rfl
  · have hall : isGap b = true → isDigit b = false := by
      unfold isGap isDigit
      grind
    exact hall hgap
  all_goals decide

theorem endsDigits_cons {b : UInt8} (h : isDigit b = false) (r : Bytes) : EndsDigits (b :: r) := by
  intro c hc
  cases hc
  exact h

theorem byte_of_isDigit {c : Char} (h : Text.Decimal.isDigit c = true) :
    c.toNat < 128 ∧ isDigit (UInt8.ofNat c.toNat) = true := by
  have hlt : c.toNat < 58 := by
    unfold Text.Decimal.isDigit Text.Decimal.value? at h
    grind
  have hall : Text.Decimal.isDigit c = true → isDigit (UInt8.ofNat c.toNat) = true :=
    Text.Hex.of_forall_ofNat
      (p := fun c => Text.Decimal.isDigit c = true → isDigit (UInt8.ofNat c.toNat) = true) (by decide) hlt
  exact ⟨Nat.lt_trans hlt (by decide), hall h⟩

/-- A run of digits begins with one. -/
theorem IsDigits.exists_cons {l : List Char} (h : IsDigits l) :
    ∃ b r, encodeChars l = b :: r ∧ isDigit b = true := by
  obtain ⟨c, r, rfl⟩ := List.exists_cons_of_ne_nil h.1
  obtain ⟨hascii, hdigit⟩ := byte_of_isDigit (h.2 c List.mem_cons_self)
  exact ⟨_, _, encodeChars_ascii hascii r, hdigit⟩

theorem IsDigits.isDigit_of_mem {l : List Char} (h : IsDigits l) : ∀ b ∈ encodeChars l, isDigit b = true := by
  intro b hb
  obtain ⟨c, hc, hb⟩ := List.mem_flatMap.mp hb
  obtain ⟨hascii, hdigit⟩ := byte_of_isDigit (h.2 c hc)
  rw [Text.Utf8.utf8EncodeChar_ascii hascii, List.mem_singleton] at hb
  exact hb ▸ hdigit

section

variable {l : List Char} {rest : Bytes}

theorem takeDigits?_digits (h : IsDigits l) (hrest : EndsDigits rest) :
    takeDigits? (encodeChars l ++ rest) = some (encodeChars l, rest) := by
  obtain ⟨b, r, hcons, -⟩ := h.exists_cons
  have hstop : rest.takeWhile isDigit = [] ∧ rest.dropWhile isDigit = rest := by
    cases rest with
    | nil => exact ⟨rfl, rfl⟩
    | cons b r => simp [hrest b rfl]
  rw [takeDigits?, List.takeWhile_append_of_pos h.isDigit_of_mem, List.dropWhile_append_of_pos h.isDigit_of_mem,
    hstop.1, hstop.2, List.append_nil]
  exact if_neg (by rw [hcons]; exact List.cons_ne_nil b r)

theorem takeWhole?_whole (h : IsWhole l) (hrest : EndsDigits rest) :
    takeWhole? (encodeChars l ++ rest) = some (encodeChars l, rest) := by
  obtain ⟨hdigits, hzero⟩ := h
  have hlone : ¬((encodeChars l).head? = some 0x30 ∧ 1 < (encodeChars l).length) := by
    rintro ⟨hhead, hlength⟩
    obtain ⟨c, r, rfl⟩ := List.exists_cons_of_ne_nil hdigits.1
    obtain ⟨hascii, -⟩ := byte_of_isDigit (hdigits.2 c List.mem_cons_self)
    have hmem : '0' ∈ [c] := by
      refine Text.Utf8.mem_of_byte_mem (d := '0') (by decide) ?_
      rw [encodeChars_ascii hascii] at hhead
      rw [encodeChars_ascii hascii, Option.some.inj hhead]
      exact List.mem_cons_self
    rw [hzero (by rw [List.mem_singleton.mp hmem]; rfl)] at hlength
    exact absurd hlength (by decide)
  rw [takeWhole?, takeDigits?_digits hdigits hrest, Option.bind_some]
  exact if_neg hlone

theorem takeFraction?_fraction (h : IsFraction l) (hrest : EndsDigits rest) (hpoint : rest.head? ≠ some 0x2E) :
    ∃ digits, takeFraction? (encodeChars l ++ rest) = some (digits, rest) := by
  cases h with
  | none => exact ⟨[], if_neg hpoint⟩
  | digits hdigits =>
    rw [encodeChars_ascii (by decide)]
    exact ⟨_, (if_pos rfl).trans (takeDigits?_digits hdigits hrest)⟩

/-- Behind the mark of an exponent a sign does not count. -/
theorem takeExponent?_cons {mark : UInt8} (hmark : mark = 0x65 ∨ mark = 0x45) {m : Bytes} (digits : Bytes)
    (h : takeDigits? (if m.head? = some 0x2D ∨ m.head? = some 0x2B then m.drop 1 else m) = some (digits, rest)) :
    ∃ exponent, takeExponent? (mark :: m) = some (exponent, rest) := by
  unfold takeExponent?
  simp only [List.head?_cons, List.drop_succ_cons, List.drop_zero, h]
  rw [if_pos (hmark.imp (congrArg some) (congrArg some)), Option.map_some]
  exact ⟨_, rfl⟩

theorem takeExponent?_exponent (h : IsExponent l) (hrest : Delimits rest) :
    ∃ exponent, takeExponent? (encodeChars l ++ rest) = some (exponent, rest) := by
  cases h with
  | none => exact ⟨(false, []), if_neg (not_or.mpr ⟨hrest.head?_ne (by decide), hrest.head?_ne (by decide)⟩)⟩
  | @digits mark sign digits hmark hsign hdigits =>
    have htake := takeDigits?_digits hdigits hrest.endsDigits
    have hmark : mark.toNat < 128 ∧ (UInt8.ofNat mark.toNat = 0x65 ∨ UInt8.ofNat mark.toNat = 0x45) := by
      rcases hmark with rfl | rfl <;> decide
    rw [encodeChars_ascii hmark.1, List.cons_append]
    refine takeExponent?_cons hmark.2 (encodeChars digits) ?_
    rcases hsign with rfl | rfl | rfl
    · obtain ⟨b, r, hcons, hb⟩ := hdigits.exists_cons
      rw [List.nil_append, if_neg, htake]
      rw [hcons]
      rintro (heq | heq) <;> cases heq <;> cases hb
    · rw [List.singleton_append, encodeChars_ascii (by decide)]
      exact (congrArg takeDigits? (if_pos (Or.inr rfl))).trans htake
    · rw [List.singleton_append, encodeChars_ascii (by decide)]
      exact (congrArg takeDigits? (if_pos (Or.inl rfl))).trans htake

/-! ### Whole numbers -/

theorem IsFraction.endsDigits (h : IsFraction l) (hrest : EndsDigits rest) :
    EndsDigits (encodeChars l ++ rest) := by
  cases h with
  | none => exact hrest
  | digits _ =>
    rw [encodeChars_ascii (by decide)]
    exact endsDigits_cons (by decide) _

theorem IsExponent.endsDigits (h : IsExponent l) (hrest : Delimits rest) :
    EndsDigits (encodeChars l ++ rest) ∧ (encodeChars l ++ rest).head? ≠ some 0x2E := by
  cases h with
  | none => exact ⟨hrest.endsDigits, hrest.head?_ne (by decide)⟩
  | digits hmark _ _ =>
    rcases hmark with rfl | rfl <;> rw [encodeChars_ascii (by decide)] <;>
      exact ⟨endsDigits_cons (by decide) _, fun hhead => by cases hhead⟩

/-- A number begins with a digit or with a minus sign. -/
theorem IsNumber.exists_cons (h : IsNumber l) :
    ∃ b r, encodeChars l = b :: r ∧ (isDigit b = true ∨ b = 0x2D) := by
  obtain ⟨hsign, hwhole, -, -⟩ := h
  rcases hsign with rfl | rfl
  · obtain ⟨b, r, hcons, hb⟩ := hwhole.1.exists_cons
    rw [List.nil_append, encodeChars_append, hcons]
    exact ⟨b, _, rfl, Or.inl hb⟩
  · rw [List.singleton_append, encodeChars_ascii (by decide)]
    exact ⟨0x2D, _, rfl, Or.inr rfl⟩

/-- **A number is taken to its end.** -/
theorem takeNumeral?_number (h : IsNumber l) (hrest : Delimits rest) :
    ∃ n, takeNumeral? (encodeChars l ++ rest) = some (n, rest) := by
  obtain ⟨hsign, hwhole, hfraction, hexponent⟩ := h
  rename_i sign whole fraction exponent
  let behind := encodeChars fraction ++ (encodeChars exponent ++ rest)
  obtain ⟨hends, hpoint⟩ := hexponent.endsDigits hrest
  have hfirst := takeWhole?_whole hwhole (hfraction.endsDigits hends)
  obtain ⟨digits, hsecond⟩ := takeFraction?_fraction hfraction hends hpoint
  obtain ⟨e, hthird⟩ := takeExponent?_exponent hexponent hrest
  have hchars : encodeChars (sign ++ (whole ++ (fraction ++ exponent))) ++ rest
      = encodeChars sign ++ (encodeChars whole ++ behind) := by
    simp only [encodeChars_append, List.append_assoc, behind]
  -- the sign in front is dropped, if there is one
  have hunsigned : (if (encodeChars sign ++ (encodeChars whole ++ behind)).head? = some 0x2D
      then (encodeChars sign ++ (encodeChars whole ++ behind)).drop 1
      else encodeChars sign ++ (encodeChars whole ++ behind)) = encodeChars whole ++ behind := by
    rcases hsign with rfl | rfl
    · obtain ⟨b, r, hcons, hb⟩ := hwhole.1.exists_cons
      rw [encodeChars_nil, List.nil_append, hcons]
      exact if_neg fun hhead => by
        cases hhead
        cases hb
    · rfl
  unfold takeNumeral?
  rw [hchars]
  simp only [hunsigned]
  simp only [behind, hfirst, hsecond, hthird, Option.bind_eq_bind, Option.bind_some, Option.pure_def]
  exact ⟨_, rfl⟩

end

end SessionTokens.Json
