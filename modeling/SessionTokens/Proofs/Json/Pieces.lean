import SessionTokens.Proofs.Json.Strings
import SessionTokens.Proofs.Text.Hex

/-!
# Strings however they are written

A string consists of pieces: characters that stand for themselves, short escapes, and escapes with four
hexadecimal digits. A string is kept exactly if its surrogates come in pairs, and then as the text that it
denotes (`takeText?_body`). To be skipped, it need not denote a text (`skipText?_body`).
-/

namespace SessionTokens.Json

open Text.Utf8 (encode encodeChars encodeChars_cons encodeChars_append encodeChars_nil)

/-! ## Pieces -/

/-- A piece of a string. -/
inductive Piece where
  /-- A character that stands for itself. -/
  | plain (c : Char)
  /-- A backslash and a letter, and the character that it stands for. -/
  | short (letter c : Char)
  /-- An escape with hexadecimal digits. -/
  | unicode (digits : List Char)

/-- The letters of short escapes, and the characters that they stand for. -/
def shortEscapes : List (Char × Char) :=
  [('"', '"'), ('\\', '\\'), ('/', '/'), ('b', '\x08'), ('f', '\x0c'), ('n', '\n'), ('r', '\r'), ('t', '\t')]

/-- The number that hexadecimal digits stand for behind others, whose number is given. -/
def unitFrom (n : Nat) (digits : List Char) : Nat :=
  digits.foldl (fun n c => 16 * n + (Text.Hex.value? c).getD 0) n

namespace Piece

/-- The piece as it is written. -/
def chars : Piece → List Char
  | plain c => [c]
  | short letter _ => ['\\', letter]
  | unicode digits => '\\' :: 'u' :: digits

/-- The piece may stand in a string. -/
def Proper : Piece → Prop
  | plain c => 0x20 ≤ c.toNat ∧ c ≠ '"' ∧ c ≠ '\\'
  | short letter c => (letter, c) ∈ shortEscapes
  | unicode digits => digits.length = 4 ∧ ∀ d ∈ digits, Text.Hex.isDigit d = true

instance : (p : Piece) → Decidable p.Proper
  | plain _ => inferInstanceAs (Decidable (_ ∧ _))
  | short _ _ => inferInstanceAs (Decidable (_ ∈ shortEscapes))
  | unicode digits => @instDecidableAnd _ _ _ (List.decidableBAll (p := (Text.Hex.isDigit ·)) digits)

end Piece

/-- The first half of a pair of surrogates. -/
def IsHigh (n : Nat) : Prop :=
  0xD800 ≤ n ∧ n ≤ 0xDBFF

/-- The second half of a pair of surrogates. -/
def IsLow (n : Nat) : Prop :=
  0xDC00 ≤ n ∧ n ≤ 0xDFFF

instance (n : Nat) : Decidable (IsHigh n) :=
  inferInstanceAs (Decidable (_ ∧ _))

instance (n : Nat) : Decidable (IsLow n) :=
  inferInstanceAs (Decidable (_ ∧ _))

/-- The character of a pair of surrogates. -/
def pairedChar (high low : Nat) : Char :=
  Char.ofNat (0x10000 + (high - 0xD800) * 0x400 + (low - 0xDC00))

/-- The characters that pieces denote, if all their surrogates come in pairs. -/
def denoted? : List Piece → Option (List Char)
  | [] => some []
  | .plain c :: r => (denoted? r).map (c :: ·)
  | .short _ c :: r => (denoted? r).map (c :: ·)
  | .unicode digits :: r =>
    let n := unitFrom 0 digits
    if IsLow n then none
    else if IsHigh n then
      match r with
      | .unicode digits :: r =>
        let m := unitFrom 0 digits
        if IsLow m then (denoted? r).map (pairedChar n m :: ·) else none
      | _ => none
    else (denoted? r).map (Char.ofNat n :: ·)

/-- The text that pieces denote. -/
def textOf? (pieces : List Piece) : Option String :=
  (denoted? pieces).map String.ofList

/-- The pieces as they are written, without the quotes around them. -/
def body (pieces : List Piece) : List Char :=
  pieces.flatMap Piece.chars

/-! ## Runs over one piece -/

theorem encodeChars_ascii {c : Char} (h : c.toNat < 128) (l : List Char) :
    encodeChars (c :: l) = UInt8.ofNat c.toNat :: encodeChars l := by
  rw [encodeChars_cons, Text.Utf8.utf8EncodeChar_ascii h, List.singleton_append]

theorem run_plain (pairs : Bool) {c : Char} (h : (Piece.plain c).Proper) :
    Place.plain.run pairs (encodeChars [c]) = some (.plain, encodeChars [c]) := by
  obtain ⟨hctrl, hquote, hslash⟩ := h
  have hne {d : Char} (hd : d.toNat < 0x20) : c ≠ d := by
    rintro rfl
    omega
  have hescape : escape c = [c] := by
    unfold escape
    rw [if_neg (by simp [hquote, hslash]), if_neg (hne (by decide)), if_neg (hne (by decide)),
      if_neg (hne (by decide)), if_neg (hne (by decide)), if_neg (hne (by decide)), if_neg (by omega)]
  have hrun := run_escape pairs c
  rw [hescape] at hrun
  rw [hrun, encodeChars_cons, encodeChars_nil, List.append_nil]

theorem run_short (pairs : Bool) {letter c : Char} (h : (Piece.short letter c).Proper) :
    Place.plain.run pairs (encodeChars ['\\', letter]) = some (.plain, encodeChars [c]) := by
  have hall : ∀ pairs : Bool, ∀ e ∈ shortEscapes,
      Place.plain.run pairs (encodeChars ['\\', e.1]) = some (.plain, encodeChars [e.2]) := by
    decide +kernel
  exact hall pairs (letter, c) h

section

variable {pairs : Bool} {p q : Place} {b : UInt8}

theorem run_singleton (h : ¬(p = .plain ∧ b = 0x22)) : p.run pairs [b] = p.step pairs b := by
  rw [Place.run, if_neg h]
  cases p.step pairs b with
  | none => rfl
  | some t => simp [Place.run]

theorem run_cons_of_step (h : ¬(p = .plain ∧ b = 0x22)) (hstep : p.step pairs b = some (q, [])) (r : Bytes) :
    p.run pairs (b :: r) = q.run pairs r := by
  rw [Place.run, if_neg h, hstep]
  cases hrun : q.run pairs r <;> simp [hrun]

end

/-- Digits are read one by one, and the last of them ends the escape. -/
theorem run_digits (pairs : Bool) (place : Nat → Nat → Place) (finish : Nat → Option (Place × Bytes))
    (hplain : ∀ missing n, place missing n ≠ .plain)
    (hstep : ∀ missing n b, (place missing n).step pairs b =
      (Text.Hex.value? (Char.ofNat b.toNat)).bind fun d =>
        if missing ≤ 1 then finish (16 * n + d) else some (place (missing - 1) (16 * n + d), []))
    {digits : List Char} (hne : digits ≠ []) (hdigits : ∀ d ∈ digits, Text.Hex.isDigit d = true) (n : Nat) :
    (place digits.length n).run pairs (encodeChars digits) = finish (unitFrom n digits) := by
  induction digits generalizing n with
  | nil => exact absurd rfl hne
  | cons c r ih =>
    obtain ⟨d, hd⟩ := Option.isSome_iff_exists.mp (hdigits c List.mem_cons_self)
    have hascii : c.toNat < 128 := Nat.lt_trans (Text.Hex.toNat_lt_of_value? hd) (by decide)
    have hbyte : Char.ofNat (UInt8.ofNat c.toNat).toNat = c := by
      rw [UInt8.toNat_ofNat_of_lt' (Nat.lt_trans hascii (by decide)), Char.ofNat_toNat]
    have hunit : unitFrom n (c :: r) = unitFrom (16 * n + d) r := by
      rw [unitFrom, List.foldl_cons, hd]
      rfl
    have hmid {missing : Nat} {b : UInt8} : ¬(place missing n = .plain ∧ b = 0x22) := fun h => hplain _ _ h.1
    have hread := hstep (c :: r).length n (UInt8.ofNat c.toNat)
    rw [hbyte, hd, Option.bind_some] at hread
    rw [encodeChars_ascii hascii, hunit]
    cases r with
    | nil => exact (run_singleton hmid).trans hread
    | cons e s =>
      rw [if_neg (by simp)] at hread
      rw [run_cons_of_step hmid hread]
      exact ih (List.cons_ne_nil e s) (fun x hx => hdigits x (List.mem_cons_of_mem c hx)) _

section

variable {pairs : Bool} {digits : List Char} (h : (Piece.unicode digits).Proper)

include h

theorem run_unicode : Place.plain.run pairs (encodeChars (Piece.unicode digits).chars)
    = finishEscape pairs (unitFrom 0 digits) := by
  obtain ⟨hlength, hdigits⟩ := h
  have hne : digits ≠ [] := by
    rintro rfl
    cases hlength
  have hread := run_digits pairs .digits (finishEscape pairs) (nofun)
    (fun _ _ _ => rfl) hne hdigits 0
  rw [hlength] at hread
  rw [Piece.chars, encodeChars_ascii (by decide), encodeChars_ascii (by decide),
    run_cons_of_step (q := .escape) (by decide) rfl, run_cons_of_step (q := .digits 4 0) (by decide) rfl, hread]

/-- Behind a first half of a pair an escape has to be the second half. -/
theorem run_high (first : Nat) : (Place.high first).run pairs (encodeChars (Piece.unicode digits).chars)
    = finishPair first (unitFrom 0 digits) := by
  obtain ⟨hlength, hdigits⟩ := h
  have hne : digits ≠ [] := by
    rintro rfl
    cases hlength
  have hread := run_digits pairs (.lowDigits first) (finishPair first) (nofun)
    (fun _ _ _ => rfl) hne hdigits 0
  rw [hlength] at hread
  rw [Piece.chars, encodeChars_ascii (by decide), encodeChars_ascii (by decide),
    run_cons_of_step (p := .high first) (q := .highEscape first) (fun he => by cases he.1) rfl,
    run_cons_of_step (q := .lowDigits first 4 0) (fun he => by cases he.1) rfl, hread]

end

/-! ## Strings that are skipped -/

/-- The pieces may all stand in a string. -/
def AllProper (pieces : List Piece) : Prop :=
  ∀ p ∈ pieces, p.Proper

instance (pieces : List Piece) : Decidable (AllProper pieces) :=
  inferInstanceAs (Decidable (∀ p ∈ pieces, p.Proper))

theorem run_false_piece {p : Piece} (h : p.Proper) :
    ∃ content, Place.plain.run false (encodeChars p.chars) = some (.plain, content) := by
  cases p with
  | plain c => exact ⟨_, run_plain false h⟩
  | short letter c => exact ⟨_, run_short false h⟩
  | unicode digits =>
    rw [run_unicode h, finishEscape]
    split
    · exact ⟨_, rfl⟩
    split <;> exact ⟨_, rfl⟩

theorem body_cons (p : Piece) (r : List Piece) : body (p :: r) = p.chars ++ body r :=
  List.flatMap_cons

/-- **Every string can be skipped.** -/
theorem skipText?_body {pieces : List Piece} (h : AllProper pieces) (rest : Bytes) :
    skipText? (encodeChars (body pieces) ++ 0x22 :: rest) = some rest := by
  have hrun : ∃ content, Place.plain.run false (encodeChars (body pieces)) = some (.plain, content) := by
    induction pieces with
    | nil => exact ⟨[], rfl⟩
    | cons p r ih =>
      obtain ⟨c, hfirst⟩ := run_false_piece (h p List.mem_cons_self)
      obtain ⟨d, hrest⟩ := ih fun q hq => h q (List.mem_cons_of_mem p hq)
      rw [body_cons, encodeChars_append]
      exact ⟨c ++ d, run_append hfirst hrest⟩
  obtain ⟨content, hrun⟩ := hrun
  rw [skipText?, scanString_of_run hrun, scanString, if_pos ⟨rfl, rfl⟩, Option.map_some]

/-! ## Strings that are kept -/

/-- A scan fails where its run does, if it does not end before. -/
theorem scanString_of_run_none {pairs : Bool} {p : Place} {l : Bytes} (h : p.run pairs l = none)
    (hquote : 0x22 ∉ l) (acc rest : Bytes) : scanString pairs p acc (l ++ rest) = none := by
  induction l generalizing p acc with
  | nil => cases h
  | cons b r ih =>
    have hend : ¬(p = .plain ∧ b = 0x22) := fun he => hquote (he.2 ▸ List.mem_cons_self)
    rw [Place.run, if_neg hend] at h
    rw [List.cons_append, scanString, if_neg hend]
    cases hstep : p.step pairs b with
    | none => rfl
    | some t =>
      obtain ⟨q, content⟩ := t
      rw [hstep] at h
      exact ih (by simpa using h) (fun hr => hquote (List.mem_cons_of_mem b hr)) _

theorem quote_not_mem_unicode {digits : List Char} (h : (Piece.unicode digits).Proper) :
    0x22 ∉ encodeChars (Piece.unicode digits).chars := by
  intro hmem
  have hquote : '"' ∈ '\\' :: 'u' :: digits := Text.Utf8.mem_of_byte_mem (d := '"') (by decide) hmem
  simp only [List.mem_cons, Char.reduceEq, false_or] at hquote
  exact absurd (h.2 _ hquote) (by decide)

theorem codePointBytes_eq (n : Nat) : codePointBytes n = encodeChars [Char.ofNat n] := by
  rw [codePointBytes, Text.Utf8.encode_eq_encodeChars, String.toList_singleton]

theorem finishEscape_low {n : Nat} (h : IsLow n) : finishEscape true n = none :=
  if_pos h

theorem finishEscape_high {n : Nat} (h : IsHigh n) : finishEscape true n = some (.high n, []) := by
  have hlow : ¬IsLow n := fun hlow => by
    have hle : 0xDC00 ≤ 0xDBFF := Nat.le_trans hlow.1 h.2
    exact absurd hle (by decide)
  exact (if_neg hlow).trans (if_pos h)

theorem finishEscape_char {n : Nat} (hlow : ¬IsLow n) (hhigh : ¬IsHigh n) :
    finishEscape true n = some (.plain, encodeChars [Char.ofNat n]) := by
  rw [← codePointBytes_eq]
  exact (if_neg hlow).trans (if_neg hhigh)

theorem finishPair_of_low (high : Nat) {n : Nat} (h : IsLow n) :
    finishPair high n = some (.plain, encodeChars [pairedChar high n]) := by
  unfold IsLow at h
  rw [finishPair, if_pos h, codePointBytes_eq, pairedChar]

theorem finishPair_of_not_low (high : Nat) {n : Nat} (h : ¬IsLow n) : finishPair high n = none :=
  if_neg h

section

variable (n : Nat) (acc rest : Bytes)

/-- Behind the first half of a pair only a backslash may follow. -/
theorem scanString_high_of_ne {b : UInt8} (h : b ≠ 0x5C) : scanString true (.high n) acc (b :: rest) = none := by
  rw [scanString, if_neg (fun he => by cases he.1), Place.step, if_neg h]

theorem scanString_highEscape_of_ne {b : UInt8} (h : b ≠ 0x75) :
    scanString true (.high n) acc (0x5C :: b :: rest) = none := by
  rw [scanString, if_neg (fun he => by cases he.1), Place.step, if_pos rfl]
  simp only
  rw [scanString, if_neg (fun he => by cases he.1), Place.step, if_neg h]

/-- The first half of a pair is not left alone. -/
theorem scanString_high_of_not_unicode {pieces : List Piece} (h : AllProper pieces)
    (hnone : ∀ digits r, pieces = .unicode digits :: r → False) :
    scanString true (.high n) acc (encodeChars (body pieces) ++ 0x22 :: rest) = none := by
  cases pieces with
  | nil => exact scanString_high_of_ne n acc rest (by decide)
  | cons p r =>
    have hp := h p List.mem_cons_self
    rw [body_cons, encodeChars_append, List.append_assoc]
    cases p with
    | unicode digits => exact (hnone digits r rfl).elim
    | plain c =>
      have hfirst : ∃ b l, encodeChars [c] = b :: l := by
        refine List.exists_cons_of_ne_nil fun hnil => ?_
        have hle := Text.Utf8.length_le_encodeChars [c]
        rw [hnil] at hle
        cases hle
      obtain ⟨b, l, hb⟩ := hfirst
      have hne : b ≠ 0x5C := by
        rintro rfl
        have hmem : '\\' ∈ [c] :=
          Text.Utf8.mem_of_byte_mem (d := '\\') (by decide) (by rw [hb]; exact List.mem_cons_self)
        exact hp.2.2 (List.mem_singleton.mp hmem).symm
      rw [Piece.chars, hb, List.cons_append]
      exact scanString_high_of_ne n acc _ hne
    | short letter c =>
      have hletter : letter.toNat < 128 ∧ UInt8.ofNat letter.toNat ≠ 0x75 := by
        have hall : ∀ e ∈ shortEscapes, e.1.toNat < 128 ∧ UInt8.ofNat e.1.toNat ≠ 0x75 := by decide
        exact hall (letter, c) hp
      rw [Piece.chars, encodeChars_ascii (by decide), encodeChars_ascii hletter.1, encodeChars_nil]
      exact scanString_highEscape_of_ne n _ _ hletter.2

end

/-- What is written for one character is read before what follows it. -/
theorem scanString_cons {l m : List Char} {c : Char} {found : Option (List Char)} {rest : Bytes}
    (hrun : Place.plain.run true (encodeChars l) = some (.plain, encodeChars [c]))
    (hrest : ∀ acc, scanString true .plain acc (encodeChars m ++ 0x22 :: rest)
      = found.map fun cs => (acc.reverse ++ encodeChars cs, rest)) (acc : Bytes) :
    scanString true .plain acc (encodeChars (l ++ m) ++ 0x22 :: rest)
      = (found.map (c :: ·)).map fun cs => (acc.reverse ++ encodeChars cs, rest) := by
  rw [encodeChars_append, List.append_assoc, scanString_of_run hrun, hrest, Option.map_map]
  congr 1
  funext cs
  simp

/-- **A string is kept exactly if it denotes a text.** -/
theorem scanString_body {pieces : List Piece} (h : AllProper pieces) (acc rest : Bytes) :
    scanString true .plain acc (encodeChars (body pieces) ++ 0x22 :: rest)
      = (denoted? pieces).map fun cs => (acc.reverse ++ encodeChars cs, rest) := by
  fun_induction denoted? pieces generalizing acc with
  | case1 => simp [body, scanString]
  | case2 c r ih =>
    obtain ⟨hp, hr⟩ := List.forall_mem_cons.mp h
    exact scanString_cons (run_plain true hp) (ih hr) acc
  | case3 letter c r ih =>
    obtain ⟨hp, hr⟩ := List.forall_mem_cons.mp h
    exact scanString_cons (run_short true hp) (ih hr) acc
  | case4 digits r n hlow =>
    obtain ⟨hp, -⟩ := List.forall_mem_cons.mp h
    rw [body_cons, encodeChars_append, List.append_assoc]
    exact scanString_of_run_none ((run_unicode hp).trans (finishEscape_low hlow)) (quote_not_mem_unicode hp) acc _
  | case5 first n hlow hhigh second r m hsecond ih =>
    obtain ⟨hp, hr⟩ := List.forall_mem_cons.mp h
    obtain ⟨hq, hr⟩ := List.forall_mem_cons.mp hr
    have hrun : Place.plain.run true (encodeChars ((Piece.unicode first).chars ++ (Piece.unicode second).chars))
        = some (.plain, encodeChars [pairedChar n m]) := by
      rw [encodeChars_append, run_append ((run_unicode hp).trans (finishEscape_high hhigh))
        ((run_high hq n).trans (finishPair_of_low n hsecond)), List.nil_append]
    rw [body_cons, body_cons, ← List.append_assoc]
    exact scanString_cons hrun (ih hr) acc
  | case6 first n hlow hhigh second r m hsecond =>
    obtain ⟨hp, hr⟩ := List.forall_mem_cons.mp h
    obtain ⟨hq, -⟩ := List.forall_mem_cons.mp hr
    rw [body_cons, encodeChars_append, List.append_assoc,
      scanString_of_run ((run_unicode hp).trans (finishEscape_high hhigh)), body_cons, encodeChars_append,
      List.append_assoc]
    exact scanString_of_run_none ((run_high hq n).trans (finishPair_of_not_low n hsecond))
      (quote_not_mem_unicode hq) _ _
  | case7 digits r n hlow hhigh hnone =>
    obtain ⟨hp, hr⟩ := List.forall_mem_cons.mp h
    rw [body_cons, encodeChars_append, List.append_assoc,
      scanString_of_run ((run_unicode hp).trans (finishEscape_high hhigh))]
    exact scanString_high_of_not_unicode n _ rest hr hnone
  | case8 digits r n hlow hhigh ih =>
    obtain ⟨hp, hr⟩ := List.forall_mem_cons.mp h
    exact scanString_cons ((run_unicode hp).trans (finishEscape_char hlow hhigh)) (ih hr) acc

/-- **A string is taken as the text that it denotes.** -/
theorem takeText?_body {pieces : List Piece} (h : AllProper pieces) (rest : Bytes) :
    takeText? (encodeChars (body pieces) ++ 0x22 :: rest) = (textOf? pieces).map (·, rest) := by
  rw [takeText?, scanString_body h, textOf?, Option.map_map]
  cases denoted? pieces with
  | none => rfl
  | some cs => simp [← Text.Utf8.encode_ofList]

/-! ## Strings that are written -/

/-- The piece that is written for a character. -/
def pieceOf (c : Char) : Piece :=
  if c = '"' ∨ c = '\\' then .short c c
  else if c = '\x08' then .short 'b' c
  else if c = '\t' then .short 't' c
  else if c = '\n' then .short 'n' c
  else if c = '\x0c' then .short 'f' c
  else if c = '\r' then .short 'r' c
  else if c.toNat < 0x20 then
    .unicode ['0', '0', Text.Hex.digit (c.toNat / 16), Text.Hex.digit (c.toNat % 16)]
  else .plain c

/-- The pieces that are written for a text. -/
def piecesOf (s : String) : List Piece :=
  s.toList.map pieceOf

theorem chars_pieceOf (c : Char) : (pieceOf c).chars = escape c := by
  unfold pieceOf escape
  repeat' split
  all_goals rfl

theorem proper_pieceOf (c : Char) : (pieceOf c).Proper := by
  by_cases h : c.toNat < 128
  · exact Text.Hex.of_forall_ofNat (p := fun c => (pieceOf c).Proper) (by decide) h
  · have hne {d : Char} (hd : d.toNat < 128) : c ≠ d := by
      rintro rfl
      exact h hd
    have hplain : pieceOf c = .plain c := by
      unfold pieceOf
      rw [if_neg (by simp [hne]), if_neg (hne (by decide)), if_neg (hne (by decide)),
        if_neg (hne (by decide)), if_neg (hne (by decide)), if_neg (hne (by decide)), if_neg (by omega)]
    rw [hplain]
    exact ⟨by omega, hne (by decide), hne (by decide)⟩

theorem denoted?_unicode {digits : List Char} (hlow : ¬IsLow (unitFrom 0 digits))
    (hhigh : ¬IsHigh (unitFrom 0 digits)) (r : List Piece) :
    denoted? (.unicode digits :: r) = (denoted? r).map (Char.ofNat (unitFrom 0 digits) :: ·) := by
  rw [denoted?.eq_def]
  simp only [if_neg hlow, if_neg hhigh]

theorem denoted?_pieceOf (c : Char) (r : List Piece) :
    denoted? (pieceOf c :: r) = (denoted? r).map (c :: ·) := by
  unfold pieceOf
  repeat' split
  case isFalse.isFalse.isFalse.isFalse.isFalse.isFalse.isTrue hctrl =>
    have hall : ∀ n < 0x20, unitFrom 0 ['0', '0', Text.Hex.digit (n / 16), Text.Hex.digit (n % 16)] = n := by
      decide
    have hlow : ¬IsLow c.toNat := fun hlow => absurd (Nat.le_trans hlow.1 (Nat.le_of_lt hctrl)) (by decide)
    have hhigh : ¬IsHigh c.toNat := fun hhigh => absurd (Nat.le_trans hhigh.1 (Nat.le_of_lt hctrl)) (by decide)
    rw [← hall c.toNat hctrl] at hlow hhigh
    rw [denoted?_unicode hlow hhigh, hall c.toNat hctrl, Char.ofNat_toNat]
  all_goals rfl

/-- The string that is written for a text consists of pieces that denote the text. -/
theorem textOf?_piecesOf (s : String) : textOf? (piecesOf s) = some s := by
  have hall (l : List Char) : denoted? (l.map pieceOf) = some l := by
    induction l with
    | nil => rfl
    | cons c r ih => rw [List.map_cons, denoted?_pieceOf, ih, Option.map_some]
  rw [textOf?, piecesOf, hall, Option.map_some, String.ofList_toList]

theorem body_piecesOf (s : String) : body (piecesOf s) = s.toList.flatMap escape := by
  rw [body, piecesOf, List.flatMap_map]
  exact congrArg s.toList.flatMap (funext chars_pieceOf)

theorem allProper_piecesOf (s : String) : AllProper (piecesOf s) := by
  intro p hp
  obtain ⟨c, -, rfl⟩ := List.mem_map.mp hp
  exact proper_pieceOf c

end SessionTokens.Json
