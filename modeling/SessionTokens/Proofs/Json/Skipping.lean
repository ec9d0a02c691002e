import SessionTokens.Proofs.Json.Grammar

/-!
# Values are skipped to their end

A value of any shape and depth, with white space in front of it, is skipped exactly: no more and no less is taken,
whatever is open around it and whatever follows (`skips_of_isValue`).
-/

namespace SessionTokens.Json

open Text.Utf8 (encodeChars encodeChars_append encodeChars_nil)

/-! ## Steps of the skipper -/

/-- The byte that opens a frame. -/
def Frame.opener : Frame → UInt8
  | .array => 0x5B
  | .object => 0x7B

theorem Frame.of_opener (f : Frame) : (if f.opener = 0x5B then Frame.array else Frame.object) = f := by
  cases f <;> rfl

theorem Frame.opener_cases (f : Frame) : f.opener = 0x5B ∨ f.opener = 0x7B := by
  cases f <;> decide

section

variable {stack : List Frame} {f : Frame} {l r s t : Bytes} {b : UInt8}

theorem skip_opened (hl : skipGaps l = f.opener :: r) (hr : skipGaps r = f.closer :: s) :
    skip .value stack l = skip .rest stack s := by
  conv_lhs => rw [skip]
  split
  · next h => cases hl.symm.trans h
  · next h =>
    obtain ⟨rfl, rfl⟩ := List.cons.inj (hl.symm.trans h)
    rw [if_pos f.opener_cases, f.of_opener]
    simp only
    split
    · next h => cases hr.symm.trans h
    · next h =>
      obtain ⟨rfl, rfl⟩ := List.cons.inj (hr.symm.trans h)
      rw [if_pos rfl]

theorem skip_entered (hl : skipGaps l = f.opener :: r) (hr : skipGaps r = b :: s) (hb : b ≠ f.closer)
    (hs : f.skipName? (b :: s) = some t) : skip .value stack l = skip .value (f :: stack) t := by
  conv_lhs => rw [skip]
  split
  · next h => cases hl.symm.trans h
  · next h =>
    obtain ⟨rfl, rfl⟩ := List.cons.inj (hl.symm.trans h)
    rw [if_pos f.opener_cases, f.of_opener]
    simp only
    split
    · next h => cases hr.symm.trans h
    · next h =>
      obtain ⟨rfl, rfl⟩ := List.cons.inj (hr.symm.trans h)
      rw [if_neg hb]
      split
      · next h => cases hs.symm.trans h
      · next h =>
        cases hs.symm.trans h
        rfl

theorem skip_scalar (hl : skipGaps l = b :: r) (hb : ¬(b = 0x5B ∨ b = 0x7B)) (hs : skipScalar? (b :: r) = some s) :
    skip .value stack l = skip .rest stack s := by
  conv_lhs => rw [skip]
  split
  · next h => cases hl.symm.trans h
  · next h =>
    obtain ⟨rfl, rfl⟩ := List.cons.inj (hl.symm.trans h)
    rw [if_neg hb]
    split
    · next h => cases hs.symm.trans h
    · next h =>
      cases hs.symm.trans h
      rfl

theorem skip_comma (hl : skipGaps l = 0x2C :: r) (hs : f.skipName? r = some s) :
    skip .rest (f :: stack) l = skip .value (f :: stack) s := by
  conv_lhs => rw [skip]
  split
  · next h => cases hl.symm.trans h
  · next h =>
    obtain ⟨rfl, rfl⟩ := List.cons.inj (hl.symm.trans h)
    rw [if_pos rfl]
    split
    · next h => cases hs.symm.trans h
    · next h =>
      cases hs.symm.trans h
      rfl

theorem skip_closed (hl : skipGaps l = f.closer :: r) : skip .rest (f :: stack) l = skip .rest stack r := by
  have hcomma : f.closer ≠ 0x2C := by cases f <;> decide
  conv_lhs => rw [skip]
  split
  · next h => cases hl.symm.trans h
  · next h =>
    obtain ⟨rfl, rfl⟩ := List.cons.inj (hl.symm.trans h)
    rw [if_neg hcomma, if_pos rfl]

end

/-! ## Parts of arrays and objects -/

/-- An element or a member: what stands before its value, and the value. -/
structure Part where
  lead : List Char
  head : List Char
  before : List Char
  value : List Char
  behind : List Char

/-- The part as it is written. -/
def Part.chars (p : Part) : List Char :=
  p.lead ++ (p.head ++ (p.before ++ (p.value ++ p.behind)))

/-- What may stand before a value: nothing in an array, a name and a colon in an object. -/
def Frame.Leads : Frame → Part → Prop
  | .array, p => p.head = [] ∧ p.before = []
  | .object, p => ∃ name afterName, AllProper name ∧ IsGapText afterName ∧
      p.head = quoted name ++ (afterName ++ [':'])

/-- The part may stand in the frame. -/
structure Part.Fits (f : Frame) (p : Part) : Prop where
  lead : IsGapText p.lead
  leads : f.Leads p
  before : IsGapText p.before
  behind : IsGapText p.behind

/-- An element as a part of an array. -/
def Item.part (i : Item) : Part :=
  ⟨i.lead, [], [], i.value, i.behind⟩

/-- A member as a part of an object. -/
def Entry.part (e : Entry) : Part :=
  ⟨e.lead, quoted e.name ++ (e.afterName ++ [':']), e.before, e.value, e.behind⟩

theorem Entry.chars_part (e : Entry) : e.part.chars = e.chars := by
  simp [Entry.part, Part.chars, Entry.chars]

theorem Item.Spaced.fits {i : Item} (h : i.Spaced) : i.part.Fits .array :=
  ⟨h.lead, ⟨rfl, rfl⟩, isGapText_nil, h.behind⟩

theorem Entry.Spaced.fits {e : Entry} (h : e.Spaced) : e.part.Fits .object :=
  ⟨h.lead, ⟨e.name, e.afterName, h.name, h.afterName, rfl⟩, h.before, h.behind⟩

/-! ## Names -/

theorem encodeChars_quoted (pieces : List Piece) (rest : Bytes) :
    encodeChars (quoted pieces) ++ rest = 0x22 :: (encodeChars (body pieces) ++ 0x22 :: rest) := by
  rw [quoted, encodeChars_ascii (by decide), encodeChars_append, encodeChars_ascii (by decide), encodeChars_nil,
    List.cons_append, List.append_assoc, List.singleton_append]
  rfl

theorem skipName?_quoted {lead afterName : List Char} {name : List Piece} (hlead : IsGapText lead)
    (hname : AllProper name) (hafter : IsGapText afterName) (rest : Bytes) :
    skipName? (encodeChars (lead ++ (quoted name ++ (afterName ++ [':']))) ++ rest) = some rest := by
  have hcolon : encodeChars [':'] = [0x3A] := by decide
  rw [encodeChars_append, List.append_assoc, encodeChars_append, List.append_assoc, encodeChars_quoted,
    encodeChars_append, List.append_assoc, hcolon, List.singleton_append]
  unfold skipName?
  rw [skipGaps_gap hlead, skipGaps_cons (by decide)]
  simp only [if_true, skipText?_body hname, Option.bind_some]
  rw [skipGaps_gap hafter, skipGaps_cons (by decide)]
  simp only [if_true]

/-- Of what stands before a value, only white space is left. -/
theorem Part.Fits.skipName? {f : Frame} {p : Part} (h : p.Fits f) {lead : List Char} (hlead : IsGapText lead)
    (rest : Bytes) :
    ∃ gap, IsGapText gap ∧
      f.skipName? (encodeChars (lead ++ p.head) ++ rest) = some (encodeChars gap ++ rest) := by
  cases f with
  | array =>
    obtain ⟨hhead, -⟩ := h.leads
    exact ⟨lead, hlead, by rw [hhead, List.append_nil]; rfl⟩
  | object =>
    obtain ⟨name, afterName, hname, hafter, hhead⟩ := h.leads
    refine ⟨[], isGapText_nil, ?_⟩
    rw [hhead]
    exact skipName?_quoted hlead hname hafter rest

/-! ## Runs -/

/-- The value is skipped exactly. -/
def Skips (v : List Char) : Prop :=
  ∀ gap stack rest, IsGapText gap → Delimits rest →
    skip .value stack (encodeChars gap ++ (encodeChars v ++ rest)) = skip .rest stack rest

theorem delimits_gap {gap : List Char} (h : IsGapText gap) {rest : Bytes} (hrest : Delimits rest) :
    Delimits (encodeChars gap ++ rest) := by
  cases gap with
  | nil => exact hrest
  | cons c r =>
    have hbyte : c.toNat < 128 ∧ isGap (UInt8.ofNat c.toNat) = true := by
      rcases h c List.mem_cons_self with rfl | rfl | rfl | rfl <;> decide
    rw [encodeChars_ascii hbyte.1]
    exact delimits_cons (Or.inl hbyte.2) _

theorem intercalate_comma (x : List Char) (r : List (List Char)) :
    [','].intercalate (x :: r) = x ++ r.flatMap (',' :: ·) := by
  induction r generalizing x with
  | nil => simp
  | cons y r ih =>
    rw [List.intercalate_cons_cons, ih y, List.flatMap_cons, List.append_assoc, List.singleton_append,
      List.cons_append]

/-- The parts behind the first one, with their commas. -/
def following (parts : List Part) : List Char :=
  parts.flatMap fun p => ',' :: p.chars

theorem following_cons (p : Part) (r : List Part) :
    encodeChars (following (p :: r)) = 0x2C :: (encodeChars p.chars ++ encodeChars (following r)) := by
  rw [following, List.flatMap_cons, List.cons_append, encodeChars_ascii (by decide), encodeChars_append]
  rfl

theorem intercalate_parts (p : Part) (r : List Part) :
    [','].intercalate ((p :: r).map Part.chars) = p.chars ++ following r := by
  rw [List.map_cons, intercalate_comma, List.flatMap_map]
  rfl

section

variable {f : Frame} {rest : Bytes}

theorem delimits_following (parts : List Part) :
    Delimits (encodeChars (following parts) ++ f.closer :: rest) := by
  cases parts with
  | nil => exact delimits_cons (by cases f <;> decide) rest
  | cons p r =>
    rw [following_cons, List.cons_append]
    exact delimits_cons (by decide) _

/-- One part is skipped, and what follows it is left. -/
theorem skip_part {p : Part} (hp : p.Fits f) (hv : Skips p.value) {gap : List Char} (hgap : IsGapText gap)
    (stack : List Frame) (hrest : Delimits rest) :
    skip .value stack (encodeChars gap ++ (encodeChars (p.before ++ (p.value ++ p.behind)) ++ rest))
      = skip .rest stack (encodeChars p.behind ++ rest) := by
  have hskip := hv (gap ++ p.before) stack (encodeChars p.behind ++ rest) (hgap.append hp.before)
    (delimits_gap hp.behind hrest)
  rw [← hskip]
  simp only [encodeChars_append, List.append_assoc]

/-- **All parts up to the end of a frame are skipped.** -/
theorem skip_following {parts : List Part} (hparts : ∀ p ∈ parts, p.Fits f ∧ Skips p.value) {behind : List Char}
    (hbehind : IsGapText behind) (stack : List Frame) :
    skip .rest (f :: stack) (encodeChars behind ++ (encodeChars (following parts) ++ f.closer :: rest))
      = skip .rest stack rest := by
  induction parts generalizing behind with
  | nil =>
    refine skip_closed ?_
    rw [skipGaps_gap hbehind]
    exact skipGaps_cons (by cases f <;> decide)
  | cons p r ih =>
    obtain ⟨⟨hp, hv⟩, hr⟩ := List.forall_mem_cons.mp hparts
    obtain ⟨gap, hgap, hname⟩ := hp.skipName? hp.lead
      (encodeChars (p.before ++ (p.value ++ p.behind)) ++ (encodeChars (following r) ++ f.closer :: rest))
    have hcomma : skipGaps (encodeChars behind ++ (encodeChars (following (p :: r)) ++ f.closer :: rest))
        = 0x2C :: (encodeChars (p.lead ++ p.head) ++ (encodeChars (p.before ++ (p.value ++ p.behind))
          ++ (encodeChars (following r) ++ f.closer :: rest))) := by
      rw [skipGaps_gap hbehind, following_cons, List.cons_append, skipGaps_cons (by decide), Part.chars]
      simp only [encodeChars_append, List.append_assoc]
    rw [skip_comma hcomma hname, skip_part hp hv hgap (f :: stack) (delimits_following r), ih hr hp.behind]

end

/-! ## Values -/

theorem ne_of_numeric {b c : UInt8} (hb : isDigit b = true ∨ b = 0x2D) (hc : isDigit c = false ∧ c ≠ 0x2D) :
    b ≠ c := by
  rintro rfl
  rcases hb with hb | hb
  · exact absurd (hb.symm.trans hc.1) (by decide)
  · exact hc.2 hb

theorem isGap_of_numeric {b : UInt8} (hb : isDigit b = true ∨ b = 0x2D) : isGap b = false := by
  have hne {c : UInt8} (hc : isDigit c = false ∧ c ≠ 0x2D) : (b == c) = false :=
    beq_eq_false_iff_ne.mpr (ne_of_numeric hb hc)
  rw [isGap, hne (by decide), hne (by decide), hne (by decide), hne (by decide)]
  rfl

/-- A value does not begin with white space, and not with what closes a frame. -/
theorem IsValue.exists_cons {v : List Char} (h : IsValue v) :
    ∃ b r, encodeChars v = b :: r ∧ isGap b = false ∧ ∀ f : Frame, b ≠ f.closer := by
  cases h with
  | null => exact ⟨_, _, rfl, by decide, fun f => by cases f <;> decide⟩
  | flag b => cases b <;> exact ⟨_, _, rfl, by decide, fun f => by cases f <;> decide⟩
  | number h =>
    obtain ⟨b, r, hcons, hb⟩ := h.exists_cons
    exact ⟨b, r, hcons, isGap_of_numeric hb, fun f => ne_of_numeric hb (by cases f <;> decide)⟩
  | string h => exact ⟨_, _, encodeChars_ascii (by decide) _, by decide, fun f => by cases f <;> decide⟩
  | array => exact ⟨_, _, encodeChars_ascii (by decide) _, by decide, fun f => by cases f <;> decide⟩
  | object => exact ⟨_, _, encodeChars_ascii (by decide) _, by decide, fun f => by cases f <;> decide⟩

/-- A value that is no array and no object is skipped exactly. -/
theorem skips_of_skipScalar? {v : List Char} {b : UInt8} {r : Bytes} (hv : encodeChars v = b :: r)
    (hb : isGap b = false ∧ ¬(b = 0x5B ∨ b = 0x7B))
    (h : ∀ rest, Delimits rest → skipScalar? (encodeChars v ++ rest) = some rest) : Skips v := by
  intro gap stack rest hgap hrest
  have hscalar := h rest hrest
  rw [hv] at hscalar ⊢
  refine skip_scalar ?_ hb.2 hscalar
  rw [skipGaps_gap hgap]
  exact skipGaps_cons hb.1

/-- A word is skipped exactly, if its first byte is enough to tell it. -/
theorem skips_word {w : List Char} {b : UInt8} {r : Bytes} (hw : encodeChars w = b :: r)
    (hb : isGap b = false ∧ ¬(b = 0x5B ∨ b = 0x7B))
    (hskip : ∀ l, skipScalar? (b :: l) = takeWord? (b :: r) (b :: l)) : Skips w := by
  refine skips_of_skipScalar? hw hb fun rest _ => ?_
  rw [hw, List.cons_append, hskip]
  exact takeWord?_append (b :: r) rest

theorem encodeChars_enclosed {f : Frame} {opening closing : Char} (hopening : encodeChars [opening] = [f.opener])
    (hclosing : encodeChars [closing] = [f.closer]) (gap : List Char) (parts : List (List Char)) (rest : Bytes) :
    encodeChars (enclosed opening closing gap parts) ++ rest
      = f.opener :: (encodeChars gap ++ (encodeChars ([','].intercalate parts) ++ f.closer :: rest)) := by
  rw [enclosed, ← List.singleton_append, encodeChars_append, encodeChars_append, encodeChars_append, hopening,
    hclosing]
  simp only [List.append_assoc, List.cons_append]
  rfl

/-- What stands before a value does not begin like the end of a frame. -/
theorem Part.Fits.exists_cons {f : Frame} {p : Part} (h : p.Fits f) (hv : IsValue p.value) :
    ∃ b r, encodeChars (p.head ++ (p.before ++ p.value)) = b :: r ∧ isGap b = false ∧ b ≠ f.closer := by
  cases f with
  | array =>
    obtain ⟨hhead, hbefore⟩ := h.leads
    obtain ⟨b, r, hcons, hgap, hclose⟩ := hv.exists_cons
    rw [hhead, hbefore]
    exact ⟨b, r, hcons, hgap, hclose .array⟩
  | object =>
    obtain ⟨name, afterName, -, -, hhead⟩ := h.leads
    rw [hhead, List.append_assoc, encodeChars_append, encodeChars_quoted]
    exact ⟨_, _, rfl, by decide, by decide⟩

/-- An array or an object is skipped exactly, if its values are. -/
theorem skips_enclosed {f : Frame} {opening closing : Char} {gap : List Char} {parts : List Part}
    (hopening : encodeChars [opening] = [f.opener]) (hclosing : encodeChars [closing] = [f.closer])
    (hgap : IsGapText gap) (hparts : ∀ p ∈ parts, p.Fits f ∧ Skips p.value ∧ IsValue p.value) :
    Skips (enclosed opening closing gap (parts.map Part.chars)) := by
  intro lead stack rest hlead hrest
  rw [encodeChars_enclosed hopening hclosing]
  have hopened (r : Bytes) : skipGaps (encodeChars lead ++ f.opener :: r) = f.opener :: r := by
    rw [skipGaps_gap hlead]
    exact skipGaps_cons (by cases f <;> decide)
  cases parts with
  | nil =>
    refine skip_opened (hopened _) ?_
    rw [skipGaps_gap hgap]
    exact skipGaps_cons (by cases f <;> decide)
  | cons p r =>
    obtain ⟨⟨hp, hskip, hv⟩, hr⟩ := List.forall_mem_cons.mp hparts
    obtain ⟨b, s, hcons, hb, hclose⟩ := hp.exists_cons hv
    let behind := encodeChars p.behind ++ (encodeChars (following r) ++ f.closer :: rest)
    have hfirst : skipGaps (encodeChars gap ++ (encodeChars ([','].intercalate ((p :: r).map Part.chars))
        ++ f.closer :: rest)) = b :: (s ++ behind) := by
      have hchars : encodeChars (p.chars ++ following r) ++ f.closer :: rest
          = encodeChars p.lead ++ (encodeChars (p.head ++ (p.before ++ p.value)) ++ behind) := by
        simp only [Part.chars, encodeChars_append, List.append_assoc, behind]
      rw [intercalate_parts, skipGaps_gap hgap, hchars, skipGaps_gap hp.lead, hcons]
      exact skipGaps_cons hb
    obtain ⟨gap', hgap', hname⟩ := hp.skipName? isGapText_nil
      (encodeChars (p.before ++ (p.value ++ p.behind)) ++ (encodeChars (following r) ++ f.closer :: rest))
    have hhead : encodeChars ([] ++ p.head) ++ (encodeChars (p.before ++ (p.value ++ p.behind))
        ++ (encodeChars (following r) ++ f.closer :: rest)) = b :: (s ++ behind) := by
      rw [← List.cons_append, ← hcons]
      simp only [List.nil_append, encodeChars_append, List.append_assoc, behind]
    rw [hhead] at hname
    rw [skip_entered (hopened _) hfirst hclose hname, skip_part hp hskip hgap' _ (delimits_following r),
      skip_following (fun q hq => ⟨(hr q hq).1, (hr q hq).2.1⟩) hp.behind]

/-- **A value is skipped exactly.** -/
theorem skips_of_isValue {v : List Char} (h : IsValue v) : Skips v := by
  induction h with
  | null => exact skips_word rfl (by decide) fun _ => rfl
  | flag b =>
    cases b with
    | true => exact skips_word rfl (by decide) fun _ => rfl
    | false => exact skips_word rfl (by decide) fun _ => rfl
  | number h =>
    obtain ⟨b, r, hcons, hb⟩ := h.exists_cons
    refine skips_of_skipScalar? hcons ⟨isGap_of_numeric hb, ?_⟩ fun rest hrest => ?_
    · exact not_or.mpr ⟨ne_of_numeric hb (by decide), ne_of_numeric hb (by decide)⟩
    · obtain ⟨n, hn⟩ := takeNumeral?_number h hrest
      rw [hcons] at hn ⊢
      rw [List.cons_append, skipScalar?, if_neg (ne_of_numeric hb (by decide)),
        if_neg (ne_of_numeric hb (by decide)), if_neg (ne_of_numeric hb (by decide)),
        if_neg (ne_of_numeric hb (by decide)), ← List.cons_append, hn]
      rfl
  | string h =>
    refine skips_of_skipScalar? (encodeChars_ascii (by decide) _) (by decide) fun rest _ => ?_
    rw [encodeChars_quoted]
    exact skipText?_body h rest
  | @array gap items hgap hitems hvalues ih =>
    have hskips : Skips (enclosed '[' ']' gap ((items.map Item.part).map Part.chars)) :=
      skips_enclosed (f := .array) (by decide) (by decide) hgap (by
        intro p hp
        obtain ⟨i, hi, rfl⟩ := List.mem_map.mp hp
        exact ⟨(hitems i hi).fits, ih i hi, hvalues i hi⟩)
    rwa [List.map_map] at hskips
  | @object gap entries hgap hentries hvalues ih =>
    have hskips : Skips (enclosed '\x7b' '\x7d' gap ((entries.map Entry.part).map Part.chars)) :=
      skips_enclosed (f := .object) (by decide) (by decide) hgap (by
        intro p hp
        obtain ⟨e, he, rfl⟩ := List.mem_map.mp hp
        exact ⟨(hentries e he).fits, ih e he, hvalues e he⟩)
    rwa [List.map_map, show Part.chars ∘ Entry.part = Entry.chars from funext Entry.chars_part] at hskips

theorem skipValue?_value {v gap : List Char} (h : IsValue v) (hgap : IsGapText gap) {rest : Bytes}
    (hrest : Delimits rest) : skipValue? (encodeChars gap ++ (encodeChars v ++ rest)) = some rest := by
  rw [skipValue?, skips_of_isValue h gap [] rest hgap hrest, skip]

end SessionTokens.Json
