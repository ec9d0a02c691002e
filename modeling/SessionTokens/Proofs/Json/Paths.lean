import SessionTokens.Proofs.Json.Objects

/-!
# Texts in nested objects

A path of names leads to a value inside nested objects. Of an object that is written here, every path finds what
was written at its end (`descend?_object`).
-/

namespace SessionTokens.Json

open Text.Utf8 (encode encodeChars encodeChars_append encodeChars_nil)

/-! ## Looking into objects -/

/-- The bytes from the value of the first member of that name on, among members. -/
def seek? (name : String) (l : Bytes) : Option Bytes :=
  match _hn : takeName l with
  | .error _ => none
  | .ok (found, m) =>
    match _hc : takeColon m with
    | .error _ => none
    | .ok v =>
      if found = name then some v
      else
        match _hs : skipValue? v with
        | none => none
        | some rest =>
          match _hr : skipGaps rest with
          | [] => none
          | b :: r => if b = 0x2C then seek? name r else none
termination_by l.length
decreasing_by
  have h1 := length_lt_of_takeName _hn
  have h2 := length_lt_of_takeColon _hc
  have h3 := length_le_of_skip _hs
  have h4 := length_skipGaps_cons _hr
  omega

/-- The bytes from the value on to which a path of names leads. -/
def descend? : List String → Bytes → Option Bytes
  | [], l => some l
  | name :: path, l =>
    match skipGaps l with
    | [] => none
    | b :: r => if b = 0x7B then (seek? name r).bind (descend? path) else none

/-- The text that a string denotes. -/
def denotedBy? (l : Bytes) : Option String :=
  match takeValue .text l with
  | .ok (.text s, _) => some s
  | _ => none

/-- The text to which a path of names leads in a JSON text, which is one value and nothing else. -/
def textAt? (path : List String) (l : Bytes) : Option String :=
  if (skipValue? l).map skipGaps = some [] then (descend? path l).bind denotedBy? else none

section

variable {name found : String} {l m v rest r : Bytes}

theorem seek?_found (hname : takeName l = .ok (name, m)) (hcolon : takeColon m = .ok v) :
    seek? name l = some v := by
  rw [seek?]
  split
  · next he => cases hname.symm.trans he
  · next he =>
    cases hname.symm.trans he
    split
    · next he => cases hcolon.symm.trans he
    · next he =>
      cases hcolon.symm.trans he
      exact if_pos rfl

/-- A member of another name is passed over, if there is one behind it. -/
theorem seek?_passed {b : UInt8} (hname : takeName l = .ok (found, m)) (hne : found ≠ name)
    (hcolon : takeColon m = .ok v) (hskip : skipValue? v = some rest) (hrest : skipGaps rest = b :: r) :
    seek? name l = if b = 0x2C then seek? name r else none := by
  conv_lhs => rw [seek?]
  split
  · next he => cases hname.symm.trans he
  · next he =>
    cases hname.symm.trans he
    split
    · next he => cases hcolon.symm.trans he
    · next he =>
      cases hcolon.symm.trans he
      rw [if_neg hne]
      split
      · next he => cases hskip.symm.trans he
      · next he =>
        cases hskip.symm.trans he
        split
        · next he => cases hrest.symm.trans he
        · next he =>
          obtain ⟨rfl, rfl⟩ := List.cons.inj (hrest.symm.trans he)
          rfl

end

/-! ## Objects that are written -/

/-- A member that is written, as a member of an object. -/
def writtenEntry (m : String × List Char) : Entry :=
  ⟨[], piecesOf m.1, [], [], m.2, []⟩

theorem chars_writtenEntry (m : String × List Char) : (writtenEntry m).chars = text m.1 ++ ':' :: m.2 := by
  simp [writtenEntry, Entry.chars, text_eq_quoted]

theorem members_cons (m : String × List Char) (r : List (String × List Char)) :
    members (m :: r) = text m.1 ++ ':' :: (m.2 ++ r.flatMap fun m => ',' :: (text m.1 ++ ':' :: m.2)) := by
  induction r generalizing m with
  | nil => simp [members]
  | cons n r ih => simp [members, ih n]

theorem object_eq_objectChars (ms : List (String × List Char)) :
    object ms = objectChars [] (ms.map writtenEntry) := by
  have hchars : Entry.chars ∘ writtenEntry = fun m => text m.1 ++ ':' :: m.2 := funext chars_writtenEntry
  rw [object, objectChars, enclosed, List.map_map, hchars]
  cases ms with
  | nil => rfl
  | cons m r =>
    rw [members_cons, List.map_cons, intercalate_comma, List.flatMap_map]
    simp

theorem isValue_text (s : String) : IsValue (text s) := by
  rw [text_eq_quoted]
  exact .string (allProper_piecesOf s)

theorem isValue_object {ms : List (String × List Char)} (h : ∀ m ∈ ms, IsValue m.2) : IsValue (object ms) := by
  rw [object_eq_objectChars]
  refine .object isGapText_nil (fun e he => ?_) fun e he => ?_
  · obtain ⟨m, -, rfl⟩ := List.mem_map.mp he
    exact ⟨isGapText_nil, allProper_piecesOf m.1, isGapText_nil, isGapText_nil, isGapText_nil⟩
  · obtain ⟨m, hm, rfl⟩ := List.mem_map.mp he
    exact h m hm

/-- Among members that are written, a name leads to what was written under it. -/
theorem seek?_members {ms : List (String × List Char)} (hne : ms ≠ []) (h : ∀ m ∈ ms, IsValue m.2)
    (name : String) (behind : Bytes) :
    ∃ rest, seek? name (encodeChars (members ms) ++ 0x7D :: behind)
      = (ms.lookup name).map (encodeChars · ++ rest) := by
  induction ms with
  | nil => exact absurd rfl hne
  | cons m r ih =>
    obtain ⟨n, v⟩ := m
    obtain ⟨hv, hr⟩ := List.forall_mem_cons.mp h
    have hname (rest : Bytes) := takeName_text n (0x3A :: rest)
    rw [List.lookup_cons]
    by_cases heq : name = n
    · subst heq
      rw [members_cons, encodeChars_append, encodeChars_colon, encodeChars_append, List.append_assoc,
        List.cons_append, List.append_assoc, seek?_found (hname _) (takeColon_cons _)]
      simp
    · rw [show (name == n) = false from beq_eq_false_iff_ne.mpr heq]
      have hskip {rest : Bytes} (hrest : Delimits rest) : skipValue? (encodeChars v ++ rest) = some rest :=
        skipValue?_value hv isGapText_nil hrest
      cases r with
      | nil =>
        have hdelimits : Delimits (0x7D :: behind) := delimits_cons (by decide) behind
        rw [members, encodeChars_append, encodeChars_colon, List.append_assoc, List.cons_append,
          seek?_passed (hname _) (Ne.symm heq) (takeColon_cons _) (hskip hdelimits) (skipGaps_cons (by decide))]
        exact ⟨[], rfl⟩
      | cons m' r =>
        have hmembers : encodeChars (members ((n, v) :: m' :: r)) ++ 0x7D :: behind = encodeChars (text n)
            ++ 0x3A :: (encodeChars v ++ 0x2C :: (encodeChars (members (m' :: r)) ++ 0x7D :: behind)) := by
          have hcomma (l : List Char) : encodeChars (',' :: l) = 0x2C :: encodeChars l :=
            encodeChars_ascii (by decide) l
          simp only [members, encodeChars_append, encodeChars_colon, hcomma, List.append_assoc, List.cons_append]
        rw [hmembers, seek?_passed (hname _) (Ne.symm heq) (takeColon_cons _)
          (hskip (delimits_cons (by decide) _)) (skipGaps_cons (by decide)), if_pos rfl]
        exact ih (List.cons_ne_nil m' r) hr

/-- Of an object that is written, a name leads to what was written under it. -/
theorem descend?_object {ms : List (String × List Char)} (hne : ms ≠ []) (h : ∀ m ∈ ms, IsValue m.2)
    (name : String) (path : List String) (behind : Bytes) :
    ∃ rest, descend? (name :: path) (encodeChars (object ms) ++ behind)
      = (ms.lookup name).bind fun v => descend? path (encodeChars v ++ rest) := by
  obtain ⟨rest, hseek⟩ := seek?_members hne h name behind
  have hchars : encodeChars (object ms) ++ behind = 0x7B :: (encodeChars (members ms) ++ 0x7D :: behind) := by
    rw [object, encodeChars_ascii (by decide), encodeChars_append, encodeChars_ascii (by decide)]
    simp
  refine ⟨rest, ?_⟩
  rw [hchars, descend?, skipGaps_cons (by decide)]
  simp only [if_true, hseek]
  cases ms.lookup name <;> rfl

theorem denotedBy?_text (s : String) (behind : Bytes) : denotedBy? (encodeChars (text s) ++ behind) = some s := by
  have htake : takeValue .text (encodeChars (text s) ++ behind) = .ok (.text s, behind) :=
    takeValue_chars (.text s) behind
  rw [denotedBy?, htake]

theorem textAt?_of_isValue {v : List Char} (h : IsValue v) (path : List String) :
    textAt? path (encode (String.ofList v)) = (descend? path (encodeChars v)).bind denotedBy? := by
  have hskip := skipValue?_value h isGapText_nil delimits_nil
  rw [encodeChars_nil, List.nil_append, List.append_nil] at hskip
  rw [textAt?, Text.Utf8.encode_ofList, hskip]
  exact if_pos rfl

end SessionTokens.Json
