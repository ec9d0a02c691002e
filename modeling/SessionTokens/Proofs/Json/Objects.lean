import Mathlib.Data.List.Forall2
import Mathlib.Data.List.Nodup
import SessionTokens.Proofs.Except
import SessionTokens.Proofs.Json.Skipping

/-!
# Records in any object

A record is read from an object however it is written: the members in any order, white space anywhere, names and
strings with any escapes, and any further members with any values between them. What is read depends on the members
with the names of the fields alone, each of which must not occur twice (`readRecord_objectChars_iff`).
-/

namespace SessionTokens.Json

open Text.Utf8 (encode encodeChars encodeChars_append encodeChars_nil)

/-! ## What members say -/

/-- The value is written as one of the given kind. -/
inductive Reads : Kind → List Char → Value → Prop where
  | text {pieces : List Piece} {s : String} (h : AllProper pieces) (htext : textOf? pieces = some s) :
      Reads .text (quoted pieces) (.text s)
  | flag (b : Bool) : Reads .flag (Json.flag b) (.flag b)

/-- The name of a member, if it is a text. -/
def Entry.name? (e : Entry) : Option String :=
  textOf? e.name

/-- The members with a name. -/
def named (name : String) (entries : List Entry) : List Entry :=
  entries.filter fun e => e.name? == some name

/-- The members say the value of the field: one of them alone has its name, or none has and the value is that for
missing members. -/
inductive Field.SaidBy (f : Field) (entries : List Entry) (v : Value) : Prop where
  | once {e : Entry} (h : named f.name entries = [e]) (hv : Reads f.kind e.value v)
  | missing (h : named f.name entries = []) (hv : f.fallback? = some v)

/-- White space stands where white space may stand, and the value is one. -/
structure Entry.Proper (e : Entry) : Prop where
  spaced : e.Spaced
  value : IsValue e.value

/-! ## One member -/

/-- What becomes of the members found so far with a member behind them: it adds itself if its name is that of a
field, and was not found before. -/
def Entry.Adds (e : Entry) (shape : Shape) (found found' : Members) : Prop :=
  ∃ name, e.name? = some name ∧
    match shape.find? fun f => f.name == name with
    | none => found' = found
    | some f => found.lookup name = none ∧ ∃ v, Reads f.kind e.value v ∧ found' = (name, v) :: found

section

variable {gap : List Char} {rest : Bytes}

theorem takeName_quoted (hgap : IsGapText gap) {name : List Piece} (h : AllProper name) :
    takeName (encodeChars gap ++ (encodeChars (quoted name) ++ rest))
      = ((textOf? name).map (·, rest)).elim (.error .malformed) .ok := by
  rw [encodeChars_quoted]
  unfold takeName
  rw [skipGaps_gap hgap, skipGaps_cons (by decide)]
  simp only [if_true, takeText?_body h]
  cases textOf? name <;> rfl

theorem takeColon_gap (hgap : IsGapText gap) :
    takeColon (encodeChars gap ++ 0x3A :: rest) = .ok rest := by
  rw [takeColon, skipGaps_gap hgap, ← takeColon, takeColon_cons]

theorem takeValue_quoted {pieces : List Piece} (h : AllProper pieces) :
    takeValue .text (encodeChars (quoted pieces) ++ rest)
      = ((textOf? pieces).map fun s => (Value.text s, rest)).elim (.error .malformed) .ok := by
  rw [encodeChars_quoted, takeValue, skipGaps_cons (by decide), takeTextValue, if_pos rfl, takeText?_body h]
  cases textOf? pieces <;> rfl

theorem takeValue_gap (hgap : IsGapText gap) (k : Kind) (l : Bytes) :
    takeValue k (encodeChars gap ++ l) = takeValue k l := by
  cases k <;> rw [takeValue, takeValue, skipGaps_gap hgap]

/-- The bytes with which values of a kind begin. -/
def Kind.openers : Kind → List UInt8
  | .text => [0x22]
  | .flag => [0x74, 0x66]

theorem takeWord?_cons_of_ne {a b : UInt8} (h : b ≠ a) (word r : Bytes) :
    takeWord? (a :: word) (b :: r) = none := by
  rw [takeWord?, List.length_cons, List.take_succ_cons]
  exact if_neg fun he => h (List.cons.inj he).1

theorem mem_openers_of_takeValue {k : Kind} {b : UInt8} {r : Bytes} {taken : Value × Bytes}
    (hb : isGap b = false) (h : takeValue k (b :: r) = .ok taken) : b ∈ k.openers := by
  cases k with
  | text =>
    rw [takeValue, skipGaps_cons hb, takeTextValue] at h
    split at h
    · next hquote => exact hquote ▸ List.mem_cons_self
    · cases h
  | flag =>
    have htrue : trueWord = 0x74 :: [0x72, 0x75, 0x65] := by decide
    have hfalse : falseWord = 0x66 :: [0x61, 0x6C, 0x73, 0x65] := by decide
    by_contra hnot
    obtain ⟨ht, hf⟩ : b ≠ 0x74 ∧ b ≠ 0x66 := by simpa [Kind.openers] using hnot
    simp [takeValue, skipGaps_cons hb, takeFlagValue, htrue, hfalse, takeWord?_cons_of_ne ht,
      takeWord?_cons_of_ne hf] at h

/-- A value that begins like one of a kind is written as such. -/
theorem written_of_mem_openers {k : Kind} {v : List Char} (h : IsValue v) {b : UInt8} {r : Bytes}
    (hv : encodeChars v = b :: r) (hb : b ∈ k.openers) :
    (k = .text ∧ ∃ pieces, AllProper pieces ∧ v = quoted pieces) ∨ k = .flag ∧ ∃ b, v = flag b := by
  have hfirst {c : Char} {l : List Char} (hc : c.toNat < 128) (hv : encodeChars (c :: l) = b :: r) :
      UInt8.ofNat c.toNat ∈ k.openers := by
    rw [encodeChars_ascii hc] at hv
    exact (List.cons.inj hv).1 ▸ hb
  cases h with
  | null =>
    have hopens := hfirst (by decide) hv
    cases k <;> exact absurd hopens (by decide)
  | flag b' =>
    cases k with
    | text =>
      cases b' with
      | true => exact absurd (hfirst (by decide) hv) (by decide)
      | false => exact absurd (hfirst (by decide) hv) (by decide)
    | flag => exact Or.inr ⟨rfl, b', rfl⟩
  | number hnumber =>
    obtain ⟨c, t, hcons, hnumeric⟩ := hnumber.exists_cons
    obtain ⟨rfl, -⟩ := List.cons.inj (hv.symm.trans hcons)
    have hopener : ∀ c ∈ k.openers, isDigit c = false ∧ c ≠ 0x2D := by
      cases k <;> simp only [Kind.openers, List.forall_mem_cons, List.not_mem_nil, false_implies, implies_true] <;>
        decide
    exact absurd rfl (ne_of_numeric hnumeric (hopener b hb))
  | @string pieces hpieces =>
    cases k with
    | text => exact Or.inl ⟨rfl, pieces, hpieces, rfl⟩
    | flag => exact absurd (hfirst (by decide) hv) (by decide)
  | array =>
    have hopens := hfirst (by decide) hv
    cases k <;> exact absurd hopens (by decide)
  | object =>
    have hopens := hfirst (by decide) hv
    cases k <;> exact absurd hopens (by decide)

/-- A value of a kind is read as what it is written for, and no other value is. -/
theorem takeValue_eq_ok_iff {k : Kind} {v : List Char} (h : IsValue v) (hgap : IsGapText gap) {x : Value}
    {r : Bytes} :
    takeValue k (encodeChars gap ++ (encodeChars v ++ rest)) = .ok (x, r) ↔ Reads k v x ∧ r = rest := by
  rw [takeValue_gap hgap]
  constructor
  · intro htake
    obtain ⟨b, t, hv, hb, -⟩ := h.exists_cons
    have hopens : b ∈ k.openers := by
      rw [hv] at htake
      exact mem_openers_of_takeValue hb htake
    rcases written_of_mem_openers h hv hopens with ⟨rfl, pieces, hpieces, rfl⟩ | ⟨rfl, b, rfl⟩
    · rw [takeValue_quoted hpieces] at htake
      cases htext : textOf? pieces with
      | none =>
        rw [htext] at htake
        cases htake
      | some s =>
        rw [htext] at htake
        cases htake
        exact ⟨.text hpieces htext, rfl⟩
    · cases (takeValue_chars (.flag b) rest).symm.trans htake
      exact ⟨.flag b, rfl⟩
  · rintro ⟨hreads, rfl⟩
    cases hreads with
    | text hpieces htext =>
      rw [takeValue_quoted hpieces, htext]
      rfl
    | flag b => exact takeValue_chars (.flag b) r

theorem Entry.encodeChars_chars (e : Entry) (rest : Bytes) :
    encodeChars e.chars ++ rest = encodeChars e.lead ++ (encodeChars (quoted e.name) ++ (encodeChars e.afterName
      ++ 0x3A :: (encodeChars e.before ++ (encodeChars e.value ++ (encodeChars e.behind ++ rest))))) := by
  have hcolon (l : List Char) : encodeChars (':' :: l) = 0x3A :: encodeChars l := encodeChars_ascii (by decide) l
  simp only [Entry.chars, encodeChars_append, hcolon, List.append_assoc, List.cons_append]

variable {shape : Shape} {found : Members}

/-- **A member is taken as what it adds.** -/
theorem takeMember_eq_ok_iff {e : Entry} (he : e.Proper) (hrest : Delimits rest) {found' : Members} {r : Bytes} :
    takeMember shape found (encodeChars e.chars ++ rest) = .ok (found', r) ↔
      e.Adds shape found found' ∧ r = encodeChars e.behind ++ rest := by
  rw [e.encodeChars_chars, takeMember, takeName_quoted he.spaced.lead he.spaced.name]
  have hbehind := delimits_gap he.spaced.behind hrest
  have hadds {name : String} (hname : textOf? e.name = some name) : e.Adds shape found found' ↔
      match shape.find? fun f => f.name == name with
      | none => found' = found
      | some f => found.lookup name = none ∧ ∃ v, Reads f.kind e.value v ∧ found' = (name, v) :: found := by
    simp [Entry.Adds, Entry.name?, hname]
  cases hname : textOf? e.name with
  | none =>
    refine iff_of_false (fun h => by cases h) ?_
    rintro ⟨⟨name, hname', -⟩, -⟩
    cases hname.symm.trans hname'
  | some name =>
    rw [hadds hname]
    simp only [Option.map_some, Option.elim_some]
    cases shape.find? fun f => f.name == name with
    | none =>
      simp only [takeColon_gap he.spaced.afterName, Except.bind, dropValue,
        skipValue?_value he.value he.spaced.before hbehind, Except.map, Except.ok.injEq, Prod.mk.injEq]
      exact and_congr eq_comm eq_comm
    | some f =>
      simp only [takeColon_gap he.spaced.afterName, Except.bind]
      cases found.lookup name with
      | some v => simp
      | none =>
        simp only [Option.isSome_none, Bool.false_eq_true, if_false, true_and, map_eq_ok_iff, Prod.exists,
          takeValue_eq_ok_iff he.value he.spaced.before, Prod.mk.injEq]
        constructor
        · rintro ⟨v, r', ⟨hreads, rfl⟩, rfl, rfl⟩
          exact ⟨⟨v, hreads, rfl⟩, rfl⟩
        · rintro ⟨⟨v, hreads, rfl⟩, rfl⟩
          exact ⟨v, _, ⟨hreads, rfl⟩, rfl, rfl⟩

/-! ## All members -/

/-- What becomes of the members found so far with members behind them. -/
def AddsAll (shape : Shape) : Members → List Entry → Members → Prop
  | found, [], found' => found' = found
  | found, e :: r, found' => ∃ next, e.Adds shape found next ∧ AddsAll shape next r found'

/-- A member that is taken leaves the rest to what comes behind it. -/
theorem takeMembers_iff_of_next {l m : Bytes} (behind : Members → Except Fault (Members × Bytes))
    {taken : Members × Bytes} (hrest : ∀ next m', takeMember shape found l = .ok (next, m') → m' = m)
    (hbehind : ∀ next, takeMember shape found l = .ok (next, m) → takeMembers shape found l = behind next) :
    takeMembers shape found l = .ok taken ↔
      ∃ next, takeMember shape found l = .ok (next, m) ∧ behind next = .ok taken := by
  cases hm : takeMember shape found l with
  | error e =>
    rw [takeMembers_of_error hm]
    exact iff_of_false nofun nofun
  | ok first =>
    obtain ⟨next, m'⟩ := first
    obtain rfl := hrest next m' hm
    rw [hbehind next hm]
    constructor
    · exact fun h => ⟨next, rfl, h⟩
    · rintro ⟨next', hnext, h⟩
      cases hnext
      exact h

/-- **Members are taken as what they add one after the other.** -/
theorem takeMembers_eq_ok_iff {e : Entry} {entries : List Entry} (h : ∀ e' ∈ e :: entries, e'.Proper)
    {found' : Members} {r : Bytes} :
    takeMembers shape found (encodeChars (e.chars ++ following (entries.map Entry.part)) ++ 0x7D :: rest)
        = .ok (found', r) ↔ AddsAll shape found (e :: entries) found' ∧ r = rest := by
  induction entries generalizing e found with
  | nil =>
    obtain ⟨he, -⟩ := List.forall_mem_cons.mp h
    have htake {next m} : takeMember shape found (encodeChars e.chars ++ 0x7D :: rest) = .ok (next, m) ↔ _ :=
      takeMember_eq_ok_iff he (delimits_cons (by decide) rest)
    have hbrace : skipGaps (encodeChars e.behind ++ 0x7D :: rest) = 0x7D :: rest := by
      rw [skipGaps_gap he.spaced.behind]
      exact skipGaps_cons (by decide)
    rw [List.map_nil, following, List.flatMap_nil, List.append_nil,
      takeMembers_iff_of_next (fun next => .ok (next, rest)) (fun _ _ hm => (htake.mp hm).2)
        fun _ hm => takeMembers_brace hm hbrace]
    simp only [htake, AddsAll, Except.ok.injEq, Prod.mk.injEq, and_true]
    constructor
    · rintro ⟨next, hadds, rfl, rfl⟩
      exact ⟨⟨next, hadds, rfl⟩, rfl⟩
    · rintro ⟨⟨next, hadds, rfl⟩, rfl⟩
      exact ⟨found', hadds, rfl, rfl⟩
  | cons q t ih =>
    obtain ⟨he, ht⟩ := List.forall_mem_cons.mp h
    let behind := encodeChars (q.chars ++ following (t.map Entry.part)) ++ 0x7D :: rest
    have htake {next m} : takeMember shape found (encodeChars e.chars ++ 0x2C :: behind) = .ok (next, m) ↔ _ :=
      takeMember_eq_ok_iff he (delimits_cons (by decide) behind)
    have hcomma : skipGaps (encodeChars e.behind ++ 0x2C :: behind) = 0x2C :: behind := by
      rw [skipGaps_gap he.spaced.behind]
      exact skipGaps_cons (by decide)
    have hchars : encodeChars (e.chars ++ following ((q :: t).map Entry.part)) ++ 0x7D :: rest
        = encodeChars e.chars ++ 0x2C :: behind := by
      rw [List.map_cons, encodeChars_append, following_cons, Entry.chars_part, ← encodeChars_append,
        List.append_assoc, List.cons_append]
    rw [hchars, takeMembers_iff_of_next (takeMembers shape · behind) (fun _ _ hm => (htake.mp hm).2)
      fun _ hm => takeMembers_comma hm hcomma]
    simp only [htake, behind, ih ht, AddsAll, and_true]
    constructor
    · rintro ⟨next, hadds, hall, rfl⟩
      exact ⟨⟨next, hadds, hall⟩, rfl⟩
    · rintro ⟨⟨next, hadds, hall⟩, rfl⟩
      exact ⟨next, hadds, hall, rfl⟩

/-! ## Whole objects -/

theorem takeFound_objectChars {lead : List Char} (hlead : IsGapText lead) (gap : List Char)
    (entries : List Entry) :
    takeFound shape (encodeChars lead ++ (encodeChars (objectChars gap entries) ++ rest))
      = takeObject shape (encodeChars gap
        ++ (encodeChars ([','].intercalate (entries.map Entry.chars)) ++ 0x7D :: rest)) := by
  rw [objectChars, encodeChars_enclosed (f := .object) (by decide) (by decide)]
  unfold takeFound
  rw [skipGaps_gap hlead, show Frame.object.opener = 0x7B from rfl, skipGaps_cons (by decide)]
  exact if_pos rfl

/-- Behind white space members begin with the quote of the first name, as if there were no white space. -/
theorem skipGaps_entries {e : Entry} (he : e.Proper) (entries : List Entry) (rest : Bytes) :
    ∃ s, skipGaps (encodeChars ([','].intercalate ((e :: entries).map Entry.chars)) ++ 0x7D :: rest)
        = 0x22 :: s ∧
      encodeChars ({ e with lead := [] }.chars ++ following (entries.map Entry.part)) ++ 0x7D :: rest
        = 0x22 :: s := by
  let e' : Entry := { e with lead := [] }
  obtain ⟨s, hs⟩ :
      ∃ s, encodeChars (e'.chars ++ following (entries.map Entry.part)) ++ 0x7D :: rest = 0x22 :: s := by
    rw [encodeChars_append, List.append_assoc, e'.encodeChars_chars, encodeChars_quoted]
    exact ⟨_, rfl⟩
  have hparts : (e :: entries).map Entry.chars = ((e :: entries).map Entry.part).map Part.chars := by
    rw [List.map_map]
    exact List.map_congr_left fun e _ => e.chars_part.symm
  have hchars : encodeChars (e.chars ++ following (entries.map Entry.part)) ++ 0x7D :: rest
      = encodeChars e.lead ++ (encodeChars (e'.chars ++ following (entries.map Entry.part)) ++ 0x7D :: rest) := by
    simp [Entry.chars, e']
  refine ⟨s, ?_, hs⟩
  rw [hparts, List.map_cons, intercalate_parts, e.chars_part, hchars, skipGaps_gap he.spaced.lead, hs]
  exact skipGaps_cons (by decide)

/-- What is found in an object are its members, and what follows the object is left. -/
theorem takeFound_eq_ok_iff {lead : List Char} (hlead : IsGapText lead) (hgap : IsGapText gap)
    {entries : List Entry} (h : ∀ e ∈ entries, e.Proper) {found' : Members} {r : Bytes} :
    takeFound shape (encodeChars lead ++ (encodeChars (objectChars gap entries) ++ rest)) = .ok (found', r) ↔
      AddsAll shape [] entries found' ∧ r = rest := by
  rw [takeFound_objectChars hlead]
  unfold takeObject
  rw [skipGaps_gap hgap]
  cases entries with
  | nil =>
    have hclose : skipGaps (encodeChars ([','].intercalate (([] : List Entry).map Entry.chars)) ++ 0x7D :: rest)
        = 0x7D :: rest := skipGaps_cons (by decide)
    simp only [hclose, if_true, AddsAll, Except.ok.injEq, Prod.mk.injEq]
    exact and_congr eq_comm eq_comm
  | cons e t =>
    obtain ⟨he, ht⟩ := List.forall_mem_cons.mp h
    -- white space in front of the first name is gone already
    obtain ⟨s, hskip, hs⟩ := skipGaps_entries he t rest
    have he' : { e with lead := [] }.Proper := ⟨{ he.spaced with lead := isGapText_nil }, he.value⟩
    simp only [hskip]
    rw [if_neg (by decide), ← hs]
    exact takeMembers_eq_ok_iff (List.forall_mem_cons.mpr ⟨he', ht⟩)

end

/-! ## Fields -/

/-- What is found of a field behind what was found of it before, with the members that have its name. -/
inductive Field.FoundAs (f : Field) : Option Value → List Entry → Option Value → Prop where
  | before (o : Option Value) : FoundAs f o [] o
  | now {e : Entry} {v : Value} (hv : Reads f.kind e.value v) : FoundAs f none [e] (some v)

theorem Field.foundAs_cons_iff {f : Field} {o o' : Option Value} {e : Entry} {l : List Entry} :
    f.FoundAs o (e :: l) o' ↔ o = none ∧ l = [] ∧ ∃ v, Reads f.kind e.value v ∧ o' = some v := by
  constructor
  · intro h
    cases h with
    | now hv => exact ⟨rfl, rfl, _, hv, rfl⟩
  · rintro ⟨rfl, rfl, v, hv, rfl⟩
    exact .now hv

theorem Field.foundAs_some_iff {f : Field} {v : Value} {o : Option Value} {l : List Entry} :
    f.FoundAs (some v) l o ↔ l = [] ∧ o = some v := by
  constructor
  · intro h
    cases h with
    | before => exact ⟨rfl, rfl⟩
  · rintro ⟨rfl, rfl⟩
    exact .before _

theorem named_cons_of_eq {name : String} {e : Entry} (h : e.name? = some name) (entries : List Entry) :
    named name (e :: entries) = e :: named name entries :=
  List.filter_cons_of_pos (by simp [h])

theorem named_cons_of_ne {name name' : String} {e : Entry} (h : e.name? = some name') (hne : name ≠ name')
    (entries : List Entry) : named name (e :: entries) = named name entries :=
  List.filter_cons_of_neg (by simp [h, hne.symm])

theorem lookup_cons_of_ne {found : Members} {name name' : String} (hne : name ≠ name') (v : Value) :
    List.lookup name ((name', v) :: found) = found.lookup name := by
  rw [List.lookup_cons, show (name == name') = false from beq_eq_false_iff_ne.mpr hne]

section

variable {shape : Shape} {found found' : Members} {entries : List Entry}

/-- A field is found by its name, and no other one is. -/
theorem eq_of_find?_name (hshape : (shape.map Field.name).Nodup) {f f₀ : Field} {name : String} (hf : f ∈ shape)
    (hfind : shape.find? (fun f => f.name == name) = some f₀) (hname : f.name = name) : f = f₀ := by
  have hname₀ : f₀.name = name := by simpa using List.find?_some hfind
  exact List.inj_on_of_nodup_map hshape hf (List.mem_of_find?_eq_some hfind) (hname.trans hname₀.symm)

/-- What is found of a field comes from the members with its name. -/
theorem foundAs_of_addsAll (hshape : (shape.map Field.name).Nodup) (h : AddsAll shape found entries found') :
    (∀ e ∈ entries, e.name? ≠ none) ∧
      ∀ f ∈ shape, f.FoundAs (found.lookup f.name) (named f.name entries) (found'.lookup f.name) := by
  induction entries generalizing found with
  | nil =>
    obtain rfl := h
    exact ⟨fun e he => absurd he List.not_mem_nil, fun f _ => .before _⟩
  | cons e t ih =>
    obtain ⟨next, ⟨name, hname, hadds⟩, hall⟩ := h
    obtain ⟨hnames, hfound⟩ := ih hall
    refine ⟨List.forall_mem_cons.mpr ⟨by simp [hname], hnames⟩, fun f hf => ?_⟩
    have hf' := hfound f hf
    split at hadds
    · next hnone =>
      have hne : f.name ≠ name := by simpa using List.find?_eq_none.mp hnone f hf
      rw [named_cons_of_ne hname hne, ← hadds]
      exact hf'
    · next f₀ hsome =>
      obtain ⟨hnew, v, hv, rfl⟩ := hadds
      by_cases hne : f.name = name
      · obtain rfl := eq_of_find?_name hshape hf hsome hne
        rw [hne, List.lookup_cons_self, Field.foundAs_some_iff] at hf'
        rw [hne, named_cons_of_eq hname, Field.foundAs_cons_iff]
        exact ⟨hnew, hf'.1, v, hv, hf'.2⟩
      · rw [lookup_cons_of_ne hne] at hf'
        rw [named_cons_of_ne hname hne]
        exact hf'

/-- Where what is to be found of each field can be told, members can be taken. -/
theorem exists_addsAll (hnames : ∀ e ∈ entries, e.name? ≠ none)
    (h : ∀ f ∈ shape, ∃ o, f.FoundAs (found.lookup f.name) (named f.name entries) o) :
    ∃ found', AddsAll shape found entries found' := by
  induction entries generalizing found with
  | nil => exact ⟨found, rfl⟩
  | cons e t ih =>
    obtain ⟨hname, ht⟩ := List.forall_mem_cons.mp hnames
    obtain ⟨name, hname⟩ := Option.ne_none_iff_exists'.mp hname
    cases hfind : shape.find? fun f => f.name == name with
    | none =>
      have hrest : ∀ f ∈ shape, ∃ o, f.FoundAs (found.lookup f.name) (named f.name t) o := by
        intro f hf
        have hne : f.name ≠ name := by simpa using List.find?_eq_none.mp hfind f hf
        rw [← named_cons_of_ne hname hne]
        exact h f hf
      obtain ⟨found', hall⟩ := ih ht hrest
      exact ⟨found', found, ⟨name, hname, by rw [hfind]⟩, hall⟩
    | some f₀ =>
      have hname₀ : f₀.name = name := by simpa using List.find?_some hfind
      obtain ⟨o, ho⟩ := h f₀ (List.mem_of_find?_eq_some hfind)
      rw [hname₀, named_cons_of_eq hname, Field.foundAs_cons_iff] at ho
      obtain ⟨hnew, hnil, v, hv, -⟩ := ho
      have hrest : ∀ f ∈ shape, ∃ o, f.FoundAs (List.lookup f.name ((name, v) :: found)) (named f.name t) o := by
        intro f hf
        by_cases hne : f.name = name
        · rw [hne, List.lookup_cons_self, hnil]
          exact ⟨_, .before _⟩
        · rw [lookup_cons_of_ne hne, ← named_cons_of_ne hname hne]
          exact h f hf
      obtain ⟨found', hall⟩ := ih ht hrest
      exact ⟨found', _, ⟨name, hname, by rw [hfind]; exact ⟨hnew, v, hv, rfl⟩⟩, hall⟩

/-- The values of a record are those that are found of its fields, or those for missing members. -/
theorem arrange_eq_ok_iff {values : List Value} :
    arrange found shape = .ok values ↔
      List.Forall₂ (fun f v => (found.lookup f.name).or f.fallback? = some v) shape values := by
  induction shape generalizing values with
  | nil =>
    rw [arrange, List.forall₂_nil_left_iff, Except.ok.injEq]
    exact eq_comm
  | cons f r ih =>
    rw [arrange]
    cases hv : (found.lookup f.name).or f.fallback? with
    | none =>
      refine iff_of_false (fun h => ?_) fun h => ?_
      · cases h
      · cases h with
        | cons hv' _ => cases hv.symm.trans hv'
    | some v =>
      simp only [map_eq_ok_iff, ih]
      constructor
      · rintro ⟨vs, hvs, rfl⟩
        exact .cons hv hvs
      · intro h
        cases h with
        | @cons _ v' _ vs hv' hvs =>
          cases hv.symm.trans hv'
          exact ⟨vs, hvs, rfl⟩

theorem forall₂_congr_of_mem {α β : Type} {P Q : α → β → Prop} {l : List α} {m : List β}
    (h : ∀ a ∈ l, ∀ b, P a b ↔ Q a b) : List.Forall₂ P l m ↔ List.Forall₂ Q l m := by
  induction l generalizing m with
  | nil => simp
  | cons a r ih =>
    obtain ⟨ha, hr⟩ := List.forall_mem_cons.mp h
    cases m with
    | nil => simp
    | cons b s => rw [List.forall₂_cons, List.forall₂_cons, ha b, ih hr]

end

/-! ## Records -/

theorem Reads.isValue {k : Kind} {v : List Char} {x : Value} (h : Reads k v x) : IsValue v := by
  cases h with
  | text hpieces _ => exact .string hpieces
  | flag b => exact .flag b

/-- Nothing is written for two values of one kind. -/
theorem Reads.unique {k : Kind} {v : List Char} {x y : Value} (hx : Reads k v x) (hy : Reads k v y) : x = y := by
  have hread {z : Value} (hz : Reads k v z) :
      takeValue k (encodeChars [] ++ (encodeChars v ++ [])) = .ok (z, []) :=
    (takeValue_eq_ok_iff hx.isValue isGapText_nil).mpr ⟨hz, rfl⟩
  cases (hread hx).symm.trans (hread hy)
  rfl

theorem Field.FoundAs.saidBy_iff {f : Field} {entries : List Entry} {o : Option Value} {v : Value}
    (h : f.FoundAs none (named f.name entries) o) : o.or f.fallback? = some v ↔ f.SaidBy entries v := by
  cases hnamed : named f.name entries with
  | nil =>
    rw [hnamed] at h
    cases h with
    | before =>
      constructor
      · exact fun hv => .missing hnamed hv
      · rintro (⟨honce, -⟩ | ⟨-, hv⟩)
        · cases hnamed.symm.trans honce
        · exact hv
  | cons e t =>
    rw [hnamed, Field.foundAs_cons_iff] at h
    obtain ⟨-, rfl, x, hx, rfl⟩ := h
    rw [Option.some_or, Option.some.injEq]
    constructor
    · rintro rfl
      exact .once hnamed hx
    · rintro (⟨honce, hv⟩ | ⟨hmissing, -⟩)
      · cases hnamed.symm.trans honce
        exact hx.unique hv
      · cases hnamed.symm.trans hmissing

theorem Field.SaidBy.foundAs {f : Field} {entries : List Entry} {v : Value} (h : f.SaidBy entries v) :
    ∃ o, f.FoundAs none (named f.name entries) o := by
  cases h with
  | once hnamed hv =>
    rw [hnamed]
    exact ⟨_, .now hv⟩
  | missing hnamed _ =>
    rw [hnamed]
    exact ⟨_, .before none⟩

/-- **A record is read from an object exactly as the members with the names of its fields say**, as long as all
names are texts. -/
theorem readRecord_objectChars_iff {shape : Shape} (hshape : (shape.map Field.name).Nodup)
    {lead gap trail : List Char} (hlead : IsGapText lead) (hgap : IsGapText gap) (htrail : IsGapText trail)
    {entries : List Entry} (h : ∀ e ∈ entries, e.Proper) {values : List Value} :
    readRecord shape (encode (String.ofList (lead ++ (objectChars gap entries ++ trail)))) = .ok values ↔
      (∀ e ∈ entries, e.name? ≠ none) ∧ List.Forall₂ (fun f v => f.SaidBy entries v) shape values := by
  have hsaid {found : Members} (hall : AddsAll shape [] entries found) :
      List.Forall₂ (fun f v => (found.lookup f.name).or f.fallback? = some v) shape values ↔
        List.Forall₂ (fun f v => f.SaidBy entries v) shape values :=
    forall₂_congr_of_mem fun f hf v => ((foundAs_of_addsAll hshape hall).2 f hf).saidBy_iff
  have htrail' : skipGaps (encodeChars trail) = [] := by
    have hgaps := skipGaps_gap htrail []
    rwa [List.append_nil] at hgaps
  rw [readRecord_eq_ok_iff, Text.Utf8.encode_ofList, encodeChars_append, encodeChars_append]
  simp only [takeFound_eq_ok_iff hlead hgap h, arrange_eq_ok_iff]
  constructor
  · rintro ⟨found, rest, ⟨hall, -⟩, -, hvalues⟩
    exact ⟨(foundAs_of_addsAll hshape hall).1, (hsaid hall).mp hvalues⟩
  · rintro ⟨hnames, hvalues⟩
    have hfound : ∀ f ∈ shape, ∃ o, f.FoundAs none (named f.name entries) o :=
      ((List.forall₂_and_left shape values).mp (hvalues.imp fun f v hv => ⟨hv.foundAs, hv⟩)).1
    obtain ⟨found, hall⟩ : ∃ found, AddsAll shape [] entries found := exists_addsAll hnames hfound
    exact ⟨found, _, ⟨hall, rfl⟩, htrail', (hsaid hall).mpr hvalues⟩

end SessionTokens.Json
