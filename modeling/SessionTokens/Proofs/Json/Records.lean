import SessionTokens.Json.Record
import SessionTokens.Proofs.Json.Strings

/-!
# Records are read back

An object with the members of a shape, written in their order, is read as the values that were written
(`readRecord_object`). Each reader takes the part that was written for it and leaves the rest alone; a run
over the members collects them in reverse.
-/

namespace SessionTokens.Json

open Text.Utf8 (encode encodeChars encodeChars_cons encodeChars_append encodeChars_nil)

/-! ## Values -/

/-- The kind of a value. -/
def Value.kind : Value → Kind
  | .text _ => .text
  | .flag _ => .flag

/-- The characters that are written for a value. -/
def Value.chars : Value → List Char
  | .text s => Json.text s
  | .flag b => Json.flag b

theorem skipGaps_cons {b : UInt8} {r : Bytes} (h : isGap b = false) : skipGaps (b :: r) = b :: r :=
  List.dropWhile_cons_of_neg (by simp [h])

theorem takeWord?_append (word rest : Bytes) : takeWord? word (word ++ rest) = some rest := by
  simp [takeWord?]

/-- A value is read back from what was written for it. -/
theorem takeValue_chars (v : Value) (rest : Bytes) :
    takeValue v.kind (encodeChars v.chars ++ rest) = .ok (v, rest) := by
  cases v with
  | text s =>
    rw [Value.chars, encodeChars_text, List.cons_append, List.append_assoc, List.singleton_append]
    rw [Value.kind, takeValue, skipGaps_cons (by decide), takeTextValue, if_pos rfl,
      takeText?_text]
  | flag b =>
    cases b with
    | true =>
      have hword : encodeChars (flag true) = trueWord := by decide
      rw [Value.chars, hword, Value.kind, takeValue]
      rw [show skipGaps (trueWord ++ rest) = trueWord ++ rest from skipGaps_cons (by decide)]
      simp only [takeFlagValue, takeWord?_append]
    | false =>
      have hword : encodeChars (flag false) = falseWord := by decide
      have hne : takeWord? trueWord (falseWord ++ rest) = none := by
        rw [show trueWord = [0x74, 0x72, 0x75, 0x65] by decide,
          show falseWord = [0x66, 0x61, 0x6C, 0x73, 0x65] by decide]
        simp [takeWord?]
      rw [Value.chars, hword, Value.kind, takeValue]
      rw [show skipGaps (falseWord ++ rest) = falseWord ++ rest from skipGaps_cons (by decide)]
      simp only [takeFlagValue, hne, takeWord?_append]

/-! ## Members -/

theorem takeName_text (name : String) (rest : Bytes) :
    takeName (encodeChars (text name) ++ rest) = .ok (name, rest) := by
  rw [encodeChars_text, List.cons_append, List.append_assoc, List.singleton_append, takeName,
    skipGaps_cons (by decide)]
  simp only [if_true, takeText?_text]

theorem takeColon_cons (rest : Bytes) : takeColon (0x3A :: rest) = .ok rest := by
  rw [takeColon, skipGaps_cons (by decide)]
  rfl

/-- A field of the record with its value. -/
abbrev Member := Field × Value

namespace Member

/-- The value is of the field's kind. -/
def Fits (m : Member) : Prop :=
  m.2.kind = m.1.kind

/-- The name, and what is written for the value. -/
def written (m : Member) : String × List Char :=
  (m.1.name, m.2.chars)

/-- The name and the value. -/
def found (m : Member) : String × Value :=
  (m.1.name, m.2)

end Member

theorem encodeChars_colon (l : List Char) : encodeChars (':' :: l) = 0x3A :: encodeChars l := by
  rw [encodeChars_cons]
  rfl

/-- A member of the shape that was not found yet is taken. -/
theorem takeMember_written {shape : Shape} {found : Members} {m : Member}
    (hshape : shape.find? (fun f => f.name == m.1.name) = some m.1) (hfits : m.Fits)
    (hnew : found.lookup m.1.name = none) (rest : Bytes) :
    takeMember shape found (encodeChars (text m.1.name ++ ':' :: m.2.chars) ++ rest)
      = .ok (m.found :: found, rest) := by
  rw [encodeChars_append, encodeChars_colon, List.append_assoc, List.cons_append, takeMember,
    takeName_text]
  simp only [hshape, hnew]
  rw [← hfits, takeColon_cons, Except.bind, takeValue_chars]
  rfl

section

variable {shape : Shape} {found next : Members} {l m r : Bytes}

/-- Behind a member and a comma the members go on. -/
theorem takeMembers_comma (h : takeMember shape found l = .ok (next, m)) (hm : skipGaps m = 0x2C :: r) :
    takeMembers shape found l = takeMembers shape next r := by
  rw [takeMembers]
  split
  · next he => simp [h] at he
  · next f rest he =>
    obtain ⟨rfl, rfl⟩ := Prod.mk.inj (Except.ok.inj (h.symm.trans he))
    split
    · next hr => simp [hm] at hr
    · next b s hr =>
      obtain ⟨rfl, rfl⟩ := List.cons.inj (hm.symm.trans hr)
      rw [if_pos rfl]

/-- Behind a member and a brace there are no more. -/
theorem takeMembers_brace (h : takeMember shape found l = .ok (next, m)) (hm : skipGaps m = 0x7D :: r) :
    takeMembers shape found l = .ok (next, r) := by
  rw [takeMembers]
  split
  · next he => simp [h] at he
  · next f rest he =>
    obtain ⟨rfl, rfl⟩ := Prod.mk.inj (Except.ok.inj (h.symm.trans he))
    split
    · next hr => simp [hm] at hr
    · next b s hr =>
      obtain ⟨rfl, rfl⟩ := List.cons.inj (hm.symm.trans hr)
      rw [if_neg (by decide), if_pos rfl]

theorem takeMembers_of_error {e : Fault} (h : takeMember shape found l = .error e) :
    takeMembers shape found l = .error e := by
  rw [takeMembers]
  split
  · next he => exact he ▸ h
  · next he => cases h.symm.trans he

end

/-- **The members of an object are collected as they were written.** -/
theorem takeMembers_written {shape : Shape} :
    ∀ (ms : List Member) (found : Members) (rest : Bytes), ms ≠ [] →
      (∀ m ∈ ms, shape.find? (fun f => f.name == m.1.name) = some m.1 ∧ m.Fits) →
      (ms.map fun m => m.1.name).Nodup → (∀ m ∈ ms, found.lookup m.1.name = none) →
      takeMembers shape found (encodeChars (members (ms.map Member.written)) ++ 0x7D :: rest)
        = .ok ((ms.map Member.found).reverse ++ found, rest)
  | [], _, _, hne, _, _, _ => absurd rfl hne
  | [m], found, rest, _, hms, _, hnew => by
    obtain ⟨hshape, hfits⟩ := hms m List.mem_cons_self
    exact takeMembers_brace
      (takeMember_written hshape hfits (hnew m List.mem_cons_self) (0x7D :: rest)) (skipGaps_cons (by decide))
  | m :: n :: ms, found, rest, _, hms, hnd, hnew => by
    obtain ⟨hshape, hfits⟩ := hms m List.mem_cons_self
    obtain ⟨hm, hnd⟩ := List.nodup_cons.mp hnd
    have hchars : encodeChars (members ((m :: n :: ms).map Member.written)) ++ 0x7D :: rest
        = encodeChars (text m.1.name ++ ':' :: m.2.chars)
          ++ 0x2C :: (encodeChars (members ((n :: ms).map Member.written)) ++ 0x7D :: rest) := by
      have hcomma : String.utf8EncodeChar ',' = [0x2C] := by decide
      simp [Member.written, members, hcomma]
    rw [hchars, takeMembers_comma (takeMember_written hshape hfits (hnew m List.mem_cons_self) _)
      (skipGaps_cons (by decide))]
    rw [takeMembers_written (n :: ms) (m.found :: found) rest (by simp)
      (fun k hk => hms k (List.mem_cons_of_mem m hk)) hnd]
    · simp
    · -- a later member has another name than this one
      intro k hk
      have hne : k.1.name ≠ m.1.name := by
        intro he
        exact hm (List.mem_map.mpr ⟨k, hk, he⟩)
      rw [List.lookup_cons, show (k.1.name == m.found.1) = false from beq_eq_false_iff_ne.mpr hne]
      exact hnew k (List.mem_cons_of_mem m hk)

/-! ## Whole records -/

/-- A field is found by its name, if no other field has it. -/
theorem find?_name {l : List Member} (h : (l.map fun m => m.1.name).Nodup) {m : Member} (hm : m ∈ l) :
    (l.map Prod.fst).find? (fun f => f.name == m.1.name) = some m.1 := by
  induction l with
  | nil => simp at hm
  | cons k r ih =>
    obtain ⟨hk, hr⟩ := List.nodup_cons.mp h
    rw [List.map_cons, List.find?_cons]
    rcases List.mem_cons.mp hm with rfl | hm
    · simp
    · have hne : k.1.name ≠ m.1.name := by
        intro he
        exact hk (List.mem_map.mpr ⟨m, hm, he.symm⟩)
      rw [show (k.1.name == m.1.name) = false from beq_eq_false_iff_ne.mpr hne]
      exact ih hr hm

/-- A value is found by its name, if no other member has it. -/
theorem lookup_of_mem {l : Members} (h : (l.map Prod.fst).Nodup) {name : String} {v : Value}
    (hm : (name, v) ∈ l) : l.lookup name = some v := by
  induction l with
  | nil => simp at hm
  | cons p r ih =>
    obtain ⟨hp, hr⟩ := List.nodup_cons.mp h
    rw [List.lookup_cons]
    rcases List.mem_cons.mp hm with rfl | hm
    · simp
    · have hne : name ≠ p.1 := by
        rintro rfl
        exact hp (List.mem_map.mpr ⟨_, hm, rfl⟩)
      rw [show (name == p.1) = false from beq_eq_false_iff_ne.mpr hne]
      exact ih hr hm

/-- Values that were found under the names of the fields come in the order of the fields. -/
theorem arrange_of_lookup {found : Members} {ms : List Member}
    (h : ∀ m ∈ ms, found.lookup m.1.name = some m.2) :
    arrange found (ms.map Prod.fst) = .ok (ms.map Prod.snd) := by
  induction ms with
  | nil => rfl
  | cons m r ih =>
    rw [List.map_cons, arrange, h m List.mem_cons_self, Option.some_or]
    simp only [ih fun k hk => h k (List.mem_cons_of_mem m hk), Except.map, List.map_cons]

/-- Takes the members of an object or the elements of an array, by the names of their fields. -/
def takeFound (shape : Shape) (l : Bytes) : Except Fault (Members × Bytes) :=
  match skipGaps l with
  | [] => .error .malformed
  | b :: r =>
    if b = 0x7B then takeObject shape r
    else if b = 0x5B then takeElements true r shape
    else .error (wrongKind (b :: r))

/-- **The values of a record are those that were found in it**, and fallbacks for those that were not. -/
theorem readRecord_eq_ok_iff {shape : Shape} {l : Bytes} {values : List Value} :
    readRecord shape l = .ok values ↔ ∃ found rest, takeFound shape l = .ok (found, rest) ∧
      skipGaps rest = [] ∧ arrange found shape = .ok values := by
  have htake : takeRecord shape l = (takeFound shape l).bind fun taken =>
      (arrange taken.1 shape).map fun values => (values, taken.2) := by
    unfold takeRecord takeFound
    cases skipGaps l <;> rfl
  rw [readRecord, htake]
  constructor
  · intro h
    cases hfound : takeFound shape l with
    | error e =>
      rw [hfound] at h
      cases h
    | ok taken =>
      obtain ⟨found, rest⟩ := taken
      cases harrange : arrange found shape with
      | error e => simp [hfound, harrange, Except.bind, Except.map] at h
      | ok values' =>
        simp only [hfound, harrange, Except.bind, Except.map] at h
        split at h
        · next hrest => exact ⟨found, rest, rfl, hrest, harrange.trans h⟩
        · cases h
  · rintro ⟨found, rest, hfound, hrest, harrange⟩
    simp only [hfound, harrange, hrest, Except.bind, Except.map, if_true]

/-- An object that is not empty begins with the name of its first member. -/
theorem takeObject_written {shape : Shape} {ms : List Member} (hne : ms ≠ []) (rest : Bytes) :
    takeObject shape (encodeChars (members (ms.map Member.written)) ++ rest)
      = takeMembers shape [] (encodeChars (members (ms.map Member.written)) ++ rest) := by
  have hquote : ∃ r, encodeChars (members (ms.map Member.written)) ++ rest = 0x22 :: r := by
    match ms, hne with
    | [m], _ => simp [members, Member.written, encodeChars_text]
    | m :: n :: r, _ => simp [members, Member.written, encodeChars_text]
  obtain ⟨r, hr⟩ := hquote
  rw [hr, takeObject, skipGaps_cons (by decide)]
  exact if_neg (by decide)

/-- **A record is read back from the object that was written for it.** -/
theorem readRecord_object {ms : List Member} (hne : ms ≠ []) (hfits : ∀ m ∈ ms, m.Fits)
    (hnd : (ms.map fun m => m.1.name).Nodup) :
    readRecord (ms.map Prod.fst) (encode (String.ofList (object (ms.map Member.written))))
      = .ok (ms.map Prod.snd) := by
  have hchars : encode (String.ofList (object (ms.map Member.written)))
      = 0x7B :: (encodeChars (members (ms.map Member.written)) ++ [0x7D]) := by
    have hopen : String.utf8EncodeChar '\x7b' = [0x7B] := by decide
    have hclose : String.utf8EncodeChar '\x7d' = [0x7D] := by decide
    rw [Text.Utf8.encode_ofList]
    simp [object, hopen, hclose]
  have hmembers := takeMembers_written ms [] [] hne
    (fun m hm => ⟨find?_name hnd hm, hfits m hm⟩) hnd (fun _ _ => rfl)
  rw [List.append_nil] at hmembers
  have harrange : arrange (ms.map Member.found).reverse (ms.map Prod.fst) = .ok (ms.map Prod.snd) := by
    refine arrange_of_lookup fun m hm => lookup_of_mem ?_ ?_
    · rw [List.map_reverse, List.map_map]
      exact List.pairwise_reverse.mpr (hnd.imp Ne.symm)
    · exact List.mem_reverse.mpr (List.mem_map.mpr ⟨m, hm, rfl⟩)
  -- the members are found in reverse, and are put in the order of the shape again
  rw [hchars, readRecord, takeRecord, skipGaps_cons (by decide)]
  simp only [if_true, takeObject_written hne, hmembers, Except.bind, harrange, Except.map]
  rfl

/-- A record is read back if its members are of the kinds that the shape asks for. -/
theorem readRecord_written {shape : Shape} {ms : List Member} (hne : ms ≠ [])
    (hshape : ms.map Prod.fst = shape)
    (hkinds : ms.map (fun m => m.2.kind) = shape.map Field.kind)
    (hnames : (shape.map Field.name).Nodup) :
    readRecord shape (encode (String.ofList (object (ms.map Member.written))))
      = .ok (ms.map Prod.snd) := by
  subst hshape
  rw [List.map_map] at hkinds hnames
  exact readRecord_object hne (List.map_inj_left.mp hkinds) hnames

end SessionTokens.Json
