import SessionTokens.Proofs.Http.Bearer
import SessionTokens.Proofs.Text.Fields
import SessionTokens.Proofs.Text.Hex

/-!
# What becomes of an authorization value

A value is told by its fields. With fewer than two of them it has no format, whatever they are; otherwise the first
field has to be the word `bearer`, in which small and capital letters of ASCII count for the same and no other
characters do, and the second one is the token (`message_read`). So the values that carry a token have a grammar
(`bearer_grammar`).
-/

namespace SessionTokens.Http.Bearer

open Text (AllBlank IsField EndsField)

/-! ## Letters of ASCII -/

/-- The small letter of a capital of ASCII, and every other character as it is. -/
def asciiLower (c : Char) : Char :=
  if 65 ≤ c.toNat ∧ c.toNat ≤ 90 then Char.ofNat (c.toNat + 32) else c

/-- The words are the same but for the case of letters of ASCII. -/
def SameWord (a b : List Char) : Prop :=
  a.map asciiLower = b.map asciiLower

instance (a b : List Char) : Decidable (SameWord a b) :=
  inferInstanceAs (Decidable (_ = _))

theorem toLower_eq_asciiLower (c : Char) : c.toLower = asciiLower c := by
  by_cases h : c.toNat < 128
  · exact Text.Hex.of_forall_ofNat (p := fun c => c.toLower = asciiLower c) (by decide) h
  · have hupper : ¬(65 ≤ c.toNat ∧ c.toNat ≤ 90) := by omega
    rw [Text.Hex.toLower_of_not_ascii h, asciiLower, if_neg hupper]

theorem map_toLower (l : List Char) : l.map Char.toLower = l.map asciiLower :=
  List.map_congr_left fun c _ => toLower_eq_asciiLower c

theorem sameWord_iff {scheme : List Char} :
    SameWord scheme "bearer".toList ↔ scheme.map Char.toLower = schemeWord := by
  have hword : "bearer".toList.map asciiLower = schemeWord := by decide
  rw [SameWord, hword, map_toLower]

/-! ## Values by their fields -/

/-- With one field or none there is no token. -/
theorem read_of_short {value : String} (h : (Text.fields value.toList).length < 2) :
    read value = .error .format := by
  unfold read
  cases hfirst : Text.nextField? value.toList with
  | none => rfl
  | some first =>
    cases hsecond : Text.nextField? first.2 with
    | none => simp only [hsecond]
    | some second =>
      rw [Text.fields_of_nextField? hfirst, Text.fields_of_nextField? hsecond] at h
      simp only [List.length_cons] at h
      omega

/-- With two fields or more, the first one decides. -/
theorem read_of_fields {value : String} {scheme token : List Char} {others : List (List Char)}
    (h : Text.fields value.toList = scheme :: token :: others) :
    read value = if SameWord scheme "bearer".toList then .ok (String.ofList token)
      else .error (.scheme (String.ofList (scheme.map asciiLower))) := by
  unfold read
  cases hfirst : Text.nextField? value.toList with
  | none =>
    rw [Text.fields_of_nextField?_none hfirst] at h
    cases h
  | some first =>
    rw [Text.fields_of_nextField? hfirst] at h
    cases hsecond : Text.nextField? first.2 with
    | none =>
      rw [Text.fields_of_nextField?_none hsecond] at h
      cases h
    | some second =>
      rw [Text.fields_of_nextField? hsecond] at h
      cases h
      simp only [hsecond, sameWord_iff, map_toLower]

theorem read_eq_format_iff {value : String} :
    read value = .error .format ↔ (Text.fields value.toList).length < 2 := by
  refine ⟨fun h => ?_, read_of_short⟩
  rcases hfields : Text.fields value.toList with _ | ⟨scheme, _ | ⟨token, others⟩⟩
  · exact Nat.zero_lt_two
  · exact Nat.one_lt_two
  · rw [read_of_fields hfields] at h
    split at h <;> cases h

/-- **What is told of a value depends on its first two fields alone.** -/
theorem message_read (value : String) :
    (read value).mapError Fault.message =
      match Text.fields value.toList with
      | scheme :: token :: _ =>
        if SameWord scheme "bearer".toList then .ok (String.ofList token)
        else .error ("unsupported authorization type " ++ String.ofList (scheme.map asciiLower))
      | _ => .error "invalid authorization header format" := by
  rcases hfields : Text.fields value.toList with _ | ⟨scheme, _ | ⟨token, others⟩⟩
  · rw [read_of_short (by simp [hfields])]
    rfl
  · rw [read_of_short (by simp [hfields])]
    rfl
  · rw [read_of_fields hfields]
    simp only
    split <;> rfl

/-! ## The grammar -/

/-- What stands behind a token does not count, once it is divided from it. -/
theorem read_bearer {token rest : String} (htoken : IsField token.toList) (hrest : EndsField rest.toList) :
    read ("Bearer " ++ token ++ rest) = .ok token := by
  refine read_eq_ok_iff.mpr ⟨['B', 'e', 'a', 'r', 'e', 'r'], ⟨[], [' '], rest.toList, ?_, List.forall_mem_nil _,
    Text.isField_of_all (List.cons_ne_nil _ _) rfl, List.all_eq_true.mp rfl, List.cons_ne_nil _ _, htoken, hrest⟩,
    by decide⟩
  rw [String.toList_append, String.toList_append, List.append_assoc]
  rfl

/-- **The values that carry a token, and what is told of the others.** A token is read exactly from a value that is
white space, if any, the word `bearer` in small and capital letters of ASCII, white space, and then the token as a
whole field, with nothing behind it or white space and anything. So it is neither empty nor does it hold white space,
and every such token can be carried behind `Bearer` and a space. A value with fewer than two fields has no format;
otherwise the first field is told as the type that is not supported, in lower case as far as it is ASCII. -/
theorem bearer_grammar (value : String) :
    (∀ token : String, read value = .ok token ↔
      ∃ lead scheme gap rest, value.toList = lead ++ (scheme ++ (gap ++ (token.toList ++ rest))) ∧
        AllBlank lead ∧ IsField scheme ∧ SameWord scheme "bearer".toList ∧ AllBlank gap ∧ gap ≠ [] ∧
        IsField token.toList ∧ EndsField rest) ∧
    (∀ token, read value = .ok token → token ≠ "" ∧ ∀ c ∈ token.toList, Text.isBlank c = false) ∧
    (∀ token rest : String, IsField token.toList → EndsField rest.toList →
      read ("Bearer " ++ token ++ rest) = .ok token) ∧
    (read value = .error .format ↔ (Text.fields value.toList).length < 2) ∧
    (read value).mapError Fault.message =
      match Text.fields value.toList with
      | scheme :: token :: _ =>
        if SameWord scheme "bearer".toList then .ok (String.ofList token)
        else .error ("unsupported authorization type " ++ String.ofList (scheme.map asciiLower))
      | _ => .error "invalid authorization header format" := by
  refine ⟨fun token => ⟨fun h => ?read, fun h => ?spelled⟩, fun token h => ?proper,
    fun token rest => read_bearer, read_eq_format_iff, message_read value⟩
  case read =>
    obtain ⟨scheme, ⟨lead, gap, rest, hvalue, hlead, hscheme, hgap, hne, htoken, hrest⟩, hword⟩ :=
      read_eq_ok_iff.mp h
    exact ⟨lead, scheme, gap, rest, hvalue, hlead, hscheme, sameWord_iff.mpr hword, hgap, hne, htoken, hrest⟩
  case spelled =>
    obtain ⟨lead, scheme, gap, rest, hvalue, hlead, hscheme, hword, hgap, hne, htoken, hrest⟩ := h
    exact read_eq_ok_iff.mpr
      ⟨scheme, ⟨lead, gap, rest, hvalue, hlead, hscheme, hgap, hne, htoken, hrest⟩, sameWord_iff.mp hword⟩
  case proper =>
    obtain ⟨scheme, ⟨lead, gap, rest, -, -, -, -, -, htoken, -⟩, -⟩ := read_eq_ok_iff.mp h
    refine ⟨?_, htoken.2⟩
    rintro rfl
    exact htoken.1 rfl

/-- An ideographic space stands in front, a line separator and a no-break space behind the word, and the token is
followed by a tab; a capital beta is no letter of the word, nor is its case looked at. -/
theorem bearer_grammar_exotic :
    read "\u3000bEaReR\u2028\u00a0a.b\tc" = .ok "a.b" ∧ read ("Bearer " ++ "a.b" ++ "\tc") = .ok "a.b" ∧
      (read "\u0392eaRER a.b").mapError Fault.message
        = .error "unsupported authorization type \u0392earer" := by
  have hfield : IsField "a.b".toList := Text.isField_of_all (by decide) (by decide)
  have htab : EndsField "\tc".toList := by
    intro c hc
    cases hc
    decide
  obtain ⟨hread, -, hcarried, -, -⟩ := bearer_grammar "\u3000bEaReR\u2028\u00a0a.b\tc"
  obtain ⟨-, -, -, -, htold⟩ := bearer_grammar "\u0392eaRER a.b"
  refine ⟨(hread "a.b").mpr ⟨['\u3000'], "bEaReR".toList, ['\u2028', '\u00a0'], "\tc".toList, ?_⟩,
    hcarried "a.b" "\tc" hfield htab, ?_⟩
  · refine ⟨by decide, List.all_eq_true.mp (by decide), Text.isField_of_all (by decide) (by decide), by decide,
      List.all_eq_true.mp (by decide), by decide, hfield, htab⟩
  · rw [htold]
    decide

end SessionTokens.Http.Bearer
