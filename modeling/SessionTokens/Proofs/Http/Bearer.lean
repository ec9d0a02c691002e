import SessionTokens.Http.Handlers
import SessionTokens.Proofs.Text.Blank
import SessionTokens.Proofs.Token.Spelling

/-!
# Where a bearer token stands

The value of an authorization header carries a token exactly if its first two fields are the word `bearer` in
any case and that token (`read_eq_ok_iff`). A request carries a token if the first of its authorization
headers does, and if that header is plain text (`bearerToken?_eq_some_iff`).
-/

namespace SessionTokens.Http

open Crypto (SealingKey)
open Text (AllBlank IsField EndsField nextField?_eq_some_iff)

/-! ## Values -/

namespace Bearer

/-- The first two fields of the value. -/
def Fields (value : String) (scheme token : List Char) : Prop :=
  ∃ lead gap rest, value.toList = lead ++ (scheme ++ (gap ++ (token ++ rest))) ∧
    AllBlank lead ∧ IsField scheme ∧ AllBlank gap ∧ gap ≠ [] ∧ IsField token ∧ EndsField rest

theorem fields_iff {value : String} {scheme token : List Char} :
    Fields value scheme token ↔ ∃ behind rest, Text.nextField? value.toList = some (scheme, behind) ∧
      Text.nextField? behind = some (token, rest) := by
  constructor
  · rintro ⟨lead, gap, rest, hvalue, hlead, hscheme, hgap, hne, htoken, hrest⟩
    have hends : EndsField (gap ++ (token ++ rest)) := by
      intro c hc
      cases gap with
      | nil => exact absurd rfl hne
      | cons d l => exact hgap c (by simp_all)
    exact ⟨_, rest, nextField?_eq_some_iff.mpr ⟨lead, hvalue, hlead, hscheme, hends⟩,
      nextField?_eq_some_iff.mpr ⟨gap, rfl, hgap, htoken, hrest⟩⟩
  · rintro ⟨behind, rest, hfirst, hsecond⟩
    obtain ⟨lead, hvalue, hlead, hscheme, hends⟩ := nextField?_eq_some_iff.mp hfirst
    obtain ⟨gap, rfl, hgap, htoken, hrest⟩ := nextField?_eq_some_iff.mp hsecond
    refine ⟨lead, gap, rest, hvalue, hlead, hscheme, hgap, ?_, htoken, hrest⟩
    -- without a gap the first field would go on
    rintro rfl
    obtain ⟨c, l, rfl⟩ := List.exists_cons_of_ne_nil htoken.1
    have hblank := hends c rfl
    rw [htoken.2 c List.mem_cons_self] at hblank
    cases hblank

/-- **A token is read exactly from a value whose first two fields are the word `bearer` and that token.** -/
theorem read_eq_ok_iff {value token : String} :
    read value = .ok token ↔
      ∃ scheme, Fields value scheme token.toList ∧ scheme.map Char.toLower = schemeWord := by
  simp only [fields_iff]
  constructor
  · intro h
    unfold read at h
    split at h
    · cases h
    · next scheme behind hfirst =>
      split at h
      · cases h
      · next field rest hsecond =>
        simp only at h
        split at h
        · next hscheme =>
          cases h
          exact ⟨scheme, ⟨behind, rest, hfirst, by rw [String.toList_ofList, hsecond]⟩, hscheme⟩
        · cases h
  · rintro ⟨scheme, ⟨behind, rest, hfirst, hsecond⟩, hscheme⟩
    unfold read
    simp only [hfirst, hsecond, hscheme, if_true, String.ofList_toList]

/-- The usual value for a token. -/
theorem fields_bearer {token : String} (h : IsField token.toList) :
    Fields ("Bearer " ++ token) ['B', 'e', 'a', 'r', 'e', 'r'] token.toList := by
  refine ⟨[], [' '], [], ?_, nofun, Text.isField_of_all (List.cons_ne_nil _ _) rfl,
    List.all_eq_true.mp rfl, List.cons_ne_nil _ _, h, nofun⟩
  rw [String.toList_append, List.append_nil]
  rfl

end Bearer

/-! ## Headers -/

/-- The first of the header fields with a name. -/
def FirstHeader (headers : List (String × String)) (name value : String) : Prop :=
  ∃ before spelled after, headers = before ++ (spelled, value) :: after ∧ sameName spelled name = true ∧
    ∀ h ∈ before, sameName h.1 name = false

/-- Visible ASCII, spaces and tabs. -/
def PlainText (value : String) : Prop :=
  ∀ c ∈ value.toList, c = '\t' ∨ (0x20 ≤ c.toNat ∧ c.toNat ≤ 0x7E)

theorem plainText_iff {value : String} : PlainText value ↔ isUsable value = true := by
  simp [PlainText, isUsable, List.all_eq_true]

theorem header?_eq_some_iff {headers : List (String × String)} {name value : String} :
    header? headers name = some value ↔ FirstHeader headers name value ∧ PlainText value := by
  rw [header?, Option.filter_eq_some_iff, Option.map_eq_some_iff, plainText_iff]
  refine and_congr_left fun _ => ?_
  constructor
  · rintro ⟨⟨spelled, value⟩, hfind, rfl⟩
    obtain ⟨hname, before, after, hheaders, hbefore⟩ := List.find?_eq_some_iff_append.mp hfind
    exact ⟨before, spelled, after, hheaders, hname, fun h hh => by simpa using hbefore h hh⟩
  · rintro ⟨before, spelled, after, hheaders, hname, hbefore⟩
    refine ⟨(spelled, value), List.find?_eq_some_iff_append.mpr ⟨hname, before, after, hheaders, ?_⟩, rfl⟩
    exact fun h hh => by simp [hbefore h hh]

/-! ## Tokens in headers -/

/-- The first authorization header is plain text, and its first two fields are the word `bearer` and the
token. -/
def Carries (headers : List (String × String)) (token : String) : Prop :=
  ∃ value scheme, FirstHeader headers "authorization" value ∧ PlainText value ∧
    Bearer.Fields value scheme token.toList ∧ scheme.map Char.toLower = Bearer.schemeWord

/-- The token that the headers carry, if they do. -/
def bearerToken? (headers : List (String × String)) : Option String :=
  (header? headers "authorization").bind fun value => (Bearer.read value).toOption

theorem bearerToken?_eq_some_iff {headers : List (String × String)} {token : String} :
    bearerToken? headers = some token ↔ Carries headers token := by
  have hread {value : String} :
      (Bearer.read value).toOption = some token ↔ Bearer.read value = .ok token := by
    cases Bearer.read value <;> simp [Except.toOption]
  simp only [bearerToken?, Option.bind_eq_some_iff, header?_eq_some_iff, hread, Bearer.read_eq_ok_iff]
  constructor
  · rintro ⟨value, ⟨hfirst, hplain⟩, scheme, hfields, hscheme⟩
    exact ⟨value, scheme, hfirst, hplain, hfields, hscheme⟩
  · rintro ⟨value, scheme, hfirst, hplain, hfields, hscheme⟩
    exact ⟨value, ⟨hfirst, hplain⟩, scheme, hfields, hscheme⟩

/-- A token that holds a payload can be carried. -/
theorem carries_of_payload {key : SealingKey} {headers : List (String × String)} {token : String}
    {p : Payload} (htoken : Token.payload key token = .ok p)
    (h : FirstHeader headers "authorization" ("Bearer " ++ token)) : Carries headers token := by
  have hne : token.toList ≠ [] := fun hnil =>
    Token.ne_empty_of_payload htoken (String.toList_inj.mp hnil)
  obtain ⟨nonce, j, rfl, -⟩ := Token.payload_eq_ok_iff.mp htoken
  have hplain : isUsable ("Bearer " ++ Token.ofContent key nonce (Text.Utf8.encode j)) = true := by
    rw [isUsable, String.toList_append, List.all_append, Bool.and_eq_true]
    exact ⟨by decide, Token.all_ofContent (by decide) (by decide +kernel)⟩
  exact ⟨_, _, h, plainText_iff.mpr hplain, Bearer.fields_bearer ⟨hne, Token.isBlank_of_mem⟩, rfl⟩

end SessionTokens.Http
