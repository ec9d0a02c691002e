import Mathlib.Data.List.Nodup
import SessionTokens.Http.Handlers
import SessionTokens.Proofs.Json.Records
import SessionTokens.Proofs.Token.Spelling

/-!
# Bodies with a refresh token

The text that is read from a body is that of its refresh token, and empty if there is none
(`readRefresh_eq_ok_iff`). The object with a refresh token is read as that token, whatever text it is
(`readRefresh_of_refreshBody`).
-/

namespace SessionTokens.Http

open Crypto (SealingKey)

/-! ## Reading -/

/-- The body holds the text as its refresh token, or no refresh token if the text is empty. -/
def Holds (body : Bytes) (text : String) : Prop :=
  ∃ found rest, Json.takeFound refreshShape body = .ok (found, rest) ∧ Json.skipGaps rest = [] ∧
    (found.lookup "refresh_token" = some (.text text) ∨
      found.lookup "refresh_token" = none ∧ text = "")

theorem arrange_refreshShape (found : Json.Members) :
    Json.arrange found refreshShape = .ok [(found.lookup "refresh_token").getD (.text "")] := by
  simp only [refreshShape, Json.arrange]
  cases found.lookup "refresh_token" <;> rfl

theorem decodeRefresh_eq_ok_iff {body : Bytes} {text : String} :
    decodeRefresh body = .ok text ↔ Holds body text := by
  have hread : decodeRefresh body = .ok text ↔ Json.readRecord refreshShape body = .ok [.text text] := by
    unfold decodeRefresh
    constructor
    · intro h
      split at h <;> simp_all
    · intro h
      simp only [h]
  have hheld {found : Json.Members} : [(found.lookup "refresh_token").getD (.text "")] = [.text text] ↔
      found.lookup "refresh_token" = some (.text text) ∨
        found.lookup "refresh_token" = none ∧ text = "" := by
    cases found.lookup "refresh_token" <;> simp [eq_comm]
  rw [hread, Json.readRecord_eq_ok_iff]
  simp only [arrange_refreshShape, Except.ok.injEq, hheld]
  rfl

/-- **What is read from a request is the refresh token in its body.** -/
theorem readRefresh_eq_ok_iff {r : Request} {text : String} :
    readRefresh r = .ok text ↔ (header? r.headers "content-type").any MediaType.isJson = true ∧
      r.body.length ≤ maxBodyLength ∧ Holds r.body text := by
  unfold readRefresh
  rw [← decodeRefresh_eq_ok_iff]
  cases (header? r.headers "content-type").any MediaType.isJson with
  | false => simp
  | true =>
    by_cases hlength : maxBodyLength < r.body.length
    · simp [hlength, Nat.not_le.mpr hlength]
    · simp [hlength, Nat.le_of_not_lt hlength]

/-! ## Writing -/

/-- The members of a body with the given refresh token. -/
def refreshMembers (token : String) : List Json.Member :=
  [({ name := "refresh_token", fallback? := some (.text "") }, .text token)]

/-- The body with the given refresh token. -/
def refreshBody (token : String) : Bytes :=
  Text.Utf8.encode (String.ofList (Json.object ((refreshMembers token).map Json.Member.written)))

theorem decodeRefresh_refreshBody (token : String) : decodeRefresh (refreshBody token) = .ok token := by
  have hfits : ∀ m ∈ refreshMembers token, m.Fits := by
    intro m hm
    rw [List.mem_singleton.mp hm]
    rfl
  have hshape : (refreshMembers token).map Prod.fst = refreshShape := rfl
  have hne : refreshMembers token ≠ [] := List.cons_ne_nil _ _
  have hread := Json.readRecord_object hne hfits (List.nodup_singleton _)
  rw [hshape, show (refreshMembers token).map Prod.snd = [.text token] from rfl] at hread
  unfold decodeRefresh refreshBody
  simp only [hread]

theorem readRefresh_of_refreshBody {r : Request} {token : String}
    (htype : (header? r.headers "content-type").any MediaType.isJson)
    (hlength : (refreshBody token).length ≤ maxBodyLength) (hbody : r.body = refreshBody token) :
    readRefresh r = .ok token := by
  rw [readRefresh_eq_ok_iff, hbody, ← decodeRefresh_eq_ok_iff]
  exact ⟨htype, hlength, decodeRefresh_refreshBody token⟩

theorem length_refreshBody (key : SealingKey) (nonce : Crypto.Nonce) (content : Bytes) :
    (refreshBody (Token.ofContent key nonce content)).length
      = (Token.ofContent key nonce content).toList.length + 20 := by
  let opening := '\x7b' :: (Json.text "refresh_token" ++ [':'])
  have hopening : (Text.Utf8.encodeChars opening).length = 17 := by decide
  have hclosing : (Text.Utf8.encodeChars ['\x7d']).length = 1 := by decide
  have hbody : refreshBody (Token.ofContent key nonce content)
      = Text.Utf8.encodeChars (opening ++ (Json.text (Token.ofContent key nonce content) ++ ['\x7d'])) := by
    rw [refreshBody, Text.Utf8.encode_ofList]
    simp only [refreshMembers, Json.Member.written, Json.Value.chars, Json.object, Json.members, opening,
      List.map_cons, List.map_nil, List.cons_append, List.append_assoc, List.nil_append]
  rw [hbody, Text.Utf8.encodeChars_append, Text.Utf8.encodeChars_append, List.length_append,
    List.length_append, hopening, hclosing, Token.length_text_ofContent]
  omega

/-- A token with up to a million bytes of content fits into a body. -/
theorem length_refreshBody_le (key : SealingKey) (nonce : Crypto.Nonce) {content : Bytes}
    (h : content.length ≤ 1000000) :
    (refreshBody (Token.ofContent key nonce content)).length ≤ maxBodyLength := by
  have htoken := Token.length_ofContent_le key nonce content
  rw [length_refreshBody, maxBodyLength]
  omega

end SessionTokens.Http
