import SessionTokens.Proofs.Json.Strings
import SessionTokens.Proofs.Text.Blank
import SessionTokens.Proofs.Token.Acceptance

/-!
# How tokens are spelled

A token consists of letters, digits and three marks. So nothing is lost where the white space around a text
is taken away (`trim_of_payload`), and nothing is escaped where a token is written in a JSON text
(`length_text_ofContent`).
-/

namespace SessionTokens

open Crypto (SealingKey Nonce)
open Text (isBlank trim)
open Text.Utf8 (encodeChars)

/-! ## The characters of a token -/

namespace Token

section

variable {key : SealingKey} {nonce : Nonce} {content : Bytes}

/-- A token consists of the characters of its header and of symbols. -/
theorem mem_ofContent {c : Char} (h : c ∈ (ofContent key nonce content).toList) :
    c ∈ Crypto.Envelope.header.toList ∨ ∃ n < 64, Text.Base64.urlSafe.symbol n = c := by
  rw [ofContent, String.toList_append, String.toList_ofList] at h
  refine (List.mem_append.mp h).imp id fun h => ?_
  obtain ⟨n, hn, hsymbol⟩ := List.mem_map.mp h
  exact ⟨n, Text.Base64.sextets_lt _ n hn, hsymbol⟩

/-- What holds of the header and of every symbol holds of each character of a token. -/
theorem all_ofContent {P : Char → Bool} (hheader : Crypto.Envelope.header.toList.all P = true)
    (hsymbol : ∀ n < 64, P (Text.Base64.urlSafe.symbol n) = true) :
    (ofContent key nonce content).toList.all P = true := by
  refine List.all_eq_true.mpr fun c hc => ?_
  rcases mem_ofContent hc with hc | ⟨n, hn, rfl⟩
  · exact List.all_eq_true.mp hheader c hc
  · exact hsymbol n hn

theorem isBlank_of_mem : ∀ c ∈ (ofContent key nonce content).toList, isBlank c = false := by
  have hall : (ofContent key nonce content).toList.all (fun c => !isBlank c) = true :=
    all_ofContent (by decide) (by decide +kernel)
  simpa using hall

/-- In a JSON text, each character of a token is one byte. -/
theorem length_escape_of_mem :
    ∀ c ∈ (ofContent key nonce content).toList, (encodeChars (Json.escape c)).length = 1 := by
  have hall : (ofContent key nonce content).toList.all
      (fun c => (encodeChars (Json.escape c)).length == 1) = true :=
    all_ofContent (by decide) (by decide +kernel)
  simpa using hall

end

/-! ## White space around a token -/

section

variable {key : SealingKey} {token : String} {p : Payload}

/-- There is no white space around a token. -/
theorem trim_of_payload (h : payload key token = .ok p) : trim token = token := by
  obtain ⟨nonce, j, rfl, -⟩ := payload_eq_ok_iff.mp h
  exact Text.trim_of_isBlank isBlank_of_mem

theorem ne_empty_of_payload (h : payload key token = .ok p) : token ≠ "" := by
  obtain ⟨nonce, j, rfl, -⟩ := payload_eq_ok_iff.mp h
  intro hempty
  have hlist := congrArg String.toList hempty
  rw [ofContent, String.toList_append] at hlist
  exact absurd (List.append_eq_nil_iff.mp hlist).1 (by decide)

end

/-! ## The length of a token -/

variable (key : SealingKey) (nonce : Nonce) (content : Bytes)

theorem length_ofContent_le :
    (ofContent key nonce content).toList.length ≤ 137 + 2 * content.length := by
  have hwrap : (Crypto.Envelope.wrap key nonce content).length = 64 + content.length := by
    simp only [Crypto.Envelope.wrap, List.length_append, nonce.length_bytes,
      Crypto.Envelope.length_tag, Crypto.Envelope.length_cipher, Crypto.Envelope.tagLength]
    omega
  have hbody := Text.Base64.length_encode Text.Base64.urlSafe (Crypto.Envelope.wrap key nonce content)
  have hheader : Crypto.Envelope.header.toList.length = 9 := by decide
  rw [ofContent, String.toList_append, String.toList_ofList, List.length_append, hheader,
    hbody, hwrap]
  omega

/-- Nothing in a token is escaped in a JSON text. -/
theorem length_text_ofContent :
    (encodeChars (Json.text (ofContent key nonce content))).length
      = (ofContent key nonce content).toList.length + 2 := by
  have hone : ∀ c ∈ (ofContent key nonce content).toList,
      (encodeChars (Json.escape c)).length = 1 := length_escape_of_mem
  rw [Json.encodeChars_text, List.length_cons, List.length_append, encodeChars, List.flatMap_assoc,
    List.length_flatMap]
  simp only [encodeChars] at hone
  rw [List.map_congr_left hone, List.map_const', List.sum_replicate_nat, Nat.mul_one]
  rfl

end Token

end SessionTokens
