import SessionTokens.Proofs.Text.Base64
import SessionTokens.Token

/-!
# Which texts are tokens

A text is accepted under a key exactly if it was sealed under that key, holds a payload, and the
payload's time is not over. Each stage of the verification is described by what it lets through
(`envelope_eq_ok_iff`, `content_eq_ok_iff`, `payload_eq_ok_iff`); together they say that opening is the
inverse of sealing, so each nonce and text have one token and each token has one nonce and text.
-/

namespace SessionTokens

open Crypto (SealingKey Nonce)
open Time (Instant)

/-! ## Envelopes -/

namespace Crypto.Envelope

theorem hasRoom_wrap (key : SealingKey) (nonce : Nonce) (plaintext : Bytes) :
    HasRoom (wrap key nonce plaintext) := by
  have hn : nonce.bytes.length = nonceLength := nonce.length_bytes
  simp only [HasRoom, wrap, List.length_append, length_tag, hn]
  omega

/-- An envelope has one nonce and one plaintext. -/
theorem wrap_inj {key : SealingKey} {n m : Nonce} {a b : Bytes}
    (h : wrap key n a = wrap key m b) : n = m ∧ a = b := by
  obtain ⟨n, hn⟩ := n
  obtain ⟨m, hm⟩ := m
  -- both envelopes open to their plaintexts, and the nonces stand in front
  have hopen := unwrap?_wrap key ⟨n, hn⟩ a
  rw [h, unwrap?_wrap] at hopen
  have hbytes : n = m := (List.append_inj h (by rw [hn, hm])).1
  subst hbytes
  exact ⟨rfl, (Option.some.inj hopen).symm⟩

end Crypto.Envelope

namespace Token

open Crypto.Envelope (wrap unwrap? HasRoom header)

/-! ## What each stage lets through -/

theorem stripHeader?_eq_some_iff {token : String} {body : List Char} :
    stripHeader? token = some body ↔ token = header ++ String.ofList body := by
  unfold stripHeader?
  constructor
  · intro h
    simp only at h
    split at h
    · next ht =>
      rw [← Option.some.inj h, ← String.toList_inj, String.toList_append, String.toList_ofList]
      calc token.toList
          = token.toList.take header.toList.length ++ token.toList.drop header.toList.length :=
            (List.take_append_drop _ _).symm
        _ = header.toList ++ token.toList.drop header.toList.length := by rw [ht]
    · simp at h
  · rintro rfl
    simp [String.toList_append]

theorem envelope_eq_ok_iff {token : String} {b : Bytes} :
    envelope token = .ok b ↔
      HasRoom b ∧ token = header ++ String.ofList (Text.Base64.encode Text.Base64.urlSafe b) := by
  unfold envelope
  constructor
  · intro h
    split at h
    · simp at h
    · next body hbody =>
      split at h
      · simp at h
      · next e he =>
        split at h
        · next hroom =>
          cases h
          rw [Text.Base64.encode_of_decode? he]
          exact ⟨hroom, stripHeader?_eq_some_iff.mp hbody⟩
        · simp at h
  · rintro ⟨hroom, rfl⟩
    simp only [stripHeader?_eq_some_iff.mpr rfl,
      Text.Base64.decode?_encode Text.Base64.proper_urlSafe, if_pos hroom]

theorem content_eq_ok_iff {key : SealingKey} {token : String} {c : Bytes} :
    content key token = .ok c ↔ ∃ nonce, token = ofContent key nonce c := by
  unfold content
  constructor
  · intro h
    cases he : envelope token with
    | error e => simp [he, Except.bind] at h
    | ok b =>
      simp only [he, Except.bind] at h
      split at h
      · next c' hc =>
        cases h
        obtain ⟨nonce, rfl⟩ := Crypto.Envelope.eq_wrap_of_unwrap? hc
        exact ⟨nonce, (envelope_eq_ok_iff.mp he).2⟩
      · simp at h
  · rintro ⟨nonce, rfl⟩
    have he : envelope (ofContent key nonce c) = .ok (wrap key nonce c) :=
      envelope_eq_ok_iff.mpr ⟨Crypto.Envelope.hasRoom_wrap key nonce c, rfl⟩
    simp [he, Except.bind, Crypto.Envelope.unwrap?_wrap]

theorem payload_eq_ok_iff {key : SealingKey} {token : String} {p : Payload} :
    payload key token = .ok p ↔
      ∃ nonce j, token = ofContent key nonce (Text.Utf8.encode j) ∧
        Payload.ofJson? (Text.Utf8.encode j) = some p := by
  unfold payload
  constructor
  · intro h
    cases hc : content key token with
    | error e => simp [hc, Except.bind] at h
    | ok c =>
      simp only [hc, Except.bind] at h
      split at h
      · simp at h
      · next htext =>
        split at h
        · next p' hp =>
          cases h
          obtain ⟨j, hj⟩ := Option.ne_none_iff_exists'.mp (by simpa using htext)
          obtain ⟨nonce, rfl⟩ := content_eq_ok_iff.mp hc
          rw [← Text.Utf8.encode_of_decode? hj] at hp ⊢
          exact ⟨nonce, j, rfl, hp⟩
        · simp at h
  · rintro ⟨nonce, j, rfl, hj⟩
    simp [content_eq_ok_iff.mpr ⟨nonce, rfl⟩, Except.bind, hj]

/-! ## The verdict -/

theorem verify_eq_ok_iff {key : SealingKey} {token : String} {now : Instant} {p : Payload} :
    verify key token now = .ok p ↔ payload key token = .ok p ∧ now < p.expiredAt := by
  unfold verify
  rw [← Time.Instant.not_le]
  cases payload key token with
  | error e => simp
  | ok q =>
    simp only [Except.ok.injEq]
    by_cases hq : q.ExpiredAt now
    · rw [if_pos hq]
      refine ⟨fun h => by simp at h, ?_⟩
      rintro ⟨rfl, hn⟩
      exact absurd hq hn
    · rw [if_neg hq, Except.ok.injEq]
      refine ⟨?_, And.left⟩
      rintro rfl
      exact ⟨rfl, hq⟩

theorem verify_eq_tokenExpired_iff {key : SealingKey} {token : String} {now : Instant} :
    verify key token now = .error .tokenExpired ↔
      ∃ p, payload key token = .ok p ∧ p.expiredAt ≤ now := by
  unfold verify
  cases payload key token with
  | error e => simp
  | ok q =>
    simp only [Except.ok.injEq, exists_eq_left']
    split <;> simp_all

/-- The text is no token under the key: it is invalid at any time. -/
def Invalid (key : SealingKey) (token : String) : Prop :=
  ∀ now, ∃ reason, verify key token now = .error (.invalidToken reason)

theorem verify_eq_invalidToken_iff {key : SealingKey} {token : String} {now : Instant} :
    (∃ reason, verify key token now = .error (.invalidToken reason)) ↔
      ∀ p, payload key token ≠ .ok p := by
  unfold verify
  cases payload key token with
  | error e => simp
  | ok q =>
    simp only [ne_eq, Except.ok.injEq, forall_eq', iff_false, not_exists]
    intro reason
    split <;> simp

theorem invalid_iff {key : SealingKey} {token : String} :
    Invalid key token ↔ ∀ p, payload key token ≠ .ok p :=
  ⟨fun h => verify_eq_invalidToken_iff.mp (h Time.Instant.epoch),
    fun h _ => verify_eq_invalidToken_iff.mpr h⟩

/-! ## Sealed texts -/

/-- The text with the given nonce, ciphertext and tag behind the header. -/
def assemble (nonce ciphertext tag : Bytes) : String :=
  "v4.local." ++
    String.ofList (Text.Base64.encode Text.Base64.urlSafe (nonce ++ ciphertext ++ tag))

/-- The ciphertext of a text. -/
def ciphertext (key : SealingKey) (nonce : Nonce) (j : String) : Bytes :=
  Crypto.Envelope.cipher key nonce.bytes (Text.Utf8.encode j)

/-- The tag of the nonce and the ciphertext of a text. -/
def sealTag (key : SealingKey) (nonce : Nonce) (j : String) : Bytes :=
  Crypto.Envelope.tag key nonce.bytes (ciphertext key nonce j)

/-- The token is the text `j`, encrypted and tagged under the key with the nonce. -/
def Seals (key : SealingKey) (nonce : Nonce) (j token : String) : Prop :=
  token = assemble nonce.bytes (ciphertext key nonce j) (sealTag key nonce j)

theorem seals_iff {key : SealingKey} {nonce : Nonce} {j token : String} :
    Seals key nonce j token ↔ token = ofContent key nonce (Text.Utf8.encode j) := by
  simp only [Seals, assemble, ciphertext, sealTag, ofContent, wrap, header, List.append_assoc]

/-- A token has one nonce and one content. -/
theorem ofContent_inj {key : SealingKey} {n m : Nonce} {a b : Bytes}
    (h : ofContent key n a = ofContent key m b) : n = m ∧ a = b := by
  unfold ofContent at h
  rw [String.append_right_inj, String.ofList_inj] at h
  exact Crypto.Envelope.wrap_inj (Text.Base64.encode_inj Text.Base64.proper_urlSafe h)

/-! ## Texts that resemble a token -/

/-- A text without the header is no token. -/
theorem invalid_of_not_header {key : SealingKey} {other : String}
    (h : ¬"v4.local.".toList <+: other.toList) : Invalid key other := by
  rw [invalid_iff]
  intro p hp
  obtain ⟨nonce, j, rfl, -⟩ := payload_eq_ok_iff.mp hp
  refine h ?_
  rw [ofContent, String.toList_append]
  exact List.prefix_append _ _

/-- A text with a dot or a padding symbol behind the header is no token. -/
theorem invalid_of_mem {key : SealingKey} {body : List Char} {c : Char} (hc : c ∈ body)
    (hs : Text.Base64.urlSafe.value? c = none) :
    Invalid key ("v4.local." ++ String.ofList body) := by
  rw [invalid_iff]
  intro p hp
  obtain ⟨nonce, j, hj, -⟩ := payload_eq_ok_iff.mp hp
  unfold ofContent at hj
  rw [header, String.append_right_inj, String.ofList_inj] at hj
  have hread := Text.Base64.decode?_encode Text.Base64.proper_urlSafe
    (wrap key nonce (Text.Utf8.encode j))
  rw [← hj] at hread
  have := Text.Base64.isSome_value?_of_mem Text.Base64.proper_urlSafe hread hc
  simp [hs] at this

/-- A text that a tolerant reader takes for a token is that token or none. -/
theorem invalid_of_readLoosely? {key : SealingKey} {b : Bytes} {body : List Char}
    (hread : Text.Base64.readLoosely? Text.Base64.urlSafe body = some b)
    (hne : body ≠ Text.Base64.encode Text.Base64.urlSafe b) :
    Invalid key ("v4.local." ++ String.ofList body) := by
  rw [invalid_iff]
  intro p hp
  obtain ⟨nonce, j, hj, -⟩ := payload_eq_ok_iff.mp hp
  unfold ofContent at hj
  rw [header, String.append_right_inj, String.ofList_inj] at hj
  have hstrict := Text.Base64.decode?_encode Text.Base64.proper_urlSafe
    (wrap key nonce (Text.Utf8.encode j))
  rw [← hj] at hstrict
  have hloose := Text.Base64.readLoosely?_of_decode? Text.Base64.proper_urlSafe hstrict
  rw [hread] at hloose
  rw [Option.some.inj hloose] at hne
  exact hne hj

/-- Behind a nonce and a ciphertext there is one tag. -/
theorem invalid_of_ne_tag {key : SealingKey} {nonce : Nonce} {c t : Bytes}
    (hlen : t.length = 32) (hne : t ≠ Crypto.Envelope.tag key nonce.bytes c) :
    Invalid key (assemble nonce.bytes c t) := by
  rw [invalid_iff]
  intro p hp
  obtain ⟨m, j, hj, -⟩ := payload_eq_ok_iff.mp hp
  rw [← seals_iff, Seals, assemble, assemble, String.append_right_inj, String.ofList_inj] at hj
  have hbytes := Text.Base64.encode_inj Text.Base64.proper_urlSafe hj
  -- nonces and tags have fixed lengths, so both texts are cut at the same places
  rw [List.append_assoc, List.append_assoc] at hbytes
  obtain ⟨hnonce, hrest⟩ :=
    List.append_inj hbytes (nonce.length_bytes.trans m.length_bytes.symm)
  obtain ⟨hcipher, htag⟩ := List.append_inj' hrest
    (by rw [hlen, sealTag, Crypto.Envelope.length_tag]; rfl)
  rw [hcipher, hnonce] at hne
  exact hne htag

/-- The token is the only spelling of the text `j` sealed with the nonce: what resembles it is
invalid. -/
structure OnlySpelling (key : SealingKey) (nonce : Nonce) (j token : String) : Prop where
  pair_unique : ∀ nonce' j', Seals key nonce' j' token → nonce' = nonce ∧ j' = j
  token_unique : ∀ other, Seals key nonce j other → other = token
  /-- Another header, or none. -/
  header : ∀ other, ¬"v4.local.".toList <+: other.toList → Invalid key other
  /-- Padding, or bits left over that are not zero. -/
  body : ∀ body, Text.Base64.readLoosely? Text.Base64.urlSafe body =
      some (nonce.bytes ++ ciphertext key nonce j ++ sealTag key nonce j) →
    "v4.local." ++ String.ofList body ≠ token → Invalid key ("v4.local." ++ String.ofList body)
  /-- A footer behind the token. -/
  footer : ∀ footer, Invalid key (token ++ "." ++ footer)
  /-- Another tag. -/
  tag : ∀ tag, tag.length = 32 → tag ≠ sealTag key nonce j →
    Invalid key (assemble nonce.bytes (ciphertext key nonce j) tag)

theorem onlySpelling_of_seals {key : SealingKey} {nonce : Nonce} {j token : String}
    (h : Seals key nonce j token) : OnlySpelling key nonce j token where
  pair_unique := by
    intro nonce' j' h'
    obtain ⟨hn, hj⟩ := ofContent_inj ((seals_iff.mp h').symm.trans (seals_iff.mp h))
    exact ⟨hn, Text.Utf8.encode_inj hj⟩
  token_unique := fun _ h' => Eq.trans h' h.symm
  header := fun _ => invalid_of_not_header
  body := by
    intro body hread hne
    refine invalid_of_readLoosely? hread ?_
    rintro rfl
    exact hne h.symm
  footer := by
    intro footer
    obtain ⟨l, hl⟩ : ∃ l, token = "v4.local." ++ String.ofList l := ⟨_, h⟩
    have happ : token ++ "." ++ footer
        = "v4.local." ++ String.ofList (l ++ '.' :: footer.toList) := by
      rw [← String.toList_inj, hl]
      simp
    rw [happ]
    exact invalid_of_mem (c := '.') (by simp) (by decide)
  tag := fun _ => invalid_of_ne_tag

/-! ## The acceptance set -/

/-- **The verifier accepts exactly what was sealed under its key and is not over.** A text is accepted
with the payload that it was sealed over, before that payload's end; it counts as expired from then on;
every other text is invalid. Each nonce and text have one token, which has no other spelling. -/
theorem verify_exact (key : SealingKey) (token : String) :
    (∀ now p, verify key token now = .ok p ↔
      ∃ nonce j, Seals key nonce j token ∧ Payload.ofJson? (Text.Utf8.encode j) = some p ∧
        now < p.expiredAt) ∧
    (∀ now, verify key token now = .error .tokenExpired ↔
      ∃ nonce j p, Seals key nonce j token ∧ Payload.ofJson? (Text.Utf8.encode j) = some p ∧
        p.expiredAt ≤ now) ∧
    (∀ now, (∃ reason, verify key token now = .error (.invalidToken reason)) ↔
      ¬∃ nonce j p, Seals key nonce j token ∧ Payload.ofJson? (Text.Utf8.encode j) = some p) ∧
    (∀ nonce j, Seals key nonce j token → OnlySpelling key nonce j token) := by
  refine ⟨?accepted, ?expired, ?invalid, fun nonce j => onlySpelling_of_seals⟩
  case accepted =>
    intro now p
    rw [verify_eq_ok_iff, payload_eq_ok_iff]
    constructor
    · rintro ⟨⟨nonce, j, h, hp⟩, hnow⟩
      exact ⟨nonce, j, seals_iff.mpr h, hp, hnow⟩
    · rintro ⟨nonce, j, h, hp, hnow⟩
      exact ⟨⟨nonce, j, seals_iff.mp h, hp⟩, hnow⟩
  case expired =>
    intro now
    rw [verify_eq_tokenExpired_iff]
    simp only [payload_eq_ok_iff]
    constructor
    · rintro ⟨p, ⟨nonce, j, h, hp⟩, hnow⟩
      exact ⟨nonce, j, p, seals_iff.mpr h, hp, hnow⟩
    · rintro ⟨nonce, j, p, h, hp, hnow⟩
      exact ⟨p, ⟨nonce, j, seals_iff.mp h, hp⟩, hnow⟩
  case invalid =>
    intro now
    rw [verify_eq_invalidToken_iff]
    simp only [ne_eq, payload_eq_ok_iff]
    constructor
    · rintro h ⟨nonce, j, p, hj, hp⟩
      exact h p ⟨nonce, j, seals_iff.mp hj, hp⟩
    · rintro h p ⟨nonce, j, hj, hp⟩
      exact h ⟨nonce, j, p, seals_iff.mpr hj, hp⟩

/-- A text sealed over a payload of a quarter of an hour is accepted at its start, and not with a footer
behind it. -/
theorem verify_exact_quarterHour :
    let key : SealingKey := ⟨List.replicate 32 0, rfl⟩
    let nonce : Nonce := ⟨List.replicate 32 1, rfl⟩
    let j := "\x7b\"id\":\"00000000-0000-4000-8000-000000000000\",\"subject\":\"a\"," ++
      "\"issued_at\":\"1970-01-01T00:00:00Z\",\"expired_at\":\"1970-01-01T00:15:00Z\"\x7d"
    let token := assemble nonce.bytes (ciphertext key nonce j) (sealTag key nonce j)
    Seals key nonce j token ∧ (∃ p, verify key token Time.Instant.epoch = .ok p) ∧
      Invalid key (token ++ "." ++ "footer") := by
  intro key nonce j token
  have hseals : Seals key nonce j token := rfl
  have hread : (Payload.ofJson? (Text.Utf8.encode j)).any
      fun p => decide (Time.Instant.epoch < p.expiredAt) := by decide +kernel
  obtain ⟨p, hp, hnow⟩ := (Option.any_eq_true _ _).mp hread
  obtain ⟨haccepted, -, -, honly⟩ := verify_exact key token
  have hok := (haccepted .epoch p).mpr ⟨nonce, j, hseals, hp, by simpa using hnow⟩
  exact ⟨hseals, ⟨p, hok⟩, (honly nonce j hseals).footer "footer"⟩

end Token

end SessionTokens
