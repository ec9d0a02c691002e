import SessionTokens.Proofs.Json.Objects
import SessionTokens.Proofs.Token.Lifetime

/-!
# Payloads from any JSON text

A payload is read from an object by its four members alone, however the object is written, and whatever other
members it has (`decode_exact`). So a token that is sealed over such a text is verified like one over the text that
this library writes. Only a member whose name is no text is in the way (`decode_half_pair_name`).
-/

namespace SessionTokens

open Text.Utf8 (encode)
open Time (Instant)

/-! ## Members with texts -/

namespace Json

/-- The members say the text under the name: one of them alone has that name, and its value is a string that
denotes the text. -/
def Says (entries : List Entry) (name text : String) : Prop :=
  ∃ e pieces, named name entries = [e] ∧ AllProper pieces ∧ e.value = quoted pieces ∧ textOf? pieces = some text

theorem saidBy_text_iff {entries : List Entry} {name : String} {v : Value} :
    Field.SaidBy { name } entries v ↔ ∃ text, v = .text text ∧ Says entries name text := by
  constructor
  · rintro (⟨hnamed, hv⟩ | ⟨-, hv⟩)
    · rename_i e
      obtain ⟨value, hvalue⟩ : ∃ value, e.value = value := ⟨_, rfl⟩
      rw [hvalue] at hv
      cases hv with
      | @text pieces text hpieces htext => exact ⟨text, rfl, e, pieces, hnamed, hpieces, hvalue, htext⟩
    · cases hv
  · rintro ⟨text, rfl, e, pieces, hnamed, hpieces, hvalue, htext⟩
    exact .once hnamed (hvalue ▸ .text hpieces htext)

theorem says_piecesOf {entries : List Entry} {e : Entry} {name text : String} (hnamed : named name entries = [e])
    (hvalue : e.value = quoted (piecesOf text)) : Says entries name text :=
  ⟨e, _, hnamed, allProper_piecesOf text, hvalue, textOf?_piecesOf text⟩

/-- What members say does not depend on a member whose name is no text. -/
theorem Says.cons_nameless {entries : List Entry} {e : Entry} {name text : String} (h : Says entries name text)
    (he : e.name? = none) : Says (e :: entries) name text := by
  obtain ⟨e', pieces, hnamed, hrest⟩ := h
  refine ⟨e', pieces, ?_, hrest⟩
  rw [named, List.filter_cons_of_neg (by simp [he])]
  exact hnamed

/-- What members say under a name is said by one member alone. -/
theorem Says.length_named {entries : List Entry} {name text : String} (h : Says entries name text) :
    (named name entries).length = 1 := by
  obtain ⟨e, -, hnamed, -⟩ := h
  rw [hnamed]
  rfl

end Json

/-! ## Tokens -/

namespace Token

/-- Tokens that hold the same payload are verified alike. -/
theorem verify_congr {key : Crypto.SealingKey} {a b : String} (h : payload key a = payload key b) (now : Instant) :
    verify key a now = verify key b now := by
  rw [verify, verify, h]

/-- What is sealed over a text that is no payload is no token. -/
theorem invalid_of_ofJson?_eq_none {j : String} (h : Payload.ofJson? (encode j) = none) (key : Crypto.SealingKey)
    (nonce : Crypto.Nonce) : Invalid key (ofContent key nonce (encode j)) := by
  rw [invalid_iff]
  intro p hp
  obtain ⟨nonce', j', heq, hj'⟩ := payload_eq_ok_iff.mp hp
  rw [← (ofContent_inj heq).2, h] at hj'
  cases hj'

end Token

namespace Payload

open Json (Entry Says named)

/-- The members say the payload. -/
structure SaidBy (p : Payload) (entries : List Entry) : Prop where
  id : ∃ text, Says entries "id" text ∧ TokenId.ofChars? text.toList = some p.id
  subject : Says entries "subject" p.subject
  issuedAt : ∃ text, Says entries "issued_at" text ∧ Time.Lenient.read? text = some p.issuedAt
  expiredAt : ∃ text, Says entries "expired_at" text ∧ Time.Lenient.read? text = some p.expiredAt

/-! ## Values -/

theorem ofValues?_eq_some_iff {values : List Json.Value} {p : Payload} :
    ofValues? values = some p ↔ ∃ id issuedAt expiredAt,
      values = [.text id, .text p.subject, .text issuedAt, .text expiredAt] ∧
        TokenId.ofChars? id.toList = some p.id ∧ Time.Lenient.read? issuedAt = some p.issuedAt ∧
        Time.Lenient.read? expiredAt = some p.expiredAt := by
  constructor
  · intro h
    unfold ofValues? at h
    split at h
    · next id subject issuedAt expiredAt =>
      simp only [Option.bind_eq_bind, Option.bind_eq_some_iff, Option.pure_def, Option.some.injEq] at h
      obtain ⟨i, hi, s, hs, e, he, rfl⟩ := h
      exact ⟨id, issuedAt, expiredAt, rfl, hi, hs, he⟩
    · cases h
  · rintro ⟨id, issuedAt, expiredAt, rfl, hid, hissued, hexpired⟩
    simp only [ofValues?, hid, hissued, hexpired, Option.bind_eq_bind, Option.bind_some, Option.pure_def]

theorem ofJson?_eq_some_iff {b : Bytes} {p : Payload} :
    ofJson? b = some p ↔ ∃ values, Json.readRecord shape b = .ok values ∧ ofValues? values = some p := by
  unfold ofJson?
  cases Json.readRecord shape b <;> simp

theorem forall₂_shape_iff {entries : List Entry} {values : List Json.Value} :
    List.Forall₂ (fun f v => Json.Field.SaidBy f entries v) shape values ↔
      ∃ id subject issuedAt expiredAt, values = [.text id, .text subject, .text issuedAt, .text expiredAt] ∧
        Says entries "id" id ∧ Says entries "subject" subject ∧ Says entries "issued_at" issuedAt ∧
        Says entries "expired_at" expiredAt := by
  constructor
  · rintro (_ | ⟨hid, _ | ⟨hsubject, _ | ⟨hissued, _ | ⟨hexpired, ⟨⟩⟩⟩⟩⟩)
    obtain ⟨id, rfl, saysId⟩ := Json.saidBy_text_iff.mp hid
    obtain ⟨subject, rfl, saysSubject⟩ := Json.saidBy_text_iff.mp hsubject
    obtain ⟨issuedAt, rfl, saysIssued⟩ := Json.saidBy_text_iff.mp hissued
    obtain ⟨expiredAt, rfl, saysExpired⟩ := Json.saidBy_text_iff.mp hexpired
    exact ⟨id, subject, issuedAt, expiredAt, rfl, saysId, saysSubject, saysIssued, saysExpired⟩
  · rintro ⟨id, subject, issuedAt, expiredAt, rfl, hid, hsubject, hissued, hexpired⟩
    exact .cons (Json.saidBy_text_iff.mpr ⟨id, rfl, hid⟩)
      (.cons (Json.saidBy_text_iff.mpr ⟨subject, rfl, hsubject⟩)
        (.cons (Json.saidBy_text_iff.mpr ⟨issuedAt, rfl, hissued⟩)
          (.cons (Json.saidBy_text_iff.mpr ⟨expiredAt, rfl, hexpired⟩) .nil)))

theorem saidBy_iff {entries : List Entry} {p : Payload} :
    p.SaidBy entries ↔ ∃ values, List.Forall₂ (fun f v => Json.Field.SaidBy f entries v) shape values ∧
      ofValues? values = some p := by
  simp only [forall₂_shape_iff, ofValues?_eq_some_iff]
  constructor
  · rintro ⟨⟨id, hid, hid'⟩, hsubject, ⟨issuedAt, hissued, hissued'⟩, ⟨expiredAt, hexpired, hexpired'⟩⟩
    exact ⟨_, ⟨id, p.subject, issuedAt, expiredAt, rfl, hid, hsubject, hissued, hexpired⟩,
      id, issuedAt, expiredAt, rfl, hid', hissued', hexpired'⟩
  · rintro ⟨_, ⟨id, _, issuedAt, expiredAt, rfl, hid, hsubject, hissued, hexpired⟩, _, _, _, heq, hid', hissued',
      hexpired'⟩
    cases heq
    exact ⟨⟨id, hid, hid'⟩, hsubject, ⟨issuedAt, hissued, hissued'⟩, ⟨expiredAt, hexpired, hexpired'⟩⟩

/-! ## Any object -/

section

variable {lead gap trail : List Char} {entries : List Entry}

/-- A payload is read exactly if all names are texts and the members say it. -/
theorem ofJson?_objectChars_iff (hlead : Json.IsGapText lead) (hgap : Json.IsGapText gap)
    (htrail : Json.IsGapText trail) (h : ∀ e ∈ entries, e.Proper) {p : Payload} :
    ofJson? (encode (String.ofList (lead ++ (Json.objectChars gap entries ++ trail)))) = some p ↔
      (∀ e ∈ entries, e.name? ≠ none) ∧ p.SaidBy entries := by
  have hnodup : (shape.map Json.Field.name).Nodup := by decide
  simp only [ofJson?_eq_some_iff, saidBy_iff, Json.readRecord_objectChars_iff hnodup hlead hgap htrail h,
    and_assoc, exists_and_left]

/-- Nothing is read where the name of some member is no text. -/
theorem ofJson?_of_nameless (hlead : Json.IsGapText lead) (hgap : Json.IsGapText gap)
    (htrail : Json.IsGapText trail) (h : ∀ e ∈ entries, e.Proper) {e : Entry} (he : e ∈ entries)
    (hname : e.name? = none) :
    ofJson? (encode (String.ofList (lead ++ (Json.objectChars gap entries ++ trail)))) = none := by
  by_contra hsome
  obtain ⟨p, hp⟩ := Option.ne_none_iff_exists'.mp hsome
  exact ((ofJson?_objectChars_iff hlead hgap htrail h).mp hp).1 e he hname

theorem SaidBy.cons_nameless {p : Payload} (h : p.SaidBy entries) {e : Entry} (he : e.name? = none) :
    p.SaidBy (e :: entries) where
  id := h.id.imp fun _ ⟨hmember, hread⟩ => ⟨hmember.cons_nameless he, hread⟩
  subject := h.subject.cons_nameless he
  issuedAt := h.issuedAt.imp fun _ ⟨hmember, hread⟩ => ⟨hmember.cons_nameless he, hread⟩
  expiredAt := h.expiredAt.imp fun _ ⟨hmember, hread⟩ => ⟨hmember.cons_nameless he, hread⟩

/-- What says a payload says each of its members once. -/
theorem SaidBy.length_named {p : Payload} (h : p.SaidBy entries) :
    ∀ name ∈ ["id", "subject", "issued_at", "expired_at"], (named name entries).length = 1 := by
  obtain ⟨⟨_, hid, -⟩, hsubject, ⟨_, hissued, -⟩, ⟨_, hexpired, -⟩⟩ := h
  simp only [List.forall_mem_cons, List.not_mem_nil, false_implies, implies_true, and_true]
  exact ⟨hid.length_named, hsubject.length_named, hissued.length_named, hexpired.length_named⟩

/-- **A payload is read from the members that are named in it, and from nothing else.** Of an object however it is
written, with white space anywhere, its members in any order and with any escapes, and further members with any
values between them: a payload is read from it exactly if all names are texts and each of the four members of a
payload is there once and says what the payload says. If one of them is missing or there twice, nothing is read,
and no token sealed over the text is valid. Where the payload is read, every token sealed over the text is verified
like one that is sealed over the text that is written for the payload. -/
theorem decode_exact (hlead : Json.IsGapText lead) (hgap : Json.IsGapText gap) (htrail : Json.IsGapText trail)
    (h : ∀ e ∈ entries, e.Proper) (p : Payload) :
    let text := String.ofList (lead ++ (Json.objectChars gap entries ++ trail))
    (ofJson? (encode text) = some p ↔ (∀ e ∈ entries, e.name? ≠ none) ∧ p.SaidBy entries) ∧
    (∀ name ∈ ["id", "subject", "issued_at", "expired_at"], (named name entries).length ≠ 1 →
      ofJson? (encode text) = none ∧
        ∀ key nonce, Token.Invalid key (Token.ofContent key nonce (encode text))) ∧
    ((∀ e ∈ entries, e.name? ≠ none) → p.SaidBy entries → ∀ key nonce nonce' now,
      Token.verify key (Token.ofContent key nonce (encode text)) now
        = Token.verify key (Token.ofContent key nonce' (encode p.toJson)) now) := by
  intro text
  have hread {p : Payload} : ofJson? (encode text) = some p ↔ _ := ofJson?_objectChars_iff hlead hgap htrail h
  refine ⟨hread, fun name hname hlength => ?_, fun hnames hsaid key nonce nonce' now => ?_⟩
  · have hnone : ofJson? (encode text) = none := by
      by_contra hsome
      obtain ⟨q, hq⟩ := Option.ne_none_iff_exists'.mp hsome
      exact hlength ((hread.mp hq).2.length_named name hname)
    exact ⟨hnone, Token.invalid_of_ofJson?_eq_none hnone⟩
  · refine Token.verify_congr ?_ now
    rw [Token.payload_ofContent key nonce' p]
    exact Token.payload_eq_ok_iff.mpr ⟨nonce, text, rfl, hread.mpr ⟨hnames, hsaid⟩⟩

end

/-- The members of a payload in another order, with white space, escapes, and a member that is not known. -/
theorem decode_exact_rearranged :
    let entry (name value : List Json.Piece) : Entry := ⟨[], name, [], [' '], Json.quoted value, ['\n']⟩
    let id := entry [.unicode ['0', '0', '6', '9'], .plain 'd']
      (Json.piecesOf "07070707-0707-0707-0707-070707070707")
    let subject := entry (Json.piecesOf "subject") [.short '"' '"']
    let issued := entry (Json.piecesOf "issued_at") (Json.piecesOf "1970-01-01T00:00:00Z")
    let expired := entry (Json.piecesOf "expired_at") (Json.piecesOf "1970-01-01T00:15:00Z")
    let other : Entry :=
      { id with
        name := Json.piecesOf "v"
        value := Json.objectChars [] [{ id with value := ['n', 'u', 'l', 'l'] }] }
    let entries := [expired, other, subject, id, other, issued]
    let p : Payload :=
      { id := ⟨List.replicate 16 7, rfl⟩, subject := "\"", issuedAt := .epoch
        expiredAt := ⟨900, 0, by decide, by decide, by decide⟩ }
    ofJson? (encode (String.ofList (['\t'] ++ (Json.objectChars [' '] entries ++ [])))) = some p := by
  intro entry id subject issued expired other entries p
  have hother : other.Proper := by
    refine ⟨by decide, .object Json.isGapText_nil (by decide) fun e he => ?_⟩
    rw [List.mem_singleton.mp he]
    exact .null
  have h : ∀ e ∈ entries, e.Proper := by
    have hid : id.Proper := ⟨by decide, .string (Json.allProper_piecesOf _)⟩
    have hsubject : subject.Proper := ⟨by decide, .string (by decide)⟩
    have hissued : issued.Proper := ⟨by decide, .string (Json.allProper_piecesOf _)⟩
    have hexpired : expired.Proper := ⟨by decide, .string (Json.allProper_piecesOf _)⟩
    simp only [entries, List.forall_mem_cons]
    exact ⟨hexpired, hother, hsubject, hid, hother, hissued, fun e he => absurd he List.not_mem_nil⟩
  have hsaid : p.SaidBy entries :=
    { id := ⟨_, Json.says_piecesOf (e := id) rfl rfl, by decide +kernel⟩
      subject := ⟨subject, _, rfl, by decide, rfl, rfl⟩
      issuedAt := ⟨_, Json.says_piecesOf (e := issued) rfl rfl, by decide +kernel⟩
      expiredAt := ⟨_, Json.says_piecesOf (e := expired) rfl rfl, by decide +kernel⟩ }
  exact (decode_exact (by decide) (by decide) (by decide) h p).1.mpr ⟨by decide +kernel, hsaid⟩

/-- A member that no payload has is in the way too, if its name is no text: here it is half of a pair of
surrogates. The members say a payload, which is read as soon as that one is left out. -/
theorem decode_half_pair_name :
    let entry (name : List Json.Piece) (value : List Char) : Entry := ⟨[], name, [], [], value, []⟩
    let said (name value : String) : Entry := entry (Json.piecesOf name) (Json.quoted (Json.piecesOf value))
    let entries := [said "id" "07070707-0707-0707-0707-070707070707", said "subject" "alice",
      said "issued_at" "1970-01-01T00:00:00Z", said "expired_at" "1970-01-01T00:15:00Z"]
    let half := entry [.unicode ['d', '8', '0', '0']] ['n', 'u', 'l', 'l']
    let p : Payload :=
      { id := ⟨List.replicate 16 7, rfl⟩, subject := "alice", issuedAt := .epoch
        expiredAt := ⟨900, 0, by decide, by decide, by decide⟩ }
    (∀ e ∈ half :: entries, e.Proper) ∧ p.SaidBy (half :: entries) ∧
      ofJson? (encode (String.ofList (Json.objectChars [] entries))) = some p ∧
      ofJson? (encode (String.ofList (Json.objectChars [] (half :: entries)))) = none := by
  intro entry said entries half p
  have hentries : ∀ e ∈ entries, e.Proper := by
    have hsaid {name value : String} (hspaced : (said name value).Spaced) : (said name value).Proper :=
      ⟨hspaced, .string (Json.allProper_piecesOf value)⟩
    simp only [entries, List.forall_mem_cons]
    exact ⟨hsaid (by decide), hsaid (by decide), hsaid (by decide), hsaid (by decide),
      fun e he => absurd he List.not_mem_nil⟩
  have hproper : ∀ e ∈ half :: entries, e.Proper :=
    List.forall_mem_cons.mpr ⟨⟨by decide, .null⟩, hentries⟩
  have hsaid : p.SaidBy entries :=
    { id := ⟨_, Json.says_piecesOf rfl rfl, by decide +kernel⟩
      subject := Json.says_piecesOf rfl rfl
      issuedAt := ⟨_, Json.says_piecesOf rfl rfl, by decide +kernel⟩
      expiredAt := ⟨_, Json.says_piecesOf rfl rfl, by decide +kernel⟩ }
  have hgap : Json.IsGapText [] := Json.isGapText_nil
  have hnameless : half.name? = none := rfl
  -- no white space around the object
  have hbare (others : List Entry) : [] ++ (Json.objectChars [] others ++ []) = Json.objectChars [] others := by
    rw [List.nil_append, List.append_nil]
  rw [← hbare entries, ← hbare (half :: entries)]
  exact ⟨hproper, hsaid.cons_nameless hnameless,
    (ofJson?_objectChars_iff hgap hgap hgap hentries).mpr ⟨by decide +kernel, hsaid⟩,
    ofJson?_of_nameless hgap hgap hgap hproper List.mem_cons_self hnameless⟩

end Payload

end SessionTokens
