import SessionTokens.Proofs.Token.Lifetime

/-!
# What tokens take from the stream

A creation of a token takes its identifier and its nonce from the next 48 bytes of the stream, or fails and takes
nothing (`Creation.rest_eq`). Creations that follow one another on a stream take bytes apart from each other's
(`Linked.pairwise_apart`), and nothing is left between them (`Linked.eq`).
-/

namespace SessionTokens

open Crypto (SealingKey Nonce)
open Time (Instant Span)

/-! ## The bytes of a token -/

/-- The token has its identifier and its nonce from the bytes of the stream from an index on. -/
structure IssuedToken.TakenFrom (key : SealingKey) (s : ByteStream) (start : Nat) (i : IssuedToken) : Prop where
  id : i.payload.id.bytes = TokenId.markRandom (s.segment start 16)
  /-- The payload is sealed with the nonce. -/
  sealed : ∃ nonce : Nonce, nonce.bytes = s.segment (start + 16) 32 ∧
    i.text = Token.ofContent key nonce (Text.Utf8.encode i.payload.toJson)
  /-- What is behind the header of the text begins with the nonce. -/
  body : ∃ envelope, Token.envelope i.text = .ok envelope ∧ envelope.take 32 = s.segment (start + 16) 32

/-- The envelope of a token begins with the nonce that it is sealed with. -/
theorem Token.envelope_ofContent (key : SealingKey) (nonce : Nonce) (content : Bytes) :
    ∃ envelope, Token.envelope (Token.ofContent key nonce content) = .ok envelope ∧
      envelope.take 32 = nonce.bytes :=
  ⟨_, Token.envelope_eq_ok_iff.mpr ⟨Crypto.Envelope.hasRoom_wrap key nonce content, rfl⟩,
    List.take_left' nonce.length_bytes⟩

/-- A segment is the bytes of the stream, wherever the stream stands. -/
theorem ByteStream.segment_congr {s s' : ByteStream} (h : s.byte = s'.byte) (start count : Nat) :
    s.segment start count = s'.segment start count := by
  rw [segment, segment, h]

/-! ## Creations -/

/-- The tokens in an answer, of which there are none in an error. -/
def tokensIn {α : Type} (tokens : α → List IssuedToken) : Except AuthError α → List IssuedToken
  | .ok a => tokens a
  | .error _ => []

/-- What a token is created for, and the stream that is there for it. -/
structure Creation where
  subject : String
  duration : Span
  moment : Instant
  random : ByteStream

namespace Creation

/-- The token, or why there is none. -/
def result (key : SealingKey) (c : Creation) : Except AuthError IssuedToken :=
  (Token.issue key c.subject c.duration c.moment c.random).1

/-- The stream as the creation leaves it. -/
def rest (key : SealingKey) (c : Creation) : ByteStream :=
  (Token.issue key c.subject c.duration c.moment c.random).2

/-- The token that is made, if one is. -/
def tokens (key : SealingKey) (c : Creation) : List IssuedToken :=
  tokensIn (fun i => [i]) (c.result key)

/-- There is no subject, or the expiry is out of range. -/
def Refused (c : Creation) : Prop :=
  c.subject = "" ∨ c.moment.add? c.duration = none

instance (c : Creation) : Decidable c.Refused :=
  inferInstanceAs (Decidable (_ ∨ _))

/-- The creation takes the byte at the index. -/
def Takes (key : SealingKey) (c : Creation) (n : Nat) : Prop :=
  c.random.position ≤ n ∧ n < (c.rest key).position

variable {key : SealingKey} {c : Creation}

theorem result_of_refused (key : SealingKey) (h : c.Refused) :
    (∃ e, c.result key = .error e) ∧ c.rest key = c.random := by
  unfold result rest
  by_cases hsubject : c.subject = ""
  · rw [Token.issue_of_empty hsubject]
    exact ⟨⟨_, rfl⟩, rfl⟩
  · rw [Token.issue_of_none hsubject (h.resolve_left hsubject)]
    exact ⟨⟨_, rfl⟩, rfl⟩

theorem result_of_not_refused (key : SealingKey) (h : ¬c.Refused) : ∃ i, c.result key = .ok i := by
  obtain ⟨expiry, hexpiry⟩ := Option.ne_none_iff_exists'.mp fun hnone => h (.inr hnone)
  obtain ⟨i, hi, -⟩ := Token.issue_of_some key c.random (fun hempty => h (.inl hempty)) hexpiry
  exact ⟨i, hi⟩

theorem rest_of_ok {i : IssuedToken} (h : c.result key = .ok i) :
    c.rest key = { c.random with position := c.random.position + 48 } :=
  (Token.drawn_of_issue h).2

/-- A creation takes 48 bytes for the token that it makes. -/
theorem rest_eq (key : SealingKey) (c : Creation) :
    c.rest key = { c.random with position := c.random.position + 48 * (c.tokens key).length } := by
  unfold tokens
  by_cases h : c.Refused
  · obtain ⟨⟨e, he⟩, hrest⟩ := result_of_refused key h
    rw [hrest, he]
    rfl
  · obtain ⟨i, hi⟩ := result_of_not_refused key h
    rw [rest_of_ok hi, hi]
    rfl

theorem takenFrom_of_ok {s : ByteStream} {i : IssuedToken} (hs : c.random.byte = s.byte)
    (h : c.result key = .ok i) : i.TakenFrom key s c.random.position := by
  have htext := Token.text_of_issue h
  have hnonce : (Nonce.random (TokenId.random c.random).2).1.bytes = s.segment (c.random.position + 16) 32 :=
    ByteStream.segment_congr hs _ _
  refine ⟨?id, ⟨_, hnonce, htext⟩, ?body⟩
  case id =>
    rw [(Token.drawn_of_issue h).1, ← ByteStream.segment_congr hs]
    rfl
  case body =>
    rw [htext, ← hnonce]
    exact Token.envelope_ofContent _ _ _

end Creation

/-! ## Creations on one stream -/

/-- The creations follow one another from the first stream to the second: each has the stream that the one before
leaves, and nothing else is taken. -/
inductive Linked (key : SealingKey) : ByteStream → List Creation → ByteStream → Prop where
  /-- Where nothing is created, nothing is taken. -/
  | nil (s : ByteStream) : Linked key s [] s
  /-- What is left by the first creation is there for the others. -/
  | cons {c : Creation} {cs : List Creation} {s : ByteStream} (h : Linked key (c.rest key) cs s) :
      Linked key c.random (c :: cs) s

namespace Linked

variable {key : SealingKey} {s s' s'' : ByteStream} {cs cs' : List Creation}

theorem append (h : Linked key s cs s') (h' : Linked key s' cs' s'') : Linked key s (cs ++ cs') s'' := by
  induction h with
  | nil => exact h'
  | cons _ ih => exact .cons (ih h')

/-- The second stream is the first one, used up to 48 bytes further for each token. -/
theorem eq (h : Linked key s cs s') :
    s' = { s with position := s.position + 48 * (cs.flatMap (Creation.tokens key)).length } := by
  induction h with
  | nil => rfl
  | @cons c cs s' _ ih =>
    rw [ih, c.rest_eq, List.flatMap_cons, List.length_append, Nat.mul_add, Nat.add_assoc]

/-- Whatever is created is created from the bytes of the stream, from its place on. -/
theorem of_mem (h : Linked key s cs s') {c : Creation} (hc : c ∈ cs) :
    c.random.byte = s.byte ∧ s.position ≤ c.random.position := by
  induction h with
  | nil => cases hc
  | @cons d cs s' _ ih =>
    rcases List.mem_cons.mp hc with rfl | hc
    · exact ⟨rfl, Nat.le_refl _⟩
    · obtain ⟨hbyte, hposition⟩ := ih hc
      rw [d.rest_eq] at hbyte hposition
      exact ⟨hbyte, Nat.le_of_add_right_le hposition⟩

/-- **No two creations take the same byte.** -/
theorem pairwise_apart (h : Linked key s cs s') :
    cs.Pairwise fun c d => ∀ n, ¬(c.Takes key n ∧ d.Takes key n) := by
  induction h with
  | nil => exact .nil
  | cons hrest ih =>
    -- whatever comes later begins where the first one ends
    refine .cons (fun d hd n ⟨hfirst, hlater⟩ => ?_) ih
    exact Nat.lt_irrefl n (Nat.lt_of_lt_of_le hfirst.2 (Nat.le_trans (hrest.of_mem hd).2 hlater.1))

end Linked

end SessionTokens
