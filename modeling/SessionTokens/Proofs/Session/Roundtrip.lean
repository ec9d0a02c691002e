import SessionTokens.Proofs.Payload.Roundtrip
import SessionTokens.Session.Basic

/-!
# Sessions and clients are read back

The JSON text of a session is read as that session and the one of a client as that client, like the one of a
payload. So no value is lost in its text, and whatever text a value was read from, its own text settles it
(`json_lossless`).
-/

namespace SessionTokens

/-! ## Sessions -/

namespace Session

/-- The fields of a session with their values. -/
def written (s : Session) : List Json.Member :=
  [({ name := "id" }, .text s.id.toText), ({ name := "subject" }, .text s.subject),
    ({ name := "refresh_token" }, .text s.refreshToken),
    ({ name := "user_agent" }, .text s.userAgent), ({ name := "client_ip" }, .text s.clientIp),
    ({ name := "is_blocked", kind := .flag }, .flag s.isBlocked),
    ({ name := "expires_at" }, .text s.expiresAt.toText),
    ({ name := "created_at" }, .text s.createdAt.toText)]

theorem toJson_eq (s : Session) :
    s.toJson = String.ofList (Json.object (s.written.map Json.Member.written)) := rfl

theorem readRecord_toJson (s : Session) :
    Json.readRecord shape (Text.Utf8.encode s.toJson) = .ok (s.written.map Prod.snd) := by
  rw [toJson_eq]
  exact Json.readRecord_written (List.cons_ne_nil _ _) rfl rfl (by decide)

/-- The values of a session's members make up that session. -/
theorem ofValues?_written (s : Session) : ofValues? (s.written.map Prod.snd) = some s := by
  show ofValues? [.text s.id.toText, .text s.subject, .text s.refreshToken, .text s.userAgent,
    .text s.clientIp, .flag s.isBlocked, .text s.expiresAt.toText, .text s.createdAt.toText] = some s
  simp only [ofValues?, TokenId.ofChars?_toText, Time.Lenient.read?_toText, Option.bind_eq_bind,
    Option.bind_some, Option.pure_def]

/-- **A session is read back from its JSON text.** -/
theorem ofJson?_toJson (s : Session) : ofJson? (Text.Utf8.encode s.toJson) = some s := by
  rw [ofJson?, readRecord_toJson]
  exact ofValues?_written s

end Session

/-! ## Clients -/

namespace Client

/-- The fields of a client with their values. -/
def written (c : Client) : List Json.Member :=
  [({ name := "user_agent" }, .text c.userAgent), ({ name := "client_ip" }, .text c.ip)]

theorem toJson_eq (c : Client) :
    c.toJson = String.ofList (Json.object (c.written.map Json.Member.written)) := rfl

theorem readRecord_toJson (c : Client) :
    Json.readRecord shape (Text.Utf8.encode c.toJson) = .ok (c.written.map Prod.snd) := by
  rw [toJson_eq]
  exact Json.readRecord_written (List.cons_ne_nil _ _) rfl rfl (by decide)

/-- **A client is read back from its JSON text.** -/
theorem ofJson?_toJson (c : Client) : ofJson? (Text.Utf8.encode c.toJson) = some c := by
  rw [ofJson?, readRecord_toJson]
  rfl

end Client

/-! ## Nothing is lost -/

/-- What is written is read back, and what was read from any text is written as a text that is read as
the same value and written in the same way again. -/
structure Lossless {α : Type} (write : α → String) (read? : Bytes → Option α) : Prop where
  read_write : ∀ a, read? (Text.Utf8.encode (write a)) = some a
  write_inj : ∀ a b, write a = write b → a = b
  settles : ∀ text a, read? text = some a →
    (read? (Text.Utf8.encode (write a))) = some a ∧
      (read? (Text.Utf8.encode (write a))).map write = some (write a)

theorem Lossless.of_read_write {α : Type} {write : α → String} {read? : Bytes → Option α}
    (h : ∀ a, read? (Text.Utf8.encode (write a)) = some a) : Lossless write read? where
  read_write := h
  write_inj a b hab := by
    have ha := h a
    rw [hab, h b] at ha
    exact (Option.some.inj ha).symm
  settles text a _ := ⟨h a, congrArg (Option.map write) (h a)⟩

/-- **JSON texts lose nothing.** Every payload, session and client is read back from its text, whatever its
identifier, its texts and its moments are; so no two of them have the same text, and whatever text one of
them was read from, its own text is read as the same value and written again as it is. -/
theorem json_lossless :
    Lossless Payload.toJson Payload.ofJson? ∧ Lossless Session.toJson Session.ofJson? ∧
      Lossless Client.toJson Client.ofJson? :=
  ⟨.of_read_write Payload.ofJson?_toJson, .of_read_write Session.ofJson?_toJson,
    .of_read_write Client.ofJson?_toJson⟩

/-- Elements in an array, an escape, a leap second in a year of five digits and more than nine digits of a
fraction are read, and written in the one way in which they are read back. -/
example :
    (Payload.ofJson? (Text.Utf8.encode ("[\"0123456789ABCDEF0123456789abcdef\", \"\\u0041\", "
      ++ "\"+12016 - 2 - 1t0:59:60.1230000009 utc\", \"0 -1-1 0:0:0z\"]"))).map Payload.toJson
      = some ("\x7b\"id\":\"01234567-89ab-cdef-0123-456789abcdef\",\"subject\":\"A\","
        ++ "\"issued_at\":\"+12016-02-01T00:59:60.123Z\",\"expired_at\":\"0000-01-01T00:00:00Z\"\x7d") := by
  decide +kernel

end SessionTokens
