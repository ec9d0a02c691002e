import SessionTokens.Payload
import SessionTokens.Proofs.Json.Records
import SessionTokens.Proofs.Time.Printer
import SessionTokens.Proofs.TokenId.Roundtrip

/-!
# Payloads are read back

The JSON text of a payload is read as that payload (`ofJson?_toJson`), whatever its subject and its moments
are: the members by the record reader, and then each member in its own notation.
-/

namespace SessionTokens.Payload

/-! ## Members -/

/-- The fields of a payload with their values. -/
def written (p : Payload) : List Json.Member :=
  [({ name := "id" }, .text p.id.toText), ({ name := "subject" }, .text p.subject),
    ({ name := "issued_at" }, .text p.issuedAt.toText),
    ({ name := "expired_at" }, .text p.expiredAt.toText)]

theorem toJson_eq (p : Payload) :
    p.toJson = String.ofList (Json.object (p.written.map Json.Member.written)) := rfl

theorem readRecord_toJson (p : Payload) :
    Json.readRecord shape (Text.Utf8.encode p.toJson) = .ok (p.written.map Prod.snd) := by
  rw [toJson_eq]
  exact Json.readRecord_written (List.cons_ne_nil _ _) rfl rfl (by decide)

/-- The values of a payload's members make up that payload. -/
theorem ofValues?_written (p : Payload) : ofValues? (p.written.map Prod.snd) = some p := by
  show ofValues? [.text p.id.toText, .text p.subject, .text p.issuedAt.toText,
    .text p.expiredAt.toText] = some p
  simp only [ofValues?, TokenId.ofChars?_toText, Time.Lenient.read?_toText, Option.bind_eq_bind,
    Option.bind_some, Option.pure_def]

/-! ## Whole payloads -/

/-- **A payload is read back from its JSON text.** -/
theorem ofJson?_toJson (p : Payload) : ofJson? (Text.Utf8.encode p.toJson) = some p := by
  rw [ofJson?, readRecord_toJson]
  exact ofValues?_written p

end SessionTokens.Payload
