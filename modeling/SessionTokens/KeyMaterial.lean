import SessionTokens.Crypto.Envelope
import SessionTokens.Error
import SessionTokens.Text.Base64
import SessionTokens.Text.Blank
import SessionTokens.Text.Hex

/-!
# Key material

The forms in which an operator may write a key of 32 bytes: 64 hexadecimal digits, base64 in the
URL-safe alphabet without padding, base64 in the standard alphabet with padding, or a text of 32 bytes.
White space around it does not count.
-/

namespace SessionTokens

open Crypto (SealingKey)

/-- Why there is no key. -/
inductive KeyFault where
  /-- There is nothing but white space. -/
  | blank
  /-- The text is base64 for another number of bytes. -/
  | decodedLength (found : Nat)
  /-- The text has none of the four forms; the number of its bytes is given. -/
  | unrecognized (found : Nat)
  /-- Bytes that were given as a key are not 32. -/
  | keyLength (found : Nat)
deriving DecidableEq, Repr

/-- The wording of a fault. -/
def KeyFault.message : KeyFault → String
  | .blank => "key material is empty"
  | .decodedLength n => "base64 key decodes to " ++ toString n ++ " bytes, expected 32"
  | .unrecognized n =>
    "unrecognized key material: expected 32 bytes as 64 hex chars, base64 or raw text, got "
      ++ toString n ++ " chars"
  | .keyLength n => "invalid key size: must be exactly 32 bytes, got " ++ toString n

/-- The error of a service that is set up with something else than a key. -/
def KeyFault.toError (fault : KeyFault) : AuthError :=
  .configuration fault.message

namespace KeyMaterial

/-- The key of the given bytes. -/
def ofBytes (b : Bytes) : Except KeyFault SealingKey :=
  match SealingKey.ofBytes? b with
  | some key => .ok key
  | none => .error (.keyLength b.length)

/-- The bytes of 64 hexadecimal digits. -/
def hexBytes? (l : List Char) : Option Bytes :=
  if l.length = 64 then Text.Hex.decode? l else none

/-- The bytes of a text in one of the two forms of base64. -/
def base64Bytes? (l : List Char) : Option Bytes :=
  (Text.Base64.decode? Text.Base64.urlSafe l).or
    (Text.Base64.decodePadded? Text.Base64.standard l)

/-- Reads a key. -/
def read (raw : String) : Except KeyFault SealingKey :=
  let l := Text.trimChars raw.toList
  let bytes := Text.Utf8.encode (String.ofList l)
  if l = [] then .error .blank
  else
    match ((hexBytes? l).bind SealingKey.ofBytes?).or
        (((base64Bytes? l).bind SealingKey.ofBytes?).or (SealingKey.ofBytes? bytes)) with
    | some key => .ok key
    | none =>
      match base64Bytes? l with
      | some decoded => .error (.decodedLength decoded.length)
      | none => .error (.unrecognized bytes.length)

end KeyMaterial

namespace Crypto.SealingKey

/-- What is shown of a key where an operator looks at it. -/
def redacted : String := "TokenMaker \x7b key: \"<redacted>\" \x7d"

end Crypto.SealingKey

end SessionTokens
