import SessionTokens.Text.Hex

/-!
# Writing JSON

Compact texts. In strings only the quote, the backslash and the characters below U+0020 are escaped.
-/

namespace SessionTokens.Json

/-- One character inside a string. -/
def escape (c : Char) : List Char :=
  if c = '"' ∨ c = '\\' then ['\\', c]
  else if c = '\x08' then ['\\', 'b']
  else if c = '\t' then ['\\', 't']
  else if c = '\n' then ['\\', 'n']
  else if c = '\x0c' then ['\\', 'f']
  else if c = '\r' then ['\\', 'r']
  else if c.toNat < 0x20 then
    ['\\', 'u', '0', '0', Text.Hex.digit (c.toNat / 16), Text.Hex.digit (c.toNat % 16)]
  else [c]

/-- A string. -/
def text (s : String) : List Char :=
  '"' :: (s.toList.flatMap escape ++ ['"'])

/-- A truth value. -/
def flag (b : Bool) : List Char :=
  if b then ['t', 'r', 'u', 'e'] else ['f', 'a', 'l', 's', 'e']

/-- The members of an object with commas between them; their values are written already. -/
def members : List (String × List Char) → List Char
  | [] => []
  | [(name, value)] => text name ++ ':' :: value
  | (name, value) :: r => text name ++ ':' :: (value ++ ',' :: members r)

/-- An object. -/
def object (l : List (String × List Char)) : List Char :=
  '\x7b' :: (members l ++ ['\x7d'])

end SessionTokens.Json
