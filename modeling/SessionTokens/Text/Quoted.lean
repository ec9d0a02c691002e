import SessionTokens.Text.Hidden

/-!
# Quoted text

A text between double quotes, in which every character can be seen: the quote, the backslash and
characters without a visible form are written as escapes.
-/

namespace SessionTokens.Text.Quoted

/-- One character inside quotes. -/
def escape (c : Char) : List Char :=
  if c = '\t' then ['\\', 't']
  else if c = '\r' then ['\\', 'r']
  else if c = '\n' then ['\\', 'n']
  else if c = '\x00' then ['\\', '0']
  else if c = '"' || c = '\\' then ['\\', c]
  else if isHidden c then ['\\', 'u', '\x7b'] ++ Nat.toDigits 16 c.toNat ++ ['\x7d']
  else [c]

/-- The text between double quotes. -/
def quote (s : String) : String :=
  String.ofList ('"' :: s.toList.flatMap escape ++ ['"'])

end SessionTokens.Text.Quoted
