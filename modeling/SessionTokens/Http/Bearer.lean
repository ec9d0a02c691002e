import SessionTokens.Text.Blank

/-!
# Bearer tokens

The value of an authorization header: the word `bearer` in any case, white space, and the token. What
follows the token does not count.
-/

namespace SessionTokens.Http.Bearer

/-- Why there is no token. -/
inductive Fault where
  /-- There is no header. -/
  | missing
  /-- The value has fewer than two fields. -/
  | format
  /-- The first field is another word. -/
  | scheme (lowered : String)
deriving DecidableEq, Repr

/-- The wording of a fault. -/
def Fault.message : Fault → String
  | .missing => "missing authorization header"
  | .format => "invalid authorization header format"
  | .scheme lowered => "unsupported authorization type " ++ lowered

/-- The word in front of a token. -/
def schemeWord : List Char := ['b', 'e', 'a', 'r', 'e', 'r']

/-- The token in the value of an authorization header. -/
def read (value : String) : Except Fault String :=
  match Text.nextField? value.toList with
  | none => .error .format
  | some (scheme, rest) =>
    match Text.nextField? rest with
    | none => .error .format
    | some (token, _) =>
      let lowered := scheme.map Char.toLower
      if lowered = schemeWord then .ok (String.ofList token)
      else .error (.scheme (String.ofList lowered))

end SessionTokens.Http.Bearer
