/-!
# Request targets

The path of a target in each of its four forms: a path with or without a query; a whole address with
scheme and authority; the asterisk; and an authority alone, which has no path.
-/

namespace SessionTokens.Http

/-- A character of a scheme: a letter, a digit or one of four marks. -/
def isSchemeChar (c : Char) : Bool :=
  c.isAlphanum || c == '+' || c == '-' || c == '.' || c == '~'

/-- What follows the scheme of an address. -/
def afterScheme? (l : List Char) : Option (List Char) :=
  match l.dropWhile isSchemeChar with
  | ':' :: '/' :: '/' :: r => some r
  | _ => none

/-- What stands in front of the query and the fragment. -/
def beforeQuery (l : List Char) : List Char :=
  l.takeWhile fun c => c != '?' && c != '#'

/-- What follows the authority of an address. -/
def afterAuthority (l : List Char) : List Char :=
  l.dropWhile fun c => c != '/' && c != '?' && c != '#'

/-- The path of a target. An address without a path has the path `/`. -/
def pathOf (target : String) : String :=
  let l := target.toList
  if l.head? = some '/' ∨ l = ['*'] then String.ofList (beforeQuery l)
  else
    match afterScheme? l with
    | none => ""
    | some r =>
      let path := beforeQuery (afterAuthority r)
      if path = [] then "/" else String.ofList path

end SessionTokens.Http
