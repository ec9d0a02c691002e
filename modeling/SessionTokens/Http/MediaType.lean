/-!
# Media types

Whether a content type says JSON: `application/json` or `application/` with the suffix `+json`, with
well-formed parameters or without. Case does not count.
-/

namespace SessionTokens.Http.MediaType

/-- The characters of a token: letters, digits and fifteen marks. -/
def isTokenChar (c : Char) : Bool :=
  c.isAlphanum || "!#$%&'*+-.^_`|~".toList.contains c

/-! ## Parameters -/

/-- Where a scan stands among the parameters. -/
inductive Place where
  /-- Behind a semicolon, where spaces may stand and a parameter may begin. -/
  | start
  /-- Inside a name. -/
  | name
  /-- Behind an equals sign. -/
  | value
  /-- Inside a value without quotes. -/
  | bare
  /-- Behind an opening quote. -/
  | opened
  /-- Inside a quoted value. -/
  | quoted
  /-- Behind a closing quote. -/
  | closed
deriving DecidableEq, Repr

/-- A character that a quoted value may hold. -/
def isQuotable (c : Char) : Bool :=
  31 < c.toNat && c.toNat != 127

/-- Reads one character. -/
def Place.step : Place → Char → Option Place
  | start, c => if c = ' ' then some start else if isTokenChar c then some name else none
  | name, c => if c = '=' then some value else if isTokenChar c then some name else none
  | value, c => if c = '"' then some opened else if isTokenChar c then some bare else none
  | bare, c => if c = ';' then some start else if isTokenChar c then some bare else none
  | opened, c => if isQuotable c then some quoted else none
  | quoted, c => if c = '"' then some closed else if isQuotable c then some quoted else none
  | closed, c => if c = ';' then some start else if c = ' ' then some closed else none

/-- The parameters may end here. -/
def Place.isEnd : Place → Bool
  | start | value | bare | closed => true
  | name | opened | quoted => false

/-- The parameters are well formed from a place on. -/
def parametersFrom (p : Place) : List Char → Bool
  | [] => p.isEnd
  | c :: r =>
    match p.step c with
    | some q => parametersFrom q r
    | none => false

/-! ## Types -/

/-- A subtype in its two parts: what stands before its last `+`, unless that is its first character, and
what stands behind it. -/
def splitSuffix (subtype : List Char) : List Char × Option (List Char) :=
  let suffix := (subtype.drop 1).reverse.takeWhile (· != '+')
  if suffix.length = (subtype.drop 1).length then (subtype, none)
  else (subtype.take (subtype.length - suffix.length - 1), some suffix.reverse)

/-- The characters of the word that stands for JSON. -/
def jsonWord : List Char := ['j', 's', 'o', 'n']

/-- Whether a content type says JSON. -/
def isJson (value : String) : Bool :=
  let l := value.toList.map Char.toLower
  let type := l.takeWhile (· != '/')
  let rest := (l.dropWhile (· != '/')).drop 1
  let subtype := rest.takeWhile (· != ';')
  let parameters := rest.dropWhile (· != ';')
  let (main, suffix?) := splitSuffix subtype
  type == "application".toList
    && subtype.all isTokenChar
    && (main == jsonWord || suffix? == some jsonWord)
    && (parameters.isEmpty || parametersFrom .start (parameters.drop 1))

end SessionTokens.Http.MediaType
