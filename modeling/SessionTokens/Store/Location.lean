import SessionTokens.Store.Opening
import SessionTokens.Text.Quoted

/-!
# Where the table of sessions is kept

The database that a URL names, and the parameters behind the question mark that say how it is opened.
The table is created when the database is opened, so a database that may only be read is of no use.
-/

namespace SessionTokens

/-- A database and how it is opened. -/
structure Location where
  name : String
  /-- There is a single connection to the database. -/
  single : Bool := false
  readOnly : Bool := false
  inMemory : Bool := false
  /-- What is read is shared by the connections. -/
  sharedCache : Bool := false
  /-- Nobody else changes the database. -/
  immutable : Bool := false
  /-- The file system that the database is opened by, if it is told. -/
  fileSystem? : Option String := none
deriving DecidableEq, Repr

/-- Why there is no table of sessions. -/
inductive LocationFault where
  /-- The name is no text. -/
  | name (fault : Text.Utf8.Fault)
  | unknownValue (parameter value : String)
  | unknownParameter (parameter : String)
  /-- The name has a character that ends names. -/
  | nulCharacter
  /-- The database cannot be opened, or the table cannot be set up in it. -/
  | opening (fault : OpeningFault)
deriving DecidableEq, Repr

/-! ## Wording -/

/-- What kind of fault it is, in words. -/
def LocationFault.area : LocationFault → String
  | .name _ | .unknownValue _ _ | .unknownParameter _ => "error with configuration"
  | .nulCharacter => "error communicating with database"
  | .opening _ => "error returned from database"

/-- What the fault is, in words. -/
def LocationFault.cause : LocationFault → String
  | .name fault => fault.message
  | .unknownValue parameter value =>
    "unknown value " ++ Text.Quoted.quote value ++ " for `" ++ parameter ++ "`"
  | .unknownParameter parameter =>
    "unknown query parameter `" ++ parameter ++ "` while parsing connection URL"
  | .nulCharacter => "filename passed to SQLite must not contain nul bytes"
  | .opening fault => fault.message

/-- The wording of a fault. The cause is told with its area and once more by itself. -/
def LocationFault.message (fault : LocationFault) : String :=
  fault.area ++ ": " ++ fault.cause ++ ": " ++ fault.cause

namespace Location

/-! ## Reading -/

/-- Drops a word as often as it stands in front. -/
def dropRepeated (word l : List Char) : List Char :=
  if word ≠ [] ∧ l.take word.length = word then dropRepeated word (l.drop word.length) else l
termination_by l.length
decreasing_by
  next h =>
    have hw := List.length_pos_iff.2 h.1
    have hl := congrArg List.length h.2
    simp only [List.length_take] at hl
    simp only [List.length_drop]
    omega

/-- What stands behind the scheme of a URL. -/
def withoutScheme (url : String) : List Char :=
  dropRepeated "sqlite:".toList (dropRepeated "sqlite://".toList url.toList)

/-- Whether a word stands somewhere in a text. -/
def mentions (word : List Char) : List Char → Bool
  | [] => word.isEmpty
  | c :: r => word.isPrefixOf (c :: r) || mentions word r

/-- Reads the name of a database, in which bytes may be escaped. -/
def readName (l : List Char) : Except LocationFault String :=
  match Text.Utf8.read (Text.UrlEncoded.decode (Text.Utf8.encode (String.ofList l))) with
  | .ok name => .ok name
  | .error fault => .error (.name fault)

/-- Sets a parameter. A database in memory shares what is read, until a later parameter says otherwise. -/
def set (l : Location) (parameter value : String) : Except LocationFault Location :=
  if parameter = "mode" then
    if value = "ro" then .ok { l with readOnly := true }
    else if value ∈ ["rw", "rwc"] then .ok l
    else if value = "memory" then .ok { l with inMemory := true, sharedCache := true }
    else .error (.unknownValue parameter value)
  else if parameter = "cache" then
    if value = "private" then .ok { l with sharedCache := false }
    else if value = "shared" then .ok { l with sharedCache := true }
    else .error (.unknownValue parameter value)
  else if parameter = "immutable" then
    if value ∈ ["true", "1"] then .ok { l with immutable := true }
    else if value ∈ ["false", "0"] then .ok { l with immutable := false }
    else .error (.unknownValue parameter value)
  else if parameter = "vfs" then .ok { l with fileSystem? := some value }
  else .error (.unknownParameter parameter)

/-- Reads a URL. The first parameter with a fault decides. A URL that mentions a database in memory is
given a single connection, so that it stays the same database. -/
def ofUrl (url : String) : Except LocationFault Location := do
  let l := withoutScheme url
  let database := l.takeWhile (· != '?')
  let name ← readName database
  let inMemory := database == Opening.memoryName.toList
  let single := mentions Opening.memoryName.toList url.toList
  let form := Text.Utf8.encode (String.ofList ((l.dropWhile (· != '?')).drop 1))
  (Text.UrlEncoded.pairs form).foldlM (fun location p => location.set p.1 p.2)
    { name, single, inMemory, sharedCache := inMemory }

/-! ## Opening -/

/-- The text before the character that ends names. -/
def upToNul (s : String) : String :=
  String.ofList (s.toList.takeWhile (· != '\x00'))

/-- The name of a file system as the database gets it: a space is handed over as a plus sign. -/
def handedOver (system : String) : String :=
  String.ofList ((upToNul system).toList.map fun c => if c = ' ' then '+' else c)

/-- The name is handed over with escapes, because there is something to say beside it. -/
def isEscaped (l : Location) : Bool :=
  l.immutable || l.fileSystem?.isSome

/-- How a connection opens the database, as far as its name does not tell. -/
def defaults (l : Location) : Opening where
  access? := some (if l.readOnly then .readOnly else .create)
  inMemory := l.inMemory
  sharedCache := l.sharedCache

/-- How a connection opens the database. -/
def opening (l : Location) : Except LocationFault Opening :=
  if l.isEscaped then
    .ok { l.defaults with
      path := upToNul l.name, isUri := true, immutable := l.immutable
      fileSystem := (l.fileSystem?.map handedOver).getD l.defaults.fileSystem }
  else if l.name.toList.contains '\x00' then .error .nulCharacter
  else (l.defaults.readName l.name).mapError .opening

/-- Opens the database and sets the table of sessions up. -/
def prepare (l : Location) : Except LocationFault Unit := do
  ((← l.opening).prepare l.single).mapError .opening

end Location

end SessionTokens
