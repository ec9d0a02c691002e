import SessionTokens.Text.Decimal
import SessionTokens.Text.UrlEncoded

/-!
# Opening a database

What a name stands for: a file, or a database in memory, which may be private to the connection that
opens it. A name that begins with `file:` is a URI, whose options may change how the database is opened.

The table of sessions is created over one connection and its index over another. Where every connection
has a database of its own, the second finds no table, unless there is a single connection.
-/

namespace SessionTokens

/-- What a connection may do with a database. -/
inductive Access where
  | readOnly
  | readWrite
  /-- It may also create the database. -/
  | create
deriving DecidableEq, Repr

/-- The more a connection may do, the higher it stands. -/
def Access.rank : Access → Nat
  | readOnly => 0
  | readWrite => 1
  | create => 2

/-- How a connection opens a database. -/
structure Opening where
  /-- The path of the database, or its name in memory. -/
  path : String := ""
  /-- The path was given by a URI. -/
  isUri : Bool := false
  /-- What the connection may do. It may do anything if nothing is told, as with some databases in memory. -/
  access? : Option Access := some .create
  inMemory : Bool := false
  sharedCache : Bool := false
  immutable : Bool := false
  fileSystem : String := "unix"
deriving DecidableEq, Repr

/-- Why the table of sessions cannot be set up. -/
inductive OpeningFault where
  /-- A URI names another computer. -/
  | authority (host : String)
  | unknownCache (mode : String)
  | unknownAccess (mode : String)
  /-- A URI asks for more access than the connection may have. -/
  | accessDenied (mode : String)
  | unknownFileSystem (system : String)
  /-- There is no such file, and it may not be created. -/
  | noFile
  /-- The table may not be created. -/
  | readOnly
  /-- The connection that creates the index does not find the table. -/
  | noTable
deriving DecidableEq, Repr

namespace OpeningFault

/-- The number of a fault. -/
def code : OpeningFault → Nat
  | accessDenied _ => 3
  | readOnly => 8
  | noFile => 14
  | _ => 1

/-- What the fault is, in words. -/
def text : OpeningFault → String
  | authority host => "invalid uri authority: " ++ host
  | unknownCache mode => "no such cache mode: " ++ mode
  | unknownAccess mode => "no such access mode: " ++ mode
  | accessDenied mode => "access mode not allowed: " ++ mode
  | unknownFileSystem system => "no such vfs: " ++ system
  | noFile => "unable to open database file"
  | readOnly => "attempt to write a readonly database"
  | noTable => "no such table: main.sessions"

/-- The wording of a fault, with its number. -/
def message (fault : OpeningFault) : String :=
  "(code: " ++ toString fault.code ++ ") " ++ fault.text

end OpeningFault

namespace Opening

/-! ## Options -/

/-- What the values of the option `mode` stand for. Of a database in memory nothing is told. -/
def accessModes : List (String × Option Access) :=
  [("ro", some .readOnly), ("rw", some .readWrite), ("rwc", some .create), ("memory", none)]

/-- Whether a URI may ask for that access: for no more than there is, and for any of a database in memory. -/
def allows (o : Opening) : Option Access → Bool
  | none => true
  | some access => o.inMemory || o.access?.any (access.rank ≤ ·.rank)

/-- Changes what the connection may do. -/
def setAccess (o : Opening) (mode : String) : Except OpeningFault Opening :=
  match accessModes.lookup mode with
  | none => .error (.unknownAccess mode)
  | some access? =>
    if o.allows access? then .ok { o with access?, inMemory := access?.isNone }
    else .error (.accessDenied mode)

/-- Changes whether what is read is shared. -/
def setCache (o : Opening) (mode : String) : Except OpeningFault Opening :=
  if mode = "shared" then .ok { o with sharedCache := true }
  else if mode = "private" then .ok { o with sharedCache := false }
  else .error (.unknownCache mode)

/-- Takes an option into account; other options have no effect. -/
def set (o : Opening) (option value : String) : Except OpeningFault Opening :=
  if option = "mode" then o.setAccess value
  else if option = "cache" then o.setCache value
  else if option = "vfs" then .ok { o with fileSystem := value }
  else .ok o

/-- Whether a value says yes. Of a number the last byte counts. -/
def saysYes (value : String) : Bool :=
  let digits := value.toList.takeWhile Text.Decimal.isDigit
  if digits.isEmpty then ["on", "yes", "true"].contains value.toLower
  else Text.Decimal.valueOf digits % 256 != 0

/-! ## URIs -/

/-- The text that a part of a URI stands for: escapes are undone, and a NUL ends it. -/
def uriPart (l : Bytes) : String :=
  Text.Utf8.readDamaged ((Text.UrlEncoded.decode l).takeWhile (· != 0))

/-- An option and its value, with an equals sign between them. -/
def uriOption (l : Bytes) : String × String :=
  (uriPart (l.takeWhile (· != 0x3D)), uriPart ((l.dropWhile (· != 0x3D)).drop 1))

/-- The options of a URI. Those without a name do not count. -/
def uriOptions (l : Bytes) : List (String × String) :=
  ((Text.UrlEncoded.pieces 0x26 l).map uriOption).filter fun option => option.1 != ""

/-- Drops the authority of a URI, which has to be this computer. -/
def dropAuthority : List Char → Except OpeningFault (List Char)
  | '/' :: '/' :: r =>
    let host := String.ofList (r.takeWhile (· != '/'))
    if host = "" ∨ host = "localhost" then .ok (r.dropWhile (· != '/')) else .error (.authority host)
  | l => .ok l

/-- Reads a URI behind its scheme. What follows a number sign does not count. -/
def readUri (o : Opening) (l : List Char) : Except OpeningFault Opening := do
  let l := (← dropAuthority l).takeWhile (· != '#')
  let path := uriPart (Text.Utf8.encode (String.ofList (l.takeWhile (· != '?'))))
  let options := uriOptions (Text.Utf8.encode (String.ofList ((l.dropWhile (· != '?')).drop 1)))
  let immutable := (options.lookup "immutable").any saysYes
  options.foldlM (fun o option => o.set option.1 option.2) { o with path, isUri := true, immutable }

/-- Reads the name of a database, which is a URI or a path. -/
def readName (o : Opening) (name : String) : Except OpeningFault Opening :=
  let scheme := "file:".toList
  if scheme.isPrefixOf name.toList then o.readUri (name.toList.drop scheme.length)
  else .ok { o with path := name }

/-! ## Databases -/

/-- The name of a database in memory. -/
def memoryName : String := ":memory:"

/-- The file system in memory. -/
def memorySystem : String := "memdb"

/-- The file systems that there are. -/
def fileSystems : List String := ["unix", "unix-none", "unix-dotfile", "unix-excl", memorySystem]

/-- Where the contents of a database are. -/
inductive Medium where
  | nameless
  | memory
  /-- They are in a file of the file system in memory. -/
  | memoryFile
  | file
deriving DecidableEq, Repr

/-- Where the contents of the database are. -/
def medium (o : Opening) : Medium :=
  if o.path = "" then .nameless
  else if o.inMemory ∨ o.path = memoryName then .memory
  else if o.fileSystem = memorySystem then .memoryFile
  else .file

/-- Whether a path begins at a root and goes on from there. -/
def isRooted (path : String) : Bool :=
  match path.toList with
  | c :: _ :: _ => c = '/' || c = '\\'
  | _ => false

/-- Whether every connection has a database of its own. -/
def isPrivate (o : Opening) : Bool :=
  match o.medium with
  | .nameless => true
  | .memory => !(o.isUri && o.sharedCache)
  | .memoryFile => !(o.sharedCache || isRooted o.path)
  | .file => false

/-- Whether the database may only be read. That nobody changes it counts for files. -/
def isReadOnly (o : Opening) : Bool :=
  match o.medium with
  | .nameless | .memory => o.access? = some .readOnly
  | .memoryFile | .file => o.access? = some .readOnly || o.immutable

/-- The names along a path. A dot stands for the directory itself, and two dots for the one around it. -/
def namesAlong (path : String) : List String :=
  ((Text.UrlEncoded.pieces 0x2F (Text.Utf8.encode path)).map Text.Utf8.readDamaged).foldl (fun names name =>
    if name = "" ∨ name = "." then names
    else if name = ".." then names.dropLast
    else names ++ [name]) []

/-- Whether a file may be created at a path: in the working directory, at the root or among temporary
files. -/
def isCreatable (path : String) : Bool :=
  let names := namesAlong path
  names.length = if isRooted path ∧ names.head? = some "tmp" then 2 else 1

/-- Whether the database is a file that would have to be there already. -/
def needsFile (o : Opening) : Bool :=
  o.medium = .file && (o.access? != some .create || !isCreatable o.path)

/-- Opens the database and sets the table of sessions up, over a single connection or over several. -/
def prepare (o : Opening) (single : Bool) : Except OpeningFault Unit :=
  if !fileSystems.contains o.fileSystem then .error (.unknownFileSystem o.fileSystem)
  else if o.needsFile then .error .noFile
  else if o.isReadOnly then .error .readOnly
  else if o.isPrivate && !single then .error .noTable
  else .ok ()

end Opening

end SessionTokens
