import SessionTokens.Text.Blank
import SessionTokens.Text.Decimal
import SessionTokens.Text.Quoted
import SessionTokens.TokenService

/-!
# Settings

The settings of the server, read from the variables of its environment. A number that cannot be read
gives way to its default; one that can be read but has no use is a fault. The first fault in the order of
port, key, access lifetime, refresh lifetime and store timeout is reported.
-/

namespace SessionTokens

open Time (Span)

/-- The values of variables by name. -/
abbrev Environment := String → Option String

/-- Why there are no settings. -/
inductive SettingsFault where
  /-- The port is no number of sixteen bits. -/
  | port (fault : Text.Decimal.Fault)
  /-- There is no key, or nothing but white space. -/
  | keyMissing
  /-- The lifetime in a variable is longer than a span can be. -/
  | lifetime (variableName : String) (seconds : Nat)
  /-- The store timeout is zero or more than an hour. -/
  | storeTimeout (millis : Nat)
deriving DecidableEq, Repr

/-- The settings of the server. -/
structure Settings where
  port : Nat
  databaseUrl : String
  keyMaterial : String
  accessSeconds : Nat
  refreshSeconds : Nat
  /-- How many milliseconds a request may wait for the store. -/
  storeTimeout : Nat
deriving DecidableEq, Repr

namespace Settings

/-! ## Names, bounds and defaults -/

/-- The variable of the port. -/
def portVariable : String := "PSG_AUTHD_PORT"

/-- The variable of the database. -/
def databaseVariable : String := "PSG_DB_URL"

/-- The variable of the key. -/
def keyVariable : String := "PSG_TOKEN_SYMMETRIC_KEY"

/-- The variable of the lifetime of access tokens. -/
def accessVariable : String := "PSG_ACCESS_TOKEN_TTL_SECS"

/-- The variable of the lifetime of refresh tokens. -/
def refreshVariable : String := "PSG_REFRESH_TOKEN_TTL_SECS"

/-- The variable of the store timeout. -/
def storeTimeoutVariable : String := "PSG_STORE_TIMEOUT_MS"

/-- The largest port. -/
def maxPort : Nat := 65535

/-- The largest lifetime that is read as a number. -/
def maxReadSeconds : Nat := 9223372036854775807

/-- The largest store timeout that is read as a number. -/
def maxReadMillis : Nat := 18446744073709551615

/-- The largest store timeout that is allowed: an hour. -/
def maxStoreTimeout : Nat := 3600000

/-- The port where none is given. -/
def defaultPort : String := "4100"

/-- The database where none is given. -/
def defaultDatabaseUrl : String := "sqlite://sessions.db"

/-- The lifetime of access tokens where none is given: a quarter of an hour. -/
def defaultAccessSeconds : Nat := 900

/-- The lifetime of refresh tokens where none is given: a day. -/
def defaultRefreshSeconds : Nat := 86400

/-- The store timeout where none is given: five seconds. -/
def defaultStoreTimeout : Nat := 5000

/-! ## Reading -/

/-- Reads the port. -/
def readPort (env : Environment) : Except SettingsFault Nat :=
  match Text.Decimal.readUpTo maxPort ((env portVariable).getD defaultPort) with
  | .ok port => .ok port
  | .error fault => .error (.port fault)

/-- Reads the key, which is kept as it is written. -/
def readKey (env : Environment) : Except SettingsFault String :=
  match env keyVariable with
  | some key => if Text.trim key = "" then .error .keyMissing else .ok key
  | none => .error .keyMissing

/-- The number in a variable, if it can be read. -/
def number? (env : Environment) (name : String) (bound : Nat) : Option Nat :=
  (env name).bind fun s => (Text.Decimal.readUpTo bound s).toOption

/-- Reads a lifetime. Zero gives way to the default too. -/
def readLifetime (env : Environment) (name : String) (default : Nat) : Except SettingsFault Nat :=
  let seconds := ((number? env name maxReadSeconds).filter (0 < ·)).getD default
  if (Span.ofSeconds? seconds).isSome then .ok seconds else .error (.lifetime name seconds)

/-- Reads the store timeout. -/
def readStoreTimeout (env : Environment) : Except SettingsFault Nat :=
  let millis := (number? env storeTimeoutVariable maxReadMillis).getD defaultStoreTimeout
  if millis = 0 ∨ maxStoreTimeout < millis then .error (.storeTimeout millis) else .ok millis

/-- Reads the settings. -/
def read (env : Environment) : Except SettingsFault Settings := do
  let port ← readPort env
  let databaseUrl := (env databaseVariable).getD defaultDatabaseUrl
  let keyMaterial ← readKey env
  let accessSeconds ← readLifetime env accessVariable defaultAccessSeconds
  let refreshSeconds ← readLifetime env refreshVariable defaultRefreshSeconds
  let storeTimeout ← readStoreTimeout env
  return { port, databaseUrl, keyMaterial, accessSeconds, refreshSeconds, storeTimeout }

/-- The lifetimes of tokens, if they are spans. -/
def lifetimes? (s : Settings) : Option Lifetimes := do
  let access ← Span.ofSeconds? s.accessSeconds
  let refresh ← Span.ofSeconds? s.refreshSeconds
  return { access, refresh }

/-! ## Showing -/

/-- What is shown of the settings where an operator looks at them. The key is left out. -/
def redacted (s : Settings) : String :=
  "Config \x7b port: " ++ toString s.port
    ++ ", db_url: " ++ Text.Quoted.quote s.databaseUrl
    ++ ", token_symmetric_key: \"<redacted>\""
    ++ ", access_token_ttl_secs: " ++ toString s.accessSeconds
    ++ ", refresh_token_ttl_secs: " ++ toString s.refreshSeconds
    ++ ", store_timeout_ms: " ++ toString s.storeTimeout ++ " \x7d"

end Settings

/-- The wording of a lifetime that is too long. -/
def lifetimeTooLong (seconds : Nat) : String :=
  "token ttl of " ++ toString seconds ++ " seconds is too large"

/-- The wording of a fault. -/
def SettingsFault.message : SettingsFault → String
  | .port fault => fault.message
  | .keyMissing => Settings.keyVariable ++ " must be set"
  | .lifetime name seconds => name ++ " is out of range: " ++ lifetimeTooLong seconds
  | .storeTimeout millis =>
    Settings.storeTimeoutVariable ++ " must be between 1 and " ++ toString Settings.maxStoreTimeout
      ++ " ms, got " ++ toString millis

end SessionTokens
