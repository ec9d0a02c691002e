import SessionTokens.KeyMaterial
import SessionTokens.Settings
import SessionTokens.Store.Location

/-!
# The server

What is set up when the server starts: its settings, its token service and the database for its
sessions. The settings are read first, then the key; the database is opened last.
-/

namespace SessionTokens

/-- A server that has started. -/
structure Server where
  settings : Settings
  service : TokenService

/-- Why a server does not start. -/
inductive StartFault where
  | settings (fault : SettingsFault)
  | key (fault : KeyFault)
  /-- There is no table of sessions. -/
  | location (fault : LocationFault)
  /-- A lifetime is no span. -/
  | lifetimes (s : Settings)
deriving DecidableEq

/-- The wording of a fault. -/
def StartFault.message : StartFault → String
  | .settings fault => fault.message
  | .key fault => fault.toError.message
  | .location fault => fault.message
  | .lifetimes s =>
    lifetimeTooLong (if (Time.Span.ofSeconds? s.accessSeconds).isNone then s.accessSeconds
      else s.refreshSeconds)

namespace Server

/-- Opens the database that the settings name. -/
def openDatabase (s : Settings) : Except StartFault Unit :=
  match (Location.ofUrl s.databaseUrl).bind Location.prepare with
  | .error fault => .error (.location fault)
  | .ok () => .ok ()

/-- Sets a server up with the given settings. -/
def ofSettings (s : Settings) : Except StartFault Server :=
  match KeyMaterial.read s.keyMaterial with
  | .error fault => .error (.key fault)
  | .ok key =>
    match openDatabase s with
    | .error fault => .error fault
    | .ok () =>
      match s.lifetimes? with
      | none => .error (.lifetimes s)
      | some lifetimes => .ok { settings := s, service := { key, lifetimes } }

/-- Starts a server in an environment. -/
def start (env : Environment) : Except StartFault Server :=
  match Settings.read env with
  | .error fault => .error (.settings fault)
  | .ok s => ofSettings s

/-- The limits of one request: it may wait for the store as long as the settings say. -/
def callContext (s : Server) : CallContext :=
  { deadline? := some s.settings.storeTimeout }

end Server

end SessionTokens
