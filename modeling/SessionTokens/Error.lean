/-!
# Errors of token and session operations

Each error has a text for the operator and a kind. The kind alone decides what a client gets to see: a
status, a code and a public message.
-/

namespace SessionTokens

/-- Why an operation on tokens or sessions failed. -/
inductive AuthError where
  | configuration (message : String)
  | invalidArgument (message : String)
  /-- Sealing failed. -/
  | crypto (message : String)
  /-- A token was not issued under the key. -/
  | invalidToken (reason : String)
  /-- A token was issued under the key, but its time is over. -/
  | tokenExpired
  /-- The caller is not who the token was issued to, or is no longer welcome. -/
  | unauthenticated
  | sessionNotFound
  /-- The store or the service failed. -/
  | internal (message : String)
  | cancelled
  | deadlineExceeded
deriving DecidableEq, Repr

/-- What errors have in common for a client. -/
inductive ErrorKind where
  | configuration
  | invalidArgument
  | unauthenticated
  | notFound
  /-- The call was not finished. -/
  | cancelled
  | internal
deriving DecidableEq, Repr

namespace ErrorKind

/-- The HTTP status of a kind. -/
def status : ErrorKind → Nat
  | configuration => 500
  | invalidArgument => 400
  | unauthenticated => 401
  | notFound => 404
  | cancelled => 499
  | internal => 500

/-- The code of a kind. -/
def code : ErrorKind → String
  | configuration => "CONFIGURATION_ERROR"
  | invalidArgument => "INVALID_ARGUMENT"
  | unauthenticated => "UNAUTHENTICATED"
  | notFound => "NOT_FOUND"
  | cancelled => "CANCELLED"
  | internal => "INTERNAL_ERROR"

/-- The message of a kind, which gives nothing away. -/
def publicMessage : ErrorKind → String
  | configuration => "internal server error"
  | invalidArgument => "invalid request"
  | unauthenticated => "authentication failed"
  | notFound => "session not found"
  | cancelled => "request cancelled"
  | internal => "internal server error"

end ErrorKind

namespace AuthError

/-- The kind of an error. -/
def kind : AuthError → ErrorKind
  | configuration _ => .configuration
  | invalidArgument _ => .invalidArgument
  | invalidToken _ | tokenExpired | unauthenticated => .unauthenticated
  | sessionNotFound => .notFound
  | cancelled | deadlineExceeded => .cancelled
  | crypto _ | internal _ => .internal

/-- The text for the operator. Why a token is invalid is left out. -/
def message : AuthError → String
  | configuration m => "configuration error: " ++ m
  | invalidArgument m => "invalid argument: " ++ m
  | crypto m => "crypto error: " ++ m
  | invalidToken _ => "invalid token"
  | tokenExpired => "token expired"
  | unauthenticated => "unauthenticated"
  | sessionNotFound => "session not found"
  | internal m => "internal error: " ++ m
  | cancelled => "request cancelled"
  | deadlineExceeded => "deadline exceeded"

end AuthError

end SessionTokens
