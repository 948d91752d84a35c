import TimeSeries.Endpoint
import TimeSeries.Message.Basic

/-! Everything that can go wrong in a session. -/

namespace TimeSeries

inductive StateError where
  | notOpen
  | alreadyOpen
  | closed
  deriving DecidableEq

def StateError.message : StateError → String
  | .notOpen => "session is not open"
  | .alreadyOpen => "session is already open"
  | .closed => "session closed"

inductive SessionError where
  | config (cause : ConfigError)
  | connection (cause : ConnectionError)
  | schema (cause : SchemaError)
  | write (cause : WriteError)
  | state (cause : StateError)
  | internal (reason : String)
  /-- The call broke down without an answer. -/
  | brokenOff
  deriving DecidableEq

namespace SessionError

def message? : SessionError → Option String
  | .config _ => some "invalid session config"
  | .connection cause => some s!"connection error: {cause.message}"
  | .schema cause => some s!"schema error: {cause.message}"
  | .write cause => some s!"write error: {cause.message}"
  | .state cause => some s!"state error: {cause.message}"
  | .internal reason => some s!"server error: {reason}"
  | .brokenOff => none

def ofServer : ServerError → SessionError
  | .connection cause => .connection cause
  | .schema cause => .schema cause
  | .write cause => .write cause
  | .internal reason => .internal reason

end SessionError

end TimeSeries
