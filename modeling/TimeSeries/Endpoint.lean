import TimeSeries.Row
import TimeSeries.Text.Blank
import TimeSeries.Text.Quoted

/-! Where a server is and who asks: endpoints, and the configuration of sessions. -/

namespace TimeSeries

inductive ConfigError where
  | emptyHost
  | invalidPort
  | emptyUsername
  | noUsers
  | unreadable
  | malformed
  deriving DecidableEq

def ConfigError.message : ConfigError → String
  | .emptyHost => "host is empty"
  | .invalidPort => "port must be greater than zero"
  | .emptyUsername => "username is empty"
  | .noUsers => "no users configured"
  | .unreadable => "error reading config file"
  | .malformed => "error unmarshaling config file"

def defaultPort : Port := ⟨6667, by decide, by decide⟩

structure Endpoint where
  host : String := "127.0.0.1"
  port : Port := defaultPort
  username : String := "root"
  password : String := "root"
  deriving DecidableEq

def addressOf (host : String) (port : Port) : String :=
  host ++ ":" ++ port.text

def checkAddress (host : String) (port : Port) : Except ConfigError Unit :=
  if Text.trim host.toList = [] then .error .emptyHost
  else if port.val = 0 then .error .invalidPort
  else .ok ()

namespace Endpoint

variable (endpoint : Endpoint)

def address : String :=
  addressOf endpoint.host endpoint.port

def validate : Except ConfigError Unit := do
  checkAddress endpoint.host endpoint.port
  if endpoint.username = "" then throw .emptyUsername

/-- The endpoint as it appears in reports, without its password. -/
def report : String :=
  "Endpoint \x7b host: " ++ Text.quoted endpoint.host ++ ", port: " ++ endpoint.port.text ++
    ", username: " ++ Text.quoted endpoint.username ++ ", password: \"***\" \x7d"

end Endpoint

structure SessionConfig where
  endpoint : Endpoint := {}
  /-- Rows are checked for repeated measurements before they are sent. -/
  checkWrites : Bool := true
  deriving DecidableEq

def SessionConfig.report (config : SessionConfig) : String :=
  "Config \x7b endpoint: " ++ config.endpoint.report ++ ", check_writes: " ++
    (if config.checkWrites then "true" else "false") ++ " \x7d"

end TimeSeries
