import TimeSeries.Endpoint
import TimeSeries.Json.Form

/-! Configurations of sessions in JSON, and sessions as a server lists them. -/

namespace TimeSeries

open Json

instance : JsonForm Endpoint where
  toJson endpoint :=
    record [
      ("host", toJson endpoint.host), ("port", toJson endpoint.port),
      ("username", toJson endpoint.username), ("password", toJson endpoint.password)]
  ofJson? document := do
    match ← fields? ["host", "port", "username", "password"] document with
    | [host, port, username, password] =>
      return ⟨← ofJson? host, ← ofJson? port, ← ofJson? username, ← ofJson? password⟩
    | _ => none

/-- The check of writes may be left out and is then on. -/
instance : JsonForm SessionConfig where
  toJson config :=
    record [("endpoint", toJson config.endpoint), ("check_writes", toJson config.checkWrites)]
  ofJson?
    | .array [endpoint] => do return { endpoint := ← ofJson? endpoint }
    | .array [endpoint, check] => do return ⟨← ofJson? endpoint, ← ofJson? check⟩
    | .object fields => do
      match fieldsNamed "check_writes" fields with
      | [] =>
        match ← fields? ["endpoint"] (.object fields) with
        | [endpoint] => return { endpoint := ← ofJson? endpoint }
        | _ => none
      | _ =>
        match ← fields? ["endpoint", "check_writes"] (.object fields) with
        | [endpoint, check] => return ⟨← ofJson? endpoint, ← ofJson? check⟩
        | _ => none
    | _ => none

/-- Seconds since 1970 within the years that a calendar date is kept for. -/
abbrev Moment := Ranged (-8334601228800) 8210266876799

structure SessionInfo where
  id : Count
  username : String
  openedAt : Moment
  deriving DecidableEq

instance : JsonForm SessionInfo where
  toJson info :=
    record [
      ("id", toJson info.id), ("username", toJson info.username),
      ("opened_at", toJson info.openedAt)]
  ofJson? document := do
    match ← fields? ["id", "username", "opened_at"] document with
    | [id, username, openedAt] =>
      return ⟨← ofJson? id, ← ofJson? username, ← ofJson? openedAt⟩
    | _ => none

namespace SessionConfig

def checked (config : Option SessionConfig) : Except ConfigError SessionConfig :=
  match config with
  | none => .error .malformed
  | some config => do
    config.endpoint.validate
    return config

def ofText (text : String) : Except ConfigError SessionConfig :=
  checked (decode? text)

def ofFile (content : Option (List UInt8)) : Except ConfigError SessionConfig :=
  match content with
  | none => .error .unreadable
  | some bytes => checked ((parseBytes bytes).bind ofJson?)

end SessionConfig

end TimeSeries
