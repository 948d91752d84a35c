import TimeSeries.Coercion
import TimeSeries.Message.Transport
import TimeSeries.Store.Basic

/-! The server: a schema and a store behind a table of sessions. -/

namespace TimeSeries

structure ServerConfig where
  host : String := "127.0.0.1"
  port : Port := defaultPort
  /-- User names with their passwords. -/
  users : List (String × String) := [("root", "root")]
  store : StoreConfig := {}

namespace ServerConfig

variable (config : ServerConfig)

def address : String :=
  addressOf config.host config.port

def validate : Except ConfigError Unit := do
  checkAddress config.host config.port
  if config.users = [] then throw .noUsers
  if config.users.any fun user => user.1 == "" then throw .emptyUsername

end ServerConfig

structure OpenSession where
  id : Nat
  username : String
  deriving DecidableEq

structure Server where
  address : String
  users : List (String × String)
  registry : Registry := {}
  store : Store
  /-- Sessions in the order of their ids. -/
  sessions : List OpenSession := []
  nextId : Nat := 1
  running : Bool := true
  deriving DecidableEq

inductive StartError where
  | config (cause : ConfigError)
  | store (cause : StoreError)
  deriving DecidableEq

def StartError.message : StartError → String
  | .config _ => "invalid server config"
  | .store _ => "failed to open storage"

namespace Server

def start (config : ServerConfig) : Except StartError Server := do
  config.validate.mapError .config
  let store ← (Store.create config.store).mapError .store
  return { address := config.address, users := config.users, store }

/-- A running server lets in users that know both its address and their password. Ids count up
from one. -/
def connect (endpoint : Endpoint) (server : Server) : Except ConnectionError Nat × Server :=
  if !server.running || endpoint.address != server.address then
    (.error (.unreachable endpoint.address), server)
  else if server.users.lookup endpoint.username = some endpoint.password then
    (.ok server.nextId, { server with
      sessions := server.sessions ++ [⟨server.nextId, endpoint.username⟩]
      nextId := server.nextId + 1 })
  else (.error (.authentication endpoint.username), server)

def release (id : Nat) (server : Server) : Server :=
  { server with sessions := server.sessions.filter fun session => session.id ≠ id }

def hasSession (server : Server) (id : Nat) : Bool :=
  server.sessions.any fun session => session.id == id

def shutdown (server : Server) : Server :=
  if server.running then
    { server with running := false, sessions := [], store := server.store.close }
  else server

end Server

end TimeSeries
