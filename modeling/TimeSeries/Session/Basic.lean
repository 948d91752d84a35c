import TimeSeries.Message.Transport
import TimeSeries.Session.Answer

/-! Sessions: one logical connection to a server, opened before use and closed for good. -/

namespace TimeSeries

namespace Request

def isIdle : Request → Bool
  | .insertTablet tablet => tablet.rows.isEmpty
  | _ => false

def checkRow (thorough : Bool) (measurements : List String) (values : Nat) :
    Except WriteError Unit := do
  Row.checkShape measurements values
  if thorough then Row.checkDistinct measurements

def check (thorough : Bool) : Request → Except WriteError Unit
  | .insert _ _ measurements values => checkRow thorough measurements values.length
  | .insertTablet tablet => checkRow thorough tablet.measurements tablet.measurements.length
  | _ => .ok ()

def deleteStorageGroup (path : String) : Request :=
  .deleteStorageGroups [path]

end Request

inductive Phase (Connection : Type) where
  | unopened
  | opened (connection : Connection)
  | closed
  deriving DecidableEq

structure Session (Connection : Type) where
  config : SessionConfig
  phase : Phase Connection

namespace Session

variable {World Connection : Type} (transport : Transport World Connection)

def create (config : SessionConfig) : Except SessionError (Session Connection) := do
  config.endpoint.validate.mapError .config
  return ⟨config, .unopened⟩

def isOpen (session : Session Connection) : Bool :=
  match session.phase with
  | .opened _ => true
  | _ => false

def openConnection (session : Session Connection) (world : World) :
    Except SessionError Unit × Session Connection × World :=
  match session.phase with
  | .opened _ => (.error (.state .alreadyOpen), session, world)
  | .closed => (.error (.state .closed), session, world)
  | .unopened =>
    match transport.connect session.config.endpoint world with
    | (.ok connection, world) => (.ok (), { session with phase := .opened connection }, world)
    | (.error error, world) => (.error (.connection error), session, world)

/-- A session is closed even if its connection fails to close. -/
def closeConnection (session : Session Connection) (world : World) :
    Except SessionError Unit × Session Connection × World :=
  match session.phase with
  | .unopened => (.error (.state .notOpen), session, world)
  | .closed => (.error (.state .closed), session, world)
  | .opened connection =>
    let (result, world) := transport.close connection world
    (result.mapError .connection, { session with phase := .closed }, world)

def drop (session : Session Connection) (world : World) : World :=
  (session.closeConnection transport world).2.2

def perform (request : Request) (session : Session Connection) (world : World) :
    Except SessionError Answer × World :=
  match session.phase with
  | .unopened => (.error (.state .notOpen), world)
  | .closed => (.error (.state .closed), world)
  | .opened connection =>
    if request.isIdle then (.ok .done, world)
    else
      match request.check session.config.checkWrites with
      | .error error => (.error (.write error), world)
      | .ok () =>
        let (reply, world) := transport.call connection request world
        (Answer.ofReply request reply, world)

def connect (config : SessionConfig) (world : World) :
    Except SessionError (Session Connection) × World :=
  match create config with
  | .error error => (.error error, world)
  | .ok session =>
    match openConnection transport session world with
    | (.ok (), session, world) => (.ok session, world)
    | (.error error, _, world) => (.error error, world)

/-- Opens a session, hands it to a body of work and closes it whatever comes of that work. A
failure of the work wins over a failure to close. -/
def during {Result Failure : Type} (config : SessionConfig) (failure : SessionError → Failure)
    (body : Session Connection → World → Except Failure Result × Session Connection × World)
    (world : World) : Except Failure Result × World :=
  match connect transport config world with
  | (.error error, world) => (.error (failure error), world)
  | (.ok session, world) =>
    let (result, session, world) := body session world
    if session.isOpen then
      let (closing, _, world) := session.closeConnection transport world
      match result, closing with
      | .ok _, .error error => (.error (failure error), world)
      | result, _ => (result, world)
    else (result, world)

end Session

end TimeSeries
