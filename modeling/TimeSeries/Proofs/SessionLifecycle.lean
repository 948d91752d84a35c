import Mathlib.Data.List.Induction
import TimeSeries.Message.PreparedPeer
import TimeSeries.Session.Basic

/-! The life of a session as its transport sees it. Attempts to connect fail until one succeeds, all
calls go to that connection, and it is closed once, at the latest when the session is dropped. What
the transport answers decides which of these steps come about, but never their order. -/

namespace TimeSeries

inductive SessionAction where
  | openConnection
  | closeConnection
  | request (request : Request)
  deriving DecidableEq

inductive Observation (Connection : Type) where
  | refused (cause : ConnectionError)
  | connected (connection : Connection)
  | called (connection : Connection) (request : Request)
  | closed (connection : Connection)
  deriving DecidableEq

variable {World Connection : Type}

def Transport.observed (transport : Transport World Connection) :
    Transport (World × List (Observation Connection)) Connection where
  connect endpoint := fun (world, seen) =>
    match transport.connect endpoint world with
    | (.ok connection, world) => (.ok connection, world, seen ++ [.connected connection])
    | (.error cause, world) => (.error cause, world, seen ++ [.refused cause])
  call connection request := fun (world, seen) =>
    let (reply, world) := transport.call connection request world
    (reply, world, seen ++ [.called connection request])
  close connection := fun (world, seen) =>
    let (result, world) := transport.close connection world
    (result, world, seen ++ [.closed connection])

namespace Session

def step (transport : Transport World Connection) (action : SessionAction)
    (session : Session Connection) (world : World) :
    Except SessionError Answer × Session Connection × World :=
  match action with
  | .openConnection =>
    let (result, session, world) := session.openConnection transport world
    (result.map fun _ => .done, session, world)
  | .closeConnection =>
    let (result, session, world) := session.closeConnection transport world
    (result.map fun _ => .done, session, world)
  | .request request =>
    let (result, world) := perform transport request session world
    (result, session, world)

def run (transport : Transport World Connection) (actions : List SessionAction)
    (session : Session Connection) (world : World) : Session Connection × World :=
  actions.foldl (fun (session, world) action => (session.step transport action world).2)
    (session, world)

def served (failures : List ConnectionError) (connection : Connection) (requests : List Request) :
    List (Observation Connection) :=
  failures.map .refused ++ .connected connection :: requests.map (.called connection)

/-- What a transport has seen of a session by the time it is in a phase. -/
inductive Lived : List (Observation Connection) → Phase Connection → Prop
  | unopened (failures : List ConnectionError) : Lived (failures.map .refused) .unopened
  | opened (failures : List ConnectionError) (connection : Connection) (requests : List Request) :
    Lived (served failures connection requests) (.opened connection)
  | closed (failures : List ConnectionError) (connection : Connection) (requests : List Request) :
    Lived (served failures connection requests ++ [.closed connection]) .closed

inductive Outcome (session : Session Connection) (world : World)
    (seen : List (Observation Connection)) : SessionAction → Except SessionError Answer ×
      Session Connection × World × List (Observation Connection) → Prop
  | early {action : SessionAction} (unopened : session.phase = .unopened)
    (other : action ≠ .openConnection) :
    Outcome session world seen action (.error (.state .notOpen), session, world, seen)
  | late {action : SessionAction} (closed : session.phase = .closed) :
    Outcome session world seen action (.error (.state .closed), session, world, seen)
  | refused (unopened : session.phase = .unopened) (cause : ConnectionError) (later : World) :
    Outcome session world seen .openConnection
      (.error (.connection cause), session, later, seen ++ [.refused cause])
  | connected (unopened : session.phase = .unopened) (connection : Connection) (later : World) :
    Outcome session world seen .openConnection
      (.ok .done, { session with phase := .opened connection }, later,
        seen ++ [.connected connection])
  | again {connection : Connection} (opened : session.phase = .opened connection) :
    Outcome session world seen .openConnection
      (.error (.state .alreadyOpen), session, world, seen)
  | idle {connection : Connection} {request : Request}
    (opened : session.phase = .opened connection) (idle : request.isIdle = true) :
    Outcome session world seen (.request request) (.ok .done, session, world, seen)
  | malformed {connection : Connection} {request : Request} {error : WriteError}
    (opened : session.phase = .opened connection)
    (checked : request.check session.config.checkWrites = .error error) :
    Outcome session world seen (.request request) (.error (.write error), session, world, seen)
  | called {connection : Connection} {request : Request}
    (opened : session.phase = .opened connection) (reply : Reply) (later : World) :
    Outcome session world seen (.request request)
      (Answer.ofReply request reply, session, later, seen ++ [.called connection request])
  | closed {connection : Connection} (opened : session.phase = .opened connection)
    (result : Except ConnectionError Unit) (later : World) :
    Outcome session world seen .closeConnection
      ((result.mapError .connection).map fun _ => .done, { session with phase := .closed }, later,
        seen ++ [.closed connection])

variable (transport : Transport World Connection) {session next : Session Connection}
  {world later : World} {seen observations : List (Observation Connection)}
  {action : SessionAction} {answer : Except SessionError Answer}

theorem step_outcome (action : SessionAction) (session : Session Connection) (world : World)
    (seen : List (Observation Connection)) :
    Outcome session world seen action (session.step transport.observed action (world, seen)) := by
  cases action with
  | openConnection =>
    unfold step openConnection Transport.observed
    cases phase : session.phase with
    | unopened =>
      dsimp only
      rcases transport.connect session.config.endpoint world with ⟨cause | connection, later⟩
      · exact .refused phase cause later
      · exact .connected phase connection later
    | opened connection => exact .again phase
    | closed => exact .late phase
  | closeConnection =>
    unfold step closeConnection
    cases phase : session.phase with
    | unopened => exact .early phase (by rintro ⟨⟩)
    | opened connection => exact .closed phase _ _
    | closed => exact .late phase
  | request request =>
    unfold step perform
    cases phase : session.phase with
    | unopened => exact .early phase (by rintro ⟨⟩)
    | opened connection =>
      dsimp only
      split
      next idle => exact .idle phase idle
      next =>
        cases checked : request.check session.config.checkWrites with
        | error error => exact .malformed phase checked
        | ok => exact .called phase _ _
    | closed => exact .late phase

/-- Whatever comes of an action, the session has lived as its phase says. -/
theorem Outcome.lived (outcome : Outcome session world seen action
    (answer, next, later, observations)) (lived : Lived seen session.phase) :
    Lived observations next.phase := by
  -- Before the action, the phase already tells the form of all that was seen.
  cases outcome with
  | early | late | again | idle | malformed => exact lived
  | refused unopened cause =>
    rw [unopened] at lived ⊢
    cases lived with
    | unopened failures => simpa using Lived.unopened (failures ++ [cause])
  | connected unopened connection =>
    rw [unopened] at lived
    cases lived with
    | unopened failures => exact .opened failures connection []
  | @called connection request opened =>
    rw [opened] at lived ⊢
    cases lived with
    | opened failures _ requests =>
      simpa [served] using Lived.opened failures connection (requests ++ [request])
  | @closed connection opened =>
    rw [opened] at lived
    cases lived with
    | opened failures _ requests => exact .closed failures connection requests

theorem lived_run (actions : List SessionAction) (lived : Lived seen session.phase)
    (world : World) :
    Lived (session.run transport.observed actions (world, seen)).2.2
      (session.run transport.observed actions (world, seen)).1.phase := by
  induction actions using List.reverseRecOn with
  | nil => exact lived
  | append_singleton earlier action ih =>
    unfold run at ih ⊢
    rw [List.foldl_append]
    exact (step_outcome transport action _ _ _).lived ih

theorem step_observed (action : SessionAction) (session : Session Connection) (world : World)
    (seen : List (Observation Connection)) :
    (session.step transport.observed action (world, seen)).map id (Prod.map id Prod.fst) =
      session.step transport action world := by
  cases action with
  | openConnection =>
    unfold step openConnection Transport.observed
    cases session.phase with
    | unopened =>
      dsimp only
      rcases transport.connect session.config.endpoint world with ⟨_ | _, _⟩ <;> rfl
    | opened | closed => rfl
  | closeConnection =>
    unfold step closeConnection
    cases session.phase <;> rfl
  | request request =>
    unfold step perform
    cases session.phase with
    | opened connection =>
      dsimp only
      split
      · rfl
      · cases request.check session.config.checkWrites <;> rfl
    | unopened | closed => rfl

theorem run_observed (actions : List SessionAction) (session : Session Connection) (world : World)
    (seen : List (Observation Connection)) :
    (session.run transport.observed actions (world, seen)).map id Prod.fst =
      session.run transport actions world := by
  induction actions using List.reverseRecOn with
  | nil => rfl
  | append_singleton earlier action ih =>
    unfold run at ih ⊢
    rw [List.foldl_append, List.foldl_append, ← ih]
    exact congrArg Prod.snd (step_observed transport action _ _ _)

/-- What a transport has seen in the end of a session that is dropped. -/
def Released (seen : List (Observation Connection)) : Prop :=
  (∃ failures : List ConnectionError, seen = failures.map .refused) ∨
    ∃ failures connection requests, seen = served failures connection requests ++
      [.closed connection]

theorem Lived.released (lived : Lived seen session.phase) (world : World) :
    Released (session.drop transport.observed (world, seen)).2 := by
  unfold drop closeConnection
  generalize session.phase = phase at lived ⊢
  cases lived with
  | unopened failures => exact .inl ⟨failures, rfl⟩
  | opened failures connection requests => exact .inr ⟨failures, connection, requests, rfl⟩
  | closed failures connection requests => exact .inr ⟨failures, connection, requests, rfl⟩

theorem session_of_create {config : SessionConfig} (created : create config = .ok session) :
    session = ⟨config, .unopened⟩ := by
  unfold create at created
  cases valid : config.endpoint.validate with
  | error cause =>
    rw [valid] at created
    cases created
  | ok =>
    rw [valid] at created
    cases created
    rfl

theorem phase_create {config : SessionConfig} (created : create config = .ok session) :
    session.phase = .unopened := by
  rw [session_of_create created]

def freshSession : Session Unit :=
  ⟨{}, .unopened⟩

theorem fresh_created : create {} = .ok freshSession :=
  rfl

def failingPeer : PreparedPeer where
  connects := [.error (.unreachable "127.0.0.1:6667")]
  closes := [.error (.lost "127.0.0.1:6667")]

def failingLife : List SessionAction :=
  [.request .version, .openConnection, .openConnection, .request .version, .closeConnection,
    .openConnection]

/-- Whatever a transport answers, it sees failed attempts to connect, then one that succeeds, calls
to that connection and one close, and of a session that was never opened failed attempts alone. What
a session answers to each further action, and what its transport sees of that, depends on its phase
as the outcomes say. -/
theorem connection_released_once {config : SessionConfig} (created : create config = .ok session)
    (transport : Transport World Connection) (world : World) (actions : List SessionAction)
    {reached : Session Connection} {now : World} {seen : List (Observation Connection)}
    (reaches : session.run transport.observed actions (world, []) = (reached, now, seen)) :
    session.run transport actions world = (reached, now) ∧
      Lived seen reached.phase ∧ Released (reached.drop transport.observed (now, seen)).2 ∧
      ∀ action, Outcome reached now seen action
        (reached.step transport.observed action (now, seen)) := by
  have new : Lived ([] : List (Observation Connection)) session.phase := by
    rw [phase_create created]
    exact .unopened []
  have lived := lived_run transport actions new world
  have plain := run_observed transport actions session world []
  rw [reaches] at lived plain
  exact ⟨plain.symm, lived, lived.released transport now, fun action =>
    step_outcome transport action reached now seen⟩

theorem failing_close_is_final :
    ∃ reached now seen, freshSession.run PreparedPeer.transport.observed failingLife
        (failingPeer, []) = (reached, now, seen) ∧
      seen = [.refused (.unreachable "127.0.0.1:6667"), .connected (), .called () .version,
        .closed ()] ∧
      Released (reached.drop PreparedPeer.transport.observed (now, seen)).2 ∧
      (reached.step PreparedPeer.transport.observed (.request .version) (now, seen)).1 =
        .error (.state .closed) := by
  obtain ⟨_, _, released, _⟩ := connection_released_once fresh_created PreparedPeer.transport
    failingPeer failingLife rfl
  exact ⟨_, _, _, rfl, rfl, released, rfl⟩

end Session

end TimeSeries
