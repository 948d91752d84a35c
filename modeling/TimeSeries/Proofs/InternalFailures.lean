import TimeSeries.Proofs.Locks
import TimeSeries.Proofs.SessionLifecycle

/-! Failures that nobody sees. Sessions and bare connections share a server, and whatever they ask
of it in whatever order, none of them is told that the server failed inside or that the store
rejected a write. -/

namespace TimeSeries

/-! ### Writes that fail before the store -/

def WriteError.isStorage : WriteError → Bool
  | .storage _ => true
  | _ => false

def StoreFree {α : Type} (result : Except WriteError α) : Prop :=
  ∀ error, result = .error error → error.isStorage = false

namespace StoreFree

variable {α β : Type} {result : Except WriteError α} {next : α → Except WriteError β}

theorem ok (value : α) : StoreFree (.ok value) := by
  rintro _ ⟨⟩

theorem error {error : WriteError} (free : error.isStorage = false) :
    StoreFree (.error error : Except WriteError α) := by
  rintro _ ⟨⟩
  exact free

theorem bind (first : StoreFree result) (rest : ∀ value, StoreFree (next value)) :
    StoreFree (result >>= next) := by
  cases result with
  | error fault => exact error (first fault rfl)
  | ok value => exact rest value

theorem guarded {condition : Prop} [Decidable condition] {fault : WriteError}
    (free : fault.isStorage = false) (rest : StoreFree result) :
    StoreFree (if condition then .error fault else result) := by
  split
  · exact error free
  · exact rest

theorem mapM {f : α → Except WriteError β} (each : ∀ item, StoreFree (f item)) (items : List α) :
    StoreFree (items.mapM f) := by
  induction items with
  | nil => exact ok []
  | cons item rest ih =>
    rw [List.mapM_cons]
    exact bind (each item) fun first => bind ih fun others => ok (first :: others)

end StoreFree

namespace Row

theorem checkShape_storeFree (measurements : List String) (values : Nat) :
    StoreFree (checkShape measurements values) :=
  .guarded rfl (.guarded rfl (.ok ()))

theorem checkDistinct_storeFree (measurements : List String) :
    StoreFree (checkDistinct measurements) := by
  unfold checkDistinct
  split
  · exact .error rfl
  · exact .ok ()

end Row

theorem Request.check_storeFree (thorough : Bool) (request : Request) :
    StoreFree (request.check thorough) := by
  have row (measurements : List String) (values : Nat) :
      StoreFree (checkRow thorough measurements values) := by
    unfold checkRow
    refine .bind (Row.checkShape_storeFree measurements values) fun _ => ?_
    split
    · exact Row.checkDistinct_storeFree measurements
    · exact .ok ()
  cases request with
  | insert | insertTablet => exact row _ _
  | _ => exact .ok ()

theorem Value.coerce_storeFree (series : String) (declared : DataType) (value : Value) :
    StoreFree (value.coerce series declared) := by
  unfold Value.coerce
  split
  · exact .ok _
  · exact .error rfl

namespace Server

variable {server : Server} {config : ServerConfig} {request : Request}

theorem readWritePath_storeFree (text : String) : StoreFree (readWritePath text) := by
  unfold readWritePath
  cases Path.parse text with
  | error => exact .error rfl
  | ok path => exact .ok path

theorem resolveEntries_storeFree (registry : Registry) (device : Path) (timestamp : Timestamp)
    (seen : List String) (entries : List (String × Value)) :
    StoreFree (resolveEntries registry device timestamp seen entries) := by
  induction entries generalizing seen with
  | nil => exact .ok []
  | cons entry entries ih =>
    unfold resolveEntries
    refine .guarded rfl (.bind ?_ fun series => ?_)
    · cases device.child entry.1 with
      | error => exact .error rfl
      | ok series => exact .ok series
    · cases registry.find? series with
      | none => exact .error rfl
      | some definition =>
        exact .bind (Value.coerce_storeFree _ _ _) fun _ => .bind (ih _) fun _ => .ok _

theorem resolveRow_storeFree (registry : Registry) (device : String) (timestamp : Timestamp)
    (measurements : List String) (values : List Value) :
    StoreFree (resolveRow registry device timestamp measurements values) :=
  .bind (Row.checkShape_storeFree _ _) fun _ => .bind (readWritePath_storeFree device) fun path =>
    resolveEntries_storeFree registry path timestamp [] _

theorem resolveRows_storeFree (server : Server) (device : String) (measurements : List String)
    (rows : List TabletRow) : StoreFree (server.resolveRows device measurements rows) := by
  induction rows with
  | nil => exact .ok []
  | cons row rows ih =>
    unfold resolveRows
    exact .guarded rfl (.bind (resolveRow_storeFree _ _ _ _ _) fun _ => .bind ih fun _ => .ok _)

theorem deleteData_storeFree (under : server.Under config) (opened : server.store.closed = false)
    (paths : List String) (stop : Timestamp) : StoreFree (server.deleteData paths stop) := by
  unfold deleteData
  refine .bind (.mapM readWritePath_storeFree paths) fun series => ?_
  split
  · exact .error rfl
  · rw [deleteFrom_eq stop series under.store.sound opened]
    exact .ok _

end Server

/-! ### Replies -/

def ServerError.isInternal : ServerError → Bool
  | .internal _ => true
  | .write cause => cause.isStorage
  | _ => false

def SessionError.isInternal : SessionError → Bool
  | .internal _ => true
  | .write cause => cause.isStorage
  | _ => false

def Request.RunsBackwards : Request → Prop
  | .select _ start stop => stop < start
  | _ => False

/-- A reply as a session expects it: the kind of response that goes with the request, or a refusal
for which the client is to blame. Only ranges that run backwards are left without a reply. -/
inductive Reply.Expected (request : Request) : Reply → Prop
  | answer {response : Response} {answer : Answer}
    (fits : Answer.ofResponse? request response = some answer) : Expected request (.answer response)
  | refused {error : ServerError} (blameless : error.isInternal = false) :
    Expected request (.refused error)
  | brokenOff (backwards : request.RunsBackwards) : Expected request .brokenOff

namespace Server

variable {server : Server} {config : ServerConfig} {request : Request}

theorem changeSchema_reply (change : Except SchemaError (Bool × Registry)) :
    (server.changeSchema change).1 = .answer .ok ∨
      ∃ error, (server.changeSchema change).1 = .refused (.schema error) := by
  cases change with
  | error error => exact .inr ⟨error, rfl⟩
  | ok changed => exact .inl rfl

theorem write_reply (under : server.Under config) (opened : server.store.closed = false)
    {points : Except WriteError (List AddressedPoint)} (free : StoreFree points) :
    (server.write points).1 = .answer .ok ∨
      ∃ error, (server.write points).1 = .refused (.write error) ∧ error.isStorage = false := by
  unfold write
  cases points with
  | error error => exact .inr ⟨error, rfl, free error rfl⟩
  | ok points =>
    dsimp only
    rcases writePoints_cases points under.store.sound opened with
      ⟨_, done⟩ | ⟨_, timestamp, stopped⟩
    · rw [done]
      exact .inl rfl
    · rw [stopped]
      exact .inr ⟨.outOfWindow timestamp, rfl, rfl⟩

theorem selectPoints_expected (under : server.Under config)
    (opened : server.store.closed = false) (text : String) (start stop : Timestamp) :
    Reply.Expected (.select text start stop) (server.selectPoints text start stop) := by
  unfold selectPoints
  cases SchemaError.readPath text with
  | error error => exact .refused rfl
  | ok path =>
    dsimp only
    split
    · by_cases broken : server.store.BreaksDown path.text start stop
      · rw [under.store.sound.select_eq_error opened broken]
        exact .brokenOff broken.1
      · obtain ⟨points, selected⟩ := under.store.sound.select_eq_ok opened broken
        rw [selected]
        exact .answer rfl
    · exact .refused rfl

theorem handle_expected (under : server.Under config) (opened : server.store.closed = false)
    (request : Request) : Reply.Expected request (server.handle request).1 := by
  have done {reply : Reply}
      (fits : Answer.ofResponse? request .ok = some .done)
      (replied : reply = .answer .ok ∨ ∃ error, reply = .refused (.schema error)) :
      Reply.Expected request reply := by
    rcases replied with rfl | ⟨error, rfl⟩
    · exact .answer fits
    · exact .refused rfl
  have wrote {points : Except WriteError (List AddressedPoint)} (free : StoreFree points)
      (fits : Answer.ofResponse? request .ok = some .done) :
      Reply.Expected request (server.write points).1 := by
    rcases write_reply under opened free with replied | ⟨error, replied, blameless⟩
    · rw [replied]
      exact .answer fits
    · rw [replied]
      exact .refused blameless
  cases request with
  | setStorageGroup | createTimeseries => exact done rfl (changeSchema_reply _)
  | deleteStorageGroups | deleteTimeseries => exact done rfl (dropSeries_reply opened _)
  | insert => exact wrote (resolveRow_storeFree _ _ _ _ _) rfl
  | insertTablet tablet => exact wrote (resolveRows_storeFree _ _ _ _) rfl
  | deleteData paths stop =>
    have free := deleteData_storeFree under opened paths stop
    unfold handle
    dsimp only
    cases deleted : server.deleteData paths stop with
    | error error => exact .refused (free error deleted)
    | ok left => exact .answer rfl
  | showStorageGroups | version => exact .answer rfl
  | showTimeseries pattern =>
    unfold handle
    dsimp only
    cases server.registry.show? pattern with
    | error error => exact .refused rfl
    | ok found => exact .answer rfl
  | checkTimeseriesExists path =>
    unfold handle
    dsimp only
    cases SchemaError.readPath path with
    | error error => exact .refused rfl
    | ok path => exact .answer rfl
  | select path start stop => exact selectPoints_expected under opened path start stop

theorem call_expected (under : server.Under config) (id : Nat) (request : Request) :
    Reply.Expected request (server.call id request).1 := by
  by_cases serves : server.Serves id
  · rw [call_eq serves]
    exact handle_expected under (under.opened serves.1) request
  · rw [call_lost serves]
    exact .refused rfl

/-- Once a server has shut down all connections are lost, and its store is never asked again. -/
theorem call_shut (under : server.Under config) (stopped : server.store.closed = true) (id : Nat)
    (request : Request) :
    server.call id request = (.refused (.connection (.lost server.address)), server) := by
  apply call_lost
  rintro ⟨running, _⟩
  rw [under.opened running] at stopped
  cases stopped

end Server

/-! ### Sessions -/

namespace Session

variable {server : Server} {config : ServerConfig}

def Blameless (action : SessionAction) (result : Except SessionError Answer) : Prop :=
  ∀ error, result = .error error → error.isInternal = false ∧
    (error = .brokenOff → ∃ request, action = .request request ∧ request.RunsBackwards)

theorem blameless_ok (action : SessionAction) (answer : Answer) :
    Blameless action (.ok answer) := by
  rintro _ ⟨⟩

theorem blameless_error {action : SessionAction} {error : SessionError}
    (free : error.isInternal = false) (whole : error ≠ .brokenOff) :
    Blameless action (.error error) := by
  rintro _ ⟨⟩
  exact ⟨free, fun broken => absurd broken whole⟩

theorem blameless_ofReply {request : Request} {reply : Reply}
    (expected : reply.Expected request) :
    Blameless (.request request) (Answer.ofReply request reply) := by
  cases expected with
  | answer fits =>
    unfold Answer.ofReply
    dsimp only
    rw [fits]
    exact blameless_ok _ _
  | @refused error blameless =>
    unfold Answer.ofReply
    cases error with
    | write cause => exact blameless_error blameless (by rintro ⟨⟩)
    | connection | schema => exact blameless_error rfl (by rintro ⟨⟩)
    | internal => cases blameless
  | brokenOff backwards =>
    rintro _ ⟨⟩
    exact ⟨rfl, fun _ => ⟨request, rfl, backwards⟩⟩

theorem step_blameless (under : server.Under config) (action : SessionAction)
    (session : Session Nat) :
    Blameless action (session.step Server.transport action server).1 := by
  cases action with
  | openConnection =>
    unfold step openConnection
    cases session.phase with
    | unopened =>
      dsimp only
      rcases Server.transport.connect session.config.endpoint server with ⟨cause | id, next⟩
      · exact blameless_error rfl (by rintro ⟨⟩)
      · exact blameless_ok _ _
    | opened | closed => exact blameless_error rfl (by rintro ⟨⟩)
  | closeConnection =>
    unfold step closeConnection
    cases session.phase with
    | opened id => exact blameless_ok _ _
    | unopened | closed => exact blameless_error rfl (by rintro ⟨⟩)
  | request request =>
    unfold step perform
    cases session.phase with
    | unopened | closed => exact blameless_error rfl (by rintro ⟨⟩)
    | opened id =>
      dsimp only
      split
      · exact blameless_ok _ _
      · cases checked : request.check session.config.checkWrites with
        | error error =>
          exact blameless_error (request.check_storeFree _ error checked) (by rintro ⟨⟩)
        | ok => exact blameless_ofReply (Server.call_expected under id request)

/-- A step of a session asks at most one thing of the server. -/
theorem step_server (action : SessionAction) (session : Session Nat) (server : Server) :
    ∃ actions, (session.step Server.transport action server).2.2 = server.run actions := by
  cases action with
  | openConnection =>
    unfold step openConnection
    cases session.phase with
    | unopened =>
      refine ⟨[.connect session.config.endpoint], ?_⟩
      dsimp only
      change _ = (Server.transport.connect session.config.endpoint server).2
      rcases Server.transport.connect session.config.endpoint server with ⟨_ | _, next⟩
      · rfl
      · rfl
    | opened | closed => exact ⟨[], rfl⟩
  | closeConnection =>
    unfold step closeConnection
    cases session.phase with
    | opened id => exact ⟨[.release id], rfl⟩
    | unopened | closed => exact ⟨[], rfl⟩
  | request request =>
    unfold step perform
    cases session.phase with
    | unopened | closed => exact ⟨[], rfl⟩
    | opened id =>
      dsimp only
      split
      · exact ⟨[], rfl⟩
      · cases request.check session.config.checkWrites with
        | error error => exact ⟨[], rfl⟩
        | ok => exact ⟨[.call id request], rfl⟩

end Session

/-! ### Many clients -/

structure Clients where
  server : Server
  sessions : List (Session Nat) := []
  connections : List Nat := []

inductive ClientAction where
  | create (config : SessionConfig)
  | session (place : Nat) (action : SessionAction)
  | drop (place : Nat)
  | connect (endpoint : Endpoint)
  | call (place : Nat) (request : Request)
  | close (place : Nat)
  | shutdown
  | sweep

inductive ClientAnswer where
  | session (result : Except SessionError Answer)
  | connection (result : Except ConnectionError Unit)
  | reply (reply : Reply)
  | nothing

namespace ClientAnswer

def isInternal : ClientAnswer → Bool
  | .session (.error error) => error.isInternal
  | .reply (.refused error) => error.isInternal
  | _ => false

def isBrokenOff : ClientAnswer → Bool
  | .session (.error .brokenOff) => true
  | .reply .brokenOff => true
  | _ => false

end ClientAnswer

def ClientAction.request? : ClientAction → Option Request
  | .session _ (.request request) => some request
  | .call _ request => some request
  | _ => none

namespace Clients

def perform (clients : Clients) : ClientAction → ClientAnswer × Clients
  | .create config =>
    match Session.create config with
    | .ok session =>
      (.session (.ok .done), { clients with sessions := clients.sessions ++ [session] })
    | .error error => (.session (.error error), clients)
  | .session place action =>
    match clients.sessions[place]? with
    | some session =>
      let (result, session, server) := session.step Server.transport action clients.server
      (.session result, { clients with server, sessions := clients.sessions.set place session })
    | none => (.nothing, clients)
  | .drop place =>
    match clients.sessions[place]? with
    | some session =>
      (.nothing, { clients with
        server := session.drop Server.transport clients.server
        sessions := clients.sessions.eraseIdx place })
    | none => (.nothing, clients)
  | .connect endpoint =>
    match Server.transport.connect endpoint clients.server with
    | (.ok id, server) =>
      (.connection (.ok ()), { clients with server, connections := clients.connections ++ [id] })
    | (.error cause, server) => (.connection (.error cause), { clients with server })
  | .call place request =>
    match clients.connections[place]? with
    | some id =>
      let (reply, server) := Server.transport.call id request clients.server
      (.reply reply, { clients with server })
    | none => (.nothing, clients)
  | .close place =>
    match clients.connections[place]? with
    | some id =>
      let (result, server) := Server.transport.close id clients.server
      (.connection result, { clients with server })
    | none => (.nothing, clients)
  | .shutdown => (.nothing, { clients with server := clients.server.shutdown })
  | .sweep => (.nothing, { clients with server := clients.server.perform .sweep })

def run (clients : Clients) (actions : List ClientAction) : Clients :=
  actions.foldl (fun clients action => (clients.perform action).2) clients

variable {clients : Clients} {server : Server} {config : ServerConfig}

/-- What an action answers and what it makes of the server. Only sessions and bare calls are told
what came of a request. -/
inductive Outcome (server : Server) : ClientAction → ClientAnswer → Server → Prop
  | settled {action : ClientAction} {answer : ClientAnswer} (history : List ServerAction)
    (plain : answer.isInternal = false) (whole : answer.isBrokenOff = false) :
    Outcome server action answer (server.run history)
  | stepped (place : Nat) (session : Session Nat) (action : SessionAction) :
    Outcome server (.session place action)
      (.session (session.step Server.transport action server).1)
      (session.step Server.transport action server).2.2
  | called (place id : Nat) (request : Request) :
    Outcome server (.call place request) (.reply (server.call id request).1)
      (server.perform (.call id request))

theorem perform_outcome (clients : Clients) (action : ClientAction) :
    Outcome clients.server action (clients.perform action).1 (clients.perform action).2.server := by
  have idle {action : ClientAction} : Outcome clients.server action .nothing clients.server :=
    .settled [] rfl rfl
  unfold perform
  cases action with
  | create config =>
    unfold Session.create
    dsimp only
    cases config.endpoint.validate with
    | error cause => exact .settled [] rfl rfl
    | ok => exact .settled [] rfl rfl
  | session place action =>
    dsimp only
    cases clients.sessions[place]? with
    | none => exact idle
    | some session => exact .stepped place session action
  | drop place =>
    dsimp only
    cases clients.sessions[place]? with
    | none => exact idle
    | some session =>
      obtain ⟨history, closed⟩ := session.step_server .closeConnection clients.server
      have dropped : session.drop Server.transport clients.server = clients.server.run history :=
        closed
      dsimp only
      rw [dropped]
      exact .settled history rfl rfl
  | connect endpoint =>
    dsimp only
    have reached : (Server.transport.connect endpoint clients.server).2 =
      clients.server.run [.connect endpoint] := rfl
    rcases connected : Server.transport.connect endpoint clients.server with ⟨cause | id, next⟩
    all_goals
      rw [connected] at reached
      change next = _ at reached
      dsimp only
      rw [reached]
      exact .settled _ rfl rfl
  | call place request =>
    dsimp only
    cases clients.connections[place]? with
    | none => exact idle
    | some id => exact .called place id request
  | close place =>
    dsimp only
    cases clients.connections[place]? with
    | none => exact idle
    | some id => exact .settled [.release id] rfl rfl
  | shutdown => exact .settled [.shutdown] rfl rfl
  | sweep => exact .settled [.sweep] rfl rfl

/-- Whatever clients do comes down to what the server is asked. -/
theorem Outcome.history {action : ClientAction} {answer : ClientAnswer} {next : Server}
    (outcome : Outcome server action answer next) : ∃ history, next = server.run history := by
  cases outcome with
  | settled history => exact ⟨history, rfl⟩
  | stepped place session action => exact session.step_server action server
  | called place id request => exact ⟨[.call id request], rfl⟩

theorem run_server (clients : Clients) (actions : List ClientAction) :
    ∃ history, (clients.run actions).server = clients.server.run history := by
  induction actions using List.reverseRecOn with
  | nil => exact ⟨[], rfl⟩
  | append_singleton earlier action ih =>
    obtain ⟨before, reached⟩ := ih
    obtain ⟨last, step⟩ := ((clients.run earlier).perform_outcome action).history
    refine ⟨before ++ last, ?_⟩
    rw [Server.run_append, ← reached, ← step]
    unfold run
    rw [List.foldl_append]
    rfl

theorem Outcome.blameless {action : ClientAction} {answer : ClientAnswer} {next : Server}
    (outcome : Outcome server action answer next) (under : server.Under config) :
    answer.isInternal = false ∧ (answer.isBrokenOff = true →
      ∃ request ∈ action.request?, request.RunsBackwards) := by
  cases outcome with
  | settled history plain whole =>
    rw [whole]
    exact ⟨plain, by rintro ⟨⟩⟩
  | stepped place session action =>
    have blameless := Session.step_blameless under action session
    cases result : (session.step Server.transport action server).1 with
    | ok answer => exact ⟨rfl, by rintro ⟨⟩⟩
    | error error =>
      obtain ⟨free, broken⟩ := blameless error result
      refine ⟨free, fun brokenOff => ?_⟩
      have same : error = .brokenOff := by
        cases error with
        | brokenOff => rfl
        | _ => cases brokenOff
      obtain ⟨request, rfl, backwards⟩ := broken same
      exact ⟨request, rfl, backwards⟩
  | called place id request =>
    have expected := Server.call_expected under id request
    generalize (server.call id request).1 = reply at expected
    cases expected with
    | answer fits => exact ⟨rfl, by rintro ⟨⟩⟩
    | refused blameless => exact ⟨blameless, by rintro ⟨⟩⟩
    | brokenOff backwards => exact ⟨rfl, fun _ => ⟨request, rfl, backwards⟩⟩

/-- Two sessions and a bare connection. The connection sets the group, one session declares a series
in it and stores three points. -/
def busyHour : List ClientAction :=
  [.create {}, .create {}, .connect {}, .session 0 .openConnection, .session 1 .openConnection,
    .session 1 .openConnection, .call 0 (.setStorageGroup "root.plant"),
    .session 0 (.request (.createTimeseries "root.plant.speed" .int32 .plain .snappy)),
    .session 0 (.request (.insert "root.plant" (Ranged.clamp 0) ["speed"]
      [.int32 (Ranged.clamp 1)])),
    .session 0 (.request (.insert "root.plant" (Ranged.clamp 10) ["speed"]
      [.int32 (Ranged.clamp 2)])),
    .session 0 (.request (.insert "root.plant" (Ranged.clamp 20) ["speed"]
      [.int32 (Ranged.clamp 3)]))]

def backwardsSpeed : ClientAction :=
  .session 1 (.request (.select "root.plant.speed" (Ranged.clamp 15) (Ranged.clamp 5)))

/-- Whatever the clients of a server do, no answer tells of a failure inside the server, and only
ranges that run backwards are left without an answer. The store is closed when the server has shut
down and not before, and from then on all connections are lost. An open store refuses points alone,
and only for their time. No lock is ever spoiled: with their locks servers and stores reply as they
do without. -/
theorem internal_failures_unreachable (started : Server.start config = .ok server)
    (actions : List ClientAction) (reaches : ({ server } : Clients).run actions = clients) :
    (∀ action, (clients.perform action).1.isInternal = false ∧
      ((clients.perform action).1.isBrokenOff = true →
        ∃ request ∈ action.request?, request.RunsBackwards)) ∧
    (clients.server.store.closed = !clients.server.running ∧
      (clients.server.running = false → ∀ id request, clients.server.call id request =
        (.refused (.connection (.lost clients.server.address)), clients.server))) ∧
    (∃ history, clients.server = server.run history ∧
      Server.runLocked ⟨server, false⟩ history = ⟨clients.server, false⟩ ∧
      ∀ id request, Server.callLocked id request ⟨clients.server, false⟩ =
        ((clients.server.call id request).1, ⟨(clients.server.call id request).2, false⟩)) ∧
    ∀ (storage : StoreConfig) (store : Store), Store.create storage = .ok store →
      ∀ steps : List StoreAction,
        (∀ action, (StoreReply.ofResult ((store.run steps).perform action).1).Expected action) ∧
        (storage.duration ≤ 9223372036854775807 →
          Store.runLocked ⟨store, false⟩ steps = ⟨store.run steps, false⟩ ∧
          ∀ action, Store.performLocked ⟨store.run steps, false⟩ action =
            (.ofResult ((store.run steps).perform action).1,
              ⟨((store.run steps).perform action).2, false⟩)) := by
  obtain ⟨history, reached⟩ := run_server { server } actions
  rw [reaches] at reached
  have under : clients.server.Under config := reached ▸ (Server.under_start started).run history
  refine ⟨fun action => (clients.perform_outcome action).blameless under, ⟨under.closed, ?_⟩,
    ⟨history, reached, ?_, Server.callLocked_eq under⟩, ?_⟩
  · intro stopped
    apply Server.call_shut under
    rw [under.closed, stopped]
    rfl
  · rw [reached]
    exact Server.runLocked_eq (Server.under_start started) history
  · intro storage store created steps
    have related := Ledger.related_run created steps
    refine ⟨related.sound.reply_expected related.opened, fun narrow => ⟨?_, ?_⟩⟩
    · exact Store.runLocked_eq created narrow steps
    · exact related.sound.performLocked_eq related.opened (related.duration.trans_le narrow)

theorem busy_hour_spoils_no_lock :
    (∃ clients, ({ server := Server.defaultServer } : Clients).run busyHour = clients ∧
      (clients.perform backwardsSpeed).1.isBrokenOff = true ∧
      (clients.perform backwardsSpeed).1.isInternal = false) ∧
    (∃ clients, ({ server := Server.defaultServer } : Clients).run
        (busyHour ++ [backwardsSpeed, .shutdown]) = clients ∧
      clients.server.call 1 .version =
        (.refused (.connection (.lost "127.0.0.1:6667")), clients.server)) ∧
    Store.performLocked ⟨Store.hourlyStore.run Store.threePoints, false⟩
      (.select "s" (Ranged.clamp 15) (Ranged.clamp 5)) =
        (.brokenOff, ⟨Store.hourlyStore.run Store.threePoints, false⟩) := by
  obtain ⟨answers, _, _, stores⟩ :=
    internal_failures_unreachable Server.default_started busyHour rfl
  obtain ⟨_, ⟨_, lost⟩, _⟩ := internal_failures_unreachable Server.default_started
    (busyHour ++ [backwardsSpeed, .shutdown]) rfl
  refine ⟨⟨_, rfl, by decide +kernel, (answers backwardsSpeed).1⟩, ⟨_, rfl, ?_⟩, ?_⟩
  · exact lost (by decide +kernel) 1 .version
  · obtain ⟨_, locks⟩ := stores {} Store.hourlyStore Store.hourly_created Store.threePoints
    exact (locks (by decide)).2 (.select "s" (Ranged.clamp 15) (Ranged.clamp 5))

end Clients

end TimeSeries
