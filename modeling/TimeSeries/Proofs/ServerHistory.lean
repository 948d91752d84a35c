import Mathlib.Data.List.Induction
import TimeSeries.Proofs.RowResolution
import TimeSeries.Server.Answer

/-! All that can happen to a server from its start on, and all that one request can do to it. -/

namespace TimeSeries

/-- What can happen to a server. Calls name the session that they come from. -/
inductive ServerAction where
  | connect (endpoint : Endpoint)
  | call (id : Nat) (request : Request)
  | release (id : Nat)
  | shutdown
  | sweep

theorem ServerAction.call_or_idle (action : ServerAction) :
    (∃ id request, action = .call id request) ∨ ∀ id request, action ≠ .call id request := by
  cases action with
  | call id request => exact .inl ⟨id, request, rfl⟩
  | _ =>
    right
    intro id request same
    cases same

def Request.writes : Request → Bool
  | .insert _ _ _ _ => true
  | .insertTablet _ => true
  | _ => false

def Request.asks : Request → Bool
  | .showStorageGroups => true
  | .showTimeseries _ => true
  | .checkTimeseriesExists _ => true
  | .select _ _ _ => true
  | .version => true
  | _ => false

namespace Server

def perform (server : Server) : ServerAction → Server
  | .connect endpoint => (connect endpoint server).2
  | .call id request => (call id request server).2
  | .release id => release id server
  | .shutdown => shutdown server
  | .sweep => { server with store := server.store.sweep }

def run (server : Server) (actions : List ServerAction) : Server :=
  actions.foldl perform server

theorem run_append (server : Server) (before after : List ServerAction) :
    server.run (before ++ after) = (server.run before).run after :=
  List.foldl_append

def Serves (server : Server) (id : Nat) : Prop :=
  server.running = true ∧ server.hasSession id = true

instance (server : Server) (id : Nat) : Decidable (server.Serves id) :=
  inferInstanceAs (Decidable (_ ∧ _))

def resolve (server : Server) : Request → Except WriteError (List AddressedPoint)
  | .insert device timestamp measurements values =>
    resolveRow server.registry device timestamp measurements values
  | .insertTablet tablet => server.resolveTablet tablet
  | _ => .ok []

/-- A server whose schema and store are sound. Its store is open as long as it runs. -/
structure Under (config : ServerConfig) (server : Server) : Prop where
  registry : server.registry.Sound
  store : server.store.Under config.store
  closed : server.store.closed = !server.running

variable {server next : Server} {config : ServerConfig} {request : Request} {reply : Reply}

theorem Under.opened (under : server.Under config) (running : server.running = true) :
    server.store.closed = false := by
  rw [under.closed, running]
  rfl

/-! ### One request -/

inductive Outcome (server : Server) : Request → Reply → Server → Prop
  | refused (request : Request) (error : ServerError) :
    Outcome server request (.refused error) server
  | asked {request : Request} (reply : Reply) (asks : request.asks = true) :
    Outcome server request reply server
  | grouped {path : String} {registry : Registry}
    (series : registry.series = server.registry.series) :
    Outcome server (.setStorageGroup path) (.answer .ok) { server with registry }
  | known {path : String} {dataType : DataType} {encoding : Encoding}
    {compression : Compression} :
    Outcome server (.createTimeseries path dataType encoding compression) (.answer .ok) server
  | declared {path : String} {dataType : DataType} {encoding : Encoding}
    {compression : Compression} (definition : Definition)
    (named : definition.path.text = path) (typed : definition.dataType = dataType)
    (fresh : server.registry.find? definition.path = none) :
    Outcome server (.createTimeseries path dataType encoding compression) (.answer .ok)
      { server with registry :=
        { server.registry with series := Keyed.place definition server.registry.series } }
  | lostGroups {texts : List String} {lost : List Path} {registry : Registry}
    (loses : server.registry.Loses lost registry)
    (listed : ∀ path, path ∈ lost ↔ ∃ definition,
      server.registry.find? path = some definition ∧ definition.group.text ∈ texts) :
    Outcome server (.deleteStorageGroups texts) (.answer .ok)
      { server with registry, store := removedAll lost server.store }
  | lostSeries {texts : List String} {lost : List Path} {registry : Registry}
    (loses : server.registry.Loses lost registry) (listed : lost.map Path.text = texts) :
    Outcome server (.deleteTimeseries texts) (.answer .ok)
      { server with registry, store := removedAll lost server.store }
  | wrote {request : Request} {points : List AddressedPoint} (writes : request.writes = true)
    (resolved : server.resolve request = .ok points)
    (all : admitted points server.store = points) :
    Outcome server request (.answer .ok) { server with store := written points server.store }
  | stopped {request : Request} {points : List AddressedPoint} (timestamp : Timestamp)
    (writes : request.writes = true) (resolved : server.resolve request = .ok points)
    (some_left : admitted points server.store ≠ points) :
    Outcome server request (.refused (.write (.outOfWindow timestamp)))
      { server with store := written (admitted points server.store) server.store }
  | deleted {texts : List String} {stop : Timestamp} {series : List Path} (count : Count)
    (listed : series.map Path.text = texts) :
    Outcome server (.deleteData texts stop) (.answer (.deleted count))
      { server with store := deletedAll series stop server.store }

theorem changeSchema_cases {change : Except SchemaError (Bool × Registry)}
    (handled : server.changeSchema change = (reply, next)) :
    (∃ fresh registry, change = .ok (fresh, registry) ∧ reply = .answer .ok ∧
      next = { server with registry }) ∨ ∃ error, reply = .refused error ∧ next = server := by
  cases change with
  | error error =>
    cases handled
    exact .inr ⟨_, rfl, rfl⟩
  | ok changed =>
    cases handled
    exact .inl ⟨_, _, rfl, rfl, rfl⟩

theorem dropSeries_cases (opened : server.store.closed = false)
    {change : Except SchemaError (List Path × Registry)}
    (handled : server.dropSeries change = (reply, next)) :
    (∃ lost registry, change = .ok (lost, registry) ∧ reply = .answer .ok ∧
      next = { server with registry, store := removedAll lost server.store }) ∨
      ∃ error, reply = .refused error ∧ next = server := by
  cases change with
  | error error =>
    cases handled
    exact .inr ⟨_, rfl, rfl⟩
  | ok changed =>
    unfold dropSeries at handled
    dsimp only at handled
    rw [removeAll_eq changed.1 opened] at handled
    cases handled
    exact .inl ⟨_, _, rfl, rfl, rfl⟩

theorem handle_write (writes : request.writes = true) :
    server.handle request = server.write (server.resolve request) := by
  cases request with
  | insert | insertTablet => rfl
  | _ => cases writes

/-- Without limits a server writes whatever it has resolved. -/
theorem Under.write_eq (under : server.Under config) (boundless : config.store.Boundless)
    (running : server.running = true) (points : List AddressedPoint) :
    server.write (.ok points) =
      (.answer .ok, { server with store := written points server.store }) := by
  unfold write
  rcases writePoints_cases points under.store.sound (under.opened running) with
    ⟨_, done⟩ | ⟨some_left, _⟩
  · simp only [done]
  · exact absurd (admitted_eq points under.store boundless) some_left

theorem write_outcome (under : server.Under config) (opened : server.store.closed = false)
    (writes : request.writes = true)
    (handled : server.write (server.resolve request) = (reply, next)) :
    Outcome server request reply next := by
  cases resolved : server.resolve request with
  | error error =>
    rw [resolved] at handled
    cases handled
    exact .refused _ _
  | ok points =>
    rw [resolved] at handled
    unfold write at handled
    dsimp only at handled
    rcases writePoints_cases points under.store.sound opened with
      ⟨all, done⟩ | ⟨some_left, timestamp, done⟩
    · rw [done] at handled
      cases handled
      exact .wrote writes resolved all
    · rw [done] at handled
      cases handled
      exact .stopped timestamp writes resolved some_left

theorem text_of_readWritePath {text : String} {path : Path}
    (read : readWritePath text = .ok path) : path.text = text := by
  unfold readWritePath at read
  cases parsed : Path.parse text with
  | error fault =>
    rw [parsed] at read
    cases read
  | ok found =>
    rw [parsed] at read
    cases read
    exact Path.text_of_parse parsed

theorem deleteData_ok (under : server.Under config) (opened : server.store.closed = false)
    {texts : List String} {stop : Timestamp} {count : Nat} {store : Store}
    (done : server.deleteData texts stop = .ok (count, store)) :
    ∃ series, series.map Path.text = texts ∧ store = deletedAll series stop server.store := by
  unfold deleteData at done
  cases read : texts.mapM readWritePath with
  | error fault =>
    rw [read] at done
    cases done
  | ok series =>
    have deleted := deleteFrom_eq stop series under.store.sound opened
    simp only [read, deleted, bind, Except.bind] at done
    split at done
    · cases done
    · cases done
      exact ⟨series, items_of_mapM read fun _ _ => text_of_readWritePath, rfl⟩

theorem handle_outcome (under : server.Under config) (opened : server.store.closed = false)
    (handled : server.handle request = (reply, next)) : Outcome server request reply next := by
  cases request with
  | setStorageGroup path =>
    rcases changeSchema_cases handled with ⟨_, registry, changed, rfl, rfl⟩ | ⟨_, rfl, rfl⟩
    · rcases Registry.setGroup_cases changed with rfl | ⟨_, _, _, _, rfl⟩
      · exact .grouped rfl
      · exact .grouped rfl
    · exact .refused _ _
  | deleteStorageGroups texts =>
    rcases dropSeries_cases opened handled with ⟨_, _, changed, rfl, rfl⟩ | ⟨_, rfl, rfl⟩
    · obtain ⟨loses, listed⟩ := under.registry.deleteGroups changed
      exact .lostGroups loses listed
    · exact .refused _ _
  | createTimeseries path dataType encoding compression =>
    rcases changeSchema_cases handled with ⟨_, registry, changed, rfl, rfl⟩ | ⟨_, rfl, rfl⟩
    · rcases Registry.createSeries_cases changed with
        rfl | ⟨definition, named, typed, takes, rfl⟩
      · exact .known
      · exact .declared definition named typed takes.absent
    · exact .refused _ _
  | deleteTimeseries texts =>
    rcases dropSeries_cases opened handled with ⟨_, _, changed, rfl, rfl⟩ | ⟨_, rfl, rfl⟩
    · obtain ⟨loses, listed⟩ := under.registry.deleteSeries changed
      exact .lostSeries loses listed
    · exact .refused _ _
  | insert device timestamp measurements values => exact write_outcome under opened rfl handled
  | insertTablet tablet => exact write_outcome under opened rfl handled
  | deleteData texts stop =>
    unfold handle at handled
    cases done : server.deleteData texts stop with
    | error error =>
      simp only [done] at handled
      cases handled
      exact .refused _ _
    | ok answered =>
      simp only [done] at handled
      cases handled
      obtain ⟨series, listed, same⟩ := deleteData_ok under opened done
      rw [same]
      exact .deleted _ listed
  | showStorageGroups =>
    cases handled
    exact .asked _ rfl
  | showTimeseries pattern =>
    cases handled
    exact .asked _ rfl
  | checkTimeseriesExists path =>
    cases handled
    exact .asked _ rfl
  | select path start stop =>
    cases handled
    exact .asked _ rfl
  | version =>
    cases handled
    exact .asked _ rfl

theorem call_eq {id : Nat} (serves : server.Serves id) :
    server.call id request = server.handle request := by
  unfold call
  rw [serves.1, serves.2]
  rfl

theorem call_lost {id : Nat} (lost : ¬server.Serves id) :
    server.call id request = (.refused (.connection (.lost server.address)), server) := by
  unfold call
  rw [if_neg (by simpa [Serves] using lost)]

/-- A call is carried out or refused as if the connection were lost. -/
theorem call_outcome (under : server.Under config) (id : Nat) (request : Request) :
    Outcome server request (server.call id request).1 (server.perform (.call id request)) := by
  change Outcome server request (server.call id request).1 (server.call id request).2
  by_cases serves : server.Serves id
  · rw [call_eq serves]
    exact handle_outcome under (under.opened serves.1) rfl
  · rw [call_lost serves]
    exact .refused _ _

/-! ### All that can happen -/

theorem Outcome.under (outcome : Outcome server request reply next)
    (under : server.Under config) : next.Under config := by
  cases outcome with
  | refused | asked | known => exact under
  | grouped series =>
    refine { under with registry := ?_ }
    unfold Registry.Sound
    rw [series]
    exact under.registry
  | declared definition named typed fresh =>
    exact { under with registry := under.registry.place definition }
  | lostGroups loses | lostSeries loses =>
    obtain ⟨store, closed⟩ := under_removedAll _ under.store
    exact ⟨loses.sound, store, closed.trans under.closed⟩
  | wrote | stopped =>
    exact { under with
      store := under_written _ under.store
      closed := (written_closed _ _).trans under.closed }
  | deleted count listed =>
    obtain ⟨store, closed⟩ := under_deletedAll _ _ under.store
    exact { under with store, closed := closed.trans under.closed }

theorem start_cases (started : start config = .ok server) :
    ∃ store, Store.create config.store = .ok store ∧
      server = { address := config.address, users := config.users, store } := by
  unfold start at started
  cases valid : config.validate with
  | error cause =>
    rw [valid] at started
    cases started
  | ok =>
    rw [valid] at started
    cases created : Store.create config.store with
    | error cause =>
      rw [created] at started
      cases started
    | ok store =>
      rw [created] at started
      cases started
      exact ⟨store, rfl, rfl⟩

theorem under_start (started : start config = .ok server) : server.Under config := by
  obtain ⟨store, created, rfl⟩ := start_cases started
  obtain ⟨_, window, _, shape⟩ := Store.create_ok created
  refine ⟨Registry.sound_empty, Store.under_create created, ?_⟩
  rw [shape]
  rfl

theorem connect_frame (endpoint : Endpoint) (server : Server) :
    (connect endpoint server).2.registry = server.registry ∧
      (connect endpoint server).2.store = server.store ∧
        (connect endpoint server).2.running = server.running := by
  unfold connect
  split
  · exact ⟨rfl, rfl, rfl⟩
  · split
    · exact ⟨rfl, rfl, rfl⟩
    · exact ⟨rfl, rfl, rfl⟩

theorem shutdown_frame (server : Server) : (shutdown server).registry = server.registry ∧
    ((shutdown server).store = server.store ∨
      (shutdown server).store = { server.store.sweep with closed := true }) := by
  unfold shutdown
  split
  · exact ⟨rfl, server.store.close_cases⟩
  · exact ⟨rfl, .inl rfl⟩

theorem Under.perform (under : server.Under config) (action : ServerAction) :
    (server.perform action).Under config := by
  cases action with
  | connect endpoint =>
    obtain ⟨registry, store, running⟩ := connect_frame endpoint server
    exact ⟨registry ▸ under.registry, store ▸ under.store, by
      rw [Server.perform, store, running, under.closed]⟩
  | call id request => exact (call_outcome under id request).under under
  | release id => exact ⟨under.registry, under.store, under.closed⟩
  | shutdown =>
    unfold Server.perform shutdown
    by_cases running : server.running = true
    · rw [if_pos running]
      have closes : server.store.close.closed = true := by
        unfold Store.close
        rw [under.opened running]
        rfl
      exact ⟨under.registry, under.store.close, closes⟩
    · rw [if_neg running]
      exact under
  | sweep => exact ⟨under.registry, under.store.sweep, under.closed⟩

theorem Under.run (under : server.Under config) (actions : List ServerAction) :
    (server.run actions).Under config := by
  induction actions using List.reverseRecOn with
  | nil => exact under
  | append_singleton earlier action ih =>
    rw [run_append]
    exact ih.perform action

/-! ### Selections and deletions -/

theorem call_select {id : Nat} (serves : server.Serves id) {text : String} {path : Path}
    (parsed : Path.parse text = .ok path) (declared : server.registry.contains path = true)
    {start stop : Timestamp} {points : List Point}
    (selected : server.store.select path.text start stop = .ok points) :
    (server.call id (.select text start stop)).1 = .answer (.dataPoints points) := by
  have read : SchemaError.readPath text = .ok path := by
    unfold SchemaError.readPath
    rw [parsed]
    rfl
  rw [call_eq serves]
  change server.selectPoints text start stop = _
  unfold selectPoints
  rw [read]
  dsimp only
  rw [if_pos declared, selected]

theorem Under.select_answer (under : server.Under config) {id : Nat} (serves : server.Serves id)
    {text : String} {path : Path} (parsed : Path.parse text = .ok path)
    (declared : server.registry.contains path = true) {start stop : Timestamp}
    (forward : start ≤ stop) :
    ∃ points, (server.call id (.select text start stop)).1 = .answer (.dataPoints points) ∧
      Keyed.Ascending points ∧ ∀ point, point ∈ points ↔ point.between start stop = true ∧
        server.store.sweep.valueAt path.text point.timestamp = some point.value := by
  obtain ⟨points, selected, ordered, exactly⟩ :=
    under.store.sound.select_cells (under.opened serves.1) path.text forward
  exact ⟨points, call_select serves parsed declared selected, ordered, exactly⟩

def Drops (server : Server) (path : Path) : Request → Prop
  | .deleteTimeseries texts => path.text ∈ texts
  | .deleteStorageGroups texts =>
    ∃ definition, server.registry.find? path = some definition ∧ definition.group.text ∈ texts
  | _ => False

theorem Drops.other {path : Path} (drops : server.Drops path request) :
    request.asks = false ∧ request.writes = false := by
  cases request with
  | deleteTimeseries | deleteStorageGroups => exact ⟨rfl, rfl⟩
  | _ => exact drops.elim

/-- A series that is dropped is neither declared nor held afterwards. -/
theorem Outcome.dropped {response : Response}
    (outcome : Outcome server request (.answer response) next) {path : Path}
    (drops : server.Drops path request) : next.registry.find? path = none ∧
      ∀ timestamp, next.store.valueAt path.text timestamp = none := by
  have gone {lost : List Path} {registry : Registry} (loses : server.registry.Loses lost registry)
      (listed : path ∈ lost) : registry.find? path = none ∧
        ∀ timestamp, (removedAll lost server.store).valueAt path.text timestamp = none := by
    constructor
    · rw [loses.found, if_pos listed]
    · intro timestamp
      rw [valueAt_removedAll, if_pos (List.mem_map_of_mem listed)]
  cases outcome with
  | lostGroups loses listed => exact gone loses ((listed path).mpr drops)
  | lostSeries loses listed =>
    have named : path.text ∈ List.map Path.text _ := listed.symm ▸ drops
    exact gone loses ((List.mem_map_of_injective fun _ _ => Path.text_injective).mp named)
  | asked reply asks => exact absurd asks (by simp [drops.other.1])
  | wrote writes => exact absurd writes (by simp [drops.other.2])
  | grouped | known | declared | deleted => exact drops.elim

/-! ### A server with one series -/

def defaultServer : Server where
  address := "127.0.0.1:6667"
  users := [("root", "root")]
  store := { duration := 3600000, writable := none, kept := none, window := ⟨{}, none⟩ }

theorem default_started : start {} = .ok defaultServer :=
  rfl

def briefConfig : ServerConfig where
  store := { duration := 10, kept := some 1 }

def briefServer : Server :=
  { defaultServer with store := {
      duration := 10
      writable := some 1
      kept := some 1
      window := ⟨{ past := some 10 }, none⟩ } }

theorem brief_started : start briefConfig = .ok briefServer :=
  rfl

def speed : Path where
  below := [.named ⟨"plant", by decide +kernel⟩, .named ⟨"speed", by decide +kernel⟩]

def declareSpeed : List ServerAction :=
  [.connect {}, .call 1 (.setStorageGroup "root.plant"),
    .call 1 (.createTimeseries "root.plant.speed" .int32 .plain .snappy)]

def storeSpeed (timestamp value : Int) : ServerAction :=
  .call 1 (.insert "root.plant" (Ranged.clamp timestamp) ["speed"] [.int32 (Ranged.clamp value)])

end Server

end TimeSeries
