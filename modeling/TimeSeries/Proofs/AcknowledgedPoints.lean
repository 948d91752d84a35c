import TimeSeries.Proofs.ServerHistory

/-! A server without limits on its store keeps what it acknowledges. Each cell holds the value of
the last acknowledged write to it, unless an acknowledged deletion came later, and a selection
returns exactly these values. -/

namespace TimeSeries

structure StoreConfig.Unlimited (config : StoreConfig) : Prop where
  hot : config.hot = none
  kept : config.kept = none
  bounds : config.bounds = none

theorem StoreConfig.Unlimited.boundless {config : StoreConfig} (unlimited : config.Unlimited) :
    config.Boundless where
  hot := unlimited.hot
  kept := unlimited.kept
  past := by rw [unlimited.bounds]; rfl
  future := by rw [unlimited.bounds]; rfl

namespace Server

def Puts (server : Server) (path : Path) (timestamp : Timestamp) (value : Value) : Request → Prop
  | .insert device time measurements values =>
    timestamp = time ∧ server.registry.Assigns device measurements values path value
  | .insertTablet tablet => ∃ row ∈ Tablet.lastRow? tablet.rows timestamp,
    server.registry.Assigns tablet.device tablet.measurements row.values path value
  | _ => False

def Empties (server : Server) (path : Path) (timestamp : Timestamp) : Request → Prop
  | .deleteData texts stop => path.text ∈ texts ∧ timestamp ≤ stop
  | request => server.Drops path request

def Touches (server : Server) (path : Path) (timestamp : Timestamp) (request : Request) : Prop :=
  server.Empties path timestamp request ∨ ∃ value, server.Puts path timestamp value request

def Acknowledges (server : Server) (id : Nat) (request : Request) : Prop :=
  ∃ response, (server.call id request).1 = .answer response

/-- A value stands in a cell if an acknowledged call puts it there and no acknowledged call after
that touches the cell. -/
def Stands (server : Server) (actions : List ServerAction) (path : Path) (timestamp : Timestamp)
    (value : Value) : Prop :=
  ∃ before id request after, actions = before ++ .call id request :: after ∧
    (server.run before).Acknowledges id request ∧
    (server.run before).Puts path timestamp value request ∧
    ∀ earlier other again later, after = earlier ++ .call other again :: later →
      (server.run (before ++ .call id request :: earlier)).Acknowledges other again →
      ¬(server.run (before ++ .call id request :: earlier)).Touches path timestamp again

variable {server next : Server} {config : ServerConfig} {request : Request} {reply : Reply}
  {path : Path} {timestamp : Timestamp}

/-! ### One action -/

theorem lastValue_iff_puts {points : List AddressedPoint}
    (resolved : server.resolve request = .ok points) (writes : request.writes = true)
    {value : Value} : lastValue path.text timestamp points = some value ↔
      server.Puts path timestamp value request := by
  cases request with
  | insert => exact (resolveRow_ok resolved).lastValue_iff
  | insertTablet tablet =>
    have rows := (resolveRows_ok resolved).1
    rw [rows.lastValue_iff, Tablet.lastRow?_sorted]
    rfl
  | _ => cases writes

theorem not_puts (writes : request.writes = false) (value : Value) :
    ¬server.Puts path timestamp value request := by
  cases request with
  | insert | insertTablet => cases writes
  | _ => exact id

theorem not_touches_of_asks (asks : request.asks = true) :
    ¬server.Touches path timestamp request := by
  rintro (empties | ⟨value, puts⟩)
  · cases request with
    | showStorageGroups | showTimeseries | checkTimeseriesExists | select | version => exact empties
    | _ => cases asks
  · cases request with
    | insert | insertTablet => cases asks
    | _ => exact puts

theorem touches_iff_puts (writes : request.writes = true) :
    server.Touches path timestamp request ↔ ∃ value, server.Puts path timestamp value request := by
  cases request with
  | insert | insertTablet => exact or_iff_right id
  | _ => cases writes

theorem touches_iff_empties (writes : request.writes = false) :
    server.Touches path timestamp request ↔ server.Empties path timestamp request :=
  or_iff_left fun ⟨value, puts⟩ => not_puts writes value puts

def Updates (server : Server) (request : Request) (reply : Reply) (path : Path)
    (timestamp : Timestamp) (before after : Option Value) : Prop :=
  ∀ value, after = some value ↔
    (∃ response, reply = .answer response) ∧ server.Puts path timestamp value request ∨
      before = some value ∧
        ¬((∃ response, reply = .answer response) ∧ server.Touches path timestamp request)

theorem updates_of_same {cell : Option Value}
    (untouched : ¬((∃ response, reply = .answer response) ∧
      server.Touches path timestamp request)) :
    server.Updates request reply path timestamp cell cell := by
  intro value
  constructor
  · exact fun held => .inr ⟨held, untouched⟩
  · rintro (⟨answered, puts⟩ | ⟨held, _⟩)
    · exact absurd ⟨answered, .inr ⟨value, puts⟩⟩ untouched
    · exact held

theorem updates_of_emptied {before : Option Value} {response : Response} {gone : Prop}
    [Decidable gone] (writes : request.writes = false)
    (emptied : gone ↔ server.Empties path timestamp request) :
    server.Updates request (.answer response) path timestamp before
      (if gone then none else before) := by
  intro value
  rw [Option.ite_none_left_eq_some, touches_iff_empties writes, ← emptied]
  simp [not_puts writes, and_comm]

theorem updates_of_written {before : Option Value} {points : List AddressedPoint}
    {response : Response} (writes : request.writes = true)
    (resolved : server.resolve request = .ok points) :
    server.Updates request (.answer response) path timestamp before
      ((lastValue path.text timestamp points).or before) := by
  intro value
  rw [Option.or_eq_some_iff, touches_iff_puts writes, lastValue_iff_puts resolved writes,
    Option.eq_none_iff_forall_ne_some]
  simp [lastValue_iff_puts resolved writes, and_comm]

theorem Outcome.updates (outcome : Outcome server request reply next)
    (under : server.Under config) (unlimited : config.store.Unlimited) (path : Path)
    (timestamp : Timestamp) : server.Updates request reply path timestamp
      (server.store.valueAt path.text timestamp) (next.store.valueAt path.text timestamp) := by
  have sound := under.store.sound
  have member (lost : List Path) : path.text ∈ lost.map Path.text ↔ path ∈ lost :=
    List.mem_map_of_injective fun _ _ => Path.text_injective
  cases outcome with
  | refused => exact updates_of_same (by simp)
  | asked reply asks => exact updates_of_same fun touched => not_touches_of_asks asks touched.2
  | grouped | known | declared =>
    refine updates_of_same ?_
    rintro ⟨_, empties | ⟨value, puts⟩⟩
    · exact empties
    · exact puts
  | lostGroups loses listed =>
    rw [valueAt_removedAll]
    exact updates_of_emptied rfl ((member _).trans (listed path))
  | lostSeries loses listed =>
    rw [valueAt_removedAll, listed]
    exact updates_of_emptied rfl Iff.rfl
  | wrote writes resolved =>
    rw [valueAt_written _ sound]
    exact updates_of_written writes resolved
  | stopped time writes resolved some_left =>
    exact absurd (admitted_eq _ under.store unlimited.boundless) some_left
  | deleted count listed =>
    rw [valueAt_deletedAll _ _ sound, listed]
    exact updates_of_emptied rfl Iff.rfl

theorem Under.idle_store (under : server.Under config) (unlimited : config.store.Unlimited)
    {action : ServerAction} (idle : ∀ id request, action ≠ .call id request) (name : String) :
    (server.perform action).store.valueAt name timestamp = server.store.valueAt name timestamp := by
  have whole : server.store.sweep = server.store :=
    Store.sweep_eq (under.store.kept.trans unlimited.kept)
  cases action with
  | call id request => exact absurd rfl (idle id request)
  | connect endpoint => rw [Server.perform, (connect_frame endpoint server).2.1]
  | release id => rfl
  | sweep =>
    change server.store.sweep.valueAt name timestamp = _
    rw [whole]
  | shutdown =>
    rcases (shutdown_frame server).2 with same | swept
    · rw [Server.perform, same]
    · rw [Server.perform, swept, whole]
      rfl

/-! ### All actions -/

section Snoc

variable {actions : List ServerAction} {action : ServerAction} {value : Value}

theorem Stands.of_snoc (stands : server.Stands (actions ++ [action]) path timestamp value) :
    (∃ id request, action = .call id request ∧ (server.run actions).Acknowledges id request ∧
        (server.run actions).Puts path timestamp value request) ∨
      server.Stands actions path timestamp value ∧ ∀ id request, action = .call id request →
        (server.run actions).Acknowledges id request →
          ¬(server.run actions).Touches path timestamp request := by
  obtain ⟨before, id, request, after, shape, acknowledged, puts, untouched⟩ := stands
  rcases List.eq_nil_or_concat after with rfl | ⟨front, last, rfl⟩
  · obtain ⟨rfl, same⟩ := List.append_inj' shape rfl
    cases same
    exact .inl ⟨id, request, rfl, acknowledged, puts⟩
  · have shape : actions ++ [action] = (before ++ .call id request :: front) ++ [last] := by
      rw [shape]
      simp
    obtain ⟨rfl, same⟩ := List.append_inj' shape rfl
    cases same
    right
    refine ⟨⟨before, id, request, front, rfl, acknowledged, puts, ?_⟩, ?_⟩
    · rintro earlier other again later rfl
      exact untouched earlier other again (later ++ [action]) (by simp)
    · rintro other again rfl
      exact untouched front other again [] (by simp)

theorem stands_put {id : Nat} (acknowledged : (server.run actions).Acknowledges id request)
    (puts : (server.run actions).Puts path timestamp value request) :
    server.Stands (actions ++ [.call id request]) path timestamp value := by
  refine ⟨actions, id, request, [], rfl, acknowledged, puts, ?_⟩
  intro earlier other again later shape
  simp at shape

theorem Stands.snoc (stands : server.Stands actions path timestamp value)
    (untouched : ∀ id request, action = .call id request →
      (server.run actions).Acknowledges id request →
        ¬(server.run actions).Touches path timestamp request) :
    server.Stands (actions ++ [action]) path timestamp value := by
  obtain ⟨before, id, request, after, rfl, acknowledged, puts, before_last⟩ := stands
  refine ⟨before, id, request, after ++ [action], by simp, acknowledged, puts, ?_⟩
  intro earlier other again later shape
  rcases List.eq_nil_or_concat later with rfl | ⟨front, last, rfl⟩
  · obtain ⟨rfl, same⟩ := List.append_inj' shape rfl
    cases same
    exact untouched other again rfl
  · have shape : after ++ [action] = (earlier ++ .call other again :: front) ++ [last] := by
      rw [shape]
      simp
    obtain ⟨rfl, _⟩ := List.append_inj' shape rfl
    exact before_last earlier other again front rfl

end Snoc

/-- What is held in a cell is the value that stands there. -/
theorem valueAt_run_iff (started : start config = .ok server) (unlimited : config.store.Unlimited)
    (actions : List ServerAction) (value : Value) :
    (server.run actions).store.valueAt path.text timestamp = some value ↔
      server.Stands actions path timestamp value := by
  induction actions using List.reverseRecOn generalizing value with
  | nil =>
    obtain ⟨store, created, rfl⟩ := start_cases started
    obtain ⟨_, _, _, rfl⟩ := Store.create_ok created
    constructor
    · intro held
      cases held
    · rintro ⟨before, id, request, after, shape, _⟩
      simp at shape
  | append_singleton earlier action ih =>
    have under := (under_start started).run earlier
    rw [run_append]
    change ((server.run earlier).perform action).store.valueAt path.text timestamp = some value ↔ _
    rcases action.call_or_idle with ⟨id, request, rfl⟩ | idle
    · have updates := (call_outcome under id request).updates under unlimited path timestamp
      refine (updates value).trans ?_
      rw [ih]
      constructor
      · rintro (⟨acknowledged, puts⟩ | ⟨old, untouched⟩)
        · exact stands_put acknowledged puts
        · refine old.snoc ?_
          rintro _ _ ⟨⟩ acknowledged touched
          exact untouched ⟨acknowledged, touched⟩
      · intro stands
        rcases stands.of_snoc with ⟨_, _, ⟨⟩, acknowledged, puts⟩ | ⟨old, untouched⟩
        · exact .inl ⟨acknowledged, puts⟩
        · exact .inr ⟨old, fun touched => untouched id request rfl touched.1 touched.2⟩
    · rw [under.idle_store unlimited idle, ih]
      constructor
      · exact fun stands => stands.snoc fun id request same => absurd same (idle id request)
      · intro stands
        rcases stands.of_snoc with ⟨id, request, same, _⟩ | ⟨old, _⟩
        · exact absurd same (idle id request)
        · exact old

theorem Under.insert_answer (under : server.Under config) (unlimited : config.store.Unlimited)
    {id : Nat} (serves : server.Serves id) {device : String} {measurements : List String}
    {values : List Value} {points : List AddressedPoint}
    (resolved : resolveRow server.registry device timestamp measurements values = .ok points) :
    (server.call id (.insert device timestamp measurements values)).1 = .answer .ok := by
  rw [call_eq serves, handle, resolved, under.write_eq unlimited.boundless serves.1]

/-- Without limits on the store, every row that resolves is acknowledged, and a forward selection of
a declared series returns exactly the values that stand in its range, oldest first. -/
theorem acknowledged_points_stand (started : start config = .ok server)
    (unlimited : config.store.Unlimited) (actions : List ServerAction) :
    (∀ id device timestamp measurements values points, (server.run actions).Serves id →
        resolveRow (server.run actions).registry device timestamp measurements values =
          .ok points →
        ((server.run actions).call id (.insert device timestamp measurements values)).1 =
          .answer .ok) ∧
      ∀ id text path start stop, (server.run actions).Serves id → Path.parse text = .ok path →
        (server.run actions).registry.contains path = true → start ≤ stop →
        ∃ points, ((server.run actions).call id (.select text start stop)).1 =
            .answer (.dataPoints points) ∧
          Keyed.Ascending points ∧ ∀ point, point ∈ points ↔
            start ≤ point.timestamp ∧ point.timestamp ≤ stop ∧
              server.Stands actions path point.timestamp point.value := by
  have under := (under_start started).run actions
  constructor
  · intro id device timestamp measurements values points serves resolved
    exact under.insert_answer unlimited serves resolved
  · intro id text path start stop serves parsed declared forward
    obtain ⟨points, answered, ordered, exactly⟩ :=
      under.select_answer serves parsed declared forward
    refine ⟨points, answered, ordered, fun point => ?_⟩
    have whole : (server.run actions).store.sweep = (server.run actions).store :=
      Store.sweep_eq (under.store.kept.trans unlimited.kept)
    rw [exactly, whole, valueAt_run_iff started unlimited, Point.between_iff, and_assoc]

def mixedHistory : List ServerAction :=
  declareSpeed ++ [storeSpeed 9 1, storeSpeed 5 2,
    .call 1 (.deleteData ["root.plant.speed"] (Ranged.clamp 5)), storeSpeed 4 3, storeSpeed 9 4]

theorem mixed_history_stands :
    ∃ points, ((defaultServer.run mixedHistory).call 1
        (.select "root.plant.speed" (Ranged.clamp 0) (Ranged.clamp 9))).1 =
          .answer (.dataPoints points) ∧
      Keyed.Ascending points ∧ ∀ point, point ∈ points ↔
        Ranged.clamp 0 ≤ point.timestamp ∧ point.timestamp ≤ Ranged.clamp 9 ∧
          defaultServer.Stands mixedHistory speed point.timestamp point.value :=
  (acknowledged_points_stand default_started ⟨rfl, rfl, rfl⟩ mixedHistory).2 1 "root.plant.speed"
    speed (Ranged.clamp 0) (Ranged.clamp 9) (by decide +kernel) rfl (by decide +kernel) (by decide)

end Server

end TimeSeries
