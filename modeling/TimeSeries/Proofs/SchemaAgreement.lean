import TimeSeries.Proofs.CoercedValues
import TimeSeries.Proofs.ServerHistory

/-! Schema and store agree in every state that a server can reach: what is held belongs to a
declared series and has its type, in partitions that reads no longer see as well. So a series that
leaves the schema leaves nothing behind, and what is read of it later was written later. -/

namespace TimeSeries

namespace Server

/-- Every series held in some partition is declared, and its points have the declared type. -/
def Agrees (server : Server) : Prop :=
  ∀ partition ∈ server.store.partitions, ∀ entry ∈ partition.entries, ∃ definition,
    server.registry.find? definition.path = some definition ∧
      definition.path.text = entry.name ∧
        ∀ point ∈ entry.series.points, point.value.dataType = definition.dataType

def Fits (registry : Registry) (name : String) (value : Value) : Prop :=
  ∃ definition, registry.find? definition.path = some definition ∧
    definition.path.text = name ∧ value.dataType = definition.dataType

def Typed (server : Server) : Prop :=
  ∀ name timestamp value, server.store.valueAt name timestamp = some value →
    Fits server.registry name value

variable {server next : Server} {config : ServerConfig} {request : Request} {reply : Reply}
  {registry : Registry}

theorem agrees_of_typed (sound : server.store.Sound) (typed : server.Typed) : server.Agrees := by
  intro partition member entry listed
  have whole := sound.partitions partition member
  have fits (point : Point) (inside : point ∈ entry.series.points) :
      Fits server.registry entry.name point.value := by
    apply typed entry.name point.timestamp
    rw [sound.valueAt_iff]
    refine List.mem_flatMap.mpr ⟨partition, member, ?_⟩
    rw [whole.pointsOf_entry listed]
    exact inside
  obtain ⟨first, inside⟩ := List.exists_mem_of_ne_nil _ (whole.entries entry listed).populated
  obtain ⟨definition, found, named, _⟩ := fits first inside
  refine ⟨definition, found, named, ?_⟩
  intro point inside
  obtain ⟨other, otherFound, otherNamed, same⟩ := fits point inside
  have paths : other.path = definition.path := Path.text_injective (otherNamed.trans named.symm)
  rw [paths, found] at otherFound
  cases otherFound
  exact same

/-! ### What one request keeps -/

theorem Resolves.fits {device : String} {timestamp : Timestamp} {entry : String × Value}
    {addressed : AddressedPoint} (resolves : Resolves registry device timestamp entry addressed) :
    Fits registry addressed.series.text addressed.point.value := by
  obtain ⟨definition, found, coerced⟩ := resolves.declared
  have path := Registry.path_of_find? found
  exact ⟨definition, path.symm ▸ found, congrArg Path.text path, Value.coerce?_typed coerced⟩

theorem RowResolved.fits {device : String} {timestamp : Timestamp} {measurements : List String}
    {values : List Value} {points : List AddressedPoint}
    (row : RowResolved registry device timestamp measurements values points)
    {addressed : AddressedPoint} (member : addressed ∈ points) :
    Fits registry addressed.series.text addressed.point.value := by
  obtain ⟨entry, _, resolves⟩ := row.each.onto addressed member
  exact resolves.fits

theorem RowsResolved.fits {device : String} {measurements : List String} {rows : List TabletRow}
    {points : List AddressedPoint}
    (resolved : RowsResolved registry device measurements rows points)
    {addressed : AddressedPoint} (member : addressed ∈ points) :
    Fits registry addressed.series.text addressed.point.value := by
  induction resolved with
  | nil => cases member
  | cons first rest ih =>
    rcases List.mem_append.mp member with member | member
    · exact first.fits member
    · exact ih member

theorem fits_of_resolve {points : List AddressedPoint}
    (resolved : server.resolve request = .ok points) {addressed : AddressedPoint}
    (member : addressed ∈ points) :
    Fits server.registry addressed.series.text addressed.point.value := by
  cases request with
  | insert => exact (resolveRow_ok resolved).fits member
  | insertTablet => exact (resolveRows_ok resolved).1.fits member
  | _ =>
    cases resolved
    cases member

/-- What some points of a request have written fits the schema if all else does. -/
theorem Typed.written {points some_points : List AddressedPoint} (typed : server.Typed)
    (sound : server.store.Sound) (resolved : server.resolve request = .ok points)
    (part : some_points <+: points) :
    Typed { server with store := written some_points server.store } := by
  intro name timestamp value held
  rw [valueAt_written some_points sound, Option.or_eq_some_iff] at held
  rcases held with fresh | ⟨_, old⟩
  · obtain ⟨addressed, member, rfl, same⟩ := mem_of_lastValue fresh
    have fits := fits_of_resolve resolved (part.subset member)
    rw [same] at fits
    exact fits
  · exact typed name timestamp value old

theorem Typed.lost {lost : List Path} (typed : server.Typed)
    (loses : server.registry.Loses lost registry) :
    Typed { server with registry, store := removedAll lost server.store } := by
  intro name timestamp value held
  rw [valueAt_removedAll] at held
  obtain ⟨kept, old⟩ := Option.ite_none_left_eq_some.mp held
  obtain ⟨definition, found, rfl, same⟩ := typed name timestamp value old
  refine ⟨definition, ?_, rfl, same⟩
  rw [loses.found, if_neg fun listed => kept (List.mem_map_of_mem listed)]
  exact found

theorem Outcome.typed (outcome : Outcome server request reply next) (sound : server.store.Sound)
    (typed : server.Typed) : next.Typed := by
  cases outcome with
  | refused | asked | known => exact typed
  | grouped series =>
    intro name timestamp value held
    obtain ⟨definition, found, facts⟩ := typed name timestamp value held
    refine ⟨definition, ?_, facts⟩
    unfold Registry.find? at found ⊢
    rw [series]
    exact found
  | declared fresh_definition named shaped fresh =>
    intro name timestamp value held
    obtain ⟨definition, found, facts⟩ := typed name timestamp value held
    refine ⟨definition, ?_, facts⟩
    rw [Registry.find?_placed, if_neg]
    · exact found
    · intro same
      rw [same, found] at fresh
      cases fresh
  | lostGroups loses | lostSeries loses => exact typed.lost loses
  | wrote writes resolved => exact typed.written sound resolved List.prefix_rfl
  | stopped timestamp writes resolved =>
    exact typed.written sound resolved (admitted_initial _ _)
  | deleted count listed =>
    intro name timestamp value held
    rw [valueAt_deletedAll _ _ sound] at held
    exact typed name timestamp value (Option.ite_none_left_eq_some.mp held).2

/-! ### What all actions keep -/

/-- Whatever is not a call leaves the schema alone and empties cells at most. -/
theorem Under.idle (under : server.Under config) {action : ServerAction}
    (idle : ∀ id request, action ≠ .call id request) :
    (server.perform action).registry = server.registry ∧ ∀ name timestamp value,
      (server.perform action).store.valueAt name timestamp = some value →
        server.store.valueAt name timestamp = some value := by
  have sound := under.store.sound
  cases action with
  | call id request => exact absurd rfl (idle id request)
  | connect endpoint =>
    obtain ⟨registry, store, _⟩ := connect_frame endpoint server
    refine ⟨registry, fun name timestamp value held => ?_⟩
    rw [Server.perform, store] at held
    exact held
  | release id => exact ⟨rfl, fun _ _ _ held => held⟩
  | sweep => exact ⟨rfl, fun _ _ _ held => sound.valueAt_sweep held⟩
  | shutdown =>
    obtain ⟨registry, same | swept⟩ := shutdown_frame server
    · refine ⟨registry, fun name timestamp value held => ?_⟩
      rw [Server.perform, same] at held
      exact held
    · refine ⟨registry, fun name timestamp value held => ?_⟩
      rw [Server.perform, swept] at held
      exact sound.valueAt_sweep held

theorem Typed.perform (typed : server.Typed) (under : server.Under config)
    (action : ServerAction) : (server.perform action).Typed := by
  rcases action.call_or_idle with ⟨id, request, rfl⟩ | idle
  · exact (call_outcome under id request).typed under.store.sound typed
  · obtain ⟨registry, kept⟩ := under.idle idle
    intro name timestamp value held
    rw [registry]
    exact typed name timestamp value (kept name timestamp value held)

theorem typed_start (started : start config = .ok server) : server.Typed := by
  obtain ⟨store, created, rfl⟩ := start_cases started
  obtain ⟨_, _, _, rfl⟩ := Store.create_ok created
  intro name timestamp value held
  cases held

theorem typed_run (started : start config = .ok server) (actions : List ServerAction) :
    (server.run actions).Typed := by
  induction actions using List.reverseRecOn with
  | nil => exact typed_start started
  | append_singleton earlier action ih =>
    rw [run_append]
    exact ih.perform ((under_start started).run earlier) action

/-! ### Where a value comes from -/

/-- An action writes a point if it is a call that resolves to the point, among others, and leaves
it held. -/
def Writes (server : Server) (path : Path) (point : Point) : ServerAction → Prop
  | .call id request => server.Serves id ∧ request.writes = true ∧
    (∃ points, server.resolve request = .ok points ∧ ⟨path, point⟩ ∈ points) ∧
      (server.perform (.call id request)).store.valueAt path.text point.timestamp =
        some point.value
  | _ => False

def WrittenDuring (server : Server) (actions : List ServerAction) (path : Path) (point : Point) :
    Prop :=
  ∃ before action after, actions = before ++ action :: after ∧
    (server.run before).Writes path point action

theorem WrittenDuring.snoc {actions : List ServerAction} {path : Path} {point : Point}
    (written : server.WrittenDuring actions path point) (last : ServerAction) :
    server.WrittenDuring (actions ++ [last]) path point := by
  obtain ⟨before, action, after, rfl, writes⟩ := written
  exact ⟨before, action, after ++ [last], by simp, writes⟩

theorem writtenDuring_last {actions : List ServerAction} {last : ServerAction} {path : Path}
    {point : Point} (writes : (server.run actions).Writes path point last) :
    server.WrittenDuring (actions ++ [last]) path point :=
  ⟨actions, last, [], rfl, writes⟩

/-- What is held after a request was held before or is among the points that it resolves to. -/
theorem Outcome.origin (outcome : Outcome server request reply next) (sound : server.store.Sound)
    {path : Path} {point : Point}
    (held : next.store.valueAt path.text point.timestamp = some point.value) :
    server.store.valueAt path.text point.timestamp = some point.value ∨
      request.writes = true ∧
        ∃ points, server.resolve request = .ok points ∧ ⟨path, point⟩ ∈ points := by
  have among {points some_points : List AddressedPoint} (writes : request.writes = true)
      (resolved : server.resolve request = .ok points) (part : some_points <+: points)
      (held : (written some_points server.store).valueAt path.text point.timestamp =
        some point.value) :
      server.store.valueAt path.text point.timestamp = some point.value ∨
        request.writes = true ∧
          ∃ points, server.resolve request = .ok points ∧ ⟨path, point⟩ ∈ points := by
    rw [valueAt_written _ sound, Option.or_eq_some_iff] at held
    rcases held with fresh | ⟨_, old⟩
    · obtain ⟨addressed, member, named, same⟩ := mem_of_lastValue fresh
      have whole : addressed = ⟨path, point⟩ := by
        cases addressed
        cases Path.text_injective named
        cases same
        rfl
      exact .inr ⟨writes, points, resolved, whole ▸ part.subset member⟩
    · exact .inl old
  cases outcome with
  | refused | asked | known | grouped | declared => exact .inl held
  | lostGroups | lostSeries =>
    rw [valueAt_removedAll] at held
    exact .inl (Option.ite_none_left_eq_some.mp held).2
  | wrote writes resolved => exact among writes resolved List.prefix_rfl held
  | stopped timestamp writes resolved => exact among writes resolved (admitted_initial _ _) held
  | deleted =>
    rw [valueAt_deletedAll _ _ sound] at held
    exact .inl (Option.ite_none_left_eq_some.mp held).2

theorem Under.origin (under : server.Under config) {action : ServerAction} {path : Path}
    {point : Point} (held : (server.perform action).store.valueAt path.text point.timestamp =
      some point.value) :
    server.store.valueAt path.text point.timestamp = some point.value ∨
      server.Writes path point action := by
  rcases action.call_or_idle with ⟨id, request, rfl⟩ | idle
  · by_cases serves : server.Serves id
    · have outcome := call_outcome under id request
      rcases outcome.origin under.store.sound held with old | ⟨writes, resolved⟩
      · exact .inl old
      · exact .inr ⟨serves, writes, resolved, held⟩
    · rw [Server.perform, call_lost serves] at held
      exact .inl held
  · exact .inl ((under.idle idle).2 _ _ _ held)

/-- What is held of a series that was not declared has been written since then. -/
theorem writtenDuring_of_undeclared (under : server.Under config) (typed : server.Typed)
    {path : Path} (undeclared : server.registry.find? path = none)
    (actions : List ServerAction) {point : Point}
    (held : (server.run actions).store.valueAt path.text point.timestamp = some point.value) :
    server.WrittenDuring actions path point := by
  induction actions using List.reverseRecOn with
  | nil =>
    obtain ⟨definition, found, named, _⟩ := typed _ _ _ held
    rw [Path.text_injective named, undeclared] at found
    cases found
  | append_singleton earlier action ih =>
    rw [run_append] at held
    rcases (under.run earlier).origin held with old | writes
    · exact (ih old).snoc action
    · exact writtenDuring_last writes

/-- After all that can happen, schema and store agree. A series that a request drops is not declared
after it, and from any time at which a series is not declared, its selections return only what has
been written since. -/
theorem schema_and_store_agree (started : start config = .ok server)
    (actions : List ServerAction) :
    (server.run actions).Agrees ∧
      (∀ id request response path,
        ((server.run actions).call id request).1 = .answer response →
        (server.run actions).Drops path request →
        ((server.run actions).perform (.call id request)).registry.find? path = none) ∧
      ∀ path, (server.run actions).registry.find? path = none →
        ∀ later id text start stop, (server.run (actions ++ later)).Serves id →
          Path.parse text = .ok path →
          (server.run (actions ++ later)).registry.contains path = true → start ≤ stop →
          ∃ points, ((server.run (actions ++ later)).call id (.select text start stop)).1 =
              .answer (.dataPoints points) ∧
            ∀ point ∈ points, (server.run actions).WrittenDuring later path point := by
  have under := (under_start started).run actions
  have typed := typed_run started actions
  refine ⟨agrees_of_typed under.store.sound typed, ?_, ?_⟩
  · intro id request response path answered drops
    have outcome : Outcome (server.run actions) request (.answer response)
        ((server.run actions).perform (.call id request)) :=
      answered ▸ call_outcome under id request
    exact (outcome.dropped drops).1
  · intro path undeclared later id text start stop serves parsed declared forward
    have underLater := under.run later
    rw [run_append] at serves declared ⊢
    obtain ⟨points, answered, _, exactly⟩ :=
      underLater.select_answer serves parsed declared forward
    refine ⟨points, answered, fun point member => ?_⟩
    apply writtenDuring_of_undeclared under typed undeclared
    exact underLater.store.sound.valueAt_sweep ((exactly point).mp member).2

/-! ### A series of another type -/

def firstLife : List ServerAction :=
  declareSpeed ++ [storeSpeed 5 1, .call 1 (.deleteTimeseries ["root.plant.speed"])]

def secondLife : List ServerAction :=
  [.call 1 (.createTimeseries "root.plant.speed" .text .plain .snappy),
    .call 1 (.insert "root.plant" (Ranged.clamp 7) ["speed"] [.text "fast"])]

theorem second_life_stands_alone :
    ∃ points, ((defaultServer.run (firstLife ++ secondLife)).call 1
        (.select "root.plant.speed" (Ranged.clamp 0) (Ranged.clamp 9))).1 =
          .answer (.dataPoints points) ∧
      ∀ point ∈ points, (defaultServer.run firstLife).WrittenDuring secondLife speed point := by
  have undeclared : (defaultServer.run firstLife).registry.find? speed = none := by decide +kernel
  have declared : (defaultServer.run (firstLife ++ secondLife)).registry.contains speed = true := by
    decide +kernel
  exact (schema_and_store_agree default_started firstLife).2.2 speed undeclared secondLife 1
    "root.plant.speed" (Ranged.clamp 0) (Ranged.clamp 9) (by decide +kernel) rfl declared
    (by decide)

end Server

end TimeSeries
