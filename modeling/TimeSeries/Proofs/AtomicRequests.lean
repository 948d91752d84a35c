import TimeSeries.Proofs.TabletWrites

/-! Requests other than tablets take effect whole or not at all. The points of a row share one
time, so a store that takes the first of them takes all others, and a row that is refused is refused
before any of it is written. -/

namespace TimeSeries.Server

variable {server next : Server} {config : ServerConfig} {request : Request} {reply : Reply}
  {store : Store} {points : List AddressedPoint} {timestamp : Timestamp}

/-! ### Points of one time -/

theorem admitted_of_admits (sound : store.Sound) (admits : store.Admits timestamp)
    (stamped : ∀ addressed ∈ points, addressed.point.timestamp = timestamp) :
    admitted points store = points := by
  induction points generalizing store with
  | nil => rfl
  | cons addressed rest ih =>
    obtain ⟨rfl, later⟩ := List.forall_mem_cons.mp stamped
    unfold admitted
    rw [if_pos admits, ih (sound.inserted addressed.point) (sound.admits_inserted admits) later]

theorem admitted_stamped (sound : store.Sound)
    (stamped : ∀ addressed ∈ points, addressed.point.timestamp = timestamp) :
    admitted points store = points ∨ admitted points store = [] := by
  by_cases admits : store.Admits timestamp
  · exact .inl (admitted_of_admits sound admits stamped)
  · right
    cases points with
    | nil => rfl
    | cons addressed rest =>
      unfold admitted
      rw [if_neg]
      rwa [stamped addressed List.mem_cons_self]

/-! ### One request -/

/-- Whatever is not answered has changed nothing. -/
theorem Outcome.unanswered (outcome : Outcome server request reply next)
    (sound : server.store.Sound) (single : ∀ tablet, request ≠ .insertTablet tablet)
    (unanswered : ∀ response, reply ≠ .answer response) : next = server := by
  cases outcome with
  | refused | asked => rfl
  | grouped | known | declared | lostGroups | lostSeries | wrote | deleted =>
    exact absurd rfl (unanswered _)
  | stopped time writes resolved some_left =>
    cases request with
    | insert =>
      have nothing := (admitted_stamped sound (resolveRow_ok resolved).stamped).resolve_left
        some_left
      rw [nothing]
      rfl
    | insertTablet tablet => exact absurd rfl (single tablet)
    | _ => cases writes

/-- A row is stored: each of its values, brought to the type of its series, is held at the time of
the row, and no other entry of any partition has come, changed or gone. -/
structure RowStored (server next : Server) (device : String) (timestamp : Timestamp)
    (measurements : List String) (values : List Value) : Prop where
  shaped : measurements.length = values.length
  each : ∀ (index : Nat) (measurement : String) (raw : Value),
    measurements[index]? = some measurement → values[index]? = some raw →
    ∃ series definition value,
      series.text = device ++ "." ++ measurement ∧
      server.registry.find? series = some definition ∧
      raw.coerce series.text definition.dataType = .ok value ∧
      next.store.valueAt series.text timestamp = some value
  others : ∀ name point, ¬(point.timestamp = timestamp ∧
      ∃ measurement ∈ measurements, name = device ++ "." ++ measurement) →
    (point ∈ next.store.pointsOf name ↔ point ∈ server.store.pointsOf name)
  rest : next = { server with store := next.store }

theorem RowResolved.stored {device : String} {measurements : List String} {values : List Value}
    (row : RowResolved server.registry device timestamp measurements values points)
    (sound : server.store.Sound) (writable : (written points server.store).Sound) :
    RowStored server { server with store := written points server.store } device timestamp
      measurements values where
  shaped := row.shaped
  each := by
    intro index measurement raw measured valued
    obtain ⟨series, definition, value, named, found, coerced, assigned⟩ :=
      row.assigns_at measured valued
    refine ⟨series, definition, value, named, found, coerced, ?_⟩
    rw [valueAt_written points sound, row.lastValue_iff.mpr ⟨rfl, assigned⟩]
    rfl
  others := by
    intro name point elsewhere
    have untouched : lastValue name point.timestamp points = none := by
      refine Option.eq_none_iff_forall_ne_some.mpr fun value found => elsewhere ?_
      obtain ⟨addressed, member, named, same⟩ := mem_of_lastValue found
      have stamped := row.stamped addressed member
      obtain ⟨measurement, _, _, entry, spelled, _⟩ := row.assigns member
      rw [same] at stamped
      exact ⟨stamped, measurement, (List.of_mem_zip entry).1, named.symm.trans spelled⟩
    rw [← writable.valueAt_iff, ← sound.valueAt_iff, valueAt_written points sound, untouched,
      Option.none_or]
  rest := rfl

theorem Under.insert_whole (under : server.Under config) (id : Nat) (device : String)
    (timestamp : Timestamp) (measurements : List String) (values : List Value) :
    (∃ error, server.call id (.insert device timestamp measurements values) =
        (.refused error, server)) ∨
      ∃ next, server.call id (.insert device timestamp measurements values) =
          (.answer .ok, next) ∧
        RowStored server next device timestamp measurements values := by
  have outcome : Outcome server (.insert device timestamp measurements values)
      (server.call id (.insert device timestamp measurements values)).1
      (server.call id (.insert device timestamp measurements values)).2 :=
    call_outcome under id _
  generalize server.call id (.insert device timestamp measurements values) = result at outcome ⊢
  obtain ⟨reply, next⟩ := result
  cases outcome with
  | refused _ error => exact .inl ⟨error, rfl⟩
  | asked _ asks => cases asks
  | wrote _ resolved all =>
    have sound := under.store.sound
    refine .inr ⟨_, rfl, (resolveRow_ok resolved).stored sound (under_written _ under.store).sound⟩
  | stopped time writes resolved some_left =>
    have nothing := (admitted_stamped under.store.sound (resolveRow_ok resolved).stamped)
      |>.resolve_left some_left
    rw [nothing]
    exact .inl ⟨_, rfl⟩

/-! ### A row of two series -/

def declareLoad : List ServerAction :=
  declareSpeed ++ [.call 1 (.createTimeseries "root.plant.load" .int64 .plain .snappy),
    storeSpeed 0 1]

def storeBoth (timestamp : Int) : Request :=
  .insert "root.plant" (Ranged.clamp timestamp) ["speed", "load"]
    [.int32 (Ranged.clamp 2), .text "3"]

/-- A request for anything but a tablet that is not answered leaves the whole server as it was, and
a row is refused or stored as a whole. -/
theorem unanswered_requests_change_nothing (started : start config = .ok server)
    (actions : List ServerAction) (id : Nat) :
    (∀ request, (∀ tablet, request ≠ .insertTablet tablet) →
      (∀ response, ((server.run actions).call id request).1 ≠ .answer response) →
        ((server.run actions).call id request).2 = server.run actions) ∧
      ∀ device timestamp measurements values,
        (∃ error, (server.run actions).call id (.insert device timestamp measurements values) =
            (.refused error, server.run actions)) ∨
          ∃ next, (server.run actions).call id (.insert device timestamp measurements values) =
              (.answer .ok, next) ∧
            RowStored (server.run actions) next device timestamp measurements values := by
  have under := (under_start started).run actions
  constructor
  · intro request single unanswered
    exact (call_outcome under id request).unanswered under.store.sound single unanswered
  · exact under.insert_whole id

theorem far_row_refused_near_row_stored :
    ((strictServer.run declareLoad).call 1 (storeBoth 1000)).2 = strictServer.run declareLoad ∧
      ∃ next, RowStored (strictServer.run declareLoad) next "root.plant" (Ranged.clamp 10)
          ["speed", "load"] [.int32 (Ranged.clamp 2), .text "3"] ∧
        next.store.valueAt "root.plant.load" (Ranged.clamp 10) =
          some (.int64 (Ranged.clamp 3)) := by
  obtain ⟨unchanged, whole⟩ := unanswered_requests_change_nothing strict_started declareLoad 1
  constructor
  · refine unchanged (storeBoth 1000) (by rintro tablet ⟨⟩) ?_
    have refused : ((strictServer.run declareLoad).call 1 (storeBoth 1000)).1 =
        .refused (.write (.outOfWindow (Ranged.clamp 1000))) := by decide +kernel
    rw [refused]
    rintro response ⟨⟩
  · rcases whole "root.plant" (Ranged.clamp 10) ["speed", "load"]
      [.int32 (Ranged.clamp 2), .text "3"] with ⟨error, refused⟩ | ⟨next, taken, stored⟩
    · have answered : ((strictServer.run declareLoad).call 1 (storeBoth 10)).1 = .answer .ok := by
        decide +kernel
      rw [storeBoth, refused] at answered
      cases answered
    · refine ⟨next, stored, ?_⟩
      have shown : ((strictServer.run declareLoad).call 1 (storeBoth 10)).2.store.valueAt
          "root.plant.load" (Ranged.clamp 10) = some (.int64 (Ranged.clamp 3)) := by
        decide +kernel
      rwa [storeBoth, taken] at shown

end TimeSeries.Server
