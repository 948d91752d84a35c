import TimeSeries.Proofs.StoreIdentity
import TimeSeries.Proofs.TabletWrites

/-! A tablet is as good as its rows sent one by one. It is checked as a whole and written in the
order of time, while rows are checked and written in the order in which they were added. Without
limits on the store neither makes a difference: the check of a row asks nothing of the points, and
the store does not remember in which order they came. -/

namespace TimeSeries

namespace Tablet

variable (tablet : Tablet)

def single (row : TabletRow) : Request :=
  .insert tablet.device row.timestamp tablet.measurements row.values

/-- The rows of a tablet as a session sends them one by one, in the order they were added. -/
def singles (id : Nat) : List ServerAction :=
  tablet.rows.map fun row => .call id (tablet.single row)

theorem sorted_perm : tablet.sorted.rows.Perm tablet.rows :=
  List.mergeSort_perm _ _

end Tablet

namespace Server

variable {server : Server} {config : ServerConfig} {request : Request} {id : Nat}

/-! ### One request -/

theorem Under.call_cases (under : server.Under config) (boundless : config.store.Boundless)
    (serves : server.Serves id) (request : Request) (writes : request.writes = true) :
    (∃ points, server.resolve request = .ok points ∧ server.call id request =
        (.answer .ok, { server with store := written points server.store })) ∨
      ∃ error, server.resolve request = .error error ∧
        server.call id request = (.refused (.write error), server) := by
  rw [call_eq serves, handle_write writes]
  cases server.resolve request with
  | ok points => exact .inl ⟨points, rfl, under.write_eq boundless serves.1 points⟩
  | error error => exact .inr ⟨error, rfl, rfl⟩

theorem Under.answered_iff (under : server.Under config) (boundless : config.store.Boundless)
    (serves : server.Serves id) (writes : request.writes = true) :
    (server.call id request).1 = .answer .ok ↔ ∃ points, server.resolve request = .ok points := by
  rcases under.call_cases boundless serves request writes with
    ⟨points, resolved, called⟩ | ⟨error, refused, called⟩
  · rw [called]
    exact ⟨fun _ => ⟨points, resolved⟩, fun _ => rfl⟩
  · rw [called, refused]
    simp

/-! ### All rows -/

theorem resolveRows_iff {device : String} {measurements : List String} {rows : List TabletRow} :
    (∃ points, server.resolveRows device measurements rows = .ok points) ↔
      ∀ row ∈ rows, server.store.accepts row.timestamp = true ∧ ∃ points,
        resolveRow server.registry device row.timestamp measurements row.values = .ok points := by
  induction rows with
  | nil => simp [resolveRows]
  | cons row rows ih =>
    rw [List.forall_mem_cons, ← ih, resolveRows]
    cases server.store.accepts row.timestamp with
    | false => simp [bind, Except.bind]
    | true =>
      cases resolveRow server.registry device row.timestamp measurements row.values with
      | error error => simp [bind, Except.bind]
      | ok points =>
        cases server.resolveRows device measurements rows with
        | error error => simp [bind, Except.bind]
        | ok others => simp [bind, Except.bind, pure, Except.pure]

/-- Rows sent one by one leave their points in the order in which they were sent. -/
theorem Under.run_rows (under : server.Under config) (boundless : config.store.Boundless)
    (serves : server.Serves id) {tablet : Tablet} {rows : List TabletRow}
    (each : ∀ row ∈ rows, ∃ points, server.resolve (tablet.single row) = .ok points) :
    ∃ points, RowsResolved server.registry tablet.device tablet.measurements rows points ∧
      server.run (rows.map fun row => .call id (tablet.single row)) =
        { server with store := written points server.store } := by
  induction rows generalizing server with
  | nil => exact ⟨[], .nil, rfl⟩
  | cons row rows ih =>
    obtain ⟨⟨points, resolved⟩, later⟩ := List.forall_mem_cons.mp each
    have performed : server.perform (.call id (tablet.single row)) =
        { server with store := written points server.store } := by
      rcases under.call_cases boundless serves (tablet.single row) rfl with
        ⟨same, found, called⟩ | ⟨error, refused, _⟩
      · cases found.symm.trans resolved
        exact congrArg Prod.snd called
      · cases refused.symm.trans resolved
    have next := under.perform (.call id (tablet.single row))
    rw [performed] at next
    obtain ⟨others, rest, ran⟩ := ih next serves later
    refine ⟨points ++ others, .cons (resolveRow_ok resolved) rest, ?_⟩
    calc server.run ((row :: rows).map fun row => .call id (tablet.single row))
      _ = (server.perform (.call id (tablet.single row))).run
          (rows.map fun row => .call id (tablet.single row)) := rfl
      _ = { server with store := written others (written points server.store) } := by
        rw [performed, ran]
      _ = { server with store := written (points ++ others) server.store } := by
        rw [written_append]

/-! ### Tablets -/

section Agreement

variable {registry : Registry} {device : String} {measurements : List String}
  {rows others : List TabletRow} {points more : List AddressedPoint}

theorem RowsResolved.lastValue_of_lastRow? {name : String} {timestamp : Timestamp} {value : Value}
    (first : RowsResolved registry device measurements rows points)
    (second : RowsResolved registry device measurements others more)
    (last : Tablet.lastRow? rows timestamp = Tablet.lastRow? others timestamp)
    (found : lastValue name timestamp points = some value) :
    lastValue name timestamp more = some value := by
  obtain ⟨addressed, _, rfl, _⟩ := mem_of_lastValue found
  rw [first.lastValue_iff, last] at found
  exact second.lastValue_iff.mpr found

theorem RowsResolved.lastValue_eq
    (first : RowsResolved registry device measurements rows points)
    (second : RowsResolved registry device measurements others more)
    (last : ∀ timestamp, Tablet.lastRow? rows timestamp = Tablet.lastRow? others timestamp)
    (name : String) (timestamp : Timestamp) :
    lastValue name timestamp points = lastValue name timestamp more := by
  ext value
  constructor
  · exact first.lastValue_of_lastRow? second (last timestamp)
  · exact second.lastValue_of_lastRow? first (last timestamp).symm

theorem RowsResolved.mem_times_iff
    (first : RowsResolved registry device measurements rows points)
    (second : RowsResolved registry device measurements others more) (moved : rows.Perm others)
    (timestamp : Timestamp) : timestamp ∈ times points ↔ timestamp ∈ times more := by
  rw [first.times_eq, second.times_eq]
  exact ((moved.map TabletRow.timestamp).flatMap_right _).mem_iff

end Agreement

/-- Without limits a tablet is taken if each of its rows would be taken alone. -/
theorem Under.tablet_answered_iff (under : server.Under config)
    (boundless : config.store.Boundless) (serves : server.Serves id) (tablet : Tablet) :
    (server.call id (.insertTablet tablet)).1 = .answer .ok ↔
      ∀ row ∈ tablet.rows, (server.call id (tablet.single row)).1 = .answer .ok := by
  have row_answered (row : TabletRow) : (server.call id (tablet.single row)).1 = .answer .ok ↔
      ∃ points, server.resolve (tablet.single row) = .ok points :=
    under.answered_iff boundless serves rfl
  calc (server.call id (.insertTablet tablet)).1 = .answer .ok
    _ ↔ ∃ points, server.resolveTablet tablet = .ok points :=
      under.answered_iff boundless serves rfl
    _ ↔ ∀ row ∈ tablet.sorted.rows, ∃ points, server.resolve (tablet.single row) = .ok points := by
      refine resolveRows_iff.trans (forall₂_congr fun row _ => and_iff_right ?_)
      exact (under.store.admits_all boundless row.timestamp).1
    _ ↔ ∀ row ∈ tablet.rows, ∃ points, server.resolve (tablet.single row) = .ok points := by
      simp only [tablet.sorted_perm.mem_iff]
    _ ↔ _ := by simp only [row_answered]

theorem Under.tablet_written (under : server.Under config) (boundless : config.store.Boundless)
    (serves : server.Serves id) {tablet : Tablet} {points : List AddressedPoint}
    (resolved : server.resolveTablet tablet = .ok points) :
    { server with store := written points server.store } = server.run (tablet.singles id) := by
  have sorted := (resolveRows_ok resolved).1
  have each : ∀ row ∈ tablet.rows, ∃ points,
      server.resolve (tablet.single row) = .ok points := by
    intro row member
    exact (resolveRows_iff.mp ⟨points, resolved⟩ row (tablet.sorted_perm.mem_iff.mpr member)).2
  obtain ⟨others, added, ran⟩ := under.run_rows boundless serves each
  have same : written points server.store = written others server.store := by
    apply written_eq under.store.sound
    · exact sorted.mem_times_iff added tablet.sorted_perm
    · exact sorted.lastValue_eq added tablet.lastRow?_sorted
  rw [same]
  exact ran.symm

/-- Without limits on the store a tablet is taken exactly if each of its rows would be taken alone.
It then leaves the server as these rows do when they are sent one by one in the order they were
added, and a tablet that is not taken leaves the server as it was. -/
theorem tablet_does_as_its_rows (started : start config = .ok server)
    (boundless : config.store.Boundless) (actions : List ServerAction) (id : Nat)
    (tablet : Tablet) :
    (((server.run actions).call id (.insertTablet tablet)).1 = .answer .ok ↔
        (server.run actions).Serves id ∧ ∀ row ∈ tablet.rows,
          ((server.run actions).call id (tablet.single row)).1 = .answer .ok) ∧
      (((server.run actions).call id (.insertTablet tablet)).1 = .answer .ok →
        ((server.run actions).call id (.insertTablet tablet)).2 =
          server.run (actions ++ tablet.singles id)) ∧
      (((server.run actions).call id (.insertTablet tablet)).1 ≠ .answer .ok →
        ((server.run actions).call id (.insertTablet tablet)).2 = server.run actions) := by
  have under := (under_start started).run actions
  by_cases serves : (server.run actions).Serves id
  · constructor
    · rw [under.tablet_answered_iff boundless serves]
      exact (and_iff_right serves).symm
    · rcases under.call_cases boundless serves (.insertTablet tablet) rfl with
        ⟨points, resolved, called⟩ | ⟨error, _, called⟩
      · have written := under.tablet_written boundless serves resolved
        rw [called, run_append]
        exact ⟨fun _ => written, fun refused => absurd rfl refused⟩
      · rw [called]
        simp
  · rw [call_lost serves]
    simp [serves]

def lateRows : Tablet where
  device := "root.plant"
  measurements := ["speed"]
  rows := [⟨Ranged.clamp 7200000, [.int32 (Ranged.clamp 1)]⟩,
    ⟨Ranged.clamp 5, [.int32 (Ranged.clamp 2)]⟩,
    ⟨Ranged.clamp 3600000, [.text "3"]⟩,
    ⟨Ranged.clamp 5, [.int32 (Ranged.clamp 4)]⟩]

theorem late_rows_do_as_sent :
    ((defaultServer.run declareSpeed).call 1 (.insertTablet lateRows)).1 = .answer .ok ∧
      ((defaultServer.run declareSpeed).call 1 (.insertTablet lateRows)).2 =
        defaultServer.run (declareSpeed ++ lateRows.singles 1) ∧
      (defaultServer.run (declareSpeed ++ lateRows.singles 1)).store.valueAt "root.plant.speed"
        (Ranged.clamp 5) = some (.int32 (Ranged.clamp 4)) := by
  obtain ⟨answered, agrees, _⟩ := tablet_does_as_its_rows default_started ⟨rfl, rfl, rfl, rfl⟩
    declareSpeed 1 lateRows
  have taken := answered.mpr ⟨by decide +kernel, by decide +kernel⟩
  exact ⟨taken, agrees taken, by decide +kernel⟩

end Server

end TimeSeries
