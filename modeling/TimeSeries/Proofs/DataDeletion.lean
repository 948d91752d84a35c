import TimeSeries.Proofs.NamedPaths
import TimeSeries.Proofs.ServerHistory

/-! Deletion of data. It drops every point of the named series up to a time, in partitions that
reads no longer see as well, and reports how many points went, each of them once. Selections of
these series lose just these points and all others answer as before. -/

namespace TimeSeries

namespace Partition

variable {partition : Partition} {name other : String}

theorem find?_dropUpTo (stop : Timestamp) (apart : name ≠ other) :
    (partition.dropUpTo name stop).find? other = partition.find? other := by
  unfold dropUpTo
  split
  · rfl
  · split
    · rfl
    · dsimp only
      split
      · rw [find?_remove, if_neg apart]
      · rw [find?_put, if_neg apart]

theorem select_dropUpTo (stop : Timestamp) (apart : name ≠ other) (start last : Timestamp) :
    (partition.dropUpTo name stop).select other start last =
      partition.select other start last := by
  unfold select
  rw [dropUpTo_slot, find?_dropUpTo stop apart]

end Partition

namespace Store

variable (store : Store) (name : String) (stop : Timestamp)

theorem sweep_deleted : (store.deleted name stop).sweep = store.sweep.deleted name stop := by
  simp [sweep, visible, expired, deleted, List.map_drop]

theorem slots_deleted : (store.deleted name stop).slots = store.slots := by
  simp [slots, deleted, Function.comp_def]

theorem select_deleted {other : String} (apart : name ≠ other) (start last : Timestamp) :
    (store.deleted name stop).select other start last = store.select other start last := by
  have visible : (store.deleted name stop).visible = store.visible.map (·.dropUpTo name stop) :=
    congrArg partitions (store.sweep_deleted name stop)
  unfold select
  rw [visible, List.mapM_map]
  simp only [Function.comp_def, Partition.select_dropUpTo stop apart]
  rfl

end Store

namespace Server

/-! ### Deletion from several series -/

section Several

variable (series : List Path) (stop : Timestamp) {store : Store}

theorem deletedAll_frame (store : Store) : deletedAll series stop store =
    { store with partitions := (deletedAll series stop store).partitions } :=
  deletedAll_keeps (fun after => after = { store with partitions := after.partitions })
    (fun path _ _ same => congrArg (·.deleted path.text stop) same) rfl

theorem slots_deletedAll (store : Store) : (deletedAll series stop store).slots = store.slots :=
  deletedAll_keeps (fun after => after.slots = store.slots)
    (fun path _ after same => (after.slots_deleted path.text stop).trans same) rfl

theorem sweep_deletedAll (store : Store) :
    (deletedAll series stop store).sweep = deletedAll series stop store.sweep := by
  induction series generalizing store with
  | nil => rfl
  | cons path rest ih =>
    change (deletedAll rest stop (store.deleted path.text stop)).sweep =
      deletedAll rest stop (store.sweep.deleted path.text stop)
    rw [ih, store.sweep_deleted]

theorem pointsOf_deletedAll (sound : store.Sound) (name : String) :
    (deletedAll series stop store).pointsOf name =
      if name ∈ series.map Path.text then
        (store.pointsOf name).filter fun point => stop < point.timestamp
      else store.pointsOf name := by
  induction series generalizing store with
  | nil => rfl
  | cons path rest ih =>
    change (deletedAll rest stop (store.deleted path.text stop)).pointsOf name = _
    rw [ih (sound.deleted stop), sound.pointsOf_deleted]
    by_cases same : path.text = name
    · simp [same, List.filter_filter]
    · simp [same, Ne.symm same]

theorem visiblePointsOf_deletedAll (sound : store.Sound) (name : String) :
    (deletedAll series stop store).visiblePointsOf name =
      if name ∈ series.map Path.text then
        (store.visiblePointsOf name).filter fun point => stop < point.timestamp
      else store.visiblePointsOf name := by
  change (deletedAll series stop store).sweep.pointsOf name = _
  rw [sweep_deletedAll]
  exact pointsOf_deletedAll series stop sound.sweep name

theorem select_deletedAll (store : Store) {name : String} (unnamed : name ∉ series.map Path.text)
    (start last : Timestamp) :
    (deletedAll series stop store).select name start last = store.select name start last := by
  refine deletedAll_keeps (fun after => after.select name start last = store.select name start last)
    (fun path member after same => ?_) rfl
  have apart : path.text ≠ name := fun named => unnamed (named ▸ List.mem_map_of_mem member)
  exact (after.select_deleted path.text stop apart start last).trans same

end Several

/-! ### Requests -/

/-- What a deletion of data does to a server: the points that are gone are those of the named series
up to a time, each of them listed once. -/
structure DataDeleted (server next : Server) (series : List Path) (stop : Timestamp)
    (gone : List AddressedPoint) : Prop where
  distinct : gone.Nodup
  listed : ∀ addressed, addressed ∈ gone ↔ addressed.series ∈ series ∧
    addressed.point ∈ server.store.pointsOf addressed.series.text ∧
      addressed.point.timestamp ≤ stop
  left : ∀ name point, point ∈ next.store.pointsOf name ↔
    point ∈ server.store.pointsOf name ∧
      ∀ addressed ∈ gone, ¬(addressed.series.text = name ∧ addressed.point = point)
  named : ∀ path ∈ series, ∀ asker start last, server.Serves asker → start ≤ last →
    ∃ points, (server.call asker (.select path.text start last)).1 =
        .answer (.dataPoints points) ∧
      (next.call asker (.select path.text start last)).1 =
        .answer (.dataPoints (points.filter fun point => stop < point.timestamp))
  unnamed : ∀ text, (∀ path ∈ series, path.text ≠ text) → ∀ asker start last,
    (next.call asker (.select text start last)).1 =
      (server.call asker (.select text start last)).1
  slots : next.store.slots = server.store.slots
  rest : next = { server with store := { server.store with partitions := next.store.partitions } }

def AnswersDeletion (server : Server) (stop : Timestamp) (result : Reply × Server) :
    Path.Naming → Prop
  | .malformed text _ => result = (.refused (.write (.malformedPath text)), server)
  | .unknown path => result = (.refused (.write (.undeclaredTimeseries path.text)), server)
  | .known series => ∃ gone next, result = (.answer (.deleted (Count.ofNat gone.length)), next) ∧
    DataDeleted server next series stop gone

variable {server : Server} {config : ServerConfig}

/-- A selection of a series that is not named answers as before, whatever it answered. -/
theorem call_select_deletedAll (series : List Path) (stop : Timestamp) {text : String}
    (unnamed : text ∉ series.map Path.text) (asker : Nat) (start last : Timestamp) :
    (call asker (.select text start last)
        { server with store := deletedAll series stop server.store }).1 =
      (server.call asker (.select text start last)).1 := by
  have same : selectPoints { server with store := deletedAll series stop server.store }
      text start last = server.selectPoints text start last := by
    unfold selectPoints
    cases read : SchemaError.readPath text with
    | error fault => rfl
    | ok path =>
      have named : path.text = text := SchemaError.text_of_readPath read
      dsimp only
      rw [named, select_deletedAll series stop server.store unnamed]
  by_cases serves : server.Serves asker
  · have serving : Serves { server with store := deletedAll series stop server.store } asker :=
      serves
    rw [call_eq serving, call_eq serves]
    exact same
  · have lost : ¬Serves { server with store := deletedAll series stop server.store } asker :=
      serves
    rw [call_lost lost, call_lost serves]

theorem Under.dataDeleted (under : server.Under config) {series : List Path}
    (parsed : ∀ path ∈ series, Path.parse path.text = .ok path)
    (declared : ∀ path ∈ series, server.registry.contains path = true) (stop : Timestamp) :
    DataDeleted server { server with store := deletedAll series stop server.store } series stop
      (dropped stop series server.store) := by
  have sound := under.store.sound
  refine {
    distinct := dropped_nodup stop series sound
    listed := fun _ => mem_dropped sound
    left := ?left, named := ?named, unnamed := ?unnamed
    slots := slots_deletedAll series stop server.store
    rest := congrArg (fun store => { server with store })
      (deletedAll_frame series stop server.store) }
  case left =>
    intro name point
    rw [pointsOf_deletedAll series stop sound]
    by_cases named : name ∈ series.map Path.text
    · rw [if_pos named, List.mem_filter, decide_eq_true_eq]
      refine and_congr_right fun held => ⟨?_, ?_⟩
      · rintro late addressed member ⟨rfl, rfl⟩
        exact Ranged.not_lt.mpr ((mem_dropped sound).mp member).2.2 late
      · intro kept
        obtain ⟨path, member, rfl⟩ := List.mem_map.mp named
        by_contra notLate
        have early : point.timestamp ≤ stop := Ranged.not_lt.mp notLate
        exact kept ⟨path, point⟩ ((mem_dropped sound).mpr ⟨member, held, early⟩) ⟨rfl, rfl⟩
    · rw [if_neg named]
      refine (and_iff_left ?_).symm
      rintro addressed member ⟨rfl, -⟩
      exact named (List.mem_map_of_mem ((mem_dropped sound).mp member).1)
  case named =>
    intro path member asker start last serves forward
    have opened := under.opened serves.1
    have after : (deletedAll series stop server.store).Sound :=
      (under_deletedAll series stop under.store).1.sound
    have still : (deletedAll series stop server.store).closed = false :=
      (under_deletedAll series stop under.store).2.trans opened
    refine ⟨_, call_select serves (parsed path member) (declared path member)
      (sound.select_eq opened path.text forward), ?_⟩
    have serving : Serves { server with store := deletedAll series stop server.store } asker :=
      serves
    refine call_select serving (parsed path member) (declared path member) ?_
    refine (after.select_eq still path.text forward).trans ?_
    rw [visiblePointsOf_deletedAll series stop sound, if_pos (List.mem_map_of_mem member),
      List.filter_comm]
  case unnamed =>
    intro text others asker start last
    refine call_select_deletedAll series stop ?_ asker start last
    simpa using others

theorem deleteData_eq (server : Server) (texts : List String) (stop : Timestamp) :
    server.deleteData texts stop =
      Path.screen (fun malformed => .malformedPath malformed.text) server.registry.contains
        (fun missing => .undeclaredTimeseries missing.text)
        (fun series => (deleteFrom stop series server.store).mapError fun error =>
          .storage error.message) texts := by
  have read : readWritePath = fun text =>
      (Path.parse text).mapError fun malformed => .malformedPath malformed.text := by
    funext text
    unfold readWritePath
    rcases Path.parse_cases text with ⟨path, parsed⟩ | ⟨fault, failed⟩
    · rw [parsed]
      rfl
    · rw [failed]
      rfl
  unfold deleteData
  rw [read]
  rfl

/-- The first text that is no path decides, otherwise the first series that is not declared, and
otherwise the points of the series up to the time are gone and no others. -/
theorem data_deletion_is_exact (started : start config = .ok server)
    (actions : List ServerAction) {id : Nat} (serves : (server.run actions).Serves id)
    (texts : List String) (stop : Timestamp) :
    ∃ naming, Path.Names (fun path => (server.run actions).registry.contains path = true) texts
        naming ∧
      AnswersDeletion (server.run actions) stop
        ((server.run actions).call id (.deleteData texts stop)) naming := by
  have under := (under_start started).run actions
  generalize server.run actions = current at *
  have opened := under.opened serves.1
  obtain ⟨naming, names⟩ :=
    Path.exists_names (fun path => current.registry.contains path = true) texts
  refine ⟨naming, names, ?_⟩
  have answered : current.deleteData texts stop = _ :=
    (deleteData_eq current texts stop).trans (names.screen_eq fun _ => Iff.rfl)
  rw [call_eq serves]
  unfold handle
  cases names with
  | malformed | unknown =>
    simp only [answered]
    rfl
  | @known series spelled declared =>
    have deleted : deleteFrom stop series current.store = _ :=
      deleteFrom_eq stop series under.store.sound opened
    simp only [answered, Path.Naming.answer, deleted]
    exact ⟨_, _, rfl, under.dataDeleted (fun _ => spelled.parse_text) declared stop⟩

def hidingSpeeds : List ServerAction :=
  declareSpeed ++ [storeSpeed 5 1, storeSpeed 25 2]

/-- The hidden point is counted, and counted once although its series is named twice. -/
theorem hidden_point_counted_once :
    ((briefServer.run hidingSpeeds).call 1
        (.deleteData ["root.plant.speed", "root.plant.speed"] (Ranged.clamp 9))).1 =
      .answer (.deleted (Count.ofNat 1)) ∧
    ∃ naming, Path.Names (fun path => (briefServer.run hidingSpeeds).registry.contains path = true)
        ["root.plant.speed", "root.plant.speed"] naming ∧
      AnswersDeletion (briefServer.run hidingSpeeds) (Ranged.clamp 9)
        ((briefServer.run hidingSpeeds).call 1
          (.deleteData ["root.plant.speed", "root.plant.speed"] (Ranged.clamp 9))) naming :=
  ⟨by decide +kernel, data_deletion_is_exact brief_started hidingSpeeds
    (by decide +kernel) ["root.plant.speed", "root.plant.speed"] (Ranged.clamp 9)⟩

end Server

end TimeSeries
