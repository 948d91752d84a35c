import TimeSeries.Proofs.PathText
import TimeSeries.Proofs.StoreCells
import TimeSeries.Server.Write

/-! Points written one after the other, and series deleted or removed one after the other. What a
server leaves written of a list of points is the part in front of the first that the store does
not admit, and of two values for one cell the later one stays. -/

namespace TimeSeries.Server

/-- The points in front of the first that the store refuses. -/
def admitted : List AddressedPoint → Store → List AddressedPoint
  | [], _ => []
  | addressed :: rest, store =>
    if store.Admits addressed.point.timestamp then
      addressed :: admitted rest (store.inserted addressed.series.text addressed.point)
    else []

def written (points : List AddressedPoint) (store : Store) : Store :=
  points.foldl (fun store addressed =>
    store.inserted addressed.series.text addressed.point) store

def times (points : List AddressedPoint) : List Timestamp :=
  points.map fun addressed => addressed.point.timestamp

def lastValue (name : String) (timestamp : Timestamp) : List AddressedPoint → Option Value
  | [] => none
  | addressed :: rest =>
    (lastValue name timestamp rest).or
      (if name = addressed.series.text ∧ timestamp = addressed.point.timestamp then
        some addressed.point.value else none)

def deletedAll (series : List Path) (stop : Timestamp) (store : Store) : Store :=
  series.foldl (fun store path => store.deleted path.text stop) store

def dropped (stop : Timestamp) : List Path → Store → List AddressedPoint
  | [], _ => []
  | path :: rest, store =>
    ((store.pointsOf path.text).filter fun point => point.timestamp ≤ stop).map
        (AddressedPoint.mk path) ++
      dropped stop rest (store.deleted path.text stop)

def removedAll (series : List Path) (store : Store) : Store :=
  series.foldl (fun store path => store.removed path.text) store

variable {store : Store} {config : StoreConfig}

/-! ### Writing -/

theorem admitted_initial (points : List AddressedPoint) (store : Store) :
    admitted points store <+: points := by
  induction points generalizing store with
  | nil => exact List.prefix_rfl
  | cons addressed rest ih =>
    unfold admitted
    split
    · exact List.cons_prefix_cons.mpr ⟨rfl, ih _⟩
    · exact List.nil_prefix

theorem admitted_eq (points : List AddressedPoint) (under : store.Under config)
    (boundless : config.Boundless) : admitted points store = points := by
  induction points generalizing store with
  | nil => rfl
  | cons addressed rest ih =>
    unfold admitted
    rw [if_pos (under.admits_all boundless _), ih (under.inserted addressed.point)]

/-- Writing succeeds if all points are admitted, each by the store with those before it. -/
theorem writePoints_cases (points : List AddressedPoint) (sound : store.Sound)
    (opened : store.closed = false) :
    admitted points store = points ∧
        writePoints points store = (.ok (), written points store) ∨
      admitted points store ≠ points ∧ ∃ timestamp, writePoints points store =
        (.error (.outOfWindow timestamp), written (admitted points store) store) := by
  induction points generalizing store with
  | nil => exact .inl ⟨rfl, rfl⟩
  | cons addressed rest ih =>
    unfold writePoints admitted
    rw [sound.insert_eq opened]
    by_cases admits : store.Admits addressed.point.timestamp
    · simp only [if_pos admits]
      rcases ih (sound.inserted addressed.point) opened with
        ⟨all, done⟩ | ⟨some_left, time, stopped⟩
      · exact .inl ⟨by rw [all], done⟩
      · refine .inr ⟨fun same => some_left (List.cons.inj same).2, time, stopped⟩
    · simp only [if_neg admits]
      exact .inr ⟨(List.cons_ne_nil _ _).symm, addressed.point.timestamp, rfl⟩

theorem written_append (first second : List AddressedPoint) (store : Store) :
    written (first ++ second) store = written second (written first store) :=
  List.foldl_append

theorem written_keeps {kept : Store → Prop}
    (step : ∀ store name point, kept store → kept (store.inserted name point))
    (points : List AddressedPoint) (holds : kept store) : kept (written points store) := by
  induction points generalizing store with
  | nil => exact holds
  | cons addressed rest ih => exact ih (step _ _ _ holds)

theorem written_sound (points : List AddressedPoint) (sound : store.Sound) :
    (written points store).Sound :=
  written_keeps (fun _ _ point sound => sound.inserted point) points sound

theorem under_written (points : List AddressedPoint) (under : store.Under config) :
    (written points store).Under config :=
  written_keeps (fun _ _ point under => under.inserted point) points under

theorem written_frame (points : List AddressedPoint) (store : Store) :
    written points store = { store with
      partitions := (written points store).partitions
      window := (written points store).window } := by
  induction points generalizing store with
  | nil => rfl
  | cons addressed rest ih => exact ih _

theorem written_closed (points : List AddressedPoint) (store : Store) :
    (written points store).closed = store.closed := by
  rw [written_frame]

theorem written_window (points : List AddressedPoint) (store : Store) :
    (written points store).window = { store.window with
      newest := InsertWindow.latestOf store.window.newest (times points) } := by
  induction points generalizing store with
  | nil => rfl
  | cons addressed rest ih =>
    refine (ih _).trans ?_
    simp [Store.inserted, times, InsertWindow.latestOf]

theorem mem_slots_written {points : List AddressedPoint} (sound : store.Sound) {slot : Slot} :
    slot ∈ (written points store).slots ↔
      (∃ timestamp ∈ times points, slot = Slot.around timestamp store.duration) ∨
        slot ∈ store.slots := by
  induction points generalizing store with
  | nil => simp [written, times]
  | cons addressed rest ih =>
    change slot ∈ (written rest (store.inserted addressed.series.text addressed.point)).slots ↔ _
    rw [ih (sound.inserted addressed.point), sound.mem_slots_inserted]
    simp only [times, List.map_cons, List.mem_cons, exists_eq_or_imp, Store.inserted, or_assoc,
      or_left_comm]

/-- The last value written to a cell stays. -/
theorem valueAt_written (points : List AddressedPoint) (sound : store.Sound) (name : String)
    (timestamp : Timestamp) : (written points store).valueAt name timestamp =
      (lastValue name timestamp points).or (store.valueAt name timestamp) := by
  induction points generalizing store with
  | nil => rfl
  | cons addressed rest ih =>
    change (written rest (store.inserted addressed.series.text addressed.point)).valueAt _ _ = _
    rw [ih (sound.inserted addressed.point), sound.valueAt_inserted, lastValue, Option.or_assoc]
    congr 1
    split <;> rfl

theorem lastValue_append (name : String) (timestamp : Timestamp)
    (first second : List AddressedPoint) : lastValue name timestamp (first ++ second) =
      (lastValue name timestamp second).or (lastValue name timestamp first) := by
  induction first with
  | nil => simp [lastValue]
  | cons addressed rest ih => rw [List.cons_append, lastValue, ih, lastValue, Option.or_assoc]

theorem mem_of_lastValue {name : String} {timestamp : Timestamp} {points : List AddressedPoint}
    {value : Value} (found : lastValue name timestamp points = some value) :
    ∃ addressed ∈ points, addressed.series.text = name ∧ addressed.point = ⟨timestamp, value⟩ := by
  induction points with
  | nil => cases found
  | cons addressed rest ih =>
    rcases Option.or_eq_some_iff.mp found with later | ⟨_, here⟩
    · obtain ⟨other, member, facts⟩ := ih later
      exact ⟨other, List.mem_cons_of_mem _ member, facts⟩
    · obtain ⟨⟨named, stamped⟩, same⟩ := Option.ite_none_right_eq_some.mp here
      subst named stamped
      cases Option.some.inj same
      exact ⟨addressed, List.mem_cons_self, rfl, rfl⟩

theorem lastValue_of_mem {addressed : AddressedPoint} {points : List AddressedPoint}
    (member : addressed ∈ points) :
    ∃ value, lastValue addressed.series.text addressed.point.timestamp points = some value := by
  induction points with
  | nil => cases member
  | cons first rest ih =>
    unfold lastValue
    rcases List.mem_cons.mp member with rfl | member
    · rw [if_pos ⟨rfl, rfl⟩]
      cases lastValue addressed.series.text addressed.point.timestamp rest with
      | none => exact ⟨_, rfl⟩
      | some value => exact ⟨value, rfl⟩
    · obtain ⟨value, found⟩ := ih member
      rw [found]
      exact ⟨value, rfl⟩

/-! ### Deleting and removing -/

theorem deleteFrom_eq (stop : Timestamp) (series : List Path) (sound : store.Sound)
    (opened : store.closed = false) : deleteFrom stop series store =
      .ok ((dropped stop series store).length, deletedAll series stop store) := by
  induction series generalizing store with
  | nil => rfl
  | cons path rest ih =>
    have next : (store.deleted path.text stop).Sound := sound.deleted stop
    unfold deleteFrom dropped
    rw [sound.delete_eq opened, List.length_append, List.length_map, List.countP_eq_length_filter]
    simp only [bind, Except.bind, ih next opened]
    rfl

/-- Deletions drop the points of the named series up to the time. -/
theorem mem_dropped {stop : Timestamp} {series : List Path} (sound : store.Sound)
    {addressed : AddressedPoint} : addressed ∈ dropped stop series store ↔
      addressed.series ∈ series ∧ addressed.point ∈ store.pointsOf addressed.series.text ∧
        addressed.point.timestamp ≤ stop := by
  induction series generalizing store with
  | nil => simp [dropped]
  | cons path rest ih =>
    obtain ⟨named, point⟩ := addressed
    have next : (store.deleted path.text stop).Sound := sound.deleted stop
    rw [dropped, List.mem_append, ih next, sound.pointsOf_deleted, List.mem_cons]
    by_cases same : named = path
    · subst same
      simp [← Ranged.not_lt]
    · have apart : path.text ≠ named.text := fun texts => same (Path.text_injective texts).symm
      simp [same, apart, Ne.symm same]

/-- Naming a series again drops nothing more. -/
theorem dropped_nodup (stop : Timestamp) (series : List Path) (sound : store.Sound) :
    (dropped stop series store).Nodup := by
  induction series generalizing store with
  | nil => exact List.nodup_nil
  | cons path rest ih =>
    have next : (store.deleted path.text stop).Sound := sound.deleted stop
    have distinct : (store.pointsOf path.text).Nodup :=
      (sound.pointsOf_ordered path.text).nodup_keys.of_map _
    refine List.nodup_append.mpr ⟨?_, ih next, ?_⟩
    · exact (distinct.filter _).map fun _ _ => congrArg AddressedPoint.point
    · rintro addressed first other second rfl
      obtain ⟨point, member, rfl⟩ := List.mem_map.mp first
      have early := of_decide_eq_true (List.mem_filter.mp member).2
      obtain ⟨_, held, _⟩ := (mem_dropped next).mp second
      rw [sound.pointsOf_deleted, if_pos rfl, List.mem_filter, decide_eq_true_eq] at held
      exact Ranged.not_lt.mpr early held.2

theorem removeAll_eq (series : List Path) (opened : store.closed = false) :
    removeAll series store = .ok (removedAll series store) := by
  induction series generalizing store with
  | nil => rfl
  | cons path rest ih =>
    unfold removeAll
    rw [Store.remove_eq opened]
    simp only [bind, Except.bind]
    exact ih opened

theorem deletedAll_keeps (kept : Store → Prop) {series : List Path} {stop : Timestamp}
    (step : ∀ path ∈ series, ∀ store, kept store → kept (store.deleted path.text stop))
    (holds : kept store) : kept (deletedAll series stop store) := by
  induction series generalizing store with
  | nil => exact holds
  | cons path rest ih =>
    obtain ⟨first, later⟩ := List.forall_mem_cons.mp step
    exact ih later (first store holds)

theorem under_deletedAll (series : List Path) (stop : Timestamp) (under : store.Under config) :
    (deletedAll series stop store).Under config ∧
      (deletedAll series stop store).closed = store.closed :=
  deletedAll_keeps (fun after => after.Under config ∧ after.closed = store.closed)
    (fun _ _ _ kept => ⟨kept.1.deleted stop, kept.2⟩) ⟨under, rfl⟩

theorem under_removedAll (series : List Path) (under : store.Under config) :
    (removedAll series store).Under config ∧
      (removedAll series store).closed = store.closed := by
  induction series generalizing store with
  | nil => exact ⟨under, rfl⟩
  | cons path rest ih => exact ih under.removed

theorem valueAt_deletedAll (series : List Path) (stop : Timestamp) (sound : store.Sound)
    (name : String) (timestamp : Timestamp) :
    (deletedAll series stop store).valueAt name timestamp =
      if name ∈ series.map Path.text ∧ timestamp ≤ stop then none
      else store.valueAt name timestamp := by
  induction series generalizing store with
  | nil => simp [deletedAll]
  | cons path rest ih =>
    change (deletedAll rest stop (store.deleted path.text stop)).valueAt _ _ = _
    rw [ih (sound.deleted stop), sound.valueAt_deleted]
    grind

theorem valueAt_removedAll (series : List Path) (store : Store) (name : String)
    (timestamp : Timestamp) : (removedAll series store).valueAt name timestamp =
      if name ∈ series.map Path.text then none else store.valueAt name timestamp := by
  induction series generalizing store with
  | nil => simp [removedAll]
  | cons path rest ih =>
    change (removedAll rest (store.removed path.text)).valueAt _ _ = _
    rw [ih, Store.valueAt_removed]
    grind

end TimeSeries.Server
