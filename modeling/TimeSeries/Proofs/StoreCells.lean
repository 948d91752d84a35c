import TimeSeries.Proofs.StoreLimits

/-! A store read cell by cell: the value of a series at a timestamp, in any partition held. Every
operation on a store changes some cells and leaves the others, and the limits it was created with
stay in force. -/

namespace TimeSeries

structure StoreConfig.Boundless (config : StoreConfig) : Prop where
  hot : config.hot = none
  kept : config.kept = none
  past : config.bounds.bind Tolerance.past = none
  future : config.bounds.bind Tolerance.future = none

theorem StoreConfig.Boundless.writable {config : StoreConfig} (boundless : config.Boundless) :
    config.writable = none := by
  rw [StoreConfig.writable, boundless.hot, boundless.kept]
  rfl

namespace Store

/-- The value held for a series at a timestamp, even if reads no longer see it. -/
def valueAt (store : Store) (name : String) (timestamp : Timestamp) : Option Value :=
  (Keyed.find? timestamp (store.pointsOf name)).map Point.value

variable {store : Store} {name : String}

theorem Sound.valueAt_iff (sound : store.Sound) {point : Point} :
    store.valueAt name point.timestamp = some point.value ↔ point ∈ store.pointsOf name := by
  have ordered := sound.pointsOf_ordered name
  unfold valueAt
  rw [Option.map_eq_some_iff]
  constructor
  · rintro ⟨found, search, same⟩
    obtain ⟨member, stamped⟩ := Keyed.mem_of_find? search
    exact Point.eq_iff.mpr ⟨stamped, same⟩ ▸ member
  · intro member
    exact ⟨point, (Keyed.find?_eq_some_iff ordered).mpr ⟨member, rfl⟩, rfl⟩

theorem Sound.valueAt_inserted (sound : store.Sound) (point : Point) (other : String)
    (timestamp : Timestamp) : (store.inserted name point).valueAt other timestamp =
      if other = name ∧ timestamp = point.timestamp then some point.value
      else store.valueAt other timestamp := by
  unfold valueAt
  rw [sound.pointsOf_inserted]
  by_cases named : name = other
  · subst named
    rw [if_pos rfl, Keyed.find?_place]
    change Option.map _ (if point.timestamp = timestamp then _ else _) = _
    by_cases stamped : point.timestamp = timestamp
    · rw [if_pos stamped, if_pos ⟨rfl, stamped.symm⟩]
      rfl
    · rw [if_neg stamped, if_neg fun both => stamped both.2.symm]
  · rw [if_neg named, if_neg fun both => named both.1.symm]

theorem Sound.valueAt_deleted (sound : store.Sound) (stop : Timestamp) (other : String)
    (timestamp : Timestamp) : (store.deleted name stop).valueAt other timestamp =
      if other = name ∧ timestamp ≤ stop then none else store.valueAt other timestamp := by
  unfold valueAt
  rw [sound.pointsOf_deleted]
  by_cases named : name = other
  · subst named
    rw [if_pos rfl, Keyed.find?_filter (sound.pointsOf_ordered name)]
    cases found : Keyed.find? timestamp (store.pointsOf name) with
    | none => simp
    | some point =>
      have stamped : point.timestamp = timestamp := (Keyed.mem_of_find? found).2
      by_cases early : timestamp ≤ stop
      · simp [Option.filter, stamped, early, Ranged.not_lt]
      · have late : stop < timestamp := Int.not_le.mp early
        simp [Option.filter, stamped, early, late]
  · rw [if_neg named, if_neg fun both => named both.1.symm]

theorem valueAt_removed (other : String) (timestamp : Timestamp) :
    (store.removed name).valueAt other timestamp =
      if other = name then none else store.valueAt other timestamp := by
  unfold valueAt
  rw [pointsOf_removed]
  by_cases named : name = other
  · rw [if_pos named, if_pos named.symm]
    rfl
  · rw [if_neg named, if_neg (Ne.symm named)]

theorem Sound.valueAt_sweep (sound : store.Sound) {timestamp : Timestamp} {value : Value}
    (held : store.sweep.valueAt name timestamp = some value) :
    store.valueAt name timestamp = some value := by
  have left : (⟨timestamp, value⟩ : Point) ∈ store.visiblePointsOf name :=
    sound.sweep.valueAt_iff.mp held
  have before : (⟨timestamp, value⟩ : Point) ∈ store.pointsOf name :=
    (sound.mem_visiblePointsOf.mp left).1
  exact sound.valueAt_iff.mpr before

theorem sweep_eq (unlimited : store.kept = none) : store.sweep = store := by
  have nothing : store.expired = 0 := by
    unfold expired
    rw [unlimited]
  unfold sweep visible
  rw [nothing]
  rfl

theorem close_cases (store : Store) :
    store.close = store ∨ store.close = { store.sweep with closed := true } := by
  unfold close
  split
  · exact .inl rfl
  · exact .inr rfl

/-- A forward selection reads the cells of its range, unless their slots are expired. -/
theorem Sound.select_cells (sound : store.Sound) (opened : store.closed = false) (name : String)
    {start stop : Timestamp} (forward : start ≤ stop) :
    ∃ points, store.select name start stop = .ok points ∧ Keyed.Ascending points ∧
      ∀ point, point ∈ points ↔ point.between start stop = true ∧
        store.sweep.valueAt name point.timestamp = some point.value := by
  refine ⟨_, sound.select_eq opened name forward, ?_, ?_⟩
  · exact (sound.sweep.pointsOf_ordered name).sublist List.filter_sublist
  · intro point
    rw [List.mem_filter, sound.sweep.valueAt_iff]
    exact and_comm

/-! ### Limits -/

structure Under (config : StoreConfig) (store : Store) : Prop where
  sound : store.Sound
  writable : store.writable = config.writable
  kept : store.kept = config.kept
  tolerance : ∃ window, config.writableWindow = .ok window ∧
    store.window.tolerance = config.tolerance window

section Under

variable {config : StoreConfig}

theorem under_create (created : create config = .ok store) : store.Under config := by
  have sound := sound_create created
  obtain ⟨_, window, computed, rfl⟩ := create_ok created
  exact ⟨sound, rfl, rfl, window, computed, rfl⟩

variable (under : store.Under config)

include under

theorem Under.inserted (point : Point) : (store.inserted name point).Under config where
  sound := under.sound.inserted point
  writable := under.writable
  kept := under.kept
  tolerance := by simpa [Store.inserted] using under.tolerance

theorem Under.deleted (stop : Timestamp) : (store.deleted name stop).Under config :=
  { under with sound := under.sound.deleted stop }

theorem Under.removed : (store.removed name).Under config :=
  { under with sound := under.sound.removed }

theorem Under.sweep : store.sweep.Under config :=
  { under with sound := under.sound.sweep }

theorem Under.close : store.close.Under config := by
  rcases store.close_cases with same | swept
  · rw [same]
    exact under
  · have sound := under.sound.sweep
    rw [swept]
    exact { under.sweep with
      sound := ⟨sound.width, sound.sorted, sound.partitions, sound.reached, sound.positive,
        sound.writable⟩ }

theorem Under.future : store.window.tolerance.future = config.bounds.bind Tolerance.future := by
  obtain ⟨window, _, same⟩ := under.tolerance
  rw [same]
  unfold StoreConfig.tolerance
  cases config.bounds <;> rfl

/-- Without limits points are taken wherever they lie. -/
theorem Under.admits_all (boundless : config.Boundless) (timestamp : Timestamp) :
    store.Admits timestamp := by
  obtain ⟨window, computed, same⟩ := under.tolerance
  rw [StoreConfig.writableWindow, boundless.writable] at computed
  cases computed
  have past : store.window.tolerance.past = none := by
    rw [same, StoreConfig.tolerance]
    cases given : config.bounds with
    | none => rfl
    | some bounds => simpa [given] using boundless.past
  constructor
  · unfold Store.accepts
    rw [InsertWindow.contains_iff, under.future, past, boundless.future]
    simp [InsertWindow.Allows]
  · simp [under.writable, boundless.writable]

end Under

end Store

end TimeSeries
