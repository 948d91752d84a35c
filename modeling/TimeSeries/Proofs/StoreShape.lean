import TimeSeries.Proofs.StoreCells
import TimeSeries.Proofs.StoreLedger

/-! How a store holds its points in every state that it can reach. Its partitions follow each other
on the grid without overlap, each series in a partition has some points, in strict order and inside
the slot, and a sweep keeps the newest partitions as they are. -/

namespace TimeSeries.Store

variable {store : Store}

theorem visible_suffix (store : Store) : store.visible <:+ store.partitions :=
  List.drop_suffix _ _

theorem length_visible {kept : Nat} (limit : store.kept = some kept) :
    store.visible.length = min kept store.partitions.length := by
  unfold visible expired
  rw [limit, List.length_drop]
  dsimp only
  omega

structure Tiled (config : StoreConfig) (store : Store) : Prop where
  apart : store.partitions.Pairwise fun before after => before.slot.last < after.slot.first
  forward : ∀ partition ∈ store.partitions, partition.slot.first ≤ partition.slot.last
  aligned : ∀ partition ∈ store.partitions, ∀ timestamp,
    partition.slot.holds timestamp = true →
      partition.slot = Slot.around timestamp config.duration
  populated : ∀ partition ∈ store.partitions, ∀ entry ∈ partition.entries,
    entry.series.points ≠ []
  inside : ∀ partition ∈ store.partitions, ∀ entry ∈ partition.entries,
    ∀ point ∈ entry.series.points, partition.slot.holds point.timestamp = true
  ordered : ∀ partition ∈ store.partitions, ∀ entry ∈ partition.entries,
    entry.series.points.Pairwise fun earlier later => earlier.timestamp < later.timestamp
  newest : (store.perform .sweep).2.partitions <:+ store.partitions
  limited : ∀ kept ∈ config.kept,
    (store.perform .sweep).2.partitions.length = min kept store.partitions.length
  unlimited : config.kept = none → (store.perform .sweep).2.partitions = store.partitions

theorem Sound.tiled {config : StoreConfig} (sound : store.Sound)
    (duration : store.duration = config.duration) (kept : store.kept = config.kept) :
    store.Tiled config where
  apart := sound.sorted
  forward := fun _ member => sound.first_le_last member
  aligned := fun partition member _ held =>
    duration ▸ (sound.partitions partition member).slot_eq held
  populated := fun partition member entry listed =>
    ((sound.partitions partition member).entries entry listed).populated
  inside := fun partition member entry listed =>
    ((sound.partitions partition member).entries entry listed).inside
  ordered := fun partition member entry listed =>
    ((sound.partitions partition member).entries entry listed).ordered
  newest := store.visible_suffix
  limited := fun _ limit => length_visible (kept.trans limit)
  unlimited := fun none => congrArg Store.partitions (sweep_eq (kept.trans none))

/-- Every valid configuration opens a store, and whatever is inserted, deleted, removed, selected or
swept, the partitions of that store lie in order on the grid, with the points of each series in
order inside their slots. -/
theorem partitions_tile_time (config : StoreConfig) (valid : config.validate = .ok ()) :
    ∃ store, create config = .ok store ∧ ∀ actions, (store.run actions).Tiled config := by
  obtain ⟨store, created⟩ := create_of_valid valid
  refine ⟨store, created, fun actions => ?_⟩
  have related := Ledger.related_run created actions
  exact related.sound.tiled related.duration related.kept

def twoSlots : StoreConfig where
  duration := 10
  kept := some 2

def twoSlotStore : Store where
  duration := 10
  writable := some 2
  kept := some 2
  window := ⟨{ past := some 20 }, none⟩

theorem two_slots_created : create twoSlots = .ok twoSlotStore :=
  rfl

def fourSlots : List StoreAction :=
  [.insert "s" ⟨Ranged.clamp (-5), .int32 (Ranged.clamp 1)⟩,
    .insert "s" ⟨Ranged.clamp 7, .int32 (Ranged.clamp 2)⟩,
    .insert "s" ⟨Ranged.clamp 25, .int32 (Ranged.clamp 3)⟩,
    .insert "t" ⟨Ranged.clamp 12, .int32 (Ranged.clamp 4)⟩]

theorem late_slot_in_order : (twoSlotStore.run fourSlots).Tiled twoSlots ∧
    (twoSlotStore.run fourSlots).slots.map (·.first.val) = [-10, 0, 10, 20] ∧
    ((twoSlotStore.run fourSlots).perform .sweep).2.slots.map (·.first.val) = [10, 20] := by
  obtain ⟨store, created, tiled⟩ := partitions_tile_time twoSlots (by decide)
  have same : store = twoSlotStore := Except.ok.inj (created.symm.trans two_slots_created)
  subst same
  refine ⟨tiled fourSlots, ?_, ?_⟩
  · decide +kernel
  · decide +kernel

end TimeSeries.Store
