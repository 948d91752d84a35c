import Mathlib.Data.Int.Interval
import TimeSeries.Proofs.AcceptedTimes

/-! A limit on the partitions that accept writes, measured on the grid. Without limits on the insert
window, a store takes every point in the slots of the grid that end with the slot of the newest
timestamp, as many as there are writable partitions, and refuses all points that lie further back
than these slots are wide. -/

namespace TimeSeries

namespace Slot

variable {timestamp other : Timestamp} {duration : Int}

theorem index_lt (width : 0 < duration) (after : (around timestamp duration).last < other) :
    timestamp.val / duration < other.val / duration := by
  have high := other.le_high
  rw [Ranged.lt_iff, last_val] at after
  have next : start timestamp duration + max duration 1 ≤ start other duration := by
    apply start_next
    omega
  unfold start at next
  rw [Int.max_eq_left (by omega)] at next
  apply Int.lt_of_mul_lt_mul_left _ (Int.le_of_lt width)
  omega

theorem sub_lt_of_index (width : 0 < duration) {slots : Int}
    (within : timestamp.val / duration - slots < other.val / duration) :
    timestamp.val - other.val < slots * duration := by
  have ends : timestamp.val < duration * (timestamp.val / duration) + duration :=
    Int.lt_mul_ediv_self_add width
  have starts : duration * (other.val / duration) ≤ other.val := Int.mul_ediv_self_le (by omega)
  have places : timestamp.val / duration + 1 ≤ other.val / duration + slots := by omega
  have scaled := Int.mul_le_mul_of_nonneg_left places (Int.le_of_lt width)
  rw [Int.mul_add, Int.mul_add, Int.mul_one, Int.mul_comm duration slots] at scaled
  omega

end Slot

namespace Store

variable {store : Store} {timestamp newest : Timestamp}

def placesAfter (store : Store) (timestamp : Timestamp) : List Int :=
  (store.partitions.filter fun partition => timestamp < partition.slot.first).map
    fun partition => partition.slot.first.val / store.duration

theorem length_placesAfter (store : Store) (timestamp : Timestamp) :
    (store.placesAfter timestamp).length = store.newer timestamp := by
  rw [placesAfter, List.length_map, newer, List.countP_eq_length_filter]

theorem Sound.slot_around_first (sound : store.Sound) {partition : Partition}
    (member : partition ∈ store.partitions) :
    partition.slot = Slot.around partition.slot.first store.duration := by
  apply (sound.partitions partition member).slot_eq
  exact Slot.holds_iff.mpr ⟨Int.le_refl _, sound.first_le_last member⟩

theorem Sound.placesAfter_nodup (sound : store.Sound) (timestamp : Timestamp) :
    (store.placesAfter timestamp).Nodup := by
  refine List.pairwise_map.mpr (List.Pairwise.imp_of_mem ?_
    (sound.sorted.sublist List.filter_sublist))
  intro before after member _ follows
  rw [sound.slot_around_first (List.mem_filter.mp member).1] at follows
  exact Int.ne_of_lt (Slot.index_lt sound.width follows)

theorem Sound.placesAfter_between (sound : store.Sound)
    (set : store.window.newest = some newest) {place : Int}
    (member : place ∈ store.placesAfter timestamp) :
    timestamp.val / store.duration < place ∧ place ≤ newest.val / store.duration := by
  obtain ⟨partition, listed, rfl⟩ := List.mem_map.mp member
  obtain ⟨held, after⟩ := List.mem_filter.mp listed
  constructor
  · rw [decide_eq_true_eq, sound.slot_around_first held] at after
    have inside := Slot.holds_iff.mp (Slot.holds_around partition.slot.first store.duration)
    apply Slot.index_lt sound.width
    exact Int.lt_of_lt_of_le (Slot.last_lt_first_of_before after) inside.1
  · obtain ⟨found, same, reached⟩ := sound.reached partition held
    cases set.symm.trans same
    exact Int.ediv_le_ediv sound.width reached

/-- No more partitions lie after a timestamp than there are places on the grid for them. -/
theorem Sound.newer_le_places (sound : store.Sound) (set : store.window.newest = some newest)
    (timestamp : Timestamp) : store.newer timestamp ≤
      (newest.val / store.duration - timestamp.val / store.duration).toNat := by
  have inside : (store.placesAfter timestamp).toFinset ⊆
      Finset.Ioc (timestamp.val / store.duration) (newest.val / store.duration) := by
    intro place member
    exact Finset.mem_Ioc.mpr (sound.placesAfter_between set (List.mem_toFinset.mp member))
  calc
    store.newer timestamp = (store.placesAfter timestamp).length :=
      (store.length_placesAfter timestamp).symm
    _ = (store.placesAfter timestamp).toFinset.card :=
      (List.toFinset_card_of_nodup (sound.placesAfter_nodup timestamp)).symm
    _ ≤ (Finset.Ioc (timestamp.val / store.duration) (newest.val / store.duration)).card :=
      Finset.card_le_card inside
    _ = (newest.val / store.duration - timestamp.val / store.duration).toNat := Int.card_Ioc _ _

theorem allows_default_past {config : StoreConfig} {slots : Nat}
    (limited : config.writable = some slots)
    (noPast : config.bounds.bind Tolerance.past = none) (width : 0 < config.duration)
    (distance : Int) : InsertWindow.Allows (Ledger.past config) distance ↔
      (slots * config.duration < 9223372036854775807 → distance ≤ slots * config.duration) := by
  have stretch : ((slots * config.duration.toNat : Nat) : Int) = slots * config.duration := by
    rw [Int.natCast_mul, Int.toNat_of_nonneg (Int.le_of_lt width)]
  unfold Ledger.past InsertWindow.Allows
  rw [noPast, limited]
  simp only [Option.none_or, Option.map_some, Option.mem_def, Option.some.injEq, forall_eq']
  rw [stretch]

/-- With a limit on the writable partitions and no limits on the insert window, every point in the
slots of the grid that end with the slot of the newest timestamp, as many as there are writable
partitions, is accepted, and so is every newer one. A point that lies further back than these slots
are wide together is refused, unless that width reaches the largest timestamp. -/
theorem grid_slots_stay_writable {config : StoreConfig} (created : create config = .ok store)
    {slots : Nat} (limited : config.writable = some slots)
    (noPast : config.bounds.bind Tolerance.past = none)
    (noFuture : config.bounds.bind Tolerance.future = none) (actions : List StoreAction)
    (largest : store.Newest actions newest) (name : String) (point : Point) :
    (newest.val / config.duration - slots < point.timestamp.val / config.duration →
        ∃ next, (store.run actions).insert name point = .ok next) ∧
      (slots * config.duration < 9223372036854775807 →
        point.timestamp.val < newest.val - slots * config.duration →
          (store.run actions).insert name point = .error .outOfBounds) := by
  have related := Ledger.related_run created actions
  have sound := related.sound
  have width : 0 < config.duration := related.duration ▸ sound.width
  have set := (newest_run_iff created actions newest).mpr largest
  have accepts : (store.run actions).accepts point.timestamp = true ↔
      (slots * config.duration < 9223372036854775807 →
        newest.val - point.timestamp.val ≤ slots * config.duration) := by
    unfold accepts
    rw [InsertWindow.contains_iff, set]
    simp only [Option.mem_def, Option.some.injEq, forall_eq']
    rw [related.future, related.past, allows_default_past limited noPast width]
    simp [Ledger.future, noFuture, InsertWindow.Allows]
  rw [sound.insert_eq related.opened]
  constructor
  · intro within
    have near := Slot.sub_lt_of_index width within
    have places := sound.newer_le_places set point.timestamp
    rw [related.duration] at places
    have admits : (store.run actions).Admits point.timestamp := by
      refine ⟨accepts.mpr fun _ => Int.le_of_lt near, fun writable given => ?_⟩
      have some_slot := sound.positive writable given
      rw [related.writable, limited] at given
      cases given
      omega
    exact ⟨_, if_pos admits⟩
  · intro narrow far
    have refused : ¬(store.run actions).Admits point.timestamp := fun admits => by
      have near := accepts.mp admits.1 narrow
      omega
    exact if_neg refused

def weekly : StoreConfig where
  duration := 7
  hot := some 3

def weeklyStore : Store where
  duration := 7
  writable := some 3
  kept := none
  window := ⟨{ past := some 21 }, none⟩

theorem weekly_created : create weekly = .ok weeklyStore :=
  rfl

def sparsePoints : List StoreAction :=
  [.insert "s" ⟨Ranged.clamp 3, .int32 (Ranged.clamp 1)⟩,
    .insert "s" ⟨Ranged.clamp (-9), .int32 (Ranged.clamp 2)⟩]

theorem third_slot_back_is_writable :
    (∃ next, (weeklyStore.run sparsePoints).insert "t"
        ⟨Ranged.clamp (-14), .int32 (Ranged.clamp 3)⟩ = .ok next) ∧
      (weeklyStore.run sparsePoints).insert "t" ⟨Ranged.clamp (-19), .int32 (Ranged.clamp 4)⟩ =
        .error .outOfBounds := by
  have largest : weeklyStore.Newest sparsePoints (Ranged.clamp 3) := by decide +kernel
  have window := grid_slots_stay_writable weekly_created rfl rfl rfl sparsePoints largest "t"
  exact ⟨(window ⟨Ranged.clamp (-14), .int32 (Ranged.clamp 3)⟩).1 (by decide),
    (window ⟨Ranged.clamp (-19), .int32 (Ranged.clamp 4)⟩).2 (by decide) (by decide)⟩

end Store

end TimeSeries
