import TimeSeries.Proofs.ServerWrites

/-! What tells two stores apart. Beside its limits a sound store is determined by its slots, its
newest timestamp and its cells, so it does not remember in which order the points came. Two lists of
points that have the same times and agree on the last value of each cell lead to one store. -/

namespace TimeSeries

namespace Partition

variable {duration : Int} {partition first second : Partition} {name : String}

theorem Sound.find?_iff (sound : partition.Sound duration) {series : Series} :
    partition.find? name = some series ↔
      series.points = partition.pointsOf name ∧ series.points ≠ [] := by
  rcases sound.pointsOf_cases name with ⟨missing, none⟩ | ⟨held, found, points, keeps⟩
  · rw [missing, none]
    simp
  · rw [found, points, Option.some.injEq]
    constructor
    · rintro rfl
      exact ⟨rfl, keeps.populated⟩
    · rintro ⟨same, _⟩
      exact congrArg Series.mk same.symm

theorem Sound.eq_of_pointsOf (one : first.Sound duration) (other : second.Sound duration)
    (slot : first.slot = second.slot) (points : first.pointsOf = second.pointsOf) :
    first = second := by
  have entries : first.entries = second.entries := by
    apply one.ordered.eq_of_mem_iff other.ordered
    intro entry
    calc entry ∈ first.entries
      _ ↔ first.find? entry.name = some entry.series := one.find?.symm
      _ ↔ second.find? entry.name = some entry.series := by
        rw [one.find?_iff, other.find?_iff, points]
      _ ↔ entry ∈ second.entries := other.find?
  cases first
  cases second
  cases slot
  cases entries
  rfl

end Partition

namespace Store

variable {store first second : Store} {name : String}

/-! ### Identity -/

theorem Sound.mem_pointsOf_partition (sound : store.Sound) {partition : Partition}
    (member : partition ∈ store.partitions) {point : Point} :
    point ∈ partition.pointsOf name ↔
      partition.slot.holds point.timestamp = true ∧
        store.valueAt name point.timestamp = some point.value := by
  rw [sound.valueAt_iff]
  constructor
  · intro held
    exact ⟨(sound.partitions partition member).pointsOf_inside held,
      List.mem_flatMap.mpr ⟨partition, member, held⟩⟩
  · rintro ⟨inside, held⟩
    obtain ⟨other, otherMember, held⟩ := List.mem_flatMap.mp held
    have also := (sound.partitions other otherMember).pointsOf_inside held
    rw [sound.eq_of_holds member otherMember inside also]
    exact held

theorem Sound.starts_ordered (sound : store.Sound) :
    store.partitions.Pairwise fun before after => before.slot.first < after.slot.first := by
  refine List.Pairwise.imp_of_mem ?_ sound.sorted
  intro before after member _ follows
  exact Int.lt_of_le_of_lt (sound.first_le_last member) follows

section Same

variable (one : first.Sound) (other : second.Sound) (width : first.duration = second.duration)
  (slots : ∀ slot, slot ∈ first.slots ↔ slot ∈ second.slots)
  (cells : first.valueAt = second.valueAt)

include one other width slots cells

theorem Sound.mem_of_cells {partition : Partition} (member : partition ∈ first.partitions) :
    partition ∈ second.partitions := by
  have listed := (slots partition.slot).mp (List.mem_map_of_mem member)
  obtain ⟨twin, twinMember, slot⟩ := List.mem_map.mp listed
  have whole := one.partitions partition member
  have twinWhole := other.partitions twin twinMember
  rw [← width] at twinWhole
  have points : partition.pointsOf = twin.pointsOf := by
    funext name
    apply (whole.pointsOf_ordered name).eq_of_mem_iff (twinWhole.pointsOf_ordered name)
    intro point
    rw [one.mem_pointsOf_partition member, other.mem_pointsOf_partition twinMember, slot, cells]
  rw [whole.eq_of_pointsOf twinWhole slot.symm points]
  exact twinMember

/-- Stores with the same slots and cells have the same partitions. -/
theorem Sound.partitions_eq : first.partitions = second.partitions := by
  have irreflexive : Std.Irrefl fun before after : Partition =>
      before.slot.first < after.slot.first := ⟨fun partition => Int.lt_irrefl _⟩
  have antisymmetric : Std.Antisymm fun before after : Partition =>
      before.slot.first < after.slot.first :=
    ⟨fun before after less more => absurd more (Int.lt_asymm less)⟩
  apply List.Pairwise.eq_of_mem_iff one.starts_ordered other.starts_ordered
  intro partition
  constructor
  · exact one.mem_of_cells other width slots cells
  · exact other.mem_of_cells one width.symm (fun slot => (slots slot).symm) cells.symm

end Same

end Store

/-! ### Points written -/

namespace Server

variable {store : Store} {first second : List AddressedPoint}

/-- A store does not remember the order of the points, only the last one for each cell. -/
theorem written_eq (sound : store.Sound)
    (stamps : ∀ timestamp, timestamp ∈ times first ↔ timestamp ∈ times second)
    (cells : ∀ name timestamp,
      lastValue name timestamp first = lastValue name timestamp second) :
    written first store = written second store := by
  have window : (written first store).window = (written second store).window := by
    have newest : InsertWindow.latestOf store.window.newest (times first) =
        InsertWindow.latestOf store.window.newest (times second) := by
      ext timestamp
      simp only [InsertWindow.latestOf_eq_some_iff, stamps]
    rw [written_window, written_window, newest]
  have partitions : (written first store).partitions = (written second store).partitions := by
    apply (written_sound first sound).partitions_eq (written_sound second sound)
    · rw [written_frame first, written_frame second]
    · intro slot
      simp only [mem_slots_written sound, stamps]
    · funext name timestamp
      rw [valueAt_written _ sound, valueAt_written _ sound, cells]
  rw [written_frame first, written_frame second, window, partitions]

end Server

end TimeSeries
