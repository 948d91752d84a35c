import Mathlib.Data.String.Basic
import Mathlib.Order.RelClasses
import TimeSeries.Proofs.Ascending
import TimeSeries.Proofs.Timeline
import TimeSeries.Store.Partition

/-! What a partition holds of each series, as one list in time order. Every operation on a
partition is an operation on that list: placing a point, cutting off the oldest ones, dropping
all. A sound partition lies on the grid and keeps its points in order within its slot. -/

namespace TimeSeries

theorem Point.eq_iff {first second : Point} :
    first = second ↔ first.timestamp = second.timestamp ∧ first.value = second.value := by
  cases first
  cases second
  rw [Point.mk.injEq]

def Point.between (start stop : Timestamp) (point : Point) : Bool :=
  start ≤ point.timestamp && point.timestamp ≤ stop

theorem Point.between_iff {start stop : Timestamp} {point : Point} :
    point.between start stop = true ↔ start ≤ point.timestamp ∧ point.timestamp ≤ stop := by
  simp [between]

theorem Point.not_upTo (stop : Timestamp) :
    (fun point : Point => !decide (point.timestamp ≤ stop)) =
      fun point => decide (stop < point.timestamp) := by
  funext point
  rw [Bool.eq_iff_iff]
  simp only [Ranged.le_iff, Ranged.lt_iff, Bool.not_eq_true', decide_eq_true_eq,
    decide_eq_false_iff_not]
  omega

theorem ascending_timestamps {points : List Point} (ascending : Keyed.Ascending points) :
    points.Pairwise fun before after => before.timestamp.val < after.timestamp.val :=
  ascending

theorem closed_upTo {points : List Point} (ascending : Keyed.Ascending points) (stop : Timestamp) :
    points.Pairwise fun before after =>
      decide (after.timestamp ≤ stop) = true → decide (before.timestamp ≤ stop) = true := by
  refine (ascending_timestamps ascending).imp ?_
  intro before after less
  simp only [Ranged.le_iff, decide_eq_true_eq]
  omega

theorem closed_before {points : List Point} (ascending : Keyed.Ascending points)
    (start : Timestamp) :
    points.Pairwise fun before after =>
      decide (after.timestamp < start) = true → decide (before.timestamp < start) = true := by
  refine (ascending_timestamps ascending).imp ?_
  intro before after less
  simp only [Ranged.lt_iff, decide_eq_true_eq]
  omega

namespace Series

variable {series : Series}

theorem dropUpTo_points (ascending : Keyed.Ascending series.points) (stop : Timestamp) :
    (series.dropUpTo stop).points = series.points.filter fun point => stop < point.timestamp := by
  simp only [dropUpTo, countUpTo]
  rw [drop_countP (closed_upTo ascending stop), Point.not_upTo]

theorem le_last (ascending : Keyed.Ascending series.points) {last point : Point}
    (tail : series.points.getLast? = some last) (member : point ∈ series.points) :
    point.timestamp ≤ last.timestamp := by
  obtain ⟨rest, shape⟩ := List.getLast?_eq_some_iff.mp tail
  rw [shape] at ascending member
  rcases List.mem_append.mp member with earlier | same
  · exact Int.le_of_lt ((Keyed.ascending_append.mp ascending).2.2 point earlier last (by simp))
  · rw [List.mem_singleton.mp same]
    exact Int.le_refl _

theorem between_head_last (ascending : Keyed.Ascending series.points) {first last point : Point}
    (head : series.points.head? = some first) (tail : series.points.getLast? = some last)
    (member : point ∈ series.points) :
    first.timestamp ≤ point.timestamp ∧ point.timestamp ≤ last.timestamp := by
  refine ⟨?_, le_last ascending tail member⟩
  obtain ⟨rest, shape⟩ := List.head?_eq_some_iff.mp head
  rw [shape] at ascending member
  rcases List.mem_cons.mp member with rfl | later
  · exact Int.le_refl _
  · exact Int.le_of_lt ((Keyed.ascending_cons.mp ascending).1 point later)

/-- The points up to a time without those before an earlier time are those between the two. -/
theorem cut_eq_filter (ascending : Keyed.Ascending series.points) {start stop : Timestamp}
    (forward : start ≤ stop) :
    series.points.countP (·.timestamp < start) ≤ series.countUpTo stop ∧
      (series.points.take (series.countUpTo stop)).drop
        (series.points.countP (·.timestamp < start)) =
          series.points.filter (Point.between start stop) := by
  have taken : series.points.take (series.countUpTo stop) =
      series.points.filter fun point => point.timestamp ≤ stop :=
    take_countP (closed_upTo ascending stop)
  have early : series.points.countP (fun point => point.timestamp < start) =
      (series.points.filter fun point => point.timestamp ≤ stop).countP
        fun point => point.timestamp < start := by
    rw [List.countP_filter]
    congr 1
    funext point
    rw [Bool.eq_iff_iff]
    simp only [Ranged.le_iff, Ranged.lt_iff, Bool.and_eq_true, decide_eq_true_eq] at *
    omega
  constructor
  · apply List.countP_mono_left
    intro point _
    simp only [Ranged.le_iff, Ranged.lt_iff, decide_eq_true_eq] at *
    omega
  · have remaining : Keyed.Ascending
        (series.points.filter fun point => point.timestamp ≤ stop) :=
      ascending.sublist List.filter_sublist
    rw [taken, early, drop_countP (closed_before remaining start), List.filter_filter]
    congr 2
    funext point
    rw [Bool.eq_iff_iff]
    simp only [Point.between, Ranged.le_iff, Ranged.lt_iff, Bool.and_eq_true,
      Bool.not_eq_true', decide_eq_true_eq, decide_eq_false_iff_not] at *
    omega

/-- A range that runs forwards always has an answer, and the shortcut for ranges beside the series
does not change it. -/
theorem select_eq_filter (ascending : Keyed.Ascending series.points) {start stop : Timestamp}
    (forward : start ≤ stop) :
    series.select start stop = some (series.points.filter (Point.between start stop)) := by
  unfold select
  split
  next first last head tail =>
    split
    next beside =>
      have none : series.points.filter (Point.between start stop) = [] := by
        rw [List.filter_eq_nil_iff]
        intro point member inside
        have around := between_head_last ascending head tail member
        rw [Point.between_iff] at inside
        simp only [Ranged.le_iff, Ranged.lt_iff] at *
        omega
      rw [none]
    next meets =>
      obtain ⟨room, cut⟩ := cut_eq_filter ascending forward
      dsimp only
      rw [if_pos room, cut]
  next missing =>
    by_cases empty : series.points = []
    · rw [empty]
      rfl
    · have last := List.getLast?_eq_some_getLast empty
      exact absurd last (missing _ _ (List.head?_eq_some_head empty))

end Series

namespace Partition

variable {duration : Int} {partition : Partition} {name : String}

def pointsOf (partition : Partition) (name : String) : List Point :=
  ((partition.find? name).map Series.points).getD []

theorem find?_put (series : Series) (other : String) :
    (partition.put name series).find? other =
      if name = other then some series else partition.find? other := by
  simp only [find?, put, Keyed.find?_place]
  change Option.map _ (if name = other then _ else _) = _
  split <;> rfl

theorem find?_remove (other : String) :
    (partition.remove name).find? other = if name = other then none else partition.find? other := by
  simp only [find?, remove, Keyed.find?_without]
  split <;> rfl

@[simp] theorem pointsOf_put (series : Series) (other : String) :
    (partition.put name series).pointsOf other =
      if name = other then series.points else partition.pointsOf other := by
  unfold pointsOf
  rw [find?_put]
  split <;> rfl

@[simp] theorem pointsOf_remove (other : String) :
    (partition.remove name).pointsOf other =
      if name = other then [] else partition.pointsOf other := by
  unfold pointsOf
  rw [find?_remove]
  split <;> rfl

/-- The first point of a series is placed like any other. -/
theorem insert_eq {point : Point} (inside : partition.slot.holds point.timestamp = true) :
    partition.insert name point =
      .ok (partition.put name ⟨Keyed.place point (partition.pointsOf name)⟩) := by
  unfold insert pointsOf
  rw [if_pos inside]
  cases partition.find? name <;> rfl

/-- A series that a partition holds: some points, in order, all in the slot. -/
structure Keeps (slot : Slot) (series : Series) : Prop where
  populated : series.points ≠ []
  ordered : Keyed.Ascending series.points
  inside : ∀ point ∈ series.points, slot.holds point.timestamp = true

structure Sound (duration : Int) (partition : Partition) : Prop where
  aligned : ∃ timestamp, partition.slot = Slot.around timestamp duration
  ordered : Keyed.Ascending partition.entries
  entries : ∀ entry ∈ partition.entries, Keeps partition.slot entry.series

theorem Sound.slot_eq (sound : partition.Sound duration) {timestamp : Timestamp}
    (inside : partition.slot.holds timestamp = true) :
    partition.slot = Slot.around timestamp duration := by
  obtain ⟨origin, shape⟩ := sound.aligned
  rw [shape] at inside ⊢
  exact (Slot.around_eq_of_holds inside).symm

theorem sound_new (timestamp : Timestamp) (duration : Int) :
    Sound duration ⟨Slot.around timestamp duration, []⟩ :=
  ⟨⟨timestamp, rfl⟩, List.Pairwise.nil, by simp⟩

theorem Sound.find? (sound : partition.Sound duration) {series : Series} :
    partition.find? name = some series ↔ ⟨name, series⟩ ∈ partition.entries := by
  have search (entry : NamedSeries) : Keyed.find? name partition.entries = some entry ↔
      entry ∈ partition.entries ∧ Keyed.key entry = name :=
    Keyed.find?_eq_some_iff sound.ordered
  constructor
  · intro found
    obtain ⟨entry, placed, rfl⟩ := Option.map_eq_some_iff.mp found
    obtain ⟨member, rfl⟩ := (search entry).mp placed
    exact member
  · intro member
    have found := (search ⟨name, series⟩).mpr ⟨member, rfl⟩
    exact congrArg (Option.map NamedSeries.series) found

theorem Sound.pointsOf_entry (sound : partition.Sound duration) {entry : NamedSeries}
    (member : entry ∈ partition.entries) : partition.pointsOf entry.name = entry.series.points := by
  have found : partition.find? entry.name = some entry.series := sound.find?.mpr member
  unfold pointsOf
  rw [found]
  rfl

theorem Sound.pointsOf_cases (sound : partition.Sound duration) (name : String) :
    partition.find? name = none ∧ partition.pointsOf name = [] ∨
      ∃ series, partition.find? name = some series ∧ partition.pointsOf name = series.points ∧
        Keeps partition.slot series := by
  unfold pointsOf
  cases found : partition.find? name with
  | none => exact .inl ⟨rfl, rfl⟩
  | some series => exact .inr ⟨series, rfl, rfl, sound.entries _ (sound.find?.mp found)⟩

theorem Sound.pointsOf_ordered (sound : partition.Sound duration) (name : String) :
    Keyed.Ascending (partition.pointsOf name) := by
  rcases sound.pointsOf_cases name with ⟨_, none⟩ | ⟨series, _, points, keeps⟩
  · rw [none]
    exact List.Pairwise.nil
  · rw [points]
    exact keeps.ordered

theorem Sound.pointsOf_inside (sound : partition.Sound duration) {point : Point}
    (member : point ∈ partition.pointsOf name) : partition.slot.holds point.timestamp = true := by
  rcases sound.pointsOf_cases name with ⟨_, none⟩ | ⟨series, _, points, keeps⟩
  · simp [none] at member
  · exact keeps.inside point (points ▸ member)

theorem Sound.put (sound : partition.Sound duration) {series : Series}
    (keeps : Keeps partition.slot series) : (partition.put name series).Sound duration where
  aligned := sound.aligned
  ordered := sound.ordered.place _
  entries := by
    intro entry member
    rcases (Keyed.mem_place sound.ordered).mp member with rfl | ⟨member, _⟩
    · exact keeps
    · exact sound.entries entry member

theorem Sound.remove (sound : partition.Sound duration) :
    (partition.remove name).Sound duration where
  aligned := sound.aligned
  ordered := sound.ordered.without name
  entries := fun entry member => sound.entries entry (Keyed.mem_without.mp member).1

theorem Sound.insert (sound : partition.Sound duration) {point : Point}
    (inside : partition.slot.holds point.timestamp = true) :
    (partition.put name ⟨Keyed.place point (partition.pointsOf name)⟩).Sound duration := by
  have ordered := sound.pointsOf_ordered name
  refine sound.put ⟨?_, ordered.place point, ?_⟩
  · exact List.ne_nil_of_mem ((Keyed.mem_place ordered).mpr (.inl rfl))
  · intro other member
    rcases (Keyed.mem_place ordered).mp member with rfl | ⟨member, _⟩
    · exact inside
    · exact sound.pointsOf_inside member

theorem Sound.dropUpTo (sound : partition.Sound duration) (stop : Timestamp) :
    (partition.dropUpTo name stop).Sound duration := by
  unfold Partition.dropUpTo
  split
  · exact sound
  · split
    · exact sound
    next series found =>
      have keeps := sound.entries _ (sound.find?.mp found)
      dsimp only
      split
      · exact sound.remove
      next some_left =>
        have points := series.dropUpTo_points keeps.ordered stop
        refine sound.put ⟨some_left, ?_, ?_⟩
        · rw [points]
          exact keeps.ordered.sublist List.filter_sublist
        · intro point member
          rw [points] at member
          exact keeps.inside point (List.mem_filter.mp member).1

@[simp] theorem dropUpTo_slot (stop : Timestamp) :
    (partition.dropUpTo name stop).slot = partition.slot := by
  unfold Partition.dropUpTo
  split
  · rfl
  · split
    · rfl
    · dsimp only
      split <;> rfl

/-- Deletion leaves exactly the later points, also where the slot lies after the time. -/
theorem Sound.pointsOf_dropUpTo (sound : partition.Sound duration) (stop : Timestamp)
    (other : String) : (partition.dropUpTo name stop).pointsOf other =
      if name = other then (partition.pointsOf other).filter fun point => stop < point.timestamp
      else partition.pointsOf other := by
  unfold Partition.dropUpTo
  split
  next before =>
    have all : (partition.pointsOf other).filter (fun point => stop < point.timestamp) =
        partition.pointsOf other := by
      rw [List.filter_eq_self]
      intro point member
      have inside := Slot.holds_iff.mp (sound.pointsOf_inside member)
      simp only [Ranged.le_iff, Ranged.lt_iff, decide_eq_true_eq] at *
      omega
    rw [all, ite_self]
  next reaches =>
    rcases sound.pointsOf_cases name with ⟨missing, none⟩ | ⟨series, found, points, keeps⟩
    · rw [missing]
      by_cases same : name = other
      · simp [← same, none]
      · simp [same]
    · have left := series.dropUpTo_points keeps.ordered stop
      rw [found]
      dsimp only
      by_cases same : name = other
      · rw [if_pos same, ← same, points, ← left]
        split
        next empty => simp [empty]
        next => simp
      · split <;> simp [same]

theorem Sound.countUpTo_eq (sound : partition.Sound duration) (stop : Timestamp) :
    partition.countUpTo name stop =
      (partition.pointsOf name).countP fun point => point.timestamp ≤ stop := by
  unfold Partition.countUpTo
  split
  next before =>
    symm
    rw [List.countP_eq_zero]
    intro point member
    have inside := Slot.holds_iff.mp (sound.pointsOf_inside member)
    simp only [Ranged.le_iff, Ranged.lt_iff, decide_eq_true_eq] at *
    omega
  next reaches =>
    unfold pointsOf
    cases partition.find? name <;> rfl

theorem size_eq : partition.size name = (partition.pointsOf name).length := by
  unfold size pointsOf
  cases partition.find? name <;> rfl

theorem Sound.select_eq_filter (sound : partition.Sound duration) {start stop : Timestamp}
    (forward : start ≤ stop) : partition.select name start stop =
      some ((partition.pointsOf name).filter (Point.between start stop)) := by
  unfold Partition.select
  rcases sound.pointsOf_cases name with ⟨missing, none⟩ | ⟨series, found, points, keeps⟩
  · simp [missing, none]
  · rw [found, points]
    split
    · exact Series.select_eq_filter keeps.ordered forward
    next misses =>
      symm
      rw [Option.some.injEq, List.filter_eq_nil_iff]
      intro point member between
      have inside := Slot.holds_iff.mp (keeps.inside point member)
      rw [Point.between_iff] at between
      apply misses
      simp only [Slot.meets, Ranged.le_iff, Ranged.lt_iff, Bool.not_eq_true', Bool.or_eq_false_iff,
        decide_eq_false_iff_not] at *
      omega

end Partition

end TimeSeries
