import TimeSeries.Ranged

/-! Slots of the time line: ranges of one width that start at multiples of that width. -/

namespace TimeSeries

structure Slot where
  first : Timestamp
  last : Timestamp
  deriving DecidableEq

inductive Position where
  | past
  | current
  | future
  deriving DecidableEq

namespace Slot

/-- The slot around a timestamp, cut off at the ends of the time line. Widths below one act as
one. -/
def around (timestamp : Timestamp) (duration : Int) : Slot :=
  let width := max duration 1
  let start := timestamp.val - timestamp.val % width
  ⟨Ranged.clamp start, Ranged.clamp (start + width - 1)⟩

variable (slot : Slot)

def meets (start stop : Timestamp) : Bool :=
  !(slot.last < start || stop < slot.first)

def holds (timestamp : Timestamp) : Bool :=
  slot.first ≤ timestamp && timestamp ≤ slot.last

def position (timestamp : Timestamp) : Position :=
  if timestamp < slot.first then .past
  else if slot.last < timestamp then .future
  else .current

theorem holds_around (timestamp : Timestamp) (duration : Int) :
    (around timestamp duration).holds timestamp = true := by
  have low := timestamp.low_le
  have high := timestamp.le_high
  have width : 0 < max duration 1 := by omega
  have left := Int.emod_nonneg timestamp.val (Int.ne_of_gt width)
  have right := Int.emod_lt_of_pos timestamp.val width
  simp only [holds, around, Ranged.clamp, Ranged.le_iff, Bool.and_eq_true, decide_eq_true_eq]
  omega

end Slot

end TimeSeries
