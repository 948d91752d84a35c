import TimeSeries.Store.Series
import TimeSeries.Store.Slot

/-! Partitions: one slot of the time line with the points of every series in it. A series is
held for as long as it has points. -/

namespace TimeSeries

structure NamedSeries where
  name : String
  series : Series
  deriving DecidableEq

instance : Keyed NamedSeries String := ⟨NamedSeries.name⟩

structure Partition where
  slot : Slot
  entries : List NamedSeries := []
  deriving DecidableEq

inductive PartitionError where
  | outOfSlot (timestamp : Timestamp)
  deriving DecidableEq

def PartitionError.message : PartitionError → String
  | .outOfSlot timestamp =>
    s!"data point at {timestamp.text} inserted outside of partition boundary"

namespace Partition

variable (partition : Partition)

def find? (name : String) : Option Series :=
  (Keyed.find? name partition.entries).map NamedSeries.series

/-- A range that misses the slot is empty whichever way it runs. -/
def select (name : String) (start stop : Timestamp) : Option (List Point) :=
  if partition.slot.meets start stop then
    match partition.find? name with
    | some series => series.select start stop
    | none => some []
  else some []

def put (name : String) (series : Series) : Partition :=
  { partition with entries := Keyed.place ⟨name, series⟩ partition.entries }

def insert (name : String) (point : Point) : Except PartitionError Partition :=
  if partition.slot.holds point.timestamp then
    match partition.find? name with
    | some series => .ok (partition.put name (series.insert point))
    | none => .ok (partition.put name (Series.single point))
  else .error (.outOfSlot point.timestamp)

def countUpTo (name : String) (stop : Timestamp) : Nat :=
  if stop < partition.slot.first then 0
  else ((partition.find? name).map (·.countUpTo stop)).getD 0

def remove (name : String) : Partition :=
  { partition with entries := Keyed.without name partition.entries }

/-- A series that loses its last point is no longer held. -/
def dropUpTo (name : String) (stop : Timestamp) : Partition :=
  if stop < partition.slot.first then partition
  else
    match partition.find? name with
    | none => partition
    | some series =>
      let left := series.dropUpTo stop
      if left.points = [] then partition.remove name else partition.put name left

def size (name : String) : Nat :=
  ((partition.find? name).map (·.points.length)).getD 0

end Partition

end TimeSeries
