import TimeSeries.Value

/-! One series: insertion by time, deletion up to a time and selection of a range. -/

namespace TimeSeries

structure Series where
  points : List Point
  deriving DecidableEq

namespace Series

def single (point : Point) : Series :=
  ⟨[point]⟩

variable (series : Series)

def insert (point : Point) : Series :=
  ⟨Keyed.place point series.points⟩

def countUpTo (stop : Timestamp) : Nat :=
  series.points.countP (·.timestamp ≤ stop)

def dropUpTo (stop : Timestamp) : Series :=
  ⟨series.points.drop (series.countUpTo stop)⟩

/-- The points from `start` to `stop`. A range that runs backwards has no answer when a point
lies strictly inside it while others lie at or before its stop and at or after its start. -/
def select (start stop : Timestamp) : Option (List Point) :=
  match series.points.head?, series.points.getLast? with
  | some first, some last =>
    if stop < first.timestamp ∨ last.timestamp < start then some []
    else
      let skipped := series.points.countP (·.timestamp < start)
      let kept := series.countUpTo stop
      if skipped ≤ kept then some ((series.points.take kept).drop skipped) else none
  | _, _ => some []

end Series

end TimeSeries
