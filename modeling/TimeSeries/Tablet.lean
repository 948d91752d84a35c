import TimeSeries.Row
import TimeSeries.Value

/-! Tablets: many rows for one device, gathered before they are written. -/

namespace TimeSeries

structure TabletRow where
  timestamp : Timestamp
  values : List Value
  deriving DecidableEq

structure Tablet where
  device : String
  measurements : List String
  rows : List TabletRow := []
  deriving DecidableEq

namespace Tablet

def addRow (tablet : Tablet) (timestamp : Timestamp) (values : List Value) :
    Except WriteError Tablet :=
  if values.length = tablet.measurements.length then
    .ok { tablet with rows := tablet.rows ++ [⟨timestamp, values⟩] }
  else
    .error (.arityMismatch (Count.ofNat tablet.measurements.length) (Count.ofNat values.length))

/-- Rows of the same time keep their order. -/
def sorted (tablet : Tablet) : Tablet :=
  { tablet with
    rows := tablet.rows.mergeSort fun first second => first.timestamp ≤ second.timestamp }

end Tablet

end TimeSeries
