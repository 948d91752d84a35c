import TimeSeries.DataType
import TimeSeries.Ranged

/-! Rows of values for the measurements of one device, and why a write is refused. -/

namespace TimeSeries

inductive WriteError where
  | arityMismatch (measurements values : Count)
  | emptyRow
  | duplicateMeasurement (measurement : String)
  | undeclaredTimeseries (series : String)
  | typeMismatch (series : String) (expected : DataType) (value : String)
  | malformedPath (path : String)
  | outOfWindow (timestamp : Timestamp)
  | storage (reason : String)
  deriving DecidableEq

def WriteError.message : WriteError → String
  | .arityMismatch measurements values =>
    measurements.text ++ " measurements but " ++ values.text ++ " values"
  | .emptyRow => "no measurements to write"
  | .duplicateMeasurement measurement => s!"measurement `{measurement}` appears more than once"
  | .undeclaredTimeseries series => s!"timeseries `{series}` was not declared"
  | .typeMismatch series expected value =>
    s!"value `{value}` does not match type {Choice.name expected} of `{series}`"
  | .malformedPath path => s!"malformed path `{path}`"
  | .outOfWindow timestamp => "timestamp " ++ timestamp.text ++ " is outside of the insert window"
  | .storage reason => s!"storage rejected the write: {reason}"

namespace Row

def checkShape (measurements : List String) (values : Nat) : Except WriteError Unit :=
  if measurements.length ≠ values then
    .error (.arityMismatch (Count.ofNat measurements.length) (Count.ofNat values))
  else if measurements = [] then .error .emptyRow
  else .ok ()

/-- The first measurement that stands among those seen before it. -/
def firstRepeated? : List String → List String → Option String
  | _, [] => none
  | seen, measurement :: rest =>
    if measurement ∈ seen then some measurement else firstRepeated? (measurement :: seen) rest

def checkDistinct (measurements : List String) : Except WriteError Unit :=
  match firstRepeated? [] measurements with
  | some measurement => .error (.duplicateMeasurement measurement)
  | none => .ok ()

end Row

end TimeSeries
