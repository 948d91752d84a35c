import TimeSeries.DataType
import TimeSeries.Path

/-! Why a change or a question to a schema is refused, and paths read with those refusals. -/

namespace TimeSeries

inductive SchemaError where
  | malformedPath (path reason : String)
  | storageGroupNotFound (path : String)
  | storageGroupOverlap (path existing : String)
  | noStorageGroup (path : String)
  | conflictingTimeseries (path : String)
  | pathConflict (path existing : String)
  | timeseriesNotFound (path : String)
  | unsupportedEncoding (dataType : DataType) (encoding : Encoding)
  deriving DecidableEq

namespace SchemaError

def message : SchemaError → String
  | .malformedPath path reason => s!"malformed path `{path}`: {reason}"
  | .storageGroupNotFound path => s!"storage group `{path}` does not exist"
  | .storageGroupOverlap path existing =>
    s!"`{path}` overlaps with existing storage group `{existing}`"
  | .noStorageGroup path => s!"no storage group is set for `{path}`"
  | .conflictingTimeseries path =>
    s!"timeseries `{path}` already exists with a different definition"
  | .pathConflict path existing =>
    s!"timeseries `{path}` conflicts with existing path `{existing}`"
  | .timeseriesNotFound path => s!"timeseries `{path}` does not exist"
  | .unsupportedEncoding dataType encoding =>
    s!"encoding {Choice.name encoding} does not support data type {Choice.name dataType}"

def malformed (path : Path.Malformed) : SchemaError :=
  .malformedPath path.text path.fault.reason

def readPath (text : String) : Except SchemaError Path :=
  (Path.parse text).mapError malformed

def readPattern (text : String) : Except SchemaError Path :=
  (Path.parsePattern text).mapError malformed

end SchemaError

end TimeSeries
