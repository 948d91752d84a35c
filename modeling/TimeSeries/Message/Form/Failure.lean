import TimeSeries.Message.Basic
import TimeSeries.Message.Form.Data

/-! JSON forms of failures that a server reports. -/

namespace TimeSeries

open Json

instance : JsonForm ConnectionError where
  toJson
    | .unreachable address => alternative "Unreachable" (toJson address)
    | .authentication username => alternative "Authentication" (toJson username)
    | .lost address => alternative "Lost" (toJson address)
  ofJson? document :=
    match document.alternative? with
    | some ("Unreachable", some content) => (ofJson? content).map .unreachable
    | some ("Authentication", some content) => (ofJson? content).map .authentication
    | some ("Lost", some content) => (ofJson? content).map .lost
    | _ => none

instance : JsonForm SchemaError where
  toJson
    | .malformedPath path reason =>
      alternative "MalformedPath" (record [("path", toJson path), ("reason", toJson reason)])
    | .storageGroupNotFound path => alternative "StorageGroupNotFound" (toJson path)
    | .storageGroupOverlap path existing =>
      alternative "StorageGroupOverlap"
        (record [("path", toJson path), ("existing", toJson existing)])
    | .noStorageGroup path => alternative "NoStorageGroup" (toJson path)
    | .conflictingTimeseries path => alternative "ConflictingTimeseries" (toJson path)
    | .pathConflict path existing =>
      alternative "PathConflict" (record [("path", toJson path), ("existing", toJson existing)])
    | .timeseriesNotFound path => alternative "TimeseriesNotFound" (toJson path)
    | .unsupportedEncoding dataType encoding =>
      alternative "UnsupportedEncoding"
        (record [("data_type", toJson dataType), ("encoding", toJson encoding)])
  ofJson? document := do
    match document.alternative? with
    | some ("MalformedPath", some content) =>
      match ← fields? ["path", "reason"] content with
      | [path, reason] => return .malformedPath (← ofJson? path) (← ofJson? reason)
      | _ => none
    | some ("StorageGroupNotFound", some content) =>
      (ofJson? content).map .storageGroupNotFound
    | some ("StorageGroupOverlap", some content) =>
      match ← fields? ["path", "existing"] content with
      | [path, existing] => return .storageGroupOverlap (← ofJson? path) (← ofJson? existing)
      | _ => none
    | some ("NoStorageGroup", some content) => (ofJson? content).map .noStorageGroup
    | some ("ConflictingTimeseries", some content) =>
      (ofJson? content).map .conflictingTimeseries
    | some ("PathConflict", some content) =>
      match ← fields? ["path", "existing"] content with
      | [path, existing] => return .pathConflict (← ofJson? path) (← ofJson? existing)
      | _ => none
    | some ("TimeseriesNotFound", some content) => (ofJson? content).map .timeseriesNotFound
    | some ("UnsupportedEncoding", some content) =>
      match ← fields? ["data_type", "encoding"] content with
      | [dataType, encoding] =>
        return .unsupportedEncoding (← ofJson? dataType) (← ofJson? encoding)
      | _ => none
    | _ => none

instance : JsonForm WriteError where
  toJson
    | .arityMismatch measurements values =>
      alternative "ArityMismatch"
        (record [("measurements", toJson measurements), ("values", toJson values)])
    | .emptyRow => Json.text "EmptyRow"
    | .duplicateMeasurement measurement =>
      alternative "DuplicateMeasurement" (toJson measurement)
    | .undeclaredTimeseries series => alternative "UndeclaredTimeseries" (toJson series)
    | .typeMismatch series expected value =>
      alternative "TypeMismatch"
        (record [
          ("series", toJson series), ("expected", toJson expected), ("value", toJson value)])
    | .malformedPath path => alternative "MalformedPath" (toJson path)
    | .outOfWindow timestamp => alternative "OutOfWindow" (toJson timestamp)
    | .storage reason => alternative "Storage" (toJson reason)
  ofJson? document := do
    match document.alternative? with
    | some ("ArityMismatch", some content) =>
      match ← fields? ["measurements", "values"] content with
      | [measurements, values] =>
        return .arityMismatch (← ofJson? measurements) (← ofJson? values)
      | _ => none
    | some ("EmptyRow", none) => return .emptyRow
    | some ("EmptyRow", some .null) => return .emptyRow
    | some ("DuplicateMeasurement", some content) =>
      (ofJson? content).map .duplicateMeasurement
    | some ("UndeclaredTimeseries", some content) =>
      (ofJson? content).map .undeclaredTimeseries
    | some ("TypeMismatch", some content) =>
      match ← fields? ["series", "expected", "value"] content with
      | [series, expected, value] =>
        return .typeMismatch (← ofJson? series) (← ofJson? expected) (← ofJson? value)
      | _ => none
    | some ("MalformedPath", some content) => (ofJson? content).map .malformedPath
    | some ("OutOfWindow", some content) => (ofJson? content).map .outOfWindow
    | some ("Storage", some content) => (ofJson? content).map .storage
    | _ => none

instance : JsonForm ServerError where
  toJson
    | .connection cause => alternative "Connection" (toJson cause)
    | .schema cause => alternative "Schema" (toJson cause)
    | .write cause => alternative "Write" (toJson cause)
    | .internal reason => alternative "Internal" (toJson reason)
  ofJson? document :=
    match document.alternative? with
    | some ("Connection", some content) => (ofJson? content).map .connection
    | some ("Schema", some content) => (ofJson? content).map .schema
    | some ("Write", some content) => (ofJson? content).map .write
    | some ("Internal", some content) => (ofJson? content).map .internal
    | _ => none

end TimeSeries
