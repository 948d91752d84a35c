import TimeSeries.Json.Form
import TimeSeries.Json.Real
import TimeSeries.Schema.Registry
import TimeSeries.Store.Slot
import TimeSeries.Tablet

/-! JSON forms of stored and declared things. -/

namespace TimeSeries

open Json

instance : JsonForm DataType := choiceForm
instance : JsonForm Encoding := choiceForm
instance : JsonForm Compression := choiceForm

/-- Patterns are not read as paths. -/
instance : JsonForm Path where
  toJson path := Json.text path.text
  ofJson?
    | .string (some text) => (Path.parse text).toOption
    | _ => none

instance : JsonForm Floating.Single where
  toJson := ofSingle
  ofJson?
    | .number literal => literal.single?
    | _ => none

instance : JsonForm Floating.Double where
  toJson := ofDouble
  ofJson?
    | .number literal => literal.double?
    | _ => none

instance : JsonForm Value where
  toJson
    | .boolean value => alternative "Boolean" (toJson value)
    | .int32 value => alternative "Int32" (toJson value)
    | .int64 value => alternative "Int64" (toJson value)
    | .float word => alternative "Float" (toJson word)
    | .double word => alternative "Double" (toJson word)
    | .text content => alternative "Text" (toJson content)
  ofJson? document :=
    match document.alternative? with
    | some ("Boolean", some content) => (ofJson? content).map .boolean
    | some ("Int32", some content) => (ofJson? content).map .int32
    | some ("Int64", some content) => (ofJson? content).map .int64
    | some ("Float", some content) => (ofJson? content).map .float
    | some ("Double", some content) => (ofJson? content).map .double
    | some ("Text", some content) => (ofJson? content).map .text
    | _ => none

instance : JsonForm Point where
  toJson point :=
    record [("timestamp", toJson point.timestamp), ("value", toJson point.value)]
  ofJson? document := do
    match ← fields? ["timestamp", "value"] document with
    | [timestamp, value] => return ⟨← ofJson? timestamp, ← ofJson? value⟩
    | _ => none

instance : JsonForm TabletRow where
  toJson row := record [("timestamp", toJson row.timestamp), ("values", toJson row.values)]
  ofJson? document := do
    match ← fields? ["timestamp", "values"] document with
    | [timestamp, values] => return ⟨← ofJson? timestamp, ← ofJson? values⟩
    | _ => none

instance : JsonForm Tablet where
  toJson tablet :=
    record [
      ("device_id", toJson tablet.device),
      ("measurements", toJson tablet.measurements),
      ("rows", toJson tablet.rows)]
  ofJson? document := do
    match ← fields? ["device_id", "measurements", "rows"] document with
    | [device, measurements, rows] =>
      return ⟨← ofJson? device, ← ofJson? measurements, ← ofJson? rows⟩
    | _ => none

instance : JsonForm Definition where
  toJson definition :=
    record [
      ("path", toJson definition.path),
      ("storage_group", toJson definition.group),
      ("data_type", toJson definition.dataType),
      ("encoding", toJson definition.encoding),
      ("compression", toJson definition.compression)]
  ofJson? document := do
    let names := ["path", "storage_group", "data_type", "encoding", "compression"]
    match ← fields? names document with
    | [path, group, dataType, encoding, compression] =>
      return ⟨← ofJson? path, ← ofJson? group, ← ofJson? dataType, ← ofJson? encoding,
        ← ofJson? compression⟩
    | _ => none

instance : JsonForm Slot where
  toJson slot :=
    record [("min_timestamp", toJson slot.first), ("max_timestamp", toJson slot.last)]
  ofJson? document := do
    match ← fields? ["min_timestamp", "max_timestamp"] document with
    | [first, last] => return ⟨← ofJson? first, ← ofJson? last⟩
    | _ => none

end TimeSeries
