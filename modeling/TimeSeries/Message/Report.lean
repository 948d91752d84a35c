import TimeSeries.Message.Basic
import TimeSeries.Text.Quoted

/-! Responses as they appear in reports. -/

namespace TimeSeries

namespace Report

def listed (items : List String) : String :=
  "[" ++ ", ".intercalate items ++ "]"

def record (name : String) (fields : List (String × String)) : String :=
  name ++ " \x7b " ++ ", ".intercalate (fields.map fun (field, text) => field ++ ": " ++ text) ++
    " \x7d"

def applied (name text : String) : String :=
  name ++ "(" ++ text ++ ")"

def bool (value : Bool) : String :=
  if value then "true" else "false"

def path (path : Path) : String :=
  record "Path" [("full", Text.quoted path.text)]

def dataType : DataType → String
  | .boolean => "Boolean"
  | .int32 => "Int32"
  | .int64 => "Int64"
  | .float => "Float"
  | .double => "Double"
  | .text => "Text"

def encoding : Encoding → String
  | .plain => "Plain"
  | .plainDictionary => "PlainDictionary"
  | .rle => "Rle"
  | .diff => "Diff"
  | .ts2Diff => "Ts2Diff"
  | .bitmap => "Bitmap"
  | .gorilla => "Gorilla"
  | .regular => "Regular"

def compression : Compression → String
  | .uncompressed => "Uncompressed"
  | .snappy => "Snappy"
  | .gzip => "Gzip"
  | .lzo => "Lzo"
  | .sdt => "Sdt"
  | .paa => "Paa"
  | .pla => "Pla"

def definition (definition : Definition) : String :=
  record "TimeseriesSchema" [
    ("path", path definition.path),
    ("storage_group", path definition.group),
    ("data_type", dataType definition.dataType),
    ("encoding", encoding definition.encoding),
    ("compression", compression definition.compression)]

def value (value : Value) : String :=
  applied (dataType value.dataType) <|
    match value with
    | .boolean value => bool value
    | .int32 value => value.text
    | .int64 value => value.text
    | .float word => Floating.Style.report.write Floating.single word
    | .double word => Floating.Style.report.write Floating.double word
    | .text content => Text.quoted content

def point (point : Point) : String :=
  record "DataPoint" [("timestamp", point.timestamp.text), ("value", value point.value)]

end Report

def Response.report : Response → String
  | .ok => "Ok"
  | .deleted count => Report.applied "Deleted" count.text
  | .storageGroups paths => Report.applied "StorageGroups" (Report.listed (paths.map Report.path))
  | .timeseries definitions =>
    Report.applied "Timeseries" (Report.listed (definitions.map Report.definition))
  | .exists answer => Report.applied "Exists" (Report.bool answer)
  | .dataPoints points => Report.applied "DataPoints" (Report.listed (points.map Report.point))
  | .version text => Report.applied "Version" (Text.quoted text)

end TimeSeries
