import TimeSeries.Message.Form.Failure

/-! JSON forms of requests and responses. -/

namespace TimeSeries

open Json

instance : JsonForm Request where
  toJson
    | .setStorageGroup path => alternative "SetStorageGroup" (record [("path", toJson path)])
    | .deleteStorageGroups paths =>
      alternative "DeleteStorageGroups" (record [("paths", toJson paths)])
    | .createTimeseries path dataType encoding compression =>
      alternative "CreateTimeseries"
        (record [
          ("path", toJson path), ("data_type", toJson dataType), ("encoding", toJson encoding),
          ("compression", toJson compression)])
    | .deleteTimeseries paths => alternative "DeleteTimeseries" (record [("paths", toJson paths)])
    | .insert device timestamp measurements values =>
      alternative "Insert"
        (record [
          ("device_id", toJson device), ("timestamp", toJson timestamp),
          ("measurements", toJson measurements), ("values", toJson values)])
    | .insertTablet tablet => alternative "InsertTablet" (toJson tablet)
    | .deleteData paths stop =>
      alternative "DeleteData" (record [("paths", toJson paths), ("end_time", toJson stop)])
    | .showStorageGroups => Json.text "ShowStorageGroups"
    | .showTimeseries pattern =>
      alternative "ShowTimeseries" (record [("pattern", toJson pattern)])
    | .checkTimeseriesExists path =>
      alternative "CheckTimeseriesExists" (record [("path", toJson path)])
    | .select path start stop =>
      alternative "Select"
        (record [("path", toJson path), ("start", toJson start), ("end", toJson stop)])
    | .version => Json.text "Version"
  ofJson? document := do
    match document.alternative? with
    | some ("SetStorageGroup", some content) =>
      match ← fields? ["path"] content with
      | [path] => return .setStorageGroup (← ofJson? path)
      | _ => none
    | some ("DeleteStorageGroups", some content) =>
      match ← fields? ["paths"] content with
      | [paths] => return .deleteStorageGroups (← ofJson? paths)
      | _ => none
    | some ("CreateTimeseries", some content) =>
      match ← fields? ["path", "data_type", "encoding", "compression"] content with
      | [path, dataType, encoding, compression] =>
        return .createTimeseries (← ofJson? path) (← ofJson? dataType) (← ofJson? encoding)
          (← ofJson? compression)
      | _ => none
    | some ("DeleteTimeseries", some content) =>
      match ← fields? ["paths"] content with
      | [paths] => return .deleteTimeseries (← ofJson? paths)
      | _ => none
    | some ("Insert", some content) =>
      match ← fields? ["device_id", "timestamp", "measurements", "values"] content with
      | [device, timestamp, measurements, values] =>
        return .insert (← ofJson? device) (← ofJson? timestamp) (← ofJson? measurements)
          (← ofJson? values)
      | _ => none
    | some ("InsertTablet", some content) => (ofJson? content).map .insertTablet
    | some ("DeleteData", some content) =>
      match ← fields? ["paths", "end_time"] content with
      | [paths, stop] => return .deleteData (← ofJson? paths) (← ofJson? stop)
      | _ => none
    | some ("ShowStorageGroups", none) => return .showStorageGroups
    | some ("ShowStorageGroups", some .null) => return .showStorageGroups
    | some ("ShowTimeseries", some content) =>
      match ← fields? ["pattern"] content with
      | [pattern] => return .showTimeseries (← ofJson? pattern)
      | _ => none
    | some ("CheckTimeseriesExists", some content) =>
      match ← fields? ["path"] content with
      | [path] => return .checkTimeseriesExists (← ofJson? path)
      | _ => none
    | some ("Select", some content) =>
      match ← fields? ["path", "start", "end"] content with
      | [path, start, stop] =>
        return .select (← ofJson? path) (← ofJson? start) (← ofJson? stop)
      | _ => none
    | some ("Version", none) => return .version
    | some ("Version", some .null) => return .version
    | _ => none

instance : JsonForm Response where
  toJson
    | .ok => Json.text "Ok"
    | .deleted count => alternative "Deleted" (toJson count)
    | .storageGroups paths => alternative "StorageGroups" (toJson paths)
    | .timeseries definitions => alternative "Timeseries" (toJson definitions)
    | .exists answer => alternative "Exists" (toJson answer)
    | .dataPoints points => alternative "DataPoints" (toJson points)
    | .version text => alternative "Version" (toJson text)
  ofJson? document :=
    match document.alternative? with
    | some ("Ok", none) => some .ok
    | some ("Ok", some .null) => some .ok
    | some ("Deleted", some content) => (ofJson? content).map .deleted
    | some ("StorageGroups", some content) => (ofJson? content).map .storageGroups
    | some ("Timeseries", some content) => (ofJson? content).map .timeseries
    | some ("Exists", some content) => (ofJson? content).map .exists
    | some ("DataPoints", some content) => (ofJson? content).map .dataPoints
    | some ("Version", some content) => (ofJson? content).map .version
    | _ => none

end TimeSeries
