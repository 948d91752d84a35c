import TimeSeries.Schema.Registry
import TimeSeries.Tablet

/-! What sessions and servers say to each other. -/

namespace TimeSeries

/-- Paths travel as text and are read by the server. -/
inductive Request where
  | setStorageGroup (path : String)
  | deleteStorageGroups (paths : List String)
  | createTimeseries (path : String) (dataType : DataType) (encoding : Encoding)
      (compression : Compression)
  | deleteTimeseries (paths : List String)
  | insert (device : String) (timestamp : Timestamp) (measurements : List String)
      (values : List Value)
  | insertTablet (tablet : Tablet)
  | deleteData (paths : List String) (stop : Timestamp)
  | showStorageGroups
  | showTimeseries (pattern : String)
  | checkTimeseriesExists (path : String)
  | select (path : String) (start stop : Timestamp)
  | version
  deriving DecidableEq

inductive Response where
  | ok
  | deleted (count : Count)
  | storageGroups (paths : List Path)
  | timeseries (definitions : List Definition)
  | exists (answer : Bool)
  | dataPoints (points : List Point)
  | version (text : String)
  deriving DecidableEq

inductive ConnectionError where
  | unreachable (address : String)
  | authentication (username : String)
  | lost (address : String)
  deriving DecidableEq

def ConnectionError.message : ConnectionError → String
  | .unreachable address => s!"endpoint {address} is unreachable"
  | .authentication username => s!"authentication failed for user `{username}`"
  | .lost address => s!"connection to {address} was lost"

inductive ServerError where
  | connection (cause : ConnectionError)
  | schema (cause : SchemaError)
  | write (cause : WriteError)
  | internal (reason : String)
  deriving DecidableEq

def ServerError.message : ServerError → String
  | .connection cause => cause.message
  | .schema cause => cause.message
  | .write cause => cause.message
  | .internal reason => reason

/-- A call ends with a response or a refusal, or breaks down without either. -/
inductive Reply where
  | answer (response : Response)
  | refused (error : ServerError)
  | brokenOff
  deriving DecidableEq

end TimeSeries
