import TimeSeries.Server.Basic

/-! Rows on their way into the store: checked against the schema, brought to the declared types
and written point by point. -/

namespace TimeSeries

structure AddressedPoint where
  series : Path
  point : Point
  deriving DecidableEq

namespace Server

def readWritePath (text : String) : Except WriteError Path :=
  (Path.parse text).mapError fun _ => .malformedPath text

def resolveEntries (registry : Registry) (device : Path) (timestamp : Timestamp) :
    List String → List (String × Value) → Except WriteError (List AddressedPoint)
  | _, [] => .ok []
  | seen, (measurement, value) :: entries => do
    if measurement ∈ seen then throw (.duplicateMeasurement measurement)
    let series ← (device.child measurement).mapError fun _ =>
      .malformedPath (device.text ++ "." ++ measurement)
    match registry.find? series with
    | none => throw (.undeclaredTimeseries series.text)
    | some definition =>
      let value ← value.coerce series.text definition.dataType
      let points ← resolveEntries registry device timestamp (measurement :: seen) entries
      return ⟨series, ⟨timestamp, value⟩⟩ :: points

def resolveRow (registry : Registry) (device : String) (timestamp : Timestamp)
    (measurements : List String) (values : List Value) :
    Except WriteError (List AddressedPoint) := do
  Row.checkShape measurements values.length
  let device ← readWritePath device
  resolveEntries registry device timestamp [] (measurements.zip values)

def writeError (timestamp : Timestamp) : StoreError → WriteError
  | .outOfBounds => .outOfWindow timestamp
  | error => .storage error.message

/-- Writes points one by one and stops at the first that the store refuses. Those before it stay
written. -/
def writePoints : List AddressedPoint → Store → Except WriteError Unit × Store
  | [], store => (.ok (), store)
  | addressed :: rest, store =>
    match store.insert addressed.series.text addressed.point with
    | .ok store => writePoints rest store
    | .error error => (.error (writeError addressed.point.timestamp error), store)

/-- The points of all rows. Each row has to lie in the insert window as it is before any of them
is written. -/
def resolveRows (server : Server) (device : String) (measurements : List String) :
    List TabletRow → Except WriteError (List AddressedPoint)
  | [] => .ok []
  | row :: rows => do
    if !server.store.accepts row.timestamp then throw (.outOfWindow row.timestamp)
    let points ← resolveRow server.registry device row.timestamp measurements row.values
    let others ← resolveRows server device measurements rows
    return points ++ others

def resolveTablet (server : Server) (tablet : Tablet) :
    Except WriteError (List AddressedPoint) :=
  server.resolveRows tablet.device tablet.measurements tablet.sorted.rows

def deleteFrom (stop : Timestamp) : List Path → Store → Except StoreError (Nat × Store)
  | [], store => .ok (0, store)
  | series :: rest, store => do
    let (count, store) ← store.delete series.text stop
    let (counts, store) ← deleteFrom stop rest store
    return (count + counts, store)

def deleteData (server : Server) (paths : List String) (stop : Timestamp) :
    Except WriteError (Nat × Store) := do
  let series ← paths.mapM readWritePath
  match series.find? fun path => !server.registry.contains path with
  | some missing => throw (.undeclaredTimeseries missing.text)
  | none => (deleteFrom stop series server.store).mapError fun error => .storage error.message

def removeAll : List Path → Store → Except StoreError Store
  | [], store => .ok store
  | series :: rest, store => do
    let (_, store) ← store.remove series.text
    removeAll rest store

end Server

end TimeSeries
