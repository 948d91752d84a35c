import TimeSeries.Server.Write

/-! How a server answers its requests. -/

namespace TimeSeries.Server

def version : String := "0.1.0"

def changeSchema (server : Server) (change : Except SchemaError (Bool × Registry)) :
    Reply × Server :=
  match change with
  | .ok (_, registry) => (.answer .ok, { server with registry })
  | .error error => (.refused (.schema error), server)

/-- Series that leave the schema take their points with them. -/
def dropSeries (server : Server) (change : Except SchemaError (List Path × Registry)) :
    Reply × Server :=
  match change with
  | .ok (series, registry) =>
    match removeAll series server.store with
    | .ok store => (.answer .ok, { server with registry, store })
    | .error error => (.refused (.internal error.message), { server with registry })
  | .error error => (.refused (.schema error), server)

def write (server : Server) (points : Except WriteError (List AddressedPoint)) : Reply × Server :=
  match points with
  | .ok points =>
    match writePoints points server.store with
    | (.ok (), store) => (.answer .ok, { server with store })
    | (.error error, store) => (.refused (.write error), { server with store })
  | .error error => (.refused (.write error), server)

def readSchema (result : Except SchemaError Response) : Reply :=
  match result with
  | .ok response => .answer response
  | .error error => .refused (.schema error)

def selectPoints (server : Server) (text : String) (start stop : Timestamp) : Reply :=
  match SchemaError.readPath text with
  | .error error => .refused (.schema error)
  | .ok path =>
    if server.registry.contains path then
      match server.store.select path.text start stop with
      | .ok points => .answer (.dataPoints points)
      | .error (.refused error) => .refused (.internal error.message)
      | .error .reversedRange => .brokenOff
    else .refused (.schema (.timeseriesNotFound path.text))

def handle (request : Request) (server : Server) : Reply × Server :=
  match request with
  | .setStorageGroup path => server.changeSchema (server.registry.setGroup path)
  | .deleteStorageGroups paths => server.dropSeries (server.registry.deleteGroups paths)
  | .createTimeseries path dataType encoding compression =>
    server.changeSchema (server.registry.createSeries path dataType encoding compression)
  | .deleteTimeseries paths => server.dropSeries (server.registry.deleteSeries paths)
  | .insert device timestamp measurements values =>
    server.write (resolveRow server.registry device timestamp measurements values)
  | .insertTablet tablet => server.write (server.resolveTablet tablet)
  | .deleteData paths stop =>
    match server.deleteData paths stop with
    | .ok (count, store) => (.answer (.deleted (Count.ofNat count)), { server with store })
    | .error error => (.refused (.write error), server)
  | .showStorageGroups => (.answer (.storageGroups server.registry.groups), server)
  | .showTimeseries pattern =>
    (readSchema ((server.registry.show? pattern).map .timeseries), server)
  | .checkTimeseriesExists path =>
    (readSchema ((SchemaError.readPath path).map fun path =>
      .exists (server.registry.contains path)), server)
  | .select path start stop => (server.selectPoints path start stop, server)
  | .version => (.answer (.version version), server)

/-- A call is answered while the server runs and the session is in its table. -/
def call (id : Nat) (request : Request) (server : Server) : Reply × Server :=
  if server.running && server.hasSession id then server.handle request
  else (.refused (.connection (.lost server.address)), server)

def transport : Transport Server Nat where
  connect := connect
  call := call
  close id server := (.ok (), server.release id)

end TimeSeries.Server
