import TimeSeries.Keyed
import TimeSeries.Schema.Error

/-! The schema: storage groups, and the series declared below them. No group lies below another,
and no series below another. -/

namespace TimeSeries

structure Definition where
  path : Path
  group : Path
  dataType : DataType
  encoding : Encoding
  compression : Compression
  deriving DecidableEq

instance : Keyed Path Path := ⟨id⟩
instance : Keyed Definition Path := ⟨Definition.path⟩

structure Registry where
  groups : List Path := []
  series : List Definition := []
  deriving DecidableEq

namespace Registry

variable (registry : Registry)

def hasGroup (path : Path) : Bool :=
  Keyed.has path registry.groups

def find? (path : Path) : Option Definition :=
  Keyed.find? path registry.series

def contains (path : Path) : Bool :=
  Keyed.has path registry.series

def setGroup (text : String) : Except SchemaError (Bool × Registry) := do
  let path ← SchemaError.readPath text
  if path.depth < 2 then throw (.malformed ⟨path.text, .atRoot⟩)
  if registry.hasGroup path then return (false, registry)
  match registry.groups.find? fun group => group.isAbove path || path.isAbove group with
  | some group => throw (.storageGroupOverlap path.text group.text)
  | none => return (true, { registry with groups := Keyed.place path registry.groups })

def removeGroups : List Path → Registry → List Path × Registry
  | [], registry => ([], registry)
  | path :: paths, registry =>
    let (lost, left) := registry.series.partition fun definition => definition.group = path
    let (others, registry) :=
      removeGroups paths { groups := Keyed.without path registry.groups, series := left }
    (lost.map Definition.path ++ others, registry)

/-- Removes storage groups with all that is declared below them. Nothing is removed unless all of
them exist. -/
def deleteGroups (texts : List String) : Except SchemaError (List Path × Registry) := do
  let paths ← texts.mapM SchemaError.readPath
  match paths.find? fun path => !registry.hasGroup path with
  | some missing => throw (.storageGroupNotFound missing.text)
  | none => return removeGroups paths registry

/-- Declares a series and tells whether it is new. A node is a measurement or a device, never
both. -/
def createSeries (text : String) (dataType : DataType) (encoding : Encoding)
    (compression : Compression) : Except SchemaError (Bool × Registry) := do
  let path ← SchemaError.readPath text
  if !dataType.supports encoding then throw (.unsupportedEncoding dataType encoding)
  match registry.groups.find? (·.isAbove path) with
  | none => throw (.noStorageGroup path.text)
  | some group =>
    if group = path then throw (.pathConflict path.text group.text)
    let definition : Definition := ⟨path, group, dataType, encoding, compression⟩
    match registry.find? path with
    | some existing =>
      if existing.dataType = dataType ∧ existing.encoding = encoding ∧
          existing.compression = compression then
        return (false, registry)
      else throw (.conflictingTimeseries path.text)
    | none =>
      match registry.series.find? fun other =>
        other.path.isAbove path || path.isAbove other.path with
      | some other => throw (.pathConflict path.text other.path.text)
      | none => return (true, { registry with series := Keyed.place definition registry.series })

def deleteSeries (texts : List String) : Except SchemaError (List Path × Registry) := do
  let paths ← texts.mapM SchemaError.readPath
  match paths.find? fun path => !registry.contains path with
  | some missing => throw (.timeseriesNotFound missing.text)
  | none =>
    return (paths, { registry with
      series := registry.series.filter fun definition => definition.path ∉ paths })

def show? (pattern : String) : Except SchemaError (List Definition) := do
  let pattern ← SchemaError.readPattern pattern
  return registry.series.filter fun definition => pattern.selects definition.path

end Registry

end TimeSeries
