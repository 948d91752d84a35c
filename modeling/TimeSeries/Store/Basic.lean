import TimeSeries.Store.Limits
import TimeSeries.Store.Partition

/-! The store: the points of every series in partitions of one width, oldest partition first. -/

namespace TimeSeries

structure Store where
  duration : Int
  writable : Option Nat
  kept : Option Nat
  window : InsertWindow
  partitions : List Partition := []
  closed : Bool := false
  deriving DecidableEq

inductive StoreError where
  | invalidConfig (cause : StoreConfigError)
  | outOfBounds
  | failedInsert (cause : PartitionError)
  | closed
  deriving DecidableEq

def StoreError.message : StoreError → String
  | .invalidConfig _ => "error validating config"
  | .outOfBounds => "data point inserted outside of storage insert window"
  | .failedInsert _ => "error inserting data point into partition"
  | .closed => "storage is closed"

/-- Why an action on a store has no result. A selection whose range runs backwards can break down,
and then there is no error to tell. -/
inductive StoreFailure where
  | refused (cause : StoreError)
  | reversedRange
  deriving DecidableEq

namespace Store

def create (config : StoreConfig) : Except StoreError Store := do
  config.validate.mapError .invalidConfig
  let window ← config.writableWindow.mapError .invalidConfig
  return {
    duration := config.duration
    writable := config.writable
    kept := config.kept
    window := ⟨config.tolerance window, none⟩ }

variable (store : Store)

def accepts (timestamp : Timestamp) : Bool :=
  store.window.contains timestamp

def expired : Nat :=
  match store.kept with
  | some kept => store.partitions.length - kept
  | none => 0

def visible : List Partition :=
  store.partitions.drop store.expired

def older (timestamp : Timestamp) : List Partition :=
  store.partitions.takeWhile (·.slot.last < timestamp)

/-- The partition around a timestamp, if there is one, and all newer ones. -/
def locate (timestamp : Timestamp) : Option Partition × List Partition :=
  match store.partitions.dropWhile (·.slot.last < timestamp) with
  | [] => (none, [])
  | partition :: newer =>
    if partition.slot.position timestamp = .current then (some partition, newer)
    else (none, partition :: newer)

def tooOld (newer : Nat) : Bool :=
  match store.writable with
  | some writable => writable ≤ newer
  | none => false

def write (name : String) (point : Point) : Except StoreError Store :=
  let (existing, newer) := store.locate point.timestamp
  if store.tooOld newer.length then .error .outOfBounds
  else
    let target := existing.getD ⟨Slot.around point.timestamp store.duration, []⟩
    match target.insert name point with
    | .ok partition =>
      .ok { store with
        partitions := store.older point.timestamp ++ partition :: newer
        window := store.window.update point.timestamp }
    | .error cause => .error (.failedInsert cause)

def insert (name : String) (point : Point) : Except StoreError Store :=
  if store.closed then .error .closed
  else if store.accepts point.timestamp then store.write name point
  else .error .outOfBounds

def select (name : String) (start stop : Timestamp) : Except StoreFailure (List Point) :=
  if store.closed then .error (.refused .closed)
  else
    match store.visible.mapM (·.select name start stop) with
    | some points => .ok points.flatten
    | none => .error .reversedRange

def delete (name : String) (stop : Timestamp) : Except StoreError (Nat × Store) :=
  if store.closed then .error .closed
  else
    .ok ((store.partitions.map (·.countUpTo name stop)).foldr (· + ·) 0,
      { store with partitions := store.partitions.map (·.dropUpTo name stop) })

def remove (name : String) : Except StoreError (Nat × Store) :=
  if store.closed then .error .closed
  else
    .ok ((store.partitions.map (·.size name)).foldr (· + ·) 0,
      { store with partitions := store.partitions.map (·.remove name) })

def sweep : Store :=
  { store with partitions := store.visible }

/-- The last sweep takes place when the store closes. -/
def close : Store :=
  if store.closed then store else { store.sweep with closed := true }

end Store

end TimeSeries
