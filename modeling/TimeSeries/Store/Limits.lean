import TimeSeries.Store.Window

/-! Limits of a store: the width of its slots, how many of them stay writable and how many are
kept. -/

namespace TimeSeries

structure StoreConfig where
  /-- The width of a slot in milliseconds. -/
  duration : Int := 3600000
  /-- How many of the newest slots accept writes; `none` for all that are kept. -/
  hot : Option Nat := none
  /-- How many of the newest slots are kept; `none` for all. -/
  kept : Option Nat := none
  /-- Limits on the insert window. -/
  bounds : Option Tolerance := none
  deriving DecidableEq

inductive StoreConfigError where
  | numPartitions
  | insertWindow
  | hotPartitions
  | retention
  | duration
  | writableWindowFormat
  deriving DecidableEq

def StoreConfigError.message : StoreConfigError → String
  | .numPartitions => "hot_partitions is greater than max_partitions"
  | .insertWindow => "insert window is larger than writable window"
  | .hotPartitions => "hot partitions must be greater than zero to support writing data"
  | .retention => "max partitions must be greater than zero to retain data"
  | .duration => "partition duration must be greater than zero"
  | .writableWindowFormat => "error converting writable_window to u64"

namespace StoreConfig

variable (config : StoreConfig)

def writable : Option Nat :=
  config.hot.or config.kept

/-- The stretch of time that the writable slots cover, cut off at the largest timestamp. -/
def writableWindow : Except StoreConfigError (Option Nat) :=
  match config.writable with
  | none => .ok none
  | some slots =>
    let largest : Int := 9223372036854775807
    if largest < slots then .error .writableWindowFormat
    else
      let stretch : Timestamp := Ranged.clamp (slots * config.duration)
      if stretch.val < 0 then .error .writableWindowFormat else .ok (some stretch.val.toNat)

def validate : Except StoreConfigError Unit := do
  if config.hot = some 0 then throw .hotPartitions
  if config.kept = some 0 then throw .retention
  if config.duration ≤ 0 then throw .duration
  match config.hot, config.kept with
  | some hot, some kept => if kept < hot then throw .numPartitions
  | _, _ => pure ()
  match config.bounds.bind Tolerance.past, ← config.writableWindow with
  | some past, some window => if window < past then throw .insertWindow
  | _, _ => pure ()

def tolerance (window : Option Nat) : Tolerance :=
  match config.bounds with
  | some bounds => { bounds with past := bounds.past.or window }
  | none => { past := window }

end StoreConfig

end TimeSeries
