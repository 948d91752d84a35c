import TimeSeries.DataType
import TimeSeries.Floating.Style
import TimeSeries.Keyed
import TimeSeries.Ranged

/-! Typed values, and points that hold one value at one time. -/

namespace TimeSeries

inductive Value where
  | boolean (value : Bool)
  | int32 (value : Integer32)
  | int64 (value : Integer64)
  | float (word : Floating.Single)
  | double (word : Floating.Double)
  | text (value : String)
  deriving DecidableEq

namespace Value

def dataType : Value → DataType
  | .boolean _ => .boolean
  | .int32 _ => .int32
  | .int64 _ => .int64
  | .float _ => .float
  | .double _ => .double
  | .text _ => .text

def display : Value → String
  | .boolean value => if value then "true" else "false"
  | .int32 value => value.text
  | .int64 value => value.text
  | .float word => Floating.Style.plain.write Floating.single word
  | .double word => Floating.Style.plain.write Floating.double word
  | .text value => value

end Value

structure Point where
  timestamp : Timestamp
  value : Value
  deriving DecidableEq

instance : Keyed Point Timestamp := ⟨Point.timestamp⟩

end TimeSeries
