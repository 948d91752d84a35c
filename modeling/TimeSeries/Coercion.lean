import TimeSeries.Floating.Reading
import TimeSeries.Row
import TimeSeries.Text.Blank
import TimeSeries.Value

/-! Values brought to the declared type of a series. Text is read as that type; numbers are never
widened. -/

namespace TimeSeries

def readBoolean? (text : List Char) : Option Bool :=
  let word := String.ofList (text.map Char.toLower)
  if word = "true" then some true else if word = "false" then some false else none

def Value.read? (declared : DataType) (text : String) : Option Value :=
  let word := Text.trim text.toList
  match declared with
  | .boolean => (readBoolean? word).map .boolean
  | .int32 => ((Text.readInteger? word).bind Ranged.ofInt?).map .int32
  | .int64 => ((Text.readInteger? word).bind Ranged.ofInt?).map .int64
  | .float => (Floating.read? Floating.single word).map .float
  | .double => (Floating.read? Floating.double word).map .double
  | .text => some (.text (String.ofList word))

/-- A value of the declared type stays as it is, white space included. -/
def Value.coerce? (declared : DataType) (value : Value) : Option Value :=
  if value.dataType = declared then some value
  else
    match value with
    | .text content => Value.read? declared content
    | _ => none

def Value.coerce (series : String) (declared : DataType) (value : Value) :
    Except WriteError Value :=
  match value.coerce? declared with
  | some coerced => .ok coerced
  | none => .error (.typeMismatch series declared value.display)

theorem Value.coerce_eq_ok {series : String} {declared : DataType} {value coerced : Value} :
    value.coerce series declared = .ok coerced ↔ value.coerce? declared = some coerced := by
  unfold coerce
  cases value.coerce? declared <;> simp

end TimeSeries
