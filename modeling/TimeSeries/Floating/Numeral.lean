import TimeSeries.Text.Numeral

namespace TimeSeries.Floating

/-- A decimal as it is written: the digits on both sides of the point, and the exponent. A
numeral without a point has no digits behind it. -/
structure Numeral where
  whole : List Char
  fraction : List Char := []
  exponent : Option Int := none
  deriving DecidableEq

def Numeral.write (numeral : Numeral) (signed : Bool) : List Char :=
  numeral.whole ++
    (if numeral.fraction = [] then [] else '.' :: numeral.fraction) ++
    match numeral.exponent with
    | none => []
    | some exponent =>
      'e' :: (if signed ∧ 0 ≤ exponent then ['+'] else []) ++ Text.integer exponent

end TimeSeries.Floating
