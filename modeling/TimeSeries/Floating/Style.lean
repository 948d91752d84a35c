import TimeSeries.Floating.Numeral
import TimeSeries.Floating.Shortest

/-! Decimal text of floating point words. All styles write the shortest digits that read back and
differ in where they put the point and the exponent. -/

namespace TimeSeries.Floating

structure Style where
  tie : Tie
  /-- Whether a number is written without an exponent, by the exponent of its first digit. -/
  positional : Int → Bool
  /-- Whole numbers end in a point and a zero when written without an exponent. -/
  pointed : Bool

def Decimal.positional (number : Decimal) (pointed : Bool) : Numeral :=
  let digits := Text.natural number.digits
  if 0 ≤ number.exponent then
    { whole := digits ++ List.replicate number.exponent.toNat '0'
      fraction := if pointed then ['0'] else [] }
  else
    let places := (-number.exponent).toNat
    if places < digits.length then
      { whole := digits.take (digits.length - places)
        fraction := digits.drop (digits.length - places) }
    else
      { whole := ['0']
        fraction := List.replicate (places - digits.length) '0' ++ digits }

def Decimal.scientific (number : Decimal) (first : Int) : Numeral :=
  let digits := Text.natural number.digits
  { whole := digits.take 1, fraction := digits.drop 1, exponent := some first }

def Decimal.numeral (number : Decimal) (style : Style) : Numeral :=
  let first := (Text.natural number.digits).length - 1 + number.exponent
  if style.positional first then number.positional style.pointed else number.scientific first

namespace Style

def numeral (style : Style) (format : Format) (significand : Nat) (exponent : Int) : Numeral :=
  if significand = 0 then Decimal.positional ⟨0, 0⟩ style.pointed
  else (format.shortest style.tie significand exponent).numeral style

def write (style : Style) (format : Format) (word : format.Word) : String :=
  match format.meaning word with
  | .notNumber => "NaN"
  | .infinite true => "-inf"
  | .infinite false => "inf"
  | .finite negative significand exponent =>
    let digits := (style.numeral format significand exponent).write false
    String.ofList (if negative then '-' :: digits else digits)

def plain : Style where
  tie := .up
  positional := fun _ => true
  pointed := false

/-- Reports show whole numbers with a point, and very large and very small numbers with an
exponent. -/
def report : Style where
  tie := .up
  positional := fun first => -4 ≤ first && first < 16
  pointed := true

end Style

end TimeSeries.Floating
