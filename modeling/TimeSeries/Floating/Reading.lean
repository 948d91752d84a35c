import TimeSeries.Floating.Numeral
import TimeSeries.Floating.Rounding

/-! Floating point numbers read from text. -/

namespace TimeSeries.Floating

def Numeral.value (numeral : Numeral) : Nat × Int :=
  (Nat.ofDigitChars 10 (numeral.whole ++ numeral.fraction) 0,
    numeral.exponent.getD 0 - numeral.fraction.length)

def readNumeral? (text : List Char) : Option Numeral :=
  let (whole, rest) := text.span Char.isDigit
  let (fraction, rest) :=
    match rest with
    | '.' :: rest => rest.span Char.isDigit
    | rest => ([], rest)
  if whole = [] ∧ fraction = [] then none
  else
    match rest with
    | [] => some { whole, fraction }
    | mark :: exponent =>
      if mark = 'e' ∨ mark = 'E' then
        (Text.readInteger? exponent).map fun exponent =>
          { whole, fraction, exponent := some exponent }
      else none

def readMagnitude? (format : Format) (text : List Char) : Option Nat :=
  let word := String.ofList (text.map Char.toLower)
  if word = "inf" ∨ word = "infinity" then some format.infinity
  else if word = "nan" then some format.notNumber.toNat
  else (readNumeral? text).map fun numeral => format.roundDecimal numeral.value.1 numeral.value.2

/-- An optional sign and then a decimal, an infinity or `nan` in letters of either case. -/
def read? (format : Format) : List Char → Option format.Word
  | '+' :: text => (readMagnitude? format text).map (format.word false)
  | '-' :: text => (readMagnitude? format text).map (format.word true)
  | text => (readMagnitude? format text).map (format.word false)

end TimeSeries.Floating
