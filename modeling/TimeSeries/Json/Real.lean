import TimeSeries.Floating.Reading
import TimeSeries.Floating.Style
import TimeSeries.Json.Tree

/-! Numbers of JSON as integers and as floating point words. -/

namespace TimeSeries.Json

open Floating (Format)

def largestSignificand : Nat := 18446744073709551615

def leading (whole : Nat) : Nat × Nat :=
  if whole ≤ largestSignificand then (whole, 0)
  else ((leading (whole / 10)).1, (leading (whole / 10)).2 + 1)
termination_by whole
decreasing_by all_goals simp [largestSignificand] at *; omega

def appendDigits (significand : Nat) : List Char → Nat × Nat
  | [] => (significand, 0)
  | digit :: digits =>
    let longer := significand * 10 + (digit.toNat - 48)
    if longer ≤ largestSignificand then
      ((appendDigits longer digits).1, (appendDigits longer digits).2 + 1)
    else (significand, 0)

namespace Number

def significand (number : Number) : Nat × Int :=
  let (whole, left) := leading (Nat.ofDigitChars 10 number.numeral.whole 0)
  let (digits, places) := appendDigits whole number.numeral.fraction
  (digits, number.numeral.exponent.getD 0 + left - places)

end Number

def parts (format : Format) (magnitude : Nat) : Nat × Int :=
  match format.meaning (format.word false magnitude) with
  | .finite _ significand exponent => (significand, exponent)
  | _ => (0, 0)

def multiply (format : Format) (first second : Nat) : Nat :=
  let (a, i) := parts format first
  let (b, j) := parts format second
  let (above, below) := Floating.scaled (a * b) 1 (-(i + j))
  format.roundQuotient above below

def divide (format : Format) (first second : Nat) : Nat :=
  let (a, i) := parts format first
  let (b, j) := parts format second
  let (above, below) := Floating.scaled a b (j - i)
  format.roundQuotient above below

/-- A word times a power of ten: one rounded multiplication, or division by the powers at hand,
the largest of which is the 308th. A product beyond the largest number is no number. -/
def scaleByTen (magnitude : Nat) (exponent : Int) : Option Nat :=
  let power (exponent : Nat) := Floating.double.roundDecimal 1 exponent
  if magnitude = 0 then some 0
  else if 308 < exponent then none
  else if 0 ≤ exponent then
    let product := multiply Floating.double magnitude (power exponent.toNat)
    if product = Floating.double.infinity then none else some product
  else if -308 ≤ exponent then
    some (divide Floating.double magnitude (power (-exponent).toNat))
  else scaleByTen (divide Floating.double magnitude (power 308)) (exponent + 308)
termination_by (-exponent).toNat
decreasing_by omega

namespace Number

def double? (number : Number) : Option Floating.Double :=
  let (digits, exponent) := number.significand
  (scaleByTen (Floating.double.roundQuotient digits 1) exponent).map
    (Floating.double.word number.negative)

/-- Integers of 64 bits are rounded once, all other numbers by way of the longer format. -/
def single? (number : Number) : Option Floating.Single :=
  match number.integer? with
  | some value =>
    if -9223372036854775808 ≤ value ∧ value ≤ 18446744073709551615 then
      some (Floating.single.word number.negative (Floating.single.roundQuotient value.natAbs 1))
    else number.double?.map (Floating.single.convert Floating.double)
  | none => number.double?.map (Floating.single.convert Floating.double)

end Number

def numberStyle (least most : Int) : Floating.Style where
  tie := .even
  positional := fun first => least ≤ first && first ≤ most
  pointed := true

def ofWord (style : Floating.Style) (format : Format) (word : format.Word) : Json :=
  match format.meaning word with
  | .finite negative significand exponent =>
    .number ⟨negative, style.numeral format significand exponent⟩
  | _ => .null

def ofSingle (word : Floating.Single) : Json :=
  ofWord (numberStyle (-6) 12) Floating.single word

def ofDouble (word : Floating.Double) : Json :=
  ofWord (numberStyle (-5) 15) Floating.double word

end TimeSeries.Json
