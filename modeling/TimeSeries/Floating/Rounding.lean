import TimeSeries.Floating.Format

/-! Rounding of exact quotients to the nearest word, ties to the even one. -/

namespace TimeSeries.Floating

def nearest (numerator denominator : Nat) : Nat :=
  let floor := numerator / denominator
  let left := 2 * (numerator % denominator)
  if denominator < left ∨ (left = denominator ∧ floor % 2 = 1) then floor + 1 else floor

def scaled (numerator denominator : Nat) (exponent : Int) : Nat × Nat :=
  if 0 ≤ exponent then (numerator, denominator * Nat.pow 2 exponent.toNat)
  else (numerator * Nat.pow 2 (-exponent).toNat, denominator)

namespace Format

variable (format : Format)

/-- The exponent of the last place at which a quotient fills the significand, or the least one. -/
def lastPlace (numerator denominator : Nat) : Int :=
  let estimate : Int := numerator.log2 - denominator.log2 - format.fractionBits
  let (above, below) := scaled numerator denominator estimate
  max format.leastExponent
    (if Nat.pow 2 format.fractionBits ≤ above / below then estimate else estimate - 1)

def roundQuotient (numerator denominator : Nat) : Nat :=
  if numerator = 0 then 0
  else
    let exponent := format.lastPlace numerator denominator
    let (above, below) := scaled numerator denominator exponent
    min format.infinity
      ((exponent - format.leastExponent).toNat * Nat.pow 2 format.fractionBits +
        nearest above below)

def roundDecimal (digits : Nat) (exponent : Int) : Nat :=
  if digits = 0 then 0
  else if Nat.pow 2 (format.exponentBits - 1) ≤ exponent then format.infinity
  else if digits.log2 + 1 + 3 * exponent < format.leastExponent - 1 then 0
  else if 0 ≤ exponent then format.roundQuotient (digits * Nat.pow 10 exponent.toNat) 1
  else format.roundQuotient digits (Nat.pow 10 (-exponent).toNat)

def convert (source : Format) (word : source.Word) : format.Word :=
  match source.meaning word with
  | .notNumber => format.notNumber
  | .infinite negative => format.word negative format.infinity
  | .finite negative significand exponent =>
    let (above, below) := scaled significand 1 (-exponent)
    format.word negative (format.roundQuotient above below)

end Format

end TimeSeries.Floating
