/-! Binary floating point words. A word holds a sign, an exponent and a fraction; what it stands
for is an exact multiple of a power of two, an infinity, or no number at all. Powers are
`Nat.pow` by name, the same whichever monoids are in scope. -/

namespace TimeSeries.Floating

structure Format where
  exponentBits : Nat
  fractionBits : Nat

def single : Format := ⟨8, 23⟩
def double : Format := ⟨11, 52⟩

namespace Format

abbrev Word (format : Format) := BitVec (1 + format.exponentBits + format.fractionBits)

variable (format : Format)

def leastExponent : Int := 2 - Nat.pow 2 (format.exponentBits - 1) - format.fractionBits

/-- The word of positive infinity; every larger word below the sign is no number. -/
def infinity : Nat := (Nat.pow 2 format.exponentBits - 1) * Nat.pow 2 format.fractionBits

def signBit : Nat := Nat.pow 2 (format.exponentBits + format.fractionBits)

def word (negative : Bool) (magnitude : Nat) : format.Word :=
  BitVec.ofNat _ (if negative then format.signBit + magnitude else magnitude)

def notNumber : format.Word :=
  BitVec.ofNat _ (format.infinity + Nat.pow 2 (format.fractionBits - 1))

end Format

inductive Meaning where
  | notNumber
  | infinite (negative : Bool)
  /-- The significand times two to the exponent. -/
  | finite (negative : Bool) (significand : Nat) (exponent : Int)
  deriving DecidableEq

def Format.meaning (format : Format) (word : format.Word) : Meaning :=
  let negative : Bool := decide (format.signBit ≤ word.toNat)
  let magnitude := word.toNat % format.signBit
  let fraction := magnitude % Nat.pow 2 format.fractionBits
  let biased := magnitude / Nat.pow 2 format.fractionBits
  if format.infinity < magnitude then .notNumber
  else if magnitude = format.infinity then .infinite negative
  else if biased = 0 then .finite negative fraction format.leastExponent
  else
    .finite negative (Nat.pow 2 format.fractionBits + fraction)
      (format.leastExponent + (biased - 1))

abbrev Single := single.Word
abbrev Double := double.Word

end TimeSeries.Floating
