import TimeSeries.Floating.Format

/-! The shortest decimal that reads back as a given word. Every real number between the midpoints
to the two neighbours of a word rounds to that word, so the shortest decimal lies on the coarsest
decimal grid that has a point there. -/

namespace TimeSeries.Floating

structure Decimal where
  digits : Nat
  exponent : Int
  deriving DecidableEq

inductive Tie where
  | up
  | even
  deriving DecidableEq

/-- A positive number with the reals that round to it, in quarters of its last place. -/
structure Interval where
  low : Nat
  value : Nat
  high : Nat
  exponent : Int
  ends : Bool

def Format.interval (format : Format) (significand : Nat) (exponent : Int) : Interval where
  low := 4 * significand -
    (if significand = Nat.pow 2 format.fractionBits ∧ format.leastExponent < exponent then 1 else 2)
  value := 4 * significand
  high := 4 * significand + 2
  exponent := exponent - 2
  ends := significand % 2 = 0

namespace Interval

variable (interval : Interval)

def factors (place : Int) : Nat × Nat :=
  (Nat.pow 10 place.toNat * Nat.pow 2 (-interval.exponent).toNat,
    Nat.pow 2 interval.exponent.toNat * Nat.pow 10 (-place).toNat)

def holds (place : Int) (multiple : Nat) : Bool :=
  let (grid, unit) := interval.factors place
  if interval.ends then
    interval.low * unit ≤ multiple * grid && multiple * grid ≤ interval.high * unit
  else interval.low * unit < multiple * grid && multiple * grid < interval.high * unit

/-- The multiple of `10 ^ place` that is nearest to the value among those in the interval. -/
def onGrid? (tie : Tie) (place : Int) : Option Nat :=
  let (grid, unit) := interval.factors place
  let below := interval.value * unit / grid
  let above := below + 1
  match interval.holds place below, interval.holds place above with
  | false, false => none
  | true, false => some below
  | false, true => some above
  | true, true =>
    let twice := 2 * interval.value * unit
    let middle := (below + above) * grid
    if twice < middle then some below
    else if middle < twice then some above
    else match tie with
      | .up => some above
      | .even => some (if below % 2 = 0 then below else above)

def search (tie : Tie) : Nat → Int → Decimal
  | 0, place =>
    let (grid, unit) := interval.factors place
    ⟨interval.value * unit / grid, place⟩
  | grids + 1, place =>
    match interval.onGrid? tie place with
    | some digits => ⟨digits, place⟩
    | none => search tie grids (place - 1)

end Interval

def Format.shortest (format : Format) (tie : Tie) (significand : Nat) (exponent : Int) : Decimal :=
  let size : Int := significand.log2 + exponent
  (format.interval significand exponent).search tie (format.fractionBits + 2)
    (size * 30103 / 100000 + 2)

end TimeSeries.Floating
