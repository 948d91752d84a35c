import TimeSeries.Text.Numeral

/-! Integers with limits. Timestamps, typed integer values, ports and counts are all of this kind
and differ in their limits only. -/

namespace TimeSeries

structure Ranged (low high : Int) where
  val : Int
  low_le : low ≤ val
  le_high : val ≤ high
  deriving DecidableEq

namespace Ranged

variable {low high : Int}

@[ext] theorem ext {first second : Ranged low high} (same : first.val = second.val) :
    first = second := by
  cases first
  cases second
  cases same
  rfl

def ofInt? (value : Int) : Option (Ranged low high) :=
  if fits : low ≤ value ∧ value ≤ high then some ⟨value, fits.1, fits.2⟩ else none

class Limits (low high : Int) : Prop where
  low_le_high : low ≤ high

def clamp [limits : Limits low high] (value : Int) : Ranged low high where
  val := max low (min value high)
  low_le := by omega
  le_high := by
    have := limits.low_le_high
    omega

def text (number : Ranged low high) : String :=
  String.ofList (Text.integer number.val)

instance : LT (Ranged low high) := ⟨fun first second => first.val < second.val⟩
instance : LE (Ranged low high) := ⟨fun first second => first.val ≤ second.val⟩

instance (first second : Ranged low high) : Decidable (first < second) :=
  inferInstanceAs (Decidable (first.val < second.val))

instance (first second : Ranged low high) : Decidable (first ≤ second) :=
  inferInstanceAs (Decidable (first.val ≤ second.val))

theorem lt_iff {first second : Ranged low high} : first < second ↔ first.val < second.val :=
  Iff.rfl

theorem le_iff {first second : Ranged low high} : first ≤ second ↔ first.val ≤ second.val :=
  Iff.rfl

theorem ofInt?_val (member : Ranged low high) : ofInt? member.val = some member := by
  simp [ofInt?, member.low_le, member.le_high]

theorem ofInt?_eq_some {value : Int} {member : Ranged low high} :
    ofInt? value = some member ↔ member.val = value := by
  constructor
  · intro found
    unfold ofInt? at found
    split at found
    · cases found
      rfl
    · cases found
  · rintro rfl
    exact ofInt?_val member

end Ranged

abbrev Integer32 := Ranged (-2147483648) 2147483647
abbrev Integer64 := Ranged (-9223372036854775808) 9223372036854775807

/-- Milliseconds on the time line of the store. -/
abbrev Timestamp := Integer64

abbrev Count := Ranged 0 18446744073709551615
abbrev Port := Ranged 0 65535

instance : Ranged.Limits (-2147483648) 2147483647 := ⟨by decide⟩
instance : Ranged.Limits (-9223372036854775808) 9223372036854775807 := ⟨by decide⟩
instance : Ranged.Limits 0 18446744073709551615 := ⟨by decide⟩

/-- A number of things; from the largest count on, all numbers count alike. -/
def Count.ofNat (number : Nat) : Count := Ranged.clamp number

end TimeSeries
