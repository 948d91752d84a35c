import TimeSeries.Proofs.IndexedSeries

/-! The slots of one width tile the time line. Each timestamp lies in one slot, which starts at the
last multiple of the width that is not after it and ends before the next one, cut off where the time
line ends; and slots that are not the same follow each other as their timestamps do. All numbers on
the way to a slot fit in wide words. -/

namespace TimeSeries.Slot

variable {timestamp other : Timestamp} {duration : Int} {slot : Slot}

def cutOff (value : Int) : Int :=
  max (-9223372036854775808) (min value 9223372036854775807)

/-! ### The grid -/

theorem dvd_start (timestamp : Timestamp) (duration : Int) :
    max duration 1 ∣ start timestamp duration :=
  Int.dvd_mul_right _ _

/-- No multiple of the width lies between the start of a slot and its timestamp. -/
theorem le_start {multiple : Int} (divides : max duration 1 ∣ multiple)
    (before : multiple ≤ timestamp.val) : multiple ≤ start timestamp duration := by
  have width : 0 < max duration 1 := by omega
  obtain ⟨place, rfl⟩ := divides
  rw [Int.mul_comm] at before
  exact Int.mul_le_mul_of_nonneg_left (Int.le_ediv_of_mul_le width before) (Int.le_of_lt width)

theorem first_eq_cutOff (timestamp : Timestamp) (duration : Int) :
    (around timestamp duration).first.val = cutOff (start timestamp duration) := by
  have bounds := start_bounds timestamp duration
  have high := timestamp.le_high
  rw [first_val, cutOff]
  omega

theorem last_eq_cutOff (timestamp : Timestamp) (duration : Int) :
    (around timestamp duration).last.val =
      cutOff (start timestamp duration + max duration 1 - 1) := by
  have bounds := start_bounds timestamp duration
  have low := timestamp.low_le
  rw [last_val, cutOff]
  omega

/-! ### Two slots -/

theorem around_eq_iff : around other duration = around timestamp duration ↔
    (around timestamp duration).first ≤ other ∧ other ≤ (around timestamp duration).last := by
  rw [← holds_iff]
  exact ⟨fun same => same ▸ holds_around other duration, around_eq_of_holds⟩

/-- Slots that are not the same are in the order of their timestamps. -/
theorem apart (outside : (around timestamp duration).holds other = false) :
    timestamp < other ∧ (around timestamp duration).last < (around other duration).first ∨
      other < timestamp ∧ (around other duration).last < (around timestamp duration).first := by
  have inside := holds_iff.mp (holds_around timestamp duration)
  by_cases before : other < (around timestamp duration).first
  · exact .inr ⟨Int.lt_of_lt_of_le before inside.1, last_lt_first_of_before before⟩
  · have after : (around timestamp duration).last < other := by
      by_contra notAfter
      have held := holds_iff.mpr ⟨Ranged.not_lt.mp before, Ranged.not_lt.mp notAfter⟩
      rw [held] at outside
      cases outside
    exact .inl ⟨Int.lt_of_le_of_lt inside.2 after, last_lt_first after⟩

theorem disjoint_of_lt {next : Slot} (follows : slot.last < next.first)
    (timestamp : Timestamp) : ¬(slot.holds timestamp = true ∧ next.holds timestamp = true) := by
  rw [holds_iff, holds_iff]
  rintro ⟨⟨_, upTo⟩, from_next, _⟩
  exact Int.not_lt.mpr (Int.le_trans from_next upTo) follows

theorem position_past : slot.position timestamp = .past ↔ timestamp < slot.first := by
  unfold position
  split
  next before => simp [before]
  next notBefore =>
    split
    · simp [notBefore]
    · simp [notBefore]

theorem position_future (forward : slot.first ≤ slot.last) :
    slot.position timestamp = .future ↔ slot.last < timestamp := by
  unfold position
  split
  next before =>
    have upTo : ¬slot.last < timestamp := by
      rw [Ranged.lt_iff, Ranged.le_iff] at *
      omega
    simp [upTo]
  next =>
    split
    next after => simp [after]
    next notAfter => simp [notAfter]

/-! ### All slots -/

/-- What it is for the slots of a duration to tile the time line. -/
structure Tiles (duration : Int) : Prop where
  computed : ∀ timestamp,
    indexedAround timestamp duration = .ok (around timestamp duration)
  inside : ∀ timestamp, (around timestamp duration).first ≤ timestamp ∧
    timestamp ≤ (around timestamp duration).last
  aligned : ∀ timestamp : Timestamp, ∃ start,
    (max duration 1 ∣ start ∧ start ≤ timestamp.val ∧
      ∀ multiple, max duration 1 ∣ multiple → multiple ≤ timestamp.val → multiple ≤ start) ∧
    (around timestamp duration).first.val = cutOff start ∧
      (around timestamp duration).last.val = cutOff (start + max duration 1 - 1)
  same : ∀ timestamp other, around other duration = around timestamp duration ↔
    (around timestamp duration).holds other = true
  apart : ∀ timestamp other, (around timestamp duration).holds other = false →
    (timestamp < other ∧ (around timestamp duration).last < (around other duration).first ∨
      other < timestamp ∧ (around other duration).last < (around timestamp duration).first) ∧
    ∀ third, ¬((around timestamp duration).holds third = true ∧
      (around other duration).holds third = true)
  holds : ∀ timestamp other, (around timestamp duration).holds other = true ↔
    (around timestamp duration).first ≤ other ∧ other ≤ (around timestamp duration).last
  current : ∀ timestamp other, (around timestamp duration).position other = .current ↔
    (around timestamp duration).first ≤ other ∧ other ≤ (around timestamp duration).last
  past : ∀ timestamp other, (around timestamp duration).position other = .past ↔
    other < (around timestamp duration).first
  future : ∀ timestamp other, (around timestamp duration).position other = .future ↔
    (around timestamp duration).last < other

/-- The slots of any duration tile the time line. -/
theorem slots_tile_timeline (duration : Integer64) : Tiles duration.val where
  computed timestamp := indexedAround_eq timestamp duration.le_high
  inside timestamp := holds_iff.mp (holds_around timestamp duration.val)
  aligned timestamp := by
    refine ⟨start timestamp duration.val, ⟨dvd_start timestamp duration.val, ?_, ?_⟩, ?_, ?_⟩
    · exact (start_bounds timestamp duration.val).1
    · intro multiple divides before
      exact le_start divides before
    · exact first_eq_cutOff timestamp duration.val
    · exact last_eq_cutOff timestamp duration.val
  same _ _ := around_eq_iff.trans holds_iff.symm
  apart timestamp other outside := by
    have order := Slot.apart outside
    refine ⟨order, fun third => ?_⟩
    obtain ⟨_, follows⟩ | ⟨_, precedes⟩ := order
    · exact disjoint_of_lt follows third
    · exact fun held => disjoint_of_lt precedes third held.symm
  holds _ _ := holds_iff
  current _ _ := position_current.trans holds_iff
  past _ _ := position_past
  future _ _ := position_future (first_le_last ..)

/-- Where the time line ends its slots are cut off. -/
example : ((around (Ranged.clamp 9223372036854775807) 3600000).first.val,
      (around (Ranged.clamp 9223372036854775807) 3600000).last.val) =
    (9223372036854000000, 9223372036854775807) := by
  decide

end TimeSeries.Slot
