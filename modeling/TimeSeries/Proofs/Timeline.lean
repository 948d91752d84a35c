import Mathlib.Order.Defs.Unbundled
import TimeSeries.Store.Slot
import TimeSeries.Store.Window

/-! The time line in exact arithmetic. The slots of one width tile it, cut off at its two ends, and
the insert window compares true distances although it computes with cut off ones. -/

namespace TimeSeries

namespace Ranged

variable {low high : Int}

instance : IsStrictTotalOrder (Ranged low high) (· < ·) where
  irrefl _ := Int.lt_irrefl _
  trans _ _ _ := Int.lt_trans
  trichotomous _ _ notBefore notAfter :=
    ext (Int.le_antisymm (Int.not_lt.mp notAfter) (Int.not_lt.mp notBefore))

theorem not_lt {first second : Ranged low high} : ¬first < second ↔ second ≤ first :=
  Int.not_lt

theorem compare_eq_iff {first second : Ranged low high} :
    compareOfLessAndEq first second = .eq ↔ first = second := by
  have reflexive (number : Ranged low high) : number ≤ number := Int.le_refl number.val
  exact compareOfLessAndEq_eq_eq reflexive Int.not_le

theorem compare_gt_iff {first second : Ranged low high} :
    compareOfLessAndEq first second = .gt ↔ second < first := by
  have antisymmetric {one other : Ranged low high} (before : one ≤ other) (after : other ≤ one) :
      one = other := ext (Int.le_antisymm before after)
  have total (one other : Ranged low high) : one ≤ other ∨ other ≤ one :=
    Int.le_total one.val other.val
  exact compareOfLessAndEq_eq_gt antisymmetric total Int.not_le first second

end Ranged

namespace Slot

/-- The multiple of the width at or before a timestamp, where its slot starts unless that lies
before all timestamps. -/
def start (timestamp : Timestamp) (duration : Int) : Int :=
  max duration 1 * (timestamp.val / max duration 1)

section Start

variable (timestamp other : Timestamp) (duration : Int)

theorem start_eq_sub :
    start timestamp duration = timestamp.val - timestamp.val % max duration 1 := by
  have split := Int.mul_ediv_add_emod timestamp.val (max duration 1)
  unfold start
  omega

theorem start_bounds : start timestamp duration ≤ timestamp.val ∧
    timestamp.val < start timestamp duration + max duration 1 := by
  have width : 0 < max duration 1 := by omega
  have left := Int.emod_nonneg timestamp.val (Int.ne_of_gt width)
  have right := Int.emod_lt_of_pos timestamp.val width
  rw [start_eq_sub]
  omega

theorem first_val : (around timestamp duration).first.val =
    max (-9223372036854775808) (start timestamp duration) := by
  have bounds := start_bounds timestamp duration
  have high := timestamp.le_high
  rw [start_eq_sub] at bounds ⊢
  simp only [around, Ranged.clamp]
  omega

theorem last_val : (around timestamp duration).last.val =
    min 9223372036854775807 (start timestamp duration + max duration 1 - 1) := by
  have bounds := start_bounds timestamp duration
  have low := timestamp.low_le
  rw [start_eq_sub] at bounds ⊢
  simp only [around, Ranged.clamp]
  omega

variable {timestamp other duration}

/-- A timestamp past the end of a slot starts in one of the next. -/
theorem start_next (past : start timestamp duration + max duration 1 ≤ other.val) :
    start timestamp duration + max duration 1 ≤ start other duration := by
  have width : 0 < max duration 1 := by omega
  have index : timestamp.val / max duration 1 + 1 ≤ other.val / max duration 1 := by
    apply Int.le_ediv_of_mul_le width
    rw [Int.add_mul, Int.mul_comm]
    unfold start at past
    omega
  have scaled := Int.mul_le_mul_of_nonneg_left index (Int.le_of_lt width)
  rw [Int.mul_add] at scaled
  unfold start
  omega

theorem start_eq (from_start : start timestamp duration ≤ other.val)
    (before_next : other.val < start timestamp duration + max duration 1) :
    start other duration = start timestamp duration := by
  have width : 0 < max duration 1 := by omega
  have lower : timestamp.val / max duration 1 ≤ other.val / max duration 1 := by
    apply Int.le_ediv_of_mul_le width
    rw [Int.mul_comm]
    exact from_start
  have upper : other.val / max duration 1 < timestamp.val / max duration 1 + 1 := by
    apply Int.ediv_lt_of_lt_mul width
    rw [Int.add_mul, Int.mul_comm]
    unfold start at before_next
    omega
  have same : other.val / max duration 1 = timestamp.val / max duration 1 := by omega
  unfold start
  rw [same]

end Start

section Tiling

variable {timestamp other : Timestamp} {duration : Int}

theorem holds_iff {slot : Slot} {timestamp : Timestamp} :
    slot.holds timestamp = true ↔ slot.first ≤ timestamp ∧ timestamp ≤ slot.last := by
  simp [holds]

theorem around_congr (same : start other duration = start timestamp duration) :
    around other duration = around timestamp duration := by
  simp only [around, ← start_eq_sub, same]

/-- The slots around two timestamps are the same as soon as one holds both. -/
theorem around_eq_of_holds (inside : (around timestamp duration).holds other = true) :
    around other duration = around timestamp duration := by
  have low := other.low_le
  have high := other.le_high
  have bounds := start_bounds timestamp duration
  rw [holds_iff, Ranged.le_iff, Ranged.le_iff, first_val, last_val] at inside
  apply around_congr
  apply start_eq <;> omega

theorem last_lt_first (after : (around timestamp duration).last < other) :
    (around timestamp duration).last < (around other duration).first := by
  have high := other.le_high
  rw [Ranged.lt_iff, last_val] at after ⊢
  rw [first_val]
  have next : start timestamp duration + max duration 1 ≤ other.val →
      start timestamp duration + max duration 1 ≤ start other duration := start_next
  omega

theorem last_lt_first_of_before (before : other < (around timestamp duration).first) :
    (around other duration).last < (around timestamp duration).first := by
  have low := other.low_le
  have inside := holds_iff.mp (holds_around timestamp duration)
  apply last_lt_first
  by_cases past : (around other duration).last < timestamp
  · exact past
  · have held : (around other duration).holds timestamp = true := by
      refine holds_iff.mpr ⟨?_, Ranged.not_lt.mp past⟩
      have others := holds_iff.mp (holds_around other duration)
      rw [Ranged.le_iff, Ranged.lt_iff] at *
      omega
    have same := around_eq_of_holds held
    have others := holds_iff.mp (holds_around other duration)
    rw [same] at before
    rw [Ranged.le_iff, Ranged.lt_iff] at *
    omega

theorem first_le_last : (around timestamp duration).first ≤ (around timestamp duration).last := by
  have inside := holds_iff.mp (holds_around timestamp duration)
  exact Int.le_trans inside.1 inside.2

theorem position_current {slot : Slot} {timestamp : Timestamp} :
    slot.position timestamp = .current ↔ slot.holds timestamp = true := by
  rw [holds_iff]
  unfold position
  split
  next before => simp [Ranged.le_iff, Ranged.lt_iff] at before ⊢; omega
  next notBefore =>
    split
    next after => simp [Ranged.le_iff, Ranged.lt_iff] at after ⊢; omega
    next notAfter => simp [Ranged.not_lt.mp notBefore, Ranged.not_lt.mp notAfter]

end Tiling

end Slot

namespace InsertWindow

/-- Whether a distance stays within a limit. A limit of at least the largest timestamp holds no
point back. -/
def Allows (limit : Option Nat) (distance : Int) : Prop :=
  ∀ most ∈ limit, (most : Int) < 9223372036854775807 → distance ≤ most

instance (limit : Option Nat) (distance : Int) : Decidable (Allows limit distance) :=
  inferInstanceAs (Decidable (∀ most ∈ limit, _))

theorem within_iff (later earlier : Timestamp) (limit : Option Nat) :
    within later earlier limit = true ↔ Allows limit (later.val - earlier.val) := by
  cases limit with
  | none => simp [within, Allows]
  | some most =>
    simp only [within, Allows, Ranged.clamp, Ranged.le_iff, decide_eq_true_eq, Option.mem_def,
      Option.some.injEq, forall_eq']
    omega

theorem contains_iff (window : InsertWindow) (timestamp : Timestamp) :
    window.contains timestamp = true ↔ ∀ newest ∈ window.newest,
      Allows window.tolerance.future (timestamp.val - newest.val) ∧
        Allows window.tolerance.past (newest.val - timestamp.val) := by
  unfold contains
  cases window.newest with
  | none => simp
  | some newest => simp [within_iff]

def latest (newest : Option Timestamp) (timestamp : Timestamp) : Timestamp :=
  match newest with
  | none => timestamp
  | some newest => if newest < timestamp then timestamp else newest

@[simp] theorem update_newest (window : InsertWindow) (timestamp : Timestamp) :
    (window.update timestamp).newest = some (latest window.newest timestamp) := by
  unfold update latest
  cases window.newest <;> rfl

@[simp] theorem update_tolerance (window : InsertWindow) (timestamp : Timestamp) :
    (window.update timestamp).tolerance = window.tolerance := by
  unfold update
  cases window.newest <;> rfl

theorem le_latest (newest : Option Timestamp) (timestamp : Timestamp) :
    timestamp ≤ latest newest timestamp ∧
      ∀ earlier ∈ newest, earlier ≤ latest newest timestamp := by
  cases newest with
  | none => simp [latest, Ranged.le_iff]
  | some newest =>
    simp only [latest, Option.mem_def, Option.some.injEq, forall_eq']
    split <;> simp only [Ranged.le_iff, Ranged.lt_iff] at * <;> omega

theorem latest_le_iff {newest : Option Timestamp} {timestamp bound : Timestamp} :
    latest newest timestamp ≤ bound ↔ timestamp ≤ bound ∧ ∀ earlier ∈ newest, earlier ≤ bound := by
  cases newest with
  | none => simp [latest]
  | some newest =>
    simp only [latest, Option.mem_def, Option.some.injEq, forall_eq']
    split <;> simp only [Ranged.le_iff, Ranged.lt_iff] at * <;> omega

theorem latest_cases (newest : Option Timestamp) (timestamp : Timestamp) :
    latest newest timestamp = timestamp ∨ latest newest timestamp ∈ newest := by
  unfold latest
  split
  · exact .inl rfl
  · split
    · exact .inl rfl
    · exact .inr rfl

def latestOf (newest : Option Timestamp) (timestamps : List Timestamp) : Option Timestamp :=
  timestamps.foldl (fun newest timestamp => some (latest newest timestamp)) newest

theorem latestOf_append (newest : Option Timestamp) (before after : List Timestamp) :
    latestOf newest (before ++ after) = latestOf (latestOf newest before) after :=
  List.foldl_append

/-- The newest timestamp is the largest, whatever the order they come in. -/
theorem latestOf_eq_some_iff {newest : Option Timestamp} {timestamps : List Timestamp}
    {timestamp : Timestamp} : latestOf newest timestamps = some timestamp ↔
      (timestamp ∈ newest ∨ timestamp ∈ timestamps) ∧ (∀ earlier ∈ newest, earlier ≤ timestamp) ∧
        ∀ other ∈ timestamps, other ≤ timestamp := by
  induction timestamps generalizing newest with
  | nil =>
    change newest = some timestamp ↔ _
    constructor
    · rintro rfl
      exact ⟨.inl rfl, by rintro _ ⟨⟩; exact Int.le_refl _, by simp⟩
    · rintro ⟨given | none, _⟩
      · exact given
      · cases none
  | cons first rest ih =>
    change latestOf (some (latest newest first)) rest = some timestamp ↔ _
    rw [ih, List.forall_mem_cons, List.mem_cons]
    simp only [Option.mem_def, Option.some.injEq, forall_eq', latest_le_iff]
    constructor
    · rintro ⟨same | later, ⟨above, before⟩, after⟩
      · rcases latest_cases newest first with moved | kept
        · exact ⟨.inr (.inl (same.symm.trans moved)), before, above, after⟩
        · exact ⟨.inl (same ▸ kept), before, above, after⟩
      · exact ⟨.inr (.inr later), before, above, after⟩
    · rintro ⟨member, before, above, after⟩
      refine ⟨?_, ⟨above, before⟩, after⟩
      obtain ⟨reachesFirst, reachesNewest⟩ := le_latest newest first
      have bound : latest newest first ≤ timestamp := latest_le_iff.mpr ⟨above, before⟩
      rcases member with given | rfl | later
      · exact .inl (Ranged.ext (Int.le_antisymm bound (reachesNewest timestamp given)))
      · exact .inl (Ranged.ext (Int.le_antisymm bound reachesFirst))
      · exact .inr later

theorem latestOf_perm {newest : Option Timestamp} {first second : List Timestamp}
    (moved : first.Perm second) : latestOf newest first = latestOf newest second := by
  ext timestamp
  simp only [latestOf_eq_some_iff, moved.mem_iff]

theorem foldl_update (window : InsertWindow) (updates : List Timestamp) :
    updates.foldl update window =
      { window with newest := latestOf window.newest updates } := by
  induction updates generalizing window with
  | nil => rfl
  | cons timestamp later ih =>
    rw [List.foldl_cons, ih, update_newest, update_tolerance]
    rfl

end InsertWindow

end TimeSeries
