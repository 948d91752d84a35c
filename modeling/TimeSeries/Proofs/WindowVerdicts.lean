import TimeSeries.Proofs.IndexedSeries

/-! What the insert window says after any number of updates. A machine keeps it as a number that
starts at zero and a flag that says whether the number counts yet, and compares distances that are
cut off. Neither shows: the verdicts are those of exact distances to the largest timestamp seen. -/

namespace TimeSeries

def InsertWindow.after (tolerance : Tolerance) (updates : List Timestamp) : InsertWindow :=
  updates.foldl InsertWindow.update ⟨tolerance, none⟩

/-- The window in the cells of a machine. The largest timestamp counts once the window is set. -/
structure FlaggedWindow where
  tolerance : Tolerance
  largest : Timestamp := Ranged.clamp 0
  set : Bool := false
  deriving DecidableEq

namespace FlaggedWindow

def contains (window : FlaggedWindow) (timestamp : Timestamp) : Except Breakdown Bool :=
  if !window.set then .ok true
  else do
    if ← InsertWindow.indexedWithin timestamp window.largest window.tolerance.future then
      InsertWindow.indexedWithin window.largest timestamp window.tolerance.past
    else return false

def update (window : FlaggedWindow) (timestamp : Timestamp) : FlaggedWindow :=
  if window.set then
    { window with largest := if window.largest < timestamp then timestamp else window.largest }
  else { window with set := true, largest := timestamp }

def after (tolerance : Tolerance) (updates : List Timestamp) : FlaggedWindow :=
  updates.foldl update { tolerance }

def shown (window : FlaggedWindow) : InsertWindow :=
  ⟨window.tolerance, if window.set then some window.largest else none⟩

theorem shown_update (window : FlaggedWindow) (timestamp : Timestamp) :
    (window.update timestamp).shown = window.shown.update timestamp := by
  obtain ⟨tolerance, largest, set⟩ := window
  cases set <;> rfl

theorem shown_after (tolerance : Tolerance) (updates : List Timestamp) :
    (after tolerance updates).shown = InsertWindow.after tolerance updates := by
  unfold after InsertWindow.after
  generalize begun : ({ tolerance } : FlaggedWindow) = window
  have start : window.shown = ⟨tolerance, none⟩ := begun ▸ rfl
  rw [← start]
  clear begun start
  induction updates generalizing window with
  | nil => rfl
  | cons timestamp later ih =>
    rw [List.foldl_cons, List.foldl_cons, ← shown_update]
    exact ih (window.update timestamp)

theorem contains_eq (window : FlaggedWindow) (timestamp : Timestamp) :
    window.contains timestamp = .ok (window.shown.contains timestamp) := by
  rw [← InsertWindow.indexedContains_eq]
  obtain ⟨tolerance, largest, set⟩ := window
  cases set <;> rfl

end FlaggedWindow

namespace InsertWindow

theorem latestOf_set (newest : Timestamp) (timestamps : List Timestamp) :
    ∃ largest, latestOf (some newest) timestamps = some largest := by
  induction timestamps generalizing newest with
  | nil => exact ⟨newest, rfl⟩
  | cons timestamp later ih => exact ih (latest (some newest) timestamp)

theorem newest_after (tolerance : Tolerance) (first : Timestamp) (later : List Timestamp) :
    ∃ largest, (after tolerance (first :: later)).newest = some largest ∧
      largest ∈ first :: later ∧ ∀ other ∈ first :: later, other ≤ largest := by
  obtain ⟨largest, found⟩ := latestOf_set first later
  have all : latestOf none (first :: later) = some largest := found
  obtain ⟨member, _, above⟩ := latestOf_eq_some_iff.mp all
  unfold after
  rw [foldl_update]
  exact ⟨largest, all, member.resolve_left (by simp), above⟩

/-- The cells of the machine give the verdicts of the window. Before the first update every
timestamp fits, and after it exactly those fit whose distances to the largest timestamp of all
updates are allowed, ahead of it and behind it. -/
theorem verdicts_follow_largest (tolerance : Tolerance) (updates : List Timestamp) :
    (∀ timestamp, (FlaggedWindow.after tolerance updates).contains timestamp =
      .ok ((after tolerance updates).contains timestamp)) ∧
    ((updates = [] ∧ ∀ timestamp, (after tolerance updates).contains timestamp = true) ∨
      ∃ largest ∈ updates, (∀ other ∈ updates, other ≤ largest) ∧
        ∀ timestamp, (after tolerance updates).contains timestamp = true ↔
          Allows tolerance.future (timestamp.val - largest.val) ∧
            Allows tolerance.past (largest.val - timestamp.val)) := by
  constructor
  · intro timestamp
    rw [FlaggedWindow.contains_eq, FlaggedWindow.shown_after]
  · cases updates with
    | nil => exact .inl ⟨rfl, fun timestamp => rfl⟩
    | cons first later =>
      obtain ⟨largest, newest, member, above⟩ := newest_after tolerance first later
      have same : (after tolerance (first :: later)).tolerance = tolerance := by
        unfold after
        rw [foldl_update]
      refine .inr ⟨largest, member, above, fun timestamp => ?_⟩
      rw [contains_iff, newest, same]
      simp

/-- An update far in the past neither moves the window nor leaves the zero that it began with. -/
example :
    let window := after ⟨some 10, some 10⟩ [Ranged.clamp (-5000), Ranged.clamp (-6000)]
    [-5011, -5010, -4990, -4989, 0].map (fun time => window.contains (Ranged.clamp time)) =
      [false, true, true, false, false] := by
  decide

end InsertWindow

end TimeSeries
