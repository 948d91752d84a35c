import Mathlib.Logic.Function.Basic
import TimeSeries.Proofs.BinarySearch

/-! A series as a finite map from timestamps to values that is listed in order of time. Placing a
point sets the value at its timestamp and deletion unsets all values up to a time, whatever sequence
of the two has gone before. A machine relies on the order of the points in each of its shortcuts and
in its searches, which are carried out here half by half, and none of them shows in its answers. -/

namespace TimeSeries

open Indexed

inductive SeriesAction where
  | insert (point : Point)
  | delete (stop : Timestamp)

abbrev TimeMap := Timestamp → Option Value

namespace TimeMap

def single (point : Point) : TimeMap :=
  Function.update (fun _ => none) point.timestamp (some point.value)

def perform (held : TimeMap) : SeriesAction → TimeMap
  | .insert point => Function.update held point.timestamp (some point.value)
  | .delete stop => fun time => if time ≤ stop then none else held time

def run (held : TimeMap) (actions : List SeriesAction) : TimeMap :=
  actions.foldl perform held

end TimeMap

namespace Series

def perform (series : Series) : SeriesAction → Series
  | .insert point => series.insert point
  | .delete stop => series.dropUpTo stop

def run (series : Series) (actions : List SeriesAction) : Series :=
  actions.foldl perform series

/-! ### The steps of a machine -/

def searchedPlace (points : List Point) (point : Point) : Except Breakdown (List Point) := do
  let seat ← search (fun other => compareOfLessAndEq other.timestamp point.timestamp) points
  if seat.taken then replaceAt points seat.index point else insertAt points seat.index point

def searchedInsert (series : Series) (point : Point) : Except Breakdown Series :=
  match series.points.getLast? with
  | some last =>
    if last.timestamp < point.timestamp then .ok ⟨series.points ++ [point]⟩
    else (searchedPlace series.points point).map .mk
  | none => .ok ⟨series.points ++ [point]⟩

def searchedDelete (series : Series) (stop : Timestamp) : Except Breakdown (Nat × Series) := do
  let reached ← searchBoundary (·.timestamp ≤ stop) series.points
  let left ← dropFirst series.points reached
  return ((series.points.take reached).length, ⟨left⟩)

def searchedCut (series : Series) (start stop : Timestamp) : Except Breakdown (List Point) := do
  let skipped ← searchBoundary (·.timestamp < start) series.points
  let reached ← searchBoundary (·.timestamp ≤ stop) series.points
  slice series.points skipped reached

def searchedSelect (series : Series) (start stop : Timestamp) : Except Breakdown (List Point) :=
  match series.points.head?, series.points.getLast? with
  | some first, some last =>
    if stop < first.timestamp ∨ last.timestamp < start then .ok []
    else series.searchedCut start stop
  | _, _ => .ok []

def searchedPerform (series : Series) : SeriesAction → Except Breakdown Series
  | .insert point => series.searchedInsert point
  | .delete stop => do
    let (_, left) ← series.searchedDelete stop
    return left

def searchedRun (series : Series) (actions : List SeriesAction) : Except Breakdown Series :=
  actions.foldlM searchedPerform series

/-! ### Searches in order of time -/

section Ordered

variable {series : Series} (ascending : Keyed.Ascending series.points)

theorem guided_timestamps {points : List Point} (ascending : Keyed.Ascending points)
    (time : Timestamp) :
    Guided (fun point => compareOfLessAndEq point.timestamp time) points := by
  refine (ascending_timestamps ascending).imp fun {before after} less => ?_
  rw [compareOfLessAndEq_eq_lt, Ranged.compare_gt_iff]
  by_cases earlier : before.timestamp < time
  · exact .inl earlier
  · exact .inr (Int.lt_of_le_of_lt (Ranged.not_lt.mp earlier) less)

theorem searchedPlace_eq {points : List Point} (ascending : Keyed.Ascending points)
    (point : Point) : searchedPlace points point = .ok (Keyed.place point points) := by
  have seat : boundary (fun other => compareOfLessAndEq other.timestamp point.timestamp = .lt)
      points = boundary (·.timestamp < point.timestamp) points := by
    simp only [compareOfLessAndEq_eq_lt]
  have taken (found : Option Point) :
      found.any (fun other => compareOfLessAndEq other.timestamp point.timestamp = .eq) = true ↔
        found.map Point.timestamp = some point.timestamp := by
    simp [Option.any_eq_true, Ranged.compare_eq_iff]
  rw [← indexedPlace_eq]
  unfold searchedPlace indexedPlace
  rw [search_eq (guided_timestamps ascending point.timestamp), seat]
  simp only [bind, Except.bind, taken]

include ascending

theorem searchedInsert_eq (point : Point) :
    series.searchedInsert point = .ok (series.insert point) := by
  rw [← indexedInsert_eq ascending]
  unfold searchedInsert indexedInsert
  cases series.points.getLast? with
  | none => rfl
  | some last => simp only [searchedPlace_eq ascending, indexedPlace_eq]

theorem searchBoundary_upTo (stop : Timestamp) :
    searchBoundary (·.timestamp ≤ stop) series.points = .ok (series.countUpTo stop) := by
  rw [searchBoundary_eq (closed_upTo ascending stop), boundary_upTo ascending]

theorem searchBoundary_before (start : Timestamp) :
    searchBoundary (·.timestamp < start) series.points =
      .ok (series.points.countP (·.timestamp < start)) := by
  rw [searchBoundary_eq (closed_before ascending start), boundary_before ascending]

theorem searchedDelete_eq (stop : Timestamp) :
    series.searchedDelete stop = .ok (series.countUpTo stop, series.dropUpTo stop) := by
  have within : series.countUpTo stop ≤ series.points.length := List.countP_le_length
  unfold searchedDelete
  rw [searchBoundary_upTo ascending]
  simp only [bind, Except.bind, dropFirst, if_pos within, List.length_take_of_le within]
  rfl

/-- Two searches find a range that runs forwards, also where it lies beside the series. -/
theorem searchedCut_eq {start stop : Timestamp} (forward : start ≤ stop) :
    series.searchedCut start stop = .ok (series.points.filter (Point.between start stop)) := by
  have within : series.countUpTo stop ≤ series.points.length := List.countP_le_length
  obtain ⟨room, cut⟩ := cut_eq_filter ascending forward
  unfold searchedCut
  rw [searchBoundary_before ascending, searchBoundary_upTo ascending]
  simp only [bind, Except.bind, slice, if_pos (And.intro room within), cut]

theorem searchedSelect_eq (start stop : Timestamp) : series.searchedSelect start stop =
    (series.select start stop).elim (.error .outOfRange) .ok := by
  rw [← indexedSelect_eq ascending]
  unfold searchedSelect indexedSelect searchedCut
  rw [searchBoundary_before ascending, searchBoundary_upTo ascending, boundary_before ascending,
    boundary_upTo ascending]
  rfl

end Ordered

/-! ### The map of a series -/

structure Lists (series : Series) (held : TimeMap) : Prop where
  ordered : Keyed.Ascending series.points
  holds : ∀ point, point ∈ series.points ↔ held point.timestamp = some point.value

section Map

variable {series : Series} {held : TimeMap}

theorem lists_empty : Lists ⟨[]⟩ fun _ => none where
  ordered := List.Pairwise.nil
  holds _ := by simp

theorem Lists.inserted (lists : series.Lists held) (point : Point) :
    (series.insert point).Lists
      (Function.update held point.timestamp (some point.value)) where
  ordered := lists.ordered.place point
  holds other := by
    have placed : other ∈ (series.insert point).points ↔
        other = point ∨ other ∈ series.points ∧ other.timestamp ≠ point.timestamp :=
      Keyed.mem_place lists.ordered
    rw [placed, lists.holds, Function.update_apply, Point.eq_iff]
    by_cases same : other.timestamp = point.timestamp
    · simp [same, eq_comm]
    · simp [same]

theorem Lists.deleted (lists : series.Lists held) (stop : Timestamp) :
    (series.dropUpTo stop).Lists fun time => if time ≤ stop then none else held time where
  ordered := by
    rw [dropUpTo_points lists.ordered]
    exact lists.ordered.sublist List.filter_sublist
  holds point := by
    rw [dropUpTo_points lists.ordered, List.mem_filter, lists.holds]
    by_cases early : point.timestamp ≤ stop
    · have reached : ¬stop < point.timestamp := Int.not_lt.mpr early
      simp [early, reached]
    · have late : stop < point.timestamp := Int.not_le.mp early
      simp [early, late]

theorem lists_single (point : Point) : (single point).Lists (TimeMap.single point) :=
  lists_empty.inserted point

theorem Lists.performed (lists : series.Lists held) (action : SeriesAction) :
    (series.perform action).Lists (held.perform action) := by
  cases action with
  | insert point => exact lists.inserted point
  | delete stop => exact lists.deleted stop

theorem Lists.searchedPerform_eq (lists : series.Lists held) (action : SeriesAction) :
    series.searchedPerform action = .ok (series.perform action) := by
  cases action with
  | insert point => exact searchedInsert_eq lists.ordered point
  | delete stop =>
    rw [searchedPerform, searchedDelete_eq lists.ordered]
    rfl

/-- The order that each action keeps carries the whole run. -/
theorem Lists.ran (lists : series.Lists held) (actions : List SeriesAction) :
    series.searchedRun actions = .ok (series.run actions) ∧
      (series.run actions).Lists (held.run actions) := by
  induction actions generalizing series held with
  | nil => exact ⟨rfl, lists⟩
  | cons action later ih =>
    obtain ⟨searched, listed⟩ := ih (lists.performed action)
    refine ⟨?_, listed⟩
    unfold searchedRun at searched ⊢
    rw [List.foldlM_cons, lists.searchedPerform_eq action]
    exact searched

end Map

/-- What it is for a series to be a sorted map in whichever way its operations go: a point may be
placed with or without a look at the last one, and a range may be cut out with or without a look at
both ends. -/
structure SortedMap (series : Series) (held : TimeMap) : Prop where
  lists : series.Lists held
  inserts : ∀ point, series.searchedInsert point = .ok (series.insert point) ∧
    (searchedPlace series.points point).map .mk = .ok (series.insert point) ∧
    (series.insert point).Lists (Function.update held point.timestamp (some point.value))
  deletes : ∀ stop,
    series.searchedDelete stop = .ok (series.countUpTo stop, series.dropUpTo stop) ∧
    series.countUpTo stop = (series.points.filter fun point => point.timestamp ≤ stop).length ∧
    (series.dropUpTo stop).points = series.points.filter fun point => stop < point.timestamp
  selects : ∀ start stop, start ≤ stop →
    ∃ found, found = series.points.filter (Point.between start stop) ∧
      series.select start stop = some found ∧ series.searchedSelect start stop = .ok found ∧
      series.searchedCut start stop = .ok found

/-- From its first point on, a series is a sorted map after any insertions and deletions, and no
search on the way breaks down. -/
theorem series_stays_sorted_map (first : Point) (actions : List SeriesAction) :
    (single first).searchedRun actions = .ok ((single first).run actions) ∧
      ((single first).run actions).SortedMap ((TimeMap.single first).run actions) := by
  obtain ⟨searched, lists⟩ := (lists_single first).ran actions
  have ordered := lists.ordered
  refine ⟨searched, lists, fun point => ?_, fun stop => ?_, fun start stop forward => ?_⟩
  · refine ⟨searchedInsert_eq ordered point, ?_, lists.inserted point⟩
    rw [searchedPlace_eq ordered]
    rfl
  · exact ⟨searchedDelete_eq ordered stop, List.countP_eq_length_filter,
      dropUpTo_points ordered stop⟩
  · have answered := select_eq_filter ordered forward
    refine ⟨_, rfl, answered, ?_, searchedCut_eq ordered forward⟩
    rw [searchedSelect_eq ordered, answered]
    rfl

/-- A series that has been emptied goes on with a point from before. -/
example :
    let point (time value : Int) : Point := ⟨Ranged.clamp time, .int32 (Ranged.clamp value)⟩
    (single (point 100 1)).searchedRun [.insert (point 300 2), .insert (point 200 3),
      .insert (point 300 4), .delete (Ranged.clamp 200), .delete (Ranged.clamp 400),
      .insert (point 50 5)] = .ok (single (point 50 5)) := by
  cbv

end Series

end TimeSeries
