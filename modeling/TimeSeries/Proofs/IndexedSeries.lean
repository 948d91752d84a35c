import Mathlib.Algebra.Group.Int.Defs
import Mathlib.Data.List.TakeWhile
import TimeSeries.Proofs.PartitionContents

/-! Series and slots index by index, in the arithmetic of a machine. A step that such a machine
cannot take breaks the computation down: an index past the end, a difference of counts below zero, a
number too wide for its word, a division by zero. Lengths and counts are natural numbers, since
memory ends before any of them leaves the range of a word. In a series whose points are in order
nothing breaks down but the selection of a range that runs backwards past some of its points. -/

namespace TimeSeries

inductive Breakdown where
  | outOfRange
  | belowZero
  | overflow
  | divisionByZero
  deriving DecidableEq

namespace Indexed

variable {α β : Type} {items : List α}

def boundary (keep : α → Bool) (items : List α) : Nat :=
  items.findIdx fun item => !keep item

def fetch (items : List α) (index : Nat) : Except Breakdown α :=
  items[index]?.elim (.error .outOfRange) .ok

def minus (left right : Nat) : Except Breakdown Nat :=
  if right ≤ left then .ok (left - right) else .error .belowZero

def replaceAt (items : List α) (index : Nat) (item : α) : Except Breakdown (List α) :=
  if index < items.length then .ok (items.set index item) else .error .outOfRange

def insertAt (items : List α) (index : Nat) (item : α) : Except Breakdown (List α) :=
  if index ≤ items.length then .ok (items.take index ++ item :: items.drop index)
  else .error .outOfRange

def dropFirst (items : List α) (count : Nat) : Except Breakdown (List α) :=
  if count ≤ items.length then .ok (items.drop count) else .error .outOfRange

def slice (items : List α) (first last : Nat) : Except Breakdown (List α) :=
  if first ≤ last ∧ last ≤ items.length then .ok ((items.take last).drop first)
  else .error .outOfRange

/-- A number in a word of twice the width of a timestamp. -/
def wide (value : Int) : Except Breakdown Int :=
  if -2 ^ 127 ≤ value ∧ value < 2 ^ 127 then .ok value else .error .overflow

def remainder (value width : Int) : Except Breakdown Int :=
  if width = 0 then .error .divisionByZero else .ok (value % width)

theorem boundary_le_length (keep : α → Bool) (items : List α) :
    boundary keep items ≤ items.length :=
  List.findIdx_le_length

theorem boundary_eq_countP {keep : α → Bool}
    (closed : items.Pairwise fun before after => keep after → keep before) :
    boundary keep items = items.countP keep := by
  unfold boundary
  induction items with
  | nil => rfl
  | cons first rest ih =>
    obtain ⟨earlier, closed⟩ := List.pairwise_cons.mp closed
    rw [List.findIdx_cons]
    by_cases kept : keep first
    · simp [kept, ih closed]
    · have none : ∀ later ∈ rest, ¬keep later := fun later member holds =>
        kept (earlier later member holds)
      simp [kept, List.countP_eq_zero.mpr none]

section Split

variable (keep : α → Bool) (items : List α) (item : α)

theorem take_boundary : items.take (boundary keep items) = items.takeWhile keep :=
  List.takeWhile_eq_take_findIdx_not.symm

theorem drop_boundary : items.drop (boundary keep items) = items.dropWhile keep :=
  List.dropWhile_eq_drop_findIdx_not.symm

theorem getElem?_boundary : items[boundary keep items]? = (items.dropWhile keep).head? := by
  rw [← List.head?_drop, drop_boundary]

theorem insertAt_boundary : insertAt items (boundary keep items) item =
    .ok (items.takeWhile keep ++ item :: items.dropWhile keep) := by
  unfold insertAt
  rw [if_pos (boundary_le_length keep items), take_boundary, drop_boundary]

variable {keep items} {first : α} {rest : List α}

theorem fetch_boundary (found : items.dropWhile keep = first :: rest) :
    fetch items (boundary keep items) = .ok first := by
  unfold fetch
  rw [getElem?_boundary, found]
  rfl

theorem replaceAt_boundary (found : items.dropWhile keep = first :: rest) :
    replaceAt items (boundary keep items) item = .ok (items.takeWhile keep ++ item :: rest) := by
  have left := drop_boundary keep items
  rw [found] at left
  have room : boundary keep items < items.length := by
    have lengths := congrArg List.length left
    rw [List.length_drop, List.length_cons] at lengths
    omega
  have behind : items.drop (boundary keep items + 1) = rest := by
    rw [← List.drop_drop, left]
    rfl
  unfold replaceAt
  rw [if_pos room, List.set_eq_take_append_cons_drop, if_pos room, take_boundary, behind]

end Split

theorem wide_eq {value : Int} (low : -2 ^ 127 ≤ value) (high : value < 2 ^ 127) :
    wide value = .ok value :=
  if_pos ⟨low, high⟩

/-- If items break down exactly where they have no answer, then so does the list of them. -/
theorem mapM_elim {answer : α → Option β} {checked : α → Except Breakdown β}
    {breakdown : Breakdown}
    (each : ∀ item ∈ items, checked item = (answer item).elim (.error breakdown) .ok) :
    items.mapM checked = (items.mapM answer).elim (.error breakdown) .ok := by
  induction items with
  | nil => rfl
  | cons first rest ih =>
    rw [List.mapM_cons, List.mapM_cons, each first List.mem_cons_self,
      ih fun item member => each item (List.mem_cons_of_mem _ member)]
    cases answer first with
    | none => rfl
    | some answered => cases rest.mapM answer <;> rfl

theorem mapM_eq_none {answer : α → Option β} :
    items.mapM answer = none ↔ ∃ item ∈ items, answer item = none := by
  induction items with
  | nil => simp
  | cons first rest ih =>
    rw [List.mapM_cons]
    simp only [List.mem_cons, exists_eq_or_imp]
    rw [← ih]
    cases answer first with
    | none => simp
    | some answered => cases rest.mapM answer <;> simp

end Indexed

open Indexed

/-! ### Slots -/

namespace Slot

def indexedAround (timestamp : Timestamp) (duration : Int) : Except Breakdown Slot := do
  let width := max duration 1
  let past ← remainder timestamp.val width
  let first ← wide (timestamp.val - past)
  let next ← wide (first + width)
  let last ← wide (next - 1)
  return ⟨Ranged.clamp first, Ranged.clamp last⟩

theorem indexedAround_eq (timestamp : Timestamp) {duration : Int}
    (narrow : duration ≤ 9223372036854775807) :
    indexedAround timestamp duration = .ok (around timestamp duration) := by
  have low := timestamp.low_le
  have high := timestamp.le_high
  have width : max duration 1 ≠ 0 := by omega
  have left := Int.emod_nonneg timestamp.val width
  have right := Int.emod_lt_of_pos timestamp.val (show 0 < max duration 1 by omega)
  have first : wide (timestamp.val - timestamp.val % max duration 1) =
      .ok (timestamp.val - timestamp.val % max duration 1) := wide_eq (by omega) (by omega)
  have next : wide (timestamp.val - timestamp.val % max duration 1 + max duration 1) =
      .ok (timestamp.val - timestamp.val % max duration 1 + max duration 1) :=
    wide_eq (by omega) (by omega)
  have last : wide (timestamp.val - timestamp.val % max duration 1 + max duration 1 - 1) =
      .ok (timestamp.val - timestamp.val % max duration 1 + max duration 1 - 1) :=
    wide_eq (by omega) (by omega)
  unfold indexedAround remainder
  simp only [if_neg width, bind, Except.bind, first, next, last]
  rfl

end Slot

/-! ### The insert window -/

namespace InsertWindow

def indexedWithin (later earlier : Timestamp) (limit : Option Nat) : Except Breakdown Bool :=
  match limit with
  | none => .ok true
  | some limit => do
    let distance ← wide (later.val - earlier.val)
    return (Ranged.clamp distance : Timestamp) ≤ (Ranged.clamp limit : Timestamp)

def indexedContains (window : InsertWindow) (timestamp : Timestamp) : Except Breakdown Bool :=
  match window.newest with
  | none => .ok true
  | some newest => do
    if ← indexedWithin timestamp newest window.tolerance.future then
      indexedWithin newest timestamp window.tolerance.past
    else return false

theorem indexedWithin_eq (later earlier : Timestamp) (limit : Option Nat) :
    indexedWithin later earlier limit = .ok (within later earlier limit) := by
  have laterLow := later.low_le
  have laterHigh := later.le_high
  have earlierLow := earlier.low_le
  have earlierHigh := earlier.le_high
  cases limit with
  | none => rfl
  | some limit =>
    unfold indexedWithin
    dsimp only
    rw [wide_eq (by omega) (by omega)]
    rfl

theorem indexedContains_eq (window : InsertWindow) (timestamp : Timestamp) :
    window.indexedContains timestamp = .ok (window.contains timestamp) := by
  unfold indexedContains contains
  cases window.newest with
  | none => rfl
  | some newest =>
    dsimp only
    rw [indexedWithin_eq, indexedWithin_eq]
    simp only [bind, Except.bind]
    cases within timestamp newest window.tolerance.future <;> rfl

end InsertWindow

/-! ### Series -/

namespace Series

variable {series : Series}

def indexedPlace (points : List Point) (point : Point) : Except Breakdown (List Point) :=
  let seat := boundary (·.timestamp < point.timestamp) points
  if points[seat]?.map Point.timestamp = some point.timestamp then replaceAt points seat point
  else insertAt points seat point

def indexedInsert (series : Series) (point : Point) : Except Breakdown Series :=
  match series.points.getLast? with
  | some last =>
    if last.timestamp < point.timestamp then .ok ⟨series.points ++ [point]⟩
    else (indexedPlace series.points point).map .mk
  | none => .ok ⟨series.points ++ [point]⟩

def indexedDropUpTo (series : Series) (stop : Timestamp) : Except Breakdown (Nat × Series) := do
  let count := boundary (·.timestamp ≤ stop) series.points
  let left ← dropFirst series.points count
  return (count, ⟨left⟩)

def indexedSelect (series : Series) (start stop : Timestamp) : Except Breakdown (List Point) :=
  match series.points.head?, series.points.getLast? with
  | some first, some last =>
    if stop < first.timestamp ∨ last.timestamp < start then .ok []
    else
      slice series.points (boundary (·.timestamp < start) series.points)
        (boundary (·.timestamp ≤ stop) series.points)
  | _, _ => .ok []

theorem indexedPlace_eq (points : List Point) (point : Point) :
    indexedPlace points point = .ok (Keyed.place point points) := by
  have whole := List.takeWhile_append_dropWhile
    (p := fun other : Point => decide (other.timestamp < point.timestamp)) (l := points)
  have below : ∀ other ∈ points.takeWhile (·.timestamp < point.timestamp),
      Keyed.key other < Keyed.key point := by
    intro other member
    have met := List.mem_takeWhile_imp member
    exact of_decide_eq_true met
  have placed : Keyed.place point (points.takeWhile (·.timestamp < point.timestamp) ++
        points.dropWhile (·.timestamp < point.timestamp) ++ []) =
      points.takeWhile (·.timestamp < point.timestamp) ++
        Keyed.place point (points.dropWhile (·.timestamp < point.timestamp)) ++ [] :=
    Keyed.place_append below (by simp)
  rw [List.append_nil, List.append_nil, whole] at placed
  unfold indexedPlace
  dsimp only
  rw [placed, getElem?_boundary]
  cases rest : points.dropWhile (·.timestamp < point.timestamp) with
  | nil =>
    rw [insertAt_boundary, rest]
    rfl
  | cons first later =>
    have notBefore : ¬first.timestamp < point.timestamp := by
      have head := List.head?_dropWhile_not
        (fun other : Point => decide (other.timestamp < point.timestamp)) points
      rw [rest] at head
      simpa using head
    unfold Keyed.place
    change (if some first.timestamp = some point.timestamp then _ else _) =
      Except.ok (_ ++ if point.timestamp < first.timestamp then _
        else if point.timestamp = first.timestamp then _ else _)
    by_cases same : first.timestamp = point.timestamp
    · rw [if_pos (congrArg some same), if_neg (same ▸ Int.lt_irrefl _), if_pos same.symm]
      exact replaceAt_boundary point rest
    · have after : point.timestamp < first.timestamp := by
        refine Int.lt_iff_le_and_ne.mpr ⟨Ranged.not_lt.mp notBefore, fun equal => ?_⟩
        exact same (Ranged.ext equal.symm)
      rw [if_neg (mt Option.some.inj same), if_pos after, insertAt_boundary, rest]

theorem indexedInsert_eq (ascending : Keyed.Ascending series.points) (point : Point) :
    series.indexedInsert point = .ok (series.insert point) := by
  unfold indexedInsert
  split
  next last tail =>
    split
    next follows =>
      have below : ∀ other ∈ series.points, Keyed.key other < Keyed.key point := by
        intro other member
        exact Int.lt_of_le_of_lt (le_last ascending tail member) follows
      have placed : Keyed.place point (series.points ++ [] ++ []) =
          series.points ++ Keyed.place point [] ++ [] := Keyed.place_append below (by simp)
      simp only [List.append_nil] at placed
      unfold insert
      rw [placed]
      rfl
    next =>
      rw [indexedPlace_eq]
      rfl
  next empty =>
    unfold insert
    rw [List.getLast?_eq_none_iff.mp empty]
    rfl

theorem boundary_before (ascending : Keyed.Ascending series.points) (start : Timestamp) :
    boundary (·.timestamp < start) series.points =
      series.points.countP (·.timestamp < start) :=
  boundary_eq_countP (closed_before ascending start)

theorem boundary_upTo (ascending : Keyed.Ascending series.points) (stop : Timestamp) :
    boundary (·.timestamp ≤ stop) series.points = series.countUpTo stop :=
  boundary_eq_countP (closed_upTo ascending stop)

theorem indexedDropUpTo_eq (ascending : Keyed.Ascending series.points) (stop : Timestamp) :
    series.indexedDropUpTo stop = .ok (series.countUpTo stop, series.dropUpTo stop) := by
  have within : series.countUpTo stop ≤ series.points.length := List.countP_le_length
  unfold indexedDropUpTo dropFirst
  dsimp only
  rw [boundary_upTo ascending, if_pos within]
  rfl

theorem ends (series : Series) : series.points = [] ∨ ∃ first last,
    series.points.head? = some first ∧ series.points.getLast? = some last := by
  cases shape : series.points with
  | nil => exact .inl rfl
  | cons first rest => exact .inr ⟨first, _, rfl, List.getLast?_cons⟩

/-- A selection breaks down exactly where it has no answer. -/
theorem indexedSelect_eq (ascending : Keyed.Ascending series.points) (start stop : Timestamp) :
    series.indexedSelect start stop =
      (series.select start stop).elim (.error .outOfRange) .ok := by
  have within : series.countUpTo stop ≤ series.points.length := List.countP_le_length
  unfold indexedSelect select slice
  rw [boundary_before ascending, boundary_upTo ascending]
  rcases series.ends with empty | ⟨first, last, head, tail⟩
  · rw [empty]
    rfl
  · rw [head, tail]
    dsimp only
    split
    · rfl
    · by_cases room : series.points.countP (·.timestamp < start) ≤ series.countUpTo stop
      · rw [if_pos ⟨room, within⟩, if_pos room]
        rfl
      · rw [if_neg (mt And.left room), if_neg room]
        rfl

end Series

/-! ### Ranges that run backwards -/

/-- Some points lie strictly between the ends of a range that runs backwards, and others at or
beyond each of its ends. -/
def Straddles (points : List Point) (start stop : Timestamp) : Prop :=
  ∃ early ∈ points, ∃ inside ∈ points, ∃ late ∈ points, early.timestamp ≤ stop ∧
    stop < inside.timestamp ∧ inside.timestamp < start ∧ start ≤ late.timestamp

instance (points : List Point) (start stop : Timestamp) :
    Decidable (Straddles points start stop) :=
  inferInstanceAs (Decidable (∃ early ∈ points, ∃ inside ∈ points, ∃ late ∈ points, _))

namespace Series

variable {series : Series} {start stop : Timestamp}

theorem countUpTo_lt_iff : series.countUpTo stop < series.points.countP (·.timestamp < start) ↔
    ∃ inside ∈ series.points, stop < inside.timestamp ∧ inside.timestamp < start := by
  constructor
  · intro more
    by_contra nothing
    push Not at nothing
    refine Nat.not_le.mpr more (List.countP_mono_left fun point member before => ?_)
    have reaches := nothing point member
    simp only [Ranged.le_iff, Ranged.lt_iff, decide_eq_true_eq] at *
    omega
  · rintro ⟨inside, member, after, before⟩
    -- Counting cannot see which points are counted, so it is split at the earlier of the times.
    have some_between : 0 < (series.points.filter fun point =>
        !decide (point.timestamp ≤ stop)).countP (·.timestamp < start) := by
      rw [Point.not_upTo, List.countP_pos_iff]
      exact ⟨inside, List.mem_filter.mpr ⟨member, decide_eq_true after⟩, decide_eq_true before⟩
    have upTo : series.countUpTo stop ≤ (series.points.filter fun point =>
        decide (point.timestamp ≤ stop)).countP (·.timestamp < start) := by
      rw [List.countP_filter]
      refine List.countP_mono_left fun point _ reaches => ?_
      simp only [Ranged.le_iff, Ranged.lt_iff, Bool.and_eq_true, decide_eq_true_eq] at *
      omega
    rw [List.countP_eq_countP_filter_add _ _ fun point => decide (point.timestamp ≤ stop)]
    omega

theorem select_eq_none_iff (ascending : Keyed.Ascending series.points) :
    series.select start stop = none ↔ Straddles series.points start stop := by
  rcases series.ends with empty | ⟨first, last, head, tail⟩
  · simp [select, Straddles, empty]
  · have broken : series.select start stop = none ↔ first.timestamp ≤ stop ∧
        start ≤ last.timestamp ∧ series.countUpTo stop < series.points.countP
          (·.timestamp < start) := by
      unfold select
      rw [head, tail]
      dsimp only
      rw [← Ranged.not_lt, ← Ranged.not_lt, ← Nat.not_le]
      grind
    rw [broken, countUpTo_lt_iff]
    constructor
    · rintro ⟨reaches, starts, inside, member, after, before⟩
      exact ⟨first, List.mem_of_head? head, inside, member, last, List.mem_of_getLast? tail,
        reaches, after, before, starts⟩
    · rintro ⟨early, earlyMember, inside, member, late, lateMember, reaches, after, before, starts⟩
      have afterFirst := (between_head_last ascending head tail earlyMember).1
      have beforeLast := (between_head_last ascending head tail lateMember).2
      exact ⟨Int.le_trans afterFirst reaches, Int.le_trans starts beforeLast, inside, member, after,
        before⟩

theorem select_backwards (backwards : stop < start) {points : List Point}
    (answered : series.select start stop = some points) : points = [] := by
  have fewer : series.countUpTo stop ≤ series.points.countP (·.timestamp < start) := by
    refine List.countP_mono_left fun point _ reaches => ?_
    simp only [Ranged.le_iff, Ranged.lt_iff, decide_eq_true_eq] at *
    omega
  unfold select at answered
  split at answered
  · split at answered
    · exact (Option.some.inj answered).symm
    · obtain ⟨_, selected⟩ := Option.ite_none_right_eq_some.mp answered
      rw [← Option.some.inj selected, List.drop_eq_nil_iff, List.length_take]
      omega
  · exact (Option.some.inj answered).symm

end Series

end TimeSeries
