import TimeSeries.Proofs.IndexedSeries

/-! Binary search in the steps of a machine. A search halves a stretch of a list until one item is
left and looks at that item last. It trusts the order of the list: where all items before some item
are less than what is searched for and all items after it are greater, the search ends at the seat
that a search from the front would find, and no step of it leaves the list. -/

namespace TimeSeries

namespace Indexed

variable {α : Type} {items : List α} {compare : α → Ordering}

structure Seat where
  index : Nat
  taken : Bool
  deriving DecidableEq

/-- Halves a stretch of items until one is left. When a stretch of odd length loses its upper half,
the item in the middle stays. -/
def narrow (compare : α → Ordering) (items : List α) (base size : Nat) : Except Breakdown Nat :=
  if size ≤ 1 then .ok base
  else do
    let middle ← fetch items (base + size / 2)
    narrow compare items (if compare middle = .gt then base else base + size / 2) (size - size / 2)
  termination_by size

def search (compare : α → Ordering) (items : List α) : Except Breakdown Seat :=
  if items.length = 0 then .ok ⟨0, false⟩
  else do
    let base ← narrow compare items 0 items.length
    let item ← fetch items base
    match compare item with
    | .lt => return ⟨base + 1, false⟩
    | .eq => return ⟨base, true⟩
    | .gt => return ⟨base, false⟩

def searchBoundary (keep : α → Bool) (items : List α) : Except Breakdown Nat := do
  let seat ← search (fun item => if keep item then .lt else .gt) items
  return seat.index

def Guided (compare : α → Ordering) (items : List α) : Prop :=
  items.Pairwise fun before after => compare before = .lt ∨ compare after = .gt

/-- What a search has not ruled out yet: all items before it are less, all items after it are
greater. -/
structure Stretch (compare : α → Ordering) (items : List α) (base size : Nat) : Prop where
  populated : 0 < size
  inside : base + size ≤ items.length
  before : ∀ item ∈ items.take base, compare item = .lt
  after : ∀ item ∈ items.drop (base + size), compare item = .gt

theorem fetch_eq {index : Nat} (inside : index < items.length) :
    fetch items index = .ok items[index] := by
  unfold fetch
  rw [List.getElem?_eq_getElem inside]
  rfl

theorem Guided.before (guided : Guided compare items) {index : Nat} (inside : index < items.length)
    (notGreater : compare items[index] ≠ .gt) : ∀ item ∈ items.take index, compare item = .lt := by
  intro item member
  obtain ⟨place, bound, rfl⟩ := List.mem_take_iff_getElem.mp member
  have ordered := List.pairwise_iff_getElem.mp guided place index (by omega) inside (by omega)
  exact ordered.resolve_right notGreater

theorem Guided.after (guided : Guided compare items) {index : Nat} (inside : index < items.length)
    (greater : compare items[index] = .gt) : ∀ item ∈ items.drop index, compare item = .gt := by
  intro item member
  obtain ⟨offset, bound, rfl⟩ := List.mem_drop_iff_getElem.mp member
  rcases Nat.eq_zero_or_pos offset with rfl | positive
  · exact greater
  · have ordered :=
      List.pairwise_iff_getElem.mp guided index (index + offset) inside (by omega) (by omega)
    refine ordered.resolve_left fun less => ?_
    rw [greater] at less
    cases less

theorem Stretch.halve (guided : Guided compare items) {base size : Nat}
    (stretch : Stretch compare items base size) (long : 1 < size)
    (inside : base + size / 2 < items.length) :
    Stretch compare items
      (if compare items[base + size / 2] = .gt then base else base + size / 2)
      (size - size / 2) := by
  have fits := stretch.inside
  split
  next greater =>
    refine ⟨by omega, by omega, stretch.before, fun item member => ?_⟩
    -- An odd stretch keeps its middle, so what is ruled out may begin one item after it.
    refine guided.after inside greater item ?_
    exact List.drop_subset_drop_left items (by omega) member
  next notGreater =>
    refine ⟨by omega, by omega, guided.before inside notGreater, fun item member => ?_⟩
    refine stretch.after item ?_
    exact List.drop_subset_drop_left items (by omega) member

theorem narrow_ok (guided : Guided compare items) {base size : Nat}
    (stretch : Stretch compare items base size) :
    ∃ index, narrow compare items base size = .ok index ∧ Stretch compare items index 1 := by
  induction size using Nat.strongRecOn generalizing base with
  | ind size ih =>
    have populated := stretch.populated
    have fits := stretch.inside
    unfold narrow
    split
    next short =>
      have one : size = 1 := by omega
      exact ⟨base, rfl, one ▸ stretch⟩
    next long =>
      have inside : base + size / 2 < items.length := by omega
      rw [fetch_eq inside]
      exact ih (size - size / 2) (by omega) (stretch.halve guided (by omega) inside)

theorem boundary_eq {keep : α → Bool} {index : Nat} (inside : index ≤ items.length)
    (kept : ∀ item ∈ items.take index, keep item = true)
    (failed : ∀ item ∈ items.drop index, keep item = false) : boundary keep items = index := by
  have front : (items.take index).findIdx (fun item => !keep item) = (items.take index).length := by
    rw [List.findIdx_eq_length]
    intro item member
    rw [kept item member]
    rfl
  have back : (items.drop index).findIdx (fun item => !keep item) = 0 := by
    cases rest : items.drop index with
    | nil => rfl
    | cons first later =>
      rw [List.findIdx_cons, failed first (rest ▸ List.mem_cons_self)]
      rfl
  unfold boundary
  rw [← List.take_append_drop index items, List.findIdx_append, front, back,
    if_neg (Nat.lt_irrefl _), Nat.zero_add, List.length_take_of_le inside]

section Last

variable {index : Nat} (inside : index < items.length) (last : Stretch compare items index 1)

include last

theorem Stretch.boundary_of_less (less : compare items[index] = .lt) :
    boundary (compare · = .lt) items = index + 1 := by
  apply boundary_eq inside
  · rw [List.take_succ_eq_append_getElem inside, List.forall_mem_append]
    exact ⟨fun item member => decide_eq_true (last.before item member), by simp [less]⟩
  · intro item member
    simp [last.after item member]

theorem Stretch.boundary_of_not_less (notLess : compare items[index] ≠ .lt) :
    boundary (compare · = .lt) items = index := by
  apply boundary_eq (Nat.le_of_lt inside)
  · intro item member
    exact decide_eq_true (last.before item member)
  · intro item member
    rw [List.drop_eq_getElem_cons inside] at member
    rcases List.mem_cons.mp member with rfl | later
    · exact decide_eq_false notLess
    · simp [last.after item later]

theorem Stretch.free_behind : items[index + 1]?.any (compare · = .eq) = false := by
  rw [← List.head?_drop]
  cases rest : items.drop (index + 1) with
  | nil => rfl
  | cons first later => simp [last.after first (rest ▸ List.mem_cons_self)]

end Last

/-- The search finds the seat in front of the first item that is not less, and tells whether what
is searched for is there. -/
theorem search_eq (guided : Guided compare items) :
    search compare items = .ok ⟨boundary (compare · = .lt) items,
      items[boundary (compare · = .lt) items]?.any (compare · = .eq)⟩ := by
  unfold search
  split
  next empty =>
    rw [List.length_eq_zero_iff.mp empty]
    rfl
  next populated =>
    have whole : Stretch compare items 0 items.length :=
      ⟨by omega, by omega, by simp, by simp⟩
    obtain ⟨index, narrowed, last⟩ := narrow_ok guided whole
    have inside : index < items.length := last.inside
    rw [narrowed]
    simp only [bind, Except.bind, fetch_eq inside]
    split
    next less =>
      rw [last.boundary_of_less inside less, last.free_behind]
      rfl
    next same =>
      rw [last.boundary_of_not_less inside (by simp [same]), List.getElem?_eq_getElem inside]
      simp [same, pure, Except.pure]
    next greater =>
      rw [last.boundary_of_not_less inside (by simp [greater]), List.getElem?_eq_getElem inside]
      simp [greater, pure, Except.pure]

theorem searchBoundary_eq {keep : α → Bool}
    (closed : items.Pairwise fun before after => keep after → keep before) :
    searchBoundary keep items = .ok (boundary keep items) := by
  have guided : Guided (fun item => if keep item then .lt else .gt) items := by
    refine closed.imp fun {before after} earlier => ?_
    by_cases kept : keep after = true
    · exact .inl (if_pos (earlier kept))
    · exact .inr (if_neg kept)
  have same : (fun item => decide ((if keep item then Ordering.lt else .gt) = .lt)) = keep := by
    funext item
    cases keep item <;> rfl
  unfold searchBoundary
  rw [search_eq guided, same]
  rfl

/-- A list that is out of order misleads the search. -/
example : search (fun item => compareOfLessAndEq item 2) [2, 1, 3] = .ok ⟨2, false⟩ := by
  cbv

end Indexed

end TimeSeries
