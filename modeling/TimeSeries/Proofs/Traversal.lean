import Mathlib.Data.List.Forall2

/-! Actions that may fail, one after the other and along lists. -/

namespace TimeSeries

theorem mapM_of_pure {m : Type → Type} [Monad m] [LawfulMonad m] {α β : Type} {answer : α → m β}
    {result : α → β} {items : List α} (each : ∀ item ∈ items, answer item = pure (result item)) :
    items.mapM answer = pure (items.map result) := by
  induction items with
  | nil => rfl
  | cons first rest ih =>
    rw [List.mapM_cons, each first List.mem_cons_self,
      ih fun item member => each item (List.mem_cons_of_mem _ member)]
    simp

theorem exists_of_mapM {α β : Type} {answer : α → Option β} {items : List α} {results : List β}
    (answered : items.mapM answer = some results) {result : β} (member : result ∈ results) :
    ∃ item ∈ items, answer item = some result := by
  induction items generalizing results with
  | nil =>
    cases answered
    cases member
  | cons first rest ih =>
    rw [List.mapM_cons] at answered
    obtain ⟨head, found, answered⟩ := Option.bind_eq_some_iff.mp answered
    obtain ⟨others, left, same⟩ := Option.bind_eq_some_iff.mp answered
    cases same
    rcases List.mem_cons.mp member with rfl | member
    · exact ⟨first, List.mem_cons_self, found⟩
    · obtain ⟨item, listed, answer⟩ := ih left member
      exact ⟨item, List.mem_cons_of_mem _ listed, answer⟩

/-! ### Failures with a report -/

variable {Failure Item Result : Type}

theorem bind_ok_iff {Next : Type} {first : Except Failure Item}
    {next : Item → Except Failure Next} {last : Next} :
    first >>= next = .ok last ↔ ∃ item, first = .ok item ∧ next item = .ok last := by
  cases first <;> simp [bind, Except.bind]

theorem bind_error_iff {Next : Type} {first : Except Failure Item}
    {next : Item → Except Failure Next} {failure : Failure} :
    first >>= next = .error failure ↔
      first = .error failure ∨ ∃ item, first = .ok item ∧ next item = .error failure := by
  cases first <;> simp [bind, Except.bind]

variable {action : Item → Except Failure Result} {items : List Item}

theorem mapM_ok_iff {results : List Result} : items.mapM action = .ok results ↔
    List.Forall₂ (fun item result => action item = .ok result) items results := by
  induction items generalizing results with
  | nil =>
    rw [List.forall₂_nil_left_iff]
    exact ⟨fun done => (Except.ok.inj done).symm, fun none => none ▸ rfl⟩
  | cons item items ih =>
    simp only [List.mapM_cons, bind_ok_iff, ih, List.forall₂_cons_left_iff]
    constructor
    · rintro ⟨first, found, others, each, ⟨⟩⟩
      exact ⟨first, others, found, each, rfl⟩
    · rintro ⟨first, others, found, each, rfl⟩
      exact ⟨first, found, others, each, rfl⟩

theorem items_of_mapM {results : List Result} {origin : Result → Item}
    (done : items.mapM action = .ok results)
    (faithful : ∀ item result, action item = .ok result → origin result = item) :
    results.map origin = items := by
  have each := mapM_ok_iff.mp done
  clear done
  induction each with
  | nil => rfl
  | cons first _ ih => rw [List.map_cons, faithful _ _ first, ih]

theorem exists_mapM_iff : (∃ results, items.mapM action = .ok results) ↔
    ∀ item ∈ items, ∃ result, action item = .ok result := by
  simp only [mapM_ok_iff]
  induction items with
  | nil => exact ⟨fun _ _ member => absurd member List.not_mem_nil, fun _ => ⟨[], .nil⟩⟩
  | cons item items ih =>
    rw [List.forall_mem_cons, ← ih]
    constructor
    · rintro ⟨results, each⟩
      cases each with
      | cons first others => exact ⟨⟨_, first⟩, _, others⟩
    · rintro ⟨⟨_, first⟩, _, others⟩
      exact ⟨_, .cons first others⟩

/-- A traversal fails like the first of its items that fails. -/
theorem mapM_error_iff {failure : Failure} : items.mapM action = .error failure ↔
    ∃ before item after, items = before ++ item :: after ∧
      (∀ earlier ∈ before, ∃ result, action earlier = .ok result) ∧
        action item = .error failure := by
  constructor
  · intro failed
    induction items with
    | nil => cases failed
    | cons item items ih =>
      rw [List.mapM_cons, bind_error_iff] at failed
      rcases failed with failed | ⟨result, done, failed⟩
      · exact ⟨[], item, items, rfl, by simp, failed⟩
      · obtain failed | ⟨_, _, ⟨⟩⟩ := bind_error_iff.mp failed
        obtain ⟨before, bad, after, rfl, earlier, reason⟩ := ih failed
        exact ⟨item :: before, bad, after, rfl,
          List.forall_mem_cons.mpr ⟨⟨result, done⟩, earlier⟩, reason⟩
  · rintro ⟨before, item, after, rfl, earlier, failed⟩
    induction before with
    | nil => exact bind_error_iff.mpr (.inl failed)
    | cons first before ih =>
      obtain ⟨⟨result, done⟩, earlier⟩ := List.forall_mem_cons.mp earlier
      rw [List.cons_append, List.mapM_cons, bind_error_iff]
      exact .inr ⟨result, done, bind_error_iff.mpr (.inl (ih earlier))⟩

end TimeSeries
