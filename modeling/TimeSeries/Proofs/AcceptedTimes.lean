import TimeSeries.Proofs.StoreLedger

/-! The timestamps that a store accepts in a run. The newest one that its insert window keeps is the
largest of them. -/

namespace TimeSeries.Store

variable {store next : Store} {name : String} {point : Point}

def takes (store : Store) : StoreAction → List Timestamp
  | .insert name point =>
    match store.insert name point with
    | .ok _ => [point.timestamp]
    | .error _ => []
  | _ => []

def taken (store : Store) : List StoreAction → List Timestamp
  | [] => []
  | action :: later => store.takes action ++ (store.perform action).2.taken later

def Newest (store : Store) (actions : List StoreAction) (timestamp : Timestamp) : Prop :=
  timestamp ∈ store.taken actions ∧ ∀ other ∈ store.taken actions, other ≤ timestamp

instance (store : Store) (actions : List StoreAction) (timestamp : Timestamp) :
    Decidable (store.Newest actions timestamp) :=
  inferInstanceAs (Decidable (_ ∧ ∀ other ∈ _, _))

theorem window_of_insert (inserted : store.insert name point = .ok next) :
    next.window = store.window.update point.timestamp := by
  unfold insert at inserted
  split at inserted
  · cases inserted
  · split at inserted
    · unfold write at inserted
      dsimp only at inserted
      split at inserted
      · cases inserted
      · split at inserted
        · cases inserted
          rfl
        · cases inserted
    · cases inserted

theorem newest_perform (store : Store) (action : StoreAction) :
    (store.perform action).2.window.newest =
      InsertWindow.latestOf store.window.newest (store.takes action) := by
  cases action with
  | insert name point =>
    unfold perform takes
    dsimp only
    cases inserted : store.insert name point with
    | error error => rfl
    | ok next =>
      dsimp only
      rw [window_of_insert inserted, InsertWindow.update_newest]
      rfl
  | select name start stop => rfl
  | delete name stop =>
    unfold perform delete
    cases store.closed <;> rfl
  | remove name =>
    unfold perform remove
    cases store.closed <;> rfl
  | sweep => rfl

theorem newest_run (store : Store) (actions : List StoreAction) :
    (store.run actions).window.newest =
      InsertWindow.latestOf store.window.newest (store.taken actions) := by
  induction actions generalizing store with
  | nil => rfl
  | cons action later ih =>
    change ((store.perform action).2.run later).window.newest = _
    rw [ih, newest_perform, taken, InsertWindow.latestOf_append]

/-- From its creation on, a store knows the largest timestamp that it has accepted. -/
theorem newest_run_iff {config : StoreConfig} (created : create config = .ok store)
    (actions : List StoreAction) (timestamp : Timestamp) :
    (store.run actions).window.newest = some timestamp ↔ store.Newest actions timestamp := by
  obtain ⟨_, _, _, rfl⟩ := create_ok created
  rw [newest_run, InsertWindow.latestOf_eq_some_iff]
  unfold Newest
  simp

end TimeSeries.Store
