import TimeSeries.Proofs.StoreIdentity
import TimeSeries.Proofs.StoreLedger

/-! Points for different cells may arrive in any order. Two insertions into a sound store commute,
whether they join a partition or make one, at the end or in the middle, so without limits a list of
points leads to one store whichever way it is permuted. -/

namespace TimeSeries

structure Arrival where
  name : String
  point : Point
  deriving DecidableEq

def Arrival.cell (arrival : Arrival) : String × Timestamp :=
  (arrival.name, arrival.point.timestamp)

namespace Store

def insertEach (store : Store) (arrivals : List Arrival) : Except StoreError Store :=
  arrivals.foldlM (fun store arrival => store.insert arrival.name arrival.point) store

def insertedEach (store : Store) (arrivals : List Arrival) : Store :=
  arrivals.foldl (fun store arrival => store.inserted arrival.name arrival.point) store

/-- What points for different cells make of a store: each is in its cell, every other cell is as it
was, and the slots and the newest timestamp take the points in. -/
structure TookIn (arrivals : List Arrival) (store next : Store) : Prop where
  held : ∀ arrival ∈ arrivals,
    next.valueAt arrival.name arrival.point.timestamp = some arrival.point.value
  kept : ∀ name timestamp, (name, timestamp) ∉ arrivals.map Arrival.cell →
    next.valueAt name timestamp = store.valueAt name timestamp
  slots : ∀ slot, slot ∈ next.slots ↔
    (∃ arrival ∈ arrivals, slot = Slot.around arrival.point.timestamp store.duration) ∨
      slot ∈ store.slots
  newest : next.window.newest =
    InsertWindow.latestOf store.window.newest (arrivals.map fun arrival => arrival.point.timestamp)

variable {store : Store} {config : StoreConfig} {first second : Arrival}
  {arrivals others : List Arrival}

theorem insertedEach_cons (store : Store) (arrival : Arrival) (later : List Arrival) :
    store.insertedEach (arrival :: later) =
      (store.inserted arrival.name arrival.point).insertedEach later :=
  rfl

/-! ### Two points -/

/-- Sound stores with the same limits, newest timestamp, slots and cells are the same. -/
theorem Sound.eq_of_cells {one other : Store} (sound : one.Sound) (also : other.Sound)
    (limits : other = { one with partitions := other.partitions, window := other.window })
    (window : one.window = other.window) (slots : ∀ slot, slot ∈ one.slots ↔ slot ∈ other.slots)
    (cells : one.valueAt = other.valueAt) : one = other := by
  have width : one.duration = other.duration := by rw [limits]
  rw [limits, ← window, ← sound.partitions_eq also width slots cells]

/-- Points for different cells are taken in either order. -/
theorem Sound.inserted_comm (sound : store.Sound) (apart : first.cell ≠ second.cell) :
    (store.inserted first.name first.point).inserted second.name second.point =
      (store.inserted second.name second.point).inserted first.name first.point := by
  have one : (store.inserted first.name first.point).Sound := sound.inserted first.point
  have other : (store.inserted second.name second.point).Sound := sound.inserted second.point
  apply (one.inserted second.point).eq_of_cells (other.inserted first.point) rfl
  · change [first.point.timestamp, second.point.timestamp].foldl InsertWindow.update store.window =
      [second.point.timestamp, first.point.timestamp].foldl InsertWindow.update store.window
    rw [InsertWindow.foldl_update, InsertWindow.foldl_update,
      InsertWindow.latestOf_perm (List.Perm.swap _ _ [])]
  · intro slot
    rw [one.mem_slots_inserted, other.mem_slots_inserted, sound.mem_slots_inserted,
      sound.mem_slots_inserted]
    exact or_left_comm
  · funext name timestamp
    rw [one.valueAt_inserted, other.valueAt_inserted, sound.valueAt_inserted,
      sound.valueAt_inserted]
    by_cases inFirst : name = first.name ∧ timestamp = first.point.timestamp
    · have notSecond : ¬(name = second.name ∧ timestamp = second.point.timestamp) := by
        rintro ⟨named, stamped⟩
        exact apart (Prod.ext (inFirst.1.symm.trans named) (inFirst.2.symm.trans stamped))
      rw [if_neg notSecond, if_pos inFirst, if_pos inFirst]
    · rw [if_neg inFirst, if_neg inFirst]

/-! ### Lists of points -/

theorem Sound.insertedEach_perm (sound : store.Sound) (moved : arrivals.Perm others)
    (distinct : (arrivals.map Arrival.cell).Nodup) :
    store.insertedEach arrivals = store.insertedEach others := by
  induction moved generalizing store with
  | nil => rfl
  | cons arrival moved ih =>
    exact ih (sound.inserted arrival.point) (List.nodup_cons.mp distinct).2
  | swap first second rest =>
    have apart : second.cell ≠ first.cell := by
      rintro same
      simp [same] at distinct
    rw [insertedEach_cons, insertedEach_cons, insertedEach_cons, insertedEach_cons,
      sound.inserted_comm apart]
  | trans moved further ihMoved ihFurther =>
    have still := (moved.map Arrival.cell).nodup_iff.mp distinct
    exact (ihMoved sound distinct).trans (ihFurther sound still)

theorem TookIn.cons {next : Store} (sound : store.Sound)
    (fresh : first.cell ∉ arrivals.map Arrival.cell)
    (tookIn : TookIn arrivals (store.inserted first.name first.point) next) :
    TookIn (first :: arrivals) store next where
  held := by
    intro arrival member
    rcases List.mem_cons.mp member with rfl | member
    · rw [tookIn.kept _ _ fresh, sound.valueAt_inserted, if_pos ⟨rfl, rfl⟩]
    · exact tookIn.held arrival member
  kept := by
    intro name timestamp outside
    obtain ⟨other, later⟩ := not_or.mp (mt List.mem_cons.mpr outside)
    have apart : ¬(name = first.name ∧ timestamp = first.point.timestamp) := by
      rintro ⟨rfl, rfl⟩
      exact other rfl
    rw [tookIn.kept _ _ later, sound.valueAt_inserted, if_neg apart]
  slots := by
    intro slot
    rw [tookIn.slots, sound.mem_slots_inserted]
    simp only [List.mem_cons, exists_eq_or_imp, Store.inserted, or_assoc, or_left_comm]
  newest := by
    rw [tookIn.newest]
    simp [Store.inserted, InsertWindow.latestOf]

theorem Sound.tookIn (sound : store.Sound) (distinct : (arrivals.map Arrival.cell).Nodup) :
    TookIn arrivals store (store.insertedEach arrivals) := by
  induction arrivals generalizing store with
  | nil =>
    exact ⟨by simp, fun _ _ _ => rfl, by simp [insertedEach], rfl⟩
  | cons arrival later ih =>
    obtain ⟨fresh, distinct⟩ := List.nodup_cons.mp distinct
    exact (ih (sound.inserted arrival.point) distinct).cons sound fresh

end Store

/-! ### Stores without limits -/

namespace Ledger

variable {config : StoreConfig} {ledger : Ledger} {store : Store}

theorem admits_all (boundless : config.Boundless) (timestamp : Timestamp) :
    ledger.Admits config timestamp := by
  have future : future config = none := boundless.future
  have past : past config = none := by
    rw [past, boundless.past, boundless.writable]
    rfl
  unfold Admits
  rw [future, past, boundless.writable]
  simp [InsertWindow.Allows]

theorem Related.insertEach_eq (related : Related config ledger store)
    (boundless : config.Boundless) (arrivals : List Arrival) :
    store.insertEach arrivals = .ok (store.insertedEach arrivals) := by
  induction arrivals generalizing ledger store with
  | nil => rfl
  | cons arrival later ih =>
    have admits := (related.admits_iff arrival.point.timestamp).mpr (admits_all boundless _)
    unfold Store.insertEach
    rw [List.foldlM_cons, related.sound.insert_eq related.opened, if_pos admits]
    exact ih (related.insert admits)

end Ledger

namespace Store

/-- Without limits a store takes all points of a list for different cells, in whatever state it is.
Every permutation of the list leads to one and the same store, with the points in their cells. -/
theorem arrival_order_is_forgotten {config : StoreConfig} (valid : config.validate = .ok ())
    (boundless : config.Boundless) : ∃ store, create config = .ok store ∧
      ∀ (actions : List StoreAction) (arrivals : List Arrival),
        (arrivals.map Arrival.cell).Nodup → ∃ next, TookIn arrivals (store.run actions) next ∧
          ∀ order, order.Perm arrivals → (store.run actions).insertEach order = .ok next := by
  obtain ⟨store, created⟩ := create_of_valid valid
  refine ⟨store, created, ?_⟩
  intro actions arrivals distinct
  have related := Ledger.related_run created actions
  refine ⟨_, related.sound.tookIn distinct, ?_⟩
  intro order moved
  rw [related.insertEach_eq boundless, related.sound.insertedEach_perm moved.symm distinct]

def tenWide : StoreConfig where
  duration := 10

def tenWideStore : Store where
  duration := 10
  writable := none
  kept := none
  window := ⟨{}, none⟩

theorem ten_wide_created : create tenWide = .ok tenWideStore :=
  rfl

def scattered : List Arrival :=
  [⟨"s", ⟨Ranged.clamp 9, .int32 (Ranged.clamp 1)⟩⟩,
    ⟨"s", ⟨Ranged.clamp 31, .int32 (Ranged.clamp 2)⟩⟩,
    ⟨"s", ⟨Ranged.clamp (-1), .int32 (Ranged.clamp 3)⟩⟩,
    ⟨"t", ⟨Ranged.clamp 12, .int32 (Ranged.clamp 4)⟩⟩]

theorem middle_slot_first_or_last : ∃ next,
    (tenWideStore.run [.insert "s" ⟨Ranged.clamp 5, .boolean true⟩]).insertEach scattered =
      .ok next ∧
    (tenWideStore.run [.insert "s" ⟨Ranged.clamp 5, .boolean true⟩]).insertEach
      scattered.reverse = .ok next ∧
    next.valueAt "t" (Ranged.clamp 12) = some (.int32 (Ranged.clamp 4)) := by
  have boundless : tenWide.Boundless := ⟨rfl, rfl, rfl, rfl⟩
  obtain ⟨store, created, takes⟩ := arrival_order_is_forgotten (by decide) boundless
  have same : store = tenWideStore := Except.ok.inj (created.symm.trans ten_wide_created)
  subst same
  obtain ⟨next, tookIn, reaches⟩ :=
    takes [.insert "s" ⟨Ranged.clamp 5, .boolean true⟩] scattered (by decide)
  refine ⟨next, ?_, ?_, ?_⟩
  · exact reaches scattered (List.Perm.refl _)
  · exact reaches scattered.reverse (List.reverse_perm _)
  · exact tookIn.held ⟨"t", ⟨Ranged.clamp 12, .int32 (Ranged.clamp 4)⟩⟩ (by simp [scattered])

end Store

end TimeSeries
