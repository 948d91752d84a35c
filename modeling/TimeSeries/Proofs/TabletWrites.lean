import Mathlib.Data.List.Chain
import TimeSeries.Proofs.ServerHistory
import TimeSeries.Proofs.StoreAdmission

/-! What becomes of a tablet that passes the check of its rows. Rows are checked against the insert
window as it was before the tablet. If the window is set, later rows only move it towards rows that
are still to come, so a refusal can only meet the first point and leaves the store alone. If no
point was ever written, the first row sets the window, and a later row that lies too far after the
row before it is refused when those before it are already stored. -/

namespace TimeSeries

/-- Some row lies further after the row before it than a limit allows. -/
def Tablet.Outruns (future : Option Nat) (rows : List TabletRow) : Prop :=
  ∃ before earlier later after, rows = before ++ earlier :: later :: after ∧
    ¬InsertWindow.Allows future (later.timestamp.val - earlier.timestamp.val)

theorem Tablet.not_outruns_iff {future : Option Nat} {rows : List TabletRow} :
    ¬Outruns future rows ↔
      (rows.map TabletRow.timestamp).IsChain (InsertWindow.Follows future) := by
  rw [List.isChain_map, List.isChain_iff_forall_rel_of_append_cons_cons]
  constructor
  · intro steady earlier later before after shape
    by_contra leaps
    exact steady ⟨before, earlier, later, after, shape, leaps⟩
  · rintro steady ⟨before, earlier, later, after, shape, leaps⟩
    exact leaps (steady shape)

namespace Server

/-- With the window set, points in the order of time that it takes are all admitted, unless the
first meets the limit on newer slots. -/
theorem admitted_of_set {points : List AddressedPoint} {store : Store} {newest bound : Timestamp}
    (sound : store.Sound) (set : store.window.newest = some newest) (fresh : store.Fresh bound)
    (ordered : (bound :: times points).Pairwise (· ≤ ·))
    (accepted : ∀ timestamp ∈ times points, store.accepts timestamp = true) :
    admitted points store = points := by
  induction points generalizing store newest bound with
  | nil => rfl
  | cons addressed rest ih =>
    obtain ⟨above, later⟩ := List.pairwise_cons.mp ordered
    have admits : store.Admits addressed.point.timestamp :=
      ⟨accepted _ List.mem_cons_self, fresh _ (above _ List.mem_cons_self)⟩
    unfold admitted
    rw [if_pos admits, ih (sound.inserted addressed.point) (InsertWindow.update_newest _ _)
      (sound.fresh_inserted admits) later]
    intro timestamp member
    have follows := (List.pairwise_cons.mp later).1 timestamp member
    exact Store.accepts_of_set set follows (accepted timestamp (List.mem_cons_of_mem _ member))

/-- From the newest point on, points in the order of time are all admitted if none leaps. -/
theorem admitted_of_newest {points : List AddressedPoint} {store : Store} {bound : Timestamp}
    (sound : store.Sound) (newest : store.window.newest = some bound) (fresh : store.Fresh bound)
    (ordered : (bound :: times points).Pairwise (· ≤ ·))
    (accepted : ∀ timestamp, bound ≤ timestamp → (store.accepts timestamp = true ↔
      InsertWindow.Follows store.window.tolerance.future bound timestamp)) :
    admitted points store = points ↔
      (bound :: times points).IsChain (InsertWindow.Follows store.window.tolerance.future) := by
  induction points generalizing store bound with
  | nil => simp [admitted, times]
  | cons addressed rest ih =>
    obtain ⟨above, later⟩ := List.pairwise_cons.mp ordered
    have follows := above _ List.mem_cons_self
    change _ ↔ (bound :: addressed.point.timestamp :: times rest).IsChain _
    rw [List.isChain_cons_cons, ← accepted _ follows]
    unfold admitted
    by_cases admits : store.Admits addressed.point.timestamp
    · have ahead : ∀ newest ∈ store.window.newest, newest ≤ addressed.point.timestamp := by
        intro other found
        rw [newest] at found
        cases found
        exact follows
      have latest := Store.newest_inserted addressed.series.text ahead
      have step := ih (sound.inserted addressed.point) latest (sound.fresh_inserted admits) later
        fun timestamp reaches => by
          rw [Store.accepts_after ahead reaches, Store.inserted_tolerance]
      rw [Store.inserted_tolerance] at step
      rw [if_pos admits, List.cons_inj_right, step]
      exact (and_iff_right admits.1).symm
    · have refused : ¬store.accepts addressed.point.timestamp = true :=
        fun taken => admits ⟨taken, fresh _ follows⟩
      rw [if_neg admits]
      simp [refused]

theorem admitted_cases {points : List AddressedPoint} {store : Store} (sound : store.Sound)
    (ordered : (times points).Pairwise (· ≤ ·))
    (accepted : ∀ timestamp ∈ times points, store.accepts timestamp = true) :
    (store.window.newest ≠ none → admitted points store = points ∨ admitted points store = []) ∧
      (store.window.newest = none → (points ≠ [] → admitted points store ≠ []) ∧
        (admitted points store = points ↔
          (times points).IsChain (InsertWindow.Follows store.window.tolerance.future))) := by
  cases points with
  | nil => simp [admitted, times]
  | cons addressed rest =>
    have later : (addressed.point.timestamp :: times rest).Pairwise (· ≤ ·) := ordered
    constructor
    · intro set
      obtain ⟨newest, set⟩ := Option.ne_none_iff_exists'.mp set
      by_cases admits : store.Admits addressed.point.timestamp
      · left
        unfold admitted
        rw [if_pos admits, admitted_of_set (sound.inserted addressed.point)
          (InsertWindow.update_newest _ _) (sound.fresh_inserted admits) later]
        intro timestamp member
        have follows := (List.pairwise_cons.mp later).1 timestamp member
        exact Store.accepts_of_set set follows (accepted timestamp (List.mem_cons_of_mem _ member))
      · right
        unfold admitted
        rw [if_neg admits]
    · intro unset
      have admits := sound.admits_of_unset unset addressed.point.timestamp
      have ahead : ∀ newest ∈ store.window.newest, newest ≤ addressed.point.timestamp := by
        simp [unset]
      have latest := Store.newest_inserted addressed.series.text ahead
      have chain := admitted_of_newest (sound.inserted addressed.point) latest
        (sound.fresh_inserted admits) later fun timestamp reaches => by
          rw [Store.accepts_after ahead reaches, Store.inserted_tolerance]
      rw [Store.inserted_tolerance] at chain
      unfold admitted
      rw [if_pos admits, List.cons_inj_right]
      exact ⟨fun _ => List.cons_ne_nil _ _, chain⟩

/-! ### From points to rows -/

section Repetition

variable {α : Type} {related : α → α → Prop} (reflexive : ∀ item, related item item)

include reflexive

theorem isChain_replicate_append (count : Nat) (first : α) (rest : List α) :
    (first :: (List.replicate count first ++ rest)).IsChain related ↔
      (first :: rest).IsChain related := by
  induction count with
  | zero => rfl
  | succ count ih =>
    rw [List.replicate_succ, List.cons_append, List.isChain_cons_cons, ih]
    exact and_iff_right (reflexive first)

/-- Repeating each item as often does not break a chain and mends none. -/
theorem isChain_repeated (count : Nat) (first : α) (items : List α) :
    (first :: items.flatMap (List.replicate (count + 1))).IsChain related ↔
      (first :: items).IsChain related := by
  induction items generalizing first with
  | nil => rfl
  | cons item items ih =>
    rw [List.flatMap_cons, List.replicate_succ, List.cons_append, List.isChain_cons_cons,
      isChain_replicate_append reflexive, ih, List.isChain_cons_cons]

end Repetition

section Rows

variable {registry : Registry} {device : String} {measurements : List String}
  {rows : List TabletRow} {points : List AddressedPoint}

theorem RowsResolved.times_eq (resolved : RowsResolved registry device measurements rows points) :
    times points =
      (rows.map TabletRow.timestamp).flatMap (List.replicate measurements.length) := by
  induction resolved with
  | nil => rfl
  | cons first rest ih =>
    have each := List.map_eq_replicate_iff.mpr first.stamped
    rw [first.length] at each
    unfold times at ih ⊢
    rw [List.map_append, List.map_cons, List.flatMap_cons, each, ih]

theorem RowsResolved.filled (resolved : RowsResolved registry device measurements rows points)
    (some_row : rows ≠ []) : ∃ count, measurements.length = count + 1 := by
  cases resolved with
  | nil => exact absurd rfl some_row
  | cons first rest =>
    exact Nat.exists_eq_succ_of_ne_zero (mt List.length_eq_zero_iff.mp first.filled)

theorem RowsResolved.mem_times (resolved : RowsResolved registry device measurements rows points)
    {timestamp : Timestamp} (member : timestamp ∈ times points) :
    ∃ row ∈ rows, row.timestamp = timestamp := by
  rw [resolved.times_eq] at member
  obtain ⟨time, listed, repeated⟩ := List.mem_flatMap.mp member
  rw [List.eq_of_mem_replicate repeated]
  exact List.mem_map.mp listed

theorem RowsResolved.ordered (resolved : RowsResolved registry device measurements rows points)
    (sorted : rows.Pairwise fun first second => first.timestamp ≤ second.timestamp) :
    (times points).Pairwise (· ≤ ·) := by
  rw [resolved.times_eq, List.pairwise_flatMap]
  constructor
  · intro timestamp _
    exact List.pairwise_replicate.mpr (.inr (Int.le_refl _))
  · rw [List.pairwise_map]
    refine sorted.imp fun {first second} before one oneMember other otherMember => ?_
    rw [List.eq_of_mem_replicate oneMember, List.eq_of_mem_replicate otherMember]
    exact before

theorem RowsResolved.isChain_iff (resolved : RowsResolved registry device measurements rows points)
    {related : Timestamp → Timestamp → Prop} (reflexive : ∀ time, related time time) :
    (times points).IsChain related ↔ (rows.map TabletRow.timestamp).IsChain related := by
  rw [resolved.times_eq]
  cases rows with
  | nil => rfl
  | cons row rows =>
    obtain ⟨count, length⟩ := resolved.filled (List.cons_ne_nil _ _)
    rw [length, List.map_cons, List.flatMap_cons, List.replicate_succ, List.cons_append,
      isChain_replicate_append reflexive, isChain_repeated reflexive]

end Rows

theorem admitted_tablet {server : Server} {config : ServerConfig} {tablet : Tablet}
    {points : List AddressedPoint} (under : server.Under config)
    (resolved : server.resolveTablet tablet = .ok points) :
    (server.store.window.newest ≠ none →
        admitted points server.store = points ∨ admitted points server.store = []) ∧
      (server.store.window.newest = none →
        (points ≠ [] → admitted points server.store ≠ []) ∧
          (admitted points server.store = points ↔ ¬Tablet.Outruns
            (config.store.bounds.bind Tolerance.future) tablet.sorted.rows)) := by
  obtain ⟨rows, accepted⟩ := resolveRows_ok resolved
  have cases := admitted_cases under.store.sound (rows.ordered tablet.sorted_ordered)
    fun timestamp member => by
      obtain ⟨row, listed, rfl⟩ := rows.mem_times member
      exact accepted row listed
  rw [rows.isChain_iff (InsertWindow.follows_refl _), under.store.future,
    ← Tablet.not_outruns_iff] at cases
  exact cases

theorem written_set (addressed : AddressedPoint) (rest : List AddressedPoint) (store : Store) :
    (written (addressed :: rest) store).window.newest ≠ none := by
  induction rest generalizing addressed store with
  | nil =>
    intro unset
    exact Option.some_ne_none _ ((InsertWindow.update_newest _ _).symm.trans unset)
  | cons next rest ih => exact ih next (store.inserted addressed.series.text addressed.point)

theorem written_ne {points : List AddressedPoint} {store : Store} (some_point : points ≠ [])
    (unset : store.window.newest = none) : written points store ≠ store := by
  intro same
  obtain ⟨addressed, rest, rfl⟩ := List.exists_cons_of_ne_nil some_point
  have set := written_set addressed rest store
  rw [same] at set
  exact set unset

theorem Under.refused_tablet {server : Server} {config : ServerConfig} (under : server.Under config)
    (id : Nat) (tablet : Tablet) :
    ((∃ error, (server.call id (.insertTablet tablet)).1 = .refused error) →
        (server.call id (.insertTablet tablet)).2.store = server.store) ↔
      ¬(server.Serves id ∧ server.store.window.newest = none ∧
        (∃ points, server.resolveTablet tablet = .ok points) ∧
        Tablet.Outruns (config.store.bounds.bind Tolerance.future) tablet.sorted.rows) := by
  by_cases serves : server.Serves id
  · rw [call_eq serves, handle]
    cases resolved : server.resolveTablet tablet with
    | error error => simp [write]
    | ok points =>
      obtain ⟨set, unset⟩ := admitted_tablet under resolved
      rcases writePoints_cases points under.store.sound (under.opened serves.1) with
        ⟨all, done⟩ | ⟨some_left, timestamp, done⟩
      · have steady (fresh : server.store.window.newest = none) := (unset fresh).2.mp all
        simp only [write, done]
        constructor
        · rintro _ ⟨_, fresh, _, outruns⟩
          exact steady fresh outruns
        · rintro _ ⟨error, refused⟩
          cases refused
      · simp only [write, done]
        cases newest : server.store.window.newest with
        | some newest =>
          have nothing := (set (by simp [newest])).resolve_left some_left
          rw [nothing]
          simp [written]
        | none =>
          obtain ⟨some_written, steady⟩ := unset newest
          have leaps := mt steady.mpr some_left
          have filled : points ≠ [] := by
            rintro rfl
            exact some_left rfl
          constructor
          · intro kept _
            exact written_ne (some_written filled) newest (kept ⟨_, rfl⟩)
          · intro excluded
            exact absurd ⟨serves, rfl, ⟨points, rfl⟩, not_not.mp leaps⟩ excluded
  · rw [call_lost serves]
    simp [serves]

/-! ### A tablet that leaps -/

def strictConfig : ServerConfig where
  store := { bounds := some { future := some 10 } }

def strictServer : Server :=
  { defaultServer with
    store := { defaultServer.store with window := ⟨{ future := some 10 }, none⟩ } }

theorem strict_started : start strictConfig = .ok strictServer :=
  rfl

def leap : Tablet where
  device := "root.plant"
  measurements := ["speed"]
  rows := [⟨Ranged.clamp 0, [.int32 (Ranged.clamp 1)]⟩,
    ⟨Ranged.clamp 1000, [.int32 (Ranged.clamp 2)]⟩]

theorem leap_sorted : leap.sorted = leap :=
  Tablet.sorted_eq (by decide)

/-- A refused tablet leaves the store as it was, with one exception: no point was ever written, all
rows resolve, and some row lies further after the row before it than the limit on the future. -/
theorem refused_tablet_keeps_store_iff {config : ServerConfig} {server : Server}
    (started : start config = .ok server) (actions : List ServerAction) (id : Nat)
    (tablet : Tablet) :
    ((∃ error, ((server.run actions).call id (.insertTablet tablet)).1 = .refused error) →
        ((server.run actions).call id (.insertTablet tablet)).2.store =
          (server.run actions).store) ↔
      ¬((server.run actions).Serves id ∧ (server.run actions).store.window.newest = none ∧
        (∃ points, (server.run actions).resolveTablet tablet = .ok points) ∧
        Tablet.Outruns (config.store.bounds.bind Tolerance.future) tablet.sorted.rows) :=
  ((under_start started).run actions).refused_tablet id tablet

theorem refused_leap_keeps_store :
    ((strictServer.run (declareSpeed ++ [storeSpeed 0 1])).call 1 (.insertTablet leap)).2.store =
      (strictServer.run (declareSpeed ++ [storeSpeed 0 1])).store := by
  apply (refused_tablet_keeps_store_iff strict_started (declareSpeed ++ [storeSpeed 0 1]) 1 leap).mpr
  · rintro ⟨_, unset, _⟩
    exact absurd unset (by decide +kernel)
  · refine ⟨.write (.outOfWindow (Ranged.clamp 1000)), ?_⟩
    rw [call_eq (by decide +kernel)]
    change (write _ (resolveRows _ _ _ leap.sorted.rows)).1 = _
    rw [leap_sorted]
    decide +kernel

/-- On a server without points the first row of a leap is stored, although the tablet is refused. -/
theorem refused_leap_half_written :
    start strictConfig = .ok strictServer ∧
      (∃ error, ((strictServer.run declareSpeed).call 1 (.insertTablet leap)).1 =
        .refused error) ∧
      ((strictServer.run declareSpeed).call 1 (.insertTablet leap)).2.store ≠
        (strictServer.run declareSpeed).store := by
  have serves : (strictServer.run declareSpeed).Serves 1 := by decide +kernel
  rw [call_eq serves]
  change _ ∧ (∃ error, (write _ (resolveRows _ _ _ leap.sorted.rows)).1 = _) ∧
    (write _ (resolveRows _ _ _ leap.sorted.rows)).2.store ≠ _
  rw [leap_sorted]
  refine ⟨strict_started, ⟨.write (.outOfWindow (Ranged.clamp 1000)), ?_⟩, ?_⟩
  · decide +kernel
  · decide +kernel

end Server

end TimeSeries
