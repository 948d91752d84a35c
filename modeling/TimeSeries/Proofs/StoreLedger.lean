import Mathlib.Data.Finset.Card
import Mathlib.Data.Finset.Filter
import Mathlib.Data.Finset.Insert
import Mathlib.Data.List.Induction
import TimeSeries.Proofs.StoreLimits

/-! A ledger of all that a store has accepted: the newest timestamp, every slot ever used and one
map from series and timestamps to values. Sweeps do not touch these. The store answers every
sequence of actions as the ledger says, although it forgets the slots it has swept. -/

namespace TimeSeries

inductive StoreAction where
  | insert (name : String) (point : Point)
  | select (name : String) (start stop : Timestamp)
  | delete (name : String) (stop : Timestamp)
  | remove (name : String)
  | sweep

inductive StoreAnswer where
  | done
  | points (points : List Point)
  | count (count : Nat)

namespace Store

def perform (store : Store) : StoreAction → Except StoreFailure StoreAnswer × Store
  | .insert name point =>
    match store.insert name point with
    | .ok next => (.ok .done, next)
    | .error error => (.error (.refused error), store)
  | .select name start stop => ((store.select name start stop).map .points, store)
  | .delete name stop =>
    match store.delete name stop with
    | .ok (count, next) => (.ok (.count count), next)
    | .error error => (.error (.refused error), store)
  | .remove name =>
    match store.remove name with
    | .ok (count, next) => (.ok (.count count), next)
    | .error error => (.error (.refused error), store)
  | .sweep => (.ok .done, store.sweep)

def run (store : Store) (actions : List StoreAction) : Store :=
  actions.foldl (fun store action => (store.perform action).2) store

end Store

structure Ledger where
  newest : Option Timestamp := none
  slots : Finset Slot := ∅
  /-- The slots that no sweep has dropped. Only the counts that deletions report depend on them. -/
  held : Finset Slot := ∅
  value : String → Timestamp → Option Value := fun _ _ => none

namespace Ledger

variable (config : StoreConfig) (ledger : Ledger)

def past : Option Nat :=
  (config.bounds.bind Tolerance.past).or (config.writable.map (· * config.duration.toNat))

def future : Option Nat :=
  config.bounds.bind Tolerance.future

def newer (slot : Slot) : Finset Slot :=
  ledger.slots.filter fun other => slot.last < other.first

/-- A timestamp is admitted if it lies in the window around the newest one and few enough slots
are newer than its own. -/
def Admits (timestamp : Timestamp) : Prop :=
  (∀ newest ∈ ledger.newest,
    InsertWindow.Allows (future config) (timestamp.val - newest.val) ∧
      InsertWindow.Allows (past config) (newest.val - timestamp.val)) ∧
    ∀ writable ∈ config.writable,
      (ledger.newer (Slot.around timestamp config.duration)).card < writable

instance (timestamp : Timestamp) : Decidable (ledger.Admits config timestamp) :=
  inferInstanceAs (Decidable ((∀ newest ∈ ledger.newest, _) ∧ ∀ writable ∈ config.writable, _))

def Visible (slot : Slot) : Prop :=
  ∀ kept ∈ config.kept, (ledger.newer slot).card < kept

instance (slot : Slot) : Decidable (ledger.Visible config slot) :=
  inferInstanceAs (Decidable (∀ kept ∈ config.kept, _))

def record (name : String) (point : Point) : Ledger where
  newest := some (InsertWindow.latest ledger.newest point.timestamp)
  slots := insert (Slot.around point.timestamp config.duration) ledger.slots
  held := insert (Slot.around point.timestamp config.duration) ledger.held
  value := fun other timestamp =>
    if other = name ∧ timestamp = point.timestamp then some point.value
    else ledger.value other timestamp

def forget (name : String) (unwanted : Timestamp → Bool) : Ledger :=
  { ledger with
    value := fun other timestamp =>
      if other = name ∧ unwanted timestamp then none else ledger.value other timestamp }

def after : StoreAction → Ledger
  | .insert name point =>
    if ledger.Admits config point.timestamp then ledger.record config name point else ledger
  | .select _ _ _ => ledger
  | .delete name stop => ledger.forget name fun timestamp => timestamp ≤ stop
  | .remove name => ledger.forget name fun _ => true
  | .sweep => { ledger with held := ledger.held.filter (ledger.Visible config) }

def run (actions : List StoreAction) : Ledger :=
  actions.foldl (fun ledger action => ledger.after config action) {}

def Lists (points : List Point) (wanted : Point → Prop) : Prop :=
  Keyed.Ascending points ∧ ∀ point, point ∈ points ↔ wanted point

def Records (name : String) (point : Point) : Prop :=
  ledger.value name point.timestamp = some point.value

/-- What an action is answered. Deletion counts what is dropped from the slots still held. -/
def Answers : StoreAction → Except StoreFailure StoreAnswer → Prop
  | .insert _ point, answer =>
    answer =
      if ledger.Admits config point.timestamp then .ok .done else .error (.refused .outOfBounds)
  | .select name start stop, answer =>
    start ≤ stop → ∃ points, answer = .ok (.points points) ∧ Lists points fun point =>
      ledger.Records name point ∧ point.between start stop ∧
        ledger.Visible config (Slot.around point.timestamp config.duration)
  | .delete name stop, answer =>
    ∃ gone, answer = .ok (.count gone.length) ∧ Lists gone fun point =>
      ledger.Records name point ∧ point.timestamp ≤ stop ∧
        Slot.around point.timestamp config.duration ∈ ledger.held
  | .remove name, answer =>
    ∃ gone, answer = .ok (.count gone.length) ∧ Lists gone fun point =>
      ledger.Records name point ∧ Slot.around point.timestamp config.duration ∈ ledger.held
  | .sweep, answer => answer = .ok .done

/-- How a store relates to the ledger of what it has accepted. The slots it has lost are older than
all that it holds, and it holds as many as are to be kept. -/
structure Related (store : Store) : Prop where
  sound : store.Sound
  opened : store.closed = false
  duration : store.duration = config.duration
  writable : store.writable = config.writable
  kept : store.kept = config.kept
  future : ∀ distance, InsertWindow.Allows store.window.tolerance.future distance ↔
    InsertWindow.Allows (Ledger.future config) distance
  past : ∀ distance, InsertWindow.Allows store.window.tolerance.past distance ↔
    InsertWindow.Allows (Ledger.past config) distance
  newest : store.window.newest = ledger.newest
  aligned : ∀ slot ∈ ledger.slots, ∃ timestamp, slot = Slot.around timestamp config.duration
  held : ∀ slot, slot ∈ store.slots ↔ slot ∈ ledger.held
  used : ledger.held ⊆ ledger.slots
  lost : ∀ slot ∈ ledger.slots, slot ∉ store.slots →
    (∀ partition ∈ store.partitions, slot.last < partition.slot.first) ∧
      ∃ kept ∈ store.kept, kept ≤ store.partitions.length
  recorded : ∀ name point, ledger.Records name point →
    Slot.around point.timestamp config.duration ∈ ledger.slots
  contents : ∀ name point, point ∈ store.pointsOf name ↔
    ledger.Records name point ∧ Slot.around point.timestamp config.duration ∈ store.slots

/-! ### Counting newer slots -/

section Newer

variable {config : StoreConfig} {ledger : Ledger} {store : Store}
  (related : ledger.Related config store)

def heldNewer (store : Store) (slot : Slot) : Finset Slot :=
  (store.slots.filter fun other => slot.last < other.first).toFinset

include related

theorem Related.card_heldNewer (slot : Slot) : (heldNewer store slot).card =
    store.partitions.countP fun partition => slot.last < partition.slot.first := by
  have distinct : store.slots.Nodup := by
    refine List.pairwise_map.mpr (List.Pairwise.imp_of_mem ?_ related.sound.sorted)
    intro first second firstMember _ before same
    have width := related.sound.first_le_last firstMember
    rw [same] at before width
    exact Ranged.not_lt.mpr width before
  unfold heldNewer
  rw [List.toFinset_card_of_nodup (distinct.filter _), ← List.countP_eq_length_filter, Store.slots,
    List.countP_map]
  rfl

theorem Related.newer_eq (timestamp : Timestamp) : store.newer timestamp =
    (heldNewer store (Slot.around timestamp config.duration)).card := by
  rw [related.card_heldNewer]
  apply List.countP_congr
  intro partition member
  obtain ⟨origin, shape⟩ := (related.sound.partitions partition member).aligned
  rw [related.duration] at shape
  rw [decide_eq_true_eq, decide_eq_true_eq, shape]
  constructor
  · exact Slot.last_lt_first_of_before
  · intro before
    have inside := Slot.holds_iff.mp (Slot.holds_around timestamp config.duration)
    exact Int.lt_of_le_of_lt inside.2 before

theorem Related.slots_used {slot : Slot} (member : slot ∈ store.slots) : slot ∈ ledger.slots :=
  related.used ((related.held slot).mp member)

theorem Related.heldNewer_subset (slot : Slot) : heldNewer store slot ⊆ ledger.newer slot := by
  intro other member
  obtain ⟨member, later⟩ := List.mem_filter.mp (List.mem_toFinset.mp member)
  exact Finset.mem_filter.mpr ⟨related.slots_used member, of_decide_eq_true later⟩

/-- If a newer slot is lost, all partitions held are newer still. -/
theorem Related.heldNewer_cases (slot : Slot) : heldNewer store slot = ledger.newer slot ∨
    ∃ kept ∈ store.kept, kept ≤ (heldNewer store slot).card := by
  by_cases complete : ∀ other ∈ ledger.newer slot, other ∈ store.slots
  · left
    apply Finset.Subset.antisymm (related.heldNewer_subset slot)
    intro other member
    have later := (Finset.mem_filter.mp member).2
    exact List.mem_toFinset.mpr (List.mem_filter.mpr ⟨complete other member, decide_eq_true later⟩)
  · right
    push Not at complete
    obtain ⟨other, member, missing⟩ := complete
    obtain ⟨used, later⟩ := Finset.mem_filter.mp member
    obtain ⟨older, kept, limit, enough⟩ := related.lost other used missing
    obtain ⟨origin, shape⟩ := related.aligned other used
    refine ⟨kept, limit, ?_⟩
    rw [related.card_heldNewer, List.countP_eq_length.mpr]
    · exact enough
    · intro partition held
      have follows := older partition held
      have width : other.first ≤ other.last := shape ▸ Slot.first_le_last
      rw [decide_eq_true_eq]
      simp only [Ranged.le_iff, Ranged.lt_iff] at *
      omega

/-- Up to the number of slots kept, the partitions held count like all slots ever used. -/
theorem Related.card_lt_iff (slot : Slot) {limit : Nat} (few : ∀ kept ∈ store.kept, limit ≤ kept) :
    (heldNewer store slot).card < limit ↔ (ledger.newer slot).card < limit := by
  rcases related.heldNewer_cases slot with same | ⟨kept, limited, enough⟩
  · rw [same]
  · have atMost := few kept limited
    have more := Finset.card_le_card (related.heldNewer_subset slot)
    omega

theorem Related.admits_iff (timestamp : Timestamp) :
    store.Admits timestamp ↔ ledger.Admits config timestamp := by
  have windows : store.accepts timestamp = true ↔ ∀ newest ∈ ledger.newest,
      InsertWindow.Allows (Ledger.future config) (timestamp.val - newest.val) ∧
        InsertWindow.Allows (Ledger.past config) (newest.val - timestamp.val) := by
    unfold Store.accepts
    simp only [InsertWindow.contains_iff, related.future, related.past, related.newest]
  have counts : (∀ writable ∈ store.writable, store.newer timestamp < writable) ↔
      ∀ writable ∈ config.writable,
        (ledger.newer (Slot.around timestamp config.duration)).card < writable := by
    rw [related.writable, related.newer_eq]
    refine forall₂_congr fun writable limited => related.card_lt_iff _ ?_
    intro kept given
    obtain ⟨other, otherLimited, below⟩ := related.sound.writable kept given
    rw [related.writable] at otherLimited
    exact Option.mem_unique otherLimited limited ▸ below
  exact and_congr windows counts

/-- Lost slots lie before all that is still admitted, so none of them is ever written again. -/
theorem Related.lost_before {timestamp : Timestamp} (admits : store.Admits timestamp) {slot : Slot}
    (used : slot ∈ ledger.slots) (missing : slot ∉ store.slots) : slot.last < timestamp := by
  obtain ⟨older, kept, limit, enough⟩ := related.lost slot used missing
  obtain ⟨writable, limited, below⟩ := related.sound.writable kept limit
  have few := admits.2 writable limited
  by_contra reaches
  have all : store.newer timestamp = store.partitions.length := by
    refine List.countP_eq_length.mpr fun partition held => ?_
    have follows := older partition held
    rw [decide_eq_true_eq]
    simp only [Ranged.lt_iff] at *
    omega
  omega

theorem Related.visible_iff (slot : Slot) :
    (∀ kept ∈ store.kept, (heldNewer store slot).card < kept) ↔ ledger.Visible config slot := by
  unfold Visible
  rw [← related.kept]
  refine forall₂_congr fun kept limited => related.card_lt_iff slot ?_
  intro other given
  exact (Option.mem_unique given limited).ge

theorem Related.mem_slots_sweep {slot : Slot} : slot ∈ store.sweep.slots ↔
    slot ∈ store.slots ∧ ledger.Visible config slot := by
  have rank (partition : Partition) : partition ∈ store.visible ↔
      partition ∈ store.partitions ∧ ledger.Visible config partition.slot := by
    rw [related.sound.mem_visible, ← related.visible_iff, related.card_heldNewer]
  constructor
  · intro seen
    obtain ⟨partition, member, rfl⟩ := List.mem_map.mp seen
    obtain ⟨held, visible⟩ := (rank partition).mp member
    exact ⟨List.mem_map_of_mem held, visible⟩
  · rintro ⟨held, visible⟩
    obtain ⟨partition, member, rfl⟩ := List.mem_map.mp held
    exact List.mem_map_of_mem ((rank partition).mpr ⟨member, visible⟩)

theorem Related.mem_slots_of_visible {slot : Slot} (used : slot ∈ ledger.slots)
    (visible : ledger.Visible config slot) : slot ∈ store.slots := by
  by_contra missing
  obtain ⟨older, kept, limit, enough⟩ := related.lost slot used missing
  have few := (related.visible_iff slot).mpr visible kept limit
  rw [related.card_heldNewer, List.countP_eq_length.mpr] at few
  · omega
  · intro partition member
    exact decide_eq_true (older partition member)

end Newer

/-! ### Every action keeps store and ledger related -/

section Step

variable {config : StoreConfig} {ledger : Ledger} {store : Store}

theorem related_create (created : Store.create config = .ok store) : Related config {} store := by
  have sound := Store.sound_create created
  obtain ⟨valid, window, computed, rfl⟩ := Store.create_ok created
  have width := (StoreConfig.validate_ok valid).2.2.1
  have stretch := StoreConfig.writableWindow_allows width computed
  have future (distance : Int) : InsertWindow.Allows (config.tolerance window).future distance ↔
      InsertWindow.Allows (Ledger.future config) distance := by
    unfold StoreConfig.tolerance Ledger.future
    cases config.bounds <;> rfl
  have past (distance : Int) : InsertWindow.Allows (config.tolerance window).past distance ↔
      InsertWindow.Allows (Ledger.past config) distance := by
    unfold StoreConfig.tolerance Ledger.past
    cases config.bounds with
    | none => exact stretch distance
    | some bounds =>
      cases given : bounds.past with
      | none => simpa [given] using stretch distance
      | some limit => simp [given]
  exact {
    sound, future, past
    opened := rfl
    duration := rfl
    writable := rfl
    kept := rfl
    newest := rfl
    aligned := by simp
    held := by simp [Store.slots]
    used := Finset.Subset.refl _
    lost := by simp
    recorded := by simp [Records]
    contents := by simp [Store.pointsOf, Records] }

section Insert

variable (related : Related config ledger store) {name : String} {point : Point}
  (admits : store.Admits point.timestamp)

include related

theorem Related.mem_slots_inserted {slot : Slot} : slot ∈ (store.inserted name point).slots ↔
    slot = Slot.around point.timestamp config.duration ∨ slot ∈ store.slots := by
  rw [related.sound.mem_slots_inserted, related.duration]

omit related in
theorem mem_slots_record {slot : Slot} : slot ∈ (ledger.record config name point).slots ↔
    slot = Slot.around point.timestamp config.duration ∨ slot ∈ ledger.slots :=
  Finset.mem_insert

include admits

theorem Related.lost_inserted {slot : Slot} (used : slot ∈ (ledger.record config name point).slots)
    (missing : slot ∉ (store.inserted name point).slots) :
    (∀ partition ∈ (store.inserted name point).partitions, slot.last < partition.slot.first) ∧
      ∃ kept ∈ store.kept, kept ≤ (store.inserted name point).partitions.length := by
  have sound := related.sound
  rw [related.mem_slots_inserted, not_or] at missing
  have old := (mem_slots_record.mp used).resolve_left missing.1
  have before := related.lost_before admits old missing.2
  obtain ⟨older, kept, limit, enough⟩ := related.lost slot old missing.2
  have longer : store.partitions.length ≤ (store.inserted name point).partitions.length := by
    have single := Option.length_toList_le (o := (store.locate point.timestamp).1)
    rw [Store.inserted_partitions, (sound.located point.timestamp).split]
    simp only [List.length_append, List.length_cons]
    omega
  refine ⟨?_, kept, limit, enough.trans longer⟩
  intro partition member
  rcases sound.mem_inserted point member with rfl | member
  · obtain ⟨origin, shape⟩ := related.aligned slot old
    have starts : slot.last < (Slot.around point.timestamp config.duration).first := by
      rw [shape] at before ⊢
      exact Slot.last_lt_first before
    rw [← related.duration, ← (sound.target_sound point.timestamp).2] at starts
    exact starts
  · exact older partition member

theorem Related.mem_slots_of_moved {other : String} {one : Point}
    (recorded : ledger.Records other one)
    (moved : Slot.around one.timestamp config.duration =
      Slot.around point.timestamp config.duration) :
    Slot.around one.timestamp config.duration ∈ store.slots := by
  by_contra missing
  have gone := related.lost_before admits (related.recorded other one recorded) missing
  have inside := Slot.holds_iff.mp (Slot.holds_around point.timestamp config.duration)
  rw [moved] at gone
  exact Ranged.not_lt.mpr inside.2 gone

theorem Related.contents_inserted (other : String) (one : Point) :
    one ∈ (store.inserted name point).pointsOf other ↔
      (ledger.record config name point).Records other one ∧
        Slot.around one.timestamp config.duration ∈ (store.inserted name point).slots := by
  have elsewhere (apart : ¬(other = name ∧ one.timestamp = point.timestamp)) :
      one ∈ store.pointsOf other ↔ (ledger.record config name point).Records other one ∧
        (Slot.around one.timestamp config.duration =
            Slot.around point.timestamp config.duration ∨
          Slot.around one.timestamp config.duration ∈ store.slots) := by
    rw [related.contents]
    simp only [Records, record, if_neg apart]
    constructor
    · rintro ⟨recorded, held⟩
      exact ⟨recorded, .inr held⟩
    · rintro ⟨recorded, moved | held⟩
      · exact ⟨recorded, related.mem_slots_of_moved admits recorded moved⟩
      · exact ⟨recorded, held⟩
  rw [related.sound.pointsOf_inserted, related.mem_slots_inserted]
  split
  next named =>
    subst named
    rw [Keyed.mem_place (related.sound.pointsOf_ordered name)]
    change one = point ∨ one ∈ _ ∧ one.timestamp ≠ point.timestamp ↔ _
    by_cases same : one.timestamp = point.timestamp
    · simp [Records, record, same, Point.eq_iff, eq_comm]
    · have different : one ≠ point := fun equal => same (equal ▸ rfl)
      rw [← elsewhere fun both => same both.2]
      simp [different, same]
  next named => exact elsewhere fun both => named both.1.symm

theorem Related.insert :
    Related config (ledger.record config name point) (store.inserted name point) where
  sound := related.sound.inserted point
  opened := related.opened
  duration := related.duration
  writable := related.writable
  kept := related.kept
  future := by simpa [Store.inserted] using related.future
  past := by simpa [Store.inserted] using related.past
  newest := by simp [Store.inserted, record, related.newest]
  aligned := by
    intro slot member
    rcases mem_slots_record.mp member with rfl | member
    · exact ⟨point.timestamp, rfl⟩
    · exact related.aligned slot member
  held := by
    intro slot
    rw [related.mem_slots_inserted, related.held]
    exact Finset.mem_insert.symm
  used := Finset.insert_subset_insert _ related.used
  lost := fun _ used missing => related.lost_inserted admits used missing
  recorded := by
    intro other one recorded
    rw [mem_slots_record]
    by_cases same : other = name ∧ one.timestamp = point.timestamp
    · left
      rw [same.2]
    · right
      apply related.recorded other one
      simpa [Records, record, same] using recorded
  contents := related.contents_inserted admits

end Insert

variable (related : Related config ledger store)

include related

theorem Related.forget {name : String} {unwanted : Timestamp → Bool} {partitions : List Partition}
    (sound : Store.Sound { store with partitions })
    (slots : partitions.map Partition.slot = store.slots)
    (points : ∀ other, Store.pointsOf { store with partitions } other = if name = other then
      (store.pointsOf other).filter (fun point => !unwanted point.timestamp)
      else store.pointsOf other) :
    Related config (ledger.forget name unwanted) { store with partitions } := by
  have same : Store.slots { store with partitions } = store.slots := slots
  have records (other : String) (point : Point) :
      (ledger.forget name unwanted).Records other point ↔
        ¬(other = name ∧ unwanted point.timestamp = true) ∧ ledger.Records other point := by
    by_cases both : other = name ∧ unwanted point.timestamp = true
    · simp [Records, Ledger.forget, both]
    · simp [Records, Ledger.forget, both]
  refine { related with sound, held := ?_, lost := ?_, recorded := ?_, contents := ?_ }
  · rw [same]
    exact related.held
  · intro slot used missing
    rw [same] at missing
    obtain ⟨older, kept, limit, enough⟩ := related.lost slot used missing
    refine ⟨?_, kept, limit, ?_⟩
    · intro partition member
      have held : partition.slot ∈ store.slots := slots ▸ List.mem_map_of_mem member
      obtain ⟨before, member, equal⟩ := List.mem_map.mp held
      rw [← equal]
      exact older before member
    · have lengths := congrArg List.length slots
      simp only [Store.slots, List.length_map] at lengths
      exact lengths ▸ enough
  · intro other point recorded
    exact related.recorded other point ((records other point).mp recorded).2
  · intro other point
    rw [points, same, records]
    split
    next named =>
      rw [List.mem_filter, related.contents]
      simp [named, and_comm, and_assoc]
    next named =>
      rw [related.contents]
      simp [Ne.symm named]

theorem Related.lost_swept {slot : Slot} (used : slot ∈ ledger.slots)
    (missing : slot ∉ store.sweep.slots) :
    (∀ partition ∈ store.sweep.partitions, slot.last < partition.slot.first) ∧
      ∃ kept ∈ store.kept, kept ≤ store.sweep.partitions.length := by
  have split : store.partitions.take store.expired ++ store.sweep.partitions = store.partitions :=
    List.take_append_drop _ _
  have length : store.sweep.partitions.length = store.partitions.length - store.expired :=
    List.length_drop
  by_cases before : slot ∈ store.slots
  · unfold Store.slots at before missing
    rw [← split, List.map_append, List.mem_append] at before
    obtain ⟨partition, member, equal⟩ := List.mem_map.mp (before.resolve_right missing)
    have across := (List.pairwise_append.mp (split.symm ▸ related.sound.sorted)).2.2
    refine ⟨fun later held => equal ▸ across partition member later held, ?_⟩
    have positive : 0 < store.expired := by
      have some_taken := List.length_pos_of_mem member
      rw [List.length_take] at some_taken
      omega
    unfold Store.expired at positive length
    cases limit : store.kept with
    | none => simp [limit] at positive
    | some kept =>
      rw [limit] at positive length
      dsimp only at positive length
      exact ⟨kept, rfl, by omega⟩
  · obtain ⟨older, kept, limit, enough⟩ := related.lost slot used before
    refine ⟨fun partition member => older partition (Store.sweep_sublist.subset member), kept,
      limit, ?_⟩
    unfold Store.expired at length
    rw [Option.mem_def.mp limit] at length
    dsimp only at length
    omega

theorem Related.sweep : Related config (ledger.after config .sweep) store.sweep where
  __ := related
  sound := related.sound.sweep
  held := by
    intro slot
    rw [related.mem_slots_sweep, related.held]
    exact Finset.mem_filter.symm
  used := (Finset.filter_subset _ _).trans related.used
  lost := fun _ used missing => related.lost_swept used missing
  contents := by
    intro name point
    change point ∈ store.visiblePointsOf name ↔ ledger.Records name point ∧ _
    rw [related.sound.mem_visiblePointsOf, related.contents, related.duration,
      related.mem_slots_sweep]
    tauto

theorem Related.after (action : StoreAction) :
    Related config (ledger.after config action) (store.perform action).2 := by
  have sound := related.sound
  cases action with
  | insert name point =>
    simp only [Store.perform, Ledger.after, sound.insert_eq related.opened]
    by_cases admits : store.Admits point.timestamp
    · rw [if_pos admits, if_pos ((related.admits_iff point.timestamp).mp admits)]
      exact related.insert admits
    · rw [if_neg admits, if_neg fun allowed => admits ((related.admits_iff _).mpr allowed)]
      exact related
  | select name start stop => exact related
  | delete name stop =>
    simp only [Store.perform, sound.delete_eq related.opened]
    refine related.forget (sound.deleted stop) ?_ ?_
    · simp [Store.slots, Function.comp_def, Partition.dropUpTo_slot]
    · intro other
      rw [Point.not_upTo]
      exact sound.pointsOf_deleted stop other
  | remove name =>
    simp only [Store.perform, Store.remove_eq related.opened]
    refine related.forget sound.removed ?_ ?_
    · simp [Store.slots, Function.comp_def, Partition.remove]
    · intro other
      change (store.removed name).pointsOf other = _
      simpa using Store.pointsOf_removed other
  | sweep => exact related.sweep

theorem Related.answers (action : StoreAction) :
    ledger.Answers config action (store.perform action).1 := by
  have sound := related.sound
  cases action with
  | insert name point =>
    simp only [Store.perform, Answers, sound.insert_eq related.opened]
    by_cases admits : store.Admits point.timestamp
    · rw [if_pos admits, if_pos ((related.admits_iff point.timestamp).mp admits)]
    · rw [if_neg admits, if_neg fun allowed => admits ((related.admits_iff _).mpr allowed)]
  | select name start stop =>
    intro forward
    refine ⟨(store.visiblePointsOf name).filter (Point.between start stop), ?_, ?_, ?_⟩
    · simp only [Store.perform, sound.select_eq related.opened name forward]
      rfl
    · exact (sound.sweep.pointsOf_ordered name).sublist List.filter_sublist
    · intro point
      rw [List.mem_filter, sound.mem_visiblePointsOf, related.contents, related.duration]
      rw [related.mem_slots_sweep]
      constructor
      · rintro ⟨⟨⟨recorded, _⟩, _, visible⟩, inside⟩
        exact ⟨recorded, inside, visible⟩
      · rintro ⟨recorded, inside, visible⟩
        have used := related.recorded name point recorded
        have held := related.mem_slots_of_visible used visible
        exact ⟨⟨⟨recorded, held⟩, held, visible⟩, inside⟩
  | delete name stop =>
    refine ⟨(store.pointsOf name).filter fun point => point.timestamp ≤ stop, ?_, ?_, ?_⟩
    · simp only [Store.perform, sound.delete_eq related.opened, List.countP_eq_length_filter]
    · exact (sound.pointsOf_ordered name).sublist List.filter_sublist
    · intro point
      rw [List.mem_filter, related.contents, decide_eq_true_eq, related.held]
      tauto
  | remove name =>
    refine ⟨store.pointsOf name, ?_, sound.pointsOf_ordered name, ?_⟩
    · simp only [Store.perform, Store.remove_eq related.opened]
    · intro point
      rw [related.contents, related.held]
  | sweep => rfl

end Step

theorem related_run {config : StoreConfig} {store : Store}
    (created : Store.create config = .ok store) (actions : List StoreAction) :
    Related config (run config actions) (store.run actions) := by
  induction actions using List.reverseRecOn with
  | nil => exact related_create created
  | append_singleton earlier action ih =>
    unfold run Store.run
    rw [List.foldl_concat, List.foldl_concat]
    exact ih.after action

end Ledger

def coldConfig : StoreConfig where
  duration := 10
  hot := some 1
  kept := some 2

def coldActions : List StoreAction :=
  [.insert "s" ⟨Ranged.clamp 5, .int32 (Ranged.clamp 1)⟩,
    .insert "s" ⟨Ranged.clamp 25, .int32 (Ranged.clamp 2)⟩,
    .insert "s" ⟨Ranged.clamp 31, .int32 (Ranged.clamp 3)⟩, .sweep]

/-- Every valid configuration opens a store, and that store answers every action after all others
as its ledger says. -/
theorem store_answers_as_ledger (config : StoreConfig) (valid : config.validate = .ok ()) :
    ∃ store, Store.create config = .ok store ∧
      ∀ (actions : List StoreAction) (action : StoreAction),
        (Ledger.run config actions).Answers config action
          ((store.run actions).perform action).1 := by
  obtain ⟨store, created⟩ := Store.create_of_valid valid
  refine ⟨store, created, fun actions action => ?_⟩
  exact (Ledger.related_run created actions).answers action

/-- With one writable slot, a point inside the insert window is refused when its slot is no longer
the newest, and it stays refused after a sweep. -/
theorem store_refuses_cold_slot :
    ∃ store, Store.create coldConfig = .ok store ∧ ((store.run coldActions).perform
      (.insert "s" ⟨Ranged.clamp 22, .int32 (Ranged.clamp 4)⟩)).1 =
        .error (.refused .outOfBounds) := by
  obtain ⟨store, created, answers⟩ := store_answers_as_ledger coldConfig (by decide)
  have refused : ¬(Ledger.run coldConfig coldActions).Admits coldConfig (Ranged.clamp 22) := by
    decide
  refine ⟨store, created, ?_⟩
  exact (answers coldActions (.insert "s" ⟨Ranged.clamp 22, .int32 (Ranged.clamp 4)⟩)).trans
    (if_neg refused)

end TimeSeries
