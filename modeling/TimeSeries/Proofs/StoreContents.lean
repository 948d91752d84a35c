import Mathlib.Data.List.TakeWhile
import Mathlib.Tactic.Tauto
import TimeSeries.Proofs.PartitionContents
import TimeSeries.Proofs.Traversal
import TimeSeries.Store.Basic

/-! What a store holds of each series, as one list in time order across all partitions. In a sound
store the slots of the partitions follow each other on the grid; insertion places one point in one
of these lists, deletion cuts them, and a forward selection reads them. -/

namespace TimeSeries.Store

variable {store : Store} {name : String}

def pointsOf (store : Store) (name : String) : List Point :=
  store.partitions.flatMap (·.pointsOf name)

def visiblePointsOf (store : Store) (name : String) : List Point :=
  store.visible.flatMap (·.pointsOf name)

def slots (store : Store) : List Slot :=
  store.partitions.map Partition.slot

def newer (store : Store) (timestamp : Timestamp) : Nat :=
  store.partitions.countP fun partition => timestamp < partition.slot.first

/-- Partitions follow each other, none starts after the newest timestamp, and no partition that is
still writable can expire. -/
structure Sound (store : Store) : Prop where
  width : 0 < store.duration
  sorted : store.partitions.Pairwise fun before after => before.slot.last < after.slot.first
  partitions : ∀ partition ∈ store.partitions, partition.Sound store.duration
  reached : ∀ partition ∈ store.partitions, ∃ newest ∈ store.window.newest,
    partition.slot.first ≤ newest
  positive : ∀ writable ∈ store.writable, 0 < writable
  writable : ∀ kept ∈ store.kept, ∃ writable ∈ store.writable, writable ≤ kept

theorem Sound.first_le_last (sound : store.Sound) {partition : Partition}
    (member : partition ∈ store.partitions) : partition.slot.first ≤ partition.slot.last := by
  obtain ⟨timestamp, shape⟩ := (sound.partitions partition member).aligned
  rw [shape]
  exact Slot.first_le_last

theorem Sound.asymmetric (sound : store.Sound) : ∀ first ∈ store.partitions,
    ∀ second ∈ store.partitions, first.slot.last < second.slot.first →
      ¬second.slot.last < first.slot.first := by
  intro first firstMember second secondMember before after
  have firstWidth := sound.first_le_last firstMember
  have secondWidth := sound.first_le_last secondMember
  simp only [Ranged.le_iff, Ranged.lt_iff] at *
  omega

/-- No two partitions hold one timestamp. -/
theorem Sound.eq_of_holds (sound : store.Sound) {first second : Partition} {timestamp : Timestamp}
    (firstMember : first ∈ store.partitions) (secondMember : second ∈ store.partitions)
    (inFirst : first.slot.holds timestamp = true) (inSecond : second.slot.holds timestamp = true) :
    first = second := by
  rw [Slot.holds_iff] at inFirst inSecond
  rcases related_or_eq sound.sorted firstMember secondMember with before | same | after
  · simp only [Ranged.le_iff, Ranged.lt_iff] at *
    omega
  · exact same
  · simp only [Ranged.le_iff, Ranged.lt_iff] at *
    omega

theorem pointsOf_ordered {partitions : List Partition} {duration : Int}
    (sorted : partitions.Pairwise fun before after => before.slot.last < after.slot.first)
    (sound : ∀ partition ∈ partitions, partition.Sound duration) (name : String) :
    Keyed.Ascending (partitions.flatMap (·.pointsOf name)) := by
  refine List.pairwise_flatMap.mpr ⟨?_, ?_⟩
  · intro partition member
    exact (sound partition member).pointsOf_ordered name
  · refine List.Pairwise.imp_of_mem ?_ sorted
    intro first second firstMember secondMember before one oneMember other otherMember
    have left := Slot.holds_iff.mp ((sound first firstMember).pointsOf_inside oneMember)
    have right := Slot.holds_iff.mp ((sound second secondMember).pointsOf_inside otherMember)
    change one.timestamp < other.timestamp
    simp only [Ranged.le_iff, Ranged.lt_iff] at *
    omega

theorem Sound.pointsOf_ordered (sound : store.Sound) (name : String) :
    Keyed.Ascending (store.pointsOf name) :=
  Store.pointsOf_ordered sound.sorted sound.partitions name

/-! ### Where a timestamp goes -/

/-- The partition that takes a point at a timestamp, new if there is none. -/
def target (store : Store) (timestamp : Timestamp) : Partition :=
  (store.locate timestamp).1.getD ⟨Slot.around timestamp store.duration, []⟩

structure Located (store : Store) (timestamp : Timestamp) : Prop where
  split : store.partitions = store.older timestamp ++ (store.locate timestamp).1.toList ++
    (store.locate timestamp).2
  before : ∀ partition ∈ store.older timestamp, partition.slot.last < timestamp
  current : ∀ partition ∈ (store.locate timestamp).1, partition.slot.holds timestamp = true
  after : ∀ partition ∈ (store.locate timestamp).2, timestamp < partition.slot.first

theorem Sound.located (sound : store.Sound) (timestamp : Timestamp) : store.Located timestamp := by
  have whole := List.takeWhile_append_dropWhile
    (p := fun partition : Partition => partition.slot.last < timestamp) (l := store.partitions)
  have before : ∀ partition ∈ store.older timestamp, partition.slot.last < timestamp := by
    intro partition member
    have satisfied := List.mem_takeWhile_imp member
    simpa using satisfied
  have sorted := sound.sorted
  cases rest : store.partitions.dropWhile (fun partition => partition.slot.last < timestamp) with
  | nil =>
    have nothing : store.locate timestamp = (none, []) := by simp [locate, rest]
    refine ⟨?_, before, ?_, ?_⟩ <;> rw [nothing]
    · rw [rest] at whole
      simpa [older] using whole.symm
    · simp
    · simp
  | cons partition newer =>
    rw [rest] at whole
    rw [← whole] at sorted
    have notBefore : ¬partition.slot.last < timestamp := by
      have head := List.head?_dropWhile_not
        (fun partition : Partition => decide (partition.slot.last < timestamp)) store.partitions
      rw [rest] at head
      simpa using head
    have later := (List.pairwise_cons.mp (List.pairwise_append.mp sorted).2.1).1
    have afterNewer : ∀ other ∈ newer, timestamp < other.slot.first := by
      intro other member
      have follows := later other member
      simp only [Ranged.lt_iff] at *
      omega
    by_cases holds : partition.slot.holds timestamp = true
    · have found : store.locate timestamp = (some partition, newer) := by
        simp [locate, rest, Slot.position_current.mpr holds]
      refine ⟨?_, before, ?_, ?_⟩ <;> rw [found]
      · simpa [older] using whole.symm
      · rintro other ⟨⟩
        exact holds
      · exact afterNewer
    · have found : store.locate timestamp = (none, partition :: newer) := by
        simp [locate, rest, Slot.position_current, holds]
      refine ⟨?_, before, ?_, ?_⟩ <;> rw [found]
      · simpa [older] using whole.symm
      · simp
      · intro other member
        rcases List.mem_cons.mp member with rfl | member
        · rw [Slot.holds_iff] at holds
          simp only [Ranged.le_iff, Ranged.lt_iff] at *
          omega
        · exact afterNewer other member

section Members

variable {timestamp : Timestamp} {partition : Partition} (located : store.Located timestamp)

include located

theorem Located.mem_older (member : partition ∈ store.older timestamp) :
    partition ∈ store.partitions := by
  rw [located.split]
  exact List.mem_append_left _ (List.mem_append_left _ member)

theorem Located.mem_current (found : (store.locate timestamp).1 = some partition) :
    partition ∈ store.partitions := by
  rw [located.split, found]
  simp

theorem Located.mem_newer (member : partition ∈ (store.locate timestamp).2) :
    partition ∈ store.partitions := by
  rw [located.split]
  exact List.mem_append_right _ member

end Members

theorem Located.newer_eq {timestamp : Timestamp} (located : store.Located timestamp)
    (sound : store.Sound) : store.newer timestamp = (store.locate timestamp).2.length := by
  have zeroOlder : (store.older timestamp).countP
      (fun partition => timestamp < partition.slot.first) = 0 := by
    rw [List.countP_eq_zero]
    intro partition member
    have past := located.before partition member
    have width := sound.first_le_last (located.mem_older member)
    simp only [Ranged.le_iff, Ranged.lt_iff, decide_eq_true_eq] at *
    omega
  have zeroCurrent : (store.locate timestamp).1.toList.countP
      (fun partition => timestamp < partition.slot.first) = 0 := by
    rw [List.countP_eq_zero]
    intro partition member
    have inside := Slot.holds_iff.mp (located.current partition (Option.mem_toList.mp member))
    simp only [Ranged.le_iff, Ranged.lt_iff, decide_eq_true_eq] at *
    omega
  have allNewer : (store.locate timestamp).2.countP
      (fun partition => timestamp < partition.slot.first) = (store.locate timestamp).2.length := by
    rw [List.countP_eq_length]
    intro partition member
    simpa using located.after partition member
  unfold newer
  rw [located.split, List.countP_append, List.countP_append, zeroOlder, zeroCurrent, allNewer]
  omega

theorem Sound.target_sound (sound : store.Sound) (timestamp : Timestamp) :
    (store.target timestamp).Sound store.duration ∧
      (store.target timestamp).slot = Slot.around timestamp store.duration := by
  have located := sound.located timestamp
  unfold target
  cases found : (store.locate timestamp).1 with
  | none => exact ⟨Partition.sound_new timestamp store.duration, rfl⟩
  | some partition =>
    have whole := sound.partitions partition (located.mem_current found)
    exact ⟨whole, whole.slot_eq (located.current partition found)⟩

theorem target_pointsOf (timestamp : Timestamp) : (store.target timestamp).pointsOf name =
    (store.locate timestamp).1.toList.flatMap (·.pointsOf name) := by
  unfold target
  cases (store.locate timestamp).1 <;> simp [Partition.pointsOf, Partition.find?]

/-! ### Insertion -/

def grown (store : Store) (name : String) (point : Point) : Partition :=
  (store.target point.timestamp).put name
    ⟨Keyed.place point ((store.target point.timestamp).pointsOf name)⟩

def inserted (store : Store) (name : String) (point : Point) : Store :=
  { store with
    partitions := store.older point.timestamp ++
      store.grown name point :: (store.locate point.timestamp).2
    window := store.window.update point.timestamp }

theorem inserted_partitions (point : Point) : (store.inserted name point).partitions =
    store.older point.timestamp ++ store.grown name point :: (store.locate point.timestamp).2 :=
  rfl

def Admits (store : Store) (timestamp : Timestamp) : Prop :=
  store.accepts timestamp = true ∧ ∀ writable ∈ store.writable, store.newer timestamp < writable

instance (timestamp : Timestamp) : Decidable (store.Admits timestamp) :=
  inferInstanceAs (Decidable (_ ∧ ∀ writable ∈ store.writable, _))

/-- A point is taken whole or refused as out of bounds, and nothing else can happen. -/
theorem Sound.insert_eq (sound : store.Sound) (opened : store.closed = false) (name : String)
    (point : Point) : store.insert name point =
      if store.Admits point.timestamp then .ok (store.inserted name point)
      else .error .outOfBounds := by
  have located := sound.located point.timestamp
  obtain ⟨_, slot⟩ := sound.target_sound point.timestamp
  have inside : (store.target point.timestamp).slot.holds point.timestamp = true := by
    rw [slot]
    exact Slot.holds_around _ _
  have old : store.tooOld (store.locate point.timestamp).2.length = true ↔
      ¬∀ writable ∈ store.writable, store.newer point.timestamp < writable := by
    rw [located.newer_eq sound]
    unfold tooOld
    cases store.writable <;> simp
  unfold insert Admits
  rw [opened]
  by_cases accepted : store.accepts point.timestamp = true
  · simp only [Bool.false_eq_true, if_false, accepted, if_true, true_and, write]
    by_cases aged : store.tooOld (store.locate point.timestamp).2.length = true
    · rw [if_pos aged, if_neg (old.mp aged)]
    · rw [if_neg aged, if_pos (not_not.mp fun broken => aged (old.mpr broken))]
      have grown : (store.target point.timestamp).insert name point = _ :=
        Partition.insert_eq inside
      unfold target at grown
      rw [grown]
      rfl
  · simp [accepted]

section Inserted

variable (sound : store.Sound) (point : Point)

include sound in
theorem Sound.inserted_sorted : (store.inserted name point).partitions.Pairwise
    fun before after => before.slot.last < after.slot.first := by
  have located := sound.located point.timestamp
  obtain ⟨_, slot⟩ := sound.target_sound point.timestamp
  have sorted := sound.sorted
  rw [located.split] at sorted
  obtain ⟨front, newer, across⟩ := List.pairwise_append.mp sorted
  obtain ⟨older, _, _⟩ := List.pairwise_append.mp front
  have aligned {partition : Partition} (member : partition ∈ store.partitions) :=
    (sound.partitions partition member).aligned
  refine List.pairwise_append.mpr ⟨older, List.pairwise_cons.mpr ⟨?_, newer⟩, ?_⟩
  · intro later member
    obtain ⟨origin, shape⟩ := aligned (located.mem_newer member)
    have after := located.after later member
    change (store.target point.timestamp).slot.last < later.slot.first
    rw [slot, shape]
    rw [shape] at after
    exact Slot.last_lt_first_of_before after
  · intro earlier member later laterMember
    rcases List.mem_cons.mp laterMember with rfl | laterMember
    · obtain ⟨origin, shape⟩ := aligned (located.mem_older member)
      have before := located.before earlier member
      change earlier.slot.last < (store.target point.timestamp).slot.first
      rw [slot, shape]
      rw [shape] at before
      exact Slot.last_lt_first before
    · exact across earlier (List.mem_append_left _ member) later laterMember

include sound in
theorem Sound.mem_inserted {partition : Partition}
    (member : partition ∈ (store.inserted name point).partitions) :
    partition = store.grown name point ∨ partition ∈ store.partitions := by
  have located := sound.located point.timestamp
  rcases List.mem_append.mp member with older | member
  · exact .inr (located.mem_older older)
  · rcases List.mem_cons.mp member with same | newer
    · exact .inl same
    · exact .inr (located.mem_newer newer)

include sound in
theorem Sound.inserted : (store.inserted name point).Sound where
  width := sound.width
  sorted := sound.inserted_sorted point
  positive := sound.positive
  writable := sound.writable
  partitions := by
    obtain ⟨whole, slot⟩ := sound.target_sound point.timestamp
    intro partition member
    rcases sound.mem_inserted point member with rfl | member
    · exact whole.insert (slot ▸ Slot.holds_around point.timestamp store.duration)
    · exact sound.partitions partition member
  reached := by
    obtain ⟨_, slot⟩ := sound.target_sound point.timestamp
    obtain ⟨reachesPoint, reachesOld⟩ := InsertWindow.le_latest store.window.newest point.timestamp
    intro partition member
    refine ⟨_, InsertWindow.update_newest _ _, ?_⟩
    rcases sound.mem_inserted point member with rfl | member
    · have inside := Slot.holds_iff.mp (Slot.holds_around point.timestamp store.duration)
      have starts : (store.grown name point).slot.first ≤ point.timestamp := slot ▸ inside.1
      exact Int.le_trans starts reachesPoint
    · obtain ⟨newest, found, below⟩ := sound.reached partition member
      exact Int.le_trans below (reachesOld newest found)

include sound in
theorem Sound.pointsOf_inserted (other : String) : (store.inserted name point).pointsOf other =
    if name = other then Keyed.place point (store.pointsOf other) else store.pointsOf other := by
  have located := sound.located point.timestamp
  have split : store.pointsOf other = (store.older point.timestamp).flatMap (·.pointsOf other) ++
      (store.target point.timestamp).pointsOf other ++
      (store.locate point.timestamp).2.flatMap (·.pointsOf other) := by
    rw [target_pointsOf, pointsOf, located.split, List.flatMap_append, List.flatMap_append]
  have within {partition : Partition} (held : partition ∈ store.partitions) {one : Point}
      (member : one ∈ partition.pointsOf other) :=
    Slot.holds_iff.mp ((sound.partitions partition held).pointsOf_inside member)
  have grown : (store.inserted name point).pointsOf other =
      (store.older point.timestamp).flatMap (·.pointsOf other) ++
        (store.grown name point).pointsOf other ++
        (store.locate point.timestamp).2.flatMap (·.pointsOf other) := by
    simp [inserted_partitions, pointsOf]
  rw [grown, split]
  unfold Store.grown
  rw [Partition.pointsOf_put]
  split
  next same =>
    subst same
    symm
    apply Keyed.place_append
    · intro one member
      obtain ⟨partition, older, member⟩ := List.mem_flatMap.mp member
      have inside := within (located.mem_older older) member
      have before := located.before partition older
      change one.timestamp < point.timestamp
      simp only [Ranged.le_iff, Ranged.lt_iff] at *
      omega
    · intro one member
      obtain ⟨partition, newer, member⟩ := List.mem_flatMap.mp member
      have inside := within (located.mem_newer newer) member
      have after := located.after partition newer
      change point.timestamp < one.timestamp
      simp only [Ranged.le_iff, Ranged.lt_iff] at *
      omega
  next => rfl

include sound in
theorem Sound.mem_slots_inserted {slot : Slot} : slot ∈ (store.inserted name point).slots ↔
    slot = Slot.around point.timestamp store.duration ∨ slot ∈ store.slots := by
  have located := sound.located point.timestamp
  obtain ⟨whole, around⟩ := sound.target_sound point.timestamp
  have current : ∀ partition ∈ (store.locate point.timestamp).1,
      partition.slot = Slot.around point.timestamp store.duration := by
    intro partition found
    rw [← around]
    simp [target, Option.mem_def.mp found]
  have grown : (store.grown name point).slot = Slot.around point.timestamp store.duration := around
  unfold slots
  rw [located.split]
  simp only [inserted_partitions, List.map_append, List.map_cons, List.mem_append, List.mem_cons,
    grown]
  have inner : slot ∈ (store.locate point.timestamp).1.toList.map Partition.slot →
      slot = Slot.around point.timestamp store.duration := by
    intro member
    obtain ⟨partition, found, rfl⟩ := List.mem_map.mp member
    exact current partition (Option.mem_toList.mp found)
  tauto

end Inserted

/-! ### Deletion, sweeps and selection -/

def deleted (store : Store) (name : String) (stop : Timestamp) : Store :=
  { store with partitions := store.partitions.map (·.dropUpTo name stop) }

def removed (store : Store) (name : String) : Store :=
  { store with partitions := store.partitions.map (·.remove name) }

theorem Sound.map (sound : store.Sound) (change : Partition → Partition)
    (slots : ∀ partition, (change partition).slot = partition.slot)
    (keeps : ∀ partition, partition.Sound store.duration →
      (change partition).Sound store.duration) :
    Sound { store with partitions := store.partitions.map change } where
  width := sound.width
  positive := sound.positive
  writable := sound.writable
  sorted := by
    rw [List.pairwise_map]
    simpa only [slots] using sound.sorted
  partitions := by
    intro partition member
    obtain ⟨before, held, rfl⟩ := List.mem_map.mp member
    exact keeps before (sound.partitions before held)
  reached := by
    intro partition member
    obtain ⟨before, held, rfl⟩ := List.mem_map.mp member
    rw [slots]
    exact sound.reached before held

theorem Sound.deleted (sound : store.Sound) (stop : Timestamp) : (store.deleted name stop).Sound :=
  sound.map _ (fun _ => Partition.dropUpTo_slot stop) fun _ whole => whole.dropUpTo stop

theorem Sound.removed (sound : store.Sound) : (store.removed name).Sound :=
  sound.map _ (fun _ => rfl) fun _ whole => whole.remove

theorem Sound.pointsOf_deleted (sound : store.Sound) (stop : Timestamp) (other : String) :
    (store.deleted name stop).pointsOf other =
      if name = other then (store.pointsOf other).filter fun point => stop < point.timestamp
      else store.pointsOf other := by
  have each : ∀ partition ∈ store.partitions, (partition.dropUpTo name stop).pointsOf other =
      if name = other then (partition.pointsOf other).filter fun point => stop < point.timestamp
      else partition.pointsOf other :=
    fun partition member => (sound.partitions partition member).pointsOf_dropUpTo stop other
  unfold pointsOf Store.deleted
  rw [List.flatMap_map, List.flatMap_congr each]
  split
  · rw [List.filter_flatMap]
  · rfl

theorem pointsOf_removed (other : String) :
    (store.removed name).pointsOf other = if name = other then [] else store.pointsOf other := by
  unfold pointsOf removed
  rw [List.flatMap_map]
  simp only [Partition.pointsOf_remove]
  split
  · simp
  · rfl

theorem Sound.delete_eq (sound : store.Sound) (opened : store.closed = false) (name : String)
    (stop : Timestamp) : store.delete name stop =
      .ok ((store.pointsOf name).countP (fun point => point.timestamp ≤ stop),
        store.deleted name stop) := by
  have each : store.partitions.map (·.countUpTo name stop) = store.partitions.map fun partition =>
      (partition.pointsOf name).countP fun point => point.timestamp ≤ stop :=
    List.map_congr_left fun partition member =>
      (sound.partitions partition member).countUpTo_eq stop
  unfold delete pointsOf
  rw [opened, List.countP_flatMap, List.sum_eq_foldr, each, if_neg Bool.false_ne_true]
  simp only [Store.deleted, Function.comp_def, opened]

theorem remove_eq (opened : store.closed = false) (name : String) :
    store.remove name = .ok ((store.pointsOf name).length, store.removed name) := by
  unfold remove pointsOf
  rw [opened, List.length_flatMap, List.sum_eq_foldr, if_neg Bool.false_ne_true]
  simp only [removed, Partition.size_eq, opened]

theorem sweep_sublist : store.sweep.partitions.Sublist store.partitions :=
  List.drop_sublist _ _

theorem Sound.sweep (sound : store.Sound) : store.sweep.Sound where
  width := sound.width
  positive := sound.positive
  writable := sound.writable
  sorted := sound.sorted.sublist sweep_sublist
  partitions := fun partition member => sound.partitions partition (sweep_sublist.subset member)
  reached := fun partition member => sound.reached partition (sweep_sublist.subset member)

/-- A forward selection reads the visible points of a series in its range. -/
theorem Sound.select_eq (sound : store.Sound) (opened : store.closed = false) (name : String)
    {start stop : Timestamp} (forward : start ≤ stop) : store.select name start stop =
      .ok ((store.visiblePointsOf name).filter (Point.between start stop)) := by
  have each : store.visible.mapM (·.select name start stop) = some (store.visible.map
      fun partition => (partition.pointsOf name).filter (Point.between start stop)) := by
    apply mapM_of_pure
    intro partition member
    have held := sound.partitions partition (List.mem_of_mem_drop member)
    exact held.select_eq_filter forward
  unfold select visiblePointsOf
  rw [opened, each, List.filter_flatMap, if_neg Bool.false_ne_true]
  rfl

/-- A partition is visible as long as too few are newer. -/
theorem Sound.mem_visible (sound : store.Sound) {partition : Partition} :
    partition ∈ store.visible ↔ partition ∈ store.partitions ∧ ∀ kept ∈ store.kept,
      store.partitions.countP (fun other => partition.slot.last < other.slot.first) < kept := by
  have rank (count : Nat) : partition ∈ store.partitions.drop count ↔
      partition ∈ store.partitions ∧ store.partitions.countP
        (fun other => partition.slot.last < other.slot.first) < store.partitions.length - count :=
    mem_drop_iff (fun before after : Partition => before.slot.last < after.slot.first)
      (by simpa using sound.sorted) (by simpa using sound.asymmetric) count
  have all := rank 0
  unfold visible
  rw [rank]
  rw [List.drop_zero] at all
  unfold expired
  cases store.kept with
  | none => simpa using fun member => (all.mp member).2
  | some kept =>
    simp only [Option.mem_def, Option.some.injEq, forall_eq']
    refine and_congr_right fun member => ?_
    have below := (all.mp member).2
    omega

theorem Sound.mem_visiblePointsOf (sound : store.Sound) {point : Point} :
    point ∈ store.visiblePointsOf name ↔ point ∈ store.pointsOf name ∧
      Slot.around point.timestamp store.duration ∈ store.sweep.slots := by
  have slot_eq {partition : Partition} (member : partition ∈ store.partitions)
      (held : point ∈ partition.pointsOf name) := (sound.partitions partition member).slot_eq
    ((sound.partitions partition member).pointsOf_inside held)
  have remains {partition : Partition} (member : partition ∈ store.visible) :
      partition ∈ store.partitions := List.mem_of_mem_drop member
  constructor
  · intro member
    obtain ⟨partition, member, held⟩ := List.mem_flatMap.mp member
    refine ⟨List.mem_flatMap.mpr ⟨partition, remains member, held⟩, ?_⟩
    rw [← slot_eq (remains member) held]
    exact List.mem_map_of_mem member
  · rintro ⟨member, seen⟩
    obtain ⟨partition, member, held⟩ := List.mem_flatMap.mp member
    obtain ⟨other, otherMember, same⟩ := List.mem_map.mp seen
    have inside := (sound.partitions partition member).pointsOf_inside held
    have unique : partition = other := by
      apply sound.eq_of_holds member (remains otherMember) inside
      rw [same, ← slot_eq member held]
      exact inside
    exact List.mem_flatMap.mpr ⟨partition, unique ▸ otherMember, held⟩

end TimeSeries.Store
