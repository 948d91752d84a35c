import TimeSeries.Proofs.IndexedSeries
import TimeSeries.Proofs.StoreLedger

/-! Partitions and the store index by index. From the creation of a store on, no action breaks down
but a selection whose range runs backwards past a visible point with others at or beyond both its
ends. -/

namespace TimeSeries

open Indexed

namespace Partition

variable {duration : Int} {partition : Partition} {name : String}

def indexedSelect (partition : Partition) (name : String) (start stop : Timestamp) :
    Except Breakdown (List Point) :=
  if partition.slot.meets start stop then
    match partition.find? name with
    | some series => series.indexedSelect start stop
    | none => .ok []
  else .ok []

def indexedInsert (partition : Partition) (name : String) (point : Point) :
    Except Breakdown (Except PartitionError Partition) :=
  if partition.slot.holds point.timestamp then
    match partition.find? name with
    | some series => do
      let grown ← series.indexedInsert point
      return .ok (partition.put name grown)
    | none => .ok (.ok (partition.put name (Series.single point)))
  else .ok (.error (.outOfSlot point.timestamp))

def indexedDelete (partition : Partition) (name : String) (stop : Timestamp) :
    Except Breakdown (Nat × Partition) :=
  if stop < partition.slot.first then .ok (0, partition)
  else
    match partition.find? name with
    | some series => do
      let (count, left) ← series.indexedDropUpTo stop
      return (count, if left.points = [] then partition.remove name else partition.put name left)
    | none => .ok (0, partition)

theorem Sound.series_ordered (sound : partition.Sound duration) {series : Series}
    (found : partition.find? name = some series) : Keyed.Ascending series.points :=
  (sound.entries _ (sound.find?.mp found)).ordered

theorem Sound.indexedSelect_eq (sound : partition.Sound duration) (name : String)
    (start stop : Timestamp) : partition.indexedSelect name start stop =
      (partition.select name start stop).elim (.error .outOfRange) .ok := by
  unfold Partition.indexedSelect Partition.select
  split
  · cases found : partition.find? name with
    | none => rfl
    | some series => exact series.indexedSelect_eq (sound.series_ordered found) start stop
  · rfl

theorem Sound.indexedInsert_eq (sound : partition.Sound duration) (name : String)
    (point : Point) : partition.indexedInsert name point = .ok (partition.insert name point) := by
  unfold Partition.indexedInsert Partition.insert
  split
  · cases found : partition.find? name with
    | none => rfl
    | some series =>
      dsimp only
      rw [series.indexedInsert_eq (sound.series_ordered found)]
      rfl
  · rfl

theorem Sound.indexedDelete_eq (sound : partition.Sound duration) (name : String)
    (stop : Timestamp) : partition.indexedDelete name stop =
      .ok (partition.countUpTo name stop, partition.dropUpTo name stop) := by
  unfold Partition.indexedDelete Partition.countUpTo Partition.dropUpTo
  split
  · rfl
  · cases found : partition.find? name with
    | none => rfl
    | some series =>
      dsimp only
      rw [series.indexedDropUpTo_eq (sound.series_ordered found)]
      rfl

theorem Sound.select_eq_none_iff (sound : partition.Sound duration) {start stop : Timestamp} :
    partition.select name start stop = none ↔
      Straddles (partition.pointsOf name) start stop := by
  unfold select
  rcases sound.pointsOf_cases name with ⟨missing, none⟩ | ⟨series, found, points, keeps⟩
  · simp [missing, none, Straddles]
  · rw [found, points]
    split
    next meets => exact Series.select_eq_none_iff keeps.ordered
    next misses =>
      simp only [reduceCtorEq, false_iff]
      rintro ⟨early, earlyMember, _, _, late, lateMember, reaches, _, _, starts⟩
      have earlyInside := Slot.holds_iff.mp (keeps.inside early earlyMember)
      have lateInside := Slot.holds_iff.mp (keeps.inside late lateMember)
      apply misses
      simp only [Slot.meets, Ranged.le_iff, Ranged.lt_iff, Bool.not_eq_true', Bool.or_eq_false_iff,
        decide_eq_false_iff_not] at *
      omega

theorem select_backwards {start stop : Timestamp} (backwards : stop < start)
    {points : List Point} (answered : partition.select name start stop = some points) :
    points = [] := by
  unfold select at answered
  split at answered
  · split at answered
    · exact Series.select_backwards backwards answered
    · exact (Option.some.inj answered).symm
  · exact (Option.some.inj answered).symm

end Partition

namespace Store

def seat (store : Store) (timestamp : Timestamp) : Nat :=
  boundary (·.slot.last < timestamp) store.partitions

def occupied (store : Store) (timestamp : Timestamp) : Bool :=
  store.partitions[store.seat timestamp]?.any (·.slot.position timestamp = .current)

def indexedTooOld (store : Store) (timestamp : Timestamp) : Except Breakdown Bool :=
  match store.writable with
  | some writable => do
    let behind ← minus store.partitions.length (store.seat timestamp)
    let newer ← minus behind (store.occupied timestamp).toNat
    return writable ≤ newer
  | none => .ok false

def indexedGrow (store : Store) (name : String) (point : Point) :
    Except Breakdown (Except PartitionError (List Partition)) := do
  if store.occupied point.timestamp then
    let partition ← fetch store.partitions (store.seat point.timestamp)
    match ← partition.indexedInsert name point with
    | .ok grown => return .ok (← replaceAt store.partitions (store.seat point.timestamp) grown)
    | .error cause => return .error cause
  else
    let slot ← Slot.indexedAround point.timestamp store.duration
    match ← Partition.indexedInsert ⟨slot, []⟩ name point with
    | .ok created => return .ok (← insertAt store.partitions (store.seat point.timestamp) created)
    | .error cause => return .error cause

def indexedInsert (store : Store) (name : String) (point : Point) :
    Except Breakdown (Except StoreError Store) := do
  if !(← store.window.indexedContains point.timestamp) then return .error .outOfBounds
  if ← store.indexedTooOld point.timestamp then return .error .outOfBounds
  match ← store.indexedGrow name point with
  | .ok partitions =>
    return .ok { store with partitions, window := store.window.update point.timestamp }
  | .error cause => return .error (.failedInsert cause)

def indexedSelect (store : Store) (name : String) (start stop : Timestamp) :
    Except Breakdown (List Point) := do
  let points ← store.visible.mapM (·.indexedSelect name start stop)
  return points.flatten

def indexedDelete (store : Store) (name : String) (stop : Timestamp) :
    Except Breakdown (Nat × Store) := do
  let results ← store.partitions.mapM (·.indexedDelete name stop)
  return ((results.map Prod.fst).foldr (· + ·) 0, { store with partitions := results.map Prod.snd })

def indexedSweep (store : Store) : Except Breakdown Store := do
  let partitions ← dropFirst store.partitions store.expired
  return { store with partitions }

/-- An action on an open store. Removal computes no index. -/
def indexedPerform (store : Store) :
    StoreAction → Except Breakdown (Except StoreFailure StoreAnswer × Store)
  | .insert name point => do
    match ← store.indexedInsert name point with
    | .ok next => return (.ok .done, next)
    | .error error => return (.error (.refused error), store)
  | .select name start stop => do
    let points ← store.indexedSelect name start stop
    return (.ok (.points points), store)
  | .delete name stop => do
    let (count, next) ← store.indexedDelete name stop
    return (.ok (.count count), next)
  | .remove name => .ok (store.perform (.remove name))
  | .sweep => do
    let next ← store.indexedSweep
    return (.ok .done, next)

variable {store : Store} {timestamp : Timestamp} {name : String}

/-- The partitions from the seat of a timestamp on. -/
theorem locate_dropWhile (store : Store) (timestamp : Timestamp) :
    store.partitions.dropWhile (·.slot.last < timestamp) =
      (store.locate timestamp).1.toList ++ (store.locate timestamp).2 := by
  unfold locate
  cases store.partitions.dropWhile (·.slot.last < timestamp) with
  | nil => rfl
  | cons partition newer =>
    dsimp only
    split <;> rfl

theorem occupied_eq (store : Store) (timestamp : Timestamp) :
    store.occupied timestamp = (store.locate timestamp).1.isSome := by
  unfold occupied seat locate
  rw [getElem?_boundary]
  cases store.partitions.dropWhile (·.slot.last < timestamp) with
  | nil => rfl
  | cons partition newer =>
    dsimp only
    split <;> simp [*]

theorem indexedTooOld_eq (store : Store) (timestamp : Timestamp) :
    store.indexedTooOld timestamp = .ok (store.tooOld (store.locate timestamp).2.length) := by
  have behind : store.partitions.length - store.seat timestamp =
      (store.occupied timestamp).toNat + (store.locate timestamp).2.length := by
    have lengths := congrArg List.length (store.locate_dropWhile timestamp)
    rw [← drop_boundary, List.length_drop, List.length_append] at lengths
    rw [occupied_eq]
    unfold seat
    rw [lengths]
    cases (store.locate timestamp).1 <;> rfl
  have within : store.seat timestamp ≤ store.partitions.length := boundary_le_length _ _
  unfold indexedTooOld tooOld minus
  cases store.writable with
  | none => rfl
  | some writable =>
    dsimp only
    rw [if_pos within, behind]
    simp only [bind, Except.bind]
    rw [if_pos (Nat.le_add_right _ _), Nat.add_sub_cancel_left]
    rfl

theorem Sound.indexedGrow_eq (sound : store.Sound) (narrow : store.duration ≤ 9223372036854775807)
    (name : String) (point : Point) : store.indexedGrow name point =
      .ok (((store.target point.timestamp).insert name point).map fun partition =>
        store.older point.timestamp ++ partition :: (store.locate point.timestamp).2) := by
  have whole := (sound.target_sound point.timestamp).1
  have rest := store.locate_dropWhile point.timestamp
  unfold indexedGrow seat
  rw [occupied_eq]
  unfold target at whole ⊢
  cases current : (store.locate point.timestamp).1 with
  | none =>
    rw [current] at rest whole
    rw [Slot.indexedAround_eq _ narrow]
    simp only [Option.isSome_none, Bool.false_eq_true, if_false, bind, Except.bind,
      Option.getD_none] at whole ⊢
    rw [whole.indexedInsert_eq]
    dsimp only
    cases Partition.insert _ name point with
    | error cause => rfl
    | ok created =>
      dsimp only
      rw [insertAt_boundary, rest]
      rfl
  | some partition =>
    rw [current] at rest whole
    simp only [Option.isSome_some, if_true, bind, Except.bind, Option.getD_some] at whole ⊢
    rw [fetch_boundary rest]
    dsimp only
    rw [whole.indexedInsert_eq]
    dsimp only
    cases Partition.insert _ name point with
    | error cause => rfl
    | ok grown =>
      dsimp only
      rw [replaceAt_boundary grown rest]
      rfl

theorem Sound.indexedInsert_eq (sound : store.Sound) (opened : store.closed = false)
    (narrow : store.duration ≤ 9223372036854775807) (name : String) (point : Point) :
    store.indexedInsert name point = .ok (store.insert name point) := by
  have running : ¬store.closed = true := by simp [opened]
  unfold Store.indexedInsert Store.insert
  rw [if_neg running, InsertWindow.indexedContains_eq, indexedTooOld_eq,
    sound.indexedGrow_eq narrow]
  unfold accepts write target
  dsimp only [bind, Except.bind]
  cases store.window.contains point.timestamp with
  | false => rfl
  | true =>
    cases store.tooOld (store.locate point.timestamp).2.length with
    | true => rfl
    | false => cases Partition.insert _ name point <;> rfl

theorem Sound.indexedSelect_eq (sound : store.Sound) (opened : store.closed = false)
    (name : String) (start stop : Timestamp) : store.indexedSelect name start stop =
      (store.select name start stop).toOption.elim (.error .outOfRange) .ok := by
  have each : store.visible.mapM (·.indexedSelect name start stop) =
      (store.visible.mapM (Partition.select · name start stop)).elim (.error .outOfRange) .ok := by
    refine mapM_elim fun partition member => ?_
    exact (sound.partitions partition (List.mem_of_mem_drop member)).indexedSelect_eq _ _ _
  unfold Store.indexedSelect Store.select
  rw [each, opened, if_neg Bool.false_ne_true]
  cases store.visible.mapM (·.select name start stop) <;> rfl

theorem Sound.indexedDelete_eq (sound : store.Sound) (name : String) (stop : Timestamp) :
    store.indexedDelete name stop =
      .ok ((store.partitions.map (·.countUpTo name stop)).foldr (· + ·) 0,
        store.deleted name stop) := by
  have each : store.partitions.mapM (·.indexedDelete name stop) = Except.ok
      (store.partitions.map fun partition =>
        (partition.countUpTo name stop, partition.dropUpTo name stop)) := by
    apply mapM_of_pure
    intro partition member
    exact (sound.partitions partition member).indexedDelete_eq name stop
  unfold Store.indexedDelete
  rw [each]
  simp only [bind, Except.bind, List.map_map]
  rfl

theorem indexedSweep_eq (store : Store) : store.indexedSweep = .ok store.sweep := by
  have within : store.expired ≤ store.partitions.length := by
    unfold expired
    cases store.kept with
    | none => exact Nat.zero_le _
    | some kept => exact Nat.sub_le _ _
  unfold indexedSweep dropFirst
  rw [if_pos within]
  rfl

/-! ### What breaks down -/

/-- A range that runs backwards past a point of a visible partition that has others at or beyond
both of its ends. -/
def BreaksDown (store : Store) (name : String) (start stop : Timestamp) : Prop :=
  stop < start ∧ ∃ partition ∈ store.visible, Straddles (partition.pointsOf name) start stop

instance (store : Store) (name : String) (start stop : Timestamp) :
    Decidable (store.BreaksDown name start stop) :=
  inferInstanceAs (Decidable (stop < start ∧ ∃ partition ∈ store.visible, _))

section Selection

variable {start stop : Timestamp} (sound : store.Sound) (opened : store.closed = false)

include sound

theorem Sound.unanswered_iff (name : String) (start stop : Timestamp) :
    (∃ partition ∈ store.visible, partition.select name start stop = none) ↔
      store.BreaksDown name start stop := by
  have each {partition : Partition} (member : partition ∈ store.visible) :
      partition.select name start stop = none ↔
        Straddles (partition.pointsOf name) start stop :=
    (sound.partitions partition (List.mem_of_mem_drop member)).select_eq_none_iff
  constructor
  · rintro ⟨partition, member, broken⟩
    obtain ⟨early, earlyMember, inside, insideMember, late, lateMember, facts⟩ :=
      (each member).mp broken
    exact ⟨Int.lt_trans facts.2.1 facts.2.2.1, partition, member, early, earlyMember, inside,
      insideMember, late, lateMember, facts⟩
  · rintro ⟨_, partition, member, straddles⟩
    exact ⟨partition, member, (each member).mpr straddles⟩

include opened

theorem Sound.select_eq_error (broken : store.BreaksDown name start stop) :
    store.select name start stop = .error .reversedRange := by
  have unanswered := mapM_eq_none.mpr ((sound.unanswered_iff name start stop).mpr broken)
  unfold select
  rw [opened, unanswered, if_neg Bool.false_ne_true]

theorem Sound.select_eq_ok (answered : ¬store.BreaksDown name start stop) :
    ∃ points, store.select name start stop = .ok points := by
  unfold select
  rw [opened, if_neg Bool.false_ne_true]
  cases selected : store.visible.mapM (·.select name start stop) with
  | none => exact absurd ((sound.unanswered_iff _ _ _).mp (mapM_eq_none.mp selected)) answered
  | some points => exact ⟨points.flatten, rfl⟩

theorem Sound.select_eq_nil (backwards : stop < start)
    (answered : ¬store.BreaksDown name start stop) : store.select name start stop = .ok [] := by
  have each : store.visible.mapM (·.select name start stop) =
      some (store.visible.map fun _ => []) := by
    apply mapM_of_pure
    intro partition member
    cases selected : partition.select name start stop with
    | none => exact absurd ((sound.unanswered_iff _ _ _).mp ⟨partition, member, selected⟩) answered
    | some points => exact congrArg some (Partition.select_backwards backwards selected)
  unfold select
  rw [opened, each, if_neg Bool.false_ne_true]
  simp

theorem Sound.indexedPerform_select (name : String) (start stop : Timestamp) :
    store.indexedPerform (.select name start stop) =
      if store.BreaksDown name start stop then .error .outOfRange
      else .ok (store.perform (.select name start stop)) := by
  unfold indexedPerform perform
  dsimp only
  rw [sound.indexedSelect_eq opened]
  split
  next broken =>
    rw [sound.select_eq_error opened broken]
    rfl
  next answered =>
    obtain ⟨points, selected⟩ := sound.select_eq_ok opened answered
    rw [selected]
    rfl

end Selection

theorem Sound.indexedPerform_eq (sound : store.Sound) (opened : store.closed = false)
    (narrow : store.duration ≤ 9223372036854775807) {action : StoreAction}
    (changes : ∀ name start stop, action ≠ .select name start stop) :
    store.indexedPerform action = .ok (store.perform action) := by
  have running : ¬store.closed = true := by simp [opened]
  cases action with
  | insert name point =>
    unfold indexedPerform perform
    dsimp only
    rw [sound.indexedInsert_eq opened narrow]
    dsimp only [bind, Except.bind]
    cases store.insert name point <;> rfl
  | select name start stop => exact absurd rfl (changes name start stop)
  | delete name stop =>
    unfold indexedPerform perform delete
    dsimp only
    rw [sound.indexedDelete_eq, if_neg running]
    rfl
  | remove name => rfl
  | sweep =>
    unfold indexedPerform
    dsimp only
    rw [indexedSweep_eq]
    rfl

/-- In every state that a new store can reach while it is open, the insert window and all actions
but selections take no step that breaks down. A selection breaks down exactly if its range runs
backwards past a visible point with others at or beyond both of its ends; if it runs backwards and
does not break down, it selects nothing. Either way no later state shows that it took place. -/
theorem breakdowns_known {config : StoreConfig} (created : create config = .ok store)
    (narrow : config.duration ≤ 9223372036854775807) (actions : List StoreAction) :
    (∀ timestamp, (store.run actions).window.indexedContains timestamp =
      .ok ((store.run actions).accepts timestamp)) ∧
    (∀ action, (∀ name start stop, action ≠ .select name start stop) →
      (store.run actions).indexedPerform action = .ok ((store.run actions).perform action)) ∧
    ∀ name start stop,
      ((store.run actions).indexedPerform (.select name start stop) =
        if (store.run actions).BreaksDown name start stop then .error .outOfRange
        else .ok ((store.run actions).perform (.select name start stop))) ∧
      (stop < start → ((store.run actions).perform (.select name start stop)).1 =
        if (store.run actions).BreaksDown name start stop then .error .reversedRange
        else .ok (.points [])) ∧
      ∀ later, store.run (actions ++ .select name start stop :: later) =
        store.run (actions ++ later) := by
  have related := Ledger.related_run created actions
  have valid : (store.run actions).duration = config.duration := related.duration
  refine ⟨?_, ?_, ?_⟩
  · exact InsertWindow.indexedContains_eq _
  · intro action changes
    exact related.sound.indexedPerform_eq related.opened (valid.trans_le narrow) changes
  · intro name start stop
    refine ⟨related.sound.indexedPerform_select related.opened name start stop, ?_, ?_⟩
    · intro backwards
      unfold perform
      dsimp only
      split
      next broken => rw [related.sound.select_eq_error related.opened broken]; rfl
      next answered =>
        rw [related.sound.select_eq_nil related.opened backwards answered]
        rfl
    · intro later
      unfold run
      rw [List.foldl_append, List.foldl_append]
      rfl

def hourlyStore : Store where
  duration := 3600000
  writable := none
  kept := none
  window := ⟨{}, none⟩

theorem hourly_created : create {} = .ok hourlyStore :=
  rfl

def threePoints : List StoreAction :=
  [.insert "s" ⟨Ranged.clamp 0, .int32 (Ranged.clamp 1)⟩,
    .insert "s" ⟨Ranged.clamp 10, .int32 (Ranged.clamp 2)⟩,
    .insert "s" ⟨Ranged.clamp 20, .int32 (Ranged.clamp 3)⟩]

theorem backwards_past_middle_breaks_down :
    (hourlyStore.run threePoints).indexedPerform
        (.select "s" (Ranged.clamp 15) (Ranged.clamp 5)) = .error .outOfRange ∧
      ((hourlyStore.run threePoints).perform
        (.select "s" (Ranged.clamp 7) (Ranged.clamp 5))).1 = .ok (.points []) := by
  obtain ⟨_, _, selects⟩ := breakdowns_known hourly_created (by decide) threePoints
  constructor
  · exact (selects "s" (Ranged.clamp 15) (Ranged.clamp 5)).1.trans (if_pos (by decide +kernel))
  · obtain ⟨_, backwards, _⟩ := selects "s" (Ranged.clamp 7) (Ranged.clamp 5)
    exact (backwards (by decide)).trans (if_neg (by decide +kernel))

end Store

end TimeSeries
