import TimeSeries.Proofs.AcceptedTimes
import TimeSeries.Proofs.Retention
import TimeSeries.Proofs.StoreAdmission

/-! Refusals that are final. An old point is refused because it lies too far behind the newest
timestamp or because too many slots are newer than its own. A ledger never forgets a slot and its
newest timestamp never goes back, so neither reason passes, although partitions are swept. -/

namespace TimeSeries

theorem Slot.last_le_last {earlier later : Timestamp} (duration : Int) (ordered : earlier ≤ later) :
    (around earlier duration).last ≤ (around later duration).last := by
  have starts := holds_iff.mp (holds_around earlier duration)
  have ends := holds_iff.mp (holds_around later duration)
  by_cases past : (around earlier duration).last < later
  · exact Int.le_trans (Int.le_of_lt past) ends.2
  · have held : (around earlier duration).holds later = true :=
      holds_iff.mpr ⟨Int.le_trans starts.1 ordered, Ranged.not_lt.mp past⟩
    rw [around_eq_of_holds held]
    exact Int.le_refl _

namespace Ledger

variable {config : StoreConfig} {ledger earlier later : Ledger}

/-- A ledger has recorded all that another has: its newest timestamp is not smaller, and it has
every slot of the other. -/
structure Extends (later earlier : Ledger) : Prop where
  newest : ∀ old ∈ earlier.newest, ∃ new ∈ later.newest, old ≤ new
  slots : earlier.slots ⊆ later.slots

theorem Extends.refl (ledger : Ledger) : ledger.Extends ledger where
  newest := fun old found => ⟨old, found, Int.le_refl _⟩
  slots := Finset.Subset.refl _

theorem Extends.trans {last : Ledger} (second : last.Extends later)
    (first : later.Extends earlier) : last.Extends earlier where
  newest := by
    intro old found
    obtain ⟨middle, next, below⟩ := first.newest old found
    obtain ⟨new, last, above⟩ := second.newest middle next
    exact ⟨new, last, Int.le_trans below above⟩
  slots := first.slots.trans second.slots

theorem extends_record (config : StoreConfig) (ledger : Ledger) (name : String) (point : Point) :
    (ledger.record config name point).Extends ledger where
  newest := fun old found =>
    ⟨_, rfl, (InsertWindow.le_latest ledger.newest point.timestamp).2 old found⟩
  slots := Finset.subset_insert _ _

/-- No action takes back a slot or a timestamp. -/
theorem extends_after (config : StoreConfig) (ledger : Ledger) (action : StoreAction) :
    (ledger.after config action).Extends ledger := by
  cases action with
  | insert name point =>
    by_cases admits : ledger.Admits config point.timestamp
    · rw [after, if_pos admits]
      exact extends_record config ledger name point
    · rw [after, if_neg admits]
      exact .refl ledger
  | select | delete | remove | sweep => exact ⟨(Extends.refl ledger).newest, Finset.Subset.refl _⟩

theorem extends_run (config : StoreConfig) (before after : List StoreAction) :
    (run config (before ++ after)).Extends (run config before) := by
  induction after using List.reverseRecOn with
  | nil =>
    rw [List.append_nil]
    exact .refl _
  | append_singleton after action ih =>
    have last : run config (before ++ (after ++ [action])) =
        (run config (before ++ after)).after config action := by
      unfold run
      rw [← List.append_assoc, List.foldl_concat]
    rw [last]
    exact (extends_after config _ action).trans ih

theorem Extends.newer_subset (extended : later.Extends earlier) {before timestamp : Timestamp}
    (ordered : before ≤ timestamp) : earlier.newer (Slot.around timestamp config.duration) ⊆
      later.newer (Slot.around before config.duration) := by
  intro slot member
  obtain ⟨used, after⟩ := Finset.mem_filter.mp member
  have ends := Slot.last_le_last config.duration ordered
  exact Finset.mem_filter.mpr ⟨extended.slots used, Int.lt_of_le_of_lt ends after⟩

/-- A timestamp that is refused although it is not ahead of the newest one is refused by all that
comes later, and so is every timestamp before it. -/
theorem Extends.not_admits (extended : later.Extends earlier) {newest before timestamp : Timestamp}
    (set : earlier.newest = some newest) (behind : timestamp ≤ newest)
    (refused : ¬earlier.Admits config timestamp) (ordered : before ≤ timestamp) :
    ¬later.Admits config before := by
  rintro ⟨window, few⟩
  obtain ⟨current, found, reached⟩ := extended.newest newest set
  obtain ⟨_, past⟩ := window current found
  rw [Ranged.le_iff] at behind ordered reached
  refine refused ⟨?_, ?_⟩
  · intro other same
    rw [set] at same
    cases same
    exact ⟨InsertWindow.allows_of_nonpos (by omega), past.mono (by omega)⟩
  · intro writable limited
    exact Nat.lt_of_le_of_lt (Finset.card_le_card (extended.newer_subset ordered))
      (few writable limited)

end Ledger

namespace Store

variable {store : Store} {config : StoreConfig}

/-- Once a store refuses a point that is not ahead of the largest timestamp it has accepted, it
refuses every point of any series at or before that time, whatever is inserted, deleted, removed or
swept in the meantime. -/
theorem refusal_of_old_is_final (created : create config = .ok store) (earlier : List StoreAction)
    {newest : Timestamp} (largest : store.Newest earlier newest) {name : String} {point : Point}
    (behind : point.timestamp ≤ newest)
    (refused : (store.run earlier).insert name point = .error .outOfBounds)
    (later : List StoreAction) (other : String) (another : Point)
    (ordered : another.timestamp ≤ point.timestamp) :
    (store.run (earlier ++ later)).insert other another = .error .outOfBounds := by
  have before := Ledger.related_run created earlier
  have after := Ledger.related_run created (earlier ++ later)
  have set := (newest_run_iff created earlier newest).mpr largest
  rw [before.newest] at set
  have barred : ¬(Ledger.run config earlier).Admits config point.timestamp := by
    intro admits
    rw [before.sound.insert_eq before.opened, if_pos ((before.admits_iff _).mpr admits)] at refused
    cases refused
  have still := (Ledger.extends_run config earlier later).not_admits set behind barred ordered
  rw [after.sound.insert_eq after.opened, if_neg]
  exact fun admits => still ((after.admits_iff _).mp admits)

theorem cold_slot_stays_cold :
    (coldStore.run coldActions).insert "s" ⟨Ranged.clamp 22, .int32 (Ranged.clamp 4)⟩ =
        .error .outOfBounds ∧
      (coldStore.run (coldActions ++ [.remove "s",
          .insert "t" ⟨Ranged.clamp 40, .int32 (Ranged.clamp 5)⟩, .sweep])).insert "t"
        ⟨Ranged.clamp 21, .int32 (Ranged.clamp 6)⟩ = .error .outOfBounds := by
  have largest : coldStore.Newest coldActions (Ranged.clamp 31) := by decide +kernel
  have refused : (coldStore.run coldActions).insert "s"
      ⟨Ranged.clamp 22, .int32 (Ranged.clamp 4)⟩ = .error .outOfBounds := by decide +kernel
  exact ⟨refused, refusal_of_old_is_final cold_created coldActions largest (by decide) refused _ "t"
    ⟨Ranged.clamp 21, .int32 (Ranged.clamp 6)⟩ (by decide)⟩

end Store

end TimeSeries
