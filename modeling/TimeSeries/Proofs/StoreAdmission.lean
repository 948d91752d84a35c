import TimeSeries.Proofs.StoreContents

/-! What a store admits after an insertion. The window may have moved and a partition may have been
added, but the timestamp itself stays admitted, and so does all that comes after it and lies no
further ahead than the window allows. -/

namespace TimeSeries

def InsertWindow.Follows (future : Option Nat) (earlier later : Timestamp) : Prop :=
  Allows future (later.val - earlier.val)

theorem InsertWindow.Allows.mono {limit : Option Nat} {distance shorter : Int}
    (allows : Allows limit distance) (less : shorter ≤ distance) : Allows limit shorter :=
  fun most found small => Int.le_trans less (allows most found small)

theorem InsertWindow.allows_of_nonpos {limit : Option Nat} {distance : Int} (small : distance ≤ 0) :
    Allows limit distance :=
  fun most _ _ => Int.le_trans small (Int.natCast_nonneg most)

theorem InsertWindow.follows_refl (future : Option Nat) (timestamp : Timestamp) :
    Follows future timestamp timestamp :=
  allows_of_nonpos (by omega)

theorem InsertWindow.latest_of_ahead {newest : Option Timestamp} {timestamp : Timestamp}
    (ahead : ∀ earlier ∈ newest, earlier ≤ timestamp) : latest newest timestamp = timestamp := by
  unfold latest
  cases newest with
  | none => rfl
  | some earlier =>
    have below := ahead earlier rfl
    dsimp only
    split
    · rfl
    next notBelow => exact Ranged.ext (Int.le_antisymm below (Int.not_lt.mp notBelow))

namespace Store

variable {store : Store} {name : String} {point : Point}

/-- No write at or after a timestamp can meet the limit on newer slots. -/
def Fresh (store : Store) (timestamp : Timestamp) : Prop :=
  ∀ later, timestamp ≤ later → ∀ writable ∈ store.writable, store.newer later < writable

theorem Sound.empty_of_unset (sound : store.Sound) (unset : store.window.newest = none) :
    store.partitions = [] := by
  refine List.eq_nil_iff_forall_not_mem.mpr fun partition member => ?_
  obtain ⟨newest, found, _⟩ := sound.reached partition member
  rw [unset] at found
  cases found

theorem Sound.admits_of_unset (sound : store.Sound) (unset : store.window.newest = none)
    (timestamp : Timestamp) : store.Admits timestamp := by
  constructor
  · unfold accepts InsertWindow.contains
    rw [unset]
  · intro writable limited
    unfold newer
    rw [sound.empty_of_unset unset]
    exact sound.positive writable limited

/-- An insertion leaves only partitions after its own that were after it before. -/
theorem Sound.fresh_inserted (sound : store.Sound) (admits : store.Admits point.timestamp) :
    (store.inserted name point).Fresh point.timestamp := by
  intro later follows writable limited
  have located := sound.located point.timestamp
  obtain ⟨_, slot⟩ := sound.target_sound point.timestamp
  have few := admits.2 writable limited
  have behind : (store.older point.timestamp).countP
      (fun partition => later < partition.slot.first) = 0 := by
    rw [List.countP_eq_zero]
    intro partition member
    have past := located.before partition member
    have width := sound.first_le_last (located.mem_older member)
    simp only [Ranged.le_iff, Ranged.lt_iff, decide_eq_true_eq] at *
    omega
  have own : ¬later < (store.grown name point).slot.first := by
    change ¬later < (store.target point.timestamp).slot.first
    have inside := Slot.holds_iff.mp (Slot.holds_around point.timestamp store.duration)
    rw [slot]
    simp only [Ranged.le_iff, Ranged.lt_iff] at *
    omega
  have ahead := List.countP_le_length (p := fun partition => decide (later < partition.slot.first))
    (l := (store.locate point.timestamp).2)
  rw [located.newer_eq sound] at few
  unfold newer
  rw [inserted_partitions, List.countP_append, List.countP_cons, behind,
    if_neg (by simpa using own)]
  omega

theorem inserted_tolerance :
    (store.inserted name point).window.tolerance = store.window.tolerance :=
  InsertWindow.update_tolerance _ _

theorem newest_inserted (name : String)
    (ahead : ∀ newest ∈ store.window.newest, newest ≤ point.timestamp) :
    (store.inserted name point).window.newest = some point.timestamp := by
  rw [← InsertWindow.latest_of_ahead ahead]
  exact InsertWindow.update_newest _ _

theorem accepts_inserted (later : Timestamp) : (store.inserted name point).accepts later = true ↔
    InsertWindow.Follows store.window.tolerance.future
        (InsertWindow.latest store.window.newest point.timestamp) later ∧
      InsertWindow.Allows store.window.tolerance.past
        ((InsertWindow.latest store.window.newest point.timestamp).val - later.val) := by
  unfold accepts
  rw [InsertWindow.contains_iff]
  simp [inserted, InsertWindow.Follows]

theorem accepts_of_set {newest later : Timestamp} (set : store.window.newest = some newest)
    (follows : point.timestamp ≤ later) (accepted : store.accepts later = true) :
    (store.inserted name point).accepts later = true := by
  unfold accepts at accepted
  rw [InsertWindow.contains_iff] at accepted
  obtain ⟨future, past⟩ := accepted newest set
  rw [accepts_inserted, set]
  unfold InsertWindow.latest
  dsimp only
  split
  next moved =>
    constructor
    · apply future.mono
      rw [Ranged.lt_iff] at moved
      omega
    · apply InsertWindow.allows_of_nonpos
      rw [Ranged.le_iff] at follows
      omega
  next kept => exact ⟨future, past⟩

theorem accepts_after {later : Timestamp}
    (ahead : ∀ newest ∈ store.window.newest, newest ≤ point.timestamp)
    (follows : point.timestamp ≤ later) : (store.inserted name point).accepts later = true ↔
      InsertWindow.Follows store.window.tolerance.future point.timestamp later := by
  rw [accepts_inserted, InsertWindow.latest_of_ahead ahead]
  refine and_iff_left (InsertWindow.allows_of_nonpos ?_)
  rw [Ranged.le_iff] at follows
  omega

/-- The timestamp of a point that was taken is taken again. -/
theorem Sound.admits_inserted (sound : store.Sound) (admits : store.Admits point.timestamp) :
    (store.inserted name point).Admits point.timestamp := by
  refine ⟨?_, sound.fresh_inserted admits point.timestamp (Int.le_refl _)⟩
  have accepted := admits.1
  unfold accepts at accepted
  rw [InsertWindow.contains_iff] at accepted
  rw [accepts_inserted]
  unfold InsertWindow.latest
  split
  next => exact ⟨InsertWindow.follows_refl _ _, InsertWindow.allows_of_nonpos (by omega)⟩
  next newest set =>
    split
    next => exact ⟨InsertWindow.follows_refl _ _, InsertWindow.allows_of_nonpos (by omega)⟩
    next => exact accepted newest set

end Store

end TimeSeries
