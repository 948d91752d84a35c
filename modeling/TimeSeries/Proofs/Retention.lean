import TimeSeries.Proofs.StoreLedger

/-! What reads see right after an insertion. The new point lies in a slot that reads see, at most
the oldest slot seen before is hidden, and all other points stay as visible as they were. -/

namespace TimeSeries.Store

variable {store : Store} {name : String} {point : Point}

def seen (store : Store) : List Slot :=
  store.visible.map Partition.slot

/-- Every selection that runs forwards across a point returns it. -/
def Shows (store : Store) (name : String) (point : Point) : Prop :=
  ∀ start stop, start ≤ point.timestamp → point.timestamp ≤ stop →
    ∃ points, store.select name start stop = .ok points ∧ point ∈ points

theorem Sound.shows_iff (sound : store.Sound) (opened : store.closed = false) :
    store.Shows name point ↔ point ∈ store.visiblePointsOf name := by
  constructor
  · intro shown
    obtain ⟨points, selected, member⟩ := shown _ _ (Int.le_refl _) (Int.le_refl _)
    rw [sound.select_eq opened name (Int.le_refl _)] at selected
    cases selected
    exact (List.mem_filter.mp member).1
  · intro member start stop from_start to_stop
    refine ⟨_, sound.select_eq opened name (Int.le_trans from_start to_stop), ?_⟩
    exact List.mem_filter.mpr ⟨member, Point.between_iff.mpr ⟨from_start, to_stop⟩⟩

/-! ### The partitions that reads see -/

theorem visible_of_append {front back : List Partition} (split : store.partitions = front ++ back)
    (few : ∀ kept ∈ store.kept, back.length ≤ kept) :
    store.visible = front.drop store.expired ++ back := by
  have within : store.expired ≤ front.length := by
    have length := congrArg List.length split
    rw [List.length_append] at length
    unfold expired
    cases limit : store.kept with
    | none => exact Nat.zero_le _
    | some kept =>
      have enough := few kept limit
      dsimp only
      omega
  unfold visible
  rw [split, List.drop_append_of_le_length within]

section Inserted

variable (sound : store.Sound) (admits : store.Admits point.timestamp)

include sound admits

theorem Sound.newer_lt_kept :
    ∀ kept ∈ store.kept, (store.locate point.timestamp).2.length < kept := by
  intro kept limit
  obtain ⟨writable, limited, below⟩ := sound.writable kept limit
  have few := admits.2 writable limited
  rw [(sound.located point.timestamp).newer_eq sound] at few
  omega

/-- An insertion hides at most one partition, the oldest that was seen. All others stay, and the one
around the point is seen as well. -/
theorem Sound.visible_inserted (name : String) : ∃ hidden remaining,
    hidden.length ≤ 1 ∧
    store.visible = hidden ++ remaining ++ (store.locate point.timestamp).1.toList ++
      (store.locate point.timestamp).2 ∧
    (store.inserted name point).visible =
      remaining ++ store.grown name point :: (store.locate point.timestamp).2 := by
  have split := (sound.located point.timestamp).split
  have few := sound.newer_lt_kept admits
  have single := Option.length_toList_le (o := (store.locate point.timestamp).1)
  have before : store.visible = (store.older point.timestamp).drop store.expired ++
      ((store.locate point.timestamp).1.toList ++ (store.locate point.timestamp).2) := by
    apply visible_of_append
    · rw [split, List.append_assoc]
    · intro kept limit
      have := few kept limit
      rw [List.length_append]
      omega
  have after : (store.inserted name point).visible =
      (store.older point.timestamp).drop (store.inserted name point).expired ++
        store.grown name point :: (store.locate point.timestamp).2 := by
    apply visible_of_append
    · exact inserted_partitions point
    · intro kept limit
      exact few kept limit
  have expires : store.expired ≤ (store.inserted name point).expired ∧
      (store.inserted name point).expired ≤ store.expired + 1 := by
    have same : (store.inserted name point).kept = store.kept := rfl
    unfold expired
    rw [same, inserted_partitions, split]
    cases store.kept with
    | none => exact ⟨Nat.le_refl 0, Nat.zero_le 1⟩
    | some kept =>
      simp only [List.length_append, List.length_cons]
      omega
  obtain ⟨earlier, later⟩ := expires
  refine ⟨((store.older point.timestamp).drop store.expired).take
    ((store.inserted name point).expired - store.expired), _, ?_, ?_, after⟩
  · rw [List.length_take]
    omega
  · have again : (store.older point.timestamp).drop (store.inserted name point).expired =
        ((store.older point.timestamp).drop store.expired).drop
          ((store.inserted name point).expired - store.expired) := by
      rw [List.drop_drop]
      congr 1
      omega
    rw [again, List.take_append_drop, before, List.append_assoc]

theorem Sound.hidden_is_oldest {slot : Slot} (before : slot ∈ store.seen)
    (after : slot ∉ (store.inserted name point).seen) : store.seen.head? = some slot := by
  obtain ⟨hidden, remaining, single, shown, left⟩ := sound.visible_inserted admits name
  unfold seen at before after ⊢
  rw [left] at after
  rw [shown] at before ⊢
  obtain ⟨partition, member, rfl⟩ := List.mem_map.mp before
  simp only [List.mem_append, Option.mem_toList] at member
  rcases member with ((gone | stays) | around) | newer
  · have length := Nat.le_antisymm single (List.length_pos_of_mem gone)
    obtain ⟨only, rfl⟩ := List.length_eq_one_iff.mp length
    rw [List.mem_singleton.mp gone]
    rfl
  · exact absurd (List.mem_map_of_mem (List.mem_append_left _ stays)) after
  · have same : (store.grown name point).slot = partition.slot := by
      change (store.target point.timestamp).slot = partition.slot
      unfold target
      rw [around]
      rfl
    refine absurd ?_ after
    rw [← same]
    exact List.mem_map_of_mem (List.mem_append_right _ List.mem_cons_self)
  · refine absurd (List.mem_map_of_mem ?_) after
    exact List.mem_append_right _ (List.mem_cons_of_mem _ newer)

theorem Sound.own_slot_seen :
    Slot.around point.timestamp store.duration ∈ (store.inserted name point).seen := by
  obtain ⟨_, remaining, _, _, left⟩ := sound.visible_inserted admits name
  have same : (store.grown name point).slot = Slot.around point.timestamp store.duration :=
    (sound.target_sound point.timestamp).2
  unfold seen
  rw [left, ← same]
  exact List.mem_map_of_mem (List.mem_append_right _ List.mem_cons_self)

/-- No slot comes back into view. -/
theorem Sound.seen_before {slot : Slot} (after : slot ∈ (store.inserted name point).seen)
    (held : slot ∈ store.slots) : slot ∈ store.seen := by
  obtain ⟨hidden, remaining, _, shown, left⟩ := sound.visible_inserted admits name
  have located := sound.located point.timestamp
  have around : (store.grown name point).slot = Slot.around point.timestamp store.duration :=
    (sound.target_sound point.timestamp).2
  unfold seen at after ⊢
  rw [left] at after
  rw [shown]
  obtain ⟨partition, member, rfl⟩ := List.mem_map.mp after
  rcases List.mem_append.mp member with stays | member
  · exact List.mem_map_of_mem (by simp [stays])
  · rcases List.mem_cons.mp member with rfl | newer
    · -- The slot was held before, so the partition around the point is the one that held it.
      obtain ⟨partition, member, same⟩ := List.mem_map.mp held
      have inside : partition.slot.holds point.timestamp = true := by
        rw [same, around]
        exact Slot.holds_around _ _
      rw [Slot.holds_iff] at inside
      rw [located.split] at member
      simp only [List.mem_append, Option.mem_toList] at member
      rw [← same]
      rcases member with (older | current) | newer
      · exact absurd (located.before partition older) (Ranged.not_lt.mpr inside.2)
      · exact List.mem_map_of_mem (by simp [current])
      · exact absurd (located.after partition newer) (Ranged.not_lt.mpr inside.1)
    · exact List.mem_map_of_mem (by simp [newer])

end Inserted

/-! ### The points that reads see -/

theorem Sound.mem_pointsOf_inserted (sound : store.Sound) (other : String) (one : Point) :
    one ∈ (store.inserted name point).pointsOf other ↔ other = name ∧ one = point ∨
      one ∈ store.pointsOf other ∧ ¬(other = name ∧ one.timestamp = point.timestamp) := by
  rw [sound.pointsOf_inserted]
  split
  next named =>
    rw [Keyed.mem_place (sound.pointsOf_ordered other)]
    change one = point ∨ one ∈ _ ∧ one.timestamp ≠ point.timestamp ↔ _
    simp [named]
  next named => simp [Ne.symm named]

theorem Sound.mem_slots (sound : store.Sound) {other : String} {one : Point}
    (member : one ∈ store.pointsOf other) :
    Slot.around one.timestamp store.duration ∈ store.slots := by
  obtain ⟨partition, held, member⟩ := List.mem_flatMap.mp member
  have whole := sound.partitions partition held
  rw [← whole.slot_eq (whole.pointsOf_inside member)]
  exact List.mem_map_of_mem held

/-- Reads see the new point, and of the others those in the slots that are still seen. -/
theorem Sound.mem_visiblePointsOf_inserted (sound : store.Sound)
    (admits : store.Admits point.timestamp) (other : String) (one : Point) :
    one ∈ (store.inserted name point).visiblePointsOf other ↔ other = name ∧ one = point ∨
      one ∈ store.visiblePointsOf other ∧
        Slot.around one.timestamp store.duration ∈ (store.inserted name point).seen ∧
          ¬(other = name ∧ one.timestamp = point.timestamp) := by
  rw [(sound.inserted point).mem_visiblePointsOf, sound.mem_pointsOf_inserted,
    sound.mem_visiblePointsOf]
  change _ ∧ Slot.around one.timestamp store.duration ∈ (store.inserted name point).seen ↔
    _ ∨ (_ ∧ Slot.around one.timestamp store.duration ∈ store.seen) ∧ _
  constructor
  · rintro ⟨⟨named, same⟩ | ⟨member, elsewhere⟩, shown⟩
    · exact .inl ⟨named, same⟩
    · have before := sound.seen_before admits shown (sound.mem_slots member)
      exact .inr ⟨⟨member, before⟩, shown, elsewhere⟩
  · rintro (⟨named, same⟩ | ⟨⟨member, _⟩, shown, elsewhere⟩)
    · rw [same]
      exact ⟨.inl ⟨named, rfl⟩, sound.own_slot_seen admits⟩
    · exact ⟨.inr ⟨member, elsewhere⟩, shown⟩

theorem Sound.select_at (sound : store.Sound) (opened : store.closed = false)
    (member : point ∈ store.visiblePointsOf name) :
    store.select name point.timestamp point.timestamp = .ok [point] := by
  have ordered : Keyed.Ascending (store.visiblePointsOf name) := sound.sweep.pointsOf_ordered name
  have alone : (store.visiblePointsOf name).filter
      (Point.between point.timestamp point.timestamp) = [point] := by
    refine (ordered.sublist List.filter_sublist).eq_of_mem_iff (List.pairwise_singleton _ _) ?_
    intro other
    rw [List.mem_filter, List.mem_singleton, Point.between_iff]
    constructor
    · rintro ⟨listed, notBefore, notAfter⟩
      have same := Ranged.ext (Int.le_antisymm notAfter notBefore)
      exact ordered.eq_of_key listed member same
    · rintro rfl
      exact ⟨member, Int.le_refl _, Int.le_refl _⟩
  rw [sound.select_eq opened name (Int.le_refl _), alone]

/-- A point that is accepted is read back at once, alone at its time. At most one slot seen before is
hidden by it, the oldest; all other points seen before are still returned, except for the one that
the new point replaces. -/
theorem accepted_point_is_read_back {config : StoreConfig} {next : Store}
    (created : create config = .ok store) (actions : List StoreAction)
    (accepted : (store.run actions).insert name point = .ok next) :
    next.select name point.timestamp point.timestamp = .ok [point] ∧
      (∀ slot ∈ (store.run actions).seen, slot ∉ next.seen →
        (store.run actions).seen.head? = some slot) ∧
      ∀ other one, next.Shows other one ↔ other = name ∧ one = point ∨
        (store.run actions).Shows other one ∧
          Slot.around one.timestamp config.duration ∈ next.seen ∧
            ¬(other = name ∧ one.timestamp = point.timestamp) := by
  have related := Ledger.related_run created actions
  have sound := related.sound
  have opened := related.opened
  have duration := related.duration
  rw [sound.insert_eq opened] at accepted
  split at accepted
  next admits =>
    cases accepted
    have grown : ((store.run actions).inserted name point).Sound := sound.inserted point
    refine ⟨?_, fun slot => sound.hidden_is_oldest admits, ?_⟩
    · apply grown.select_at opened
      exact (sound.mem_visiblePointsOf_inserted admits name point).mpr (.inl ⟨rfl, rfl⟩)
    · intro other one
      rw [grown.shows_iff opened, sound.shows_iff opened, ← duration,
        sound.mem_visiblePointsOf_inserted admits]
  next => cases accepted

def coldStore : Store where
  duration := 10
  writable := some 1
  kept := some 2
  window := ⟨{ past := some 10 }, none⟩

theorem cold_created : create coldConfig = .ok coldStore :=
  rfl

/-- With two slots kept, the first point of a third slot hides the first slot. It is read back, and
the point of the second slot is still shown. -/
theorem third_slot_hides_first : ∃ next,
    (coldStore.run (coldActions.take 2)).insert "s"
        ⟨Ranged.clamp 31, .int32 (Ranged.clamp 3)⟩ = .ok next ∧
      next.select "s" (Ranged.clamp 31) (Ranged.clamp 31) =
        .ok [⟨Ranged.clamp 31, .int32 (Ranged.clamp 3)⟩] ∧
      (coldStore.run (coldActions.take 2)).seen.head? = some (Slot.around (Ranged.clamp 5) 10) ∧
      Slot.around (Ranged.clamp 5) 10 ∉ next.seen ∧
      next.Shows "s" ⟨Ranged.clamp 25, .int32 (Ranged.clamp 2)⟩ := by
  have accepted : (coldStore.run (coldActions.take 2)).insert "s"
      ⟨Ranged.clamp 31, .int32 (Ranged.clamp 3)⟩ = .ok (coldStore.run (coldActions.take 3)) := rfl
  obtain ⟨alone, hidden, shown⟩ := accepted_point_is_read_back cold_created _ accepted
  refine ⟨_, accepted, alone, hidden _ ?_ ?_, ?_, (shown _ _).mpr (.inr ⟨?_, ?_, ?_⟩)⟩
  · decide +kernel
  · decide +kernel
  · decide +kernel
  · apply (Sound.shows_iff (Ledger.related_run cold_created _).sound rfl).mpr
    decide +kernel
  · decide +kernel
  · decide +kernel

end TimeSeries.Store
