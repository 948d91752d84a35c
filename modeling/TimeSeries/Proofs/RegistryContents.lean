import TimeSeries.Proofs.Ascending
import TimeSeries.Proofs.PathText
import TimeSeries.Schema.Registry

/-! What changes of a schema do to the series found in it. A declaration adds one series that was
not there, and a deletion takes away exactly the series that it lists. -/

namespace TimeSeries.Registry

variable {registry next : Registry}

def Sound (registry : Registry) : Prop :=
  Keyed.Ascending registry.series

theorem sound_empty : Sound {} :=
  List.Pairwise.nil

theorem contains_iff {path : Path} :
    registry.contains path = true ↔ ∃ definition, registry.find? path = some definition :=
  Option.isSome_iff_exists

theorem path_of_find? {path : Path} {definition : Definition}
    (found : registry.find? path = some definition) : definition.path = path :=
  (Keyed.mem_of_find? found).2

structure Loses (registry : Registry) (lost : List Path) (next : Registry) : Prop where
  sound : next.Sound
  found : ∀ path, next.find? path = if path ∈ lost then none else registry.find? path

/-! ### Declarations -/

theorem setGroup_cases {text : String} {fresh : Bool}
    (changed : registry.setGroup text = .ok (fresh, next)) :
    next = registry ∨ ∃ path : Path, path.text = text ∧ 2 ≤ path.depth ∧
      (∀ group ∈ registry.groups, group.isAbove path = false ∧ path.isAbove group = false) ∧
      next = { registry with groups := Keyed.place path registry.groups } := by
  unfold setGroup at changed
  cases read : SchemaError.readPath text with
  | error fault =>
    rw [read] at changed
    cases changed
  | ok path =>
    have spelled := SchemaError.text_of_readPath read
    simp only [read, bind, Except.bind, pure, Except.pure] at changed
    split at changed
    · cases changed
    next deep =>
      split at changed
      · cases changed
        exact .inl rfl
      · split at changed
        · cases changed
        next none =>
          cases changed
          refine .inr ⟨path, spelled, Nat.not_lt.mp deep, ?_, rfl⟩
          simpa using none

/-- A series that can be added: it lies in a group and apart from all other series, and its encoding
goes with its type. -/
structure Takes (registry : Registry) (definition : Definition) : Prop where
  supported : definition.dataType.supports definition.encoding = true
  grouped : definition.group ∈ registry.groups
  below : definition.group.isAbove definition.path = true
  strict : definition.group ≠ definition.path
  absent : registry.find? definition.path = none
  apart : ∀ other ∈ registry.series, other.path.isAbove definition.path = false ∧
    definition.path.isAbove other.path = false

/-- A declaration that is accepted was there before or is new under its path. -/
theorem createSeries_cases {text : String} {dataType : DataType} {encoding : Encoding}
    {compression : Compression} {fresh : Bool}
    (changed : registry.createSeries text dataType encoding compression = .ok (fresh, next)) :
    next = registry ∨ ∃ definition, definition.path.text = text ∧
      definition.dataType = dataType ∧ registry.Takes definition ∧
      next = { registry with series := Keyed.place definition registry.series } := by
  unfold createSeries at changed
  cases read : SchemaError.readPath text with
  | error fault =>
    rw [read] at changed
    cases changed
  | ok path =>
    have spelled := SchemaError.text_of_readPath read
    simp only [read, bind, Except.bind, pure, Except.pure] at changed
    split at changed
    · cases changed
    next supported =>
      split at changed
      · cases changed
      next group above =>
        split at changed
        · cases changed
        next strict =>
          split at changed
          next existing found =>
            split at changed
            · cases changed
              exact .inl rfl
            · cases changed
          next absent =>
            split at changed
            · cases changed
            next none =>
              cases changed
              have below := List.find?_some above
              refine .inr ⟨⟨path, group, dataType, encoding, compression⟩, spelled, rfl, ?_, rfl⟩
              exact {
                supported := by simpa using supported
                grouped := List.mem_of_find?_eq_some above
                below, strict, absent
                apart := by simpa using none }

theorem Sound.place (sound : registry.Sound) (definition : Definition) :
    Sound { registry with series := Keyed.place definition registry.series } :=
  Keyed.Ascending.place sound definition

theorem find?_placed (definition : Definition) (path : Path) :
    find? { registry with series := Keyed.place definition registry.series } path =
      if definition.path = path then some definition else registry.find? path :=
  Keyed.find?_place definition path registry.series

/-! ### Deletions -/

theorem removeGroups_series (paths : List Path) (registry : Registry) :
    (removeGroups paths registry).2.series =
      registry.series.filter fun definition => definition.group ∉ paths := by
  induction paths generalizing registry with
  | nil => simp [removeGroups]
  | cons path paths ih =>
    simp only [removeGroups, List.partition_eq_filter_filter, ih, List.filter_filter]
    refine List.filter_congr fun definition _ => ?_
    simp [Bool.and_comm]

theorem mem_removeGroups (paths : List Path) (registry : Registry) (lost : Path) :
    lost ∈ (removeGroups paths registry).1 ↔
      ∃ definition ∈ registry.series, definition.path = lost ∧ definition.group ∈ paths := by
  induction paths generalizing registry with
  | nil => simp [removeGroups]
  | cons path paths ih =>
    simp only [removeGroups, List.partition_eq_filter_filter, List.mem_append, ih, List.mem_map,
      List.mem_filter, List.mem_cons]
    constructor
    · rintro (⟨definition, ⟨member, inGroup⟩, same⟩ | ⟨definition, ⟨member, _⟩, same, later⟩)
      · exact ⟨definition, member, same, .inl (of_decide_eq_true inGroup)⟩
      · exact ⟨definition, member, same, .inr later⟩
    · rintro ⟨definition, member, same, grouped⟩
      by_cases inGroup : definition.group = path
      · exact .inl ⟨definition, ⟨member, decide_eq_true inGroup⟩, same⟩
      · exact .inr ⟨definition, ⟨member, by simpa using inGroup⟩, same,
          grouped.resolve_left inGroup⟩

theorem removeGroups_groups (paths : List Path) (registry : Registry) :
    (removeGroups paths registry).2.groups = registry.groups.filter fun group => group ∉ paths := by
  induction paths generalizing registry with
  | nil => simp [removeGroups]
  | cons path paths ih =>
    simp only [removeGroups, ih, Keyed.without, List.filter_filter]
    refine List.filter_congr fun group _ => ?_
    simp [Keyed.key, Bool.and_comm]

theorem deleteGroups_ok {texts : List String} {lost : List Path}
    (changed : registry.deleteGroups texts = .ok (lost, next)) :
    ∃ paths : List Path, paths.map Path.text = texts ∧
      removeGroups paths registry = (lost, next) := by
  unfold deleteGroups at changed
  cases read : texts.mapM SchemaError.readPath with
  | error fault =>
    rw [read] at changed
    cases changed
  | ok paths =>
    have spelled := items_of_mapM read fun _ _ => SchemaError.text_of_readPath
    simp only [read, bind, Except.bind, pure, Except.pure] at changed
    split at changed
    · cases changed
    · exact ⟨paths, spelled, Except.ok.inj changed⟩

theorem deleteSeries_ok {texts : List String} {lost : List Path}
    (changed : registry.deleteSeries texts = .ok (lost, next)) :
    lost.map Path.text = texts ∧ next = { registry with
      series := registry.series.filter fun definition => definition.path ∉ lost } := by
  unfold deleteSeries at changed
  cases read : texts.mapM SchemaError.readPath with
  | error fault =>
    rw [read] at changed
    cases changed
  | ok paths =>
    have spelled := items_of_mapM read fun _ _ => SchemaError.text_of_readPath
    simp only [read, bind, Except.bind, pure, Except.pure] at changed
    split at changed
    · cases changed
    · cases changed
      exact ⟨spelled, rfl⟩

/-- The series lost with storage groups are those declared in one of them. -/
theorem Sound.deleteGroups (sound : registry.Sound) {texts : List String} {lost : List Path}
    (changed : registry.deleteGroups texts = .ok (lost, next)) :
    registry.Loses lost next ∧ ∀ path, path ∈ lost ↔
      ∃ definition, registry.find? path = some definition ∧ definition.group.text ∈ texts := by
  obtain ⟨paths, spelled, removed⟩ := deleteGroups_ok changed
  have listed (path : Path) : path ∈ lost ↔
      ∃ definition, registry.find? path = some definition ∧ definition.group ∈ paths := by
    have member := mem_removeGroups paths registry path
    rw [removed] at member
    simp only [member, find?, Keyed.find?_eq_some_iff sound, and_assoc]
    rfl
  have series := removeGroups_series paths registry
  rw [removed] at series
  refine ⟨⟨?_, ?_⟩, ?_⟩
  · unfold Sound
    rw [series]
    exact sound.sublist List.filter_sublist
  · intro path
    unfold find? at listed ⊢
    rw [series, Keyed.find?_filter sound]
    cases found : Keyed.find? path registry.series with
    | none => simp
    | some definition => simp [listed, found, Option.filter]
  · intro path
    rw [listed, ← spelled]
    simp only [List.mem_map_of_injective fun _ _ => Path.text_injective]

theorem Sound.deleteSeries (sound : registry.Sound) {texts : List String} {lost : List Path}
    (changed : registry.deleteSeries texts = .ok (lost, next)) :
    registry.Loses lost next ∧ lost.map Path.text = texts := by
  obtain ⟨spelled, rfl⟩ := deleteSeries_ok changed
  refine ⟨⟨sound.sublist List.filter_sublist, ?_⟩, spelled⟩
  intro path
  unfold find?
  rw [Keyed.find?_filter sound]
  cases found : Keyed.find? path registry.series with
  | none => simp
  | some definition =>
    have same : definition.path = path := (Keyed.mem_of_find? found).2
    simp [same, Option.filter]

end TimeSeries.Registry
