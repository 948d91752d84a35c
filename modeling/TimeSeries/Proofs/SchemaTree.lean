import Mathlib.Data.List.Induction
import TimeSeries.Proofs.PathTree
import TimeSeries.Proofs.RegistryContents

/-! The shape of a schema. Storage groups lie apart from each other, every series lies strictly
below exactly one of them, and series lie apart from each other and above no group. All changes of a
schema keep this, in any order and whatever they are given. -/

namespace TimeSeries

inductive SchemaAction where
  | setGroup (text : String)
  | deleteGroups (texts : List String)
  | createSeries (text : String) (dataType : DataType) (encoding : Encoding)
      (compression : Compression)
  | deleteSeries (texts : List String)

namespace Registry

def settle {Result : Type} (registry : Registry) (change : Except SchemaError (Result × Registry)) :
    Registry :=
  match change with
  | .ok (_, next) => next
  | .error _ => registry

def perform (registry : Registry) : SchemaAction → Registry
  | .setGroup text => registry.settle (registry.setGroup text)
  | .deleteGroups texts => registry.settle (registry.deleteGroups texts)
  | .createSeries text dataType encoding compression =>
    registry.settle (registry.createSeries text dataType encoding compression)
  | .deleteSeries texts => registry.settle (registry.deleteSeries texts)

def run (registry : Registry) (actions : List SchemaAction) : Registry :=
  actions.foldl perform registry

/-- What every action keeps. That a series has only one group and lies above none follows. -/
structure WellPlaced (registry : Registry) : Prop where
  groupOrder : Keyed.Ascending registry.groups
  seriesOrder : registry.Sound
  groupDepth : ∀ group ∈ registry.groups, 2 ≤ group.depth
  groupsApart : ∀ first ∈ registry.groups, ∀ second ∈ registry.groups,
    first.Above second → first = second
  encoded : ∀ definition ∈ registry.series,
    definition.dataType.supports definition.encoding = true
  grouped : ∀ definition ∈ registry.series, definition.group ∈ registry.groups ∧
    definition.group.Above definition.path ∧ definition.group ≠ definition.path
  seriesApart : ∀ first ∈ registry.series, ∀ second ∈ registry.series,
    first.path.Above second.path → first = second

variable {registry next : Registry}

theorem wellPlaced_empty : WellPlaced {} where
  groupOrder := List.Pairwise.nil
  seriesOrder := sound_empty
  groupDepth := by simp
  groupsApart := by simp
  encoded := by simp
  grouped := by simp
  seriesApart := by simp

section Consequences

variable (placed : registry.WellPlaced) {definition : Definition}
  (declared : definition ∈ registry.series) {group : Path} (set : group ∈ registry.groups)

include placed declared set

/-- Groups above one series are comparable, so there is only one. -/
theorem WellPlaced.group_eq (above : group.Above definition.path) : group = definition.group := by
  obtain ⟨own, covers, _⟩ := placed.grouped definition declared
  rcases above.comparable covers with higher | lower
  · exact placed.groupsApart group set definition.group own higher
  · exact (placed.groupsApart definition.group own group set lower).symm

theorem WellPlaced.not_above_group : ¬definition.path.Above group := by
  intro above
  obtain ⟨own, covers, strict⟩ := placed.grouped definition declared
  have same := placed.groupsApart definition.group own group set (covers.trans above)
  exact strict (covers.antisymm (same.symm ▸ above))

end Consequences

/-! ### One action -/

theorem WellPlaced.addGroup (placed : registry.WellPlaced) {path : Path} (deep : 2 ≤ path.depth)
    (apart : ∀ group ∈ registry.groups, ¬group.Above path ∧ ¬path.Above group) :
    WellPlaced { registry with groups := Keyed.place path registry.groups } := by
  have member {group : Path} : group ∈ Keyed.place path registry.groups ↔
      group = path ∨ group ∈ registry.groups ∧ group ≠ path :=
    Keyed.mem_place placed.groupOrder
  refine { placed with
    groupOrder := placed.groupOrder.place path, groupDepth := ?_, groupsApart := ?_, grouped := ?_ }
  · intro group listed
    rcases member.mp listed with rfl | ⟨old, _⟩
    · exact deep
    · exact placed.groupDepth group old
  · intro first firstListed second secondListed above
    rcases member.mp firstListed with rfl | ⟨firstOld, _⟩
    · rcases member.mp secondListed with rfl | ⟨secondOld, _⟩
      · rfl
      · exact absurd above (apart second secondOld).2
    · rcases member.mp secondListed with rfl | ⟨secondOld, _⟩
      · exact absurd above (apart first firstOld).1
      · exact placed.groupsApart first firstOld second secondOld above
  · intro definition declared
    obtain ⟨own, covers, strict⟩ := placed.grouped definition declared
    refine ⟨member.mpr (.inr ⟨own, ?_⟩), covers, strict⟩
    rintro rfl
    exact (apart definition.group own).1 (.refl _)

theorem WellPlaced.addSeries (placed : registry.WellPlaced) {definition : Definition}
    (takes : registry.Takes definition) :
    WellPlaced { registry with series := Keyed.place definition registry.series } := by
  have member {other : Definition} : other ∈ Keyed.place definition registry.series ↔
      other = definition ∨ other ∈ registry.series ∧ other.path ≠ definition.path :=
    Keyed.mem_place placed.seriesOrder
  have apart : ∀ other ∈ registry.series, ¬other.path.Above definition.path ∧
      ¬definition.path.Above other.path := by
    simpa only [Path.isAbove_eq_false_iff] using takes.apart
  refine { placed with
    seriesOrder := placed.seriesOrder.place definition
    encoded := ?_, grouped := ?_, seriesApart := ?_ }
  · intro other declared
    rcases member.mp declared with rfl | ⟨old, _⟩
    · exact takes.supported
    · exact placed.encoded other old
  · intro other declared
    rcases member.mp declared with rfl | ⟨old, _⟩
    · exact ⟨takes.grouped, Path.isAbove_iff.mp takes.below, takes.strict⟩
    · exact placed.grouped other old
  · intro first firstDeclared second secondDeclared above
    rcases member.mp firstDeclared with rfl | ⟨firstOld, _⟩
    · rcases member.mp secondDeclared with rfl | ⟨secondOld, _⟩
      · rfl
      · exact absurd above (apart second secondOld).2
    · rcases member.mp secondDeclared with rfl | ⟨secondOld, _⟩
      · exact absurd above (apart first firstOld).1
      · exact placed.seriesApart first firstOld second secondOld above

/-- Groups and series can be taken away as long as no series outlives its group. -/
theorem WellPlaced.shrink (placed : registry.WellPlaced)
    (groups : next.groups.Sublist registry.groups) (series : next.series.Sublist registry.series)
    (kept : ∀ definition ∈ next.series, definition.group ∈ next.groups) : next.WellPlaced where
  groupOrder := placed.groupOrder.sublist groups
  seriesOrder := Keyed.Ascending.sublist placed.seriesOrder series
  groupDepth := fun group set => placed.groupDepth group (groups.subset set)
  groupsApart := fun first firstSet second secondSet =>
    placed.groupsApart first (groups.subset firstSet) second (groups.subset secondSet)
  encoded := fun definition declared => placed.encoded definition (series.subset declared)
  grouped := fun definition declared =>
    ⟨kept definition declared, (placed.grouped definition (series.subset declared)).2⟩
  seriesApart := fun first firstDeclared second secondDeclared =>
    placed.seriesApart first (series.subset firstDeclared) second (series.subset secondDeclared)

theorem WellPlaced.setGroup (placed : registry.WellPlaced) {text : String} {fresh : Bool}
    (changed : registry.setGroup text = .ok (fresh, next)) : next.WellPlaced := by
  rcases setGroup_cases changed with rfl | ⟨path, _, deep, apart, rfl⟩
  · exact placed
  · exact placed.addGroup deep (by simpa only [Path.isAbove_eq_false_iff] using apart)

theorem WellPlaced.createSeries (placed : registry.WellPlaced) {text : String}
    {dataType : DataType} {encoding : Encoding} {compression : Compression} {fresh : Bool}
    (changed : registry.createSeries text dataType encoding compression = .ok (fresh, next)) :
    next.WellPlaced := by
  rcases createSeries_cases changed with rfl | ⟨definition, _, _, takes, rfl⟩
  · exact placed
  · exact placed.addSeries takes

theorem WellPlaced.deleteGroups (placed : registry.WellPlaced) {texts : List String}
    {lost : List Path} (changed : registry.deleteGroups texts = .ok (lost, next)) :
    next.WellPlaced := by
  obtain ⟨paths, _, removed⟩ := deleteGroups_ok changed
  have groups := removeGroups_groups paths registry
  have series := removeGroups_series paths registry
  rw [removed] at groups series
  refine placed.shrink (groups ▸ List.filter_sublist) (series ▸ List.filter_sublist) ?_
  intro definition declared
  rw [series, List.mem_filter] at declared
  rw [groups, List.mem_filter]
  exact ⟨(placed.grouped definition declared.1).1, declared.2⟩

theorem WellPlaced.deleteSeries (placed : registry.WellPlaced) {texts : List String}
    {lost : List Path} (changed : registry.deleteSeries texts = .ok (lost, next)) :
    next.WellPlaced := by
  obtain ⟨_, rfl⟩ := deleteSeries_ok changed
  refine placed.shrink (List.Sublist.refl _) List.filter_sublist ?_
  intro definition declared
  exact (placed.grouped definition (List.mem_filter.mp declared).1).1

theorem settle_keeps {Result : Type} {change : Except SchemaError (Result × Registry)}
    {kept : Registry → Prop} (holds : kept registry)
    (accepted : ∀ result next, change = .ok (result, next) → kept next) :
    kept (registry.settle change) := by
  cases change with
  | error error => exact holds
  | ok changed => exact accepted changed.1 changed.2 rfl

theorem WellPlaced.perform (placed : registry.WellPlaced) (action : SchemaAction) :
    (registry.perform action).WellPlaced := by
  cases action with
  | setGroup text => exact settle_keeps placed fun _ _ => placed.setGroup
  | deleteGroups texts => exact settle_keeps placed fun _ _ => placed.deleteGroups
  | createSeries text dataType encoding compression =>
    exact settle_keeps placed fun _ _ => placed.createSeries
  | deleteSeries texts => exact settle_keeps placed fun _ _ => placed.deleteSeries

/-! ### All actions -/

theorem wellPlaced_run (actions : List SchemaAction) : (run {} actions).WellPlaced := by
  induction actions using List.reverseRecOn with
  | nil => exact wellPlaced_empty
  | append_singleton earlier action ih =>
    rw [run, List.foldl_append]
    exact ih.perform action

/-- Whatever is asked of a schema, its groups have a node below the root and lie apart; and each
declared series is found under its path, has an encoding of its type, lies strictly below its group
and below no other, and lies above neither another series nor a group. -/
theorem series_lie_below_one_group (actions : List SchemaAction) :
    (∀ group ∈ (run {} actions).groups, 2 ≤ group.depth ∧
        ∀ other ∈ (run {} actions).groups, group.Above other → group = other) ∧
      ∀ definition ∈ (run {} actions).series,
        (run {} actions).find? definition.path = some definition ∧
        definition.dataType.supports definition.encoding = true ∧
        definition.group ∈ (run {} actions).groups ∧
        definition.group.Above definition.path ∧ definition.group ≠ definition.path ∧
        (∀ group ∈ (run {} actions).groups,
          group.Above definition.path → group = definition.group) ∧
        (∀ other ∈ (run {} actions).series,
          definition.path.Above other.path → definition = other) ∧
        ∀ group ∈ (run {} actions).groups, ¬definition.path.Above group := by
  have placed := wellPlaced_run actions
  refine ⟨fun group set => ⟨placed.groupDepth group set, placed.groupsApart group set⟩, ?_⟩
  intro definition declared
  obtain ⟨own, covers, strict⟩ := placed.grouped definition declared
  have found := (Keyed.find?_eq_some_iff placed.seriesOrder).mpr ⟨declared, rfl⟩
  exact ⟨found, placed.encoded definition declared, own, covers, strict,
    fun _ set => placed.group_eq declared set, placed.seriesApart definition declared,
    fun _ set => placed.not_above_group declared set⟩

end Registry

end TimeSeries
