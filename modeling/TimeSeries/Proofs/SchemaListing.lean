import TimeSeries.Proofs.ByteOrder
import TimeSeries.Proofs.NamedPaths
import TimeSeries.Proofs.PathPatterns
import TimeSeries.Proofs.SchemaTree

/-! Listing and deletion of what a schema declares. A pattern lists the series that it matches node
by node, in the order of their bytes. Groups and series are named by patterns without wildcards, and
since they lie apart, the name of a series lists that series alone and the name of a group lists the
series that are deleted with it. -/

namespace TimeSeries

theorem filter_eraseDups {α : Type} [DecidableEq α] (keep : α → Bool) (items : List α) :
    (items.filter keep).eraseDups = items.eraseDups.filter keep := by
  cases items with
  | nil => rfl
  | cons first rest =>
    -- what follows the first item is a filtered list, so the recursion is on the length
    have shorter := filter_eraseDups keep (rest.filter fun item => !item == first)
    rw [List.eraseDups_cons, List.filter_cons, List.filter_cons]
    split
    next kept => rw [List.eraseDups_cons, List.filter_comm, shorter]
    next left =>
      rw [← shorter, List.filter_filter]
      congr 1
      refine List.filter_congr fun item _ => ?_
      by_cases same : item = first
      · simp [same, left]
      · simp [same]
termination_by items.length
decreasing_by
  have := List.length_filter_le (fun item => !item == first) rest
  simp
  omega

namespace Path

variable {pattern path : Path}

def bytes (path : Path) : List UInt8 :=
  Text.bytes path.text

theorem plain_of_read {Result : Type} {next : Path → Except SchemaError Result} {result : Result}
    {text : String} (done : SchemaError.readPath text >>= next = .ok result)
    (spelled : path.text = text) : path.hasWildcard = false := by
  cases parsed : parse text with
  | error fault =>
    rw [SchemaError.readPath, parsed] at done
    cases done
  | ok found =>
    have same : path = found := text_injective (spelled.trans (text_of_parse parsed).symm)
    exact same ▸ no_wildcard_of_parse parsed

end Path

namespace Registry

variable {registry next : Registry}

/-! ### No declared path has a wildcard -/

structure Plain (registry : Registry) : Prop where
  groups : ∀ group ∈ registry.groups, group.hasWildcard = false
  series : ∀ definition ∈ registry.series, definition.path.hasWildcard = false

theorem Plain.shrink (plain : registry.Plain) (groups : next.groups ⊆ registry.groups)
    (series : next.series ⊆ registry.series) : next.Plain :=
  ⟨fun group set => plain.groups group (groups set),
    fun definition declared => plain.series definition (series declared)⟩

theorem Plain.perform (plain : registry.Plain) (placed : registry.WellPlaced)
    (action : SchemaAction) : (registry.perform action).Plain := by
  cases action with
  | setGroup text =>
    refine settle_keeps plain fun fresh next changed => ?_
    rcases setGroup_cases changed with rfl | ⟨path, spelled, _, _, rfl⟩
    · exact plain
    · refine ⟨fun group set => ?_, plain.series⟩
      rcases (Keyed.mem_place placed.groupOrder).mp set with rfl | ⟨old, _⟩
      · exact Path.plain_of_read changed spelled
      · exact plain.groups group old
  | createSeries text dataType encoding compression =>
    refine settle_keeps plain fun fresh next changed => ?_
    rcases createSeries_cases changed with rfl | ⟨definition, spelled, _, _, rfl⟩
    · exact plain
    · refine ⟨plain.groups, fun other declared => ?_⟩
      rcases (Keyed.mem_place placed.seriesOrder).mp declared with rfl | ⟨old, _⟩
      · exact Path.plain_of_read changed spelled
      · exact plain.series other old
  | deleteGroups texts =>
    refine settle_keeps plain fun lost next changed => ?_
    obtain ⟨paths, _, removed⟩ := deleteGroups_ok changed
    have groups := removeGroups_groups paths registry
    have series := removeGroups_series paths registry
    rw [removed] at groups series
    exact plain.shrink (groups ▸ List.filter_subset_self _) (series ▸ List.filter_subset_self _)
  | deleteSeries texts =>
    refine settle_keeps plain fun lost next changed => ?_
    obtain ⟨_, rfl⟩ := deleteSeries_ok changed
    exact plain.shrink (List.Subset.refl _) (List.filter_subset_self _)

theorem plain_run (actions : List SchemaAction) : (run {} actions).Plain := by
  induction actions using List.reverseRecOn with
  | nil => exact ⟨by simp [run], by simp [run]⟩
  | append_singleton earlier action ih =>
    rw [run, List.foldl_append]
    exact ih.perform (wellPlaced_run earlier) action

/-! ### Listing -/

def shown (registry : Registry) (pattern : Path) : List Definition :=
  registry.series.filter fun definition => pattern.selects definition.path

theorem show?_eq {text : String} {pattern : Path}
    (parsed : Path.parsePattern text = .ok pattern) :
    registry.show? text = .ok (registry.shown pattern) := by
  unfold show? SchemaError.readPattern
  rw [parsed]
  rfl

theorem show?_text (path : Path) : registry.show? path.text = .ok (registry.shown path) := by
  apply show?_eq
  rw [Path.parsePattern, Path.read_text]
  rfl

section Shown

variable (placed : registry.WellPlaced) (plain : registry.Plain)

include placed

theorem WellPlaced.shown_sorted (pattern : Path) : (registry.shown pattern).Pairwise
    fun before after => before.path.bytes < after.path.bytes :=
  (placed.seriesOrder.sublist List.filter_sublist).imp Text.bytes_lt

include plain

theorem WellPlaced.shown_series {definition : Definition}
    (declared : definition ∈ registry.series) :
    registry.shown definition.path = [definition] := by
  refine Keyed.Ascending.eq_of_mem_iff (placed.seriesOrder.sublist List.filter_sublist)
    (List.pairwise_singleton _ _) fun other => ?_
  rw [shown, List.mem_filter, List.mem_singleton,
    Path.selects_iff_above (plain.series definition declared)]
  constructor
  · rintro ⟨member, above⟩
    exact (placed.seriesApart definition declared other member above).symm
  · rintro rfl
    exact ⟨declared, .refl _⟩

theorem WellPlaced.shown_group {group : Path} (set : group ∈ registry.groups) :
    registry.shown group = registry.series.filter fun definition => definition.group = group := by
  refine List.filter_congr fun definition declared => ?_
  rw [Bool.eq_iff_iff, Path.selects_iff_above (plain.groups group set), decide_eq_true_eq]
  constructor
  · intro above
    exact (placed.group_eq declared set above).symm
  · rintro rfl
    exact (placed.grouped definition declared).2.1

end Shown

/-! ### Deletion -/

/-- Without the series of a group all groups but this one have theirs. -/
theorem flatMap_outside (series : List Definition) (group : Path) (groups : List Path) :
    (groups.flatMap fun other => (series.filter fun definition => !definition.group = group).filter
        fun definition => definition.group = other) =
      (groups.filter fun other => !other == group).flatMap fun other =>
        series.filter fun definition => definition.group = other := by
  induction groups with
  | nil => rfl
  | cons other groups ih =>
    rw [List.flatMap_cons, ih, List.filter_filter]
    by_cases same : other = group
    · simp [same]
    · have inside : (series.filter fun definition =>
            decide (definition.group = other) && !decide (definition.group = group)) =
          series.filter fun definition => definition.group = other := by
        refine List.filter_congr fun definition _ => ?_
        by_cases own : definition.group = other <;> simp [own, same]
      simp [same, inside]

/-- The series lost with groups are listed group by group, at the first mention of each. -/
theorem removeGroups_lost (paths : List Path) (registry : Registry) :
    (removeGroups paths registry).1 = (paths.eraseDups.flatMap fun path =>
      registry.series.filter fun definition => definition.group = path).map Definition.path := by
  induction paths generalizing registry with
  | nil => rfl
  | cons path paths ih =>
    simp only [removeGroups, List.partition_eq_filter_filter, ih, List.eraseDups_cons,
      List.flatMap_cons, List.map_append, filter_eraseDups, flatMap_outside, Function.comp_def]

/-- No series is lost twice, as it is gone when its group is named again. -/
theorem Sound.removeGroups_nodup (sound : registry.Sound) (paths : List Path) :
    (removeGroups paths registry).1.Nodup := by
  induction paths generalizing registry with
  | nil => exact List.nodup_nil
  | cons path paths ih =>
    have left : Sound ⟨Keyed.without path registry.groups,
        registry.series.filter fun definition => !definition.group = path⟩ :=
      sound.sublist List.filter_sublist
    have distinct : (registry.series.map Definition.path).Nodup :=
      Keyed.Ascending.nodup_keys sound
    simp only [removeGroups, List.partition_eq_filter_filter]
    refine List.nodup_append.mpr ⟨?_, ih left, ?_⟩
    · exact distinct.sublist (List.filter_sublist.map _)
    · rintro lost first _ second rfl
      obtain ⟨definition, member, rfl⟩ := List.mem_map.mp first
      obtain ⟨other, otherMember, same, _⟩ := (mem_removeGroups paths _ _).mp second
      obtain ⟨declared, inGroup⟩ := List.mem_filter.mp member
      obtain ⟨otherDeclared, outside⟩ := List.mem_filter.mp otherMember
      have equal : other = definition := Keyed.Ascending.eq_of_key sound otherDeclared declared same
      simp [equal, of_decide_eq_true inGroup] at outside

/-- What goes with groups: the series that each of them lists, and nothing else. -/
structure LosesGroups (registry : Registry) (named lost : List Path) (next : Registry) : Prop where
  groups : next.groups = registry.groups.filter fun group => group ∉ named
  series : next.series = registry.series.filter fun definition => definition.path ∉ lost
  shows : ∀ group ∈ named, registry.show? group.text = .ok (registry.shown group)
  listed : lost = (named.eraseDups.flatMap registry.shown).map Definition.path
  distinct : lost.Nodup

structure LosesSeries (registry : Registry) (named lost : List Path) (next : Registry) : Prop where
  groups : next.groups = registry.groups
  series : next.series = registry.series.filter fun definition => definition.path ∉ named
  listed : lost = named

theorem WellPlaced.losesGroups (placed : registry.WellPlaced) (plain : registry.Plain)
    {named : List Path} (set : ∀ group ∈ named, group ∈ registry.groups) :
    registry.LosesGroups named (removeGroups named registry).1 (removeGroups named registry).2 where
  groups := removeGroups_groups named registry
  series := by
    rw [removeGroups_series]
    refine List.filter_congr fun definition declared => ?_
    rw [decide_eq_decide, not_iff_not, mem_removeGroups]
    constructor
    · intro grouped
      exact ⟨definition, declared, rfl, grouped⟩
    · rintro ⟨other, otherDeclared, same, grouped⟩
      exact Keyed.Ascending.eq_of_key placed.seriesOrder otherDeclared declared same ▸ grouped
  shows := fun group _ => show?_text group
  listed := by
    rw [removeGroups_lost, List.flatMap_congr]
    intro group member
    exact (placed.shown_group plain (set group (List.mem_eraseDups.mp member))).symm
  distinct := Sound.removeGroups_nodup placed.seriesOrder named

def AnswersDeletion (registry : Registry) (action : SchemaAction)
    (result : Except SchemaError (List Path × Registry)) (miss : Path → SchemaError)
    (loses : List Path → List Path → Registry → Prop) : Path.Naming → Prop
  | .malformed text fault =>
    result = .error (.malformed ⟨text, fault⟩) ∧ registry.perform action = registry
  | .unknown path => result = .error (miss path) ∧ registry.perform action = registry
  | .known paths => ∃ lost next, result = .ok (lost, next) ∧ registry.perform action = next ∧
    loses paths lost next

section Answer

variable {check : Path → Bool} {miss : Path → SchemaError} {known : Path → Prop}
  {removal : List Path → List Path × Registry} {loses : List Path → List Path → Registry → Prop}

/-- A deletion that looks for its paths first and removes them together. -/
theorem answersDeletion_of_screen {action : SchemaAction}
    {result : Except SchemaError (List Path × Registry)} {texts : List String}
    {naming : Path.Naming} (performed : registry.perform action = registry.settle result)
    (screened : result =
      Path.screen .malformed check miss (fun paths => .ok (removal paths)) texts)
    (names : Path.Names known texts naming) (agrees : ∀ path, check path = true ↔ known path)
    (removes : ∀ paths, (∀ path ∈ paths, known path) →
      loses paths (removal paths).1 (removal paths).2) :
    registry.AnswersDeletion action result miss loses naming := by
  rw [names.screen_eq agrees] at screened
  unfold AnswersDeletion
  rw [performed, screened]
  cases names with
  | malformed | unknown => exact ⟨rfl, rfl⟩
  | known spelled found => exact ⟨_, _, rfl, rfl, removes _ found⟩

end Answer

theorem hasGroup_iff {path : Path} : registry.hasGroup path = true ↔ path ∈ registry.groups :=
  Keyed.has_iff.trans exists_eq_right

/-- What a schema lists for any pattern, for a series that it holds and for a group of its own. -/
structure Lists (registry : Registry) : Prop where
  pattern : ∀ text pattern, Path.parsePattern text = .ok pattern →
    ∃ shown, registry.show? text = .ok shown ∧
      shown.Pairwise (fun before after => before.path.bytes < after.path.bytes) ∧
      ∀ definition, definition ∈ shown ↔
        definition ∈ registry.series ∧ pattern.Matches definition.path
  series : ∀ path definition, registry.find? path = some definition →
    registry.show? path.text = .ok [definition]
  group : ∀ group ∈ registry.groups, registry.show? group.text =
    .ok (registry.series.filter fun definition => definition.group = group)

theorem WellPlaced.lists (placed : registry.WellPlaced) (plain : registry.Plain) :
    registry.Lists where
  pattern text pattern parsed := by
    refine ⟨_, show?_eq parsed, placed.shown_sorted pattern, fun definition => ?_⟩
    rw [shown, List.mem_filter, Path.selects_iff]
  series path definition found := by
    obtain ⟨declared, rfl⟩ := Keyed.mem_of_find? found
    rw [show?_text]
    exact congrArg Except.ok (placed.shown_series plain declared)
  group group set := by
    rw [show?_text, placed.shown_group plain set]

/-- A schema lists for a pattern what the pattern matches, for a series this series, and for a group
what a deletion of the group removes; and deletions remove what they name or nothing at all. -/
theorem listing_and_deletion_agree (actions : List SchemaAction) :
    (run {} actions).Lists ∧ ∀ texts,
      (∃ naming, Path.Names (fun path => path ∈ (run {} actions).groups) texts naming ∧
        (run {} actions).AnswersDeletion (.deleteGroups texts)
          ((run {} actions).deleteGroups texts) (fun missing => .storageGroupNotFound missing.text)
          (run {} actions).LosesGroups naming) ∧
      ∃ naming, Path.Names (fun path => ∃ definition ∈ (run {} actions).series,
          definition.path = path) texts naming ∧
        (run {} actions).AnswersDeletion (.deleteSeries texts)
          ((run {} actions).deleteSeries texts) (fun missing => .timeseriesNotFound missing.text)
          (run {} actions).LosesSeries naming := by
  have placed := wellPlaced_run actions
  have plain := plain_run actions
  generalize run {} actions = registry at *
  refine ⟨placed.lists plain, fun texts => ⟨?_, ?_⟩⟩
  · obtain ⟨naming, names⟩ := Path.exists_names (fun path => path ∈ registry.groups) texts
    refine ⟨naming, names, answersDeletion_of_screen rfl rfl names (fun _ => hasGroup_iff) ?_⟩
    exact fun paths set => placed.losesGroups plain set
  · obtain ⟨naming, names⟩ := Path.exists_names
      (fun path => ∃ definition ∈ registry.series, definition.path = path) texts
    refine ⟨naming, names, answersDeletion_of_screen rfl rfl names (fun _ => Keyed.has_iff) ?_⟩
    exact fun paths _ => ⟨rfl, rfl, rfl⟩

def twoGroups : List SchemaAction :=
  [.setGroup "root.a", .setGroup "root.b", .createSeries "root.a.y" .int32 .plain .snappy,
    .createSeries "root.b.z" .int32 .plain .snappy, .createSeries "root.a.x" .int32 .plain .snappy]

theorem series_lost_in_order_of_groups :
    ((run {} twoGroups).deleteGroups ["root.b", "root.a", "root.b"]).map
        (fun removed => removed.1.map Path.text) = .ok ["root.b.z", "root.a.x", "root.a.y"] ∧
      ∃ naming, Path.Names (fun path => path ∈ (run {} twoGroups).groups)
          ["root.b", "root.a", "root.b"] naming ∧
        (run {} twoGroups).AnswersDeletion (.deleteGroups ["root.b", "root.a", "root.b"])
          ((run {} twoGroups).deleteGroups ["root.b", "root.a", "root.b"])
          (fun missing => .storageGroupNotFound missing.text) (run {} twoGroups).LosesGroups
          naming :=
  ⟨by rfl, ((listing_and_deletion_agree twoGroups).2 ["root.b", "root.a", "root.b"]).1⟩

end Registry

end TimeSeries
