import Mathlib.Data.List.Nodup
import TimeSeries.Proofs.RegistryContents
import TimeSeries.Proofs.ServerWrites

/-! What it takes for a row to be resolved, and what a resolved row or tablet assigns. The points of
a tablet come row by row in the order of time, so of several rows of one time the last one added
decides. -/

namespace TimeSeries

/-- A row assigns a value to a series if one of its measurements names the series and brings the
value to the declared type. -/
def Registry.Assigns (registry : Registry) (device : String) (measurements : List String)
    (values : List Value) (path : Path) (value : Value) : Prop :=
  ∃ measurement raw definition, (measurement, raw) ∈ measurements.zip values ∧
    path.text = device ++ "." ++ measurement ∧ registry.find? path = some definition ∧
      raw.coerce? definition.dataType = some value

def Tablet.lastRow? (rows : List TabletRow) (timestamp : Timestamp) : Option TabletRow :=
  (rows.filter fun row => row.timestamp = timestamp).getLast?

theorem Tablet.lastRow?_cons (row : TabletRow) (rows : List TabletRow) (timestamp : Timestamp) :
    lastRow? (row :: rows) timestamp =
      (lastRow? rows timestamp).or (if row.timestamp = timestamp then some row else none) := by
  unfold lastRow?
  rw [List.filter_cons]
  by_cases same : row.timestamp = timestamp
  · rw [if_pos (decide_eq_true same), if_pos same, List.getLast?_cons]
    cases (rows.filter fun row => row.timestamp = timestamp).getLast? <;> rfl
  · rw [if_neg (by simpa using same), if_neg same, Option.or_none]

theorem Tablet.mem_of_lastRow? {rows : List TabletRow} {timestamp : Timestamp} {row : TabletRow}
    (last : lastRow? rows timestamp = some row) : row ∈ rows :=
  List.mem_of_mem_filter (List.mem_of_getLast? last)

namespace Server

structure Resolves (registry : Registry) (device : String) (timestamp : Timestamp)
    (entry : String × Value) (addressed : AddressedPoint) : Prop where
  named : addressed.series.text = device ++ "." ++ entry.1
  stamped : addressed.point.timestamp = timestamp
  declared : ∃ definition, registry.find? addressed.series = some definition ∧
    entry.2.coerce? definition.dataType = some addressed.point.value

structure AllResolve (registry : Registry) (device : String) (timestamp : Timestamp)
    (entries : List (String × Value)) (points : List AddressedPoint) : Prop where
  length : points.length = entries.length
  onto : ∀ addressed ∈ points, ∃ entry ∈ entries, Resolves registry device timestamp entry addressed
  total : ∀ entry ∈ entries, ∃ addressed ∈ points,
    Resolves registry device timestamp entry addressed

variable {registry : Registry} {timestamp : Timestamp} {points : List AddressedPoint}

theorem AllResolve.cons {device : String} {entries : List (String × Value)}
    {entry : String × Value} {addressed : AddressedPoint}
    (first : Resolves registry device timestamp entry addressed)
    (rest : AllResolve registry device timestamp entries points) :
    AllResolve registry device timestamp (entry :: entries) (addressed :: points) where
  length := congrArg (· + 1) rest.length
  onto := by
    intro other member
    rcases List.mem_cons.mp member with rfl | member
    · exact ⟨entry, List.mem_cons_self, first⟩
    · obtain ⟨source, listed, resolves⟩ := rest.onto other member
      exact ⟨source, List.mem_cons_of_mem _ listed, resolves⟩
  total := by
    intro other member
    rcases List.mem_cons.mp member with rfl | member
    · exact ⟨addressed, List.mem_cons_self, first⟩
    · obtain ⟨target, listed, resolves⟩ := rest.total other member
      exact ⟨target, List.mem_cons_of_mem _ listed, resolves⟩

theorem resolveEntries_ok {device : Path} {seen : List String} {entries : List (String × Value)}
    (resolved : resolveEntries registry device timestamp seen entries = .ok points) :
    AllResolve registry device.text timestamp entries points ∧
      (entries.map Prod.fst).Nodup ∧ ∀ measurement ∈ entries.map Prod.fst, measurement ∉ seen := by
  induction entries generalizing seen points with
  | nil =>
    cases resolved
    exact ⟨⟨rfl, by simp, by simp⟩, List.nodup_nil, by simp⟩
  | cons entry entries ih =>
    obtain ⟨measurement, raw⟩ := entry
    unfold resolveEntries at resolved
    by_cases known : measurement ∈ seen
    · simp only [if_pos known, bind, Except.bind] at resolved
      cases resolved
    cases child : device.child measurement with
    | error fault =>
      simp only [if_neg known, child, bind, Except.bind, Except.mapError] at resolved
      cases resolved
    | ok series =>
      simp only [if_neg known, child, bind, Except.bind, Except.mapError] at resolved
      cases found : registry.find? series with
      | none =>
        rw [found] at resolved
        cases resolved
      | some definition =>
        cases coerced : raw.coerce? definition.dataType with
        | none =>
          simp only [found, Value.coerce, coerced] at resolved
          cases resolved
        | some value =>
          simp only [found, Value.coerce, coerced] at resolved
          cases others : resolveEntries registry device timestamp (measurement :: seen) entries with
          | error failure =>
            rw [others] at resolved
            cases resolved
          | ok more =>
            rw [others] at resolved
            cases resolved
            obtain ⟨each, distinct, fresh⟩ := ih others
            have resolves : Resolves registry device.text timestamp (measurement, raw)
                ⟨series, timestamp, value⟩ :=
              ⟨Path.text_of_child child, rfl, definition, found, coerced⟩
            refine ⟨AllResolve.cons resolves each, ?_, ?_⟩
            · rw [List.map_cons, List.nodup_cons]
              exact ⟨fun member => fresh measurement member List.mem_cons_self, distinct⟩
            · intro other member
              rcases List.mem_cons.mp member with rfl | member
              · exact known
              · exact fun earlier => fresh other member (List.mem_cons_of_mem _ earlier)

structure RowResolved (registry : Registry) (device : String) (timestamp : Timestamp)
    (measurements : List String) (values : List Value) (points : List AddressedPoint) : Prop where
  shaped : measurements.length = values.length
  filled : measurements ≠ []
  distinct : measurements.Nodup
  each : AllResolve registry device timestamp (measurements.zip values) points

variable {device : String} {measurements : List String} {values : List Value}

theorem resolveRow_ok
    (resolved : resolveRow registry device timestamp measurements values = .ok points) :
    RowResolved registry device timestamp measurements values points := by
  unfold resolveRow Row.checkShape at resolved
  by_cases shaped : measurements.length = values.length
  · by_cases empty : measurements = []
    · simp only [ne_eq, shaped, not_true_eq_false, if_false, if_pos empty, bind, Except.bind]
        at resolved
      cases resolved
    · cases parsed : Path.parse device with
      | error fault =>
        simp only [ne_eq, shaped, not_true_eq_false, if_false, if_neg empty, bind, Except.bind,
          readWritePath, parsed] at resolved
        cases resolved
      | ok path =>
        simp only [ne_eq, shaped, not_true_eq_false, if_false, if_neg empty, bind, Except.bind,
          readWritePath, parsed, Except.mapError] at resolved
        obtain ⟨each, distinct, _⟩ := resolveEntries_ok resolved
        rw [List.map_fst_zip (Nat.le_of_eq shaped)] at distinct
        exact ⟨shaped, empty, distinct, Path.text_of_parse parsed ▸ each⟩
  · simp only [ne_eq, shaped, not_false_eq_true, if_true, bind, Except.bind] at resolved
    cases resolved

section Row

variable (row : RowResolved registry device timestamp measurements values points)

include row

theorem RowResolved.length : points.length = measurements.length := by
  rw [row.each.length, List.length_zip, ← row.shaped, Nat.min_self]

theorem RowResolved.stamped : ∀ addressed ∈ points, addressed.point.timestamp = timestamp := by
  intro addressed member
  obtain ⟨entry, _, resolves⟩ := row.each.onto addressed member
  exact resolves.stamped

theorem RowResolved.assigns {addressed : AddressedPoint} (member : addressed ∈ points) :
    registry.Assigns device measurements values addressed.series addressed.point.value := by
  obtain ⟨⟨measurement, raw⟩, listed, resolves⟩ := row.each.onto addressed member
  obtain ⟨definition, found, coerced⟩ := resolves.declared
  exact ⟨measurement, raw, definition, listed, resolves.named, found, coerced⟩

theorem RowResolved.assigns_at {index : Nat} {measurement : String} {raw : Value}
    (measured : measurements[index]? = some measurement) (valued : values[index]? = some raw) :
    ∃ series definition value, series.text = device ++ "." ++ measurement ∧
      registry.find? series = some definition ∧
      raw.coerce series.text definition.dataType = .ok value ∧
      registry.Assigns device measurements values series value := by
  have entry : (measurement, raw) ∈ measurements.zip values :=
    List.mem_of_getElem? (List.getElem?_zip_eq_some.mpr ⟨measured, valued⟩)
  obtain ⟨addressed, _, resolves⟩ := row.each.total _ entry
  obtain ⟨definition, found, coerced⟩ := resolves.declared
  exact ⟨addressed.series, definition, addressed.point.value, resolves.named, found,
    Value.coerce_eq_ok.mpr coerced,
    measurement, raw, definition, entry, resolves.named, found, coerced⟩

theorem RowResolved.point_of_measurement {measurement : String}
    (listed : measurement ∈ measurements) :
    ∃ addressed ∈ points, addressed.series.text = device ++ "." ++ measurement := by
  rw [← List.map_fst_zip (Nat.le_of_eq row.shaped)] at listed
  obtain ⟨entry, member, rfl⟩ := List.mem_map.mp listed
  obtain ⟨addressed, written, resolves⟩ := row.each.total entry member
  exact ⟨addressed, written, resolves.named⟩

/-- No two entries of a row go to one series. -/
theorem RowResolved.assigns_unique {path : Path} {first second : Value}
    (one : registry.Assigns device measurements values path first)
    (other : registry.Assigns device measurements values path second) : first = second := by
  obtain ⟨measurement, raw, definition, member, named, found, coerced⟩ := one
  obtain ⟨measurement', raw', definition', member', named', found', coerced'⟩ := other
  have sameMeasurement : measurement = measurement' :=
    (String.append_right_inj (device ++ ".")).mp (named.symm.trans named')
  have distinct : ((measurements.zip values).map Prod.fst).Nodup := by
    rw [List.map_fst_zip (Nat.le_of_eq row.shaped)]
    exact row.distinct
  have sameEntry : (measurement, raw) = (measurement', raw') :=
    List.inj_on_of_nodup_map distinct member member' sameMeasurement
  cases sameEntry
  cases found.symm.trans found'
  exact Option.some.inj (coerced.symm.trans coerced')

theorem RowResolved.lastValue_iff {path : Path} {time : Timestamp} {value : Value} :
    lastValue path.text time points = some value ↔
      time = timestamp ∧ registry.Assigns device measurements values path value := by
  have sound {path : Path} {time : Timestamp} {value : Value}
      (found : lastValue path.text time points = some value) :
      time = timestamp ∧ registry.Assigns device measurements values path value := by
    obtain ⟨addressed, member, named, same⟩ := mem_of_lastValue found
    have stamped := row.stamped addressed member
    have assigned := row.assigns member
    rw [same] at stamped assigned
    exact ⟨stamped, Path.text_injective named ▸ assigned⟩
  refine ⟨sound, ?_⟩
  rintro ⟨rfl, assigned⟩
  have ⟨measurement, raw, definition, member, named, _⟩ := assigned
  obtain ⟨addressed, written, spelled⟩ := row.point_of_measurement (List.of_mem_zip member).1
  obtain ⟨other, found⟩ := lastValue_of_mem written
  rw [row.stamped addressed written, spelled, ← named] at found
  rw [found, row.assigns_unique (sound found).2 assigned]

end Row

/-! ### Tablets -/

inductive RowsResolved (registry : Registry) (device : String) (measurements : List String) :
    List TabletRow → List AddressedPoint → Prop
  | nil : RowsResolved registry device measurements [] []
  | cons {row : TabletRow} {rows : List TabletRow} {points others : List AddressedPoint} :
    RowResolved registry device row.timestamp measurements row.values points →
      RowsResolved registry device measurements rows others →
      RowsResolved registry device measurements (row :: rows) (points ++ others)

theorem resolveRows_ok {server : Server} {rows : List TabletRow}
    (resolved : server.resolveRows device measurements rows = .ok points) :
    RowsResolved server.registry device measurements rows points ∧
      ∀ row ∈ rows, server.store.accepts row.timestamp = true := by
  induction rows generalizing points with
  | nil =>
    cases resolved
    exact ⟨.nil, by simp⟩
  | cons row rows ih =>
    unfold resolveRows at resolved
    cases accepted : server.store.accepts row.timestamp with
    | false =>
      rw [accepted] at resolved
      cases resolved
    | true =>
      cases first : resolveRow server.registry device row.timestamp measurements row.values with
      | error failure =>
        rw [accepted, first] at resolved
        cases resolved
      | ok some_points =>
        cases rest : server.resolveRows device measurements rows with
        | error failure =>
          rw [accepted, first, rest] at resolved
          cases resolved
        | ok others =>
          rw [accepted, first, rest] at resolved
          cases resolved
          obtain ⟨later, all⟩ := ih rest
          exact ⟨.cons (resolveRow_ok first) later, List.forall_mem_cons.mpr ⟨accepted, all⟩⟩

theorem RowsResolved.row_of_mem {rows : List TabletRow}
    (resolved : RowsResolved registry device measurements rows points) {row : TabletRow}
    (member : row ∈ rows) :
    ∃ points, RowResolved registry device row.timestamp measurements row.values points := by
  induction resolved with
  | nil => cases member
  | cons first rest ih =>
    rcases List.mem_cons.mp member with rfl | member
    · exact ⟨_, first⟩
    · exact ih member

/-- All rows have the same measurements, so each of them goes to the same series. -/
theorem RowsResolved.assigns_of_mem {rows : List TabletRow} {path : Path} {value : Value}
    (resolved : RowsResolved registry device measurements rows points)
    (assigned : registry.Assigns device measurements values path value) {row : TabletRow}
    (member : row ∈ rows) :
    ∃ other, registry.Assigns device measurements row.values path other := by
  obtain ⟨own, first⟩ := resolved.row_of_mem member
  obtain ⟨measurement, raw, definition, listed, named, _⟩ := assigned
  obtain ⟨addressed, written, spelled⟩ := first.point_of_measurement (List.of_mem_zip listed).1
  have same : addressed.series = path := Path.text_injective (spelled.trans named.symm)
  exact ⟨addressed.point.value, same ▸ first.assigns written⟩

/-- For each series and time the last row of that time decides. -/
theorem RowsResolved.lastValue_iff {rows : List TabletRow}
    (resolved : RowsResolved registry device measurements rows points) {path : Path}
    {time : Timestamp} {value : Value} : lastValue path.text time points = some value ↔
      ∃ row ∈ Tablet.lastRow? rows time,
        registry.Assigns device measurements row.values path value := by
  induction resolved generalizing value with
  | nil => simp [lastValue, Tablet.lastRow?]
  | @cons row rows points others first rest ih =>
    rw [lastValue_append, Option.or_eq_some_iff, first.lastValue_iff, Tablet.lastRow?_cons]
    cases last : Tablet.lastRow? rows time with
    | none =>
      have untouched : lastValue path.text time others = none := by
        refine Option.eq_none_iff_forall_ne_some.mpr fun value found => ?_
        obtain ⟨later, named, _⟩ := ih.mp found
        rw [last] at named
        cases named
      by_cases same : row.timestamp = time
      · simp [untouched, same]
      · simp [untouched, same, Ne.symm same]
    | some later =>
      rw [last] at ih
      have decided (earlier : lastValue path.text time others = none)
          (assigned : registry.Assigns device measurements row.values path value) : False := by
        obtain ⟨other, instead⟩ := rest.assigns_of_mem assigned (Tablet.mem_of_lastRow? last)
        have found : lastValue path.text time others = some other :=
          ih.mpr ⟨later, rfl, instead⟩
        rw [earlier] at found
        cases found
      rw [ih]
      constructor
      · rintro (found | ⟨earlier, _, assigned⟩)
        · exact found
        · exact (decided earlier assigned).elim
      · exact .inl

end Server

def Tablet.inOrder (first second : TabletRow) : Bool :=
  first.timestamp ≤ second.timestamp

theorem Tablet.inOrder_trans (first second third : TabletRow)
    (before : inOrder first second = true) (after : inOrder second third = true) :
    inOrder first third = true := by
  simp only [inOrder, decide_eq_true_eq, Ranged.le_iff] at *
  omega

theorem Tablet.inOrder_total (first second : TabletRow) :
    (inOrder first second || inOrder second first) = true := by
  simp only [inOrder, Bool.or_eq_true, decide_eq_true_eq, Ranged.le_iff]
  omega

theorem Tablet.sorted_ordered (tablet : Tablet) : tablet.sorted.rows.Pairwise
    fun first second => first.timestamp ≤ second.timestamp := by
  have sorted := List.pairwise_mergeSort inOrder_trans inOrder_total tablet.rows
  exact sorted.imp of_decide_eq_true

theorem Tablet.sorted_eq {tablet : Tablet} (ordered : tablet.rows.Pairwise
    fun first second => first.timestamp ≤ second.timestamp) : tablet.sorted = tablet := by
  have same : tablet.rows.mergeSort inOrder = tablet.rows :=
    List.mergeSort_of_pairwise (ordered.imp decide_eq_true)
  change { tablet with rows := tablet.rows.mergeSort inOrder } = tablet
  rw [same]

/-- Sorting keeps rows of one time in their order. -/
theorem Tablet.filter_sorted (tablet : Tablet) (timestamp : Timestamp) :
    (tablet.sorted.rows.filter fun row => row.timestamp = timestamp) =
      tablet.rows.filter fun row => row.timestamp = timestamp := by
  have together : (tablet.rows.filter fun row => row.timestamp = timestamp).Pairwise
      fun first second => inOrder first second = true := by
    refine List.pairwise_of_forall_mem_list fun first firstMember second secondMember => ?_
    have stamps := of_decide_eq_true (List.mem_filter.mp firstMember).2
    have stamps' := of_decide_eq_true (List.mem_filter.mp secondMember).2
    simp [inOrder, stamps, stamps', Ranged.le_iff]
  have kept := List.sublist_mergeSort inOrder_trans inOrder_total together List.filter_sublist
  have inside := kept.filter fun row => row.timestamp = timestamp
  simp only [List.filter_filter, Bool.and_self] at inside
  have lengths := ((List.mergeSort_perm tablet.rows inOrder).filter
    fun row => row.timestamp = timestamp).length_eq
  exact (inside.eq_of_length lengths.symm).symm

theorem Tablet.lastRow?_sorted (tablet : Tablet) (timestamp : Timestamp) :
    lastRow? tablet.sorted.rows timestamp = lastRow? tablet.rows timestamp := by
  unfold lastRow?
  rw [tablet.filter_sorted]

end TimeSeries
