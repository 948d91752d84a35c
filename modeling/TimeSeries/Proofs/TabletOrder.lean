import TimeSeries.Proofs.ServerHistory

/-! The order of the rows of a tablet. Rows are written in the order of time, and rows of one time
in the order in which they were added. So a tablet does the same as any other with these rows, as
long as rows of one time keep their order, and the last row of a time gives the values that stay. -/

namespace TimeSeries

namespace Tablet

/-- The rows of one tablet in another order, in which rows of one time still follow each other as
they did. -/
structure Rearranged (first second : Tablet) : Prop where
  device : first.device = second.device
  measurements : first.measurements = second.measurements
  rows : first.rows.Perm second.rows
  ties : ∀ timestamp, (first.rows.filter fun row => row.timestamp = timestamp) =
    second.rows.filter fun row => row.timestamp = timestamp

theorem first_le_of_mem {row other : TabletRow} {rows : List TabletRow}
    (least : ∀ later ∈ rows, row.timestamp ≤ later.timestamp) (member : other ∈ row :: rows) :
    row.timestamp ≤ other.timestamp := by
  rcases List.mem_cons.mp member with rfl | later
  · exact Int.le_refl _
  · exact least other later

theorem eq_of_ties {rows others : List TabletRow}
    (ordered : rows.Pairwise fun first second => first.timestamp ≤ second.timestamp)
    (otherOrdered : others.Pairwise fun first second => first.timestamp ≤ second.timestamp)
    (perm : rows.Perm others)
    (ties : ∀ timestamp, (rows.filter fun row => row.timestamp = timestamp) =
      others.filter fun row => row.timestamp = timestamp) : rows = others := by
  induction rows generalizing others with
  | nil => exact perm.nil_eq
  | cons row rows ih =>
    cases others with
    | nil => exact absurd perm.symm (List.not_perm_nil_cons _ _)
    | cons other others =>
      obtain ⟨least, later⟩ := List.pairwise_cons.mp ordered
      obtain ⟨otherLeast, otherLater⟩ := List.pairwise_cons.mp otherOrdered
      -- each of the two first rows is somewhere in the other list, so neither is earlier
      have forward := first_le_of_mem least (perm.symm.subset List.mem_cons_self)
      have backward := first_le_of_mem otherLeast (perm.subset List.mem_cons_self)
      have stamped : other.timestamp = row.timestamp :=
        Ranged.ext (Int.le_antisymm backward forward)
      have heads := ties row.timestamp
      simp only [List.filter_cons, stamped, decide_true, if_true] at heads
      obtain ⟨rfl, _⟩ := List.cons.inj heads
      refine congrArg (row :: ·) (ih later otherLater perm.cons_inv fun timestamp => ?_)
      have both := ties timestamp
      rw [List.filter_cons, List.filter_cons] at both
      split at both
      · exact (List.cons.inj both).2
      · exact both

/-- Sorting forgets all but the order of rows of one time. -/
theorem Rearranged.sorted_eq {first second : Tablet} (rearranged : first.Rearranged second) :
    first.sorted = second.sorted := by
  have rows : first.sorted.rows = second.sorted.rows := by
    refine eq_of_ties first.sorted_ordered second.sorted_ordered ?_ fun timestamp => ?_
    · exact (List.mergeSort_perm _ _).trans (rearranged.rows.trans (List.mergeSort_perm _ _).symm)
    · rw [filter_sorted, filter_sorted, rearranged.ties]
  calc first.sorted
    _ = ⟨first.device, first.measurements, first.sorted.rows⟩ := rfl
    _ = ⟨second.device, second.measurements, second.sorted.rows⟩ := by
      rw [rearranged.device, rearranged.measurements, rows]
    _ = second.sorted := rfl

theorem Rearranged.call_eq {first second : Tablet} (rearranged : first.Rearranged second)
    (server : Server) (id : Nat) :
    server.call id (.insertTablet first) = server.call id (.insertTablet second) := by
  have resolved : server.resolveTablet first = server.resolveTablet second :=
    congrArg (fun tablet : Tablet =>
      server.resolveRows tablet.device tablet.measurements tablet.rows) rearranged.sorted_eq
  unfold Server.call Server.handle
  dsimp only
  rw [resolved]

theorem exists_lastRow? {rows : List TabletRow} {row : TabletRow} (member : row ∈ rows) :
    ∃ last, lastRow? rows row.timestamp = some last := by
  refine Option.isSome_iff_exists.mp (List.getLast?_isSome.mpr ?_)
  exact List.ne_nil_of_mem (List.mem_filter.mpr ⟨member, decide_eq_true rfl⟩)

end Tablet

namespace Server

variable {server : Server} {config : ServerConfig} {tablet : Tablet}

def LastRowsStand (server next : Server) (tablet : Tablet) : Prop :=
  ∀ row ∈ tablet.rows, ∃ last ∈ Tablet.lastRow? tablet.rows row.timestamp,
    ∀ (index : Nat) (measurement : String), tablet.measurements[index]? = some measurement →
      ∃ raw series definition value, last.values[index]? = some raw ∧
        series.text = tablet.device ++ "." ++ measurement ∧
        server.registry.find? series = some definition ∧
        raw.coerce series.text definition.dataType = .ok value ∧
        next.store.valueAt series.text row.timestamp = some value

theorem lastRows_written (sound : server.store.Sound) {points : List AddressedPoint}
    (resolved : server.resolveTablet tablet = .ok points) :
    LastRowsStand server { server with store := written points server.store } tablet := by
  have each := (resolveRows_ok resolved).1
  intro row member
  obtain ⟨last, decides⟩ := Tablet.exists_lastRow? member
  refine ⟨last, decides, fun index measurement measured => ?_⟩
  rw [← tablet.lastRow?_sorted] at decides
  obtain ⟨own, single⟩ := each.row_of_mem (Tablet.mem_of_lastRow? decides)
  have within : index < last.values.length :=
    single.shaped ▸ (List.getElem?_eq_some_iff.mp measured).1
  obtain ⟨series, definition, value, named, found, coerced, assigned⟩ :=
    single.assigns_at measured (List.getElem?_eq_getElem within)
  refine ⟨_, series, definition, value, List.getElem?_eq_getElem within, named, found, coerced, ?_⟩
  rw [valueAt_written points sound, each.lastValue_iff.mpr ⟨last, decides, assigned⟩]
  rfl

theorem Under.lastRows_stand (under : server.Under config) (id : Nat)
    (answered : (server.call id (.insertTablet tablet)).1 = .answer .ok) :
    LastRowsStand server (server.call id (.insertTablet tablet)).2 tablet := by
  have outcome : Outcome server (.insertTablet tablet)
      (server.call id (.insertTablet tablet)).1 (server.call id (.insertTablet tablet)).2 :=
    call_outcome under id _
  generalize server.call id (.insertTablet tablet) = result at outcome answered ⊢
  obtain ⟨reply, next⟩ := result
  cases outcome with
  | wrote writes resolved all => exact lastRows_written under.store.sound resolved
  | asked reply asks => cases asks
  | refused | stopped => cases answered

/-- The order of rows matters only among rows of one time: rearranged tablets are answered alike and
leave the same server, and of several rows of one time the last one added gives the values. -/
theorem row_order_matters_for_ties_only (started : start config = .ok server)
    (actions : List ServerAction) (id : Nat) :
    (∀ first second : Tablet, first.Rearranged second →
      (server.run actions).call id (.insertTablet first) =
        (server.run actions).call id (.insertTablet second)) ∧
      ∀ tablet, ((server.run actions).call id (.insertTablet tablet)).1 = .answer .ok →
        LastRowsStand (server.run actions)
          ((server.run actions).call id (.insertTablet tablet)).2 tablet := by
  have under := (under_start started).run actions
  constructor
  · intro first second rearranged
    exact rearranged.call_eq (server.run actions) id
  · intro tablet answered
    exact under.lastRows_stand id answered

def tiedRows : Tablet where
  device := "root.plant"
  measurements := ["speed"]
  rows := [⟨Ranged.clamp 25, [.int32 (Ranged.clamp 1)]⟩,
    ⟨Ranged.clamp 5, [.int32 (Ranged.clamp 2)]⟩, ⟨Ranged.clamp 5, [.text "3"]⟩]

def tiedRowsInOrder : Tablet where
  device := "root.plant"
  measurements := ["speed"]
  rows := [⟨Ranged.clamp 5, [.int32 (Ranged.clamp 2)]⟩, ⟨Ranged.clamp 5, [.text "3"]⟩,
    ⟨Ranged.clamp 25, [.int32 (Ranged.clamp 1)]⟩]

theorem tied_rearranged : tiedRows.Rearranged tiedRowsInOrder where
  device := rfl
  measurements := rfl
  rows := by decide
  ties timestamp := by
    by_cases late : Ranged.clamp 25 = timestamp
    · subst late
      decide
    · simp [tiedRows, tiedRowsInOrder, List.filter_cons, late]

theorem tied_in_order : tiedRowsInOrder.sorted = tiedRowsInOrder :=
  Tablet.sorted_eq (by decide)

theorem tied_rows_keep_second_value :
    (briefServer.run declareSpeed).call 1 (.insertTablet tiedRows) =
        (briefServer.run declareSpeed).call 1 (.insertTablet tiedRowsInOrder) ∧
      LastRowsStand (briefServer.run declareSpeed)
        ((briefServer.run declareSpeed).call 1 (.insertTablet tiedRows)).2 tiedRows ∧
      ((briefServer.run declareSpeed).call 1 (.insertTablet tiedRows)).2.store.valueAt
        "root.plant.speed" (Ranged.clamp 5) = some (.int32 (Ranged.clamp 3)) := by
  obtain ⟨alike, stand⟩ := row_order_matters_for_ties_only brief_started declareSpeed 1
  have same := alike tiedRows tiedRowsInOrder tied_rearranged
  have serves : (briefServer.run declareSpeed).Serves 1 := by decide +kernel
  have called : (briefServer.run declareSpeed).call 1 (.insertTablet tiedRowsInOrder) =
      write (briefServer.run declareSpeed) (resolveRows (briefServer.run declareSpeed)
        "root.plant" ["speed"] tiedRowsInOrder.rows) := by
    rw [Server.call_eq serves]
    change write _ (resolveRows _ _ _ tiedRowsInOrder.sorted.rows) = _
    rw [tied_in_order]
    rfl
  refine ⟨same, stand tiedRows ?_, ?_⟩
  · rw [same, called]
    decide +kernel
  · rw [same, called]
    decide +kernel

end Server

end TimeSeries
