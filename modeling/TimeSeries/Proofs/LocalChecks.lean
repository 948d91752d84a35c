import TimeSeries.Proofs.ServerHistory
import TimeSeries.Session.Basic

/-! What it is worth to check rows for repeated measurements before they are sent. A server refuses
such rows itself, and before it writes any of them, whichever of their faults it finds first. The
check spares a call and may name another fault, but it decides nothing. -/

namespace TimeSeries

/-! ### Repeated measurements -/

namespace Row

theorem firstRepeated?_eq_none {seen measurements : List String} :
    firstRepeated? seen measurements = none ↔
      measurements.Nodup ∧ ∀ measurement ∈ measurements, measurement ∉ seen := by
  induction measurements generalizing seen with
  | nil => simp [firstRepeated?]
  | cons measurement rest ih =>
    unfold firstRepeated?
    by_cases known : measurement ∈ seen
    · simp [known]
    · rw [if_neg known, ih]
      simp only [List.nodup_cons, List.mem_cons, forall_eq_or_imp, known, not_or]
      constructor
      · rintro ⟨distinct, fresh⟩
        exact ⟨⟨fun again => (fresh measurement again).1 rfl, distinct⟩, not_false,
          fun other member => (fresh other member).2⟩
      · rintro ⟨⟨once, distinct⟩, _, fresh⟩
        exact ⟨distinct, fun other member => ⟨fun same => once (same ▸ member), fresh other member⟩⟩

theorem checkDistinct_of_nodup {measurements : List String} (distinct : measurements.Nodup) :
    checkDistinct measurements = .ok () := by
  unfold checkDistinct
  rw [firstRepeated?_eq_none.mpr ⟨distinct, fun _ _ => List.not_mem_nil⟩]

end Row

namespace Request

def measurements : Request → List String
  | .insert _ _ measurements _ => measurements
  | .insertTablet tablet => tablet.measurements
  | _ => []

theorem check_of_nodup {request : Request} (distinct : request.measurements.Nodup) :
    request.check true = request.check false := by
  have same (values : Nat) :
      checkRow true request.measurements values = checkRow false request.measurements values := by
    unfold checkRow
    rw [Row.checkDistinct_of_nodup distinct]
    cases Row.checkShape request.measurements values <;> rfl
  cases request with
  | insert device timestamp measurements values => exact same values.length
  | insertTablet tablet => exact same tablet.measurements.length
  | _ => rfl

theorem writes_of_repeated {request : Request} (repeated : ¬request.measurements.Nodup) :
    request.writes = true := by
  cases request with
  | insert | insertTablet => rfl
  | _ => exact absurd List.nodup_nil repeated

end Request

/-! ### The server -/

namespace Server

variable {server : Server} {request : Request}

theorem sorted_rows_ne_nil {tablet : Tablet} (some_row : tablet.rows ≠ []) :
    tablet.sorted.rows ≠ [] := by
  intro none
  have lengths : tablet.sorted.rows.length = tablet.rows.length := List.length_mergeSort _
  rw [none] at lengths
  exact some_row (List.length_eq_zero_iff.mp lengths.symm)

/-- Whatever is resolved repeats no measurement, unless there is no row at all. -/
theorem nodup_of_resolve {points : List AddressedPoint} (busy : request.isIdle = false)
    (resolved : server.resolve request = .ok points) : request.measurements.Nodup := by
  cases request with
  | insert device timestamp measurements values => exact (resolveRow_ok resolved).distinct
  | insertTablet tablet =>
    have some_row : tablet.rows ≠ [] := by simpa [Request.isIdle] using busy
    obtain ⟨rows, _⟩ := resolveRows_ok resolved
    cases listed : tablet.sorted.rows with
    | nil => exact absurd listed (sorted_rows_ne_nil some_row)
    | cons row others =>
      rw [listed] at rows
      cases rows with
      | cons first rest => exact first.distinct
  | _ => exact List.nodup_nil

theorem call_repeated (server : Server) (id : Nat) (busy : request.isIdle = false)
    (repeated : ¬request.measurements.Nodup) :
    ∃ error, server.call id request = (.refused error, server) := by
  by_cases serves : server.Serves id
  · rw [call_eq serves, handle_write (Request.writes_of_repeated repeated)]
    cases resolved : server.resolve request with
    | error error => exact ⟨.write error, rfl⟩
    | ok points => exact absurd (nodup_of_resolve busy resolved) repeated
  · exact ⟨_, call_lost serves⟩

end Server

/-! ### The session -/

namespace Session

variable {server : Server} {request : Request}

def checking (endpoint : Endpoint) (phase : Phase Nat) (check : Bool) : Session Nat :=
  ⟨⟨endpoint, check⟩, phase⟩

theorem perform_repeated (endpoint : Endpoint) (phase : Phase Nat) (check : Bool)
    (server : Server) (busy : request.isIdle = false)
    (repeated : ¬request.measurements.Nodup) :
    ∃ error, perform Server.transport request (checking endpoint phase check) server =
      (.error error, server) := by
  cases phase with
  | unopened => exact ⟨_, rfl⟩
  | closed => exact ⟨_, rfl⟩
  | opened id =>
    obtain ⟨error, refused⟩ := server.call_repeated id busy repeated
    unfold perform checking
    simp only [busy, Bool.false_eq_true, if_false]
    cases request.check check with
    | error fault => exact ⟨_, rfl⟩
    | ok =>
      simp only [Server.transport, refused]
      exact ⟨_, rfl⟩

theorem perform_of_check (endpoint : Endpoint) (phase : Phase Nat) (server : Server)
    (same : request.isIdle = true ∨ request.check true = request.check false) :
    perform Server.transport request (checking endpoint phase true) server =
      perform Server.transport request (checking endpoint phase false) server := by
  cases phase with
  | unopened | closed => rfl
  | opened id =>
    unfold perform checking
    rcases same with idle | same
    · simp only [idle, if_true]
    · simp only [same]

def repeatedLoad : Request :=
  .insert "root.plant" (Ranged.clamp 0) ["load", "load"]
    [.int32 (Ranged.clamp 1), .int32 (Ranged.clamp 2)]

def plainSpeed : Request :=
  .insert "root.plant" (Ranged.clamp 0) ["speed"] [.int32 (Ranged.clamp 1)]

/-- Of two sessions that differ in nothing but the check of writes, one succeeds if and only if the
other does, with the same answer, and the server is the same afterwards. Without a repeated
measurement failures are the same too. -/
theorem check_of_writes_decides_nothing (server : Server) (endpoint : Endpoint)
    (phase : Phase Nat) (request : Request) :
    (∀ answer,
      (perform Server.transport request (checking endpoint phase true) server).1 = .ok answer ↔
        (perform Server.transport request (checking endpoint phase false) server).1 =
          .ok answer) ∧
      (perform Server.transport request (checking endpoint phase true) server).2 =
        (perform Server.transport request (checking endpoint phase false) server).2 ∧
      (request.measurements.Nodup →
        perform Server.transport request (checking endpoint phase true) server =
          perform Server.transport request (checking endpoint phase false) server) := by
  by_cases distinct : request.measurements.Nodup
  · have same := perform_of_check endpoint phase server (.inr (Request.check_of_nodup distinct))
    rw [same]
    exact ⟨fun _ => Iff.rfl, rfl, fun _ => rfl⟩
  · cases busy : request.isIdle with
    | true =>
      have same := perform_of_check endpoint phase server (.inl busy)
      rw [same]
      exact ⟨fun _ => Iff.rfl, rfl, fun _ => rfl⟩
    | false =>
      obtain ⟨fault, checked⟩ := perform_repeated endpoint phase true server busy distinct
      obtain ⟨other, unchecked⟩ := perform_repeated endpoint phase false server busy distinct
      rw [checked, unchecked]
      refine ⟨fun answer => ?_, rfl, fun nodup => absurd nodup distinct⟩
      simp only [reduceCtorEq]

/-- The two sessions find different faults in the repeated measurement and leave the same server;
without repetition both write. -/
theorem repeated_load_refused_either_way :
    (perform Server.transport repeatedLoad (checking {} (.opened 1) true)
        (Server.defaultServer.run Server.declareSpeed)).1 =
          .error (.write (.duplicateMeasurement "load")) ∧
      (perform Server.transport repeatedLoad (checking {} (.opened 1) false)
        (Server.defaultServer.run Server.declareSpeed)).1 =
          .error (.write (.undeclaredTimeseries "root.plant.load")) ∧
      (perform Server.transport repeatedLoad (checking {} (.opened 1) true)
        (Server.defaultServer.run Server.declareSpeed)).2 =
          (perform Server.transport repeatedLoad (checking {} (.opened 1) false)
            (Server.defaultServer.run Server.declareSpeed)).2 ∧
      (perform Server.transport plainSpeed (checking {} (.opened 1) false)
        (Server.defaultServer.run Server.declareSpeed)).1 = .ok .done ∧
      perform Server.transport plainSpeed (checking {} (.opened 1) true)
          (Server.defaultServer.run Server.declareSpeed) =
        perform Server.transport plainSpeed (checking {} (.opened 1) false)
          (Server.defaultServer.run Server.declareSpeed) := by
  obtain ⟨_, unchanged, _⟩ := check_of_writes_decides_nothing
    (Server.defaultServer.run Server.declareSpeed) {} (.opened 1) repeatedLoad
  obtain ⟨_, _, same⟩ := check_of_writes_decides_nothing
    (Server.defaultServer.run Server.declareSpeed) {} (.opened 1) plainSpeed
  refine ⟨?_, ?_, unchanged, ?_, same (List.nodup_singleton "speed")⟩
  · decide +kernel
  · decide +kernel
  · decide +kernel

end Session

end TimeSeries
