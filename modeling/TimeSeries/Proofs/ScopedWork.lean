import TimeSeries.Proofs.SessionLifecycle

/-! Work in a session that is opened for it. The work acts on the session as it likes, may choose
each step by the answers to those before, and may close the session itself. Whatever it does and
whatever the transport answers, the connection is closed once, and a failure of the work is not
lost. -/

namespace TimeSeries

/-- Work on a session. It ends with an outcome of its own, or takes a step and goes on as the answer
to that says. -/
inductive Work (Failure Result : Type) where
  | done (outcome : Except Failure Result)
  | step (action : SessionAction) (next : Except SessionError Answer → Work Failure Result)

variable {World Connection Failure Result : Type}

def Work.run (transport : Transport World Connection) : Work Failure Result →
    Session Connection → World → Except Failure Result × Session Connection × World
  | .done outcome, session, world => (outcome, session, world)
  | .step action next, session, world =>
    let (answer, session, world) := session.step transport action world
    (next answer).run transport session world

namespace Session

def settle (failure : SessionError → Failure) :
    Except Failure Result → Except ConnectionError Unit → Except Failure Result
  | .error error, _ => .error error
  | .ok _, .error cause => .error (failure (.connection cause))
  | .ok result, .ok () => .ok result

def duringToDrop (transport : Transport World Connection) (config : SessionConfig)
    (failure : SessionError → Failure)
    (body : Session Connection → World → Except Failure Result × Session Connection × World)
    (world : World) : Except Failure Result × World :=
  match create config with
  | .error error => (.error (failure error), world)
  | .ok session =>
    match session.openConnection transport world with
    | (.error error, session, world) => (.error (failure error), session.drop transport world)
    | (.ok (), session, world) =>
      let (result, session, world) := body session world
      if session.isOpen then
        let (closing, session, world) := session.closeConnection transport world
        match result, closing with
        | .ok _, .error error => (.error (failure error), session.drop transport world)
        | result, _ => (result, session.drop transport world)
      else (result, session.drop transport world)

/-- How work during a session ends: its result, the world after it and what the transport saw. -/
inductive Ending (transport : Transport World Connection) (config : SessionConfig)
    (failure : SessionError → Failure) (work : Work Failure Result) (world : World) :
    Except Failure Result × World × List (Observation Connection) → Prop
  | invalid {error : SessionError}
    (invalid : (create config : Except SessionError (Session Connection)) = .error error) :
    Ending transport config failure work world (.error (failure error), world, [])
  | refused {session : Session Connection} {cause : ConnectionError} {later : World}
    (created : create config = .ok session)
    (refuses : transport.connect config.endpoint world = (.error cause, later)) :
    Ending transport config failure work world
      (.error (failure (.connection cause)), later, [.refused cause])
  | closedWithin {session left : Session Connection} {connection : Connection} {later now : World}
    {result : Except Failure Result} (created : create config = .ok session)
    (connects : transport.connect config.endpoint world = (.ok connection, later))
    (worked : work.run transport ⟨config, .opened connection⟩ later = (result, left, now))
    (closed : left.phase = .closed) (requests : List Request) :
    Ending transport config failure work world
      (result, now, served [] connection requests ++ [.closed connection])
  | closedAfter {session left : Session Connection} {connection : Connection}
    {later after now : World} {result : Except Failure Result}
    {closing : Except ConnectionError Unit} (created : create config = .ok session)
    (connects : transport.connect config.endpoint world = (.ok connection, later))
    (worked : work.run transport ⟨config, .opened connection⟩ later = (result, left, after))
    (opened : left.phase = .opened connection)
    (closes : transport.close connection after = (closing, now)) (requests : List Request) :
    Ending transport config failure work world
      (settle failure result closing, now, served [] connection requests ++ [.closed connection])

variable (transport : Transport World Connection) {session : Session Connection} {world : World}
  {connection : Connection} {seen : List (Observation Connection)} {phase : Phase Connection}

/-! ### The work -/

theorem work_observed (work : Work Failure Result) (session : Session Connection) (world : World)
    (seen : List (Observation Connection)) :
    (work.run transport.observed session (world, seen)).map id (Prod.map id Prod.fst) =
      work.run transport session world := by
  induction work generalizing session world seen with
  | done outcome => rfl
  | step action next ih =>
    unfold Work.run
    rw [← step_observed transport action session world seen]
    exact ih _ _ _ _

/-- Work comes down to a list of actions, although each depends on the answers before it. -/
theorem exists_run_work (work : Work Failure Result) (session : Session Connection)
    (world : World) :
    ∃ actions, (work.run transport session world).2 = session.run transport actions world := by
  induction work generalizing session world with
  | done outcome => exact ⟨[], rfl⟩
  | step action next ih =>
    obtain ⟨actions, same⟩ := ih (session.step transport action world).1
      (session.step transport action world).2.1 (session.step transport action world).2.2
    exact ⟨action :: actions, same⟩

theorem Outcome.grows {action : SessionAction} {answer : Except SessionError Answer}
    {next : Session Connection} {later : World} {observations : List (Observation Connection)}
    (outcome : Outcome session world seen action (answer, next, later, observations)) :
    seen <+: observations := by
  cases outcome with
  | early | late | again | idle | malformed => exact List.prefix_rfl
  | refused | connected | called | closed => exact List.prefix_append _ _

theorem run_grows (actions : List SessionAction) (session : Session Connection) (world : World)
    (seen : List (Observation Connection)) :
    seen <+: (session.run transport.observed actions (world, seen)).2.2 := by
  induction actions using List.reverseRecOn with
  | nil => exact List.prefix_rfl
  | append_singleton earlier action ih =>
    unfold run at ih ⊢
    rw [List.foldl_append]
    exact ih.trans (step_outcome transport action _ _ _).grows

/-- A life that begins with a connection goes on with that connection alone. -/
theorem Lived.of_connected (lived : Lived seen phase) (begun : [.connected connection] <+: seen) :
    (phase = .opened connection ∧ ∃ requests, seen = served [] connection requests) ∨
      (phase = .closed ∧ ∃ requests, seen = served [] connection requests ++
        [.closed connection]) := by
  have first : seen.head? = some (.connected connection) := by
    obtain ⟨rest, rfl⟩ := begun
    rfl
  cases lived with
  | unopened failures => cases failures <;> cases first
  | opened failures other requests =>
    cases failures with
    | nil =>
      cases first
      exact .inl ⟨rfl, requests, rfl⟩
    | cons cause failures => cases first
  | closed failures other requests =>
    cases failures with
    | nil =>
      cases first
      exact .inr ⟨rfl, requests, rfl⟩
    | cons cause failures => cases first

theorem work_lived (work : Work Failure Result) (config : SessionConfig) (connection : Connection)
    (world : World) {result : Except Failure Result} {left : Session Connection} {now : World}
    {seen : List (Observation Connection)} (worked : work.run transport.observed
      ⟨config, .opened connection⟩ (world, served [] connection []) = (result, left, now, seen)) :
    (left.phase = .opened connection ∧ ∃ requests, seen = served [] connection requests) ∨
      (left.phase = .closed ∧ ∃ requests, seen = served [] connection requests ++
        [.closed connection]) := by
  obtain ⟨actions, same⟩ := exists_run_work transport.observed work ⟨config, .opened connection⟩
    (world, served [] connection [])
  let session : Session Connection := ⟨config, .opened connection⟩
  have begun : Lived (served [] connection []) session.phase := .opened [] connection []
  have lived := lived_run transport actions begun world
  have grown := run_grows transport actions session world (served [] connection [])
  rw [worked] at same
  rw [← same] at lived grown
  exact lived.of_connected grown

/-! ### The session around it -/

theorem drop_of_not_open (closed : session.isOpen = false) :
    session.drop transport world = world := by
  unfold drop closeConnection
  unfold isOpen at closed
  split at closed
  · cases closed
  next other =>
    cases phase : session.phase with
    | opened connection => exact absurd phase (other connection)
    | unopened | closed => rfl

theorem closeConnection_closes (opened : session.isOpen = true) (world : World) :
    (session.closeConnection transport world).2.1.isOpen = false := by
  unfold isOpen at opened
  split at opened
  next connection phase =>
    unfold closeConnection
    rw [phase]
    rfl
  · cases opened

/-- A session that was closed on its way out has nothing left to close when it is dropped. -/
theorem duringToDrop_eq (config : SessionConfig) (failure : SessionError → Failure)
    (body : Session Connection → World → Except Failure Result × Session Connection × World)
    (world : World) :
    duringToDrop transport config failure body world =
      during transport config failure body world := by
  unfold duringToDrop during connect
  cases created : create config with
  | error error => rfl
  | ok session =>
    rw [session_of_create created]
    unfold openConnection
    dsimp only
    rcases transport.connect config.endpoint world with ⟨cause | connection, later⟩
    · rfl
    · dsimp only
      rcases body ⟨config, .opened connection⟩ later with ⟨result, left, after⟩
      dsimp only
      cases opened : left.isOpen with
      | false =>
        rw [drop_of_not_open transport opened]
        rfl
      | true =>
        have gone (world : World) :
            (left.closeConnection transport after).2.1.drop transport world = world :=
          drop_of_not_open transport (closeConnection_closes transport opened after)
        simp only [if_true, gone]
        cases result with
        | error error => rfl
        | ok value => cases (left.closeConnection transport after).1 <;> rfl

section Paths

variable {config : SessionConfig} (failure : SessionError → Failure) {later after now : World}
  {body : Session Connection → World → Except Failure Result × Session Connection × World}
  {result : Except Failure Result} {left : Session Connection}

theorem during_refused {cause : ConnectionError} (created : create config = .ok session)
    (refuses : transport.connect config.endpoint world = (.error cause, later)) :
    during transport config failure body world =
      (.error (failure (.connection cause)), later) := by
  unfold during connect
  rw [created, session_of_create created]
  unfold openConnection
  simp only [refuses]

theorem during_closedWithin (created : create config = .ok session)
    (connects : transport.connect config.endpoint world = (.ok connection, later))
    (worked : body ⟨config, .opened connection⟩ later = (result, left, now))
    (closed : left.phase = .closed) :
    during transport config failure body world = (result, now) := by
  have notOpen : left.isOpen = false := by
    unfold isOpen
    rw [closed]
  unfold during connect
  rw [created, session_of_create created]
  unfold openConnection
  simp only [connects, worked, notOpen, Bool.false_eq_true, if_false]

theorem during_closedAfter {closing : Except ConnectionError Unit}
    (created : create config = .ok session)
    (connects : transport.connect config.endpoint world = (.ok connection, later))
    (worked : body ⟨config, .opened connection⟩ later = (result, left, after))
    (opened : left.phase = .opened connection)
    (closes : transport.close connection after = (closing, now)) :
    during transport config failure body world = (settle failure result closing, now) := by
  have isOpen : left.isOpen = true := by
    unfold Session.isOpen
    rw [opened]
  unfold during connect
  rw [created, session_of_create created]
  unfold openConnection closeConnection
  simp only [connects, worked, isOpen, if_true, opened, closes]
  cases result with
  | error error => rfl
  | ok value => cases closing <;> rfl

end Paths

variable {config : SessionConfig} {failure : SessionError → Failure} {work : Work Failure Result}

theorem during_ends (config : SessionConfig) (failure : SessionError → Failure)
    (work : Work Failure Result) (world : World) :
    Ending transport config failure work world (during transport.observed config failure
      (work.run transport.observed) (world, [])) := by
  cases created : (create config : Except SessionError (Session Connection)) with
  | error error =>
    unfold during connect
    rw [created]
    exact .invalid created
  | ok session =>
    rcases connects : transport.connect config.endpoint world with ⟨cause | connection, later⟩
    · have refuses : transport.observed.connect config.endpoint (world, []) =
          (.error cause, later, [.refused cause]) := by
        simp [Transport.observed, connects]
      rw [during_refused transport.observed failure created refuses]
      exact .refused created connects
    · have observes : transport.observed.connect config.endpoint (world, []) =
          (.ok connection, later, served [] connection []) := by
        simp [Transport.observed, connects, served]
      rcases observed : work.run transport.observed ⟨config, .opened connection⟩
        (later, served [] connection []) with ⟨result, left, after, seen⟩
      have worked := work_observed transport work ⟨config, .opened connection⟩ later
        (served [] connection [])
      rw [observed] at worked
      rcases work_lived transport work config connection later observed with
        ⟨opened, requests, rfl⟩ | ⟨closed, requests, rfl⟩
      · rw [during_closedAfter transport.observed failure created observes observed opened rfl]
        exact .closedAfter created connects worked.symm opened rfl requests
      · rw [during_closedWithin transport.observed failure created observes observed closed]
        exact .closedWithin created connects worked.symm closed requests

theorem Ending.during_eq {result : Except Failure Result} {now : World}
    (ending : Ending transport config failure work world (result, now, seen)) :
    during transport config failure (work.run transport) world = (result, now) := by
  cases ending with
  | invalid invalid =>
    unfold during connect
    rw [invalid]
  | refused created refuses => exact during_refused transport failure created refuses
  | closedWithin created connects worked closed =>
    exact during_closedWithin transport failure created connects worked closed
  | closedAfter created connects worked opened closes =>
    exact during_closedAfter transport failure created connects worked opened closes

/-- Whatever the work on a session does and whatever the transport answers, the work is not begun
unless the session opens. Then its connection is closed once, by the work or after it, and dropping
the session closes nothing more. -/
theorem work_is_framed_by_one_connection (config : SessionConfig)
    (failure : SessionError → Failure) (work : Work Failure Result) (world : World) :
    Ending transport config failure work world (during transport.observed config failure
      (work.run transport.observed) (world, [])) ∧
    (during transport.observed config failure (work.run transport.observed) (world, [])).map id
        Prod.fst = during transport config failure (work.run transport) world ∧
    duringToDrop transport.observed config failure (work.run transport.observed) (world, []) =
      during transport.observed config failure (work.run transport.observed) (world, []) :=
  ⟨during_ends transport config failure work world,
    (during_ends transport config failure work world).during_eq.symm,
    duringToDrop_eq transport.observed config failure _ _⟩

/-- Work that fails after one request, on a peer that fails to close. -/
example :
    let work : Work SessionError Unit :=
      .step (.request .version) fun _ => .done (.error (.internal "gave up"))
    let ending := during PreparedPeer.transport.observed {} id
      (work.run PreparedPeer.transport.observed)
      ({ closes := [.error (.lost "127.0.0.1:6667")] }, [])
    ending.1 = .error (.internal "gave up") ∧
      ending.2.2 = [.connected (), .called () .version, .closed ()] :=
  ⟨rfl, rfl⟩

end Session

end TimeSeries
