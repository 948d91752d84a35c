import TimeSeries.Proofs.IndexedStore
import TimeSeries.Proofs.ServerHistory

/-! The locks around a store and around a server. Work that holds a lock alone and breaks down
spoils the lock, and then all that needs it fails. Neither lock is ever spoiled: what breaks down
are selections, and they share. -/

namespace TimeSeries

inductive Hold where
  | shared
  | alone
  deriving DecidableEq

structure Locked (State : Type) where
  state : State
  spoiled : Bool := false
  deriving DecidableEq

namespace Locked

variable {State Result : Type}

/-- Does work that needs the lock. A spoiled lock lets nobody do so. -/
def hold (locked : Locked State) (hold : Hold) (failure : Result) (broken : Result → Bool)
    (work : State → Result × State) : Result × Locked State :=
  if locked.spoiled then (failure, locked)
  else
    ((work locked.state).1,
      ⟨(work locked.state).2, hold = .alone && broken (work locked.state).1⟩)

/-- A lock stays whole under work that shares it or does not break down. -/
theorem hold_whole {state : State} {hold : Hold} {failure : Result} {broken : Result → Bool}
    {work : State → Result × State} (mild : hold = .alone → broken (work state).1 = false) :
    Locked.hold ⟨state, false⟩ hold failure broken work =
      ((work state).1, ⟨(work state).2, false⟩) := by
  unfold Locked.hold
  cases hold with
  | shared => rfl
  | alone => simp [mild rfl]

end Locked

/-! ### The store -/

inductive StoreReply where
  | answered (result : Except StoreError StoreAnswer)
  | lockFailure
  | brokenOff

namespace StoreReply

def isBrokenOff : StoreReply → Bool
  | .brokenOff => true
  | _ => false

def ofResult : Except StoreFailure StoreAnswer → StoreReply
  | .ok answer => .answered (.ok answer)
  | .error (.refused error) => .answered (.error error)
  | .error .reversedRange => .brokenOff

end StoreReply

inductive StoreReply.Expected : StoreAction → StoreReply → Prop
  | done (action : StoreAction) (answer : StoreAnswer) :
    Expected action (.answered (.ok answer))
  | outOfBounds (name : String) (point : Point) :
    Expected (.insert name point) (.answered (.error .outOfBounds))
  | brokenOff (name : String) {start stop : Timestamp} (backwards : stop < start) :
    Expected (.select name start stop) .brokenOff

/-- Only actions that add or drop partitions keep all others away from them. -/
def StoreAction.holding : StoreAction → Hold
  | .insert _ _ => .alone
  | .sweep => .alone
  | _ => .shared

namespace Store

variable {store : Store} {action : StoreAction} {config : StoreConfig}

/-- Actions that are refused before they ask for the lock. -/
def refusal (store : Store) : StoreAction → Except Breakdown (Option StoreError)
  | .insert _ point => do
    if store.closed then return some .closed
    if !(← store.window.indexedContains point.timestamp) then return some .outOfBounds
    return none
  | .sweep => .ok none
  | _ => .ok (if store.closed then some .closed else none)

def workOn (action : StoreAction) (store : Store) : StoreReply × Store :=
  match store.indexedPerform action with
  | .ok (result, next) => (.ofResult result, next)
  | .error _ => (.brokenOff, store)

def performLocked (locked : Locked Store) (action : StoreAction) : StoreReply × Locked Store :=
  match locked.state.refusal action with
  | .error _ => (.brokenOff, locked)
  | .ok (some error) => (.answered (.error error), locked)
  | .ok none =>
    locked.hold action.holding .lockFailure StoreReply.isBrokenOff (workOn action)

def runLocked (locked : Locked Store) (actions : List StoreAction) : Locked Store :=
  actions.foldl (fun locked action => (performLocked locked action).2) locked

theorem perform_insert (sound : store.Sound) (opened : store.closed = false) (name : String)
    (point : Point) : store.perform (.insert name point) =
      if store.Admits point.timestamp then (.ok .done, store.inserted name point)
      else (.error (.refused .outOfBounds), store) := by
  unfold perform
  dsimp only
  rw [sound.insert_eq opened]
  by_cases admits : store.Admits point.timestamp
  · rw [if_pos admits, if_pos admits]
  · rw [if_neg admits, if_neg admits]

theorem perform_select (sound : store.Sound) (opened : store.closed = false) (name : String)
    (start stop : Timestamp) :
    store.perform (.select name start stop) = (.error .reversedRange, store) ∧
        store.BreaksDown name start stop ∨
      ∃ points, store.perform (.select name start stop) = (.ok (.points points), store) ∧
        ¬store.BreaksDown name start stop := by
  unfold perform
  dsimp only
  by_cases broken : store.BreaksDown name start stop
  · rw [sound.select_eq_error opened broken]
    exact .inl ⟨rfl, broken⟩
  · obtain ⟨points, selected⟩ := sound.select_eq_ok opened broken
    rw [selected]
    exact .inr ⟨points, rfl, broken⟩

/-- An open store refuses points alone, and only for their time; only selections break down. -/
theorem Sound.perform_error (sound : store.Sound) (opened : store.closed = false)
    {failure : StoreFailure} (failed : (store.perform action).1 = .error failure) :
    (failure = .refused .outOfBounds ∧ ∃ name point, action = .insert name point) ∨
      (failure = .reversedRange ∧ ∃ name start stop, stop < start ∧
        action = .select name start stop) := by
  cases action with
  | insert name point =>
    rw [perform_insert sound opened] at failed
    split at failed
    · cases failed
    · cases failed
      exact .inl ⟨rfl, name, point, rfl⟩
  | select name start stop =>
    rcases perform_select sound opened name start stop with ⟨same, broken⟩ | ⟨points, same, _⟩
    · rw [same] at failed
      cases failed
      exact .inr ⟨rfl, name, start, stop, broken.1, rfl⟩
    · rw [same] at failed
      cases failed
  | delete name stop =>
    unfold perform at failed
    dsimp only at failed
    rw [sound.delete_eq opened] at failed
    cases failed
  | remove name =>
    unfold perform at failed
    dsimp only at failed
    rw [remove_eq opened] at failed
    cases failed
  | sweep => cases failed

theorem refusal_eq (opened : store.closed = false) (action : StoreAction) :
    store.refusal action = .ok none ∨ store.refusal action = .ok (some .outOfBounds) ∧
      store.perform action = (.error (.refused .outOfBounds), store) := by
  cases action with
  | insert name point =>
    unfold refusal perform insert accepts
    dsimp only
    rw [opened, InsertWindow.indexedContains_eq]
    cases store.window.contains point.timestamp with
    | true => exact .inl rfl
    | false => exact .inr ⟨rfl, rfl⟩
  | sweep => exact .inl rfl
  | select | delete | remove =>
    unfold refusal
    rw [opened]
    exact .inl rfl

section Open

variable (sound : store.Sound) (opened : store.closed = false)
  (narrow : store.duration ≤ 9223372036854775807)

include sound opened narrow

theorem Sound.workOn_eq (action : StoreAction) : workOn action store =
    (.ofResult (store.perform action).1, (store.perform action).2) := by
  unfold workOn
  by_cases changes : ∀ name start stop, action ≠ .select name start stop
  · rw [sound.indexedPerform_eq opened narrow changes]
  · simp only [not_forall, not_not] at changes
    obtain ⟨name, start, stop, rfl⟩ := changes
    rw [sound.indexedPerform_select opened]
    rcases perform_select sound opened name start stop with ⟨same, broken⟩ | ⟨points, same, whole⟩
    · rw [if_pos broken, same]
      rfl
    · rw [if_neg whole, same]

/-- Behind a lock that is whole a store answers as it does without one, and the lock stays whole. -/
theorem Sound.performLocked_eq (action : StoreAction) : performLocked ⟨store, false⟩ action =
    (.ofResult (store.perform action).1, ⟨(store.perform action).2, false⟩) := by
  have worked := sound.workOn_eq opened narrow action
  unfold performLocked
  rcases refusal_eq opened action with asks | ⟨refused, same⟩
  · rw [asks]
    dsimp only
    rw [Locked.hold_whole, worked]
    intro alone
    rw [worked]
    unfold StoreReply.ofResult
    dsimp only
    split
    · rfl
    · rfl
    next failed =>
      obtain ⟨⟨⟩, _⟩ | ⟨_, name, start, stop, _, rfl⟩ := sound.perform_error opened failed
      cases alone
  · rw [refused, same]
    rfl

end Open

theorem Sound.reply_expected (sound : store.Sound) (opened : store.closed = false)
    (action : StoreAction) : (StoreReply.ofResult (store.perform action).1).Expected action := by
  cases performed : (store.perform action).1 with
  | ok answer => exact .done action answer
  | error error =>
    rcases sound.perform_error opened performed with
      ⟨rfl, name, point, rfl⟩ | ⟨rfl, name, start, stop, backwards, rfl⟩
    · exact .outOfBounds name point
    · exact .brokenOff name backwards

theorem runLocked_eq (created : create config = .ok store)
    (narrow : config.duration ≤ 9223372036854775807) (actions : List StoreAction) :
    runLocked ⟨store, false⟩ actions = ⟨store.run actions, false⟩ := by
  induction actions using List.reverseRecOn with
  | nil => rfl
  | append_singleton earlier action ih =>
    have related := Ledger.related_run created earlier
    have still := related.sound.performLocked_eq related.opened (related.duration.trans_le narrow)
    unfold runLocked run at ih ⊢
    rw [List.foldl_append, List.foldl_append, ih]
    exact congrArg Prod.snd (still action)

end Store

/-! ### The server -/

namespace Request

def holding : Request → Option Hold
  | .deleteStorageGroups _ => some .alone
  | .deleteTimeseries _ => some .alone
  | .insert _ _ _ _ => some .shared
  | .insertTablet _ => some .shared
  | .deleteData _ _ => some .shared
  | .select _ _ _ => some .shared
  | _ => none

def unreadable? : Request → Option SchemaError
  | .select path _ _ =>
    match SchemaError.readPath path with
    | .error error => some error
    | .ok _ => none
  | _ => none

end Request

def Reply.isBrokenOff : Reply → Bool
  | .brokenOff => true
  | _ => false

namespace Server

variable {server : Server} {config : ServerConfig}

def handleLocked (request : Request) (locked : Locked Server) : Reply × Locked Server :=
  match request.unreadable?, request.holding with
  | some error, _ => (.refused (.schema error), locked)
  | none, some hold =>
    locked.hold hold (.refused (.internal "series lock poisoned")) Reply.isBrokenOff
      (handle request)
  | none, none =>
    ((locked.state.handle request).1, { locked with state := (locked.state.handle request).2 })

def callLocked (id : Nat) (request : Request) (locked : Locked Server) : Reply × Locked Server :=
  if locked.state.Serves id then handleLocked request locked
  else (.refused (.connection (.lost locked.state.address)), locked)

def performLocked (locked : Locked Server) : ServerAction → Locked Server
  | .call id request => (callLocked id request locked).2
  | action => { locked with state := locked.state.perform action }

def runLocked (locked : Locked Server) (actions : List ServerAction) : Locked Server :=
  actions.foldl performLocked locked

theorem handle_unreadable {request : Request} {error : SchemaError}
    (unreadable : request.unreadable? = some error) :
    server.handle request = (.refused (.schema error), server) := by
  cases request with
  | select path start stop =>
    unfold handle selectPoints
    unfold Request.unreadable? at unreadable
    cases read : SchemaError.readPath path with
    | ok => simp [read] at unreadable
    | error cause =>
      simp only [read, Option.some.injEq] at unreadable
      simp only [read, unreadable]
  | _ => cases unreadable

theorem dropSeries_reply (opened : server.store.closed = false)
    (change : Except SchemaError (List Path × Registry)) :
    (server.dropSeries change).1 = .answer .ok ∨
      ∃ error, (server.dropSeries change).1 = .refused (.schema error) := by
  unfold dropSeries
  cases change with
  | error error => exact .inr ⟨error, rfl⟩
  | ok changed =>
    dsimp only
    rw [removeAll_eq changed.1 opened]
    exact .inl rfl

theorem callLocked_eq (under : server.Under config) (id : Nat) (request : Request) :
    callLocked id request ⟨server, false⟩ =
      ((server.call id request).1, ⟨(server.call id request).2, false⟩) := by
  unfold callLocked
  by_cases serves : server.Serves id
  · rw [call_eq serves, if_pos serves]
    unfold handleLocked
    cases unreadable : request.unreadable? with
    | some error => rw [handle_unreadable unreadable]
    | none =>
      cases held : request.holding with
      | none => rfl
      | some hold =>
        dsimp only
        apply Locked.hold_whole
        rintro rfl
        have answered (change : Except SchemaError (List Path × Registry)) :
            (server.dropSeries change).1.isBrokenOff = false := by
          rcases dropSeries_reply (under.opened serves.1) change with reply | ⟨error, reply⟩
          · rw [reply]
            rfl
          · rw [reply]
            rfl
        cases request with
        | deleteStorageGroups paths => exact answered _
        | deleteTimeseries paths => exact answered _
        | _ => cases held
  · rw [call_lost serves, if_neg serves]

theorem runLocked_eq (under : server.Under config) (actions : List ServerAction) :
    runLocked ⟨server, false⟩ actions = ⟨server.run actions, false⟩ := by
  induction actions using List.reverseRecOn with
  | nil => rfl
  | append_singleton earlier action ih =>
    rw [run_append]
    unfold runLocked at ih ⊢
    rw [List.foldl_append, ih]
    cases action with
    | call id request =>
      exact congrArg Prod.snd (callLocked_eq (under.run earlier) id request)
    | _ => rfl

end Server

end TimeSeries
