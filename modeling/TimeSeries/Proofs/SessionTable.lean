import TimeSeries.Proofs.ServerHistory

/-! The sessions of a server and the calls it carries out. A history tells which sessions are open:
each login takes the next id, and its session stays open until it is released or the server shuts
down. The table of a server lists exactly these, and calls from any other session are lost. -/

namespace TimeSeries

/-! ### Addresses -/

theorem Text.not_colon_mem_integer (number : Int) : ':' ∉ Text.integer number := by
  have digits (magnitude : Nat) : ':' ∉ Text.natural magnitude := by
    intro member
    have digit := Nat.isDigit_of_mem_toDigits (by decide) (by decide) member
    exact absurd digit (by decide)
  unfold Text.integer
  split
  · simp [digits]
  · exact digits _

theorem Ranged.text_injective {low high : Int} {first second : Ranged low high}
    (same : first.text = second.text) : first = second := by
  have read := Text.readInteger?_integer first.val
  rw [String.ofList_injective same, Text.readInteger?_integer] at read
  exact Ranged.ext (Option.some.inj read).symm

theorem append_separator_inj {α : Type} {separator : α} {first second last rest : List α}
    (plain : separator ∉ last) (plain' : separator ∉ rest)
    (same : first ++ separator :: last = second ++ separator :: rest) :
    first = second ∧ last = rest := by
  rcases List.append_eq_append_iff.mp same with ⟨more, longer, ends⟩ | ⟨more, longer, ends⟩
  · cases more with
    | nil => simp_all
    | cons head more =>
      have inside : separator ∈ last := by
        rw [(List.cons.inj ends).2]
        simp
      exact absurd inside plain
  · cases more with
    | nil => simp_all
    | cons head more =>
      have inside : separator ∈ rest := by
        rw [(List.cons.inj ends).2]
        simp
      exact absurd inside plain'

/-- Hosts may hold colons themselves, since the port behind the last one does not. -/
theorem addressOf_inj {host host' : String} {port port' : Port} :
    addressOf host port = addressOf host' port' ↔ host = host' ∧ port = port' := by
  constructor
  · intro same
    have letters := congrArg String.toList same
    simp only [addressOf, Ranged.text, String.toList_append, String.toList_ofList,
      List.append_assoc] at letters
    obtain ⟨hosts, ports⟩ := append_separator_inj (Text.not_colon_mem_integer port.val)
      (Text.not_colon_mem_integer port'.val) letters
    exact ⟨String.toList_inj.mp hosts, Ranged.text_injective (congrArg String.ofList ports)⟩
  · rintro ⟨rfl, rfl⟩
    rfl

/-! ### Logins -/

def ServerConfig.Admits (config : ServerConfig) (endpoint : Endpoint) : Prop :=
  endpoint.host = config.host ∧ endpoint.port = config.port ∧
    config.users.lookup endpoint.username = some endpoint.password

instance (config : ServerConfig) (endpoint : Endpoint) : Decidable (config.Admits endpoint) :=
  inferInstanceAs (Decidable (_ ∧ _ ∧ _))

def ServerConfig.letsIn (config : ServerConfig) : ServerAction → Bool
  | .connect endpoint => config.Admits endpoint
  | _ => false

def ServerConfig.logins (config : ServerConfig) (actions : List ServerAction) : Nat :=
  actions.countP config.letsIn

namespace Server

/-- A session is open if it was let in, has not been released since and the server still runs. Its
id counts the logins up to its own. -/
def OpenAfter (config : ServerConfig) (actions : List ServerAction) (session : OpenSession) :
    Prop :=
  .shutdown ∉ actions ∧ ∃ before endpoint after,
    actions = before ++ .connect endpoint :: after ∧ config.Admits endpoint ∧
      session = ⟨config.logins before + 1, endpoint.username⟩ ∧ .release session.id ∉ after

def Alive (config : ServerConfig) (actions : List ServerAction) (id : Nat) : Prop :=
  ∃ username, OpenAfter config actions ⟨id, username⟩

variable {config : ServerConfig} {actions : List ServerAction} {action : ServerAction}
  {session : OpenSession} {server : Server}

theorem openAfter_snoc : OpenAfter config (actions ++ [action]) session ↔
    action ≠ .shutdown ∧
      (OpenAfter config actions session ∧ action ≠ .release session.id ∨
        .shutdown ∉ actions ∧ ∃ endpoint, action = .connect endpoint ∧ config.Admits endpoint ∧
          session = ⟨config.logins actions + 1, endpoint.username⟩) := by
  unfold OpenAfter
  constructor
  · rintro ⟨running, before, endpoint, after, split, admits, same, kept⟩
    simp only [List.mem_append, List.mem_singleton, not_or] at running
    refine ⟨Ne.symm running.2, ?_⟩
    rcases List.eq_nil_or_concat after with rfl | ⟨since, last, rfl⟩
    · obtain ⟨rfl, ends⟩ := List.append_inj' split rfl
      exact .inr ⟨running.1, endpoint, (List.cons.inj ends).1, admits, same⟩
    · rw [List.concat_eq_append, ← List.cons_append, ← List.append_assoc] at split
      obtain ⟨earlier, ends⟩ := List.append_inj' split rfl
      obtain ⟨rfl, _⟩ := List.cons.inj ends
      simp only [List.concat_eq_append, List.mem_append, List.mem_singleton, not_or] at kept
      exact .inl ⟨⟨running.1, before, endpoint, since, earlier, admits, same, kept.1⟩,
        Ne.symm kept.2⟩
  · rintro ⟨runs, ⟨⟨running, before, endpoint, after, rfl, admits, same, kept⟩, holds⟩ |
      ⟨running, endpoint, rfl, admits, same⟩⟩
    · refine ⟨?_, before, endpoint, after ++ [action], ?_, admits, same, ?_⟩
      · simpa [Ne.symm runs] using running
      · rw [List.append_assoc, List.cons_append]
      · simpa [Ne.symm holds] using kept
    · refine ⟨?_, actions, endpoint, [], rfl, admits, same, List.not_mem_nil⟩
      simpa using running

theorem OpenAfter.id_le (opened : OpenAfter config actions session) :
    session.id ≤ config.logins actions := by
  obtain ⟨_, before, endpoint, after, rfl, admits, rfl, _⟩ := opened
  unfold ServerConfig.logins
  rw [List.countP_append, List.countP_cons]
  simp only [ServerConfig.letsIn, admits, decide_true, if_true]
  omega

/-! ### The table -/

structure Tabled (config : ServerConfig) (actions : List ServerAction) (server : Server) :
    Prop where
  address : server.address = config.address
  users : server.users = config.users
  running : server.running = true ↔ .shutdown ∉ actions
  next : .shutdown ∉ actions → server.nextId = config.logins actions + 1
  ordered : server.sessions.Pairwise fun before after => before.id < after.id
  listed : ∀ session, session ∈ server.sessions ↔ OpenAfter config actions session

theorem tabled_start (started : start config = .ok server) : Tabled config [] server := by
  obtain ⟨store, _, rfl⟩ := start_cases started
  refine ⟨rfl, rfl, ?_, fun _ => rfl, List.Pairwise.nil, fun session => ?_⟩
  · simp
  · simp [OpenAfter]

section Connecting

variable (tabled : Tabled config actions server)

include tabled

theorem Tabled.address_iff (endpoint : Endpoint) : endpoint.address = server.address ↔
    endpoint.host = config.host ∧ endpoint.port = config.port := by
  rw [tabled.address]
  exact addressOf_inj

theorem Tabled.connect_admitted {endpoint : Endpoint} (running : .shutdown ∉ actions)
    (admits : config.Admits endpoint) : connect endpoint server =
      (.ok (config.logins actions + 1), { server with
        sessions := server.sessions ++ [⟨config.logins actions + 1, endpoint.username⟩]
        nextId := config.logins actions + 2 }) := by
  obtain ⟨host, port, password⟩ := admits
  have reached : (!server.running || endpoint.address != server.address) = false := by
    simp [tabled.running.mpr running, (tabled.address_iff endpoint).mpr ⟨host, port⟩]
  unfold connect
  rw [reached, tabled.users, if_pos password, tabled.next running]
  rfl

theorem Tabled.connect_refused {endpoint : Endpoint}
    (refused : ¬(.shutdown ∉ actions ∧ config.Admits endpoint)) :
    ∃ cause, connect endpoint server = (.error cause, server) := by
  unfold connect
  split
  · exact ⟨_, rfl⟩
  next reached =>
    simp only [Bool.or_eq_true, Bool.not_eq_true', bne_iff_ne, not_or, Bool.not_eq_false,
      not_not] at reached
    rw [if_neg]
    · exact ⟨_, rfl⟩
    · intro password
      rw [tabled.users] at password
      have address := (tabled.address_iff endpoint).mp reached.2
      exact refused ⟨tabled.running.mp reached.1, address.1, address.2, password⟩

theorem Tabled.connect_ok_iff (endpoint : Endpoint) (id : Nat) :
    (connect endpoint server).1 = .ok id ↔
      .shutdown ∉ actions ∧ config.Admits endpoint ∧ id = config.logins actions + 1 := by
  by_cases admitted : .shutdown ∉ actions ∧ config.Admits endpoint
  · rw [tabled.connect_admitted admitted.1 admitted.2]
    simp [admitted.1, admitted.2, eq_comm]
  · obtain ⟨cause, refused⟩ := tabled.connect_refused admitted
    rw [refused]
    simp only [reduceCtorEq, false_iff]
    rintro ⟨running, admits, _⟩
    exact admitted ⟨running, admits⟩

theorem Tabled.connect (endpoint : Endpoint) :
    Tabled config (actions ++ [.connect endpoint]) (Server.connect endpoint server).2 := by
  by_cases admitted : .shutdown ∉ actions ∧ config.Admits endpoint
  · rw [tabled.connect_admitted admitted.1 admitted.2]
    refine ⟨tabled.address, tabled.users, ?_, fun _ => ?_, ?_, fun session => ?_⟩
    · simpa using tabled.running
    · simp [ServerConfig.logins, ServerConfig.letsIn, admitted.2]
    · refine List.pairwise_append.mpr ⟨tabled.ordered, List.pairwise_singleton _ _, ?_⟩
      intro before listed after added
      cases List.mem_singleton.mp added
      exact Nat.lt_succ_of_le ((tabled.listed before).mp listed).id_le
    · rw [openAfter_snoc, List.mem_append, List.mem_singleton, tabled.listed]
      simp [admitted.1, admitted.2]
  · obtain ⟨cause, refused⟩ := tabled.connect_refused admitted
    rw [refused]
    refine ⟨tabled.address, tabled.users, ?_, fun running => ?_, tabled.ordered,
      fun session => ?_⟩
    · simpa using tabled.running
    · have running : .shutdown ∉ actions := by simpa using running
      have unknown : ¬config.Admits endpoint := fun admits => admitted ⟨running, admits⟩
      rw [tabled.next running]
      simp [ServerConfig.logins, ServerConfig.letsIn, unknown]
    · rw [openAfter_snoc, tabled.listed]
      simp only [ne_eq, reduceCtorEq, not_false_eq_true, and_true, true_and,
        ServerAction.connect.injEq]
      refine ⟨.inl, ?_⟩
      rintro (opened | ⟨running, other, rfl, admits, _⟩)
      · exact opened
      · exact absurd ⟨running, admits⟩ admitted

theorem Tabled.kept {next : Server} (steady : config.letsIn action = false)
    (runs : action ≠ .shutdown) (holds : ∀ id, action ≠ .release id)
    (same : next = { server with registry := next.registry, store := next.store }) :
    Tabled config (actions ++ [action]) next := by
  rw [same]
  refine ⟨tabled.address, tabled.users, ?_, fun running => ?_, tabled.ordered,
    fun session => ?_⟩
  · simpa [Ne.symm runs] using tabled.running
  · have running : .shutdown ∉ actions := by simpa [Ne.symm runs] using running
    rw [tabled.next running]
    simp [ServerConfig.logins, steady]
  · rw [openAfter_snoc, tabled.listed]
    refine ⟨fun opened => ⟨runs, .inl ⟨opened, holds session.id⟩⟩, ?_⟩
    rintro ⟨_, ⟨opened, _⟩ | ⟨_, endpoint, rfl, admits, _⟩⟩
    · exact opened
    · exact absurd steady (by simp [ServerConfig.letsIn, admits])

theorem Tabled.release (id : Nat) :
    Tabled config (actions ++ [.release id]) (Server.release id server) := by
  refine ⟨tabled.address, tabled.users, ?_, fun running => ?_, ?_, fun session => ?_⟩
  · simpa [Server.release] using tabled.running
  · have running : .shutdown ∉ actions := by simpa using running
    simpa [Server.release, ServerConfig.logins, ServerConfig.letsIn] using tabled.next running
  · exact tabled.ordered.sublist List.filter_sublist
  · rw [openAfter_snoc, ← tabled.listed]
    simp [Server.release, eq_comm (a := id)]

theorem Tabled.shutdown : Tabled config (actions ++ [.shutdown]) (Server.shutdown server) := by
  have closed : (Server.shutdown server).running = false ∧
      (Server.shutdown server).sessions = [] := by
    unfold Server.shutdown
    split
    · exact ⟨rfl, rfl⟩
    next stopped =>
      have before : .shutdown ∈ actions := by simpa using mt tabled.running.mpr stopped
      refine ⟨by simpa using stopped, List.eq_nil_iff_forall_not_mem.mpr fun session listed => ?_⟩
      exact ((tabled.listed session).mp listed).1 before
  have kept : (Server.shutdown server).address = server.address ∧
      (Server.shutdown server).users = server.users := by
    unfold Server.shutdown
    split
    · exact ⟨rfl, rfl⟩
    · exact ⟨rfl, rfl⟩
  refine ⟨kept.1.trans tabled.address, kept.2.trans tabled.users, ?_, fun running => ?_, ?_,
    fun session => ?_⟩
  · simp [closed.1]
  · simp at running
  · rw [closed.2]
    exact List.Pairwise.nil
  · simp [closed.2, openAfter_snoc]

end Connecting

theorem Outcome.frame {request : Request} {reply : Reply} {next : Server}
    (outcome : Outcome server request reply next) :
    next = { server with registry := next.registry, store := next.store } := by
  cases outcome with
  | _ => rfl

theorem Tabled.perform (tabled : Tabled config actions server) (under : server.Under config)
    (action : ServerAction) : Tabled config (actions ++ [action]) (server.perform action) := by
  cases action with
  | connect endpoint => exact tabled.connect endpoint
  | call id request =>
    refine tabled.kept rfl ?_ ?_ (call_outcome under id request).frame
    · rintro ⟨⟩
    · rintro other ⟨⟩
  | release id => exact tabled.release id
  | shutdown => exact tabled.shutdown
  | sweep =>
    refine tabled.kept rfl ?_ ?_ rfl
    · rintro ⟨⟩
    · rintro other ⟨⟩

theorem tabled_run (started : start config = .ok server) (actions : List ServerAction) :
    Tabled config actions (server.run actions) := by
  induction actions using List.reverseRecOn with
  | nil => exact tabled_start started
  | append_singleton earlier action ih =>
    rw [run_append]
    exact ih.perform ((under_start started).run earlier) action

theorem Tabled.serves_iff (tabled : Tabled config actions server) (id : Nat) :
    server.Serves id ↔ Alive config actions id := by
  have held : server.hasSession id = true ↔ Alive config actions id := by
    unfold hasSession Alive
    rw [List.any_eq_true]
    constructor
    · rintro ⟨session, listed, same⟩
      exact ⟨session.username, eq_of_beq same ▸ (tabled.listed session).mp listed⟩
    · rintro ⟨username, opened⟩
      exact ⟨⟨id, username⟩, (tabled.listed _).mpr opened, beq_self_eq_true id⟩
  unfold Serves
  rw [held]
  refine and_iff_right_of_imp ?_
  rintro ⟨username, running, _⟩
  exact tabled.running.mpr running

theorem alive_release {id other : Nat} (different : other ≠ id) :
    Alive config (actions ++ [.release id]) other ↔ Alive config actions other := by
  unfold Alive
  simp [openAfter_snoc, different.symm]

theorem release_release (id : Nat) (server : Server) :
    release id (release id server) = release id server := by
  simp [release]

theorem shutdown_shutdown (server : Server) : server.shutdown.shutdown = server.shutdown := by
  unfold shutdown
  cases running : server.running with
  | true => rfl
  | false => simp [running]

/-! ### A host with colons -/

def colonConfig : ServerConfig where
  host := "::1"
  users := [("root", "root"), ("ann", "secret")]

def colonServer : Server :=
  { defaultServer with address := "::1:6667", users := [("root", "root"), ("ann", "secret")] }

theorem colon_started : start colonConfig = .ok colonServer :=
  rfl

def ann : Endpoint where
  host := "::1"
  username := "ann"
  password := "secret"

def comingAndGoing : List ServerAction :=
  [.connect ann, .connect { ann with password := "root" }, .connect { host := "::1" },
    .release 1, .release 1]

/-- A server lets in those that its configuration admits until it shuts down, each under the next
id, and lists exactly the sessions that have not been released. It carries out the calls of these
and of no others. Releasing a session leaves the others alone, and nothing undoes a shutdown. -/
theorem sessions_live_until_released (started : start config = .ok server)
    (actions : List ServerAction) :
    (∀ endpoint,
      (∀ id, (transport.connect endpoint (server.run actions)).1 = .ok id ↔
        .shutdown ∉ actions ∧ config.Admits endpoint ∧ id = config.logins actions + 1) ∧
      ((∃ id, (transport.connect endpoint (server.run actions)).1 = .ok id) ∨
        (transport.connect endpoint (server.run actions)).2 = server.run actions)) ∧
    ((server.run actions).sessions.Pairwise (fun before after => before.id < after.id) ∧
      ∀ session, session ∈ (server.run actions).sessions ↔ OpenAfter config actions session) ∧
    ((∀ id, (server.run actions).Serves id ↔ Alive config actions id) ∧
      ∀ id request, transport.call id request (server.run actions) =
        if (server.run actions).Serves id then (server.run actions).handle request
        else (.refused (.connection (.lost config.address)), server.run actions)) ∧
    (∀ id, (transport.close id (server.run actions)).1 = .ok () ∧
      (transport.close id (server.run actions)).2 = server.run (actions ++ [.release id]) ∧
      server.run (actions ++ [.release id, .release id]) =
        server.run (actions ++ [.release id]) ∧
      ∀ other, other ≠ id →
        (Alive config (actions ++ [.release id]) other ↔ Alive config actions other)) ∧
    server.run (actions ++ [.shutdown, .shutdown]) = server.run (actions ++ [.shutdown]) ∧
    (.shutdown ∈ actions →
      (server.run actions).running = false ∧ (server.run actions).sessions = []) := by
  have tabled := tabled_run started actions
  refine ⟨fun endpoint => ⟨tabled.connect_ok_iff endpoint, ?_⟩,
    ⟨tabled.ordered, tabled.listed⟩, ⟨tabled.serves_iff, fun id request => ?_⟩,
    fun id => ⟨rfl, ?_, ?_, fun other => alive_release⟩, ?_, fun stopped => ⟨?_, ?_⟩⟩
  · by_cases admitted : .shutdown ∉ actions ∧ config.Admits endpoint
    · exact .inl ⟨_, (tabled.connect_ok_iff endpoint _).mpr ⟨admitted.1, admitted.2, rfl⟩⟩
    · obtain ⟨cause, refused⟩ := tabled.connect_refused admitted
      exact .inr (congrArg Prod.snd refused)
  · change (server.run actions).call id request = _
    by_cases serves : (server.run actions).Serves id
    · rw [call_eq serves, if_pos serves]
    · rw [call_lost serves, if_neg serves, tabled.address]
  · rw [run_append]
    rfl
  · rw [run_append, run_append]
    exact release_release id _
  · rw [run_append, run_append]
    exact shutdown_shutdown _
  · exact Bool.eq_false_iff.mpr fun running => tabled.running.mp running stopped
  · exact List.eq_nil_iff_forall_not_mem.mpr fun session listed =>
      ((tabled.listed session).mp listed).1 stopped

/-- The refused login takes no id. After both releases the second session is the only one, its calls
are carried out, and those of the first are lost. -/
theorem second_session_outlives_first :
    (colonServer.run comingAndGoing).sessions = [⟨2, "root"⟩] ∧
      OpenAfter colonConfig comingAndGoing ⟨2, "root"⟩ ∧
      ¬Alive colonConfig comingAndGoing 1 ∧
      transport.call 1 .version (colonServer.run comingAndGoing) =
        (.refused (.connection (.lost "::1:6667")), colonServer.run comingAndGoing) ∧
      (transport.connect ann (colonServer.run comingAndGoing)).1 = .ok 3 := by
  obtain ⟨connects, ⟨_, listed⟩, ⟨serves, calls⟩, _⟩ :=
    sessions_live_until_released colon_started comingAndGoing
  have table : (colonServer.run comingAndGoing).sessions = [⟨2, "root"⟩] := by decide +kernel
  have lost : ¬(colonServer.run comingAndGoing).Serves 1 := by decide +kernel
  refine ⟨table, ?_, fun alive => lost ((serves 1).mpr alive), ?_, ?_⟩
  · rw [← listed, table]
    exact List.mem_singleton_self _
  · rw [calls, if_neg lost]
    rfl
  · refine ((connects ann).1 3).mpr ⟨?_, by decide +kernel, by decide +kernel⟩
    simp [comingAndGoing]

end Server

end TimeSeries
