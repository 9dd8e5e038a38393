import Reconn.Client.TableIndices

/-! What one step can do to the open sockets, said once: which descriptors it closes and why,
and where a client's socket, the inserted master's and the web server's come from.
-/

namespace Reconn.Client

open TransitionRuns

/-- The socket that an event accepts for a client with its context at the address. -/
def Event.acceptedFd : Event → Addr → Option Int
  | .accept fd (some mem) _, b => if mem.address = b then some fd else none
  | _, _ => none

-----------------------------------------------------------------------------------------
-- What a step does to the sockets
-----------------------------------------------------------------------------------------

/-- A socket that is closed after another one has been opened was closed before. -/
theorem closed_of_update {sockets : Int → SocketState} {fd other : Int} {state : SocketState}
    (opens : state ≠ .closed) (closed : Function.update sockets fd state other = .closed)
    : sockets other = .closed := by
  rcases update_apply_eq_iff.mp closed with ⟨-, new⟩ | ⟨-, old⟩
  · exact absurd new opens
  · exact old

/-- (SocketEffect s event actions s') is what an event with these actions can do to the open
sockets and to that of the web server, which a client's turn may open.
-/
structure SocketEffect (s : State) (event : Event) (actions : List Action) (s' : State)
    : Prop where
  closes : ∀ fd, s'.sockets fd = .closed → s.sockets fd = .closed ∨ .close fd ∈ actions
  webServer
    : s'.remote.webServerSocket = s.remote.webServerSocket
      ∨ s'.remote.webServerSocket < 0
      ∨ ((∃ a received env, event = .iterate a received env)
        ∧ s.sockets s'.remote.webServerSocket = .closed
        ∧ s'.sockets s'.remote.webServerSocket ≠ .closed)

namespace SocketEffect

variable {s s' : State} {event : Event} {actions : List Action}

theorem of_eq (sockets : s'.sockets = s.sockets) (remote : s'.remote = s.remote)
    : SocketEffect s event actions s' where
  closes := fun fd closed => .inl (sockets ▸ closed)
  webServer := .inl (by rw [remote])

/-- Opening a socket or changing its mode closes none. -/
theorem of_setSocket {s₀ : State} (effect : SocketEffect s event actions s₀) {fd : Int}
    {state : SocketState} (opens : state ≠ .closed)
    (sockets : s'.sockets = Function.update s₀.sockets fd state)
    (remote : s'.remote = s₀.remote)
    : SocketEffect s event actions s' := by
  have kept (other : Int) (closed : s'.sockets other = .closed)
      : s₀.sockets other = .closed :=
    closed_of_update opens (sockets ▸ closed)
  refine ⟨fun other closed => effect.closes other (kept other closed), ?_⟩
  rw [remote]
  rcases effect.webServer with same | negative | ⟨turn, fresh, opened⟩
  · exact .inl same
  · exact .inr (.inl negative)
  · exact .inr (.inr ⟨turn, fresh, fun closed => opened (kept _ closed)⟩)

/-- A socket is closed by the action that says so. -/
theorem of_close {s₀ : State} (effect : SocketEffect s event actions s₀)
    (sameServer : s₀.remote.webServerSocket = s.remote.webServerSocket) {fd : Int}
    (member : .close fd ∈ actions)
    (sockets : s'.sockets = Function.update s₀.sockets fd .closed)
    (remote : s'.remote = s₀.remote)
    : SocketEffect s event actions s' where
  closes := by
    intro other closed
    rw [sockets] at closed
    by_cases here : other = fd
    · exact .inr (here ▸ member)
    · exact effect.closes other (by rwa [Function.update_of_ne here] at closed)
  webServer := .inl (by rw [remote, sameServer])

theorem more {more : List Action} (effect : SocketEffect s event actions s')
    (sub : actions ⊆ more)
    : SocketEffect s event more s' where
  closes := fun fd closed => (effect.closes fd closed).imp_right fun member => sub member
  webServer := effect.webServer

/-- What follows with the same sockets has the same effect. -/
theorem trans {s₀ : State} (effect : SocketEffect s event actions s₀)
    (sockets : s'.sockets = s₀.sockets) (remote : s'.remote = s₀.remote)
    : SocketEffect s event actions s' where
  closes := fun fd closed => effect.closes fd (sockets ▸ closed)
  webServer := by
    rw [remote, sockets]
    exact effect.webServer

end SocketEffect

namespace State

variable {s s' : State} {a : Addr} {c : Context} {event : Event} {env : Outcomes}
  {received : Received} {p : Packet}

theorem deRegister_sockets
    : SocketEffect s event (s.deRegisterActions c) (s.deRegister c) := by
  unfold deRegister deRegisterActions
  cases s.registry.deRegisteredSocket c.index (c.mode = .remoteMode) with
  | none => exact .of_eq rfl rfl
  | some fd => exact .of_close (.of_eq rfl rfl) rfl (by simp) rfl rfl

/-- Returning the index first makes no difference to the socket that is closed. -/
theorem leave_sockets_eq : (s.leave a c).sockets = (s.deRegister c).sockets := by
  have same : (s.registry.reconnReturnClientIndex c.index).deRegisteredSocket c.index
        (c.mode = .remoteMode)
      = s.registry.deRegisteredSocket c.index (c.mode = .remoteMode) := by
    unfold Registry.reconnReturnClientIndex
    split_ifs <;> rfl
  unfold leave freeContext deRegister
  simp only [returnIndex_registry, same]
  cases s.registry.deRegisteredSocket c.index (c.mode = .remoteMode) <;> rfl

/-- A task that leaves closes at most the socket at its index. -/
theorem leave_sockets (a : Addr) {actions : List Action} (sub : s.deRegisterActions c ⊆ actions)
    (sockets : s'.sockets = (s.leave a c).sockets) (remote : s'.remote = (s.leave a c).remote)
    : SocketEffect s event actions s' := by
  have kept : s'.remote = (s.deRegister c).remote := by
    rw [remote, leave_remote]
    unfold deRegister
    simp only
    split <;> rfl
  exact (deRegister_sockets.trans (sockets.trans leave_sockets_eq) kept).more sub

theorem deRegisterActions_subset : s.deRegisterActions c ⊆ s.leaveActions c :=
  List.subset_cons_self ..

theorem socketClosed_sockets
    : SocketEffect s event (s.socketClosed a c).2 (s.socketClosed a c).1 := by
  unfold socketClosed
  simp only
  split_ifs
  · exact leave_sockets a (List.subset_append_of_subset_left _ deRegisterActions_subset) rfl rfl
  · exact leave_sockets a deRegisterActions_subset rfl rfl

theorem readError_sockets : SocketEffect s event (s.readError a c).2 (s.readError a c).1 := by
  unfold readError
  simp only
  split_ifs <;> exact leave_sockets a (List.subset_append_left ..) rfl rfl

theorem idlePoll_sockets : SocketEffect s event (s.idlePoll a c).2 (s.idlePoll a c).1 := by
  unfold idlePoll
  simp only
  split_ifs
  · exact leave_sockets a (List.subset_append_of_subset_left _ deRegisterActions_subset) rfl rfl
  · exact .of_eq rfl rfl
  · exact .of_eq rfl rfl

theorem controlMessage_sockets {message : ControlMessage}
    : SocketEffect s event (s.controlMessage a c message).2 (s.controlMessage a c message).1 := by
  cases message with
  | masterInserted => exact .of_setSocket (.of_eq rfl rfl) (by simp) rfl rfl
  | masterExtracted =>
      have left : SocketEffect s event
          (s.leaveActions c ++ [.close s.globals.insertedMasterSocketFd]) (s.leave a c) :=
        leave_sockets a (List.subset_append_of_subset_left _ deRegisterActions_subset) rfl rfl
      have sameServer : (s.leave a c).remote.webServerSocket = s.remote.webServerSocket := by
        rw [leave_remote]
      exact left.of_close sameServer (by simp) rfl rfl
  | masterAck | lowBattery | meterInserted | meterExtracted | rmStateChange =>
      exact .of_eq rfl rfl

theorem clientResignReq_sockets
    : SocketEffect s event (s.clientResignReq a c p).2 (s.clientResignReq a c p).1 := by
  have sub : s.deRegisterActions c
      ⊆ c.respond p reconnSuccess :: s.deRegisterActions c
        ++ [.reconnReturnClientIndex c.index, resetSystem] :=
    List.subset_append_of_subset_left _ (List.subset_cons_self ..)
  unfold clientResignReq
  simp only
  split_ifs
  · exact .of_eq rfl rfl
  · exact leave_sockets a (List.subset_cons_of_subset _ sub) rfl rfl
  · exact leave_sockets a sub rfl rfl

/-- A client that cannot be registered has its socket closed. -/
theorem registerClient_sockets {s₁ : State} {actions : List Action}
    (effect : SocketEffect s event [] s₁) (remote : s₁.remote = s.remote)
    : SocketEffect s event (s₁.registerClient a c actions).2
        (s₁.registerClient a c actions).1 := by
  have started (more : List Action) : SocketEffect s event more s₁ :=
    effect.more (List.nil_subset _)
  unfold registerClient
  split
  · exact (started _).trans rfl rfl
  · split_ifs
    · exact (started _).of_close (by rw [remote]) (by simp) rfl rfl
    · exact (started _).trans rfl rfl

theorem masterModeReq_sockets
    : SocketEffect s event (s.masterModeReq env a c p).2 (s.masterModeReq env a c p).1 := by
  unfold masterModeReq
  split_ifs
  · exact .of_eq rfl rfl
  · unfold grantMastership
    by_cases fails : env.mqOpen = -1
    · rw [if_pos fails]
      exact .of_eq rfl rfl
    · rw [if_neg fails]
      exact registerClient_sockets (.of_setSocket (.of_eq rfl rfl) (by simp) rfl rfl) rfl
  · exact registerClient_sockets (.of_eq rfl rfl) rfl

theorem masterModeResignResp_sockets {result : State × List Action}
    (answered : s.masterModeResignResp a c p = some result)
    : SocketEffect s event result.2 result.1 := by
  cases masterModeResignResp_comes answered with
  | hands success pointer handed =>
      obtain ⟨other, -, rfl⟩ := Option.map_eq_some_iff.mp handed
      have slave : SocketEffect s event [] (s.setSocket c.socketFd .blocking) :=
        .of_setSocket (.of_eq rfl rfl) (by simp) rfl rfl
      have both : SocketEffect s event []
          ((s.setSocket c.socketFd .blocking).setSocket other.socketFd .nonBlocking) :=
        slave.of_setSocket (by simp) rfl rfl
      exact (both.more (List.nil_subset _)).trans rfl rfl
  | denies denied pointer found => exact .of_eq rfl rfl
  | neither => exact .of_eq rfl rfl

/-- Activating the remote monitor opens a socket to the web server, if there is one. -/
theorem webServiceIpAndPort_sockets
    (fresh : env.webServerSocket < 0 ∨ s.sockets env.webServerSocket = .closed)
    : SocketEffect s (.iterate a received env) (s.webServiceIpAndPort env a c p).2
        (s.webServiceIpAndPort env a c p).1 := by
  have opened (nonneg : ¬ env.webServerSocket < 0) {s' : State}
      (sockets : s'.sockets = Function.update s.sockets env.webServerSocket .blocking)
      (server : s'.remote.webServerSocket = env.webServerSocket)
      : SocketEffect s (.iterate a received env) [] s' := by
    refine ⟨fun fd closed => .inl (closed_of_update (by simp) (sockets ▸ closed)), .inr (.inr ?_)⟩
    rw [server, sockets]
    exact ⟨⟨a, received, env, rfl⟩, fresh.resolve_left nonneg, by simp⟩
  have activated
      : SocketEffect s (.iterate a received env) [] (s.remoteMonitorActivateYes env).1 := by
    unfold remoteMonitorActivateYes
    simp only
    split_ifs with _ failed
    · exact .of_eq rfl rfl
    · exact ⟨fun _ closed => .inl closed, .inr (.inl failed)⟩
    all_goals exact opened failed rfl rfl
  unfold webServiceIpAndPort
  simp only
  split_ifs
  · exact .of_eq rfl rfl
  · exact .of_eq rfl rfl
  · exact .of_eq rfl rfl
  · exact (activated.more (List.nil_subset _)).trans rfl rfl

/-- What a command of the switch does to the sockets. -/
theorem command_sockets
    (fresh : env.webServerSocket < 0 ∨ s.sockets env.webServerSocket = .closed)
    : SocketEffect s (.iterate a received env) ((s.command env a c p).getD (s.halt, [])).2
        ((s.command env a c p).getD (s.halt, [])).1 := by
  unfold State.command
  split
  · exact clientResignReq_sockets
  · exact masterModeReq_sockets
  · simp only [Option.getD_some]
    unfold masterModeResignReq
    simp only
    split_ifs <;> exact .of_eq rfl rfl
  · cases answered : s.masterModeResignResp a c p with
    | none => exact .of_eq rfl rfl
    | some result => exact masterModeResignResp_sockets answered
  · simp only [Option.getD_some]
    rcases swUpgradeReq_cases env s a c p with ends | stays
    · rw [ends]
      exact .of_eq rfl rfl
    · rw [stays]
      exact .of_eq rfl rfl
  · exact webServiceIpAndPort_sockets fresh
  · cases equipmentCommand env s c p p.command <;> exact .of_eq rfl rfl

/-- What a turn of the loop does to the sockets. -/
theorem takeTurn_sockets (way : Turn)
    (fresh : env.webServerSocket < 0 ∨ s.sockets env.webServerSocket = .closed)
    : SocketEffect s (.iterate a received env) (s.takeTurn env a c way).2
        (s.takeTurn env a c way).1 := by
  cases way with
  | closed => exact socketClosed_sockets
  | failed => exact readError_sockets
  | overrun | stalled => exact .of_eq rfl rfl
  | takes message => exact controlMessage_sockets
  | idle => exact idlePoll_sockets
  | dispatches p =>
      simp only [takeTurn, dispatch]
      split_ifs
      · exact .of_eq rfl rfl
      · exact command_sockets fresh

/-- A visit of the sweep closes no socket, as the contexts it deregisters are remote. -/
theorem cleanupEntry_sockets {i : Int} (visited : s.cleanupEntry i = some s')
    : s'.sockets = s.sockets ∧ s'.remote = s.remote := by
  unfold cleanupEntry at visited
  split at visited
  · obtain rfl := Option.some.inj visited
    exact ⟨rfl, rfl⟩
  · cases visited
  · obtain ⟨c, -, rfl⟩ := Option.map_eq_some_iff.mp visited
    split_ifs with remote
    · have noSocket : (s.returnIndex c).registry.deRegisteredSocket c.index
            (c.mode = .remoteMode) = none := by
        simp [Registry.deRegisteredSocket, remote]
      unfold deRegister
      rw [noSocket]
      exact ⟨rfl, rfl⟩
    · exact ⟨rfl, rfl⟩

/-- Deregistration looks at neither the globals nor the remote monitor. -/
theorem deRegister_with (globals : Globals) (remote : RemoteMonitor)
    : ({ s with globals, remote } : State).deRegister c
      = { s.deRegister c with globals, remote } := by
  unfold deRegister
  cases s.registry.deRegisteredSocket c.index (c.mode = .remoteMode) <;> rfl

/-- A visit of the sweep looks at neither of them. -/
theorem cleanupEntry_with (globals : Globals) (remote : RemoteMonitor) (s : State) (i : Int)
    : ({ s with globals, remote } : State).cleanupEntry i
      = (s.cleanupEntry i).map fun s' => { s' with globals, remote } := by
  unfold cleanupEntry
  cases s.registry.activeClientsList i with
  | free | reserved => rfl
  | registered a =>
      simp only [Option.map_map]
      refine congrArg (Option.map · _) (funext fun c => ?_)
      simp only [Function.comp]
      split_ifs
      · exact (s.returnIndex c).deRegister_with globals remote
      · rfl

/-- The clean-up succeeds whatever the globals and the remote monitor are. -/
theorem isSome_remoteMonitorCleanup (globals : Globals) (remote : RemoteMonitor)
    : ({ s with globals, remote } : State).remoteMonitorCleanup.isSome
      = s.remoteMonitorCleanup.isSome := by
  unfold remoteMonitorCleanup
  rw [foldlM_map (cleanupEntry_with globals remote), Option.isSome_map, Option.isSome_map,
    Option.isSome_map]

theorem remoteMonitorCleanup_webServer (cleaned : s.remoteMonitorCleanup = some s')
    : s'.remote.webServerSocket = -1 := by
  obtain ⟨swept, -, rfl⟩ := Option.map_eq_some_iff.mp cleaned
  rfl

/-- remoteMonitorCleanup closes at most the web server's socket. -/
theorem remoteMonitorCleanup_sockets {globals : Globals} {remote : RemoteMonitor}
    (server : remote.webServerSocket = s.remote.webServerSocket)
    (cleaned : ({ s with globals, remote } : State).remoteMonitorCleanup = some s')
    : SocketEffect s event s.remoteMonitorCleanupActions s' := by
  have done : s.remoteMonitorCleanup.isSome = true := by
    rw [← isSome_remoteMonitorCleanup globals remote, cleaned]
    rfl
  unfold remoteMonitorCleanup at cleaned
  obtain ⟨swept, scanned, rfl⟩ := Option.map_eq_some_iff.mp cleaned
  obtain ⟨sockets, same⟩ : swept.sockets = s.sockets ∧ swept.remote = remote :=
    foldlM_invariant (fun _ next => next.sockets = s.sockets ∧ next.remote = remote)
      (fun _ _ _ _ known visited =>
        have same := cleanupEntry_sockets visited
        ⟨same.1.trans known.1, same.2.trans known.2⟩)
      ⟨rfl, rfl⟩ scanned
  refine ⟨fun fd closed => ?_, .inr (.inl (by simp))⟩
  simp only [same, server] at closed
  split_ifs at closed with served
  · by_cases here : fd = s.remote.webServerSocket
    · refine .inr (List.mem_append_right _ ?_)
      rw [if_pos ⟨done, served⟩, here]
      simp
    · refine .inl ?_
      simpa [setSocket, sockets, Function.update_of_ne here] using closed
  · exact .inl (sockets ▸ closed)

/-- Deactivating the remote monitor closes at most the web server's socket. -/
theorem remoteMonitorActivateNo_sockets {remote : RemoteMonitor}
    (server : remote.webServerSocket = s.remote.webServerSocket)
    (active : remote.remoteMonitorActive = s.remote.remoteMonitorActive)
    (deactivated : ({ s with remote } : State).remoteMonitorActivateNo = some s')
    : SocketEffect s event s.remoteMonitorActivateNoActions s' := by
  unfold remoteMonitorActivateNo at deactivated
  unfold remoteMonitorActivateNoActions
  simp only [active] at deactivated
  split_ifs at deactivated ⊢
  · exact remoteMonitorCleanup_sockets server deactivated
  · obtain rfl := Option.some.inj deactivated
    exact ⟨fun _ closed => .inl closed, .inl server⟩

theorem undefined_sockets {actions : List Action} {result : Option State}
    (defined : ∀ s', result = some s' → SocketEffect s event actions s')
    : SocketEffect s event actions (result.getD s.halt) :=
  getD_halt (P := SocketEffect s event actions) (.of_eq rfl rfl) defined

theorem remoteSendData_sockets (sent : s.remoteSendData = some s')
    : SocketEffect s event s.remoteSendDataActions s' := by
  obtain ⟨⟨r, c⟩, found, registers⟩ := Option.bind_eq_some_iff.mp sent
  cases given : s.registry.reconnGetFreeClientIndex c.index with
  | none =>
      obtain ⟨same, actions⟩ := remoteSendData_full found given
      rw [actions]
      exact remoteMonitorActivateNo_sockets rfl rfl (same ▸ sent)
  | some result =>
      obtain ⟨registry, index⟩ := result
      have room := (Registry.mem_indices.mp (Registry.reconnGetFreeClientIndex_spec given).1).2
      simp only [reconnClientsRegistered_three, Option.bind_some, if_true, given,
        Registry.reconnRegisterClientApp, if_pos room] at registers
      obtain rfl := Option.some.inj registers
      exact .of_eq rfl rfl

/-- A descriptor that the kernel hands out anew. -/
theorem opens_sockets (fd : Int) {actions : List Action}
    (sockets : s'.sockets = Function.update s.sockets fd .blocking) (remote : s'.remote = s.remote)
    : SocketEffect s event actions s' :=
  .of_setSocket (.of_eq rfl rfl) (by simp) sockets remote

theorem start_sockets {actions : List Action}
    : SocketEffect s event actions (s.prologue a c).1 := by
  unfold prologue
  simp only
  split_ifs
  · split <;> exact .of_eq rfl rfl
  · exact .of_eq rfl rfl

theorem accept_sockets {fd : Int} {mem : Option Memory} {started : Bool} {actions : List Action}
    : SocketEffect s event actions (s.accept fd mem started).1 := by
  unfold accept
  split
  · exact .of_eq rfl rfl
  · cases mem with
    | none => exact .of_eq rfl rfl
    | some mem => exact opens_sockets fd rfl rfl

theorem connectTransmit_sockets {fd : Int} {connected : Bool} {actions : List Action}
    : SocketEffect s event actions (s.connectTransmit fd connected) := by
  by_cases negative : fd < 0
  · exact .of_eq (by simp [connectTransmit, negative]) (by simp [connectTransmit, negative])
  · refine opens_sockets fd ?_ ?_
    · simp [connectTransmit, negative, setSocket]
    · simp [connectTransmit, negative, setSocket]

theorem transmitAccept_sockets {fd : Int} {actions : List Action}
    : SocketEffect s event actions (s.transmitAccept fd) := by
  unfold transmitAccept
  simp only
  split_ifs
  · exact .of_eq rfl rfl
  · exact opens_sockets fd rfl rfl

theorem createInserted_sockets {mem : Option Addr} {started : Bool} {actions : List Action}
    : SocketEffect s event actions (s.createInserted mem started) := by
  unfold createInserted
  cases mem with
  | none => exact .of_eq rfl rfl
  | some b =>
      simp only
      split <;> exact .of_eq rfl rfl

theorem remoteStart_sockets {mem : Option Addr} (started : s.remoteStart mem = some s')
    : SocketEffect s event (if mem = none then s.remoteMonitorActivateNoActions else []) s' := by
  cases mem with
  | none =>
      let remote := { s.remote with created := s.remote.created - 1, aContextPtr := none }
      have deactivated : ({ s with remote } : State).remoteMonitorActivateNo = some s' := started
      refine remoteMonitorActivateNo_sockets ?_ ?_ deactivated <;> rfl
  | some b =>
      obtain rfl := Option.some.inj started
      exact ⟨fun _ closed => .inl closed, .inl rfl⟩

theorem remoteStopData_sockets (stopped : s.remoteStopData = some s')
    : SocketEffect s event s.remoteStopDataActions s' := by
  obtain ⟨⟨r, c⟩, found, stopped⟩ := Option.bind_eq_some_iff.mp stopped
  simp only at stopped
  split_ifs at stopped
  obtain rfl := Option.some.inj stopped
  simp only [remoteStopDataActions, found]
  exact deRegister_sockets

theorem remoteExit_sockets {actions : List Action} (left : s.remoteExit = some s')
    : SocketEffect s event actions s' := by
  unfold remoteExit at left
  split_ifs at left
  · obtain rfl := Option.some.inj left
    exact ⟨fun _ closed => .inl closed, .inl rfl⟩
  · obtain ⟨⟨r, c⟩, -, rfl⟩ := Option.map_eq_some_iff.mp left
    exact ⟨fun _ closed => .inl closed, .inl rfl⟩

/-- What a step does to the sockets. Witness: the events one by one. -/
theorem step_sockets {output : Output}
    (taken : s.step event = some (s', output))
    : SocketEffect s event output.actions s' := by
  obtain ⟨-, enabled, performed⟩ := step_eq_some taken
  cases event with
  | iterate a received env =>
      obtain ⟨c, way, -, rfl, rfl⟩ := step_iterate taken
      simp only [State.enabled, Bool.and_eq_true, Bool.or_eq_true, decide_eq_true_eq] at enabled
      exact takeTurn_sockets way enabled.2
  | start a =>
      obtain ⟨c, found, -⟩ := starting_of_enabled enabled
      simp only [perform, found] at performed
      obtain ⟨rfl, -⟩ := Prod.mk.inj performed
      exact start_sockets
  | accept fd mem started =>
      obtain ⟨rfl, -⟩ := Prod.mk.inj performed
      exact accept_sockets
  | connectTransmit fd connected =>
      obtain ⟨rfl, -⟩ := Prod.mk.inj performed
      exact connectTransmit_sockets
  | transmitAccept fd =>
      obtain ⟨rfl, -⟩ := Prod.mk.inj performed
      exact transmitAccept_sockets
  | createInserted mem started =>
      obtain ⟨rfl, -⟩ := Prod.mk.inj performed
      exact createInserted_sockets
  | iphoneInserted =>
      obtain ⟨rfl, -⟩ := Prod.mk.inj performed
      unfold masterIphoneInserted
      split_ifs <;> exact .of_eq rfl rfl
  | iphoneExtracted =>
      obtain ⟨rfl, -⟩ := Prod.mk.inj performed
      unfold masterIphoneExtracted
      split_ifs <;> exact .of_eq rfl rfl
  | remoteStart mem =>
      obtain ⟨rfl, rfl⟩ := Prod.mk.inj performed
      exact undefined_sockets fun _ => remoteStart_sockets
  | remoteSendData =>
      obtain ⟨rfl, rfl⟩ := Prod.mk.inj performed
      exact undefined_sockets fun _ => remoteSendData_sockets
  | remoteStopData =>
      obtain ⟨rfl, rfl⟩ := Prod.mk.inj performed
      exact undefined_sockets fun _ => remoteStopData_sockets
  | remoteDeactivate =>
      obtain ⟨rfl, rfl⟩ := Prod.mk.inj performed
      exact undefined_sockets fun _ => remoteMonitorActivateNo_sockets rfl rfl
  | remoteExit =>
      obtain ⟨rfl, rfl⟩ := Prod.mk.inj performed
      exact undefined_sockets fun _ => remoteExit_sockets
  | semTimedWaitFails | semTimedWait | meterPresence | remoteConnected =>
      obtain ⟨rfl, -⟩ := Prod.mk.inj performed
      exact .of_eq rfl rfl

end State

-----------------------------------------------------------------------------------------
-- Where tasks and descriptors come from
-----------------------------------------------------------------------------------------

/-- (SocketOrigin s event s' b t) says where the task at `b` and its socket come from: the
task was there before, or the event has accepted a connection for it, or it is the inserted
master's.
-/
inductive SocketOrigin (s : State) (event : Event) (s' : State) (b : Addr) (t : Task)
    : Prop where
  | continued {u} (old : s.task b = some u) (index : t.index = u.index)
      (socketFd : t.socketFd = u.socketFd)
      : SocketOrigin s event s' b t
  | accepted (fresh : s.contexts b = none) (accepts : event.acceptedFd b = some t.socketFd)
      (client : t.index ≠ 0) (positive : 0 < t.socketFd)
      (closed : s.sockets t.socketFd = .closed) (opened : s'.sockets t.socketFd ≠ .closed)
      : SocketOrigin s event s' b t
  | inserted (fresh : s.contexts b = none) (noAccept : event.acceptedFd b = none)
      (index : t.index = 0)
      : SocketOrigin s event s' b t

/-- A task afterwards continues one of before or has a new context. -/
theorem TableEffect.task_origin {s s' : State} {event : Event} (effect : TableEffect s event s')
    (placed : s.WellPlaced) {b : Addr} {t : Task} (after : s'.task b = some t)
    : (∃ u, s.task b = some u ∧ t.index = u.index ∧ t.socketFd = u.socketFd)
      ∨ s.contexts b = none := by
  obtain ⟨c, found, runs, rfl⟩ := State.context_of_task after
  have here {old : Context} (before : s.contexts b = some old) (continues : old.Continues c)
      : ∃ u, s.task b = some u ∧ c.index = u.index ∧ c.socketFd = u.socketFd := by
    have ran : old.thread ≠ .none := fun idle => runs (continues.thread.mpr idle)
    exact ⟨_, State.task_of_runs before ran, continues.index, continues.socketFd⟩
  have continued (contexts : ContextsContinue s.contexts s'.contexts)
      : ∃ u, s.task b = some u ∧ c.index = u.index ∧ c.socketFd = u.socketFd := by
    obtain ⟨old, before, continues⟩ := contexts.origin found
    exact here before continues
  have updated {a : Addr} {new : Option Context}
      (contexts : s'.contexts = Function.update s.contexts a new)
      : (b = a ∧ new = some c)
        ∨ ∃ u, s.task b = some u ∧ c.index = u.index ∧ c.socketFd = u.socketFd := by
    rw [contexts] at found
    rcases update_apply_eq_iff.mp found with new | ⟨-, old⟩
    · exact .inl new
    · exact .inr (here old (.refl c))
  cases effect with
  | keeps _ contexts | registers _ _ _ contexts => exact .inl (continued contexts)
  | leaves _ _ _ contexts | openFails _ _ _ _ contexts | remoteFrees _ _ _ contexts =>
      refine .inl ((updated contexts).resolve_left ?_)
      rintro ⟨-, ⟨⟩⟩
  | unregistered handles outside =>
      exact absurd (placed.index_lt handles.toTurns) (not_lt.mpr outside)
  | reserves _ contexts | remoteStops _ _ _ contexts =>
      exact .inl (continued (contexts ▸ .refl _))
  | creates fresh _ _ contexts | allocates fresh _ _ _ contexts
  | remoteStarts fresh _ _ _ contexts =>
      rcases updated contexts with ⟨rfl, -⟩ | old
      · exact .inr fresh
      · exact .inl old
  | remoteRegisters remote _ _ contexts =>
      refine .inl ((updated contexts).resolve_left ?_)
      rintro ⟨-, ⟨⟩⟩
      exact runs (State.remoteContext_task remote).2.1
  | cleans _ swept =>
      obtain ⟨-, -, -, -, contexts⟩ := swept
      exact .inl (continued (contexts ▸ .refl _))

namespace State

variable {s s' : State} {a b : Addr} {c : Context} {event : Event} {output : Output} {t : Task}

/-- A task that has just connected has the accepted socket. -/
theorem accept_origin {fd : Int} {mem : Option Memory} {started : Bool}
    (enabled : s.enabled (.accept fd mem started) = true)
    (after : (s.accept fd mem started).1.task b = some t)
    : SocketOrigin s (.accept fd mem started) (s.accept fd mem started).1 b t := by
  have same (task : (s.accept fd mem started).1.task = s.task)
      : SocketOrigin s (.accept fd mem started) (s.accept fd mem started).1 b t :=
    .continued (task ▸ after) rfl rfl
  cases given : s.registry.reconnGetFreeClientIndex (-1) with
  | none => exact same (by simp [accept, given])
  | some result =>
      obtain ⟨registry, index⟩ := result
      cases mem with
      | none =>
          refine same ?_
          simp only [accept, given]
          rfl
      | some mem =>
          obtain ⟨positive, fresh⟩ := accept_fresh enabled
          simp only [State.enabled, Bool.and_eq_true, decide_eq_true_eq] at enabled
          have client := Registry.index_ne_zero_of_given given (by decide)
          simp only [accept, given] at after ⊢
          obtain ⟨c, found, runs, rfl⟩ := context_of_task after
          simp only [setSocket_contexts, setContext] at found
          rcases update_apply_eq_iff.mp found with ⟨rfl, new⟩ | ⟨-, old⟩
          · obtain rfl := Option.some.inj new
            refine .accepted fresh (by simp [Event.acceptedFd]) client positive enabled.1.2 ?_
            simp [setSocket]
          · exact .continued (task_of_runs old runs) rfl rfl

/-- Every task after a step has an origin, and so has its socket. -/
theorem step_origin (placed : s.WellPlaced) (taken : s.step event = some (s', output))
    (after : s'.task b = some t)
    : SocketOrigin s event s' b t := by
  obtain ⟨-, enabled, performed⟩ := step_eq_some taken
  rcases (step_table taken).task_origin placed after with ⟨u, old, index, socketFd⟩ | fresh
  · exact .continued old index socketFd
  · have noTask := task_of_fresh fresh
    cases (step_effect taken).taskOrigin after with
    | kept old => simp [noTask] at old
    | moded old => simp [noTask] at old
    | accepted =>
        obtain ⟨rfl, -⟩ := Prod.mk.inj performed
        exact accept_origin enabled after
    | inserted index => exact .inserted fresh rfl index

/-- insertedMasterSocketFd stays, is given up, or is what insertedMasterTransmitTask has just
accepted.
-/
theorem step_insertedMaster (placed : s.WellPlaced)
    (taken : s.step event = some (s', output))
    : s'.globals.insertedMasterSocketFd = s.globals.insertedMasterSocketFd
      ∨ s'.globals.insertedMasterSocketFd = -1
      ∨ (event = .transmitAccept s'.globals.insertedMasterSocketFd
        ∧ s.sockets s'.globals.insertedMasterSocketFd = .closed
        ∧ s'.sockets s'.globals.insertedMasterSocketFd ≠ .closed) := by
  obtain ⟨-, enabled, performed⟩ := step_eq_some taken
  cases step_effect taken with
  | halts => exact .inl rfl
  | keeps globals | posts globals | accepts _ _ _ globals | inserts _ _ globals
  | notified _ _ globals | stepsBack _ globals | releases _ _ _ globals | leaves _ _ globals
  | breaks _ _ globals | openFails _ _ _ globals | grants _ _ _ globals
  | forwards _ _ _ globals | handsOver _ _ _ _ globals | denies _ _ _ _ globals =>
      exact .inl (by simp [globals, Globals.releaseMastership])
  | extracted _ globals => exact .inr (.inl (by simp [globals]))
  | unregistered handles outside =>
      exact absurd (placed.index_lt handles.toTurns) (not_lt.mpr outside)
  | @transmits fd _ globals =>
      obtain ⟨rfl, -⟩ := Prod.mk.inj performed
      have accepted : (s.transmitAccept fd).globals.insertedMasterSocketFd = fd := by
        rw [globals]
      rw [accepted]
      simp only [State.enabled, Bool.and_eq_true, Bool.or_eq_true, decide_eq_true_eq] at enabled
      rcases enabled.2 with failed | ⟨⟨nonneg, closed⟩, -⟩
      · exact .inr (.inl failed)
      · refine .inr (.inr ⟨rfl, closed, ?_⟩)
        simp [transmitAccept, setSocket, not_lt.mpr nonneg]

-----------------------------------------------------------------------------------------
-- Who closes a descriptor
-----------------------------------------------------------------------------------------

/-- The socket that deregistration closes. -/
theorem deRegisteredSocket_eq_some {r : Registry} {i fd : Int} {remote : Bool}
    : r.deRegisteredSocket i remote = some fd
      ↔ i < reconnMaxNumClients ∧ i ≠ 0 ∧ r.socketIdList i = fd ∧ fd ≠ -1 ∧ remote = false := by
  unfold Registry.deRegisteredSocket
  split_ifs with closes
  · grind
  · grind

/-- Deregistration closes one socket at most. -/
theorem count_deRegisterActions (fd : Int)
    : (s.deRegisterActions c).count (.close fd)
      = if s.registry.deRegisteredSocket c.index (c.mode = .remoteMode) = some fd then 1
        else 0 := by
  unfold deRegisterActions
  cases s.registry.deRegisteredSocket c.index (c.mode = .remoteMode) with
  | none => simp
  | some other => simp [List.count_cons]

theorem count_calls (actions : List Action) (fd : Int)
    : (calls actions).count (.close fd) = actions.count (.close fd) :=
  List.count_filter (by rfl)

/-- A task that leaves its loop, or that takes MASTER_EXTRACTED, is gone after the turn. -/
theorem takeTurn_gone {env : Outcomes} {way : Turn}
    (gone : exits c way = true ∨ way = .takes .masterExtracted)
    : (s.takeTurn env a c way).1.task a = none := by
  have left (c : Context) : (s.leave a c).task a = none := by simp [without]
  cases way with
  | closed =>
      unfold takeTurn socketClosed
      simp only
      split_ifs <;> exact left _
  | failed =>
      unfold takeTurn readError
      simp only
      split_ifs <;> exact left _
  | idle =>
      simp only [exits, Bool.and_eq_true, decide_eq_true_eq, reduceCtorEq, or_false] at gone
      simp only [takeTurn, idlePoll, if_pos gone.1, if_pos gone.2]
      exact left _
  | dispatches p =>
      simp only [exits, Bool.and_eq_true, decide_eq_true_eq, reduceCtorEq, or_false,
        Bool.not_eq_true'] at gone
      obtain ⟨⟨resigns, passes⟩, other⟩ := gone
      simp only [takeTurn, dispatch, passes, Bool.false_eq_true, if_false, command, resigns,
        Option.getD_some, clientResignReq, if_neg other]
      split_ifs <;> exact left _
  | takes message =>
      simp only [exits, Bool.false_eq_true, false_or] at gone
      obtain rfl : message = .masterExtracted := by simpa using gone
      exact left _
  | overrun | stalled => simp [exits] at gone

/-- The sweep closes nothing, by induction on the indices it visits. -/
theorem close_notMem_cleanupActions (is : List Int) (fd : Int)
    : .close fd ∉ s.cleanupActions is := by
  induction is generalizing s with
  | nil => simp [cleanupActions]
  | cons i rest ih =>
      have visit : .close fd ∉ s.cleanupEntryActions i := by
        unfold cleanupEntryActions
        split
        · simp
        · simp
        · split
          · simp
          · split_ifs with remote
            · simp [deRegisterActions, Registry.deRegisteredSocket, remote]
            · simp
      unfold cleanupActions
      split
      · simp
      · exact fun member => (List.mem_append.mp member).elim visit ih

/-- Deactivating the remote monitor closes the web server's socket and gives it up. -/
theorem close_remoteMonitorActivateNo {remote : RemoteMonitor}
    (active : remote.remoteMonitorActive = s.remote.remoteMonitorActive) {fd : Int}
    (closes : .close fd ∈ s.remoteMonitorActivateNoActions)
    : fd = s.remote.webServerSocket
      ∧ (({ s with remote } : State).remoteMonitorActivateNo.getD
        s.halt).remote.webServerSocket = -1 := by
  unfold remoteMonitorActivateNoActions at closes
  split_ifs at closes with activated
  · unfold remoteMonitorCleanupActions at closes
    rcases List.mem_append.mp closes with swept | closed
    · exact absurd swept (close_notMem_cleanupActions _ fd)
    · split_ifs at closed with done
      · refine ⟨by simpa using closed, ?_⟩
        unfold remoteMonitorActivateNo
        simp only [active, activated, if_true]
        have defined := done.1
        rw [← isSome_remoteMonitorCleanup
          (s.globals.mqSend (.rmStateChange disconnected)) remote] at defined
        obtain ⟨s', cleaned⟩ := Option.isSome_iff_exists.mp defined
        rw [cleaned, Option.getD_some]
        exact remoteMonitorCleanup_webServer cleaned
      · cases closed
  · cases closes

end State

/-- (Closing s event s' fd) says why a step closes a descriptor. -/
inductive Closing (s : State) (event : Event) (s' : State) (fd : Int) : Prop where
  /-- A connection is refused that has just been accepted. -/
  | refuses (closed : s.sockets fd = .closed) : Closing s event s' fd
  | leaves {a received env c way} (turns : s.Turns a c received env way)
      (happens : event = .iterate a received env)
      (gone : State.exits c way = true ∨ way = .takes .masterExtracted) (client : c.index ≠ 0)
      (slot : s.registry.socketIdList c.index = fd) (used : fd ≠ -1)
      (left : s'.task a = none)
      : Closing s event s' fd
  | extracts (insertedMaster : s.globals.insertedMasterSocketFd = fd)
      (left : s'.globals.insertedMasterSocketFd = -1)
      : Closing s event s' fd
  | cleans (server : s.remote.webServerSocket = fd)
      (left : s'.remote.webServerSocket = -1)
      : Closing s event s' fd
  | stops {r c} (happens : event = .remoteStopData) (found : s.remoteContext = some (r, c))
      (local_ : c.mode ≠ .remoteMode)
      : Closing s event s' fd

namespace State

variable {s s' : State} {a : Addr} {c : Context} {event : Event} {output : Output} {fd : Int}

theorem closing_of_deRegisterActions (closes : .close fd ∈ s.deRegisterActions c)
    : c.index ≠ 0 ∧ s.registry.socketIdList c.index = fd ∧ fd ≠ -1 ∧ c.mode ≠ .remoteMode := by
  have closed : s.registry.deRegisteredSocket c.index (c.mode = .remoteMode) = some fd := by
    simpa [deRegisterActions] using closes
  obtain ⟨-, client, slot, used, local_⟩ := deRegisteredSocket_eq_some.mp closed
  exact ⟨client, slot, used, by simpa using local_⟩

/-- A turn of a client's task closes a descriptor when the task leaves. -/
theorem Turns.closing {received : Received} {env : Outcomes} {way : Turn} (placed : s.WellPlaced)
    (turns : s.Turns a c received env way)
    (closes : .close fd ∈ (s.takeTurn env a c way).2)
    : Closing s (.iterate a received env) (s.takeTurn env a c way).1 fd := by
  have called : .close fd ∈ calls (s.takeTurn env a c way).2 := mem_calls.mpr ⟨closes, rfl⟩
  have leaving (gone : exits c way = true ∨ way = .takes .masterExtracted)
      (closes : .close fd ∈ s.deRegisterActions c)
      : Closing s (.iterate a received env) (s.takeTurn env a c way).1 fd := by
    obtain ⟨client, slot, used, -⟩ := closing_of_deRegisterActions closes
    exact .leaves turns rfl gone client slot used (takeTurn_gone gone)
  have turnCalls := takeTurn_calls env s a c way
  generalize calls (s.takeTurn env a c way).2 = actions at called turnCalls
  cases turnCalls with
  | quiet => cases called
  | registers => simp at called
  | unregistered outside => exact absurd (placed.index_lt turns) (not_lt.mpr outside)
  | returns left =>
      exact leaving (.inl left) ((List.mem_cons.mp called).resolve_left nofun)
  | deRegisters left =>
      rcases List.mem_append.mp called with closes | returns
      · exact leaving (.inl left) closes
      · simp at returns
  | extracted message =>
      rcases List.mem_append.mp called with leaves | extracts
      · exact leaving (.inr message) ((List.mem_cons.mp leaves).resolve_left nofun)
      · obtain rfl : fd = s.globals.insertedMasterSocketFd := by simpa using extracts
        subst message
        exact .extracts rfl rfl

/-- Why a step closes a descriptor. Witness: the events one by one. -/
theorem step_closing (placed : s.WellPlaced) (taken : s.step event = some (s', output))
    (closes : .close fd ∈ output.actions)
    : Closing s event s' fd := by
  obtain ⟨-, enabled, performed⟩ := step_eq_some taken
  have cleaning {event : Event} {remote : RemoteMonitor}
      (active : remote.remoteMonitorActive = s.remote.remoteMonitorActive)
      (closes : .close fd ∈ s.remoteMonitorActivateNoActions)
      : Closing s event (({ s with remote } : State).remoteMonitorActivateNo.getD s.halt) fd := by
    obtain ⟨rfl, left⟩ := close_remoteMonitorActivateNo active closes
    exact .cleans rfl left
  cases event with
  | iterate a received env =>
      obtain ⟨c, way, turns, rfl, rfl⟩ := step_iterate taken
      exact turns.closing placed closes
  | start a =>
      obtain ⟨c, found, -⟩ := starting_of_enabled enabled
      simp only [perform, found] at performed
      obtain ⟨-, rfl⟩ := Prod.mk.inj performed
      unfold prologue at closes
      simp only [Output.of] at closes
      split_ifs at closes <;> simp at closes
  | accept fd' mem started =>
      simp only [State.enabled, Bool.and_eq_true, decide_eq_true_eq] at enabled
      have same : fd = fd' := by
        obtain ⟨-, rfl⟩ := Prod.mk.inj performed
        unfold accept at closes
        simp only [Output.of] at closes
        split at closes
        · simpa using closes
        · cases mem with
          | none => simpa using closes
          | some mem => cases closes
      exact .refuses (same ▸ enabled.1.2)
  | remoteStart mem =>
      obtain ⟨rfl, rfl⟩ := Prod.mk.inj performed
      cases mem with
      | none =>
          let remote := { s.remote with created := s.remote.created - 1, aContextPtr := none }
          have cleans : Closing s (.remoteStart none)
              (({ s with remote } : State).remoteMonitorActivateNo.getD s.halt) fd :=
            cleaning rfl closes
          exact cleans
      | some a => cases closes
  | remoteSendData =>
      obtain ⟨rfl, rfl⟩ := Prod.mk.inj performed
      cases found : s.remoteContext with
      | none => simp [Output.of, remoteSendDataActions, found] at closes
      | some context =>
          obtain ⟨r, c⟩ := context
          cases given : s.registry.reconnGetFreeClientIndex c.index with
          | none =>
              obtain ⟨same, actions⟩ := remoteSendData_full found given
              rw [same]
              simp only [Output.of, actions] at closes
              exact cleaning rfl closes
          | some result =>
              simp [Output.of, remoteSendDataActions_room found given] at closes
  | remoteStopData =>
      obtain ⟨rfl, rfl⟩ := Prod.mk.inj performed
      simp only [Output.of, remoteStopDataActions] at closes
      split at closes
      · rename_i r c found
        exact .stops rfl found (closing_of_deRegisterActions closes).2.2.2
      · cases closes
  | remoteDeactivate =>
      obtain ⟨rfl, rfl⟩ := Prod.mk.inj performed
      exact cleaning rfl closes
  | _ =>
      obtain ⟨-, rfl⟩ := Prod.mk.inj performed
      cases closes

end State

end Reconn.Client
