import Reconn.Client.ClientCount

/-! What one step can do to the client table and the contexts, said once.
A client task only rewrites contexts and at most registers itself or leaves; the remote
monitor registers, deregisters and frees its own context and sweeps the table.
-/

namespace Reconn.Client

open TransitionRuns

/-- A context as client tasks may rewrite it: it keeps its index and its socket and does not
become remote.
-/
structure Context.Continues (c c' : Context) : Prop where
  index : c'.index = c.index
  socketFd : c'.socketFd = c.socketFd
  thread : c'.thread = .none ↔ c.thread = .none
  mode : c'.mode = c.mode ∨ c'.mode ≠ .remoteMode

/-- The same contexts are allocated, and those of the second table continue those of the
first.
-/
def ContextsContinue (before after : Addr → Option Context) : Prop :=
  ∀ b, Option.Rel Context.Continues (before b) (after b)

namespace Context.Continues

variable {c c' c'' : Context}

theorem refl (c : Context) : c.Continues c := ⟨rfl, rfl, Iff.rfl, .inl rfl⟩

theorem trans (first : c.Continues c') (second : c'.Continues c'') : c.Continues c'' where
  index := second.index.trans first.index
  socketFd := second.socketFd.trans first.socketFd
  thread := second.thread.trans first.thread
  mode := by
    rcases second.mode with same | local_
    · rw [same]
      exact first.mode
    · exact .inr local_

/-- A context that is remote afterwards was remote before. -/
theorem remote (continues : c.Continues c') (remote : c'.mode = .remoteMode)
    : c.mode = .remoteMode := by
  rcases continues.mode with same | local_
  · exact same.symm.trans remote
  · exact absurd remote local_

end Context.Continues

namespace ContextsContinue

variable {before after later : Addr → Option Context}

theorem refl (contexts : Addr → Option Context) : ContextsContinue contexts contexts := by
  intro b
  cases contexts b with
  | none => exact .none
  | some c => exact .some (.refl c)

theorem trans (first : ContextsContinue before after) (second : ContextsContinue after later)
    : ContextsContinue before later := by
  intro b
  have here := first b
  have next := second b
  cases old : before b with
  | none =>
      cases middle : after b <;> cases new : later b <;> simp_all
  | some c =>
      cases middle : after b with
      | none => simp [old, middle] at here
      | some c' =>
          cases new : later b with
          | none => simp [middle, new] at next
          | some c'' =>
              simp only [old, middle, new, Option.rel_some_some] at here next ⊢
              exact here.trans next

/-- A context afterwards continues one that was there before. -/
theorem origin (continues : ContextsContinue before after) {b : Addr} {c' : Context}
    (found : after b = some c')
    : ∃ c, before b = some c ∧ c.Continues c' := by
  have here := continues b
  cases old : before b with
  | none => simp [old, found] at here
  | some c => exact ⟨c, rfl, by simpa [old, found] using here⟩

/-- No context is freed. -/
theorem survives (continues : ContextsContinue before after) {b : Addr} {c : Context}
    (found : before b = some c)
    : ∃ c', after b = some c' ∧ c.Continues c' := by
  have here := continues b
  cases new : after b with
  | none => simp [new, found] at here
  | some c' => exact ⟨c', rfl, by simpa [new, found] using here⟩

/-- A context is rewritten. -/
theorem of_setContext {s : State} {a : Addr} {c c' : Context} (found : s.contexts a = some c)
    (continues : c.Continues c')
    : ContextsContinue s.contexts (s.setContext a c').contexts := by
  intro b
  by_cases here : b = a
  · subst here
    simpa [State.setContext, found] using continues
  · simpa [State.setContext, Function.update_of_ne here] using refl s.contexts b

end ContextsContinue

/-- No clean-up of the remote monitor has come to its end. -/
def State.NoneDone (s s' : State) : Prop :=
  s'.remote.remoteMonitorDone = true → s.remote.remoteMonitorDone = true

/-- (Swept s s') holds if remoteMonitorCleanup has swept the table of `s`. -/
inductive State.Swept (s s' : State) : Prop where
  | intro {s₀ swept} (registry₀ : s₀.registry = s.registry) (contexts₀ : s₀.contexts = s.contexts)
      (scanned : Registry.indices.foldlM State.cleanupEntry s₀ = some swept)
      (registry : s'.registry = swept.registry) (contexts : s'.contexts = s.contexts)

/-- (TableEffect s event s') is what an event can do to the client table and the contexts. -/
inductive TableEffect (s : State) : Event → State → Prop where
  | keeps {event s'} (registry : s'.registry = s.registry)
      (contexts : ContextsContinue s.contexts s'.contexts) (done : s.NoneDone s')
      : TableEffect s event s'
  /-- A client task registers itself at its index. -/
  | registers {event a c s'} (found : s.contexts a = some c) (runs : c.thread ≠ .none)
      (registered
        : s.registry.reconnRegisterClientApp a c.index c.socketFd = some s'.registry)
      (contexts : ContextsContinue s.contexts s'.contexts) (done : s.NoneDone s')
      : TableEffect s event s'
  | leaves {a c received env s'} (found : s.contexts a = some c) (runs : c.thread ≠ .none)
      (registry : s'.registry
        = (s.registry.reconnReturnClientIndex c.index).reconnDeRegisterClientApp c.index)
      (contexts : s'.contexts = Function.update s.contexts a none) (done : s.NoneDone s')
      : TableEffect s (.iterate a received env) s'
  /-- A task that cannot open the control queue only frees its context. -/
  | openFails {a c received env p s'}
      (handles : s.Handles a c received env p (some .masterModeReq))
      (free : s.globals.masterClientSocketFd = -1) (fails : env.mqOpen = -1)
      (registry : s'.registry = s.registry)
      (contexts : s'.contexts = Function.update s.contexts a none) (done : s.NoneDone s')
      : TableEffect s (.iterate a received env) s'
  /-- Registration has failed, which takes an index outside the tables. -/
  | unregistered {a c received env p s'}
      (handles : s.Handles a c received env p (some .masterModeReq))
      (outside : reconnMaxNumClients ≤ c.index)
      : TableEffect s (.iterate a received env) s'
  /-- An index is handed out for a connection that gets no context. -/
  | reserves {event index s'}
      (given : s.registry.reconnGetFreeClientIndex (-1) = some (s'.registry, index))
      (contexts : s'.contexts = s.contexts) (done : s.NoneDone s')
      : TableEffect s event s'
  /-- A context is allocated for a client, with an index. -/
  | creates {event a c theIndex s'} (fresh : s.contexts a = none)
      (given : s.registry.reconnGetFreeClientIndex theIndex = some (s'.registry, c.index))
      (local_ : c.mode ≠ .remoteMode)
      (contexts : s'.contexts = Function.update s.contexts a (some c)) (done : s.NoneDone s')
      : TableEffect s event s'
  /-- A context is allocated for an inserted master while the table is full. -/
  | allocates {event a c s'} (fresh : s.contexts a = none) (registry : s'.registry = s.registry)
      (inside : c.index ∈ Registry.indices) (local_ : c.mode ≠ .remoteMode)
      (contexts : s'.contexts = Function.update s.contexts a (some c)) (done : s.NoneDone s')
      : TableEffect s event s'
  | remoteStarts {a c s'} (fresh : s.contexts a = none) (registry : s'.registry = s.registry)
      (index : c.index = -1) (idle : c.thread = .none)
      (contexts : s'.contexts = Function.update s.contexts a (some c)) (done : s.NoneDone s')
      : TableEffect s (.remoteStart (some a)) s'
  | remoteRegisters {r c registry index s'} (found : s.remoteContext = some (r, c))
      (given : s.registry.reconnGetFreeClientIndex c.index = some (registry, index))
      (registered : registry.reconnRegisterClientApp r index c.socketFd = some s'.registry)
      (contexts : s'.contexts = Function.update s.contexts r (some { c with index }))
      (done : s.NoneDone s')
      : TableEffect s .remoteSendData s'
  | remoteStops {r c s'} (found : s.remoteContext = some (r, c)) (nonneg : 0 ≤ c.index)
      (registry : s'.registry = s.registry.reconnDeRegisterClientApp c.index)
      (contexts : s'.contexts = s.contexts) (done : s.NoneDone s')
      : TableEffect s .remoteStopData s'
  /-- remoteMonitorCleanup sweeps the table. -/
  | cleans {event s'} (cleanup : s.cleansUp event) (swept : s.Swept s')
      : TableEffect s event s'
  | remoteFrees {r c s'} (found : s.remoteContext = some (r, c))
      (ended : s.remote.remoteMonitorDone = true) (registry : s'.registry = s.registry)
      (contexts : s'.contexts = Function.update s.contexts r none)
      : TableEffect s .remoteExit s'

namespace State

variable {s : State} {a : Addr} {c : Context} {received : Received} {env : Outcomes}

@[simp] theorem leave_contexts
    : (s.leave a c).contexts = Function.update s.contexts a none := by
  simp [leave, freeContext]

@[simp] theorem leave_remote : (s.leave a c).remote = s.remote := by
  unfold leave deRegister
  simp only
  split <;> rfl

namespace Turns

variable {way : Turn}

theorem runs (turns : s.Turns a c received env way) : c.thread ≠ .none := by
  simp [turns.looping]

/-- A turn that only rewrites the task's context. -/
theorem keeps_table (turns : s.Turns a c received env way) {c' : Context} {s' : State}
    (contexts : s'.contexts = (s.setContext a c').contexts) (continues : c.Continues c')
    (registry : s'.registry = s.registry) (done : s.NoneDone s')
    : TableEffect s (.iterate a received env) s' :=
  .keeps registry (contexts ▸ .of_setContext turns.found continues) done

/-- A turn whose result is that of a task that leaves. -/
theorem leaves_table (turns : s.Turns a c received env way) (c' : Context) {s' : State}
    (index : c'.index = c.index) (registry : s'.registry = (s.leave a c').registry)
    (contexts : s'.contexts = (s.leave a c').contexts) (remote : s'.remote = s.remote)
    : TableEffect s (.iterate a received env) s' := by
  refine .leaves turns.found turns.runs ?_ (contexts.trans leave_contexts) ?_
  · rw [registry, leave_registry, index]
  · exact fun done => by rwa [remote] at done

theorem closed_table (turns : s.Turns a c received env .closed)
    : TableEffect s (.iterate a received env) (s.socketClosed a c).1 := by
  unfold socketClosed
  simp only
  split_ifs <;> exact turns.leaves_table c rfl rfl rfl (leave_remote (a := a))

theorem failed_table (turns : s.Turns a c received env .failed)
    : TableEffect s (.iterate a received env) (s.readError a c).1 := by
  unfold readError
  simp only
  split_ifs <;> exact turns.leaves_table c rfl rfl rfl (leave_remote (a := a))

theorem idle_table (turns : s.Turns a c received env .idle)
    : TableEffect s (.iterate a received env) (s.idlePoll a c).1 := by
  unfold idlePoll
  simp only
  split_ifs
  · exact turns.leaves_table c rfl rfl rfl (leave_remote (a := a))
  · exact turns.keeps_table rfl ⟨rfl, rfl, Iff.rfl, .inl rfl⟩ rfl id
  · exact .keeps rfl (.refl _) id

theorem takes_table {message : ControlMessage}
    (turns : s.Turns a c received env (.takes message))
    : TableEffect s (.iterate a received env) (s.controlMessage a c message).1 := by
  cases message with
  | masterExtracted => exact turns.leaves_table c rfl rfl rfl (leave_remote (a := a))
  | masterInserted => exact turns.keeps_table rfl ⟨rfl, rfl, Iff.rfl, .inr (by simp)⟩ rfl id
  | masterAck | lowBattery | meterInserted | meterExtracted | rmStateChange =>
      exact turns.keeps_table rfl ⟨rfl, rfl, Iff.rfl, .inl rfl⟩ rfl id

end Turns

namespace Handles

variable {p : Packet} {cmdid : Option Command}

theorem clientResignReq_table (turns : s.Turns a c received env (.dispatches p))
    : TableEffect s (.iterate a received env)
        (s.clientResignReq a { c with noDataCount := 0 } p).1 := by
  unfold clientResignReq
  simp only
  split_ifs
  · exact turns.keeps_table rfl ⟨rfl, rfl, Iff.rfl, .inl rfl⟩ rfl id
  · exact turns.leaves_table { c with noDataCount := 0 } rfl rfl rfl (leave_remote (a := a))
  · exact turns.leaves_table { c with noDataCount := 0 } rfl rfl rfl (leave_remote (a := a))

/-- The last part of MASTER_MODE_REQ registers the client. -/
theorem registerClient_table (handles : s.Handles a c received env p (some .masterModeReq))
    {s₁ : State} {c₁ : Context} (actions : List Action) (continues : c.Continues c₁)
    (registry : s₁.registry = s.registry) (contexts : s₁.contexts = s.contexts)
    (remote : s₁.remote = s.remote)
    : TableEffect s (.iterate a received env) (s₁.registerClient a c₁ actions).1 := by
  cases registered : s.registry.reconnRegisterClientApp a c.index c.socketFd with
  | none =>
      refine .unregistered handles (not_lt.mp fun inside => ?_)
      simp [Registry.reconnRegisterClientApp, inside] at registered
  | some registry' =>
      unfold registerClient
      rw [registry, continues.index, continues.socketFd, registered]
      refine .registers handles.found handles.toTurns.runs registered ?_ ?_
      · have kept := ContextsContinue.of_setContext handles.found continues
        simpa [setContext, contexts] using kept
      · exact fun done => by simpa [setContext, remote] using done

theorem masterModeReq_table (handles : s.Handles a c received env p (some .masterModeReq))
    : TableEffect s (.iterate a received env)
        (s.masterModeReq env a { c with noDataCount := 0 } p).1 := by
  unfold masterModeReq
  simp only
  split_ifs with already free
  · exact handles.toTurns.keeps_table rfl ⟨rfl, rfl, Iff.rfl, .inl rfl⟩ rfl id
  · unfold grantMastership
    by_cases fails : env.mqOpen = -1
    · rw [if_pos fails]
      exact .openFails handles free fails rfl rfl id
    · rw [if_neg fails]
      have local_ : (granted env { c with noDataCount := 0 }).mode = c.mode
          ∨ (granted env { c with noDataCount := 0 }).mode ≠ .remoteMode := by
        simp only [granted]
        split_ifs
        · exact .inr (by simp)
        · exact .inl rfl
      exact handles.registerClient_table _ ⟨rfl, rfl, Iff.rfl, local_⟩ rfl rfl rfl
  · exact handles.registerClient_table _ ⟨rfl, rfl, Iff.rfl, .inl rfl⟩ rfl rfl rfl

/-- A hand-over rewrites the task's context and then the other one, which may be the same. -/
theorem handOver_table (handles : s.Handles a c received env p (some .masterModeResignResp))
    {b : Addr} {result : State × List Action}
    (handed : s.handOver a { c with noDataCount := 0 } b = some result)
    : TableEffect s (.iterate a received env) result.1 := by
  unfold handOver at handed
  obtain ⟨other, found, rfl⟩ := Option.map_eq_some_iff.mp handed
  refine .keeps rfl (.trans (.of_setContext handles.found ?_) (.of_setContext found ?_)) id
  · exact ⟨rfl, rfl, Iff.rfl, .inr (by simp)⟩
  · exact ⟨rfl, rfl, Iff.rfl, .inr (by simp)⟩

theorem masterModeResignResp_table
    (handles : s.Handles a c received env p (some .masterModeResignResp))
    {result : State × List Action}
    (answered : s.masterModeResignResp a { c with noDataCount := 0 } p = some result)
    : TableEffect s (.iterate a received env) result.1 := by
  cases State.masterModeResignResp_comes answered with
  | hands success pointer handed => exact handles.handOver_table handed
  | denies denied pointer found =>
      exact handles.toTurns.keeps_table rfl ⟨rfl, rfl, Iff.rfl, .inl rfl⟩ rfl id
  | neither => exact handles.toTurns.keeps_table rfl ⟨rfl, rfl, Iff.rfl, .inl rfl⟩ rfl id

theorem webServiceIpAndPort_table (turns : s.Turns a c received env (.dispatches p))
    : TableEffect s (.iterate a received env)
        (s.webServiceIpAndPort env a { c with noDataCount := 0 } p).1 := by
  have done : s.NoneDone (s.remoteMonitorActivateYes env).1 := by
    unfold remoteMonitorActivateYes
    simp only
    split_ifs <;> simp [NoneDone, setSocket]
  unfold webServiceIpAndPort
  simp only
  split_ifs
  · exact turns.keeps_table rfl ⟨rfl, rfl, Iff.rfl, .inl rfl⟩ rfl id
  · exact turns.keeps_table rfl ⟨rfl, rfl, Iff.rfl, .inl rfl⟩ rfl id
  · exact turns.keeps_table rfl ⟨rfl, rfl, Iff.rfl, .inl rfl⟩ rfl id
  · obtain ⟨-, -, contexts, registry⟩ := remoteMonitorActivateYes_same env s
    refine turns.keeps_table (congrArg (Function.update · a _) contexts) ?_ registry done
    exact ⟨rfl, rfl, Iff.rfl, .inl rfl⟩

/-- What a command of the switch does to the table and the contexts. -/
theorem command_table {cmdid : Option Command} (handles : s.Handles a c received env p cmdid)
    : TableEffect s (.iterate a received env)
        ((s.command env a { c with noDataCount := 0 } p).getD (s.halt, [])).1 := by
  have turns := handles.toTurns
  unfold State.command
  rw [handles.command]
  split
  · exact clientResignReq_table turns
  · exact handles.masterModeReq_table
  · unfold masterModeResignReq
    simp only [Option.getD_some]
    split_ifs <;> exact turns.keeps_table rfl ⟨rfl, rfl, Iff.rfl, .inl rfl⟩ rfl id
  · cases answered : s.masterModeResignResp a { c with noDataCount := 0 } p with
    | none => exact .keeps rfl (.refl _) id
    | some result => exact handles.masterModeResignResp_table answered
  · simp only [Option.getD_some]
    rcases swUpgradeReq_cases env s a { c with noDataCount := 0 } p with ends | stays
    · rw [ends]
      exact .keeps rfl (.refl _) id
    · rw [stays]
      exact turns.keeps_table rfl ⟨rfl, rfl, Iff.rfl, .inl rfl⟩ rfl id
  · exact webServiceIpAndPort_table turns
  · cases equipmentCommand env s { c with noDataCount := 0 } p cmdid with
    | none => exact .keeps rfl (.refl _) id
    | some handled => exact turns.keeps_table rfl ⟨rfl, rfl, Iff.rfl, .inl rfl⟩ rfl id

end Handles

/-- What a turn of the loop does to the table and the contexts. -/
theorem Turns.takeTurn_table {way : Turn} (turns : s.Turns a c received env way)
    : TableEffect s (.iterate a received env) (s.takeTurn env a c way).1 := by
  cases way with
  | closed => exact turns.closed_table
  | failed => exact turns.failed_table
  | overrun => exact .keeps rfl (.refl _) id
  | stalled => exact .keeps rfl (.refl _) id
  | takes message => exact turns.takes_table
  | idle => exact turns.idle_table
  | dispatches p =>
      simp only [takeTurn, dispatch]
      split_ifs with blocked
      · exact .keeps rfl (.refl _) id
      · exact Handles.command_table ⟨turns, by simpa using blocked, rfl⟩

-----------------------------------------------------------------------------------------
-- The other steps
-----------------------------------------------------------------------------------------

theorem start_table (found : s.contexts a = some c) (starting : c.thread = .starting)
    : TableEffect s (.start a) (s.prologue a c).1 := by
  have kept : ContextsContinue s.contexts (s.setContext a { c with thread := .looping }).contexts :=
    .of_setContext found ⟨rfl, rfl, by simp [starting], .inl rfl⟩
  unfold prologue
  simp only
  split_ifs
  · cases registered : s.registry.reconnRegisterClientApp a c.index c.socketFd with
    | some registry => exact .registers found (by simp [starting]) registered kept id
    | none => exact .keeps rfl kept id
  · exact .keeps rfl kept id

theorem accept_table {fd : Int} {mem : Option Memory} {started : Bool}
    (enabled : s.enabled (.accept fd mem started) = true)
    : TableEffect s (.accept fd mem started) (s.accept fd mem started).1 := by
  unfold accept
  cases given : s.registry.reconnGetFreeClientIndex (-1) with
  | none => exact .keeps rfl (.refl _) id
  | some result =>
      obtain ⟨registry, index⟩ := result
      cases mem with
      | none => exact .reserves given rfl id
      | some mem => exact .creates (accept_fresh enabled).2 given (by simp) rfl id

theorem createInserted_table {mem : Option Addr} {started : Bool}
    (enabled : s.enabled (.createInserted mem started) = true)
    : TableEffect s (.createInserted mem started) (s.createInserted mem started) := by
  cases mem with
  | none => exact .keeps rfl (.refl _) id
  | some a =>
      have fresh := createInserted_fresh enabled
      unfold createInserted
      simp only
      cases given : s.registry.reconnGetFreeClientIndex 0 with
      | none => exact .allocates fresh rfl (by decide : (0 : Int) ∈ _) (by simp) rfl id
      | some result => exact .creates fresh given (by simp) rfl id

/-- Where RM_SEND_DATA asks for no REGISTRATION_TYPE_e, no client is found. -/
theorem reconnClientsRegistered_three (s : State) : s.reconnClientsRegistered 3 = some 0 := by
  have counted (counts : Int → Option Nat) (none : ∀ i, counts i = some 0)
      : (Registry.indices.mapM counts).map List.sum = some 0 := by
    simp [Registry.indices, none]
  refine counted _ fun i => ?_
  cases s.registry.activeClientsList i <;> rfl

/-- RM_SEND_DATA without an index left to hand out deactivates the remote monitor. -/
theorem remoteSendData_full {r : Addr} {c : Context} (found : s.remoteContext = some (r, c))
    (full : s.registry.reconnGetFreeClientIndex c.index = none)
    : s.remoteSendData = s.remoteMonitorActivateNo
      ∧ s.remoteSendDataActions = s.remoteMonitorActivateNoActions := by
  simp [remoteSendData, remoteSendDataActions, found, reconnClientsRegistered_three, full]

/-- RM_SEND_DATA with an index left to hand out registers the remote client there. -/
theorem remoteSendDataActions_room {r : Addr} {c : Context} {registry : Registry} {index : Int}
    (found : s.remoteContext = some (r, c))
    (given : s.registry.reconnGetFreeClientIndex c.index = some (registry, index))
    : s.remoteSendDataActions = [.reconnRegisterClientApp index] := by
  have room := (Registry.mem_indices.mp (Registry.reconnGetFreeClientIndex_spec given).1).2
  simp [remoteSendDataActions, found, reconnClientsRegistered_three, given,
    Registry.reconnRegisterClientApp, room]

/-- remoteMonitorActivate(NO) sweeps the table if the monitor is active. -/
theorem remoteMonitorActivateNo_swept {s₀ s' : State}
    (active : s₀.remote.remoteMonitorActive = true) (registry : s₀.registry = s.registry)
    (contexts : s₀.contexts = s.contexts) (deactivated : s₀.remoteMonitorActivateNo = some s')
    : s.Swept s' := by
  unfold remoteMonitorActivateNo at deactivated
  rw [if_pos active] at deactivated
  obtain ⟨swept, scanned, -, same, table⟩ := remoteMonitorCleanup_scan deactivated
  have frame : swept.contexts = s.contexts :=
    foldlM_invariant (fun _ next => next.contexts = s.contexts)
      (fun _ _ _ _ known visited => (cleanupEntry_frame visited).2.trans known)
      contexts scanned
  refine .intro ?_ ?_ scanned table (same.trans frame)
  · exact registry
  · exact contexts

theorem remoteMonitorActivateNo_table {event : Event} (s₀ : State) {s' : State}
    (cleanup : s₀.remote.remoteMonitorActive = true → s.cleansUp event)
    (registry : s₀.registry = s.registry) (contexts : s₀.contexts = s.contexts)
    (done : s.NoneDone s₀) (deactivated : s₀.remoteMonitorActivateNo = some s')
    : TableEffect s event s' := by
  by_cases active : s₀.remote.remoteMonitorActive = true
  · exact .cleans (cleanup active)
      (remoteMonitorActivateNo_swept active registry contexts deactivated)
  · unfold remoteMonitorActivateNo at deactivated
    rw [if_neg active] at deactivated
    obtain rfl := Option.some.inj deactivated
    exact .keeps registry (contexts ▸ .refl _) done

/-- A step that may be undefined. -/
theorem undefined_table {event : Event} {result : Option State}
    (defined : ∀ s', result = some s' → TableEffect s event s')
    : TableEffect s event (result.getD s.halt) :=
  getD_halt (P := TableEffect s event) (.keeps rfl (.refl _) id) defined

theorem remoteStart_table {mem : Option Addr} {s' : State}
    (enabled : s.enabled (.remoteStart mem) = true) (started : s.remoteStart mem = some s')
    : TableEffect s (.remoteStart mem) s' := by
  unfold remoteStart at started
  cases mem with
  | none =>
      let remote := { s.remote with created := s.remote.created - 1, aContextPtr := none }
      exact remoteMonitorActivateNo_table { s with remote } (fun active => active) rfl rfl id
        started
  | some a =>
      obtain rfl := Option.some.inj started
      exact .remoteStarts (remoteStart_fresh enabled) rfl rfl rfl rfl id

theorem remoteSendData_table {s' : State} (sent : s.remoteSendData = some s')
    : TableEffect s .remoteSendData s' := by
  obtain ⟨⟨r, c⟩, found, sent⟩ := Option.bind_eq_some_iff.mp sent
  obtain ⟨registered, -, sent⟩ := Option.bind_eq_some_iff.mp sent
  simp only at sent
  split_ifs at sent
  · cases given : s.registry.reconnGetFreeClientIndex c.index with
    | none =>
        rw [given] at sent
        exact remoteMonitorActivateNo_table s (fun active => ⟨active, r, c, found, given⟩)
          rfl rfl id sent
    | some result =>
        obtain ⟨registry, index⟩ := result
        simp only [given] at sent
        split at sent
        · rename_i registry' done
          obtain rfl := Option.some.inj sent
          exact .remoteRegisters found given done rfl id
        · rename_i failed
          have inside := (Registry.reconnGetFreeClientIndex_spec given).1
          simp [Registry.reconnRegisterClientApp, (Registry.mem_indices.mp inside).2] at failed
  · obtain rfl := Option.some.inj sent
    exact .keeps rfl (.refl _) id

theorem remoteStopData_table {s' : State} (stopped : s.remoteStopData = some s')
    : TableEffect s .remoteStopData s' := by
  obtain ⟨⟨r, c⟩, found, stopped⟩ := Option.bind_eq_some_iff.mp stopped
  simp only at stopped
  split_ifs at stopped with outside
  obtain rfl := Option.some.inj stopped
  refine .remoteStops found (not_lt.mp outside) (s.deRegister_registry c)
    (s.deRegister_contexts c) ?_
  unfold deRegister
  simp only
  split <;> exact id

theorem remoteExit_table {s' : State} (enabled : s.enabled .remoteExit = true)
    (left : s.remoteExit = some s')
    : TableEffect s .remoteExit s' := by
  simp only [State.enabled, Bool.and_eq_true] at enabled
  unfold remoteExit at left
  split_ifs at left
  · obtain rfl := Option.some.inj left
    exact .keeps rfl (.refl _) id
  · obtain ⟨⟨r, c⟩, found, rfl⟩ := Option.map_eq_some_iff.mp left
    exact .remoteFrees found enabled.2 rfl rfl

/-- What an event does to the table and the contexts. Witness: the events one by one. -/
theorem perform_table {event : Event} (enabled : s.enabled event = true)
    : TableEffect s event (s.perform event).1 := by
  cases event with
  | accept fd mem started => exact accept_table enabled
  | start a =>
      obtain ⟨c, found, starting⟩ := starting_of_enabled enabled
      simp only [perform, found]
      exact start_table found starting
  | iterate a received env =>
      obtain ⟨c, turns⟩ := turns_of_enabled enabled
      simp only [perform, turns.found]
      exact turns.takeTurn_table
  | iphoneInserted =>
      simp only [perform, masterIphoneInserted]
      split_ifs <;> exact .keeps rfl (.refl _) id
  | connectTransmit fd connected =>
      simp only [perform, connectTransmit]
      split_ifs <;> exact .keeps rfl (.refl _) id
  | transmitAccept fd =>
      simp only [perform, transmitAccept]
      split_ifs <;> exact .keeps rfl (.refl _) id
  | createInserted mem started => exact createInserted_table enabled
  | iphoneExtracted =>
      simp only [perform, masterIphoneExtracted]
      split_ifs <;> exact .keeps rfl (.refl _) id
  | semTimedWaitFails | semTimedWait | meterPresence | remoteConnected =>
      exact .keeps rfl (.refl _) id
  | remoteStart mem => exact undefined_table fun _ => remoteStart_table enabled
  | remoteSendData => exact undefined_table fun _ => remoteSendData_table
  | remoteStopData => exact undefined_table fun _ => remoteStopData_table
  | remoteDeactivate =>
      exact undefined_table fun _ => remoteMonitorActivateNo_table s (fun active => active)
        rfl rfl id
  | remoteExit => exact undefined_table fun _ => remoteExit_table enabled

/-- A step that cleans up has swept the table, unless it was undefined. -/
theorem swept_of_cleansUp {event : Event} {s' : State} {output : Output}
    (taken : s.step event = some (s', output)) (cleanup : s.cleansUp event)
    (defined : s'.halted = false)
    : s.Swept s' := by
  obtain ⟨-, -, performed⟩ := step_eq_some taken
  have result {deactivated : Option State} (same : deactivated.getD s.halt = s')
      : deactivated = some s' := by
    cases deactivated with
    | none =>
        subst same
        cases defined
    | some _ => exact congrArg some same
  cases event with
  | remoteDeactivate =>
      exact remoteMonitorActivateNo_swept cleanup rfl rfl
        (result (congrArg Prod.fst performed))
  | remoteStart mem =>
      cases mem with
      | some a => exact cleanup.elim
      | none =>
          let remote := { s.remote with created := s.remote.created - 1, aContextPtr := none }
          have deactivated : ({ s with remote } : State).remoteMonitorActivateNo = some s' :=
            result (congrArg Prod.fst performed)
          refine remoteMonitorActivateNo_swept ?_ ?_ ?_ deactivated
          · exact cleanup
          · rfl
          · rfl
  | remoteSendData =>
      obtain ⟨active, r, c, found, full⟩ := cleanup
      have sent := result (congrArg Prod.fst performed)
      rw [(remoteSendData_full found full).1] at sent
      exact remoteMonitorActivateNo_swept active rfl rfl sent
  | _ => exact cleanup.elim

/-- Every step has one of the effects on the table and the contexts. -/
theorem step_table {event : Event} {s' : State} {output : Output}
    (taken : s.step event = some (s', output))
    : TableEffect s event s' := by
  obtain ⟨-, enabled, performed⟩ := step_eq_some taken
  have effect := perform_table enabled
  rwa [performed] at effect

end State

end Reconn.Client
