import Reconn.Client.Resign
import Reconn.Client.TableEffects

/-! The inactivity of the master. A MASTERMODE task counts its idle polls in noDataCount, which
every command clears and wifiConnectionTask does not: it holds what malloc returned until the
client's first command.
-/

namespace Reconn.Client

open TransitionRuns

namespace State

/-- The task whose turn finds neither a packet nor a message, with its context. -/
def idles (s : State) : Event → Option (Addr × Context)
  | .iterate a received env =>
      (s.contexts a).bind fun c =>
        match turn s.globals env.mqReceive received with
        | .idle => some (a, c)
        | _ => none
  | _ => none

/-- The task that polls idly as the master. -/
def pollsAsMaster (s : State) (event : Event) : Option Addr :=
  (s.idles event).bind fun (a, c) => if c.mode = .masterMode then some a else none

/-- The other context that MASTER_MODE_RESIGN_RESP with success makes the master. -/
def handsOverTo (s : State) (event : Event) : Option Addr :=
  (s.switches event).bind fun (a, _, p) =>
    if p.command = some .masterModeResignResp ∧ p.dataPayload 0 = reconnSuccess then
      s.globals.theSlaveContextPtr.filter fun b => b ≠ a
    else none

/-- The context that an event allocates, and whether it holds what its memory held before. -/
def allocates (s : State) : Event → Option (Addr × Bool)
  | .accept _ (some mem) _ =>
      (s.registry.reconnGetFreeClientIndex (-1)).map fun _ => (mem.address, true)
  | .createInserted (some a) _ | .remoteStart (some a) => some (a, false)
  | _ => none

end State

/-- What has happened on each context since it was allocated: the idle polls as master since
the last command that was dispatched, and whether none has been dispatched since
wifiConnectionTask allocated it.
-/
structure Activity where
  idlePolls : Addr → Nat
  fresh : Addr → Bool

namespace Activity

/-- Before the first step. -/
def none : Activity := ⟨fun _ => 0, fun _ => false⟩

/-- No idle poll counts any more on the context. -/
def restart (past : Activity) (a : Addr) (fresh : Bool) : Activity where
  idlePolls := Function.update past.idlePolls a 0
  fresh := Function.update past.fresh a fresh

/-- One more idle poll as master on the context. -/
def poll (past : Activity) (a : Addr) : Activity :=
  { past with idlePolls := Function.update past.idlePolls a (past.idlePolls a + 1) }

/-- The activity after a transition. -/
def record (past : Activity) (t : Transition State Event Output) : Activity :=
  match t.before.allocates t.event, t.before.switches t.event, t.before.pollsAsMaster t.event with
  | some (a, fresh), _, _ => past.restart a fresh
  | Option.none, some (a, _, _), _ => past.restart a false
  | Option.none, Option.none, some a => past.poll a
  | Option.none, Option.none, Option.none => past

end Activity

/-- A task that polls idly is closed exactly if it is a MASTERMODE task and this is its
(CLIENTNODATATIME/CLIENTSLEEPTIME)-th idle poll as the master since its last command.
-/
def TimesOut (past : Activity) (t : Transition State Event Output) : Prop :=
  ∀ a c, t.before.idles t.event = some (a, c)
    → (t.after.task a = Option.none
      ↔ c.mode = .masterMode
        ∧ (past.idlePolls a + 1 : Int) = State.clientNoDataTime / State.clientSleepTime)

/-- Mastership is handed over only to a client that has sent a command since it connected, or
whose memory counted no idle poll.
-/
def HandsToKnown (past : Activity) (t : Transition State Event Output) : Prop :=
  ∀ b c, t.before.handsOverTo t.event = some b → t.before.contexts b = some c
    → past.fresh b = true → 0 ≤ c.noDataCount ∧ c.noDataCount < State.clientSleepTime

-----------------------------------------------------------------------------------------
-- What a step does to the counts
-----------------------------------------------------------------------------------------

/-- The context on an address was there before with the same count, and is the master's only if
it was so before or is handed mastership.
-/
def State.KeepsNoDataCount (s : State) (event : Event) (s' : State) (b : Addr) : Prop :=
  ∀ c', s'.contexts b = some c'
    → ∃ c, s.contexts b = some c ∧ c'.noDataCount = c.noDataCount
      ∧ (c'.mode = .masterMode → c.mode = .masterMode ∨ s.handsOverTo event = some b)

/-- (IdleEffect s event s') is what an event can do to the counts of the contexts. -/
inductive IdleEffect (s : State) (event : Event) (s' : State) : Prop where
  | halts (halted : s'.halted = true)
  | keeps (noContext : s.allocates event = none) (noCommand : s.switches event = none)
      (noPoll : s.pollsAsMaster event = none) (kept : ∀ b, s.KeepsNoDataCount event s' b)
  /-- The context that is created has no count, or that of a slave who has sent nothing. -/
  | creates {a fresh} (allocated : s.allocates event = some (a, fresh))
      (kept : ∀ b ≠ a, s.KeepsNoDataCount event s' b)
      (created : ∀ c, s'.contexts a = some c
        → c.noDataCount = 0 ∨ (fresh = true ∧ c.mode ≠ .masterMode))
  | commands {a c p} (noContext : s.allocates event = none)
      (switched : s.switches event = some (a, c, p))
      (kept : ∀ b ≠ a, s.KeepsNoDataCount event s' b)
      (cleared : ∀ c', s'.contexts a = some c' → c'.noDataCount = 0)
  /-- The master that is not closed has one more idle poll. -/
  | polls {a c} (noContext : s.allocates event = none) (noCommand : s.switches event = none)
      (idles : s.idles event = some (a, c)) (master : c.mode = .masterMode)
      (contexts
        : s'.contexts = Function.update s.contexts a
            (if State.clientNoDataTime ≤ c.noDataCount + State.clientSleepTime then none
            else some { c with noDataCount := c.noDataCount + State.clientSleepTime }))

namespace State

variable {s s' : State} {event : Event} {a : Addr} {c : Context} {received : Received}
  {env : Outcomes}

theorem keepsNoDataCount_of_eq {b : Addr} (same : s'.contexts b = s.contexts b)
    : s.KeepsNoDataCount event s' b :=
  fun c' found => ⟨c', same ▸ found, rfl, .inl⟩

/-- A context that is freed, or rewritten without a change of its count and not as a master's,
is kept.
-/
theorem keepsNoDataCount_of_update (new : Option Context)
    (contexts : s'.contexts = Function.update s.contexts a new)
    (rewritten : ∀ c', new = some c'
      → ∃ c, s.contexts a = some c ∧ c'.noDataCount = c.noDataCount
        ∧ (c'.mode = .masterMode → c.mode = .masterMode))
    (b : Addr)
    : s.KeepsNoDataCount event s' b := by
  by_cases here : b = a
  · subst here
    intro c' found
    rw [contexts, Function.update_self] at found
    obtain ⟨c, old, count, mode⟩ := rewritten c' found
    exact ⟨c, old, count, fun master => .inl (mode master)⟩
  · exact keepsNoDataCount_of_eq (by rw [contexts, Function.update_of_ne here])

namespace Turns

variable {way : Turn}

theorem switches_eq_none (turns : s.Turns a c received env way)
    (undispatched : ∀ p, way ≠ .dispatches p)
    : s.switches (.iterate a received env) = none := by
  have reached := turns.way
  simp only [switches, turns.found, Option.bind_some, reached]

theorem idles (turns : s.Turns a c received env .idle)
    : s.idles (.iterate a received env) = some (a, c) := by
  simp [State.idles, turns.found, turns.way]

theorem pollsAsMaster_eq_none (turns : s.Turns a c received env way)
    (noPoll : way = .idle → c.mode ≠ .masterMode)
    : s.pollsAsMaster (.iterate a received env) = none := by
  have reached := turns.way
  cases way with
  | idle => simp [pollsAsMaster, turns.idles, noPoll rfl]
  | _ =>
      simp only [pollsAsMaster, State.idles, turns.found, Option.bind_some, reached,
        Option.bind_none]

/-- A turn that brings no packet to the switch and is no idle poll of a master keeps the
counts if it keeps that of its own context.
-/
theorem keeps_idle (turns : s.Turns a c received env way)
    (undispatched : ∀ p, way ≠ .dispatches p) (noPoll : way = .idle → c.mode ≠ .masterMode)
    (new : Option Context) (contexts : s'.contexts = Function.update s.contexts a new)
    (rewritten : ∀ c', new = some c' → c'.noDataCount = c.noDataCount
      ∧ (c'.mode = .masterMode → c.mode = .masterMode))
    : IdleEffect s (.iterate a received env) s' := by
  refine .keeps rfl (turns.switches_eq_none undispatched) (turns.pollsAsMaster_eq_none noPoll) ?_
  exact keepsNoDataCount_of_update new contexts fun c' new => ⟨c, turns.found, rewritten c' new⟩

theorem closed_idle (turns : s.Turns a c received env .closed)
    : IdleEffect s (.iterate a received env) (s.socketClosed a c).1 := by
  refine turns.keeps_idle nofun nofun none ?_ nofun
  unfold socketClosed
  simp only
  split_ifs <;> exact leave_contexts

theorem failed_idle (turns : s.Turns a c received env .failed)
    : IdleEffect s (.iterate a received env) (s.readError a c).1 := by
  refine turns.keeps_idle nofun nofun none ?_ nofun
  unfold readError
  simp only
  split_ifs <;> exact leave_contexts

theorem takes_idle {message : ControlMessage}
    (turns : s.Turns a c received env (.takes message))
    : IdleEffect s (.iterate a received env) (s.controlMessage a c message).1 := by
  cases message with
  | masterExtracted => exact turns.keeps_idle nofun nofun none leave_contexts nofun
  | masterInserted =>
      refine turns.keeps_idle nofun nofun _ rfl ?_
      rintro _ ⟨⟩
      exact ⟨rfl, nofun⟩
  | masterAck | lowBattery | meterInserted | meterExtracted | rmStateChange =>
      refine turns.keeps_idle nofun nofun _ rfl ?_
      rintro _ ⟨⟩
      exact ⟨rfl, id⟩

theorem idle_idle (turns : s.Turns a c received env .idle)
    : IdleEffect s (.iterate a received env) (s.idlePoll a c).1 := by
  unfold idlePoll
  by_cases master : c.mode = .masterMode
  · refine .polls rfl (turns.switches_eq_none nofun) turns.idles master ?_
    simp only [if_pos master]
    split_ifs
    · exact leave_contexts
    · rfl
  · rw [if_neg master]
    refine .keeps rfl (turns.switches_eq_none nofun) ?_ fun b => keepsNoDataCount_of_eq rfl
    exact turns.pollsAsMaster_eq_none fun _ => master

end Turns

namespace Handles

variable {p : Packet} {cmdid : Option Command}

/-- A command that rewrites or frees its own context only, and clears its count. -/
theorem commands_idle (handles : s.Handles a c received env p cmdid) (new : Option Context)
    (contexts : s'.contexts = Function.update s.contexts a new)
    (cleared : ∀ c', new = some c' → c'.noDataCount = 0)
    : IdleEffect s (.iterate a received env) s' := by
  refine .commands rfl handles.switches (fun b other => ?_) fun c' found => ?_
  · exact keepsNoDataCount_of_eq (by rw [contexts, Function.update_of_ne other])
  · rw [contexts, Function.update_self] at found
    exact cleared c' found

/-- A command that writes its own context only. -/
theorem writes_idle (handles : s.Handles a c received env p cmdid) {c' : Context}
    (contexts : s'.contexts = Function.update s.contexts a (some c'))
    (cleared : c'.noDataCount = 0)
    : IdleEffect s (.iterate a received env) s' := by
  refine handles.commands_idle (some c') contexts ?_
  rintro _ ⟨⟩
  exact cleared

/-- A command that frees its own context. -/
theorem frees_idle (handles : s.Handles a c received env p cmdid)
    (contexts : s'.contexts = Function.update s.contexts a none)
    : IdleEffect s (.iterate a received env) s' :=
  handles.commands_idle none contexts nofun

theorem clientResignReq_idle (handles : s.Handles a c received env p cmdid)
    : IdleEffect s (.iterate a received env)
        (s.clientResignReq a { c with noDataCount := 0 } p).1 := by
  unfold clientResignReq
  simp only
  split_ifs
  · exact handles.writes_idle rfl rfl
  · exact handles.frees_idle leave_contexts
  · exact handles.frees_idle leave_contexts

/-- The last part of MASTER_MODE_REQ writes the context or frees it. -/
theorem registerClient_idle (handles : s.Handles a c received env p cmdid) {s₁ : State}
    {c₁ : Context} (actions : List Action) (open_ : 0 ≤ c₁.socketFd)
    (contexts : s₁.contexts = s.contexts) (cleared : c₁.noDataCount = 0)
    : IdleEffect s (.iterate a received env) (s₁.registerClient a c₁ actions).1 := by
  rcases registerClient_cases s₁ a c₁ actions open_ with ⟨registry, writes⟩ | ⟨-, frees⟩
  · rw [writes]
    exact handles.writes_idle (congrArg (Function.update · a _) contexts) cleared
  · rw [frees]
    exact handles.frees_idle (congrArg (Function.update · a _) contexts)

theorem masterModeReq_idle (handles : s.Handles a c received env p cmdid)
    : IdleEffect s (.iterate a received env)
        (s.masterModeReq env a { c with noDataCount := 0 } p).1 := by
  have open_ := handles.socketFd_nonneg
  unfold masterModeReq
  simp only
  split_ifs
  · exact handles.writes_idle rfl rfl
  · unfold grantMastership
    by_cases fails : env.mqOpen = -1
    · rw [if_pos fails]
      exact handles.frees_idle rfl
    · rw [if_neg fails]
      exact handles.registerClient_idle _ open_ rfl rfl
  · exact handles.registerClient_idle _ open_ rfl rfl

/-- A hand-over rewrites the task's own context, and then that of the slave with its mode only. -/
theorem handOver_contexts {c : Context} {b : Addr} {result : State × List Action}
    (handed : s.handOver a c b = some result)
    : ∃ own other : Context, own.noDataCount = c.noDataCount
      ∧ Function.update s.contexts a (some own) b = some other
      ∧ result.1.contexts = Function.update (Function.update s.contexts a (some own)) b
          (some { other with mode := .masterMode }) := by
  unfold handOver at handed
  obtain ⟨other, found, rfl⟩ := Option.map_eq_some_iff.mp handed
  let attached := (c.theResponsePkt.address reconnSlaveAttached).withLength 0
  exact ⟨{ c with mode := .slaveMode, theResponsePkt := attached }, other, rfl, found, rfl⟩

/-- A hand-over clears the count of the task's own context, and makes the other one, with the
count that it has, the master.
-/
theorem handOver_idle (handles : s.Handles a c received env p (some .masterModeResignResp))
    (success : p.dataPayload 0 = reconnSuccess) {b : Addr}
    (pointer : s.globals.theSlaveContextPtr = some b) {result : State × List Action}
    (handed : s.handOver a { c with noDataCount := 0 } b = some result)
    : IdleEffect s (.iterate a received env) result.1 := by
  have target (other : b ≠ a) : s.handsOverTo (.iterate a received env) = some b := by
    simp [handsOverTo, handles.switches, handles.command, success, pointer, other]
  obtain ⟨own, other, cleared, found, contexts⟩ := handOver_contexts handed
  refine .commands rfl handles.switches (fun d apart => ?_) fun c' after => ?_
  · by_cases here : d = b
    · subst here
      intro c' after
      rw [Function.update_of_ne apart] at found
      rw [contexts, Function.update_self] at after
      obtain rfl := Option.some.inj after
      exact ⟨other, found, rfl, fun _ => .inr (target apart)⟩
    · apply keepsNoDataCount_of_eq
      rw [contexts, Function.update_of_ne here, Function.update_of_ne apart]
  · rw [contexts] at after
    by_cases here : a = b
    · subst here
      rw [Function.update_self] at found after
      obtain rfl := Option.some.inj found
      obtain rfl := Option.some.inj after
      exact cleared
    · rw [Function.update_of_ne here, Function.update_self] at after
      obtain rfl := Option.some.inj after
      exact cleared

theorem masterModeResignResp_idle
    (handles : s.Handles a c received env p (some .masterModeResignResp))
    {result : State × List Action}
    (answered : s.masterModeResignResp a { c with noDataCount := 0 } p = some result)
    : IdleEffect s (.iterate a received env) result.1 := by
  cases State.masterModeResignResp_comes answered with
  | hands success pointer handed => exact handles.handOver_idle success pointer handed
  | denies denied pointer found => exact handles.writes_idle rfl rfl
  | neither => exact handles.writes_idle rfl rfl

theorem webServiceIpAndPort_idle (handles : s.Handles a c received env p cmdid)
    : IdleEffect s (.iterate a received env)
        (s.webServiceIpAndPort env a { c with noDataCount := 0 } p).1 := by
  unfold webServiceIpAndPort
  simp only
  split_ifs
  · exact handles.writes_idle rfl rfl
  · exact handles.writes_idle rfl rfl
  · exact handles.writes_idle rfl rfl
  · obtain ⟨-, -, contexts, -⟩ := remoteMonitorActivateYes_same env s
    exact handles.writes_idle (congrArg (Function.update · a _) contexts) rfl

/-- Every command of the switch clears the count of the task's own context. -/
theorem command_idle (handles : s.Handles a c received env p cmdid)
    : IdleEffect s (.iterate a received env)
        ((s.command env a { c with noDataCount := 0 } p).getD (s.halt, [])).1 := by
  unfold State.command
  rw [handles.command]
  split
  · exact handles.clientResignReq_idle
  · exact handles.masterModeReq_idle
  · unfold masterModeResignReq
    simp only [Option.getD_some]
    split_ifs <;> exact handles.writes_idle rfl rfl
  · cases answered : s.masterModeResignResp a { c with noDataCount := 0 } p with
    | none => exact .halts rfl
    | some result => exact handles.masterModeResignResp_idle answered
  · simp only [Option.getD_some]
    rcases swUpgradeReq_cases env s a { c with noDataCount := 0 } p with ends | stays
    · rw [ends]
      exact .halts rfl
    · rw [stays]
      exact handles.writes_idle rfl rfl
  · exact handles.webServiceIpAndPort_idle
  · cases equipmentCommand env s { c with noDataCount := 0 } p cmdid with
    | none => exact .halts rfl
    | some handled => exact handles.writes_idle rfl rfl

end Handles

/-- What a turn of the loop does to the counts. -/
theorem Turns.takeTurn_idle {way : Turn} (turns : s.Turns a c received env way)
    : IdleEffect s (.iterate a received env) (s.takeTurn env a c way).1 := by
  cases way with
  | closed => exact turns.closed_idle
  | failed => exact turns.failed_idle
  | overrun => exact .halts rfl
  | stalled =>
      refine .keeps rfl (turns.switches_eq_none (by simp))
        (turns.pollsAsMaster_eq_none (by simp)) ?_
      exact fun b => keepsNoDataCount_of_eq rfl
  | takes message => exact turns.takes_idle
  | idle => exact turns.idle_idle
  | dispatches p =>
      simp only [takeTurn, dispatch]
      split_ifs with blocked
      · refine .keeps rfl ?_ (turns.pollsAsMaster_eq_none (by simp)) fun b =>
          keepsNoDataCount_of_eq rfl
        simp [switches, turns.found, turns.way, blocked]
      · exact Handles.command_idle ⟨turns, by simpa using blocked, rfl⟩

-----------------------------------------------------------------------------------------
-- The other steps
-----------------------------------------------------------------------------------------

theorem switches_of_noTurn (noTurn : ∀ a received env, event ≠ .iterate a received env)
    : s.switches event = none := by
  cases event with
  | iterate a received env => exact absurd rfl (noTurn a received env)
  | _ => rfl

/-- An event that is no turn and allocates no context keeps the counts if it frees or rewrites
contexts without a change of their counts and of the master.
-/
theorem keeps_of_noTurn (noTurn : ∀ a received env, event ≠ .iterate a received env)
    (noContext : s.allocates event = none) (kept : ∀ b, s.KeepsNoDataCount event s' b)
    : IdleEffect s event s' := by
  refine .keeps noContext (switches_of_noTurn noTurn) ?_ kept
  cases event with
  | iterate a received env => exact absurd rfl (noTurn a received env)
  | _ => rfl

theorem same_idle (noTurn : ∀ a received env, event ≠ .iterate a received env)
    (noContext : s.allocates event = none) (contexts : s'.contexts = s.contexts)
    : IdleEffect s event s' :=
  keeps_of_noTurn noTurn noContext fun _ => keepsNoDataCount_of_eq (congrFun contexts _)

/-- A step that may be undefined. -/
theorem undefined_idle {result : Option State}
    (defined : ∀ s', result = some s' → IdleEffect s event s')
    : IdleEffect s event (result.getD s.halt) :=
  getD_halt (P := IdleEffect s event) (.halts rfl) defined

/-- remoteMonitorActivate(NO) leaves the contexts alone. -/
theorem remoteMonitorActivateNo_contexts (deactivated : s.remoteMonitorActivateNo = some s')
    : s'.contexts = s.contexts := by
  by_cases active : s.remote.remoteMonitorActive = true
  · obtain ⟨-, -, -, -, contexts⟩ := remoteMonitorActivateNo_swept active rfl rfl deactivated
    exact contexts
  · unfold remoteMonitorActivateNo at deactivated
    rw [if_neg active] at deactivated
    obtain rfl := Option.some.inj deactivated
    rfl

theorem start_idle (found : s.contexts a = some c)
    : IdleEffect s (.start a) (s.prologue a c).1 := by
  have contexts : (s.prologue a c).1.contexts
      = Function.update s.contexts a (some { c with thread := .looping }) := by
    unfold prologue
    simp only
    split_ifs
    · split <;> rfl
    · rfl
  refine keeps_of_noTurn (by simp) rfl (keepsNoDataCount_of_update _ contexts ?_)
  rintro _ ⟨⟩
  exact ⟨c, found, rfl, id⟩

/-- A context that is allocated leaves the others alone. -/
theorem allocates_idle {fresh : Bool} (allocated : s.allocates event = some (a, fresh))
    (new : Option Context)
    (contexts : s'.contexts = Function.update s.contexts a new)
    (created : ∀ c, new = some c → c.noDataCount = 0 ∨ (fresh = true ∧ c.mode ≠ .masterMode))
    : IdleEffect s event s' := by
  refine .creates allocated (fun b other => ?_) fun c found => created c ?_
  · exact keepsNoDataCount_of_eq (by rw [contexts, Function.update_of_ne other])
  · rwa [contexts, Function.update_self] at found

theorem accept_idle {fd : Int} {mem : Option Memory} {started : Bool}
    : IdleEffect s (.accept fd mem started) (s.accept fd mem started).1 := by
  unfold accept
  cases mem with
  | none => split <;> exact same_idle (by simp) rfl rfl
  | some mem =>
      split
      · rename_i full
        exact same_idle (by simp) (by simp [allocates, full]) rfl
      · rename_i given
        have allocated : s.allocates (.accept fd (some mem) started)
            = some (mem.address, true) :=
          congrArg (Option.map fun _ => (mem.address, true)) given
        refine allocates_idle allocated _ rfl ?_
        rintro _ ⟨⟩
        exact .inr ⟨rfl, by simp⟩

theorem createInserted_idle {mem : Option Addr} {started : Bool}
    : IdleEffect s (.createInserted mem started) (s.createInserted mem started) := by
  cases mem with
  | none => exact same_idle (by simp) rfl rfl
  | some a =>
      unfold createInserted
      simp only
      split <;>
        · refine allocates_idle rfl _ rfl ?_
          rintro _ ⟨⟩
          exact .inl rfl

theorem remoteStart_idle {mem : Option Addr} (started : s.remoteStart mem = some s')
    : IdleEffect s (.remoteStart mem) s' := by
  unfold remoteStart at started
  cases mem with
  | none => exact same_idle (by simp) rfl (remoteMonitorActivateNo_contexts started :)
  | some a =>
      obtain rfl := Option.some.inj started
      refine allocates_idle rfl _ rfl ?_
      rintro _ ⟨⟩
      exact .inl rfl

theorem remoteSendData_idle (sent : s.remoteSendData = some s')
    : IdleEffect s .remoteSendData s' := by
  obtain ⟨⟨r, c⟩, found, sent⟩ := Option.bind_eq_some_iff.mp sent
  obtain ⟨registered, -, sent⟩ := Option.bind_eq_some_iff.mp sent
  have kept {index : Int} {s₁ : State}
      (contexts : s₁.contexts = Function.update s.contexts r (some { c with index }))
      : IdleEffect s .remoteSendData s₁ := by
    refine keeps_of_noTurn (by simp) rfl (keepsNoDataCount_of_update _ contexts ?_)
    rintro _ ⟨⟩
    exact ⟨c, (remoteContext_task found).1, rfl, id⟩
  simp only at sent
  split_ifs at sent
  · cases given : s.registry.reconnGetFreeClientIndex c.index with
    | none =>
        rw [given] at sent
        exact same_idle (by simp) rfl (remoteMonitorActivateNo_contexts sent)
    | some result =>
        simp only [given] at sent
        split at sent
        · obtain rfl := Option.some.inj sent
          exact kept rfl
        · exact kept (remoteMonitorActivateNo_contexts sent)
  · obtain rfl := Option.some.inj sent
    exact same_idle (by simp) rfl rfl

theorem remoteStopData_idle (stopped : s.remoteStopData = some s')
    : IdleEffect s .remoteStopData s' := by
  obtain ⟨⟨r, c⟩, -, stopped⟩ := Option.bind_eq_some_iff.mp stopped
  simp only at stopped
  split_ifs at stopped
  obtain rfl := Option.some.inj stopped
  exact same_idle (by simp) rfl (s.deRegister_contexts c)

theorem remoteExit_idle (left : s.remoteExit = some s') : IdleEffect s .remoteExit s' := by
  unfold remoteExit at left
  split_ifs at left
  · obtain rfl := Option.some.inj left
    exact same_idle (by simp) rfl rfl
  · obtain ⟨⟨r, c⟩, found, rfl⟩ := Option.map_eq_some_iff.mp left
    exact keeps_of_noTurn (by simp) rfl (keepsNoDataCount_of_update none rfl nofun)

/-- What an event does to the counts. Witness: the events one by one. -/
theorem perform_idle (enabled : s.enabled event = true)
    : IdleEffect s event (s.perform event).1 := by
  cases event with
  | accept fd mem started => exact accept_idle
  | start a =>
      obtain ⟨c, found, starting⟩ := starting_of_enabled enabled
      simp only [perform, found]
      exact start_idle found
  | iterate a received env =>
      obtain ⟨c, turns⟩ := turns_of_enabled enabled
      simp only [perform, turns.found]
      exact turns.takeTurn_idle
  | iphoneInserted =>
      simp only [perform, masterIphoneInserted]
      split_ifs <;> exact same_idle (by simp) rfl rfl
  | connectTransmit fd connected =>
      simp only [perform, connectTransmit]
      split_ifs <;> exact same_idle (by simp) rfl rfl
  | transmitAccept fd =>
      simp only [perform, transmitAccept]
      split_ifs <;> exact same_idle (by simp) rfl rfl
  | createInserted mem started => exact createInserted_idle
  | iphoneExtracted =>
      simp only [perform, masterIphoneExtracted]
      split_ifs <;> exact same_idle (by simp) rfl rfl
  | semTimedWaitFails | semTimedWait | meterPresence | remoteConnected =>
      exact same_idle (by simp) rfl rfl
  | remoteStart mem => exact undefined_idle fun _ => remoteStart_idle
  | remoteSendData => exact undefined_idle fun _ => remoteSendData_idle
  | remoteStopData => exact undefined_idle fun _ => remoteStopData_idle
  | remoteDeactivate =>
      exact undefined_idle fun _ deactivated =>
        same_idle (by simp) rfl (remoteMonitorActivateNo_contexts deactivated)
  | remoteExit => exact undefined_idle fun _ => remoteExit_idle

/-- Every step has one of the effects on the counts. -/
theorem step_idle {output : Output} (taken : s.step event = some (s', output))
    : IdleEffect s event s' := by
  obtain ⟨-, enabled, performed⟩ := step_eq_some taken
  have effect := perform_idle enabled
  rwa [performed] at effect

/-- A task polls idly in a turn of its loop. -/
theorem idlePoll_of_idles {output : Output} (taken : s.step event = some (s', output))
    (idles : s.idles event = some (a, c))
    : ∃ received env, s.Turns a c received env .idle ∧ s' = (s.idlePoll a c).1 := by
  cases event with
  | iterate b received env =>
      obtain ⟨c', way, turns, rfl, -⟩ := step_iterate taken
      simp only [State.idles, turns.found, Option.bind_some, turns.way] at idles
      cases way with
      | idle =>
          obtain ⟨rfl, rfl⟩ := Prod.mk.inj (Option.some.inj idles)
          exact ⟨received, env, turns, rfl⟩
      | _ => cases idles
  | _ => cases idles

/-- An idle poll closes a master whose count comes to CLIENTNODATATIME. -/
theorem Turns.idlePoll_task (turns : s.Turns a c received env .idle)
    : (s.idlePoll a c).1.task a = none
      ↔ c.mode = .masterMode ∧ clientNoDataTime ≤ c.noDataCount + clientSleepTime := by
  have runs : c.task ≠ none := by simp [Context.task, turns.looping]
  unfold idlePoll
  by_cases master : c.mode = .masterMode
  · rw [if_pos master]
    simp only
    split_ifs with inactive
    · have gone : (s.leave a c).task a = none := by simp [without]
      exact iff_of_true gone ⟨master, inactive⟩
    · refine iff_of_false ?_ fun closes => inactive closes.2
      rw [setContext_task, Function.update_self]
      exact runs
  · rw [if_neg master]
    refine iff_of_false ?_ fun closes => master closes.1
    rw [State.task, turns.found]
    exact runs

end State

-----------------------------------------------------------------------------------------
-- The counts of a run
-----------------------------------------------------------------------------------------

/-- The context of a client that has sent nothing and is not the master yet. -/
structure Activity.Unused (past : Activity) (a : Addr) (c : Context) : Prop where
  fresh : past.fresh a = true
  slave : c.mode ≠ .masterMode
  unpolled : past.idlePolls a = 0

/-- The count of a context is that of its idle polls, up to less than one poll. -/
structure Activity.Counts (past : Activity) (a : Addr) (c : Context) : Prop where
  least : past.idlePolls a * State.clientSleepTime ≤ c.noDataCount
  most : c.noDataCount < past.idlePolls a * State.clientSleepTime + State.clientSleepTime
  inTime : c.noDataCount < State.clientNoDataTime

/-- Every context of a machine that goes on is unused or has its count. -/
def Activity.Tied (past : Activity) (s : State) : Prop :=
  s.halted = false → ∀ a c, s.contexts a = some c → past.Unused a c ∨ past.Counts a c

namespace Activity

variable {past : Activity} {a b : Addr} {c : Context} {s s' : State} {event : Event}

/-- A count that starts again. -/
theorem counts_of_zero (polls : past.idlePolls a = 0) (zero : c.noDataCount = 0)
    : past.Counts a c := by
  constructor <;> simp [polls, zero, State.clientSleepTime, State.clientNoDataTime]

/-- One more idle poll that does not come to CLIENTNODATATIME. -/
theorem Counts.polled (counts : past.Counts a c)
    (inTime : c.noDataCount + State.clientSleepTime < State.clientNoDataTime)
    : (past.poll a).Counts a { c with noDataCount := c.noDataCount + State.clientSleepTime } := by
  obtain ⟨least, most, -⟩ := counts
  simp only [State.clientSleepTime] at *
  refine ⟨?_, ?_, inTime⟩
  · simp only [poll, Function.update_self, State.clientSleepTime]
    omega
  · simp only [poll, Function.update_self, State.clientSleepTime]
    omega

/-- The count comes to CLIENTNODATATIME at the idle poll that completes it. -/
theorem Counts.inactive_iff (counts : past.Counts a c)
    : State.clientNoDataTime ≤ c.noDataCount + State.clientSleepTime
      ↔ (past.idlePolls a + 1 : Int) = State.clientNoDataTime / State.clientSleepTime := by
  obtain ⟨least, most, inTime⟩ := counts
  simp only [State.clientSleepTime, State.clientNoDataTime] at *
  omega

/-- A context that is kept stays as it was, also when it is handed mastership. -/
theorem Tied.kept {past' : Activity} {t : Transition State Event Output}
    (tied : past.Tied t.before) (runs : t.before.halted = false)
    (known : HandsToKnown past t) (kept : t.before.KeepsNoDataCount t.event t.after b)
    (polls : past'.idlePolls b = past.idlePolls b) (fresh : past'.fresh b = past.fresh b)
    {c' : Context} (found : t.after.contexts b = some c')
    : past'.Unused b c' ∨ past'.Counts b c' := by
  obtain ⟨c, before, count, mode⟩ := kept c' found
  rcases tied runs b c before with unused | counts
  · by_cases master : c'.mode = .masterMode
    · -- Only a hand-over makes it the master.
      have handed := (mode master).resolve_left unused.slave
      obtain ⟨least, most⟩ := known b c handed before unused.fresh
      refine .inr ⟨?_, ?_, ?_⟩ <;> rw [count]
      · simpa [polls, unused.unpolled] using least
      · simpa [polls, unused.unpolled] using most
      · exact most.trans (by decide)
    · exact .inl ⟨fresh.trans unused.fresh, master, polls.trans unused.unpolled⟩
  · refine .inr ⟨?_, ?_, ?_⟩ <;> rw [count]
    · exact polls ▸ counts.least
    · exact polls ▸ counts.most
    · exact counts.inTime

theorem record_of_allocates {t : Transition State Event Output} {fresh : Bool}
    (allocated : t.before.allocates t.event = some (a, fresh))
    : past.record t = past.restart a fresh := by
  simp only [Activity.record, allocated]

theorem record_of_switches {t : Transition State Event Output} {p : Packet}
    (noContext : t.before.allocates t.event = Option.none)
    (switched : t.before.switches t.event = some (a, c, p))
    : past.record t = past.restart a false := by
  simp only [Activity.record, noContext, switched]

theorem record_of_polls {t : Transition State Event Output}
    (noContext : t.before.allocates t.event = Option.none)
    (noCommand : t.before.switches t.event = Option.none)
    (idles : t.before.idles t.event = some (a, c)) (master : c.mode = .masterMode)
    : past.record t = past.poll a := by
  have polls : t.before.pollsAsMaster t.event = some a := by
    simp [State.pollsAsMaster, idles, master]
  simp only [Activity.record, noContext, noCommand, polls]

/-- A step that keeps the counts of all contexts but one keeps them tied if that one is. -/
theorem Tied.restart {t : Transition State Event Output} {fresh : Bool}
    (tied : past.Tied t.before) (runs : t.before.halted = false) (known : HandsToKnown past t)
    (kept : ∀ b ≠ a, t.before.KeepsNoDataCount t.event t.after b)
    (here : ∀ c, t.after.contexts a = some c
      → (past.restart a fresh).Unused a c ∨ (past.restart a fresh).Counts a c)
    : (past.restart a fresh).Tied t.after := by
  intro _ b c found
  by_cases same : b = a
  · subst same
    exact here c found
  · have polls : (past.restart a fresh).idlePolls b = past.idlePolls b :=
      Function.update_of_ne same ..
    exact tied.kept runs known (kept b same) polls (Function.update_of_ne same ..) found

/-- Every step that hands mastership over to known clients only keeps the counts. Witness: the
effects of a step on the counts.
-/
theorem Tied.record {t : Transition State Event Output} (tied : past.Tied t.before)
    (known : HandsToKnown past t)
    (taken : t.before.step t.event = some (t.after, t.output))
    : (past.record t).Tied t.after := by
  have runs := (State.step_eq_some taken).1
  cases State.step_idle taken with
  | halts halted => exact fun goesOn => absurd (halted.symm.trans goesOn) (by decide)
  | keeps noContext noCommand noPoll kept =>
      have past' : past.record t = past := by
        simp only [Activity.record, noContext, noCommand, noPoll]
      rw [past']
      exact fun _ b c found => tied.kept runs known (kept b) rfl rfl found
  | creates allocated kept created =>
      rw [record_of_allocates allocated]
      refine tied.restart runs known kept fun c found => ?_
      rcases created c found with zero | ⟨rfl, slave⟩
      · exact .inr (counts_of_zero (Function.update_self ..) zero)
      · exact .inl ⟨Function.update_self .., slave, Function.update_self ..⟩
  | commands noContext switched kept cleared =>
      rw [record_of_switches noContext switched]
      refine tied.restart runs known kept fun c found => .inr ?_
      exact counts_of_zero (Function.update_self ..) (cleared c found)
  | @polls a c noContext noCommand idles master contexts =>
      rw [record_of_polls noContext noCommand idles master]
      intro _ b c' found
      by_cases here : b = a
      · subst here
        rw [contexts, Function.update_self] at found
        split_ifs at found with inactive
        obtain rfl := Option.some.inj found
        obtain ⟨received, env, turns, -⟩ := State.idlePoll_of_idles taken idles
        refine .inr (.polled ?_ (not_le.mp inactive))
        exact (tied runs b c turns.found).resolve_left fun unused => unused.slave master
      · have kept : t.before.KeepsNoDataCount t.event t.after b :=
          State.keepsNoDataCount_of_eq (by rw [contexts, Function.update_of_ne here])
        have polls : (past.poll a).idlePolls b = past.idlePolls b := Function.update_of_ne here ..
        exact tied.kept runs known kept polls rfl found

/-- A count that is tied to the idle polls comes to CLIENTNODATATIME exactly in time. -/
theorem Tied.timesOut {t : Transition State Event Output} (tied : past.Tied t.before)
    (taken : t.before.step t.event = some (t.after, t.output))
    : TimesOut past t := by
  intro a c idles
  have runs := (State.step_eq_some taken).1
  obtain ⟨received, env, turns, after⟩ := State.idlePoll_of_idles taken idles
  rw [after, turns.idlePoll_task]
  refine and_congr_right fun master => ?_
  have counts := (tied runs a c turns.found).resolve_left fun unused => unused.slave master
  exact counts.inactive_iff

end Activity

/-- In a run that hands mastership over to known clients only, a task is closed for inactivity
exactly at its (CLIENTNODATATIME/CLIENTSLEEPTIME)-th idle poll as the master since its last
command.
-/
theorem timesOut_throughout {transitions : List (Transition State Event Output)} {finish : State}
    (run : State.Runs .initial transitions finish)
    (known : Throughout Activity.record HandsToKnown .none transitions)
    : Throughout Activity.record TimesOut .none transitions := by
  have initially : Activity.none.Tied .initial := nofun
  exact run.throughout_of_throughout
    (fun _ _ tied known taken => ⟨tied.record known taken, tied.timesOut taken⟩) _ initially known

/-- A client connects over WiFi, and its context's memory held the count of a master that had
polled idly for long.
-/
def reconnects (a : Addr) (fd : Int) : List Event :=
  [.accept fd (some ⟨a, 4000000, .zero⟩) true, .start a]

/-- The client at the address polls and finds nothing. -/
def idlePoll (a : Addr) : Event := .iterate a .wouldBlock .usual

/-- Without a hand-over to another client there is nothing to know. -/
theorem handsToKnown_of_none {past : Activity} {t : Transition State Event Output}
    (none : t.before.handsOverTo t.event = none)
    : HandsToKnown past t := by
  intro b c handed
  rw [none] at handed
  cases handed

/-- A hand-over to a client that has sent a command. -/
theorem handsToKnown_of_some {past : Activity} {t : Transition State Event Output} {b : Addr}
    (handed : t.before.handsOverTo t.event = some b) (known : past.fresh b = false)
    : HandsToKnown past t := by
  intro b' c handed' _ fresh
  obtain rfl := Option.some.inj (handed.symm.trans handed')
  exact absurd (known.symm.trans fresh) (by decide)

/-- A client that asked for mastership before it was handed over is not closed at its first
idle poll.
-/
theorem timesOut_of_asker
    : Throughout Activity.record TimesOut .none
        (replay State.step .initial
          (connects 1 5 ++ [masterModeReq 1] ++ reconnects 2 6
            ++ [masterModeResignReq 2, masterModeResignResp 1, idlePoll 2])).1 := by
  refine timesOut_throughout (replay_run _ _) ?_
  iterate 6
    refine (throughout_replay_cons rfl).mpr ⟨handsToKnown_of_none (by decide +kernel), ?_⟩
  refine (throughout_replay_cons rfl).mpr ⟨?_, ?_⟩
  · exact handsToKnown_of_some (b := 2) (by decide +kernel) (by decide +kernel)
  · exact (throughout_replay_cons rfl).mpr ⟨handsToKnown_of_none (by decide +kernel), trivial⟩

/-- A task that an idle poll closes too early. -/
theorem not_timesOut {past : Activity} {t : Transition State Event Output} {a : Addr}
    (idles : (t.before.idles t.event).map Prod.fst = some a) (closed : t.after.task a = none)
    (early : past.idlePolls a = 0)
    : ¬ TimesOut past t := by
  intro timesOut
  obtain ⟨⟨a', c⟩, found, rfl⟩ := Option.map_eq_some_iff.mp idles
  have polls := ((timesOut a' c found).mp closed).2
  rw [early] at polls
  exact absurd polls (by decide)

/-- The slave that asked has left, and a new client has got the memory of its context: it is
handed mastership in its place, and closed at its first idle poll.
-/
theorem stale_count_timesOut
    : ¬ ∀ transitions finish, State.Runs .initial transitions finish
        → Throughout Activity.record TimesOut .none transitions := by
  intro always
  have whole := always _ _
    (replay_run State.initial
      (asking ++ [.iterate 2 .closed .usual] ++ reconnects 2 7
        ++ [masterModeResignResp 1, idlePoll 2]))
  iterate 10 obtain ⟨-, whole⟩ := (throughout_replay_cons rfl).mp whole
  obtain ⟨last, -⟩ := (throughout_replay_cons rfl).mp whole
  exact not_timesOut (a := 2) (by decide +kernel) (by decide +kernel) (by decide +kernel) last

end Reconn.Client
