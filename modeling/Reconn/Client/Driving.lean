import Reconn.Client.Mastership

/-! Who drives the equipment. The mode filter lets only masters use the commands that do;
the data writes to the spectrum analyzer and the power meter also ask for
masterClientSocketFd.
-/

namespace Reconn.Client

open TransitionRuns

/-- Answering, counting and registering drive nothing. -/
@[simp] theorem Action.drives_eq_false
    : (∀ buffer, (Action.libiphonedTx buffer).drives = false)
      ∧ (∀ socketFd buffer, (Action.sendSocket socketFd buffer).drives = false)
      ∧ (∀ theEqpt, (Action.resetPowerStandbyCounter theEqpt).drives = false)
      ∧ (∀ index, (Action.reconnReturnClientIndex index).drives = false)
      ∧ (∀ index, (Action.reconnRegisterClientApp index).drives = false)
      ∧ (∀ index, (Action.reconnDeRegisterClientApp index).drives = false)
      ∧ ∀ fd, (Action.close fd).drives = false :=
  ⟨fun _ => rfl, fun _ _ => rfl, fun _ => rfl, fun _ => rfl, fun _ => rfl, fun _ => rfl,
    fun _ => rfl⟩

@[simp] theorem sendReconnResponse_drives (socketFd : Int) (c1 c2 : UInt8)
    (errCode : ReconnErrCode) (mode : Mode)
    : (sendReconnResponse socketFd c1 c2 errCode mode).drives = false := by
  unfold sendReconnResponse
  simp only
  split_ifs <;> rfl

@[simp] theorem Context.respond_drives (c : Context) (p : Packet) (errCode : ReconnErrCode)
    : (c.respond p errCode).drives = false :=
  sendReconnResponse_drives ..

@[simp] theorem Context.notify_drives (c : Context) (messageId : UInt16)
    (errCode : ReconnErrCode)
    : (c.notify messageId errCode).drives = false :=
  sendReconnResponse_drives ..

namespace State

variable {env : Outcomes} {s : State} {a : Addr} {c : Context} {p : Packet}

@[simp] theorem deRegisterActions_drives
    : (s.deRegisterActions c).any Action.drives = false := by
  unfold deRegisterActions
  cases s.registry.deRegisteredSocket c.index (c.mode = .remoteMode) <;> simp

/-- Registration itself drives nothing. -/
@[simp] theorem registerClient_drives (actions : List Action)
    : (s.registerClient a c actions).2.any Action.drives = actions.any Action.drives := by
  unfold registerClient
  split
  · simp [resetSystem]
  · split_ifs <;> simp [resetSystem]

/-- MASTER_MODE_REQ drives nothing. -/
theorem masterModeReq_drives : (s.masterModeReq env a c p).2.any Action.drives = false := by
  unfold masterModeReq grantMastership refuseMastership
  split_ifs <;> simp [resetSystem]

/-- The commands that pass the mode filter for a slave drive nothing. Witness: the five of
them, of which a resignation drives the DMM for a master only.
-/
theorem slave_drives_nothing (slave : c.mode = .slaveMode) (passes : filtered c p = false)
    : ((s.command env a c p).getD (s.halt, [])).2.any Action.drives = false := by
  have allowed : Command.slaveMayUse p.command = true := by
    simpa [filtered, slave] using passes
  cases cmdid : p.command with
  | none => simp [cmdid, Command.slaveMayUse] at allowed
  | some theCommand =>
      rw [cmdid] at allowed
      cases theCommand with
      | keepaliveMessage | clientAccessReq =>
          simp [command, cmdid, equipmentCommand, equipmentCommand.keep, Context.answered]
      | clientResignReq =>
          simp [command, cmdid, clientResignReq, slave, resetSystem]
      | masterModeReq => simp [command, cmdid, masterModeReq_drives]
      | masterModeResignReq =>
          simp only [command, cmdid, masterModeResignReq, Option.getD_some]
          split_ifs <;> simp [resetSystem]
      | _ => cases allowed

/-- The two data writes drive nothing for a client that masterClientSocketFd does not name. -/
theorem pktSend_drives_nothing
    (sends : p.command = some .specanaPktSendReq ∨ p.command = some .pmeterPktSendReq)
    (other : s.globals.masterClientSocketFd ≠ c.socketFd)
    : ((s.command env a c p).getD (s.halt, [])).2.any Action.drives = false := by
  rcases sends with cmdid | cmdid <;>
    simp [command, cmdid, equipmentCommand, equipmentCommand.keep, Context.specanaPktSendReq,
      Context.pmeterPktSendReq, other]

end State

/-- In this transition a handler drives the equipment, for a packet that the client of a
context sent.
-/
def DrivenBy (t : Transition State Event Output) (c : Context) (p : Packet) : Prop :=
  ∃ a received env, t.event = .iterate a received env ∧ t.before.contexts a = some c
    ∧ t.output.dispatched = some p ∧ t.output.actions.any Action.drives = true

/-- The handler that drives the equipment is a case of the switch. -/
theorem DrivenBy.command {t : Transition State Event Output} {c : Context} {p : Packet}
    (driven : DrivenBy t c p) (taken : t.before.step t.event = some (t.after, t.output))
    : ∃ a env, t.before.task a = some c.asTask ∧ State.filtered c p = false
      ∧ ((t.before.command env a { c with noDataCount := 0 } p).getD (t.before.halt, [])).2.any
          Action.drives = true := by
  obtain ⟨a, received, env, same, found, dispatched, drives⟩ := driven
  rw [same] at taken
  obtain ⟨c', way, turns, -, output⟩ := State.step_iterate taken
  obtain rfl := Option.some.inj (found.symm.trans turns.found)
  rw [output] at dispatched drives
  cases way with
  | dispatches p' =>
      obtain rfl := Option.some.inj dispatched
      simp only [State.takeTurn, State.dispatch] at drives
      split_ifs at drives with blocked
      · simp at drives
      · exact ⟨a, env, turns.task, by simpa using blocked, drives⟩
  | _ => cases dispatched

/-- In a run only masters drive the equipment. A WiFi master is the one that
masterClientSocketFd names, as long as the steps are orderly, and the data writes to the
spectrum analyzer and the power meter are for the client that it names.
-/
theorem drivenBy_master {transitions : List (Transition State Event Output)} {finish : State}
    (run : State.Runs .initial transitions finish)
    : ∀ t ∈ transitions, ∀ c p, DrivenBy t c p
      → (c.mode = .insertedMasterMode
          ∨ (c.mode = .masterMode
            ∧ ((∀ u ∈ transitions, u.before.Orderly u.event)
              → c.socketFd = t.before.globals.masterClientSocketFd)))
        ∧ (p.command = some .specanaPktSendReq ∨ p.command = some .pmeterPktSendReq
          → c.socketFd = t.before.globals.masterClientSocketFd) := by
  intro t member c p driven
  obtain ⟨a, env, runs, passes, drives⟩ := driven.command (run.taken t member)
  constructor
  · have noSlave : c.asTask.mode ≠ .slaveMode := by
      intro slave
      rw [State.slave_drives_nothing (c := { c with noDataCount := 0 }) slave passes] at drives
      cases drives
    have local_ := ((State.Runs.wellPlaced run t member).1 a _ runs).2
    rcases Task.master_of_ne noSlave local_ with wifi | iphone
    · refine .inr ⟨wifi, fun orderly => ?_⟩
      exact ((State.Runs.singleMaster run orderly).1 t member).1.socket a _ runs wifi
    · exact .inl iphone
  · intro sends
    by_contra other
    rw [State.pktSend_drives_nothing (c := { c with noDataCount := 0 }) sends
      (Ne.symm other)] at drives
    cases drives

/-- The client at the address sends DMM_PKT_SEND_REQ. -/
def dmmPktSendReq (a : Addr) : Event := .iterate a (request (5, 2) 0) .usual

/-- A packet that arrives while no message waits is the one that drives. -/
theorem drivenBy_of_request {transitions : List (Transition State Event Output)}
    {start finish : State} (run : State.Runs start transitions finish)
    {t : Transition State Event Output} (member : t ∈ transitions) {a : Addr} {c : Context}
    {messageId : UInt8 × UInt8}
    (event : t.event = .iterate a (request messageId 0) .usual)
    (found : t.before.contexts a = some c)
    (quiet : t.before.globals.masterClientMsgQid = -1
      ∨ t.before.globals.masterClientMsgQ = [])
    (drives : t.output.actions.any Action.drives = true)
    : DrivenBy t c (requestPacket messageId 0) := by
  refine ⟨a, _, _, event, found, ?_, drives⟩
  have taken := run.taken t member
  rw [event] at taken
  obtain ⟨c', way, turns, -, output⟩ := State.step_iterate taken
  have complete : (request messageId 0).complete = some (requestPacket messageId 0) := rfl
  have fits : (requestPacket messageId 0).pktLength ≤ reconnPayloadSize :=
    (by decide : (0 : UInt8).toNat * 256 + (1 : UInt8).toNat ≤ 500)
  rw [output]
  simp only [← turns.way, turn_complete complete]
  exact ⟨fits, quiet⟩

/-- A WiFi master drives the DMM. -/
theorem drivenBy_master_wifi
    : ∃ t ∈ (replay State.step .initial
        (connects 1 5 ++ [masterModeReq 1, dmmPktSendReq 1])).1,
      ∃ c p, DrivenBy t c p ∧ (c.mode = .insertedMasterMode ∨ c.mode = .masterMode) := by
  have run : State.Runs .initial _ _ :=
    replay_run State.initial (connects 1 5 ++ [masterModeReq 1, dmmPktSendReq 1])
  obtain ⟨t, member, event, found, quiet, drives⟩ : ∃ t ∈ (replay State.step .initial
        (connects 1 5 ++ [masterModeReq 1, dmmPktSendReq 1])).1,
      t.event = dmmPktSendReq 1
        ∧ t.before.contexts 1 = some ⟨1, .masterMode, 5, 0, .zero, .looping⟩
        ∧ (t.before.globals.masterClientMsgQid = -1 ∨ t.before.globals.masterClientMsgQ = [])
        ∧ t.output.actions.any Action.drives = true :=
    ⟨_, List.mem_of_getElem? (i := 3) rfl, rfl, rfl, by decide +kernel, by decide +kernel⟩
  have driven := drivenBy_of_request run member event found quiet drives
  exact ⟨t, member, _, _, driven, (drivenBy_master run t member _ _ driven).1.imp_right And.left⟩

/-- An inserted iPhone drives the DMM before it has asked for mastership. -/
theorem drivenBy_iphone
    : ¬ ∀ transitions finish, State.Runs .initial transitions finish
        → ∀ t ∈ transitions, ∀ c p, DrivenBy t c p
        → c.socketFd = t.before.globals.masterClientSocketFd := by
  intro always
  have run : State.Runs .initial _ _ :=
    replay_run State.initial (insertion 0 4 ++ [dmmPktSendReq 0])
  obtain ⟨t, member, event, found, quiet, drives, free⟩ : ∃ t ∈ (replay State.step .initial
        (insertion 0 4 ++ [dmmPktSendReq 0])).1,
      t.event = dmmPktSendReq 0
        ∧ t.before.contexts 0 = some ⟨0, .insertedMasterMode, 4, 0, .zero, .looping⟩
        ∧ (t.before.globals.masterClientMsgQid = -1 ∨ t.before.globals.masterClientMsgQ = [])
        ∧ t.output.actions.any Action.drives = true
        ∧ t.before.globals.masterClientSocketFd = -1 :=
    ⟨_, List.mem_of_getElem? (i := 5) rfl, rfl, rfl, by decide +kernel, by decide +kernel,
      by decide +kernel⟩
  have driven := drivenBy_of_request run member event found quiet drives
  have named := always _ _ run t member _ _ driven
  rw [free] at named
  cases named

end Reconn.Client
