import Reconn.Client.Broadcast
import Reconn.Equipment.ResponseTask
import Reconn.Library.Pipelines

/-! The way of what the instruments say to the clients. reconnGetEqptResponseTask of
eqptResponse.c reads the instruments and queues what it has read, reconnEqptTask takes the
messages out of the queue and sends them to the slots. The two go on in any order, while other
tasks queue messages of their own and clients come and go.
-/

namespace Reconn.Equipment.InstrumentStream

open Appends Pipelines TransitionRuns
open Client (
  Action ResponsePacket genericResponse highByte lowByte reconnMaxNumClients
  reconnPmPortNotInitialized reconnRspPacketHeaderSize reconnRspPayloadSize responsePayload)

/-- Where reconnGetEqptResponseTask is, with the length of the last read between two visits. -/
inductive Responder where
  | atTop (length : Int)
  | selecting (length : Int)
  | reading (device : Device) (visit : Visit)
  /-- in reconnEqptAddMsgToQ, with what a visit has read -/
  | queueing (length : Int) (theMsg : List UInt8)
  | ended
  deriving DecidableEq, Repr

structure System where
  responder : Responder
  insertedMasterSocketFd : Int
  /-- the queue, reconnEqptTask and socketIdList; gEqptGetTaskDone is its gEqptTaskDone -/
  broadcast : Client.Broadcast.State

inductive Event where
  /-- the condition of the task's loop -/
  | loop
  /-- select() returns, with these descriptors set; with none if it fails or times out -/
  | select (isSet : Device → Bool)
  | read (attempt : Attempt)
  /-- the loop that reads a device has ended -/
  | finish
  | queue
  /-- the front panel's connection is accepted, or given up -/
  | insertedMaster (insertedMasterSocketFd : Int)
  /-- a step of the broadcast; reconnEqptAddMsgToQ is another task's call -/
  | broadcast (event : Client.Broadcast.Event)

inductive Effect where
  | read (device : Device) (bytes : List UInt8)
  | libiphonedTx (buffer : List UInt8)
  | sent (sent : Client.Broadcast.Sent)
  deriving DecidableEq, Repr

/-- The devices in the order of the tests. -/
def devices : List Device := [.dmm, .analyzer, .powerMeter]

theorem mem_devices (device : Device) : device ∈ devices := by
  cases device <;> decide

/-- The device that is read. -/
def firstSet (isSet : Device → Bool) : Option Device := devices.find? isSet

/-- The message that a visit queues. -/
def queued (actions : List Action) : Option (List UInt8) :=
  actions.findSome? fun
    | .reconnEqptAddMsgToQ message => some message
    | _ => none

/-- What a visit passes to libiphoned_tx. -/
def transmitted (actions : List Action) : List (List UInt8) :=
  actions.filterMap fun
    | .libiphonedTx buffer => some buffer
    | _ => none

namespace System

/-- Both tasks have started. -/
def initial : System := ⟨.atTop 0, -1, .initial⟩

/-- A step of reconnGetEqptResponseTask. -/
def respond (s : System) : Event → Option (System × List Effect)
  | .loop =>
      match s.responder with
      | .atTop length =>
          let responder := if s.broadcast.gEqptTaskDone then .ended else .selecting length
          some ({ s with responder }, [])
      | _ => none
  | .select isSet =>
      match s.responder with
      | .selecting length =>
          let responder :=
            match firstSet isSet with
            | none => .atTop length
            | some device => .reading device (.start device length)
          some ({ s with responder }, [])
      | _ => none
  | .read attempt =>
      match s.responder with
      | .reading device visit =>
          (visit.turn device attempt).map fun visit =>
            ({ s with responder := .reading device visit }, [.read device attempt.received])
      | _ => none
  | .finish =>
      match s.responder with
      | .reading device visit =>
          if visit.readStatus.isSome then
            let actions := visit.actions device s.insertedMasterSocketFd
            let responder :=
              match queued actions with
              | none => .atTop visit.length
              | some theMsg => .queueing visit.length theMsg
            some ({ s with responder }, (transmitted actions).map .libiphonedTx)
          else none
      | _ => none
  | .queue =>
      match s.responder with
      | .queueing length theMsg =>
          (s.broadcast.reconnEqptAddMsgToQ (some theMsg)).map fun (broadcast, _) =>
            ({ s with responder := .atTop length, broadcast }, [])
      | _ => none
  | .insertedMaster _ | .broadcast _ => none

def step (s : System) : Event → Option (System × List Effect)
  | .insertedMaster insertedMasterSocketFd => some ({ s with insertedMasterSocketFd }, [])
  | .broadcast event =>
      (s.broadcast.step event).map fun (broadcast, output) =>
        ({ s with broadcast }, output.sent.toList.map .sent)
  | event => s.respond event

end System

abbrev Step := Transition System Event (List Effect)

/-- The payload of a notification with a device's data; a reader of the packets tells it by
their ids.
-/
def notified (device : Device) (packet : List UInt8) : List UInt8 :=
  if packet.take 2 = [highByte genericResponse, lowByte genericResponse]
      ∧ (packet.drop 4).take 2 = [highByte device.messageId, lowByte device.messageId] then
    responsePayload packet
  else []

/-- The bytes that a step reads from a device. -/
def readFrom (device : Device) (t : Step) : List UInt8 :=
  t.output.flatMap fun
    | .read other bytes => if other = device then bytes else []
    | .libiphonedTx _ | .sent _ => []

/-- The bytes of a device that a step sends to a slot. -/
def sentTo (device : Device) (slot : Int) (t : Step) : List UInt8 :=
  t.output.flatMap fun
    | .sent sent => if sent.slot = slot then notified device sent.message.bytes else []
    | .read _ _ | .libiphonedTx _ => []

/-- The bytes of a device that a step passes to libiphoned_tx. -/
def transmittedOf (device : Device) (t : Step) : List UInt8 :=
  t.output.flatMap fun
    | .libiphonedTx buffer => notified device buffer
    | .read _ _ | .sent _ => []

/-- The bytes of a device that were read in the visit that is under way. -/
def reading (device : Device) : Responder → List UInt8
  | .reading other visit => if other = device then stored visit.stores else []
  | .atTop _ | .selecting _ | .queueing _ _ | .ended => []

/-- The bytes of a device that were read and not yet queued. -/
def unqueued (device : Device) : Responder → List UInt8
  | .queueing _ theMsg => notified device theMsg
  | responder => reading device responder

/-- The messages that a slot has its turns for from now on. -/
def toCome (slot : Int) (b : Client.Broadcast.State) : List Client.Broadcast.Message :=
  match b.task with
  | .scanning message i => if i ≤ slot then message :: b.queue else b.queue
  | .receiving | .ended => b.queue

/-- The bytes of a device that were read and not yet sent to a slot. -/
def underway (device : Device) (slot : Int) (s : System) : List UInt8 :=
  (toCome slot s.broadcast).flatMap (fun message => notified device message.bytes)
    ++ unqueued device s.responder

/-- A visit that ends now loses nothing: a payload has room for what it has read, and that is
not from a power meter whose port was closed meanwhile.
-/
def Responder.LosesNothing : Responder → Prop
  | .reading device visit =>
      (stored visit.stores).length ≤ reconnRspPayloadSize
        ∧ (device = .powerMeter → visit.readStatus = some reconnPmPortNotInitialized
          → stored visit.stores = [])
  | .atTop _ | .selecting _ | .queueing _ _ | .ended => True

instance : (responder : Responder) → Decidable responder.LosesNothing
  | .reading _ _ => inferInstanceAs (Decidable (_ ∧ _))
  | .atTop _ | .selecting _ | .queueing _ _ | .ended => isTrue trivial

/-- Nothing of what was read is lost in a step, but for what is sent to slots that hold no
socket: a visit that ends loses nothing, the queue is open, and other tasks queue no data of a
device.
-/
def Lossless (s : System) : Event → Prop
  | .finish => s.responder.LosesNothing
  | .queue => s.broadcast.gEqptTaskDone = false
  | .broadcast (.addMsgToQ (some theMsg)) => ∀ device ∈ devices, notified device theMsg = []
  | .loop | .select _ | .read _ | .insertedMaster _ | .broadcast _ => True

instance (s : System) : (event : Event) → Decidable (Lossless s event)
  | .finish => inferInstanceAs (Decidable s.responder.LosesNothing)
  | .queue => inferInstanceAs (Decidable (_ = _))
  | .broadcast (.addMsgToQ (some _)) => inferInstanceAs (Decidable (∀ device ∈ devices, _))
  | .loop | .select _ | .read _ | .insertedMaster _ => isTrue trivial
  | .broadcast (.addMsgToQ none) | .broadcast (.registerClientApp _ _ _)
  | .broadcast (.deRegisterClientApp _) | .broadcast .receive | .broadcast .receiveFails
  | .broadcast .scanSlot | .broadcast .cleanUp => isTrue trivial

-----------------------------------------------------------------------------------------
-- What a visit queues
-----------------------------------------------------------------------------------------

theorem messageId_bytes_iff {device other : Device}
    : [highByte other.messageId, lowByte other.messageId]
        = [highByte device.messageId, lowByte device.messageId]
      ↔ other = device := by
  cases device <;> cases other <;> decide

/-- A notification with the data of one device is none of another. -/
theorem notified_message {visit : Visit} {bytes : List UInt8} (keeps : visit.Keeps bytes)
    (fits : bytes.length ≤ reconnRspPayloadSize) (device other : Device)
    : notified device (visit.message other) = if other = device then bytes else [] := by
  have payload := (keeps.message fits other).2
  unfold notified
  rw [payload]
  unfold Visit.message
  dsimp only
  rw [ResponsePacket.bytes_eq]
  exact if_congr ((and_iff_right rfl).trans messageId_bytes_iff) rfl rfl

theorem message_length (visit : Visit) (device : Device)
    : (visit.message device).length = reconnRspPacketHeaderSize + visit.payloadIndex :=
  ResponsePacket.bytes_length _ _

/-- What a visit that loses nothing sends at its end: its message, if it has read anything. -/
theorem actions_of_losesNothing {device : Device} {visit : Visit}
    (keeps : visit.Keeps (stored visit.stores))
    (losesNothing : (Responder.reading device visit).LosesNothing)
    (ended : visit.readStatus.isSome = true) (insertedMasterSocketFd : Int)
    : visit.actions device insertedMasterSocketFd
      = if stored visit.stores = [] then []
        else
          (if insertedMasterSocketFd = -1 then [] else [.libiphonedTx (visit.message device)])
            ++ [.reconnEqptAddMsgToQ (visit.message device)] := by
  obtain ⟨fits, portOpen⟩ := losesNothing
  obtain ⟨readStatus, status⟩ := Option.isSome_iff_exists.mp ended
  have index : visit.payloadIndex = 0 ↔ stored visit.stores = [] := by
    rw [(keeps.fits fits).2]
    exact List.length_eq_zero_iff
  unfold Visit.actions
  rw [status]
  dsimp only
  rw [if_congr index rfl rfl]
  by_cases dropped : device = .powerMeter ∧ readStatus = reconnPmPortNotInitialized
  · rw [if_pos dropped,
      if_pos (portOpen dropped.1 (status.trans (congrArg some dropped.2)))]
  · rw [if_neg dropped]

theorem queued_of_message (fd : Int) (message : List UInt8)
    : queued ((if fd = -1 then [] else [.libiphonedTx message])
        ++ [.reconnEqptAddMsgToQ message])
      = some message := by
  split_ifs <;> rfl

theorem transmitted_of_message (fd : Int) (message : List UInt8)
    : transmitted ((if fd = -1 then [] else [.libiphonedTx message])
        ++ [.reconnEqptAddMsgToQ message])
      = if fd = -1 then [] else [message] := by
  split_ifs <;> rfl

theorem mem_of_queued {actions : List Action} {theMsg : List UInt8}
    (some_ : queued actions = some theMsg)
    : .reconnEqptAddMsgToQ theMsg ∈ actions := by
  obtain ⟨action, member, same⟩ := List.exists_of_findSome?_eq_some some_
  split at same
  · rwa [← Option.some.inj same]
  · cases same

/-- What a visit queues fits the queue. -/
theorem queued_length {device : Device} {visit : Visit} {insertedMasterSocketFd : Int}
    {theMsg : List UInt8} (bounded : visit.payloadIndex ≤ reconnRspPayloadSize)
    (some_ : queued (visit.actions device insertedMasterSocketFd) = some theMsg)
    : theMsg.length ≤ Client.Broadcast.eqptMsgSize := by
  obtain ⟨-, -, rfl⟩ := Visit.mem_actions.mp (mem_of_queued some_)
  rw [message_length]
  exact Nat.add_le_add_left bounded reconnRspPacketHeaderSize

-----------------------------------------------------------------------------------------
-- The reads of a visit
-----------------------------------------------------------------------------------------

theorem advance_bounded (device : Device) (visit : Visit)
    : (visit.advance device).payloadIndex ≤ reconnRspPayloadSize := by
  unfold Visit.advance
  dsimp only
  split_ifs with less full
  · exact less.le
  · exact full.le
  all_goals exact Nat.le_refl _

/-- A turn of a visit's loop keeps the payload index inside the payload. -/
theorem turn_bounded {device : Device} {visit next : Visit} {attempt : Attempt}
    (bounded : visit.payloadIndex ≤ reconnRspPayloadSize)
    (taken : visit.turn device attempt = some next)
    : next.payloadIndex ≤ reconnRspPayloadSize := by
  unfold Visit.turn at taken
  obtain ⟨-, taken⟩ := Option.ite_none_left_eq_some.mp taken
  obtain ⟨-, taken⟩ := Option.ite_none_right_eq_some.mp taken
  dsimp only at taken
  split_ifs at taken
  · rw [← Option.some.inj taken]
    exact advance_bounded device _
  · rw [← Option.some.inj taken]
    exact bounded

/-- The visit that is under way has stored what it has read, and a message that is to be queued
fits the queue.
-/
structure Sound (s : System) : Prop where
  keeps : ∀ device visit, s.responder = .reading device visit → visit.Keeps (stored visit.stores)
  bounded : ∀ device visit, s.responder = .reading device visit
    → visit.payloadIndex ≤ reconnRspPayloadSize
  message : ∀ length theMsg, s.responder = .queueing length theMsg
    → theMsg.length ≤ Client.Broadcast.eqptMsgSize

theorem sound_initial : Sound .initial := ⟨nofun, nofun, nofun⟩

/-- Between two visits there is nothing to know. -/
theorem sound_of_between {s : System}
    (reading : ∀ device visit, s.responder ≠ .reading device visit)
    (queueing : ∀ length theMsg, s.responder ≠ .queueing length theMsg)
    : Sound s where
  keeps device visit here := absurd here (reading device visit)
  bounded device visit here := absurd here (reading device visit)
  message length theMsg here := absurd here (queueing length theMsg)

theorem sound_of_reading {s : System} {device : Device} {visit : Visit}
    (here : s.responder = .reading device visit) (keeps : visit.Keeps (stored visit.stores))
    (bounded : visit.payloadIndex ≤ reconnRspPayloadSize)
    : Sound s where
  keeps other next same := by
    obtain ⟨-, rfl⟩ := Responder.reading.inj (here.symm.trans same)
    exact keeps
  bounded other next same := by
    obtain ⟨-, rfl⟩ := Responder.reading.inj (here.symm.trans same)
    exact bounded
  message length theMsg same := Responder.noConfusion (here.symm.trans same)

section Steps

variable {s s' : System} {output : List Effect}

/-- What a step of the responder is: one case for each event that it takes part in. -/
inductive Responds (s : System) : Event → System → List Effect → Prop where
  | loop {length : Int} (here : s.responder = .atTop length)
    : Responds s .loop
        {
          s with
          responder := if s.broadcast.gEqptTaskDone then .ended else .selecting length
        }
        []
  | unset {isSet : Device → Bool} {length : Int} (here : s.responder = .selecting length)
    : Responds s (.select isSet) { s with responder := .atTop length } []
  | select {isSet : Device → Bool} {device : Device} {length : Int}
    (here : s.responder = .selecting length)
    : Responds s (.select isSet) { s with responder := .reading device (.start device length) } []
  | read {attempt : Attempt} {device : Device} {visit next : Visit}
    (here : s.responder = .reading device visit) (taken : visit.turn device attempt = some next)
    : Responds s (.read attempt) { s with responder := .reading device next }
        [.read device attempt.received]
  | nothing {device : Device} {visit : Visit} (here : s.responder = .reading device visit)
    (ended : visit.readStatus.isSome = true)
    (none_ : queued (visit.actions device s.insertedMasterSocketFd) = none)
    : Responds s .finish { s with responder := .atTop visit.length }
        ((transmitted (visit.actions device s.insertedMasterSocketFd)).map .libiphonedTx)
  | finish {device : Device} {visit : Visit} {theMsg : List UInt8}
    (here : s.responder = .reading device visit) (ended : visit.readStatus.isSome = true)
    (some_ : queued (visit.actions device s.insertedMasterSocketFd) = some theMsg)
    : Responds s .finish { s with responder := .queueing visit.length theMsg }
        ((transmitted (visit.actions device s.insertedMasterSocketFd)).map .libiphonedTx)
  | queue {length : Int} {theMsg : List UInt8} {b : Client.Broadcast.State}
    {sent : Client.Broadcast.Output} (here : s.responder = .queueing length theMsg)
    (taken : s.broadcast.reconnEqptAddMsgToQ (some theMsg) = some (b, sent))
    : Responds s .queue { s with responder := .atTop length, broadcast := b } []

theorem responds_of_respond {event : Event} (taken : s.respond event = some (s', output))
    : Responds s event s' output := by
  unfold System.respond at taken
  split at taken
  · split at taken
    · rename_i length here
      obtain ⟨rfl, rfl⟩ := Prod.mk.inj (Option.some.inj taken)
      exact .loop here
    · cases taken
  · split at taken
    · rename_i length here
      obtain ⟨rfl, rfl⟩ := Prod.mk.inj (Option.some.inj taken)
      split
      · exact .unset here
      · exact .select here
    · cases taken
  · split at taken
    · rename_i device visit here
      obtain ⟨next, turned, same⟩ := Option.map_eq_some_iff.mp taken
      obtain ⟨rfl, rfl⟩ := Prod.mk.inj same
      exact .read here turned
    · cases taken
  · split at taken
    · rename_i device visit here
      obtain ⟨ended, same⟩ := Option.ite_none_right_eq_some.mp taken
      obtain ⟨rfl, rfl⟩ := Prod.mk.inj (Option.some.inj same)
      split
      · rename_i none_
        exact .nothing here ended none_
      · rename_i theMsg some_
        exact .finish here ended some_
    · cases taken
  · split at taken
    · rename_i length theMsg here
      obtain ⟨⟨b, sent⟩, added, same⟩ := Option.map_eq_some_iff.mp taken
      obtain ⟨rfl, rfl⟩ := Prod.mk.inj same
      exact .queue here added
    · cases taken
  · cases taken
  · cases taken

/-- What a step of the system is. -/
inductive Steps (s : System) : Event → System → List Effect → Prop where
  | respond {event : Event} {s' : System} {output : List Effect}
    (responds : Responds s event s' output)
    : Steps s event s' output
  | insertedMaster (insertedMasterSocketFd : Int)
    : Steps s (.insertedMaster insertedMasterSocketFd) { s with insertedMasterSocketFd } []
  | broadcast {event : Client.Broadcast.Event} {b : Client.Broadcast.State}
    {result : Client.Broadcast.Output} (taken : s.broadcast.step event = some (b, result))
    : Steps s (.broadcast event) { s with broadcast := b } (result.sent.toList.map .sent)

theorem steps_of_step {event : Event} (taken : s.step event = some (s', output))
    : Steps s event s' output := by
  cases event with
  | loop | select _ | read _ | finish | queue => exact .respond (responds_of_respond taken)
  | insertedMaster fd =>
      obtain ⟨rfl, rfl⟩ := Prod.mk.inj (Option.some.inj taken)
      exact .insertedMaster fd
  | broadcast event =>
      obtain ⟨⟨b, result⟩, stepped, same⟩ := Option.map_eq_some_iff.mp taken
      obtain ⟨rfl, rfl⟩ := Prod.mk.inj same
      exact .broadcast stepped

/-- Every step keeps the visit sound. -/
theorem Sound.step (sound : Sound s) {event : Event} (taken : s.step event = some (s', output))
    : Sound s' := by
  cases steps_of_step taken with
  | respond responds =>
      cases responds with
      | loop here =>
          refine sound_of_between (fun _ _ => ?_) fun _ _ => ?_ <;> dsimp only <;> split <;>
            exact Responder.noConfusion
      | unset | nothing | queue =>
          exact sound_of_between (fun _ _ => Responder.noConfusion)
            fun _ _ => Responder.noConfusion
      | select =>
          exact sound_of_reading rfl (Visit.keeps_start _ _) (Nat.zero_le _)
      | read here turned =>
          have keeps := (sound.keeps _ _ here).turn turned
          rw [← keeps.kept] at keeps
          exact sound_of_reading rfl keeps (turn_bounded (sound.bounded _ _ here) turned)
      | finish here ended some_ =>
          refine ⟨fun _ _ => Responder.noConfusion, fun _ _ => Responder.noConfusion,
            fun length theMsg same => ?_⟩
          obtain ⟨-, rfl⟩ := Responder.queueing.inj same
          exact queued_length (sound.bounded _ _ here) some_
  | insertedMaster => exact ⟨sound.keeps, sound.bounded, sound.message⟩
  | broadcast => exact ⟨sound.keeps, sound.bounded, sound.message⟩

end Steps

-----------------------------------------------------------------------------------------
-- The broadcast
-----------------------------------------------------------------------------------------

section Broadcast

open Client.Broadcast (Message sentBy)

variable {slot fd : Int} {b b' : Client.Broadcast.State} {result : Client.Broadcast.Output}

/-- A message that is added to the queue comes last. -/
theorem toCome_enqueue (message : Message) (added : Nat)
    : toCome slot { b with queue := b.queue ++ [message], added } = toCome slot b ++ [message] := by
  unfold toCome
  dsimp only
  split
  · split_ifs <;> rfl
  · rfl
  · rfl

/-- reconnEqptAddMsgToQ of a message that fits, while the queue is open. -/
theorem enqueue_passes {theMsg : List UInt8} (fits : theMsg.length ≤ Client.Broadcast.eqptMsgSize)
    (queueOpen : b.gEqptTaskDone = false)
    (taken : b.reconnEqptAddMsgToQ (some theMsg) = some (b', result))
    : toCome slot b' = toCome slot b ++ [⟨b.added, theMsg⟩] := by
  unfold Client.Broadcast.State.reconnEqptAddMsgToQ at taken
  dsimp only at taken
  rw [if_neg (Nat.not_lt.mpr fits), if_neg (by rw [queueOpen]; exact Bool.false_ne_true)] at taken
  obtain ⟨-, same⟩ := Option.ite_none_right_eq_some.mp taken
  obtain ⟨rfl, -⟩ := Prod.mk.inj (Option.some.inj same)
  exact toCome_enqueue ⟨b.added, theMsg⟩ (b.added + 1)

/-- The turns of a scan for the slots. -/
theorem scanSlot_passes (inside : slot ∈ Client.Registry.indices) (positive : 0 < fd)
    (registered : b.registry.socketIdList slot = fd) {message : Message} {i : Int}
    (scanning : b.task = .scanning message i)
    : toCome slot b
      = (sentBy slot (b.scanSlot message i).2).map (·.message)
        ++ toCome slot (b.scanSlot message i).1 := by
  obtain ⟨first, last⟩ := Client.Registry.mem_indices.mp inside
  unfold toCome
  rw [scanning]
  unfold Client.Broadcast.State.scanSlot sentBy
  dsimp only
  by_cases here : i = slot
  · subst here
    rw [registered, if_pos positive, if_pos (Int.le_refl i)]
    by_cases more : i + 1 < reconnMaxNumClients
    · rw [if_pos more]
      dsimp only
      rw [if_neg (by omega)]
      simp
    · rw [if_neg more]
      split_ifs <;> simp
  · have other : (if 0 < b.registry.socketIdList i then
          some (⟨i, b.registry.socketIdList i, message⟩ : Client.Broadcast.Sent)
        else none).toList.filter (·.slot = slot) = [] := by
      split_ifs <;> simp [here]
    rw [other]
    by_cases more : i + 1 < reconnMaxNumClients
    · rw [if_pos more]
      dsimp only
      rw [if_congr (show i ≤ slot ↔ i + 1 ≤ slot by omega) rfl rfl]
      rfl
    · rw [if_neg more, if_neg (by omega)]
      split_ifs <;> rfl

/-- A step of the broadcast sends to a slot that holds a socket what came first, and other
tasks' messages come last.
-/
theorem broadcast_passes (inside : slot ∈ Client.Registry.indices) (positive : 0 < fd)
    (registered : b.registry.socketIdList slot = fd) {event : Client.Broadcast.Event}
    (taken : b.step event = some (b', result))
    : toCome slot b ++ result.enqueued.toList
      = (sentBy slot result).map (·.message) ++ toCome slot b' := by
  cases event with
  | addMsgToQ theMsg =>
      cases theMsg with
      | none =>
          obtain ⟨rfl, rfl⟩ := Prod.mk.inj (Option.some.inj taken)
          exact List.append_nil _
      | some bytes =>
          simp only [Client.Broadcast.State.step, Client.Broadcast.State.reconnEqptAddMsgToQ]
            at taken
          split_ifs at taken
          · obtain ⟨rfl, rfl⟩ := Prod.mk.inj (Option.some.inj taken)
            exact List.append_nil _
          · obtain ⟨rfl, rfl⟩ := Prod.mk.inj (Option.some.inj taken)
            exact List.append_nil _
          · obtain ⟨rfl, rfl⟩ := Prod.mk.inj (Option.some.inj taken)
            exact (toCome_enqueue _ _).symm
  | registerClientApp | deRegisterClientApp | cleanUp =>
      obtain ⟨rfl, rfl⟩ := Prod.mk.inj (Option.some.inj taken)
      exact List.append_nil _
  | receive =>
      simp only [Client.Broadcast.State.step] at taken
      split at taken
      · rename_i message queue receiving some_
        obtain ⟨-, same⟩ := Option.ite_none_left_eq_some.mp taken
        obtain ⟨rfl, rfl⟩ := Prod.mk.inj (Option.some.inj same)
        have first := (Client.Registry.mem_indices.mp inside).1
        unfold toCome
        rw [receiving, some_]
        dsimp only
        rw [if_pos first]
        exact List.append_nil _
      · cases taken
  | receiveFails =>
      simp only [Client.Broadcast.State.step] at taken
      obtain ⟨receiving, same⟩ := Option.ite_none_right_eq_some.mp taken
      obtain ⟨rfl, rfl⟩ := Prod.mk.inj (Option.some.inj same)
      unfold toCome
      rw [receiving]
      exact List.append_nil _
  | scanSlot =>
      simp only [Client.Broadcast.State.step] at taken
      split at taken
      · rename_i message i scanning
        obtain ⟨rfl, rfl⟩ := Prod.mk.inj (Option.some.inj taken)
        exact (List.append_nil _).trans (scanSlot_passes inside positive registered scanning)
      · cases taken
      · cases taken

/-- Only another task's call adds a message to the queue in a step of the broadcast. -/
theorem addMsgToQ_of_enqueued {event : Client.Broadcast.Event}
    (taken : b.step event = some (b', result)) {message : Message}
    (enqueued : message ∈ result.enqueued.toList)
    : event = .addMsgToQ (some message.bytes) := by
  have nothing {other : Client.Broadcast.State × Client.Broadcast.Output}
      (same : some other = some (b', result)) (none_ : other.2.enqueued = none)
      : event = .addMsgToQ (some message.bytes) := by
    obtain rfl := Option.some.inj same
    rw [none_] at enqueued
    cases enqueued
  cases event with
  | addMsgToQ theMsg =>
      cases theMsg with
      | none => exact nothing taken rfl
      | some bytes =>
          simp only [Client.Broadcast.State.step, Client.Broadcast.State.reconnEqptAddMsgToQ]
            at taken
          split_ifs at taken
          · exact nothing taken rfl
          · exact nothing taken rfl
          · obtain ⟨-, rfl⟩ := Prod.mk.inj (Option.some.inj taken)
            rw [List.mem_singleton.mp enqueued]
  | registerClientApp | deRegisterClientApp | cleanUp => exact nothing taken rfl
  | receive =>
      simp only [Client.Broadcast.State.step] at taken
      split at taken
      · exact nothing (Option.ite_none_left_eq_some.mp taken).2 rfl
      · cases taken
  | receiveFails =>
      simp only [Client.Broadcast.State.step] at taken
      exact nothing (Option.ite_none_right_eq_some.mp taken).2 rfl
  | scanSlot =>
      simp only [Client.Broadcast.State.step] at taken
      split at taken
      · exact nothing taken rfl
      · cases taken
      · cases taken

end Broadcast

-----------------------------------------------------------------------------------------
-- From the instruments to the slots
-----------------------------------------------------------------------------------------

section Passing

variable {device : Device} {slot fd : Int}

theorem reading_reading (other : Device) (visit : Visit)
    : reading device (.reading other visit)
      = if other = device then stored visit.stores else [] := rfl

theorem unqueued_reading (other : Device) (visit : Visit)
    : unqueued device (.reading other visit)
      = if other = device then stored visit.stores else [] := rfl

/-- What is sent in a step of the broadcast, as bytes of a device. -/
theorem sentTo_broadcast {t : Step} {sent : Option Client.Broadcast.Sent}
    (output : t.output = sent.toList.map .sent)
    : sentTo device slot t
      = ((sent.toList.filter (·.slot = slot)).map (·.message)).flatMap
          fun message => notified device message.bytes := by
  unfold sentTo
  rw [output]
  cases sent with
  | none => rfl
  | some sent => by_cases here : sent.slot = slot <;> simp [here]

theorem readFrom_broadcast {t : Step} {sent : Option Client.Broadcast.Sent}
    (output : t.output = sent.toList.map .sent)
    : readFrom device t = [] := by
  unfold readFrom
  rw [output]
  cases sent <;> rfl

theorem sentTo_transmitted {t : Step} {buffers : List (List UInt8)}
    (output : t.output = buffers.map .libiphonedTx)
    : sentTo device slot t = [] := by
  unfold sentTo
  rw [output, List.flatMap_map, List.flatMap_eq_nil_iff]
  exact fun _ _ => rfl

theorem readFrom_transmitted {t : Step} {buffers : List (List UInt8)}
    (output : t.output = buffers.map .libiphonedTx)
    : readFrom device t = [] := by
  unfold readFrom
  rw [output, List.flatMap_map, List.flatMap_eq_nil_iff]
  exact fun _ _ => rfl

/-- A step of the responder that leaves the queue as it is passes on what it holds. -/
theorem passes_of_unqueued {t : Step} (queue : t.after.broadcast = t.before.broadcast)
    (nothing : sentTo device slot t = [])
    (holds : unqueued device t.before.responder ++ readFrom device t
      = unqueued device t.after.responder)
    : Passes (underway device slot) (readFrom device) (sentTo device slot) t := by
  unfold Passes underway
  rw [nothing, queue, List.append_assoc, holds, List.nil_append]

/-- A step that loses nothing sends to a slot that holds a socket what came first of what is
under way, by cases on the step.
-/
theorem passes_of_lossless {t : Step} (lossless : Lossless t.before t.event)
    (sound : Sound t.before) (taken : t.before.step t.event = some (t.after, t.output))
    (inside : slot ∈ Client.Registry.indices) (positive : 0 < fd)
    (registered : t.before.broadcast.registry.socketIdList slot = fd) (device : Device)
    : Passes (underway device slot) (readFrom device) (sentTo device slot) t := by
  obtain ⟨s, event, output, s'⟩ := t
  dsimp only at lossless sound taken registered
  cases steps_of_step taken with
  | insertedMaster => exact passes_of_unqueued rfl rfl (List.append_nil _)
  | respond responds =>
      cases responds with
      | loop here =>
          refine passes_of_unqueued rfl rfl ?_
          dsimp only
          rw [here]
          split <;> rfl
      | unset here =>
          refine passes_of_unqueued rfl rfl ?_
          dsimp only
          rw [here]
          rfl
      | select here =>
          refine passes_of_unqueued rfl rfl ?_
          dsimp only
          rw [here]
          exact (ite_self _).symm
      | @read attempt other visit next here turned =>
          refine passes_of_unqueued rfl rfl ?_
          have kept := ((sound.keeps _ _ here).turn turned).kept
          dsimp only
          rw [here, unqueued_reading, unqueued_reading, kept]
          by_cases same : other = device <;> simp [readFrom, same]
      | @nothing other visit here ended none_ =>
          refine passes_of_unqueued rfl (sentTo_transmitted rfl) ?_
          have loses : (Responder.reading other visit).LosesNothing := here ▸ lossless
          have empty : stored visit.stores = [] := by
            by_contra some_
            rw [actions_of_losesNothing (sound.keeps _ _ here) loses ended, if_neg some_,
              queued_of_message] at none_
            cases none_
          rw [readFrom_transmitted rfl, List.append_nil]
          dsimp only
          rw [here, unqueued_reading, empty]
          exact ite_self _
      | @finish other visit theMsg here ended some_ =>
          refine passes_of_unqueued rfl (sentTo_transmitted rfl) ?_
          have loses : (Responder.reading other visit).LosesNothing := here ▸ lossless
          obtain ⟨-, -, rfl⟩ := Visit.mem_actions.mp (mem_of_queued some_)
          rw [readFrom_transmitted rfl, List.append_nil]
          dsimp only
          rw [here, unqueued_reading]
          exact (notified_message (sound.keeps _ _ here) loses.1 device other).symm
      | queue here added =>
          have last := @enqueue_passes slot _ _ _ _ (sound.message _ _ here) lossless added
          unfold Passes underway
          dsimp only
          rw [here, last, List.flatMap_append]
          simp [readFrom, sentTo, unqueued, reading]
  | broadcast stepped =>
      have passed := congrArg (List.flatMap fun message => notified device message.bytes)
        (broadcast_passes inside positive registered stepped)
      rw [List.flatMap_append, List.flatMap_append] at passed
      have foreign : (_ : Option Client.Broadcast.Message).toList.flatMap
          (fun message => notified device message.bytes) = [] :=
        List.flatMap_eq_nil_iff.mpr fun message enqueued => by
          rw [addMsgToQ_of_enqueued stepped enqueued] at lossless
          exact lossless device (mem_devices device)
      rw [foreign, List.append_nil] at passed
      unfold Passes underway
      dsimp only
      rw [readFrom_broadcast rfl, sentTo_broadcast rfl, List.append_nil, passed]
      exact List.append_assoc ..

/-- The step passes on to the iPhone what a visit has read, if it is inserted. -/
theorem transmits_of_lossless {t : Step} (lossless : Lossless t.before t.event)
    (sound : Sound t.before) (taken : t.before.step t.event = some (t.after, t.output))
    (inserted : t.before.insertedMasterSocketFd ≠ -1) (device : Device)
    : Passes (fun s => reading device s.responder) (readFrom device) (transmittedOf device) t := by
  obtain ⟨s, event, output, s'⟩ := t
  dsimp only at lossless sound taken inserted
  unfold Passes
  dsimp only
  cases steps_of_step taken with
  | insertedMaster => exact List.append_nil _
  | respond responds =>
      cases responds with
      | loop here =>
          rw [here]
          split <;> rfl
      | unset here =>
          rw [here]
          rfl
      | select here =>
          rw [here]
          exact (ite_self _).symm
      | @read attempt other visit next here turned =>
          have kept := ((sound.keeps _ _ here).turn turned).kept
          rw [here, reading_reading, reading_reading, kept]
          by_cases same : other = device <;> simp [readFrom, transmittedOf, same]
      | @nothing other visit here ended none_ =>
          have loses : (Responder.reading other visit).LosesNothing := here ▸ lossless
          have sends := actions_of_losesNothing (sound.keeps _ _ here) loses ended
            s.insertedMasterSocketFd
          have empty : stored visit.stores = [] := by
            by_contra some_
            rw [sends, if_neg some_, queued_of_message] at none_
            cases none_
          rw [readFrom_transmitted rfl, here, reading_reading, sends, if_pos empty, empty]
          exact congrArg (· ++ []) (ite_self _)
      | @finish other visit theMsg here ended some_ =>
          have loses : (Responder.reading other visit).LosesNothing := here ▸ lossless
          have sends := actions_of_losesNothing (sound.keeps _ _ here) loses ended
            s.insertedMasterSocketFd
          have nonempty : stored visit.stores ≠ [] := by
            intro empty
            rw [sends, if_pos empty] at some_
            cases some_
          have message := notified_message (sound.keeps _ _ here) loses.1 device other
          rw [readFrom_transmitted rfl, here, reading_reading, sends, if_neg nonempty,
            transmitted_of_message, if_neg inserted, ← message]
          simp [transmittedOf, reading]
      | queue here added =>
          rw [here]
          rfl
  | broadcast stepped =>
      rw [readFrom_broadcast rfl]
      have nothing (sent : Option Client.Broadcast.Sent)
          : (sent.toList.map Effect.sent).flatMap (fun
            | .libiphonedTx buffer => notified device buffer
            | .read _ _ | .sent _ => []) = [] := by
        cases sent <;> rfl
      unfold transmittedOf
      dsimp only
      rw [nothing, List.append_nil]
      rfl

end Passing

-----------------------------------------------------------------------------------------
-- Whole runs
-----------------------------------------------------------------------------------------

section Runs

variable {before transitions : List Step} {s finish : System} {slot fd : Int}

theorem sound_always (run : Run System.step .initial before s) : Sound s :=
  (run.invariant_always (fun _ _ _ _ sound taken => sound.step taken) sound_initial).2

/-- A slot that holds a socket is sent what was under way to it and what is read meanwhile, in
order, and the rest is under way to it still.
-/
theorem slot_passes_run (run : Run System.step .initial before s)
    (later : Run System.step s transitions finish)
    (lossless : ∀ t ∈ transitions, Lossless t.before t.event)
    (inside : slot ∈ Client.Registry.indices) (positive : 0 < fd)
    (registered : ∀ t ∈ transitions, t.before.broadcast.registry.socketIdList slot = fd)
    (device : Device)
    : underway device slot s ++ transitions.flatMap (readFrom device)
      = transitions.flatMap (sentTo device slot) ++ underway device slot finish := by
  have sound := (later.invariant_always (fun _ _ _ _ sound taken => Sound.step sound taken)
    (sound_always run)).1
  refine passes_run later fun t member => ?_
  exact passes_of_lossless (lossless t member) (sound t member).1 (later.taken t member) inside
    positive (registered t member) device

/-- What the instruments have said is sent to the clients: from any state on, a slot that holds
a socket is sent, in order and without a loss or a repetition, what was under way to it and
then what is read of each device, but for what is still under way; and so is the iPhone while
it is inserted, which need not wait for the queue.
-/
theorem instruments_reach_clients (run : Run System.step .initial before s)
    (later : Run System.step s transitions finish)
    (lossless : ∀ t ∈ transitions, Lossless t.before t.event)
    (inside : slot ∈ Client.Registry.indices) (positive : 0 < fd)
    (registered : ∀ t ∈ transitions, t.before.broadcast.registry.socketIdList slot = fd)
    (device : Device)
    : underway device slot s ++ transitions.flatMap (readFrom device)
        = transitions.flatMap (sentTo device slot) ++ underway device slot finish
      ∧ ((∀ t ∈ transitions, t.before.insertedMasterSocketFd ≠ -1)
        → reading device s.responder ++ transitions.flatMap (readFrom device)
          = transitions.flatMap (transmittedOf device) ++ reading device finish.responder) := by
  refine ⟨slot_passes_run run later lossless inside positive registered device, ?_⟩
  intro inserted
  have sound := (later.invariant_always (fun _ _ _ _ sound taken => Sound.step sound taken)
    (sound_always run)).1
  have each (t : Step) (member : t ∈ transitions)
      : Passes (fun s => reading device s.responder) (readFrom device) (transmittedOf device)
          t :=
    transmits_of_lossless (lossless t member) (sound t member).1 (later.taken t member)
      (inserted t member) device
  exact passes_run later each

/-- A client registers. -/
def registers : List Event := [.broadcast (.registerClientApp 7 1 12)]

/-- The analyzer is read, another task queues a message, and both are sent. -/
def analyzerReads : List Event :=
  [
    .loop, .select (· ≠ .dmm), .read ⟨true, some [1, 2]⟩, .read ⟨true, some [3]⟩,
    .broadcast (.addMsgToQ (some [0xFF, 0xFF, 0, 0, 1, 0x10])), .read ⟨true, none⟩, .finish, .queue,
    .broadcast .receive
  ]
    ++ List.replicate 6 (.broadcast .scanSlot) ++ .broadcast .receive
      :: List.replicate 6 (.broadcast .scanSlot)

theorem instruments_reach_clients_analyzer
    : let s := (replay System.step .initial registers).2
      let sends := replay System.step s analyzerReads
      underway .analyzer 1 s ++ sends.1.flatMap (readFrom .analyzer)
          = sends.1.flatMap (sentTo .analyzer 1) ++ underway .analyzer 1 sends.2
        ∧ sends.1.flatMap (sentTo .analyzer 1) = [1, 2, 3] := by
  have sent := @instruments_reach_clients _ _ _ _ 1 12 (replay_run System.initial registers)
    (replay_run (replay System.step .initial registers).2 analyzerReads) (by decide +kernel)
    (by decide) (by decide) (by decide +kernel) .analyzer
  exact ⟨sent.1, by decide +kernel⟩

end Runs

end Reconn.Equipment.InstrumentStream
