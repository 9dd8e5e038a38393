import Mathlib.Logic.Function.Basic
import Reconn.Client.Mastership
import Reconn.Client.ResponseBytes
import Reconn.Library.Blocks

/-! The transfer of the crash log, as RECONN_RETRIEVE_CRASHLOG of clientApp.c makes it: the
file is read one byte at a time into the response packet, which is sent each time it is full,
and once more at the end of the file.
-/

namespace Reconn.Client

open Blocks

/-- The variables of the transfer: the response packet, contextPtr->length, and what was sent
so far.
-/
structure Transfer where
  theResponsePkt : ResponsePacket
  length : Nat
  sent : List Action

/-- Stores one byte of the payload. -/
def ResponsePacket.put (packet : ResponsePacket) (index : Nat) (byte : UInt8)
    : ResponsePacket :=
  { packet with dataPayload := Function.update packet.dataPayload index byte }

namespace Context

variable (c : Context) (env : Outcomes) (g : Globals)

/-- One turn of the loop, which has read a byte. -/
def readByte (s : Transfer) (byte : UInt8) : Transfer :=
  let pkt := s.theResponsePkt.put s.length byte
  if s.length = reconnRspPayloadSize - 1 then
    let length := s.length + 1
    let full := pkt.withLength length
    {
      theResponsePkt := full.clearPayload
      length := 0
      sent := s.sent ++ [c.transmit g.masterClientSocketFd full length]
    }
  else { s with theResponsePkt := pkt, length := s.length + 1 }

/-- The transfer after its loop, if there is a file that can be read. -/
def readCrashlog : Transfer :=
  let pkt := (ResponsePacket.zero.address reconnRetrieveCrashlogId).clearPayload
  match if env.crashlogExists then env.crashlog else none with
  | some content => content.foldl (c.readByte g) ⟨pkt, 0, []⟩
  | none => ⟨pkt.withLength 1, 1, []⟩

/-- RECONN_RETRIEVE_CRASHLOG, byte by byte. The last response has a trailing NUL. -/
def crashlogTransfer : Handled :=
  let s := c.readCrashlog env g
  let length := s.length + 1
  let pkt := s.theResponsePkt.withLength length
  (
    pkt,
    s.sent
      ++ [
        c.transmit g.masterClientSocketFd pkt length,
        .resetPowerStandbyCounter .resetSystemShutdownTime
      ]
  )

end Context

/-- The buffer that an action transmits to one client. -/
def Action.transmitted : Action → Option (List UInt8)
  | .libiphonedTx buffer | .sendSocket _ buffer => some buffer
  | _ => none

/-- A crash log arrives: each response has between one byte and a full payload, all but the
last are full, and together they bring the file and a NUL.
-/
structure Transfers (content : List UInt8) (responses : List (List UInt8)) : Prop where
  bounds : ∀ response ∈ responses,
    1 ≤ responseLength response ∧ responseLength response ≤ reconnRspPayloadSize
  full : ∀ response ∈ responses.dropLast, responseLength response = reconnRspPayloadSize
  payloads : responses.flatMap responsePayload = content ++ [0]

-----------------------------------------------------------------------------------------
-- The loop
-----------------------------------------------------------------------------------------

theorem ResponsePacket.write_nil (packet : ResponsePacket) : packet.write [] = packet := by
  simp [write]

/-- A byte behind the ones that were written. -/
theorem ResponsePacket.write_put (packet : ResponsePacket) (values : List UInt8)
    (byte : UInt8)
    : (packet.write values).put values.length byte = packet.write (values ++ [byte]) := by
  unfold put write
  refine congrArg (fun dataPayload => { packet with dataPayload }) (funext fun index => ?_)
  dsimp only
  rcases Nat.lt_trichotomy index values.length with before | rfl | behind
  · rw [Function.update_of_ne before.ne, List.getElem?_append_left before]
  · simp
  · rw [Function.update_of_ne behind.ne', List.getElem?_eq_none behind.le,
      List.getElem?_eq_none (by simp; omega)]

theorem transmitted_transmit (c : Context) (socketFd : Int) (pkt : ResponsePacket)
    (length : Nat)
    : (c.transmit socketFd pkt length).transmitted
      = some (pkt.bytes (reconnRspPacketHeaderSize + length)) := by
  unfold Context.transmit
  dsimp only
  split_ifs <;> rfl

namespace Context

variable (c : Context) (env : Outcomes) (g : Globals)

/-- The response of the transfer with a payload of the given bytes. -/
def crashlogResponse (payload : List UInt8) : ResponsePacket :=
  (ResponsePacket.zero.address reconnRetrieveCrashlogId).write payload

/-- What is sent of such a response with a given length. -/
def sendCrashlog (payload : List UInt8) (length : Nat) : Action :=
  c.transmit g.masterClientSocketFd ((crashlogResponse payload).withLength length) length

/-- The loop has sent the full blocks of what it has read and keeps the rest in the packet. -/
structure HasRead (content : List UInt8) (full : List (List UInt8)) (left : List UInt8)
    (s : Transfer) : Prop where
  cut : Cut reconnRspPayloadSize content full left
  length : s.length = left.length
  packet : ∃ length, s.theResponsePkt = (crashlogResponse left).withLength length
  sent : s.sent = full.map fun block => c.sendCrashlog g block reconnRspPayloadSize

variable {c g}

/-- A byte is kept, or completes a block that is sent. -/
theorem HasRead.readByte {content left : List UInt8} {full : List (List UInt8)} {s : Transfer}
    (hasRead : c.HasRead g content full left s) (byte : UInt8)
    : ∃ full left, c.HasRead g (content ++ [byte]) full left (c.readByte g s byte) := by
  obtain ⟨length, packet⟩ := hasRead.packet
  have put
      : s.theResponsePkt.put s.length byte
        = (crashlogResponse (left ++ [byte])).withLength length := by
    rw [packet, hasRead.length]
    exact congrArg (·.withLength length) (ResponsePacket.write_put _ left byte)
  have short := hasRead.cut.short
  unfold Context.readByte
  dsimp only
  rw [put, hasRead.length]
  split_ifs with last
  · have fills : left.length + 1 = reconnRspPayloadSize := by omega
    refine ⟨full ++ [left ++ [byte]], [], hasRead.cut.fills byte fills, rfl,
      ⟨left.length + 1, ?_⟩, ?_⟩
    · exact (ResponsePacket.write_nil _).symm
    · rw [hasRead.sent, List.map_append, List.map_singleton, fills]
      rfl
  · refine ⟨full, left ++ [byte], hasRead.cut.keeps byte (by omega), ?_, ⟨length, rfl⟩,
      hasRead.sent⟩
    rw [List.length_append, List.length_singleton]

/-- The loop reads the rest of a file, by induction on its bytes. -/
theorem HasRead.foldl {content left : List UInt8} {full : List (List UInt8)} {s : Transfer}
    (hasRead : c.HasRead g content full left s) (rest : List UInt8)
    : ∃ full left, c.HasRead g (content ++ rest) full left (rest.foldl (c.readByte g) s) := by
  induction rest generalizing content full left s with
  | nil =>
      rw [List.append_nil]
      exact ⟨full, left, hasRead⟩
  | cons byte rest ih =>
      obtain ⟨full, left, next⟩ := hasRead.readByte byte
      rw [List.append_cons]
      exact ih next

variable (c g) in
/-- The loop starts with a cleared packet. -/
theorem hasRead_start
    : c.HasRead g [] [] []
        ⟨(ResponsePacket.zero.address reconnRetrieveCrashlogId).clearPayload, 0, []⟩ :=
  ⟨cut_nil (by decide), rfl, ⟨0, (ResponsePacket.write_nil _).symm⟩, rfl⟩

/-- A file that can be read is read to its end. -/
theorem readCrashlog_hasRead {env : Outcomes} {content : List UInt8}
    (present : env.crashlogExists = true) (readable : env.crashlog = some content)
    : ∃ full left, c.HasRead g content full left (c.readCrashlog env g) := by
  unfold readCrashlog
  rw [if_pos present, readable]
  exact (hasRead_start c g).foldl content

-----------------------------------------------------------------------------------------
-- The responses
-----------------------------------------------------------------------------------------

/-- The payload has a NUL behind the bytes that were read, since the packet was cleared. -/
theorem crashlogResponse_nul (payload : List UInt8)
    : crashlogResponse (payload ++ [0]) = crashlogResponse payload := by
  have cleared : (crashlogResponse payload).dataPayload payload.length = 0 := by
    simp [crashlogResponse, ResponsePacket.write, ResponsePacket.address, ResponsePacket.zero]
  have put := ResponsePacket.write_put (ResponsePacket.zero.address reconnRetrieveCrashlogId)
    payload 0
  refine put.symm.trans ?_
  unfold ResponsePacket.put
  rw [← crashlogResponse, ← cleared, Function.update_eq_self]

/-- The bytes of a response that is as long as its payload. -/
def crashlogBuffer (payload : List UInt8) : List UInt8 :=
  ((crashlogResponse payload).withLength payload.length).bytes
    (reconnRspPacketHeaderSize + payload.length)

theorem crashlogBuffer_payload (payload : List UInt8)
    : responsePayload (crashlogBuffer payload) = payload :=
  ResponsePacket.responsePayload_write
    ((ResponsePacket.zero.address reconnRetrieveCrashlogId).withLength payload.length) payload

theorem crashlogBuffer_length {payload : List UInt8}
    (fits : payload.length ≤ reconnRspPayloadSize)
    : responseLength (crashlogBuffer payload) = payload.length := by
  unfold crashlogBuffer
  rw [ResponsePacket.responseLength_bytes]
  exact UInt16.toNat_ofNat_of_lt' (Nat.lt_of_le_of_lt fits (by decide))

theorem sendCrashlog_transmitted (payload : List UInt8)
    : (c.sendCrashlog g payload payload.length).transmitted = some (crashlogBuffer payload) :=
  transmitted_transmit c g.masterClientSocketFd _ _

/-- A file that can be read is sent in full blocks, and then what is left with a NUL. -/
theorem crashlogTransfer_responses {env : Outcomes} {content : List UInt8}
    (present : env.crashlogExists = true) (readable : env.crashlog = some content)
    : ∃ full left, Cut reconnRspPayloadSize content full left
      ∧ (c.crashlogTransfer env g).2.filterMap Action.transmitted
        = (full ++ [left ++ [0]]).map crashlogBuffer := by
  obtain ⟨full, left, hasRead⟩ := readCrashlog_hasRead (c := c) (g := g) present readable
  refine ⟨full, left, hasRead.cut, ?_⟩
  obtain ⟨length, packet⟩ := hasRead.packet
  have blocks
      : (full.map fun block => c.sendCrashlog g block reconnRspPayloadSize).filterMap
          Action.transmitted
        = full.map crashlogBuffer := by
    rw [List.filterMap_map, ← List.filterMap_eq_map]
    refine List.filterMap_congr fun block member => ?_
    rw [Function.comp_apply, ← hasRead.cut.blocks block member]
    exact sendCrashlog_transmitted block
  have last
      : (c.transmit g.masterClientSocketFd
          ((c.readCrashlog env g).theResponsePkt.withLength (left.length + 1))
          (left.length + 1)).transmitted
        = some (crashlogBuffer (left ++ [0])) := by
    rw [← sendCrashlog_transmitted (c := c) (g := g), sendCrashlog, crashlogResponse_nul,
      List.length_append, List.length_singleton, packet]
    rfl
  unfold crashlogTransfer
  dsimp only
  rw [hasRead.length, hasRead.sent, List.filterMap_append, blocks, List.filterMap_cons, last,
    List.map_append]
  rfl

end Context

/-- The crash log arrives whole, whatever its length: the responses of the transfer are full
but for the last, which has at least the NUL.
-/
theorem crashlogTransfer_transfers (c : Context) (g : Globals) {env : Outcomes}
    {content : List UInt8} (present : env.crashlogExists = true)
    (readable : env.crashlog = some content)
    : Transfers content ((c.crashlogTransfer env g).2.filterMap Action.transmitted) := by
  obtain ⟨full, left, cut, responses⟩ :=
    Context.crashlogTransfer_responses (c := c) (g := g) present readable
  have size (block : List UInt8) (member : block ∈ full)
      : responseLength (Context.crashlogBuffer block) = reconnRspPayloadSize := by
    have length := cut.blocks block member
    rw [Context.crashlogBuffer_length length.le, length]
  have short := cut.short
  have lastLength : (left ++ [0]).length = left.length + 1 := List.length_append
  have last
      : responseLength (Context.crashlogBuffer (left ++ [0])) = left.length + 1 := by
    rw [Context.crashlogBuffer_length (by omega), lastLength]
  rw [responses]
  refine ⟨?_, ?_, ?_⟩
  · rw [List.map_append, List.forall_mem_append, List.map_singleton,
      List.forall_mem_singleton, List.forall_mem_map]
    refine ⟨fun block member => ?_, ?_⟩
    · rw [size block member]
      decide
    · rw [last]
      omega
  · rw [List.map_append, List.map_singleton, List.dropLast_concat, List.forall_mem_map]
    exact size
  · rw [List.flatMap_map, List.flatMap_congr fun payload _ =>
      Context.crashlogBuffer_payload payload, List.flatMap_id', List.flatten_append,
      List.flatten_singleton, ← List.append_assoc, cut.whole]

/-- The master's client task, as it retrieves the crash log. -/
def crashlogMaster : Context := ⟨1, .masterMode, 5, 0, .zero, .looping⟩

/-- A crash log of two payloads and a half. -/
def longCrashlog : List UInt8 := (List.range 5120).map UInt8.ofNat

/-- It comes in two full responses and a shorter one. -/
theorem crashlogTransfer_long
    : Transfers longCrashlog
        ((crashlogMaster.crashlogTransfer
            { Outcomes.usual with crashlogExists := true, crashlog := some longCrashlog }
            State.initial.globals).2.filterMap Action.transmitted) :=
  crashlogTransfer_transfers crashlogMaster State.initial.globals rfl rfl

/-- The transfer byte by byte is the one block by block. -/
theorem crashlogTransfer_eq (c : Context) (env : Outcomes) (g : Globals)
    : c.crashlogTransfer env g = c.reconnRetrieveCrashlog env g := by
  unfold Context.crashlogTransfer Context.reconnRetrieveCrashlog Context.readCrashlog
  generalize (if env.crashlogExists then env.crashlog else none) = file
  cases file with
  | none => rfl
  | some content =>
      obtain ⟨full, left, hasRead⟩ := (Context.hasRead_start c g).foldl content
      obtain ⟨blocks, remains⟩ := hasRead.cut.eq
      obtain ⟨length, packet⟩ := hasRead.packet
      dsimp only
      rw [packet, hasRead.length, hasRead.sent, blocks, remains, List.map_map, List.map_map]
      rfl

end Reconn.Client
