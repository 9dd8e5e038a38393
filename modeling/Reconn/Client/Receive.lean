import Reconn.Client.System
import Reconn.Library.TransitionRuns

/-! How a client task receives its packets: receive_packet_data, call after call on one
connected socket. Every recv() is a step of its own, and between two of them bytes arrive,
the mode of the socket changes and the peer closes its side.
-/

namespace Reconn.Client

def reconnPacketHeaderSize : Nat := 4

namespace Packet

/-- The bytes in front of the payload. -/
def header (p : Packet) : List UInt8 :=
  [p.messageId.1, p.messageId.2, p.dataLength.1, p.dataLength.2]

/-- A packet as a client sends it. -/
def wire (p : Packet) : List UInt8 := p.header ++ p.payload p.pktLength

theorem wire_length (p : Packet) : p.wire.length = reconnPacketHeaderSize + p.pktLength := by
  rw [wire, List.length_append]
  simp [header, payload, reconnPacketHeaderSize]

/-- A packet that fits a ReconnPacket, with nothing after its payload. -/
structure WellFormed (p : Packet) : Prop where
  fits : p.pktLength ≤ reconnPayloadSize
  rest : ∀ index, p.pktLength ≤ index → p.dataPayload index = 0

end Packet

namespace Receive

open TransitionRuns

/-- sizeof(ReconnPacket) -/
def sizeofReconnPacket : Nat := reconnPacketHeaderSize + reconnPayloadSize

/-- The receiving side of a connected socket. -/
structure Socket where
  unread : List UInt8
  nonBlocking : Bool
  /-- nothing follows the unread bytes -/
  closed : Bool

/-- What recv() returns: `again` is EAGAIN or EWOULDBLOCK, `error` any other errno. -/
inductive RecvResult where
  | bytes (data : List UInt8)
  | closed
  | again
  | error

/-- recv() of at most `size` bytes; none while it waits. -/
def Socket.recv (socket : Socket) (size : Nat) : Option (RecvResult × Socket) :=
  if socket.unread ≠ [] then
    some (
      .bytes (socket.unread.take size),
      { socket with unread := socket.unread.drop size }
    )
  else if socket.closed then some (.closed, socket)
  else if socket.nonBlocking then some (.again, socket)
  else none

/-- Where the task is: before the recv() of a header, or in the loop over a payload. It has
ended when it has left its loop or has written over the rest of its context.
-/
inductive Progress where
  | header
  | payload (count loop : Nat)
  | ended

/-- The buffer is the memory from the start of thePacket on. -/
structure State where
  socket : Socket
  buffer : Nat → UInt8
  progress : Progress

inductive Event where
  | arrive (segment : List UInt8)
  | setMode (nonBlocking : Bool)
  | peerCloses
  | recv
  /-- recv() fails for a reason that does not lie in the stream. -/
  | recvFails

/-- The bytes that a step stores, by their offset in the buffer, and what the call returns if
the step is its last.
-/
structure Output where
  stores : List (Nat × UInt8)
  received : Option Received

namespace State

/-- A connection that has just been accepted. -/
def initial : State := ⟨⟨[], false, false⟩, fun _ => 0, .header⟩

/-- Stores bytes from an offset on. -/
def store (s : State) (offset : Nat) (data : List UInt8) : State × List (Nat × UInt8) :=
  let stores := data.mapIdx fun index byte => (offset + index, byte)
  (
    {
      s with
      buffer := stores.foldl (fun buffer (i, byte) => Function.update buffer i byte) s.buffer
    },
    stores
  )

/-- The length that the header in the buffer announces. -/
def count (s : State) : Nat := (s.buffer 2).toNat * 256 + (s.buffer 3).toNat

/-- thePacket -/
def packet (s : State) : Packet where
  messageId := (s.buffer 0, s.buffer 1)
  dataLength := (s.buffer 2, s.buffer 3)
  dataPayload := fun index =>
    if index < reconnPayloadSize then s.buffer (reconnPacketHeaderSize + index) else 0

/-- The next call, after the memset of thePacket. -/
def nextCall (s : State) : State :=
  {
    s with
    buffer := fun index => if index < sizeofReconnPacket then 0 else s.buffer index
    progress := .header
  }

/-- What the task's loop makes of a call that has returned. -/
def returned (s : State) : Received → State
  | .closed | .failed => { s with progress := .ended }
  | .wouldBlock => s.nextCall
  | .packet p =>
      if reconnPayloadSize < p.pktLength then { s with progress := .ended } else s.nextCall

/-- The call returns after its last stores. -/
def returns (s : State) (stores : List (Nat × UInt8)) (received : Received) : State × Output :=
  (s.returned received, ⟨stores, some received⟩)

/-- The loop over the payload goes on, or is over. -/
def payloadLoop (s : State) (stores : List (Nat × UInt8)) (count loop : Nat) : State × Output :=
  if loop < count then ({ s with progress := .payload count loop }, ⟨stores, none⟩)
  else s.returns stores (.packet s.packet)

/-- The recv() of the header has returned. -/
def headerReceived (s : State) : RecvResult → State × Output
  | .closed => s.returns [] .closed
  | .again => s.returns [] .wouldBlock
  | .error => s.returns [] .failed
  | .bytes data =>
      let stored := s.store 0 data
      if data.length ≠ reconnPacketHeaderSize then stored.1.returns stored.2 .failed
      else stored.1.payloadLoop stored.2 stored.1.count 0

/-- A recv() of one byte of the payload has returned. Its result is not looked at. -/
def byteReceived (s : State) (count loop : Nat) (result : RecvResult) : State × Output :=
  let stored :=
    match result with
    | .bytes data => s.store (reconnPacketHeaderSize + loop) data
    | .closed | .again | .error => (s, [])
  stored.1.payloadLoop stored.2 count (loop + 1)

/-- A recv() has returned. -/
def afterRecv (s : State) (result : RecvResult) : State × Output :=
  match s.progress with
  | .header => s.headerReceived result
  | .payload count loop => s.byteReceived count loop result
  | .ended => (s, ⟨[], none⟩)

/-- The bytes that the next recv() asks for, if there is one. -/
def recvSize (s : State) : Option Nat :=
  match s.progress with
  | .header => some reconnPacketHeaderSize
  | .payload _ _ => some 1
  | .ended => none

def step (s : State) : Event → Option (State × Output)
  | .arrive segment =>
      if s.socket.closed then none
      else
        some (
          { s with socket := { s.socket with unread := s.socket.unread ++ segment } },
          ⟨[], none⟩
        )
  | .setMode nonBlocking =>
      some ({ s with socket := { s.socket with nonBlocking } }, ⟨[], none⟩)
  | .peerCloses => some ({ s with socket := { s.socket with closed := true } }, ⟨[], none⟩)
  | .recv =>
      s.recvSize.bind fun size =>
        (s.socket.recv size).map fun (result, socket) =>
          { s with socket }.afterRecv result
  | .recvFails => s.recvSize.map fun _ => s.afterRecv .error

end State

/-- A transition of a connection. -/
abbrev Step := Transition State Event Output

/-- The bytes that a step adds to the stream. -/
def arrived : Event → List UInt8
  | .arrive segment => segment
  | .setMode _ | .peerCloses | .recv | .recvFails => []

/-- The results that tell the task's loop of a packet or of a read error. -/
def reported : Received → Bool
  | .packet _ | .failed => true
  | .closed | .wouldBlock => false

/-- What a step hands to the task's loop. -/
def handedBy (output : Output) : List Received := output.received.toList.filter reported

theorem handedBy_none {output : Output} (none : output.received = none)
    : handedBy output = [] := by
  rw [handedBy, none]
  rfl

theorem handedBy_packet {output : Output} {p : Packet}
    (packet : output.received = some (.packet p))
    : handedBy output = [.packet p] := by
  rw [handedBy, packet]
  rfl

/-- The byte stream of a connection. -/
def delivered (transitions : List Step) : List UInt8 :=
  transitions.flatMap fun t => arrived t.event

/-- The packets and read errors that the calls hand to the task's loop. -/
def handed (transitions : List Step) : List Received :=
  transitions.flatMap fun t => handedBy t.output

/-- No recv() fails, the recv() of a header finds it complete or finds nothing, and that of
a byte of the payload finds one.
-/
def Served (s : State) (event : Event) : Prop :=
  match event, s.progress with
  | .recv, .header => s.socket.unread = [] ∨ reconnPacketHeaderSize ≤ s.socket.unread.length
  | .recv, .payload _ _ => s.socket.unread ≠ []
  | .recvFails, _ => False
  | _, _ => True

instance decidableServed : (s : State) → (event : Event) → Decidable (Served s event)
  | ⟨_, _, .header⟩, .recv => inferInstanceAs (Decidable (_ ∨ _))
  | ⟨_, _, .payload _ _⟩, .recv => inferInstanceAs (Decidable (_ ≠ _))
  | ⟨_, _, .ended⟩, .recv => .isTrue trivial
  | _, .recvFails => .isFalse id
  | _, .arrive _ => .isTrue trivial
  | _, .setMode _ => .isTrue trivial
  | _, .peerCloses => .isTrue trivial

/-- The memory of thePacket holds these bytes, and zeros after them. -/
def Filled (s : State) (bytes : List UInt8) : Prop :=
  ∀ index < sizeofReconnPacket, s.buffer index = (bytes[index]?).getD 0

section Buffer

variable {s : State} {bytes : List UInt8}

/-- Stored bytes take the place of what the buffer held, by induction on the bytes. -/
theorem store_buffer (s : State) (offset : Nat) (data : List UInt8) (index : Nat)
    : (s.store offset data).1.buffer index
      = if index < offset then s.buffer index
        else (data[index - offset]?).getD (s.buffer index) := by
  induction data generalizing s offset with
  | nil => simp [State.store]
  | cons byte rest ih =>
      have first := ih { s with buffer := Function.update s.buffer offset byte } (offset + 1)
      simp only [State.store, List.mapIdx_cons, List.foldl_cons] at first ⊢
      have shift : (fun (i : Nat) (b : UInt8) => (offset + (i + 1), b))
          = fun i b => (offset + 1 + i, b) := by
        funext i b
        rw [Nat.add_assoc, Nat.add_comm 1 i]
      rw [shift, Nat.add_zero, first]
      rcases Nat.lt_trichotomy index offset with before | rfl | after
      · rw [if_pos (by omega), if_pos before, Function.update_of_ne (by omega)]
      · simp
      · obtain ⟨k, rfl⟩ := Nat.exists_eq_add_of_lt after
        have shifted : offset + k + 1 - offset = k + 1 := by omega
        have shifted' : offset + k + 1 - (offset + 1) = k := by omega
        rw [if_neg (by omega), if_neg (by omega), shifted, shifted', List.getElem?_cons_succ,
          Function.update_of_ne (by omega)]

/-- Storing bytes after those that the packet holds appends them. -/
theorem Filled.store (filled : Filled s bytes) (data : List UInt8)
    : Filled (s.store bytes.length data).1 (bytes ++ data) := by
  intro index inside
  rw [store_buffer, filled index inside]
  split_ifs with before
  · rw [List.getElem?_append_left before]
  · rw [List.getElem?_append_right (by omega),
      List.getElem?_eq_none (l := bytes) (by omega)]
    rfl

/-- The next call begins with an empty packet. -/
theorem nextCall_filled (s : State) : Filled s.nextCall [] := by
  intro index inside
  simp [State.nextCall, inside]

/-- The header that the buffer holds announces its packet's length. -/
theorem Filled.count {p : Packet} (filled : Filled s (p.header ++ bytes))
    : s.count = p.pktLength := by
  have high := filled 2 (by decide)
  have low := filled 3 (by decide)
  simp only [Packet.header, List.cons_append, List.getElem?_cons_succ,
    List.getElem?_cons_zero, Option.getD_some] at high low
  rw [State.count, high, low, Packet.pktLength]

/-- A buffer that holds a packet's bytes is read as that packet. -/
theorem Filled.packet {p : Packet} (filled : Filled s p.wire) (wellFormed : p.WellFormed)
    : s.packet = p := by
  have header (index : Nat) (inside : index < reconnPacketHeaderSize)
      : s.buffer index = (p.header[index]?).getD 0 := by
    rw [filled index (Nat.lt_of_lt_of_le inside (by decide)), Packet.wire,
      List.getElem?_append_left inside]
  have payload : s.packet.dataPayload = p.dataPayload := by
    funext index
    simp only [State.packet]
    split_ifs with inside
    · have after : p.header.length ≤ reconnPacketHeaderSize + index := Nat.le_add_right ..
      have place : reconnPacketHeaderSize + index - p.header.length = index :=
        Nat.add_sub_cancel_left ..
      rw [filled _ (Nat.add_lt_add_left inside _), Packet.wire,
        List.getElem?_append_right after, place, Packet.payload]
      by_cases sent : index < p.pktLength
      · simp [sent]
      · simp [sent, wellFormed.rest index (Nat.le_of_not_lt sent)]
    · exact (wellFormed.rest index
        (Nat.le_trans wellFormed.fits (Nat.le_of_not_lt inside))).symm
  have id : s.packet.messageId = p.messageId :=
    Prod.ext (header 0 (by decide)) (header 1 (by decide))
  have length : s.packet.dataLength = p.dataLength :=
    Prod.ext (header 2 (by decide)) (header 3 (by decide))
  calc s.packet
    _ = ⟨s.packet.messageId, s.packet.dataLength, s.packet.dataPayload⟩ := rfl
    _ = p := by rw [id, length, payload]

end Buffer

section Kernel

variable {s : State} {event : Event} {result : State × Output}

/-- Only a non-blocking socket makes a call return without data. -/
theorem step_wouldBlock (taken : s.step event = some result)
    (returned : result.2.received = some .wouldBlock)
    : s.socket.nonBlocking = true := by
  have looped {s : State} {stores : List (Nat × UInt8)} {count loop : Nat}
      (returned : (s.payloadLoop stores count loop).2.received = some .wouldBlock)
      : False := by
    unfold State.payloadLoop at returned
    split_ifs at returned
    cases returned
  cases event with
  | arrive segment =>
      simp only [State.step] at taken
      split_ifs at taken
      exact nomatch Option.some.inj taken ▸ returned
  | setMode _ | peerCloses => exact nomatch Option.some.inj taken ▸ returned
  | recv =>
      simp only [State.step, Option.bind_eq_some_iff, Option.map_eq_some_iff] at taken
      obtain ⟨size, -, ⟨received, socket⟩, recv, rfl⟩ := taken
      cases here : s.progress with
      | header =>
          simp only [State.afterRecv, here] at returned
          cases received with
          | bytes data =>
              simp only [State.headerReceived] at returned
              split_ifs at returned
              · cases returned
              · exact (looped returned).elim
          | closed | error => cases returned
          | again =>
              unfold Socket.recv at recv
              split_ifs at recv with unread closed nonBlocking
              · cases recv
              · cases recv
              · exact nonBlocking
      | payload count loop =>
          simp only [State.afterRecv, here] at returned
          exact (looped returned).elim
      | ended => simp [State.afterRecv, here] at returned
  | recvFails =>
      simp only [State.step, Option.map_eq_some_iff] at taken
      obtain ⟨size, -, rfl⟩ := taken
      cases here : s.progress with
      | header => simp [State.afterRecv, here, State.headerReceived, State.returns] at returned
      | payload count loop =>
          simp only [State.afterRecv, here] at returned
          exact (looped returned).elim
      | ended => simp [State.afterRecv, here] at returned

/-- What a call returns on an open socket, the program's machine lets the task receive. -/
theorem canReceive_of_step {program : Client.State} {c : Context} (fd : 0 ≤ c.socketFd)
    (mode : program.sockets c.socketFd
      = if s.socket.nonBlocking then .nonBlocking else .blocking)
    (taken : s.step event = some result) {received : Received}
    (returned : result.2.received = some received)
    : program.canReceive c received = true := by
  have opened : program.sockets c.socketFd ≠ .closed := by
    rw [mode]
    split_ifs <;> nofun
  cases received with
  | failed => rfl
  | closed | packet p => simp [Client.State.canReceive, fd, opened]
  | wouldBlock =>
      rw [step_wouldBlock taken returned, if_pos rfl] at mode
      simp [Client.State.canReceive, fd, mode]

end Kernel

end Receive

end Reconn.Client
