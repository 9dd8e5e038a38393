import Reconn.Iphoned.Packets

/-! What the packet parser makes of a frame: any start byte begins a new packet, the two
length bytes allocate it, and its body is stored until it is complete.
-/

namespace Reconn.Iphoned

open ByteStuffing

/-- The length that the two length bytes announce. -/
def announced (high low : UInt8) : Nat := high.toNat * 256 + low.toNat

/-- A packet as it is stuffed into a frame: its length, high byte first, and its body. -/
def record (body : List UInt8) : List UInt8 :=
  UInt8.ofNat (body.length / 256) :: UInt8.ofNat (body.length % 256) :: body

/-- What the escape decoder makes of a packet's frame. -/
def frameSymbols (body : List UInt8) : List (Symbol UInt8) := .mark :: (record body).map .data

/-- The parser is idle: it drops every byte until the next start byte. -/
def State.Idle (s : State) : Prop := s.receiver.packetpos = 0 ∧ s.isEscaped = false

theorem announced_split {msglen : Nat} (fits : msglen ≤ 65535)
    : announced (UInt8.ofNat (msglen / 256)) (UInt8.ofNat (msglen % 256)) = msglen := by
  have high : msglen / 256 < 256 := by omega
  have low : msglen % 256 < 256 := by omega
  simp only [announced, UInt8.toNat_ofNat']
  omega

/-- A frame on the wire is the start byte and the stuffed record of its packet. -/
theorem sockMsg_eq (cmdid : UInt8) (outbuf : List UInt8)
    : sockMsg cmdid outbuf = code.mark :: code.stuff (record (cmdid :: outbuf)) := by
  simp [sockMsg, record, Code.stuff, code]

theorem processmsgCalls_append (first second : List Event)
    : processmsgCalls (first ++ second) = processmsgCalls first ++ processmsgCalls second :=
  List.filterMap_append ..

namespace Receiver

/-- The parser holds a packet of `len` bytes whose first bytes are `got`, and needs more. -/
structure Filling (s : Receiver) (len : Nat) (got : List UInt8) : Prop where
  packetpos : s.packetpos = got.length + 3
  msglen : s.msglen = len
  room : got.length < len
  held : ∃ packet : Packet,
    s.currpkt = some packet ∧ packet.size = len ∧ packet.take got.length = got

/-- Writing the next cell extends what the packet's first cells hold. -/
theorem take_update {packet : Packet} {got : List UInt8}
    (holds : packet.take got.length = got) (value : UInt8)
    : Packet.take { packet with bytes := Function.update packet.bytes got.length value }
        (got.length + 1)
      = got ++ [value] := by
  have before
      : (List.range got.length).map (Function.update packet.bytes got.length value)
        = packet.take got.length := by
    apply List.map_congr_left
    intro index member
    have below : index < got.length := List.mem_range.mp member
    exact Function.update_of_ne (by omega) _ _
  rw [holds] at before
  simp [Packet.take, List.range_succ, before]

/-- A start byte begins a new packet whatever the parser was doing. -/
theorem processSymbol_mark (heap : Nat → Nat → UInt8) (s : Receiver)
    : s.processSymbol heap .mark = ({ s with packetpos := 1, msglen := 0 }, []) := by
  simp [processSymbol, processDecoded, advance, complete]

/-- Between packets every byte but a start byte is dropped. -/
theorem processSymbol_idle (heap : Nat → Nat → UInt8) {s : Receiver} (idle : s.packetpos = 0)
    (value : UInt8)
    : s.processSymbol heap (.data value) = (s, []) := by
  simp [processSymbol, processDecoded, advance, complete, idle]

theorem processSymbol_high (heap : Nat → Nat → UInt8) {s : Receiver} (marked : s.packetpos = 1)
    (high : UInt8)
    : s.processSymbol heap (.data high)
      = ({ s with msglen := s.msglen + high.toNat * 256, packetpos := 2 }, []) := by
  simp [processSymbol, processDecoded, advance, complete, marked]

/-- A nonzero length allocates the packet and starts filling it. -/
theorem processSymbol_low (heap : Nat → Nat → UInt8) {s : Receiver} (high low : UInt8)
    (packetpos : s.packetpos = 2) (msglen : s.msglen = high.toNat * 256)
    (positive : 0 < announced high low)
    : (s.processSymbol heap (.data low)).2 = []
      ∧ Filling (s.processSymbol heap (.data low)).1 (announced high low) [] := by
  let started : Receiver := {
    s with
    msglen := announced high low
    packetpos := 3
    currpkt := some ⟨announced high low, heap s.mallocs⟩
    mallocs := s.mallocs + 1
  }
  have advanced : s.advance heap low false = (started, []) := by
    simp [advance, packetpos, msglen, started, announced]
  have incomplete : started.complete = (started, []) := by
    have short : ¬ (2 < started.packetpos ∧ started.msglen + 3 ≤ started.packetpos) := by
      simp only [started]
      omega
    simp only [complete, if_neg short]
  simp only [processSymbol, processDecoded, advanced, incomplete]
  exact ⟨rfl, rfl, rfl, positive, _, rfl, rfl, rfl⟩

/-- processmsg reads the command of every packet. -/
theorem processmsg_reads_command (s : Receiver) (packet : Packet) (len : Nat)
    : Event.read 0 packet.size ∈ (s.processmsg packet len).2 := by
  simp only [processmsg]
  split_ifs <;> simp

/-- A zero length completes the packet at once, and processmsg reads its absent command. -/
theorem processSymbol_low_zero (heap : Nat → Nat → UInt8) {s : Receiver} (high low : UInt8)
    (packetpos : s.packetpos = 2) (msglen : s.msglen = high.toNat * 256)
    (zero : announced high low = 0)
    : Event.read 0 0 ∈ (s.processSymbol heap (.data low)).2
      ∧ (s.processSymbol heap (.data low)).1.packetpos = 0 := by
  have nothing : high.toNat * 256 + low.toNat = 0 := zero
  constructor
  · simp only [processSymbol, processDecoded, advance, complete, packetpos, msglen, nothing]
    exact processmsg_reads_command _ ⟨0, heap s.mallocs⟩ 0
  · simp [processSymbol, processDecoded, advance, complete, packetpos, msglen, nothing]

/-- While a packet is filled, each byte is stored in the next cell, and the last one hands
the packet to processmsg. Witness: the body branch of the cascade, with the completion
test on the advanced position.
-/
theorem Filling.processSymbol (heap : Nat → Nat → UInt8) {s : Receiver} {len : Nat}
    {got : List UInt8} (filling : Filling s len got) (value : UInt8)
    : if got.length + 1 < len then
        (s.processSymbol heap (.data value)).2 = [.write got.length len]
        ∧ Filling (s.processSymbol heap (.data value)).1 len (got ++ [value])
      else
        ∃ (stored : Receiver) (packet : Packet),
          packet.size = len ∧ packet.take len = got ++ [value]
          ∧ (s.processSymbol heap (.data value)).2
            = .write got.length len :: (stored.processmsg packet len).2
          ∧ (s.processSymbol heap (.data value)).1.packetpos = 0 := by
  obtain ⟨packetpos, msglen, room, packet, held, size, holds⟩ := filling
  let filled : Packet :=
    { packet with bytes := Function.update packet.bytes got.length value }
  let stored : Receiver := { s with currpkt := some filled, packetpos := got.length + 4 }
  have advanced : s.advance heap value false = (stored, [.write got.length len]) := by
    have body : got.length + 3 ≤ len + 3 := by omega
    simp [advance, store, packetpos, msglen, held, size, stored, filled, body]
  have taken : filled.take (got.length + 1) = got ++ [value] := take_update holds value
  split_ifs with more
  · have incomplete : stored.complete = (stored, []) := by
      have short : ¬ (2 < stored.packetpos ∧ stored.msglen + 3 ≤ stored.packetpos) := by
        simp only [stored, msglen]
        omega
      simp only [complete, if_neg short]
    simp only [Receiver.processSymbol, processDecoded, advanced, incomplete]
    refine ⟨rfl, ?_⟩
    exact ⟨by simp [stored], msglen, by simpa using more, filled, rfl, size, by simpa using taken⟩
  · have last : len = got.length + 1 := by omega
    have full : 2 < stored.packetpos ∧ stored.msglen + 3 ≤ stored.packetpos := by
      simp only [stored, msglen]
      omega
    simp only [Receiver.processSymbol, processDecoded, advanced, complete, if_pos full]
    exact ⟨stored, filled, size, last ▸ taken, by simp [stored, msglen], trivial⟩

/-- processmsg is one call, whatever its handlers do. -/
theorem processmsgCalls_processmsg (s : Receiver) (packet : Packet) (len : Nat)
    : processmsgCalls (s.processmsg packet len).2 = [(packet.take len, len)] := by
  simp only [processmsg, processMsgReportIphonePresence, processMsgReportData]
  split_ifs <;> simp [processmsgCalls]

/-- The rest of a packet's body hands the whole body over once and leaves the parser between
packets. Witness: induction on the rest, storing one byte at a time.
-/
theorem Filling.processSymbols (heap : Nat → Nat → UInt8) {s : Receiver} {len : Nat}
    {got : List UInt8} (filling : Filling s len got) (rest : List UInt8)
    (whole : got.length + rest.length = len)
    : processmsgCalls (s.processSymbols heap (rest.map .data)).2 = [(got ++ rest, len)]
      ∧ (s.processSymbols heap (rest.map .data)).1.packetpos = 0 := by
  induction rest generalizing s got with
  | nil =>
      have room := filling.room
      simp at whole
      omega
  | cons value rest ih =>
      have split
          : s.processSymbols heap ((value :: rest).map .data)
            = (((s.processSymbol heap (.data value)).1.processSymbols heap
                  (rest.map .data)).1,
                (s.processSymbol heap (.data value)).2
                ++ ((s.processSymbol heap (.data value)).1.processSymbols heap
                    (rest.map .data)).2) := rfl
      have step := filling.processSymbol heap value
      rw [split]
      cases rest with
      | nil =>
          have last : ¬ got.length + 1 < len := by simp at whole; omega
          rw [if_neg last] at step
          obtain ⟨stored, packet, size, taken, outputs, idle⟩ := step
          refine ⟨?_, idle⟩
          have call := processmsgCalls_processmsg stored packet len
          rw [taken] at call
          simp only [List.map_nil, Receiver.processSymbols, MealyRuns.run_nil, List.append_nil,
            outputs]
          simpa [processmsgCalls] using call
      | cons next rest =>
          have more : got.length + 1 < len := by simp at whole; omega
          rw [if_pos more] at step
          obtain ⟨outputs, filling⟩ := step
          have later := ih filling (by simpa [Nat.add_assoc, Nat.add_comm] using whole)
          refine ⟨?_, later.2⟩
          rw [processmsgCalls_append, later.1, outputs]
          simp [processmsgCalls]

/-- A frame's symbols make one processmsg call from any state. Witness: the start byte and
the length bytes start a packet, and its body fills it.
-/
theorem processSymbols_frame (heap : Nat → Nat → UInt8) (s : Receiver)
    {body : List UInt8} (nonempty : body ≠ []) (fits : body.length ≤ 65535)
    : processmsgCalls (s.processSymbols heap (frameSymbols body)).2 = [(body, body.length)]
      ∧ (s.processSymbols heap (frameSymbols body)).1.packetpos = 0 := by
  have length := announced_split fits
  have positive : 0 < body.length := List.length_pos_iff.mpr nonempty
  obtain ⟨silent, filling⟩ := processSymbol_low heap
    (s := { s with packetpos := 2, msglen := (UInt8.ofNat (body.length / 256)).toNat * 256 })
    (.ofNat (body.length / 256)) (.ofNat (body.length % 256))
    rfl rfl (by rw [length]; exact positive)
  rw [length] at filling
  have filled := filling.processSymbols heap body (by simp)
  simp only [frameSymbols, record, List.map_cons, Receiver.processSymbols, MealyRuns.run_cons,
    processSymbol_mark, processSymbol_high, silent, List.nil_append, Nat.zero_add]
  simpa only [List.nil_append, Receiver.processSymbols] using filled

/-- Frames in sequence make their calls in sequence, by induction on the sequence. -/
theorem processSymbols_frames (heap : Nat → Nat → UInt8) (s : Receiver)
    (bodies : List (List UInt8))
    (wellFormed : ∀ body ∈ bodies, body ≠ [] ∧ body.length ≤ 65535)
    : processmsgCalls (s.processSymbols heap (bodies.flatMap frameSymbols)).2
        = bodies.map (fun body => (body, body.length))
      ∧ (bodies ≠ []
          → (s.processSymbols heap (bodies.flatMap frameSymbols)).1.packetpos = 0) := by
  induction bodies generalizing s with
  | nil => simp [Receiver.processSymbols, processmsgCalls]
  | cons body rest ih =>
      obtain ⟨nonempty, fits⟩ := wellFormed body (by simp)
      obtain ⟨call, idle⟩ := processSymbols_frame heap s nonempty fits
      have later := ih (s.processSymbols heap (frameSymbols body)).1
        fun other member => wellFormed other (List.mem_cons_of_mem body member)
      simp only [List.flatMap_cons, processSymbols_append]
      refine ⟨?_, fun _ => ?_⟩
      · rw [processmsgCalls_append, call, later.1]
        simp
      · cases rest with
        | nil => simpa [Receiver.processSymbols] using idle
        | cons next rest => exact later.2 (by simp)

end Receiver

/-- The frames of a list of messages, each as send_sock_msg passes it to send(). -/
def frames (iphonedFd : Int) (send : List UInt8 → Int) (messages : List (UInt8 × List UInt8))
    : List UInt8 :=
  messages.flatMap fun message =>
    (sendSockMsg iphonedFd send message.1 message.2).1.getD []

/-- What the escape decoder makes of the frames, packet by packet. -/
theorem readAll_frames {iphonedFd : Int} (connected : iphonedFd ≠ -1)
    (send : List UInt8 → Int) (messages : List (UInt8 × List UInt8))
    : code.readAll false (frames iphonedFd send messages)
      = (false, (messages.map fun message => message.1 :: message.2).flatMap frameSymbols) := by
  have stuffed
      : frames iphonedFd send messages
        = (messages.map fun message => record (message.1 :: message.2)).flatMap
            fun values => code.mark :: code.stuff values := by
    simp [frames, sendSockMsg, connected, sockMsg_eq, List.flatMap_map]
  rw [stuffed, code.readAll_records]
  simp [frameSymbols, List.flatMap_map]

/-- Frames fed in any chunks to any parser state outside an escape make one processmsg call
per message, in order, and leave the parser idle; without messages nothing happens.
Witness: decoding the frames gives back their records, and each record fills one packet.
-/
theorem frames_roundTrip (heap : Nat → Nat → UInt8) (s : State) (iphonedFd : Int)
    (send : List UInt8 → Int) (messages : List (UInt8 × List UInt8))
    (chunks : List (List UInt8)) (unescaped : s.isEscaped = false)
    (connected : iphonedFd ≠ -1)
    (fits : ∀ message ∈ messages, message.2.length + 1 ≤ 65535)
    (cut : chunks.flatten = frames iphonedFd send messages)
    : processmsgCalls (processChunks heap s chunks).2
        = messages.map (fun message => (message.1 :: message.2, message.2.length + 1))
      ∧ (messages ≠ [] → (processChunks heap s chunks).1.Idle)
      ∧ (messages = [] → processChunks heap s chunks = (s, [])) := by
  let bodies := messages.map fun message => message.1 :: message.2
  have wellFormed : ∀ body ∈ bodies, body ≠ [] ∧ body.length ≤ 65535 := by
    intro body member
    obtain ⟨message, sent, rfl⟩ := List.mem_map.mp member
    exact ⟨by simp, fits message sent⟩
  have parsed := s.receiver.processSymbols_frames heap bodies wellFormed
  rw [processChunks_eq, processrx_eq, cut, unescaped, readAll_frames connected send messages]
  refine ⟨?_, ?_, ?_⟩
  · rw [parsed.1]
    simp [bodies]
  · intro some
    exact ⟨parsed.2 (by simpa [bodies] using some), rfl⟩
  · rintro rfl
    obtain ⟨isEscaped, receiver⟩ := s
    cases unescaped
    rfl

/-- Two messages with reserved bytes, cut inside an escape. -/
theorem frames_roundTrip_split
    : let messages : List (UInt8 × List UInt8) := [(0x02, [0x61, 0x00]), (0x88, [0x01])]
      let chunks : List (List UInt8) :=
        [[0x89, 0x00, 0x03, 0x02, 0x61], [0x61, 0x00, 0x89], [0x00, 0x02, 0x88, 0x01]]
      processmsgCalls (processChunks (fun _ _ => 0) (.initial true true) chunks).2
        = [([0x02, 0x61, 0x00], 3), ([0x88, 0x01], 2)]
      ∧ (messages ≠ [] → (processChunks (fun _ _ => 0) (.initial true true) chunks).1.Idle) := by
  have round := frames_roundTrip (fun _ _ => 0) (.initial true true) 3 (fun _ => 0)
    [(0x02, [0x61, 0x00]), (0x88, [0x01])]
    [[0x89, 0x00, 0x03, 0x02, 0x61], [0x61, 0x00, 0x89], [0x00, 0x02, 0x88, 0x01]]
    rfl (by decide) (by simp) (by decide)
  exact ⟨round.1, round.2.1⟩

/-- No messages are no bytes, and a parser that waits for a length stays where it is. -/
theorem noFrames_notIdle
    : let s := (processChunks (fun _ _ => 0) (.initial true true) [[0x89]]).1
      s.isEscaped = false ∧ ([] : List (List UInt8)).flatten = frames 3 (fun _ => 0) []
      ∧ ¬ (processChunks (fun _ _ => 0) s []).1.Idle := by
  refine ⟨by decide, rfl, ?_⟩
  intro idle
  exact absurd idle.1 (by decide)

end Reconn.Iphoned
