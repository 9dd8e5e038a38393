import Reconn.Analyzer.SendPacket

/-! The commands of the spectrum analyzer. Each is a packet that is sent, a packet that is
received into the caller's sa_rx, and a look at what sa_rx then starts with, which should be
the acknowledgement of the command.
-/

namespace Reconn.Analyzer

def apiAck : UInt16 := 0x0001

def aovErrUnexpectedCmd : Int := 27
def aovErrIncorrectAck : Int := 28

/-- PACK2, and PACK_API_CMD -/
def pack2 (value : UInt16) : List UInt8 := [(value >>> 8).toUInt8, value.toUInt8]

/-- PACK4 -/
def pack4 (value : Nat) : List UInt8 :=
  [
    UInt8.ofNat (value >>> 24), UInt8.ofNat (value >>> 16), UInt8.ofNat (value >>> 8),
    UInt8.ofNat value
  ]

/-- UNPACK2, and UNPACK_API_CMD -/
def unpack2 (data : Nat → UInt8) (j : Nat) : UInt16 := word (data j) (data (j + 1))

/-- UNPACK4, as the bits of a word -/
def unpack4 (data : Nat → UInt8) (j : Nat) : BitVec 32 :=
  ((data j).toBitVec ++ (data (j + 1)).toBitVec ++ (data (j + 2)).toBitVec
    ++ (data (j + 3)).toBitVec)

/-- AVCOM_INT_ReturnACK: its result, and *j afterwards. -/
def avcomIntReturnAck (cmd : UInt16) (data : Nat → UInt8) (j : Nat) : Int × Nat :=
  if unpack2 data j ≠ apiAck then (aovErrUnexpectedCmd, j + 2)
  else if unpack2 data (j + 2) ≠ cmd then (aovErrIncorrectAck, j + 4)
  else ((unpack4 data (j + 4)).toInt, j + 8)

/-- What a packet and its answer meet: the address that malloc() gives, as an int, if it gives
one; whether the port is open; how many bytes write() takes, if it takes any; the header that
AVCOM_INT_RecvPacket begins with, and what its reads meet.
-/
structure ExchangeOutcomes where
  address : Option Int
  portOpen : Bool
  written : Option Nat
  avcomHeader : Nat → UInt8
  headerOutcomes : List Outcome
  payloadOutcomes : List Outcome

/-- AVCOM_INT_SendPacket with AVCOM_INT_SendData and SpectrumAnalyzerWrite: its result, and
what goes over the line. What write() returns is not looked at, and an address in the upper
half of the memory is taken for an error. The error of a malloc() that fails is taken for an
address, which is written from and then freed; none stands for that.
-/
def avcomIntSendPacket (env : ExchangeOutcomes) (data : List UInt8)
    : Option (Int × List UInt8) :=
  match env.address with
  | none => if env.portOpen = false then some (aovErrSendFailed, []) else none
  | some dataOut =>
      if dataOut < 0 then some (dataOut, [])
      else if env.portOpen = false then some (aovErrSendFailed, [])
      else some (aovNoError, (avcomIntAssemblePacket data).take (env.written.getD 0))

/-- A command that was sent, what went over the line, and what was received. -/
structure Turn where
  sent : List UInt8
  line : List UInt8
  received : PacketResult

/-- The caller's sa_rx, and the turns so far. -/
structure Session where
  saRx : Nat → UInt8
  turns : List Turn

namespace Session

/-- sa_rx once a packet was received into it. -/
def receive (s : Session) (received : PacketResult) : Nat → UInt8 :=
  match received.payload with
  | some reading => reading.buffer
  | none => s.saRx

/-- AVCOM_INT_SendPacket, AVCOM_INT_RecvPacket and AVCOM_INT_ReturnACK, as every command has
them, with a sa_rx of `room` bytes; none also if the answer is stored beyond its array.
-/
def exchange (room : Nat) (env : ExchangeOutcomes) (cmd : UInt16) (saTx : List UInt8) (s : Session)
    : Option (Int × Session) :=
  (avcomIntSendPacket env saTx).bind fun sent =>
    if sent.1 ≠ aovNoError then some (sent.1, s)
    else
      (avcomIntRecvPacket env.avcomHeader s.saRx env.headerOutcomes env.payloadOutcomes).bind
        fun received =>
          let next : Session := {
            saRx := s.receive received
            turns := s.turns ++ [⟨saTx, sent.2, received⟩]
          }
          if received.StaysIn room then
            if received.iResult ≠ aovNoError then some (received.iResult, next)
            else some ((avcomIntReturnAck cmd next.saRx 0).1, next)
          else none

end Session

/-- The acknowledgement of a command. -/
def ack (cmd : UInt16) : List UInt8 := pack2 apiAck ++ pack2 cmd ++ pack4 0

-----------------------------------------------------------------------------------------
-- Packed values
-----------------------------------------------------------------------------------------

theorem word_inj {high low high' low' : UInt8}
    : word high low = word high' low' ↔ high = high' ∧ low = low' := by
  refine ⟨fun same => ?_, fun ⟨high, low⟩ => by rw [high, low]⟩
  have values := congrArg UInt16.toNat same
  simp only [word, UInt16.toNat_ofNat'] at values
  have := high.toNat_lt
  have := low.toNat_lt
  have := high'.toNat_lt
  have := low'.toNat_lt
  rw [← UInt8.toNat_inj, ← UInt8.toNat_inj]
  omega

/-- A packed word is unpacked as itself, and nothing else is. -/
theorem unpack2_eq_iff {data : Nat → UInt8} {j : Nat} {value : UInt16}
    : unpack2 data j = value ↔ [data j, data (j + 1)] = pack2 value := by
  rw [unpack2, pack2]
  nth_rewrite 1 [← word_bytes value]
  rw [word_inj]
  simp

theorem toNat_unpack4 (data : Nat → UInt8) (j : Nat)
    : (unpack4 data j).toNat
      = (data j).toNat * 2 ^ 24 + (data (j + 1)).toNat * 2 ^ 16 + (data (j + 2)).toNat * 2 ^ 8
        + (data (j + 3)).toNat := by
  have joined {n : Nat} (high : BitVec n) (low : UInt8)
      : (high ++ low.toBitVec).toNat = high.toNat * 2 ^ 8 + low.toNat := by
    rw [BitVec.toNat_append, UInt8.toNat_toBitVec, ← Nat.shiftLeft_add_eq_or_of_lt low.toNat_lt,
      Nat.shiftLeft_eq]
  rw [unpack4, joined, joined, joined, UInt8.toNat_toBitVec]
  ring

/-- A packed number is unpacked as itself. -/
theorem unpack4_packed {data : Nat → UInt8} {j value : Nat} (fits : value < 2 ^ 32)
    (packed : [data j, data (j + 1), data (j + 2), data (j + 3)] = pack4 value)
    : (unpack4 data j).toNat = value := by
  simp only [pack4, List.cons.injEq, and_true] at packed
  obtain ⟨first, second, third, fourth⟩ := packed
  rw [toNat_unpack4, first, second, third, fourth]
  simp [Nat.shiftRight_eq_div_pow]
  omega

/-- No error is acknowledged by an acknowledgement, and by nothing else. -/
theorem returnAck_eq_noError_iff {cmd : UInt16} {data : Nat → UInt8}
    : (avcomIntReturnAck cmd data 0).1 = aovNoError ↔ firstBytes data 8 = ack cmd := by
  have parts : firstBytes data 8 = ack cmd
      ↔ [data 0, data 1] = pack2 apiAck ∧ [data 2, data 3] = pack2 cmd
        ∧ [data 4, data 5, data 6, data 7] = pack4 0 := by
    have eight : firstBytes data 8
        = [data 0, data 1, data 2, data 3, data 4, data 5, data 6, data 7] :=
      rfl
    rw [eight, ack]
    simp [pack2, pack4, and_assoc]
  have zero : (unpack4 data 4).toInt = 0
      ↔ [data 4, data 5, data 6, data 7] = pack4 0 := by
    rw [← BitVec.toInt_zero (w := 32), BitVec.toInt_inj, ← BitVec.toNat_inj, toNat_unpack4]
    simp [pack4, ← UInt8.toNat_inj]
    omega
  have acked : [data 0, data 1] = pack2 apiAck ↔ unpack2 data 0 = apiAck := unpack2_eq_iff.symm
  have named : [data 2, data 3] = pack2 cmd ↔ unpack2 data 2 = cmd := unpack2_eq_iff.symm
  rw [parts, acked, named, ← zero, avcomIntReturnAck]
  split_ifs with other unnamed
  · exact iff_of_false (by decide) fun ⟨same, _⟩ => other same
  · exact iff_of_false (by decide) fun ⟨_, same, _⟩ => unnamed same
  · exact ⟨fun done => ⟨not_not.mp other, not_not.mp unnamed, done⟩, fun acked => acked.2.2⟩

-----------------------------------------------------------------------------------------
-- When a command is acknowledged
-----------------------------------------------------------------------------------------

/-- The packet was received without an error, and what then started sa_rx acknowledged the
command.
-/
def Turn.Acked (cmd : UInt16) (turn : Turn) : Prop :=
  turn.received.iResult = aovNoError
    ∧ ∃ reading, turn.received.payload = some reading ∧ firstBytes reading.buffer 8 = ack cmd

/-- AVCOM_INT_SendPacket succeeds. -/
def ExchangeOutcomes.Sends (env : ExchangeOutcomes) : Prop :=
  (∃ address ∈ env.address, 0 ≤ address) ∧ env.portOpen = true

theorem sendPacket_cases {env : ExchangeOutcomes} {data : List UInt8} {sent : Int × List UInt8}
    (returned : avcomIntSendPacket env data = some sent)
    : (env.Sends
        ∧ sent = (aovNoError, (avcomIntAssemblePacket data).take (env.written.getD 0)))
      ∨ (¬ env.Sends ∧ sent.1 ≠ aovNoError) := by
  rw [avcomIntSendPacket] at returned
  cases allocated : env.address with
  | none =>
      rw [allocated] at returned
      obtain ⟨closed, same⟩ := Option.ite_none_right_eq_some.mp returned
      obtain rfl := Option.some.inj same
      exact .inr ⟨fun sends => absurd sends.2 (by simp [closed]), by decide⟩
  | some dataOut =>
      rw [allocated] at returned
      dsimp only at returned
      split_ifs at returned with high closed
      · obtain rfl := Option.some.inj returned
        refine .inr ⟨?_, high.ne⟩
        rintro ⟨⟨address, here, low⟩, -⟩
        obtain rfl := Option.some.inj (allocated.symm.trans here)
        exact absurd low (not_le.mpr high)
      · obtain rfl := Option.some.inj returned
        exact .inr ⟨fun sends => absurd sends.2 (by simp [closed]), by decide⟩
      · obtain rfl := Option.some.inj returned
        exact .inl ⟨⟨⟨dataOut, allocated, not_lt.mp high⟩, by simpa using closed⟩, rfl⟩

theorem ExchangeOutcomes.Sends.sendPacket {env : ExchangeOutcomes} (sends : env.Sends)
    (data : List UInt8)
    : avcomIntSendPacket env data
      = some (aovNoError, (avcomIntAssemblePacket data).take (env.written.getD 0)) := by
  obtain ⟨⟨address, allocated, low⟩, opened⟩ := sends
  rw [avcomIntSendPacket, allocated]
  dsimp only
  rw [if_neg (not_lt.mpr low), if_neg (by simp [opened])]

/-- A packet that was received without an error has left its payload in the buffer. -/
theorem payload_of_noError {avcomHeader data : Nat → UInt8}
    {headerOutcomes payloadOutcomes : List Outcome} {result : PacketResult}
    (returned : avcomIntRecvPacket avcomHeader data headerOutcomes payloadOutcomes = some result)
    (noError : result.iResult = aovNoError)
    : ∃ reading, result.payload = some reading := by
  rcases recvPacket_header returned with ⟨-, -, error⟩ | ⟨_, _, reading, -, -, -, paid, -⟩
  · exact absurd noError error
  · exact ⟨reading, paid⟩

/-- The first bytes of a buffer in which some bytes were stored: as many of these as there
are, and then what was there before.
-/
theorem firstBytes_store_over (buffer : Nat → UInt8) (bytes : List UInt8) (length : Nat)
    : firstBytes (store buffer 0 bytes) length
      = bytes.take length ++ (firstBytes buffer length).drop bytes.length := by
  refine List.ext_getElem? fun index => ?_
  rcases Nat.lt_or_ge index bytes.length with stored | behind
  · rcases Nat.lt_or_ge index length with inside | outside
    · rw [List.getElem?_append_left (by simp [stored, inside]), List.getElem?_take_of_lt inside,
        getElem?_store buffer stored]
      simp [firstBytes, inside]
    · rw [List.getElem?_eq_none (by simpa [firstBytes] using outside),
        List.getElem?_eq_none (by simp [firstBytes]; omega)]
  · rcases Nat.lt_or_ge index length with inside | outside
    · have whole : bytes.take length = bytes := List.take_of_length_le (by omega)
      rw [whole, List.getElem?_append_right behind, List.getElem?_drop, Nat.add_sub_cancel' behind]
      simp [firstBytes, store, inside, List.getElem?_eq_none behind]
    · rw [List.getElem?_eq_none (by simpa [firstBytes] using outside),
        List.getElem?_eq_none (by simp [firstBytes]; omega)]

namespace Session

/-- What an exchange does: nothing if the packet is not sent; otherwise it adds a turn, and it
succeeds exactly if that turn acknowledges the command.
-/
theorem exchange_cases {room : Nat} {env : ExchangeOutcomes} {cmd : UInt16} {saTx : List UInt8}
    {s final : Session} {iResult : Int}
    (returned : s.exchange room env cmd saTx = some (iResult, final))
    : (¬ env.Sends ∧ iResult ≠ aovNoError ∧ final = s)
      ∨ (env.Sends ∧ ∃ received,
        avcomIntRecvPacket env.avcomHeader s.saRx env.headerOutcomes env.payloadOutcomes
            = some received
          ∧ received.StaysIn room ∧ final.saRx = s.receive received
          ∧ ∃ turn : Turn,
            final.turns = s.turns ++ [turn] ∧ turn.sent = saTx
              ∧ turn.line = (avcomIntAssemblePacket saTx).take (env.written.getD 0)
              ∧ turn.received = received ∧ (iResult = aovNoError ↔ turn.Acked cmd)) := by
  obtain ⟨sent, sending, returned⟩ := Option.bind_eq_some_iff.mp returned
  rcases sendPacket_cases sending with ⟨sends, rfl⟩ | ⟨unsent, error⟩
  · right
    dsimp only at returned
    rw [if_neg (not_not.mpr rfl)] at returned
    obtain ⟨received, got, returned⟩ := Option.bind_eq_some_iff.mp returned
    obtain ⟨inside, returned⟩ := Option.ite_none_right_eq_some.mp returned
    refine ⟨sends, received, got, inside, ?_⟩
    split_ifs at returned with failed
    · obtain ⟨rfl, rfl⟩ := Prod.mk.inj (Option.some.inj returned)
      exact ⟨rfl, _, rfl, rfl, rfl, rfl, iff_of_false failed fun acked => failed acked.1⟩
    · obtain ⟨rfl, rfl⟩ := Prod.mk.inj (Option.some.inj returned)
      refine ⟨rfl, _, rfl, rfl, rfl, rfl, ?_⟩
      obtain ⟨reading, paid⟩ := payload_of_noError got (not_not.mp failed)
      have buffer : s.receive received = reading.buffer := by rw [receive, paid]
      rw [returnAck_eq_noError_iff, buffer]
      constructor
      · exact fun acked => ⟨not_not.mp failed, reading, paid, acked⟩
      · rintro ⟨-, reading', paid', acked⟩
        obtain rfl := Option.some.inj (paid.symm.trans paid')
        exact acked
  · left
    rw [if_pos error] at returned
    obtain ⟨rfl, rfl⟩ := Prod.mk.inj (Option.some.inj returned)
    exact ⟨unsent, error, rfl⟩

/-- An exchange whose packet is sent returns once its answer is received, if that keeps to its
arrays.
-/
theorem exchange_returns {room : Nat} {env : ExchangeOutcomes} (sends : env.Sends) (cmd : UInt16)
    (saTx : List UInt8) (s : Session) {received : PacketResult}
    (got : avcomIntRecvPacket env.avcomHeader s.saRx env.headerOutcomes env.payloadOutcomes
      = some received)
    (inside : received.StaysIn room)
    : ∃ iResult final, s.exchange room env cmd saTx = some (iResult, final) := by
  rw [exchange, sends.sendPacket, Option.bind_some]
  dsimp only
  rw [if_neg (not_not.mpr rfl), got, Option.bind_some, if_pos inside]
  split_ifs <;> exact ⟨_, _, rfl⟩

/-- An answer that arrives whole keeps to its arrays exactly if sa_rx has room for it. -/
theorem staysIn_assembled_iff {answer : List UInt8} (nonempty : 0 < answer.length)
    (fits : answer.length < 2 ^ 16) {avcomHeader data : Nat → UInt8}
    {headerOutcomes payloadOutcomes : List Outcome} {received : PacketResult}
    (header : delivered headerOutcomes = (avcomIntAssemblePacket answer).take avcomHeaderLength)
    (payload : delivered payloadOutcomes = (avcomIntAssemblePacket answer).drop avcomHeaderLength)
    (got : avcomIntRecvPacket avcomHeader data headerOutcomes payloadOutcomes = some received)
    (room : Nat)
    : received.StaysIn room ↔ answer.length ≤ room := by
  obtain ⟨-, -, reading, paid, consumes, -⟩ :=
    recvPacket_assembled nonempty fits header payload got
  obtain ⟨size, read⟩ := recvPacket_reads got
  have whole : received.header.StaysIn avcomHeaderLength := by
    have taken := (recvData_cases read).2.1.length_le
    rw [header] at taken
    exact taken.trans (List.length_take_le ..)
  rw [PacketResult.StaysIn, paid]
  constructor
  · intro inside
    have stays := inside.2 reading rfl
    rwa [Reading.StaysIn, consumes] at stays
  · intro short
    refine ⟨whole, fun payload here => ?_⟩
    obtain rfl := Option.some.inj here
    rwa [Reading.StaysIn, consumes]

/-- When an answer that arrives whole acknowledges a command: sa_rx has room for it, and what
it has of the first eight bytes, and what sa_rx had of the others, are the acknowledgement. An
answer that is shorter is thus completed by the one before it.
-/
theorem exchange_answered_iff {room : Nat} {env : ExchangeOutcomes} {cmd : UInt16}
    {saTx answer : List UInt8} {s : Session} {received : PacketResult}
    (nonempty : 0 < answer.length) (fits : answer.length < 2 ^ 16)
    (header : delivered env.headerOutcomes
      = (avcomIntAssemblePacket answer).take avcomHeaderLength)
    (payload : delivered env.payloadOutcomes
      = (avcomIntAssemblePacket answer).drop avcomHeaderLength)
    (got : avcomIntRecvPacket env.avcomHeader s.saRx env.headerOutcomes env.payloadOutcomes
      = some received)
    : (∃ final, s.exchange room env cmd saTx = some (aovNoError, final))
      ↔ env.Sends ∧ answer.length ≤ room
        ∧ answer.take 8 ++ (firstBytes s.saRx 8).drop answer.length = ack cmd := by
  have inside := staysIn_assembled_iff nonempty fits header payload got room
  obtain ⟨noError, -, reading, paid, -, buffer⟩ :=
    recvPacket_assembled nonempty fits header payload got
  have start : firstBytes reading.buffer 8
      = answer.take 8 ++ (firstBytes s.saRx 8).drop answer.length := by
    rw [buffer, firstBytes_store_over]
  have acked {iResult : Int} {final : Session}
      (returned : s.exchange room env cmd saTx = some (iResult, final)) (sends : env.Sends)
      : iResult = aovNoError
        ↔ answer.take 8 ++ (firstBytes s.saRx 8).drop answer.length = ack cmd := by
    rcases exchange_cases returned with
      ⟨unsent, -⟩ | ⟨-, received', got', -, -, turn, -, -, -, same, acked⟩
    · exact absurd sends unsent
    · obtain rfl := Option.some.inj (got.symm.trans got')
      rw [acked, Turn.Acked, same, paid, ← start]
      simp [noError]
  constructor
  · rintro ⟨final, returned⟩
    rcases exchange_cases returned with ⟨-, error, -⟩ | ⟨sends, received', got', stays, -⟩
    · exact absurd rfl error
    · obtain rfl := Option.some.inj (got.symm.trans got')
      exact ⟨sends, inside.mp stays, (acked returned sends).mp rfl⟩
  · rintro ⟨sends, room, acks⟩
    obtain ⟨iResult, final, returned⟩ := exchange_returns sends cmd saTx s got (inside.mpr room)
    obtain rfl := (acked returned sends).mpr acks
    exact ⟨final, returned⟩

end Session

/-- An exchange with nothing in its way, and this answer. -/
def answering (answer : List UInt8) : ExchangeOutcomes where
  address := some 4096
  portOpen := true
  written := some 1024
  avcomHeader := fun _ => 0
  headerOutcomes := [.ready true (some ((avcomIntAssemblePacket answer).take avcomHeaderLength))]
  payloadOutcomes := [.ready true (some answer)]

/-- A block is acknowledged by a single byte after the one before it was. -/
theorem exchange_answered_oneByte
    : ∃ final,
      Session.exchange 1024 (answering [0]) 3 [0, 3] ⟨store (fun _ => 0) 0 (ack 3), []⟩
        = some (aovNoError, final) := by
  obtain ⟨received, got⟩ := Option.isSome_iff_exists.mp
    (show (avcomIntRecvPacket (answering [0]).avcomHeader (store (fun _ => 0) 0 (ack 3))
      (answering [0]).headerOutcomes (answering [0]).payloadOutcomes).isSome by decide +kernel)
  exact (@Session.exchange_answered_iff 1024 (answering [0]) 3 [0, 3] [0]
    ⟨store (fun _ => 0) 0 (ack 3), []⟩ received (by decide) (by decide) (by decide +kernel)
    (by decide +kernel) got).mpr
      ⟨⟨⟨4096, rfl, by decide⟩, rfl⟩, by decide, by decide +kernel⟩

end Reconn.Analyzer
