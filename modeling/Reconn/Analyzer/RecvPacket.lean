import Mathlib.Logic.Function.Iterate
import Reconn.Analyzer.SelectRead

/-! The packets of the spectrum analyzer: their checksum, their header, and how aov_common.c
receives them. A failed read is reported by a small positive error code, in the integer that
otherwise counts bytes.
-/

namespace Reconn.Analyzer

open Client (ReconnErrCode reconnSuccess reconnFailure reconnRspPayloadSize)

def polynomial : UInt16 := 0x1021
def initialRemainder : UInt16 := 0xFFFF

/-- One bit of the modulo-2 division of crcInit. -/
def divideBit (remainder : UInt16) : UInt16 :=
  if remainder &&& 0x8000 ≠ 0 then (remainder <<< 1) ^^^ polynomial else remainder <<< 1

/-- The entries that crcInit puts in the table. -/
def crcTable (dividend : UInt8) : UInt16 := divideBit^[8] (dividend.toUInt16 <<< 8)

def crcFast (message : List UInt8) : UInt16 :=
  message.foldl
    (fun remainder byte =>
      crcTable (byte ^^^ (remainder >>> 8).toUInt8) ^^^ (remainder <<< 8))
    initialRemainder

/-- CHECK_VALUE of crc.h, for the digits from 1 to 9. -/
example : crcFast [0x31, 0x32, 0x33, 0x34, 0x35, 0x36, 0x37, 0x38, 0x39] = 0x29B1 := by
  decide +kernel

def aovNoError : Int := 0
def aovErrRecvFailed : Int := 13
def aovErrSocketNotOpen : Int := 14
def aovErrHdrPacketSize : Int := 19
def aovErrHdrHeaderSize : Int := 20
def aovErrHdrProtocolId : Int := 21
def aovErrHdrChecksum : Int := 22
def aovErrHdrDataSize : Int := 23
def aovErrHdrDataChecksum : Int := 24

def avcomHeaderLength : Nat := 12
def avcomProtocolVersion : UInt16 := 0x0001

/-- struct aov_header -/
structure AovHeader where
  protocolId : UInt16
  protocolVer : UInt16
  headerLen : UInt8
  flags : UInt8
  dataLen : UInt16
  headerCrc : UInt16
  dataCrc : UInt16
  deriving DecidableEq, Repr

/-- Two bytes, the high one first. -/
def word (high low : UInt8) : UInt16 := UInt16.ofNat (high.toNat * 256 + low.toNat)

/-- The first bytes of a buffer. -/
def firstBytes (buffer : Nat → UInt8) (length : Nat) : List UInt8 :=
  (List.range length).map buffer

/-- AVCOM_INT_ProcessHeader: the header, and whether it is accepted. -/
def avcomIntProcessHeader (rawHeader : List UInt8) : AovHeader × Int :=
  let field (index : Nat) : UInt16 := word (rawHeader.getD index 0) (rawHeader.getD (index + 1) 0)
  let header : AovHeader := {
    protocolId := field 0
    protocolVer := field 2
    headerLen := rawHeader.getD 4 0
    flags := rawHeader.getD 5 0
    dataLen := field 6
    headerCrc := field 8
    dataCrc := field 10
  }
  -- The header's checksum is taken with its own field cleared.
  let tmpHeader := (rawHeader.set 8 0).set 9 0
  (
    header,
    if header.headerLen.toNat ≠ avcomHeaderLength then aovErrHdrHeaderSize
    else if crcFast tmpHeader ≠ header.headerCrc then aovErrHdrChecksum
    else if header.protocolVer ≠ avcomProtocolVersion then aovErrHdrProtocolId
    else aovNoError
  )

/-- AVCOM_INT_RecvData, on what the turns of the read meet. -/
def avcomIntRecvData (data : Nat → UInt8) (dataSize : Int) (outcomes : List Outcome)
    : Option (Int × Reading) :=
  (spectrumAnalyzerSelectRead data dataSize outcomes).map fun result =>
    (if result.1 = reconnFailure then aovErrRecvFailed else result.2.length, result.2)

/-- What AVCOM_INT_RecvPacket returns, with the reads that it has made and the header that
it has accepted.
-/
structure PacketResult where
  iResult : Int
  header : Reading
  accepted : Option AovHeader
  payload : Option Reading

/-- AVCOM_INT_RecvPacket, on what the turns of its two reads meet: the header's into the
local avcomHeader, and the payload's into data.
-/
def avcomIntRecvPacket (avcomHeader data : Nat → UInt8)
    (headerOutcomes payloadOutcomes : List Outcome)
    : Option PacketResult :=
  (avcomIntRecvData avcomHeader avcomHeaderLength headerOutcomes).bind fun received =>
    let fails (iResult : Int) : Option PacketResult := some ⟨iResult, received.2, none, none⟩
    if received.1 = -1 then fails aovErrRecvFailed
    else if received.1 = -2 then fails aovErrSocketNotOpen
    else if received.1 ≠ avcomHeaderLength then fails aovErrHdrPacketSize
    else
      let processed := avcomIntProcessHeader (firstBytes received.2.buffer avcomHeaderLength)
      if processed.2 ≠ aovNoError then fails processed.2
      else
        let header := processed.1
        (avcomIntRecvData data header.dataLen.toNat payloadOutcomes).map fun payload => {
          iResult :=
            if payload.1 = -1 then aovErrRecvFailed
            else if payload.1 = -2 then aovErrSocketNotOpen
            else if payload.1 ≠ (header.dataLen.toNat : Int) then aovErrHdrDataSize
            else if crcFast (firstBytes payload.2.buffer header.dataLen.toNat)
                ≠ header.dataCrc then
              aovErrHdrDataChecksum
            else aovNoError
          header := received.2
          accepted := some header
          payload := some payload.2
        }

-----------------------------------------------------------------------------------------
-- What a read delivers
-----------------------------------------------------------------------------------------

/-- What the reads give until something else is met. -/
def delivered : List Outcome → List UInt8
  | .ready true (some bytes) :: rest => bytes ++ delivered rest
  | _ => []

/-- A turn that gives no bytes fails, and leaves what has been read. -/
theorem turn_undelivered {s : Reading} {outcome : Outcome} (rest : List Outcome)
    (none : ∀ bytes, outcome ≠ .ready true (some bytes))
    : (s.turn outcome).1 = reconnFailure
      ∧ consumed (s.turn outcome).2.calls = consumed s.calls
      ∧ (s.turn outcome).2.buffer = s.buffer ∧ delivered (outcome :: rest) = [] := by
  cases outcome with
  | selectFails | notSet | timeout => exact ⟨rfl, rfl, rfl, rfl⟩
  | ready saPortOpen read =>
      cases saPortOpen with
      | false =>
          refine ⟨rfl, ?_, store_nil .., rfl⟩
          rw [show (s.turn (.ready false read)).2.calls = s.calls ++ [] from rfl, List.append_nil]
      | true =>
          cases read with
          | none =>
              refine ⟨rfl, ?_, store_nil .., rfl⟩
              rw [(turn_fails s).2, consumed_append]
              simp [consumed]
          | some bytes => exact absurd rfl (none bytes)

/-- How a loop ends that starts in `s`: it succeeds with its length read, out of what is
delivered, or it fails after it has read all that is delivered.
-/
theorem Reading.Counts.loop {original : Nat → UInt8} {s : Reading} (counts : s.Counts original)
    {outcomes : List Outcome} {retCode : ReconnErrCode} {final : Reading}
    (returned : s.loop outcomes = some (retCode, final))
    : final.buffer = store original 0 (consumed final.calls)
      ∧ consumed final.calls <+: consumed s.calls ++ delivered outcomes
      ∧ ((retCode = reconnSuccess ∧ final.length = s.length
          ∧ s.length ≤ (consumed final.calls).length)
        ∨ (retCode = reconnFailure
          ∧ consumed final.calls = consumed s.calls ++ delivered outcomes
          ∧ (s.amountRead < s.length → (consumed final.calls).length < s.length))) := by
  induction outcomes generalizing s with
  | nil => cases returned
  | cons outcome rest ih =>
      rw [Reading.loop] at returned
      dsimp only at returned
      by_cases delivers : ∃ bytes, outcome = .ready true (some bytes)
      · obtain ⟨bytes, rfl⟩ := delivers
        have next := counts.delivers bytes
        have all : consumed s.calls ++ delivered (.ready true (some bytes) :: rest)
            = consumed (s.turn (.ready true (some bytes))).2.calls ++ delivered rest := by
          rw [consumed_delivers, delivered, List.append_assoc]
        have length : (s.turn (.ready true (some bytes))).2.length = s.length := by
          rw [turn_delivers]
        rw [all, ← length]
        split_ifs at returned with serves continues
        · obtain ⟨buffer, taken, ends⟩ := ih next returned
          refine ⟨buffer, taken, ?_⟩
          rcases ends with done | ⟨failed, whole, less⟩
          · exact .inl done
          · exact .inr ⟨failed, whole, fun _ => less continues.2⟩
        · have ended := Option.some.inj returned
          have success : reconnSuccess = retCode := congrArg Prod.fst ended
          obtain rfl : (s.turn (.ready true (some bytes))).2 = final := congrArg Prod.snd ended
          refine ⟨next.buffer, List.prefix_append _ _, .inl ⟨success.symm, rfl, ?_⟩⟩
          rw [← next.amountRead]
          exact Int.not_lt.mp fun less => continues ⟨rfl, less⟩
      · obtain ⟨failed, same, buffer, none⟩ :=
          turn_undelivered (s := s) rest fun bytes here => delivers ⟨bytes, here⟩
        have success : ¬ (s.turn outcome).1 = reconnSuccess := by
          rw [failed]
          decide
        split_ifs at returned with serves continues
        · exact absurd continues.1 success
        · have ended := Option.some.inj returned
          rw [ended] at failed same buffer
          rw [none, List.append_nil, same]
          refine ⟨buffer.trans counts.buffer, List.prefix_rfl, .inr ⟨failed, rfl, fun less => ?_⟩⟩
          rw [← counts.amountRead]
          exact less

/-- What AVCOM_INT_RecvData returns: its size if the read succeeds, and an error code if it
fails.
-/
theorem recvData_cases {data : Nat → UInt8} {dataSize : Int} {outcomes : List Outcome}
    {iResult : Int} {final : Reading}
    (returned : avcomIntRecvData data dataSize outcomes = some (iResult, final))
    : final.buffer = store data 0 (consumed final.calls)
      ∧ consumed final.calls <+: delivered outcomes
      ∧ ((iResult = dataSize ∧ dataSize ≤ (consumed final.calls).length)
        ∨ (iResult = aovErrRecvFailed ∧ consumed final.calls = delivered outcomes
          ∧ (0 < dataSize → (consumed final.calls).length < dataSize))) := by
  obtain ⟨⟨retCode, reading⟩, read, same⟩ := Option.map_eq_some_iff.mp returned
  obtain ⟨rfl, rfl⟩ := Prod.mk.inj same
  obtain ⟨buffer, taken, ends⟩ := (counts_start data dataSize).loop read
  refine ⟨buffer, taken, ?_⟩
  rcases ends with ⟨rfl, length, whole⟩ | ⟨rfl, all, less⟩
  · exact .inl ⟨length, whole⟩
  · exact .inr ⟨rfl, all, less⟩

/-- A read of this size is reported truly: its size is returned only if it was delivered. -/
def TrueSize (dataSize : Int) (iResult : Int) (final : Reading) : Prop :=
  iResult = dataSize → dataSize ≤ (consumed final.calls).length

/-- AVCOM_INT_RecvData reports a read truly exactly if its size is not the error code of a
read that fails.
-/
theorem trueSize_iff {data : Nat → UInt8} {dataSize : Int} {outcomes : List Outcome}
    {iResult : Int} {final : Reading}
    (returned : avcomIntRecvData data dataSize outcomes = some (iResult, final))
    : TrueSize dataSize iResult final
      ↔ (dataSize = aovErrRecvFailed → dataSize ≤ (delivered outcomes).length) := by
  obtain ⟨-, taken, ⟨rfl, whole⟩ | ⟨rfl, all, -⟩⟩ := recvData_cases returned
  · refine iff_of_true (fun _ => whole) fun _ => ?_
    have := taken.length_le
    omega
  · rw [TrueSize, all, eq_comm]

/-- The header that a read of these outcomes receives, if it is accepted. -/
def acceptedHeader (outcomes : List Outcome) : Option AovHeader :=
  let processed := avcomIntProcessHeader ((delivered outcomes).take avcomHeaderLength)
  if avcomHeaderLength ≤ (delivered outcomes).length ∧ processed.2 = aovNoError then
    some processed.1
  else none

/-- A packet is received truly: no error is returned only if its header and its payload were
delivered.
-/
def TruePacket (result : PacketResult) : Prop :=
  result.iResult = aovNoError
    → avcomHeaderLength ≤ (consumed result.header.calls).length
      ∧ ∃ header payload, result.accepted = some header ∧ result.payload = some payload
        ∧ header.dataLen.toNat ≤ (consumed payload.calls).length

/-- The error code of a failed read of the payload is taken for its length: the payload's
length is that code, its read fails before it is delivered, and what the buffer contains has
the checksum of the header.
-/
def MistakenError (data : Nat → UInt8) (headerOutcomes payloadOutcomes : List Outcome)
    : Prop :=
  ∃ header, acceptedHeader headerOutcomes = some header
    ∧ (header.dataLen.toNat : Int) = aovErrRecvFailed
    ∧ (delivered payloadOutcomes).length < header.dataLen.toNat
    ∧ crcFast (firstBytes (store data 0 (delivered payloadOutcomes)) header.dataLen.toNat)
      = header.dataCrc

/-- The first bytes of a buffer are the first of those stored in it. -/
theorem firstBytes_store (buffer : Nat → UInt8) {bytes : List UInt8} {length : Nat}
    (whole : length ≤ bytes.length)
    : firstBytes (store buffer 0 bytes) length = bytes.take length := by
  refine List.ext_getElem? fun index => ?_
  by_cases inside : index < length
  · rw [List.getElem?_take_of_lt inside, getElem?_store buffer (inside.trans_le whole)]
    simp [firstBytes, inside]
  · simp [firstBytes, inside]

/-- A header that has been read is the one that was delivered. -/
theorem firstBytes_delivered {original : Nat → UInt8} {outcomes : List Outcome}
    {final : Reading} (buffer : final.buffer = store original 0 (consumed final.calls))
    (taken : consumed final.calls <+: delivered outcomes) {length : Nat}
    (whole : length ≤ (consumed final.calls).length)
    : firstBytes final.buffer length = (delivered outcomes).take length := by
  obtain ⟨rest, all⟩ := taken
  rw [buffer, firstBytes_store original whole, ← all, List.take_append_of_le_length whole]

/-- What AVCOM_INT_RecvPacket does with a header that has been read: it goes on with the
payload exactly if the header is accepted.
-/
theorem recvPacket_header {avcomHeader data : Nat → UInt8}
    {headerOutcomes payloadOutcomes : List Outcome} {result : PacketResult}
    (returned : avcomIntRecvPacket avcomHeader data headerOutcomes payloadOutcomes = some result)
    : (acceptedHeader headerOutcomes = none ∧ result.payload = none
        ∧ result.iResult ≠ aovNoError)
      ∨ ∃ header iResult payload,
        acceptedHeader headerOutcomes = some header
          ∧ avcomHeaderLength ≤ (consumed result.header.calls).length
          ∧ result.accepted = some header ∧ result.payload = some payload
          ∧ avcomIntRecvData data header.dataLen.toNat payloadOutcomes = some (iResult, payload)
          ∧ (result.iResult = aovNoError
            ↔ iResult = header.dataLen.toNat
              ∧ crcFast (firstBytes payload.buffer header.dataLen.toNat) = header.dataCrc) := by
  obtain ⟨⟨iResult, reading⟩, received, returned⟩ := Option.bind_eq_some_iff.mp returned
  obtain ⟨buffer, taken, ⟨rfl, whole⟩ | ⟨rfl, all, less⟩⟩ := recvData_cases received
  · have whole : avcomHeaderLength ≤ (consumed reading.calls).length := by exact_mod_cast whole
    have delivers := whole.trans taken.length_le
    have raw := firstBytes_delivered buffer taken whole
    simp only [raw] at returned
    rw [if_neg (by decide), if_neg (by decide), if_neg (by simp)] at returned
    split_ifs at returned with refused
    · obtain rfl := Option.some.inj returned
      exact .inl ⟨if_neg fun accepted => refused accepted.2, rfl, refused⟩
    · obtain ⟨⟨size, payload⟩, read, rfl⟩ := Option.map_eq_some_iff.mp returned
      refine .inr ⟨_, size, payload, if_pos ⟨delivers, not_not.mp refused⟩, whole, rfl, rfl,
        read, ?_⟩
      dsimp only
      split_ifs with lost closed other broken
      · exact iff_of_false (by decide) fun ⟨same, _⟩ => by omega
      · exact iff_of_false (by decide) fun ⟨same, _⟩ => by omega
      · exact iff_of_false (by decide) fun ⟨same, _⟩ => other same
      · exact iff_of_false (by decide) fun ⟨_, sum⟩ => broken sum
      · exact iff_of_true rfl ⟨not_not.mp other, not_not.mp broken⟩
  · have short := less (by decide)
    rw [all] at short
    dsimp only at returned
    rw [if_neg (by decide), if_neg (by decide), if_pos (by decide)] at returned
    obtain rfl := Option.some.inj returned
    refine .inl ⟨if_neg fun accepted => ?_, rfl, ?_⟩
    · exact absurd accepted.1 (by omega)
    · dsimp only
      decide

/-- AVCOM_INT_RecvPacket receives a packet truly exactly if it does not mistake an error for
the payload's length.
-/
theorem truePacket_iff {avcomHeader data : Nat → UInt8}
    {headerOutcomes payloadOutcomes : List Outcome} {result : PacketResult}
    (returned : avcomIntRecvPacket avcomHeader data headerOutcomes payloadOutcomes = some result)
    : TruePacket result ↔ ¬ MistakenError data headerOutcomes payloadOutcomes := by
  rcases recvPacket_header returned with
    ⟨refused, -, error⟩ | ⟨header, size, payload, accepted, whole, same, paid, read, ends⟩
  · refine iff_of_true (fun noError => absurd noError error) ?_
    rintro ⟨header, accepted, -⟩
    rw [refused] at accepted
    cases accepted
  · have payment : TruePacket result
        ↔ (result.iResult = aovNoError
          → header.dataLen.toNat ≤ (consumed payload.calls).length) := by
      refine forall_congr' fun _ => ⟨?_, fun truly => ⟨whole, header, payload, same, paid, truly⟩⟩
      rintro ⟨-, _, _, same', paid', truly⟩
      obtain rfl := Option.some.inj (same.symm.trans same')
      obtain rfl := Option.some.inj (paid.symm.trans paid')
      exact truly
    rw [payment, ends]
    obtain ⟨buffer, taken, ⟨rfl, all⟩ | ⟨rfl, all, less⟩⟩ := recvData_cases read
    · refine iff_of_true (fun _ => by exact_mod_cast all) ?_
      rintro ⟨_, accepted', -, short, -⟩
      obtain rfl := Option.some.inj (accepted.symm.trans accepted')
      have := taken.length_le
      omega
    · rw [buffer, all]
      constructor
      · rintro truly ⟨_, accepted', code, short, sum⟩
        obtain rfl := Option.some.inj (accepted.symm.trans accepted')
        exact absurd (truly ⟨code.symm, sum⟩) (not_le.mpr short)
      · rintro honest ⟨code, sum⟩
        by_contra short
        exact honest ⟨header, accepted, code.symm, not_le.mp short, sum⟩

-----------------------------------------------------------------------------------------
-- The arrays
-----------------------------------------------------------------------------------------

/-- (Overruns room length arrived outcomes) holds if one of the reads that are made until
`length` bytes are there, `arrived` of which already are, brings more than an array of `room`
bytes has place for.
-/
def Overruns (room : Nat) (length : Int) : Nat → List Outcome → Prop
  | arrived, .ready true (some bytes) :: rest =>
      room < arrived + bytes.length
        ∨ ((arrived + bytes.length : Nat) : Int) < length
          ∧ Overruns room length (arrived + bytes.length) rest
  | _, _ => False

instance decidableOverruns (room : Nat) (length : Int)
    : (arrived : Nat) → (outcomes : List Outcome)
        → Decidable (Overruns room length arrived outcomes)
  | arrived, .ready true (some bytes) :: rest =>
      let _ := decidableOverruns room length (arrived + bytes.length) rest
      inferInstanceAs (Decidable (_ ∨ _ ∧ _))
  | _, .ready true none :: _ | _, .ready false _ :: _ | _, .selectFails :: _
  | _, .timeout :: _ | _, .notSet :: _ | _, [] => .isFalse id

/-- The buffer of a read that has returned has `room` bytes, and no more was stored. -/
def Reading.StaysIn (room : Nat) (s : Reading) : Prop := (consumed s.calls).length ≤ room

instance (room : Nat) (s : Reading) : Decidable (s.StaysIn room) :=
  inferInstanceAs (Decidable (_ ≤ _))

/-- A packet's reads have kept to avcom_header and to the payload's buffer of `room` bytes. -/
def PacketResult.StaysIn (room : Nat) (result : PacketResult) : Prop :=
  result.header.StaysIn avcomHeaderLength ∧ ∀ payload ∈ result.payload, payload.StaysIn room

instance (room : Nat) (result : PacketResult) : Decidable (result.StaysIn room) :=
  inferInstanceAs (Decidable (_ ∧ ∀ payload ∈ result.payload, payload.StaysIn room))

/-- A turn that gives no bytes is the last one, and overruns nothing. -/
theorem not_overruns_undelivered {room arrived : Nat} {length : Int} {outcome : Outcome}
    {rest : List Outcome} (none : ∀ bytes, outcome ≠ .ready true (some bytes))
    : ¬ Overruns room length arrived (outcome :: rest) := by
  cases outcome with
  | selectFails | notSet | timeout => exact id
  | ready saPortOpen read =>
      cases saPortOpen with
      | false => exact id
      | true =>
          cases read with
          | none => exact id
          | some bytes => exact absurd rfl (none bytes)

theorem consumed_grows {calls more : List Call} (grown : calls <+: more)
    : consumed calls <+: consumed more := by
  obtain ⟨rest, rfl⟩ := grown
  rw [consumed_append]
  exact List.prefix_append ..

/-- A loop that starts inside of an array stays there exactly if none of its reads overruns
it, by induction on what the turns meet.
-/
theorem Reading.Counts.staysIn_iff {original : Nat → UInt8} {s : Reading}
    (counts : s.Counts original) {room : Nat} (inside : s.StaysIn room)
    {outcomes : List Outcome} {retCode : ReconnErrCode} {final : Reading}
    (returned : s.loop outcomes = some (retCode, final))
    : final.StaysIn room ↔ ¬ Overruns room s.length (consumed s.calls).length outcomes := by
  induction outcomes generalizing s with
  | nil => cases returned
  | cons outcome rest ih =>
      rw [Reading.loop] at returned
      dsimp only at returned
      by_cases delivers : ∃ bytes, outcome = .ready true (some bytes)
      · obtain ⟨bytes, rfl⟩ := delivers
        have next := counts.delivers bytes
        have arrived : (consumed (s.turn (.ready true (some bytes))).2.calls).length
            = (consumed s.calls).length + bytes.length := by
          rw [consumed_delivers, List.length_append]
        have length : (s.turn (.ready true (some bytes))).2.length = s.length := by
          rw [turn_delivers]
        have amount := next.amountRead
        rw [arrived] at amount
        rw [Overruns]
        split_ifs at returned with serves continues
        · rw [amount, length] at continues
          by_cases fits : (consumed s.calls).length + bytes.length ≤ room
          · have stays := ih next (by rwa [StaysIn, arrived]) returned
            rw [arrived, length] at stays
            rw [stays, not_or, not_lt]
            exact ⟨fun rest => ⟨fits, fun more => rest more.2⟩,
              fun kept overruns => kept.2 ⟨continues.2, overruns⟩⟩
          · have grows := (consumed_grows (loop_calls returned)).length_le
            rw [arrived] at grows
            exact iff_of_false (fun stays => fits (grows.trans stays))
              (not_not.mpr (.inl (not_le.mp fits)))
        · have ended := Option.some.inj returned
          obtain rfl : (s.turn (.ready true (some bytes))).2 = final := congrArg Prod.snd ended
          have stops : ¬ (((consumed s.calls).length + bytes.length : Nat) : Int) < s.length := by
            rw [← amount, ← length]
            exact fun less => continues ⟨rfl, less⟩
          rw [StaysIn, arrived, not_or, not_lt]
          exact ⟨fun fits => ⟨fits, fun more => stops more.1⟩, fun kept => kept.1⟩
      · obtain ⟨failed, same, -, -⟩ :=
          turn_undelivered (s := s) rest fun bytes here => delivers ⟨bytes, here⟩
        have success : ¬ (s.turn outcome).1 = reconnSuccess := by
          rw [failed]
          decide
        split_ifs at returned with serves continues
        · exact absurd continues.1 success
        · have ended := Option.some.inj returned
          rw [ended] at same
          refine iff_of_true ?_ (not_overruns_undelivered fun bytes here => delivers ⟨bytes, here⟩)
          rwa [StaysIn, same]

/-- A read that AVCOM_INT_RecvData has made stays in the buffer exactly if it does not overrun
it.
-/
theorem recvData_staysIn_iff {data : Nat → UInt8} {dataSize : Int} {outcomes : List Outcome}
    {iResult : Int} {final : Reading}
    (returned : avcomIntRecvData data dataSize outcomes = some (iResult, final)) (room : Nat)
    : final.StaysIn room ↔ ¬ Overruns room dataSize 0 outcomes := by
  obtain ⟨⟨retCode, reading⟩, read, same⟩ := Option.map_eq_some_iff.mp returned
  obtain ⟨-, rfl⟩ := Prod.mk.inj same
  exact (counts_start data dataSize).staysIn_iff (Nat.zero_le room) read

/-- A read has kept to its buffer, and is reported truly. -/
structure RightData (room : Nat) (dataSize iResult : Int) (final : Reading) : Prop where
  inside : final.StaysIn room
  truly : TrueSize dataSize iResult final

/-- A packet's reads have kept to their buffers, and it is received truly. -/
structure RightPacket (room : Nat) (result : PacketResult) : Prop where
  inside : result.StaysIn room
  truly : TruePacket result

/-- The reads of a packet keep to avcom_header, and those of its payload, if they are made, to
a buffer of `room` bytes.
-/
structure KeepsInside (room : Nat) (headerOutcomes payloadOutcomes : List Outcome) : Prop where
  header : ¬ Overruns avcomHeaderLength avcomHeaderLength 0 headerOutcomes
  payload
    : ∀ header ∈ acceptedHeader headerOutcomes,
        ¬ Overruns room header.dataLen.toNat 0 payloadOutcomes

/-- A packet's header is read by AVCOM_INT_RecvData. -/
theorem recvPacket_reads {avcomHeader data : Nat → UInt8}
    {headerOutcomes payloadOutcomes : List Outcome} {result : PacketResult}
    (returned : avcomIntRecvPacket avcomHeader data headerOutcomes payloadOutcomes = some result)
    : ∃ iResult,
      avcomIntRecvData avcomHeader avcomHeaderLength headerOutcomes
        = some (iResult, result.header) := by
  obtain ⟨⟨iResult, reading⟩, received, returned⟩ := Option.bind_eq_some_iff.mp returned
  dsimp only at returned
  split_ifs at returned
  · obtain rfl := Option.some.inj returned
    exact ⟨iResult, received⟩
  · obtain rfl := Option.some.inj returned
    exact ⟨iResult, received⟩
  · obtain rfl := Option.some.inj returned
    exact ⟨iResult, received⟩
  · obtain rfl := Option.some.inj returned
    exact ⟨iResult, received⟩
  · obtain ⟨payload, -, rfl⟩ := Option.map_eq_some_iff.mp returned
    exact ⟨iResult, received⟩

/-- The reads of AVCOM_INT_RecvPacket stay in its two arrays exactly if they keep inside. -/
theorem recvPacket_staysIn_iff {avcomHeader data : Nat → UInt8}
    {headerOutcomes payloadOutcomes : List Outcome} {result : PacketResult}
    (returned : avcomIntRecvPacket avcomHeader data headerOutcomes payloadOutcomes = some result)
    (room : Nat)
    : result.StaysIn room ↔ KeepsInside room headerOutcomes payloadOutcomes := by
  rw [PacketResult.StaysIn]
  obtain ⟨iResult, received⟩ := recvPacket_reads returned
  have header := recvData_staysIn_iff received avcomHeaderLength
  rcases recvPacket_header returned with
    ⟨refused, none, -⟩ | ⟨accepted, size, payload, read, -, -, paid, got, -⟩
  · rw [none, header]
    exact ⟨fun inside => ⟨inside.1, by simp [refused]⟩, fun keeps => ⟨keeps.header, by simp⟩⟩
  · have body := recvData_staysIn_iff got room
    rw [paid, header]
    constructor
    · rintro ⟨kept, stays⟩
      refine ⟨kept, fun header here => ?_⟩
      obtain rfl := Option.some.inj (read.symm.trans here)
      exact body.mp (stays payload rfl)
    · rintro ⟨kept, stays⟩
      refine ⟨kept, fun reading here => ?_⟩
      obtain rfl := Option.some.inj here
      exact body.mpr (stays accepted read)

/-- A read of the analyzer's data into a buffer is right exactly if none of its parts overruns
the buffer and its size is not the error code of a read that fails, and a packet exactly if
the same is true of its header and its payload and that code is not mistaken for the length.
-/
theorem received_iff {data buffer avcomHeader : Nat → UInt8} {dataSize iResult : Int}
    {outcomes headerOutcomes payloadOutcomes : List Outcome} {final : Reading}
    {result : PacketResult}
    (read : avcomIntRecvData data dataSize outcomes = some (iResult, final))
    (packet : avcomIntRecvPacket avcomHeader buffer headerOutcomes payloadOutcomes = some result)
    (room : Nat)
    : (RightData room dataSize iResult final
        ↔ ¬ Overruns room dataSize 0 outcomes
          ∧ (dataSize = aovErrRecvFailed → dataSize ≤ (delivered outcomes).length))
      ∧ (RightPacket room result
        ↔ KeepsInside room headerOutcomes payloadOutcomes
          ∧ ¬ MistakenError buffer headerOutcomes payloadOutcomes) := by
  constructor
  · rw [← recvData_staysIn_iff read, ← trueSize_iff read]
    exact ⟨fun right => ⟨right.inside, right.truly⟩, fun right => ⟨right.1, right.2⟩⟩
  · rw [← recvPacket_staysIn_iff packet, ← truePacket_iff packet]
    exact ⟨fun right => ⟨right.inside, right.truly⟩, fun right => ⟨right.1, right.2⟩⟩

/-- A header for a payload of this length and checksum. -/
def rawHeader (dataLen : UInt8) (headerCrc dataCrc : UInt8 × UInt8) : List UInt8 :=
  [0x12, 0x34, 0, 1, 12, 0, 0, dataLen, headerCrc.1, headerCrc.2, dataCrc.1, dataCrc.2]

/-- The reads of a header that comes in two halves. -/
def halves : List Outcome :=
  let header := rawHeader 1 (0x02, 0x8A) (0x91, 0x17)
  [.ready true (some (header.take 6)), .ready true (some (header.drop 6))]

/-- Two bytes, and a packet whose header comes in two halves. -/
theorem received_truly
    : (∃ final, avcomIntRecvData (fun _ => 0) 2 [.ready true (some [1, 2])] = some (2, final)
        ∧ RightData 2 2 2 final)
      ∧ ∃ result,
        avcomIntRecvPacket (fun _ => 0) (fun _ => 0) halves [.ready true (some [7])]
          = some result
        ∧ RightPacket 2 result := by
  obtain ⟨final, data⟩
      : ∃ final, avcomIntRecvData (fun _ => 0) 2 [.ready true (some [1, 2])] = some (2, final) :=
    ⟨_, rfl⟩
  obtain ⟨result, packet⟩
      : ∃ result,
        avcomIntRecvPacket (fun _ => 0) (fun _ => 0) halves [.ready true (some [7])]
          = some result :=
    Option.isSome_iff_exists.mp (by decide +kernel)
  obtain ⟨size, truly⟩ := received_iff data packet 2
  have one : acceptedHeader halves = some ⟨0x1234, 1, 12, 0, 1, 0x028A, 0x9117⟩ := by
    decide +kernel
  refine ⟨⟨final, data, size.mpr (by decide)⟩, result, packet,
    truly.mpr ⟨⟨by decide, ?_⟩, ?_⟩⟩
  · rintro header accepted
    obtain rfl := Option.some.inj (one.symm.trans accepted)
    decide
  · rintro ⟨header, accepted, length, -⟩
    obtain rfl := Option.some.inj (one.symm.trans accepted)
    exact absurd length (by decide)

/-- The header of a payload of thirteen zero bytes, and then nothing: the timeout is taken
for the payload, which is what the buffer happens to contain.
-/
theorem received_timeout
    : ¬ ((∀ data dataSize outcomes iResult final,
          avcomIntRecvData data dataSize outcomes = some (iResult, final)
          → TrueSize dataSize iResult final)
        ∧ ∀ avcomHeader data headerOutcomes payloadOutcomes result,
          avcomIntRecvPacket avcomHeader data headerOutcomes payloadOutcomes = some result
          → TruePacket result) := by
  rintro ⟨-, always⟩
  have run : (avcomIntRecvPacket (fun _ => 0) (fun _ => 0)
        [.ready true (some (rawHeader 13 (0x8E, 0x6E) (0x28, 0x0C)))] [.timeout]).map
      (fun result =>
        (result.iResult, result.accepted.map (·.dataLen),
          result.payload.map fun payload => (consumed payload.calls).length))
      = some (aovNoError, some 13, some 0) := by
    decide +kernel
  obtain ⟨result, packet, read⟩ := Option.map_eq_some_iff.mp run
  simp only [Prod.mk.injEq] at read
  obtain ⟨noError, length, nothing⟩ := read
  obtain ⟨-, header, payload, accepted, paid, truly⟩ := always _ _ _ _ _ packet noError
  rw [accepted, Option.map_some, Option.some.injEq] at length
  rw [paid, Option.map_some, Option.some.injEq] at nothing
  rw [length, nothing] at truly
  exact absurd truly (by decide)

end Reconn.Analyzer
