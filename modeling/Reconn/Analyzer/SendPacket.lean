import Reconn.Analyzer.Checksum

/-! How aov_common.c assembles and sends a packet, and what the receiving side makes of it.
-/

namespace Reconn.Analyzer

def avcomProtocolId : UInt16 := 0x1234
def avcomProtocolVerMaj : UInt8 := 0x00
def avcomProtocolVerMin : UInt8 := 0x01

def aovErrSendFailed : Int := 12

/-- The header of AVCOM_INT_AssemblePacket. -/
def assembledHeader (dataIn : List UInt8) (headerCrc : UInt16) : List UInt8 :=
  let dataCrc := crcFast dataIn
  [
    (avcomProtocolId >>> 8).toUInt8, avcomProtocolId.toUInt8,
    avcomProtocolVerMaj, avcomProtocolVerMin,
    12, 0,
    UInt8.ofNat (dataIn.length >>> 8), UInt8.ofNat (dataIn.length &&& 0xFF),
    (headerCrc >>> 8).toUInt8, headerCrc.toUInt8,
    (dataCrc >>> 8).toUInt8, dataCrc.toUInt8
  ]

/-- AVCOM_INT_AssemblePacket: the header's checksum is taken while its own field is zero. -/
def avcomIntAssemblePacket (dataIn : List UInt8) : List UInt8 :=
  assembledHeader dataIn (crcFast (assembledHeader dataIn 0)) ++ dataIn

-----------------------------------------------------------------------------------------
-- The round trip
-----------------------------------------------------------------------------------------

@[simp] theorem length_assembledHeader (dataIn : List UInt8) (headerCrc : UInt16)
    : (assembledHeader dataIn headerCrc).length = avcomHeaderLength :=
  rfl

/-- A word is put together again from its two bytes. -/
theorem word_bytes (v : UInt16) : word (v >>> 8).toUInt8 v.toUInt8 = v := by
  rw [← UInt16.toNat_inj, word]
  have bound := v.toNat_lt
  simp [Nat.shiftRight_eq_div_pow]
  omega

theorem word_length {n : Nat} (fits : n < 2 ^ 16)
    : (word (UInt8.ofNat (n >>> 8)) (UInt8.ofNat (n &&& 0xFF))).toNat = n := by
  rw [word, show 0xFF = 2 ^ 8 - 1 from rfl, Nat.and_two_pow_sub_one_eq_mod]
  simp [Nat.shiftRight_eq_div_pow]
  omega

/-- What the receiving side reads out of the header of a packet. -/
def sentHeader (dataIn : List UInt8) : AovHeader where
  protocolId := avcomProtocolId
  protocolVer := avcomProtocolVersion
  headerLen := 12
  flags := 0
  dataLen := word (UInt8.ofNat (dataIn.length >>> 8)) (UInt8.ofNat (dataIn.length &&& 0xFF))
  headerCrc := crcFast (assembledHeader dataIn 0)
  dataCrc := crcFast dataIn

/-- The receiving side accepts the header of a packet. -/
theorem processHeader_assembled (dataIn : List UInt8)
    : avcomIntProcessHeader (assembledHeader dataIn (crcFast (assembledHeader dataIn 0)))
      = (sentHeader dataIn, aovNoError) := by
  generalize sum : crcFast (assembledHeader dataIn 0) = headerCrc
  have cleared : ((assembledHeader dataIn headerCrc).set 8 0).set 9 0 = assembledHeader dataIn 0 :=
    rfl
  have idWord : word (avcomProtocolId >>> 8).toUInt8 avcomProtocolId.toUInt8 = avcomProtocolId :=
    word_bytes avcomProtocolId
  have versionWord : word avcomProtocolVerMaj avcomProtocolVerMin = avcomProtocolVersion := by
    decide
  rw [avcomIntProcessHeader, cleared, sum, sentHeader, sum]
  simp only [assembledHeader, List.getD_cons_succ, List.getD_cons_zero]
  rw [word_bytes headerCrc, word_bytes (crcFast dataIn), idWord, versionWord,
    if_neg (by decide), if_neg (not_not.mpr rfl), if_neg (not_not.mpr rfl)]

theorem sentHeader_dataLen {dataIn : List UInt8} (fits : dataIn.length < 2 ^ 16)
    : (sentHeader dataIn).dataLen.toNat = dataIn.length :=
  word_length fits

/-- The reads of the header deliver it, and so it is accepted. -/
theorem acceptedHeader_assembled {dataIn : List UInt8} {headerOutcomes : List Outcome}
    (header : delivered headerOutcomes = (avcomIntAssemblePacket dataIn).take avcomHeaderLength)
    : acceptedHeader headerOutcomes = some (sentHeader dataIn) := by
  have whole : (avcomIntAssemblePacket dataIn).take avcomHeaderLength
      = assembledHeader dataIn (crcFast (assembledHeader dataIn 0)) :=
    List.take_left' (length_assembledHeader ..)
  rw [acceptedHeader, header, whole, List.take_of_length_le (by simp), processHeader_assembled]
  exact if_pos ⟨by simp, rfl⟩

/-- A header that arrives whole is received with any data of the announced length and
checksum, in any pieces: they are then at the start of the buffer, whatever was there before.
-/
theorem recvPacket_checked {dataIn body : List UInt8} (nonempty : 0 < dataIn.length)
    (fits : dataIn.length < 2 ^ 16) (same : body.length = dataIn.length)
    (sum : crcFast body = crcFast dataIn) {avcomHeader data : Nat → UInt8}
    {headerOutcomes payloadOutcomes : List Outcome} {result : PacketResult}
    (header : delivered headerOutcomes = (avcomIntAssemblePacket dataIn).take avcomHeaderLength)
    (payload : delivered payloadOutcomes = body)
    (returned : avcomIntRecvPacket avcomHeader data headerOutcomes payloadOutcomes = some result)
    : result.iResult = aovNoError
      ∧ result.accepted = some (sentHeader dataIn)
      ∧ ∃ reading, result.payload = some reading
        ∧ consumed reading.calls = body ∧ reading.buffer = store data 0 body := by
  have length := sentHeader_dataLen fits
  rcases recvPacket_header returned with
    ⟨refused, -⟩ | ⟨accepted, size, reading, read, -, same', paid, got, ends⟩
  · rw [acceptedHeader_assembled header] at refused
    cases refused
  · obtain rfl := Option.some.inj (read.symm.trans (acceptedHeader_assembled header))
    rw [length] at got ends
    obtain ⟨buffer, taken, ⟨code, whole⟩ | ⟨-, all, less⟩⟩ := recvData_cases got
    · have consumes : consumed reading.calls = body := by
        refine (taken.trans (payload ▸ List.prefix_rfl)).eq_of_length_le ?_
        rw [same]
        exact_mod_cast whole
      rw [consumes] at buffer
      refine ⟨ends.mpr ⟨code, ?_⟩, same', reading, paid, consumes, buffer⟩
      rw [buffer, ← same, firstBytes_store data le_rfl, List.take_length]
      exact sum
    · have short := less (by exact_mod_cast nonempty)
      rw [all, payload] at short
      omega

/-- A packet that arrives whole is received whole. -/
theorem recvPacket_assembled {dataIn : List UInt8} (nonempty : 0 < dataIn.length)
    (fits : dataIn.length < 2 ^ 16) {avcomHeader data : Nat → UInt8}
    {headerOutcomes payloadOutcomes : List Outcome} {result : PacketResult}
    (header : delivered headerOutcomes = (avcomIntAssemblePacket dataIn).take avcomHeaderLength)
    (payload : delivered payloadOutcomes = (avcomIntAssemblePacket dataIn).drop avcomHeaderLength)
    (returned : avcomIntRecvPacket avcomHeader data headerOutcomes payloadOutcomes = some result)
    : result.iResult = aovNoError
      ∧ result.accepted = some (sentHeader dataIn)
      ∧ ∃ reading, result.payload = some reading
        ∧ consumed reading.calls = dataIn ∧ reading.buffer = store data 0 dataIn := by
  rw [avcomIntAssemblePacket, List.drop_left' (length_assembledHeader ..)] at payload
  exact recvPacket_checked nonempty fits rfl rfl header payload returned

end Reconn.Analyzer
