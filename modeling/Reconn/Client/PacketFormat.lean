import Reconn.Client.Protocol
import Mathlib.Data.List.Basic

/-! formatReconnPacket of clientApp.c with all its arguments: the header through the byte
order macros of reconn.h, and the loop that copies the data behind it.
-/

namespace Reconn.Client

/-- MAX_COMMAND_INPUT, which the length is compared with. -/
def maxCommandInput : Nat := 1024

/-- ADD_MSGID_TO_PACKET and ADD_DATA_LENGTH_TO_PACKET store bits 8 to 15 of an int in the first
byte and bits 0 to 7 in the second.
-/
def networkBytes (value : Int) : UInt8 × UInt8 :=
  (UInt8.ofInt (value / 256), UInt8.ofInt value)

/-- What a call of formatReconnPacket does. The packet's dataPayload goes on with the memory
behind the buffer.
-/
structure FormatCall where
  retCode : ReconnErrCode
  thePacket : Packet
  /-- the indices at which dataPayload is written -/
  writes : List Nat

/-- The loop that copies the data. -/
def copyData (theData : Nat → UInt8) (dataPayload : Nat → UInt8) (theDataLength : Nat)
    : Nat → UInt8 :=
  (List.range theDataLength).foldl (fun payload i => Function.update payload i (theData i))
    dataPayload

/-- formatReconnPacket -/
def Packet.formatReconnPacket (thePacket : Packet) (theMsgId : Int) (theData : Nat → UInt8)
    (theDataLength : Int)
    : FormatCall :=
  if theDataLength < maxCommandInput then
    {
      retCode := reconnSuccess
      thePacket := {
        messageId := networkBytes theMsgId
        dataLength := networkBytes theDataLength
        dataPayload := copyData theData thePacket.dataPayload theDataLength.toNat
      }
      writes := List.range theDataLength.toNat
    }
  else ⟨reconnFailure, thePacket, []⟩

/-- The call succeeds, inside the payload's buffer, and the macros and the payload give back
what was formatted.
-/
structure FormatCall.Formats (call : FormatCall) (theMsgId : UInt16) (data : List UInt8)
    : Prop where
  succeeds : call.retCode = reconnSuccess
  inside : ∀ index ∈ call.writes, index < reconnPayloadSize
  cmdid : call.thePacket.cmdid = theMsgId
  pktLength : call.thePacket.pktLength = data.length
  payload : call.thePacket.payload data.length = data

/-- The call fails and leaves the packet as it was. -/
structure FormatCall.Refuses (call : FormatCall) (thePacket : Packet) : Prop where
  fails : call.retCode = reconnFailure
  unchanged : call.thePacket = thePacket

/-- The call of formatReconnPacket for some data. -/
def Packet.format (thePacket : Packet) (theMsgId : UInt16) (data : List UInt8) : FormatCall :=
  thePacket.formatReconnPacket theMsgId.toNat (fun i => data.getD i 0) data.length

-----------------------------------------------------------------------------------------
-- The header
-----------------------------------------------------------------------------------------

/-- The bytes of a nonnegative value. -/
theorem networkBytes_natCast (value : Nat)
    : networkBytes value = (UInt8.ofNat (value / 256), UInt8.ofNat value) := by
  have byte (n : Nat) : UInt8.ofInt n = UInt8.ofNat n := by
    apply UInt8.toNat_inj.mp
    simp only [UInt8.ofInt, UInt8.toNat_ofNat']
    omega
  rw [networkBytes, ← byte value, ← byte (value / 256), Int.natCast_ediv]
  rfl

/-- The two bytes of a 16-bit value give it back. -/
theorem networkBytes_value {value : Nat} (small : value < UInt16.size)
    : (networkBytes value).1.toNat * 256 + (networkBytes value).2.toNat = value := by
  unfold UInt16.size at small
  rw [networkBytes_natCast]
  simp only [UInt8.toNat_ofNat']
  omega

-----------------------------------------------------------------------------------------
-- The data
-----------------------------------------------------------------------------------------

/-- The loop has copied what is below its bound and nothing else, by induction on the bound. -/
theorem copyData_apply (theData dataPayload : Nat → UInt8) (theDataLength index : Nat)
    : copyData theData dataPayload theDataLength index
      = if index < theDataLength then theData index else dataPayload index := by
  induction theDataLength with
  | zero => rfl
  | succ length ih =>
      have last : copyData theData dataPayload (length + 1)
          = Function.update (copyData theData dataPayload length) length (theData length) := by
        simp [copyData, List.range_succ]
      rw [last]
      by_cases here : index = length
      · subst here
        rw [Function.update_self, if_pos index.lt_succ_self]
      · rw [Function.update_of_ne here, ih]
        have same : index < length ↔ index < length + 1 := by omega
        simp only [same]

namespace Packet

variable (thePacket : Packet) (theMsgId : UInt16) (data : List UInt8)

/-- Copied data is read back from the payload. -/
theorem payload_of_copied {packet : Packet} {dataPayload : Nat → UInt8}
    (copied : packet.dataPayload = copyData (fun i => data.getD i 0) dataPayload data.length)
    : packet.payload data.length = data := by
  refine List.ext_getElem (by simp [payload]) fun i _ inside => ?_
  simp [payload, copied, copyData_apply, inside]

variable {data}

/-- A length from MAX_COMMAND_INPUT on is refused. -/
theorem format_refuses (long : maxCommandInput ≤ data.length)
    : (thePacket.format theMsgId data).Refuses thePacket := by
  have notBelow : ¬ (data.length : Int) < maxCommandInput := by omega
  unfold format formatReconnPacket
  rw [if_neg notBelow]
  exact ⟨rfl, rfl⟩

/-- Below MAX_COMMAND_INPUT the data is copied, wherever the buffer ends. -/
theorem format_writes (short : data.length < maxCommandInput)
    : (thePacket.format theMsgId data).retCode = reconnSuccess
      ∧ (thePacket.format theMsgId data).writes = List.range data.length := by
  have below : (data.length : Int) < maxCommandInput := by omega
  unfold format formatReconnPacket
  rw [if_pos below]
  exact ⟨rfl, rfl⟩

/-- Data that fits dataPayload is formatted. -/
theorem format_formats (fits : data.length ≤ reconnPayloadSize)
    : (thePacket.format theMsgId data).Formats theMsgId data := by
  unfold reconnPayloadSize at fits
  have below : (data.length : Int) < maxCommandInput := by
    unfold maxCommandInput
    omega
  obtain ⟨succeeds, writes⟩ := thePacket.format_writes theMsgId (Int.ofNat_lt.mp below)
  refine ⟨succeeds, ?_, ?_, ?_, ?_⟩
  · intro index member
    rw [writes] at member
    exact (List.mem_range.mp member).trans_le fits
  · unfold format formatReconnPacket cmdid
    rw [if_pos below, networkBytes_value theMsgId.toNat_lt, UInt16.ofNat_toNat]
  · unfold format formatReconnPacket pktLength
    rw [if_pos below, networkBytes_value (by unfold UInt16.size; omega)]
  · apply payload_of_copied
    unfold format formatReconnPacket
    rw [if_pos below]
    rfl

/-- Data between the two constants is written behind dataPayload. -/
theorem format_overruns (long : reconnPayloadSize < data.length)
    (short : data.length < maxCommandInput)
    : ¬ (thePacket.format theMsgId data).Formats theMsgId data := by
  intro formats
  have inside := formats.inside reconnPayloadSize
  rw [(thePacket.format_writes theMsgId short).2, List.mem_range] at inside
  exact lt_irrefl _ (inside long)

end Packet

/-- Every message id and data is refused with the packet unchanged or formatted inside
dataPayload so that it can be read back, exactly if the data fits dataPayload or has
MAX_COMMAND_INPUT bytes or more.
-/
theorem formatReconnPacket_right_iff (thePacket : Packet) (theMsgId : UInt16)
    (data : List UInt8)
    : ((thePacket.format theMsgId data).Refuses thePacket
        ∨ (thePacket.format theMsgId data).Formats theMsgId data)
      ↔ data.length ≤ reconnPayloadSize ∨ maxCommandInput ≤ data.length := by
  constructor
  · intro right
    by_contra between
    rw [not_or, not_le, not_le] at between
    rcases right with refuses | formats
    · have succeeds := (thePacket.format_writes theMsgId between.2).1
      exact reconnFailure_ne_success (refuses.fails.symm.trans succeeds)
    · exact thePacket.format_overruns theMsgId between.1 between.2 formats
  · rintro (fits | long)
    · exact .inr (thePacket.format_formats theMsgId fits)
    · exact .inl (thePacket.format_refuses theMsgId long)

/-- Data of 501 bytes is written behind dataPayload. -/
theorem formatReconnPacket_overrun
    : ¬ ∀ (thePacket : Packet) (theMsgId : UInt16) (data : List UInt8),
        (thePacket.format theMsgId data).Refuses thePacket
          ∨ (thePacket.format theMsgId data).Formats theMsgId data := by
  intro right
  have short : (List.replicate 501 (0 : UInt8)).length < maxCommandInput := by decide +kernel
  rcases right .zero 0 (List.replicate 501 0) with refuses | formats
  · have succeeds := (Packet.zero.format_writes 0 short).1
    exact reconnFailure_ne_success (refuses.fails.symm.trans succeeds)
  · exact Packet.zero.format_overruns 0 (by decide +kernel) short formats

end Reconn.Client
