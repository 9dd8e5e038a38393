import Reconn.Client.Equipment
import Reconn.Client.ResponseBytes
import Reconn.Library.Terminated

/-! getDeviceId of clientApp.c, with the indices at which it accesses the context's
theSerialNumberString, and the response packet that it formats.
-/

namespace Reconn.Client

/-- fread() from the start of a file: the bytes that it reads, and whether feof() holds
after it. The end is noticed only by asking for more bytes than there are.
-/
def fread (content : List UInt8) (count : Nat) : List UInt8 × Bool :=
  (content.take count, decide (content.length < count))

/-- What a call of getDeviceId does. -/
structure DeviceIdCall where
  retCode : ReconnErrCode
  theResponsePkt : ResponsePacket
  /-- the indices at which theSerialNumberString is read or written -/
  accesses : List Nat

/-- theSerialNumberString once the bytes of the file are read into it. -/
def theSerialNumberString (bytesRead : List UInt8) : List UInt8 :=
  bytesRead ++ List.replicate (reconnSerialnumMaxLen - bytesRead.length) 0

/-- getDeviceId: the memset and the fread() fill theSerialNumberString, then strlen() reads it
up to its NUL, the byte behind that is cleared, and strncpy() copies it with its NUL. The
debug prints read no more than strlen().
-/
def readDeviceId (theResponsePkt : ResponsePacket) (serialNumberFile : Option (List UInt8))
    : DeviceIdCall :=
  match serialNumberFile with
  | none => ⟨reconnFailure, theResponsePkt, []⟩
  | some content =>
      let (bytesRead, eof) := fread content (reconnSerialnumMaxLen - 1)
      let filled := List.range reconnSerialnumMaxLen ++ List.range bytesRead.length
      if bytesRead.length ≠ 0 ∧ eof then
        let serial := cString (theSerialNumberString bytesRead)
        let serialBytesRead := serial.length + 1
        {
          retCode := reconnSuccess
          theResponsePkt :=
            ((theResponsePkt.address reconnIdNotif).withLength serialBytesRead).write
              (serial ++ [0])
          accesses :=
            filled ++ List.range serialBytesRead ++ [serialBytesRead]
              ++ List.range serialBytesRead
        }
      else ⟨reconnFailure, theResponsePkt, filled⟩

/-- getDeviceId succeeds on a file with s, and formats a response with s and its NUL in the
payload, without an access out of the bounds of theSerialNumberString.
-/
structure DeviceIdCall.Formats (call : DeviceIdCall) (s : List UInt8) : Prop where
  succeeds : call.retCode = reconnSuccess
  rspId : call.theResponsePkt.rspId = genericResponse
  messageId : call.theResponsePkt.messageId = reconnIdNotif
  dataLength : call.theResponsePkt.dataLength.toNat = s.length + 1
  payload :
    responsePayload (call.theResponsePkt.bytes (reconnRspPacketHeaderSize + (s.length + 1)))
      = s ++ [0]
  inside : ∀ index ∈ call.accesses, index < reconnSerialnumMaxLen

variable {pkt : ResponsePacket} {content : List UInt8}

/-- The file is read to its end exactly if it has some bytes, but not as many as were asked
for.
-/
theorem read_iff
    : ((fread content (reconnSerialnumMaxLen - 1)).1.length ≠ 0
        ∧ (fread content (reconnSerialnumMaxLen - 1)).2 = true)
      ↔ content ≠ [] ∧ content.length < reconnSerialnumMaxLen - 1 := by
  rw [fread, decide_eq_true_iff]
  refine and_congr_left fun short => ?_
  rw [List.take_of_length_le short.le, ne_eq, List.length_eq_zero_iff]

/-- The string that was read is the one in the file. -/
theorem cString_theSerialNumberString
    : cString (theSerialNumberString content) = cString content :=
  Terminated.upTo_append_replicate 0 content _

theorem readDeviceId_success
    (read : content ≠ [] ∧ content.length < reconnSerialnumMaxLen - 1)
    : (readDeviceId pkt (some content)).retCode = reconnSuccess
      ∧ (readDeviceId pkt (some content)).theResponsePkt
        = ((pkt.address reconnIdNotif).withLength ((cString content).length + 1)).write
          (cString content ++ [0]) := by
  have all : content.take (reconnSerialnumMaxLen - 1) = content :=
    List.take_of_length_le read.2.le
  unfold readDeviceId
  dsimp only
  rw [if_pos (read_iff.mpr read)]
  dsimp only [fread]
  rw [all, cString_theSerialNumberString]
  exact ⟨rfl, rfl⟩

theorem readDeviceId_failure
    (unread : ¬ (content ≠ [] ∧ content.length < reconnSerialnumMaxLen - 1))
    : (readDeviceId pkt (some content)).retCode = reconnFailure
      ∧ (readDeviceId pkt (some content)).theResponsePkt = pkt := by
  unfold readDeviceId
  dsimp only
  rw [if_neg (mt read_iff.mp unread)]
  exact ⟨rfl, rfl⟩

/-- The response to RECONN_ID_REQ is built in the packet that getDeviceId has formatted. -/
theorem Context.reconnIdReq_reads (c : Context) (env : Outcomes) (p : Packet)
    : (c.reconnIdReq env p).1
      = (readDeviceId c.theResponsePkt env.serialNumberFile).theResponsePkt := by
  unfold reconnIdReq getDeviceId
  cases env.serialNumberFile with
  | none => rfl
  | some content =>
      rw [Option.bind_some]
      by_cases read : content ≠ [] ∧ content.length < reconnSerialnumMaxLen - 1
      · rw [if_pos read, (readDeviceId_success read).2]
        dsimp only
        rw [List.length_append, List.length_singleton]
      · rw [if_neg read, (readDeviceId_failure read).2]

/-- No access is out of the bounds of theSerialNumberString, whatever the file has in it. -/
theorem readDeviceId_inside (pkt : ResponsePacket) (serialNumberFile : Option (List UInt8))
    : ∀ index ∈ (readDeviceId pkt serialNumberFile).accesses, index < reconnSerialnumMaxLen := by
  intro index member
  cases serialNumberFile with
  | none => exact absurd member List.not_mem_nil
  | some content =>
      by_cases read : content ≠ [] ∧ content.length < reconnSerialnumMaxLen - 1
      · have string : (cString content).length ≤ content.length :=
          (Terminated.upTo_starts 0 content).length_le
        unfold readDeviceId at member
        dsimp only at member
        rw [if_pos (read_iff.mpr read)] at member
        dsimp only [fread] at member
        rw [List.take_of_length_le read.2.le, cString_theSerialNumberString] at member
        simp only [List.mem_append, List.mem_range, List.mem_singleton] at member
        have short := read.2
        unfold reconnSerialnumMaxLen at member short ⊢
        omega
      · unfold readDeviceId at member
        dsimp only at member
        rw [if_neg (mt read_iff.mp read)] at member
        have taken : (content.take (reconnSerialnumMaxLen - 1)).length
            ≤ reconnSerialnumMaxLen - 1 :=
          List.length_take_le _ _
        simp only [fread, List.mem_append, List.mem_range] at member
        omega

/-- What a file with a serial number in it comes to. -/
theorem readDeviceId_formats_iff (terminated : 0 ∉ content) (nonempty : content ≠ [])
    : (readDeviceId pkt (some content)).Formats content
      ↔ content.length < reconnSerialnumMaxLen - 1 := by
  constructor
  · intro formats
    by_contra long
    exact reconnFailure_ne_success
      ((readDeviceId_failure fun read => long read.2).1.symm.trans formats.succeeds)
  · intro short
    obtain ⟨succeeds, packet⟩ := @readDeviceId_success pkt _ ⟨nonempty, short⟩
    have same : cString content = content := Terminated.upTo_eq_self_iff.mpr terminated
    rw [same] at packet
    have small : content.length + 1 < UInt16.size := by
      unfold reconnSerialnumMaxLen at short
      unfold UInt16.size
      omega
    refine ⟨succeeds, ?_, ?_, ?_, ?_, readDeviceId_inside pkt _⟩
    · rw [packet]
      rfl
    · rw [packet]
      rfl
    · rw [packet]
      exact UInt16.toNat_ofNat_of_lt' small
    · have written := ResponsePacket.responsePayload_write
        ((pkt.address reconnIdNotif).withLength (content.length + 1)) (content ++ [0])
      rw [packet]
      rwa [List.length_append, List.length_singleton] at written

end Reconn.Client
