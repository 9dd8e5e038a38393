import Reconn.Client.Protocol

/-! A response packet in memory: its header, the length that the header announces, and its
payload.
-/

namespace Reconn.Client

/-- The dataLength of a response. -/
def responseLength (buffer : List UInt8) : Nat :=
  (buffer.getD 2 0).toNat * 256 + (buffer.getD 3 0).toNat

/-- The payload of a response. -/
def responsePayload (buffer : List UInt8) : List UInt8 :=
  buffer.drop reconnRspPacketHeaderSize

/-- A word is its two bytes. -/
theorem toNat_highByte_lowByte (word : UInt16)
    : (highByte word).toNat * 256 + (lowByte word).toNat = word.toNat := by
  have small := word.toNat_lt
  have high : (highByte word).toNat = word.toNat / 256 :=
    UInt8.toNat_ofNat_of_lt' (by simp [UInt8.size]; omega)
  have low : (lowByte word).toNat = word.toNat % 256 :=
    UInt8.toNat_ofNat_of_lt' (by simp [UInt8.size]; omega)
  omega

/-- The memory of a response packet is its header and the start of its payload. -/
theorem ResponsePacket.bytes_eq (pkt : ResponsePacket) (length : Nat)
    : pkt.bytes (reconnRspPacketHeaderSize + length)
      = [
          highByte pkt.rspId, lowByte pkt.rspId,
          highByte pkt.dataLength, lowByte pkt.dataLength,
          highByte pkt.messageId, lowByte pkt.messageId
        ] ++ (List.range length).map pkt.dataPayload := by
  rw [bytes, Nat.add_sub_cancel_left]
  refine List.take_of_length_le ?_
  simp [reconnRspPacketHeaderSize]
  omega

theorem ResponsePacket.bytes_length (pkt : ResponsePacket) (length : Nat)
    : (pkt.bytes (reconnRspPacketHeaderSize + length)).length
      = reconnRspPacketHeaderSize + length := by
  rw [bytes_eq, List.length_append, List.length_map, List.length_range]
  rfl

/-- The header of a response. -/
theorem ResponsePacket.bytes_header (pkt : ResponsePacket) (length : Nat)
    : (pkt.bytes (reconnRspPacketHeaderSize + length)).take reconnRspPacketHeaderSize
      = [
          highByte pkt.rspId, lowByte pkt.rspId,
          highByte pkt.dataLength, lowByte pkt.dataLength,
          highByte pkt.messageId, lowByte pkt.messageId
        ] := by
  rw [bytes_eq]
  rfl

/-- The length of a response, as a reader computes it from its header. -/
def announced (header : List UInt8) : Nat :=
  reconnRspPacketHeaderSize + ((header.getD 2 0).toNat * 256 + (header.getD 3 0).toNat)

theorem ResponsePacket.announced_header (pkt : ResponsePacket) (length : Nat)
    : announced
        ((pkt.bytes (reconnRspPacketHeaderSize + length)).take reconnRspPacketHeaderSize)
      = reconnRspPacketHeaderSize + pkt.dataLength.toNat := by
  rw [bytes_header, announced, ← toNat_highByte_lowByte]
  rfl

/-- The dataLength of a response packet in memory. -/
theorem ResponsePacket.responseLength_bytes (pkt : ResponsePacket) (length : Nat)
    : responseLength (pkt.bytes (reconnRspPacketHeaderSize + length))
      = pkt.dataLength.toNat := by
  rw [← toNat_highByte_lowByte, bytes_eq]
  rfl

/-- The payload of a response packet in memory. -/
theorem ResponsePacket.responsePayload_bytes (pkt : ResponsePacket) (length : Nat)
    : responsePayload (pkt.bytes (reconnRspPacketHeaderSize + length))
      = (List.range length).map pkt.dataPayload := by
  rw [bytes_eq]
  rfl

/-- The memory that is sent of a packet with written values. -/
theorem ResponsePacket.responsePayload_write (packet : ResponsePacket) (values : List UInt8)
    : responsePayload
        ((packet.write values).bytes (reconnRspPacketHeaderSize + values.length))
      = values := by
  rw [responsePayload_bytes]
  refine List.ext_getElem (by simp) fun index inside _ => ?_
  have known : index < values.length := by simpa using inside
  simp [write, List.getElem?_eq_getElem known]

end Reconn.Client
