import Reconn.Iphoned.Framing

/-! Sending to the iphoned daemon, by send_sock_msg and libiphoned_tx of libiphoned.c: how long
a frame is, whether it fits the buffer that is allocated for it, and what the status says.
-/

namespace Reconn.Iphoned

def msgForwardData : UInt8 := 0x02

/-- The size of the buffer that send_sock_msg allocates for a frame. -/
def sockMsgSize (outbuf : List UInt8) : Nat := outbuf.length * 2 + 3

/-- send_sock_msg stays inside the buffer that it allocates. -/
def SockMsgFits (cmdid : UInt8) (outbuf : List UInt8) : Prop :=
  (sockMsg cmdid outbuf).length ≤ sockMsgSize outbuf

instance (cmdid : UInt8) (outbuf : List UInt8) : Decidable (SockMsgFits cmdid outbuf) :=
  inferInstanceAs (Decidable (_ ≤ _))

/-- libiphoned_tx: its status, where `send` is the result of send(). -/
def libiphonedTx (iphonedFd : Int) (send : List UInt8 → Int) (buf : List UInt8) : Int :=
  if (sendSockMsg iphonedFd send msgForwardData buf).2 = 0 then 0 else -1

/-- How many of the length bytes, the command and the payload are escaped. -/
def reservedBytes (cmdid : UInt8) (outbuf : List UInt8) : Nat :=
  (record (cmdid :: outbuf)).countP code.isReserved

/-- The length of a frame: the payload, four bytes, and the escapes. -/
theorem length_sockMsg (cmdid : UInt8) (outbuf : List UInt8)
    : (sockMsg cmdid outbuf).length = outbuf.length + 4 + reservedBytes cmdid outbuf := by
  have length : (record (cmdid :: outbuf)).length = outbuf.length + 3 := rfl
  rw [sockMsg_eq, List.length_cons, code.length_stuff, length, reservedBytes]
  omega

/-- A frame fits its buffer exactly if it has fewer escapes than payload bytes. -/
theorem sockMsg_fits_iff (cmdid : UInt8) (outbuf : List UInt8)
    : SockMsgFits cmdid outbuf ↔ reservedBytes cmdid outbuf < outbuf.length := by
  unfold SockMsgFits sockMsgSize
  rw [length_sockMsg]
  omega

/-- A payload of three bytes that are all escaped. -/
theorem sockMsg_fits_not : ¬ ∀ cmdid outbuf, SockMsgFits cmdid outbuf := by
  intro always
  exact absurd (always msgForwardData [0x61, 0x61, 0x61]) (by decide)

/-- On an open connection the status is that of the comparison with the payload's length. -/
theorem libiphonedTx_eq_zero {iphonedFd : Int} (connected : iphonedFd ≠ -1)
    (send : List UInt8 → Int) (buf : List UInt8)
    : libiphonedTx iphonedFd send buf = 0
      ↔ send (sockMsg msgForwardData buf) = buf.length := by
  unfold libiphonedTx sendSockMsg
  rw [if_pos connected]
  dsimp only
  split_ifs with same sent sent <;> simp_all

/-- On an open connection the status says whether the whole frame was accepted exactly if
send() accepted neither that nor as many bytes as the payload has. Witness: a frame is longer
than its payload.
-/
theorem libiphonedTx_status_iff {iphonedFd : Int} (connected : iphonedFd ≠ -1)
    (send : List UInt8 → Int) (buf : List UInt8)
    : (libiphonedTx iphonedFd send buf = 0
        ↔ send (sockMsg msgForwardData buf) = (sockMsg msgForwardData buf).length)
      ↔ send (sockMsg msgForwardData buf) ≠ buf.length
        ∧ send (sockMsg msgForwardData buf)
          ≠ (buf.length + 4 + reservedBytes msgForwardData buf : Nat) := by
  rw [libiphonedTx_eq_zero connected, length_sockMsg]
  omega

/-- A send() that fails. -/
theorem libiphonedTx_status_fails
    : libiphonedTx 3 (fun _ => -1) [1, 2] = 0
      ↔ (-1 : Int) = (sockMsg msgForwardData [1, 2]).length :=
  (libiphonedTx_status_iff (by decide) (fun _ => -1) [1, 2]).mpr ⟨by decide, by decide⟩

/-- A send() that accepts the whole frame of one byte. -/
theorem libiphonedTx_status_not
    : ¬ ∀ (iphonedFd : Int) (send : List UInt8 → Int) (buf : List UInt8), iphonedFd ≠ -1
        → (libiphonedTx iphonedFd send buf = 0
          ↔ send (sockMsg msgForwardData buf) = (sockMsg msgForwardData buf).length) := by
  intro always
  have status := always 3 (fun frame => frame.length) [1] (by decide)
  exact absurd (status.mpr rfl) (by decide)

end Reconn.Iphoned
