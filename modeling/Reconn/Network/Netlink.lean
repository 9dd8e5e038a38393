import Mathlib.Algebra.Ring.Int.Defs
import Mathlib.Algebra.Ring.Nat
import Mathlib.Tactic.Common

/-! Netlink messages in memory, as the macros of the system's headers take them apart. A
message has a header with its length, and an address message holds attributes with lengths of
their own; both kinds start at multiples of four. The fields are in the byte order of the
little-endian processor.
-/

namespace Reconn.Network

/-- The bytes from headerBuf on. -/
abbrev Memory := Nat → UInt8

/-- A field of two bytes. -/
def half (m : Memory) (address : Nat) : Nat :=
  (m address).toNat + 256 * (m (address + 1)).toNat

/-- A field of four bytes. -/
def word (m : Memory) (address : Nat) : Nat :=
  half m address + 65536 * half m (address + 2)

def sizeofNlmsghdr : Nat := 16
def sizeofIfaddrmsg : Nat := 8
def sizeofRtattr : Nat := 4

def nlmsgDone : Nat := 3
def rtmNewaddr : Nat := 20
def ifaAddress : Nat := 1

/-- NLMSG_ALIGN of a length of 32 bits. -/
def nlmsgAlign (length : Nat) : Nat := (length + 3) % 2 ^ 32 / 4 * 4

/-- RTA_ALIGN of a length of 16 bits, in an int. -/
def rtaAlign (length : Nat) : Nat := (length + 3) / 4 * 4

/-- A value of 32 bits as an int. -/
def toInt (value : Int) : Int := (value + 2 ^ 31) % 2 ^ 32 - 2 ^ 31

def nlmsgLen (m : Memory) (header : Nat) : Nat := word m header
def nlmsgType (m : Memory) (header : Nat) : Nat := half m (header + 4)
def rtaLen (m : Memory) (rth : Nat) : Nat := half m rth
def rtaType (m : Memory) (rth : Nat) : Nat := half m (rth + 2)

/-- NLMSG_DATA -/
def nlmsgData (header : Nat) : Nat := header + sizeofNlmsghdr

/-- IFA_RTA -/
def ifaRta (ifa : Nat) : Nat := ifa + sizeofIfaddrmsg

/-- IFA_PAYLOAD, in an int. -/
def ifaPayload (m : Memory) (header : Nat) : Int :=
  toInt (nlmsgLen m header - (sizeofNlmsghdr + sizeofIfaddrmsg : Nat))

/-- NLMSG_OK -/
def NlmsgOk (m : Memory) (header len : Nat) : Prop :=
  sizeofNlmsghdr ≤ len ∧ sizeofNlmsghdr ≤ nlmsgLen m header ∧ nlmsgLen m header ≤ len

/-- RTA_OK -/
def RtaOk (m : Memory) (rth : Nat) (rtl : Int) : Prop :=
  sizeofRtattr ≤ rtl ∧ sizeofRtattr ≤ rtaLen m rth ∧ rtaLen m rth ≤ rtl

instance (m : Memory) (header len : Nat) : Decidable (NlmsgOk m header len) :=
  inferInstanceAs (Decidable (_ ∧ _))

instance (m : Memory) (rth : Nat) (rtl : Int) : Decidable (RtaOk m rth rtl) :=
  inferInstanceAs (Decidable (_ ∧ _))

/-- An aligned attribute is not shorter, and longer by less than four. -/
theorem rtaAlign_bounds (length : Nat)
    : length ≤ rtaAlign length ∧ rtaAlign length < length + 4 := by
  unfold rtaAlign
  omega

/-- An aligned message is not shorter, and longer by less than four, if it is no longer than
a buffer.
-/
theorem nlmsgAlign_bounds {length : Nat} (small : length ≤ 1024)
    : length ≤ nlmsgAlign length ∧ nlmsgAlign length < length + 4 := by
  unfold nlmsgAlign
  omega

-----------------------------------------------------------------------------------------
-- The messages that some bytes begin with
-----------------------------------------------------------------------------------------

section Grammar

variable (m : Memory) (returned : Nat)

/-- A complete message begins here, and it is not the last one. -/
def Accepted (header : Nat) : Prop :=
  NlmsgOk m header (returned - header) ∧ nlmsgType m header ≠ nlmsgDone

/-- The messages of the first bytes in memory begin here: each is behind an accepted one. -/
inductive MessageAt : Nat → Prop where
  | first : MessageAt 0
  | next {header : Nat} (message : MessageAt header) (accepted : Accepted m returned header)
    : MessageAt (header + nlmsgAlign (nlmsgLen m header))

/-- The attributes of a message begin here: each is behind a complete one. -/
inductive AttributeAt (header : Nat) : Nat → Prop where
  | first : AttributeAt header (ifaRta (nlmsgData header))
  | next {rth : Nat} (before : AttributeAt header rth)
    (ok : RtaOk m rth (header + nlmsgLen m header - rth : Int))
    : AttributeAt header (rth + rtaAlign (rtaLen m rth))

/-- What the bytes must have behind them: the padding of each message, and four bytes of data
for each address.
-/
structure WellPadded : Prop where
  padding : ∀ header, MessageAt m returned header → Accepted m returned header →
    header + nlmsgAlign (nlmsgLen m header) ≤ returned
  address : ∀ header, MessageAt m returned header → Accepted m returned header →
    nlmsgType m header = rtmNewaddr → ∀ rth, AttributeAt m header rth →
      RtaOk m rth (header + nlmsgLen m header - rth : Int) → rtaType m rth = ifaAddress →
      rth + sizeofRtattr + 4 ≤ returned

/-- The messages end here. -/
def EndsAt (header : Nat) : Prop := MessageAt m returned header ∧ ¬ Accepted m returned header

end Grammar

/-- The attributes of a message are behind its fixed part, by induction on them. -/
theorem attributeAt_ge {m : Memory} {header rth : Nat} (within : AttributeAt m header rth)
    : header + 24 ≤ rth := by
  induction within with
  | first => exact Nat.le_refl _
  | next _ _ ih => omega

/-- The messages of well padded bytes begin inside them, by cases on the message before. -/
theorem WellPadded.messageAt_le {m : Memory} {returned header : Nat}
    (padded : WellPadded m returned) (message : MessageAt m returned header)
    : header ≤ returned := by
  cases message with
  | first => exact Nat.zero_le _
  | next message accepted => exact padded.padding _ message accepted

end Reconn.Network
