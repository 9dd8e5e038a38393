import Mathlib.Logic.Relation
import Reconn.Library.Appends
import Reconn.Network.Netlink

/-! The task that watches the USB link, Usb0IpWatchTask of network.c. It receives netlink
messages and walks through them with the pointer that it received them at, which stays where
the walk ended.
-/

namespace Reconn.Network

open Appends Relation

/-- The size of headerBuf, which is also what recv() is asked for. -/
def headerBufSize : Nat := 1024

/-- What recv() returns: an error, or as many bytes as it was asked for at most. -/
abbrev Received := Option {bytes : List UInt8 // bytes.length ≤ headerBufSize}

/-- A read access of some bytes from an index of headerBuf on. -/
structure Read where
  start : Nat
  size : Nat
  deriving DecidableEq, Repr

/-- The access is to bytes between the two indices. -/
def Read.Between (first behind : Nat) (read : Read) : Prop :=
  first ≤ read.start ∧ read.start + read.size ≤ behind

/-- The variables of the walk: netLinkHeader and len, and rth and rtl inside the loop over
the attributes.
-/
structure Walk where
  netLinkHeader : Nat
  len : Nat
  attributes : Option (Nat × Int)

namespace Walk

/-- NLMSG_NEXT, in unsigned arithmetic. -/
def nlmsgNext (m : Memory) (netLinkHeader len : Nat) : Walk where
  netLinkHeader := netLinkHeader + nlmsgAlign (nlmsgLen m netLinkHeader)
  len := (len + 2 ^ 32 - nlmsgAlign (nlmsgLen m netLinkHeader)) % 2 ^ 32
  attributes := none

/-- Reading nlmsg_len, and nlmsg_type. -/
def readLen (netLinkHeader : Nat) : Read := ⟨netLinkHeader, 4⟩
def readType (netLinkHeader : Nat) : Read := ⟨netLinkHeader + 4, 2⟩

/-- The outer loop comes to a message: what it reads, and where it goes on. -/
def messageTurn (m : Memory) (netLinkHeader len : Nat) : List Read × Option Walk :=
  if len < sizeofNlmsghdr then ([], none)
  else if ¬ NlmsgOk m netLinkHeader len then ([readLen netLinkHeader], none)
  else
    let reads := [readLen netLinkHeader, readType netLinkHeader]
    if nlmsgType m netLinkHeader = nlmsgDone then (reads, none)
    else if nlmsgType m netLinkHeader = rtmNewaddr then
      let rth := ifaRta (nlmsgData netLinkHeader)
      (reads, some ⟨netLinkHeader, len, some (rth, ifaPayload m netLinkHeader)⟩)
    else (reads, some (nlmsgNext m netLinkHeader len))

/-- The inner loop comes to an attribute. For an address it reads the address and the
interface index of the message.
-/
def attributeTurn (m : Memory) (netLinkHeader len rth : Nat) (rtl : Int)
    : List Read × Option Walk :=
  if rtl = 0 ∨ rtl < sizeofRtattr then
    ([readLen netLinkHeader], some (nlmsgNext m netLinkHeader len))
  else if ¬ RtaOk m rth rtl then
    ([⟨rth, 2⟩, readLen netLinkHeader], some (nlmsgNext m netLinkHeader len))
  else
    (
      [⟨rth, 2⟩, ⟨rth + 2, 2⟩]
        ++ (if rtaType m rth = ifaAddress then
            [⟨rth + sizeofRtattr, 4⟩, ⟨nlmsgData netLinkHeader + 4, 4⟩]
          else []),
      some
        ⟨
          netLinkHeader,
          len,
          some (rth + rtaAlign (rtaLen m rth), rtl - rtaAlign (rtaLen m rth))
        ⟩
    )

/-- The outer loop reads fields of the header, and only if the header can be there. -/
theorem messageTurn_reads {m : Memory} {netLinkHeader len : Nat} {read : Read}
    (member : read ∈ (messageTurn m netLinkHeader len).1)
    : sizeofNlmsghdr ≤ len ∧ (read = readLen netLinkHeader ∨ read = readType netLinkHeader) := by
  unfold messageTurn at member
  by_cases short : len < sizeofNlmsghdr
  · rw [if_pos short] at member
    exact absurd member List.not_mem_nil
  rw [if_neg short] at member
  refine ⟨Nat.not_lt.mp short, ?_⟩
  by_cases ok : ¬ NlmsgOk m netLinkHeader len
  · rw [if_pos ok] at member
    exact .inl (List.mem_singleton.mp member)
  rw [if_neg ok] at member
  have both : read ∈ [readLen netLinkHeader, readType netLinkHeader] := by
    dsimp only at member
    split_ifs at member <;> exact member
  exact (List.mem_cons.mp both).imp_right List.mem_singleton.mp

/-- The outer loop reads the length wherever a header can be. -/
theorem readLen_mem_messageTurn {m : Memory} {netLinkHeader len : Nat}
    (room : sizeofNlmsghdr ≤ len)
    : readLen netLinkHeader ∈ (messageTurn m netLinkHeader len).1 := by
  unfold messageTurn
  rw [if_neg (Nat.not_lt.mpr room)]
  split_ifs <;> exact List.mem_cons_self

/-- The outer loop ends at a message that is not accepted. -/
theorem messageTurn_of_not_ok {m : Memory} {netLinkHeader len : Nat}
    (ends : ¬ (NlmsgOk m netLinkHeader len ∧ nlmsgType m netLinkHeader ≠ nlmsgDone))
    : (messageTurn m netLinkHeader len).2 = none := by
  unfold messageTurn
  by_cases ok : NlmsgOk m netLinkHeader len
  · have done : nlmsgType m netLinkHeader = nlmsgDone := by
      by_contra going
      exact ends ⟨ok, going⟩
    rw [if_neg (Nat.not_lt.mpr ok.1), if_neg (not_not.mpr ok), if_pos done]
  · rw [if_pos ok]
    split_ifs <;> rfl

/-- The outer loop goes on behind a message that is accepted. -/
theorem messageTurn_of_ok {m : Memory} {netLinkHeader len : Nat}
    (ok : NlmsgOk m netLinkHeader len) (going : nlmsgType m netLinkHeader ≠ nlmsgDone)
    : messageTurn m netLinkHeader len
      = (
        [readLen netLinkHeader, readType netLinkHeader],
        some
          (if nlmsgType m netLinkHeader = rtmNewaddr then
            ⟨
              netLinkHeader,
              len,
              some (ifaRta (nlmsgData netLinkHeader), ifaPayload m netLinkHeader)
            ⟩
          else nlmsgNext m netLinkHeader len)
      ) := by
  unfold messageTurn
  rw [if_neg (Nat.not_lt.mpr ok.1), if_neg (not_not.mpr ok), if_neg going]
  split_ifs <;> rfl

/-- The inner loop goes on behind an attribute that is complete. -/
theorem attributeTurn_of_ok {m : Memory} {rth : Nat} {rtl : Int} (netLinkHeader len : Nat)
    (ok : RtaOk m rth rtl)
    : attributeTurn m netLinkHeader len rth rtl
      = (
        [⟨rth, 2⟩, ⟨rth + 2, 2⟩]
          ++ (if rtaType m rth = ifaAddress then
              [⟨rth + sizeofRtattr, 4⟩, ⟨nlmsgData netLinkHeader + 4, 4⟩]
            else []),
        some
          ⟨
            netLinkHeader,
            len,
            some (rth + rtaAlign (rtaLen m rth), rtl - rtaAlign (rtaLen m rth))
          ⟩
      ) := by
  have room : ¬ (rtl = 0 ∨ rtl < sizeofRtattr) := by
    have enough := ok.1
    unfold sizeofRtattr at *
    omega
  unfold attributeTurn
  rw [if_neg room, if_neg (not_not.mpr ok)]

/-- Anything else ends the inner loop. -/
theorem attributeTurn_of_not_ok {m : Memory} {rth : Nat} {rtl : Int} (netLinkHeader len : Nat)
    (ends : ¬ RtaOk m rth rtl)
    : (attributeTurn m netLinkHeader len rth rtl).2
      = some (nlmsgNext m netLinkHeader len) := by
  unfold attributeTurn
  split_ifs <;> rfl

theorem attributeTurn_reads_of_not_ok {m : Memory} {netLinkHeader len rth : Nat} {rtl : Int}
    {read : Read} (ends : ¬ RtaOk m rth rtl)
    (member : read ∈ (attributeTurn m netLinkHeader len rth rtl).1)
    : read = readLen netLinkHeader ∨ sizeofRtattr ≤ rtl ∧ read = ⟨rth, 2⟩ := by
  unfold attributeTurn at member
  by_cases short : rtl = 0 ∨ rtl < sizeofRtattr
  · rw [if_pos short] at member
    exact .inl (List.mem_singleton.mp member)
  · rw [if_neg short, if_pos ends] at member
    rw [not_or] at short
    rcases List.mem_cons.mp member with rfl | member
    · exact .inr ⟨Int.not_lt.mp short.2, rfl⟩
    · exact .inl (List.mem_singleton.mp member)

theorem attributeTurn_ne_none (m : Memory) (netLinkHeader len rth : Nat) (rtl : Int)
    : (attributeTurn m netLinkHeader len rth rtl).2 ≠ none := by
  unfold attributeTurn
  split_ifs <;> exact Option.some_ne_none _

/-- A turn of the loop that the walk is in. -/
def turn (m : Memory) (w : Walk) : List Read × Option Walk :=
  match w.attributes with
  | none => messageTurn m w.netLinkHeader w.len
  | some (rth, rtl) => attributeTurn m w.netLinkHeader w.len rth rtl

/-- One turn leads to another place. -/
def Goes (m : Memory) (w next : Walk) : Prop := (w.turn m).2 = some next

end Walk

/-- The buffer and the pointer of the task, as an index of the buffer. -/
structure Watch where
  headerBuf : Memory
  netLinkHeader : Nat

namespace Watch

/-- len = recv(sock, netLinkHeader, 1024, 0), an unsigned value. -/
def len : Received → Nat
  | none => 2 ^ 32 - 1
  | some bytes => bytes.1.length

/-- The bytes that recv() returned. -/
def returned : Received → List UInt8
  | none => []
  | some bytes => bytes.1

/-- What recv() stores. -/
def store (s : Watch) (r : Received) : Store UInt8 := ⟨s.netLinkHeader, returned r⟩

/-- The buffer after recv(). -/
def memory (s : Watch) (r : Received) : Memory := (s.store r).apply s.headerBuf

/-- The walk after recv() comes here. -/
def Visits (s : Watch) (r : Received) (w : Walk) : Prop :=
  0 < len r ∧ ReflTransGen (Walk.Goes (s.memory r)) ⟨s.netLinkHeader, len r, none⟩ w

/-- The task is ready for the next recv(): there was no walk, or it is over. -/
def Leaves (s : Watch) (r : Received) (next : Watch) : Prop :=
  next.headerBuf = s.memory r
    ∧ (len r = 0 ∧ next.netLinkHeader = s.netLinkHeader
      ∨ ∃ w, s.Visits r w ∧ (w.turn (s.memory r)).2 = none
        ∧ next.netLinkHeader = w.netLinkHeader)

/-- recv() writes inside headerBuf, and the walk reads only what it returned. -/
structure Respects (s : Watch) (r : Received) : Prop where
  writes : Inside headerBufSize [s.store r]
  reads : ∀ w, s.Visits r w → ∀ read ∈ (w.turn (s.memory r)).1,
    read.Between s.netLinkHeader (s.netLinkHeader + (returned r).length)

/-- Every recv() in a sequence of them and the walk after it keep to their bytes. -/
def Safe (s : Watch) : List Received → Prop
  | [] => True
  | r :: rest => s.Respects r ∧ ∀ next, s.Leaves r next → next.Safe rest

/-- The bytes as a memory of their own. -/
def load (bytes : List UInt8) : Memory := fun index => (bytes[index]?).getD 0

/-- What was received is in the buffer, and well padded. -/
structure Good (netLinkHeader : Nat) (bytes : List UInt8) : Prop where
  fits : netLinkHeader + bytes.length ≤ headerBufSize
  padded : WellPadded (load bytes) bytes.length

/-- No recv() of the sequence fails, and what each one returns is well padded and fits behind
the messages of those before it.
-/
def AllGood (netLinkHeader : Nat) : List Received → Prop
  | [] => True
  | none :: _ => False
  | some bytes :: rest =>
      Good netLinkHeader bytes.1
      ∧ ∀ header, EndsAt (load bytes.1) bytes.1.length header →
        AllGood (netLinkHeader + header) rest

-----------------------------------------------------------------------------------------
-- The received bytes in the buffer
-----------------------------------------------------------------------------------------

section Memory

variable (s : Watch) (bytes : {bytes : List UInt8 // bytes.length ≤ headerBufSize})

/-- The buffer holds the received bytes behind the pointer. -/
theorem memory_add {index : Nat} (inside : index < bytes.1.length)
    : s.memory (some bytes) (s.netLinkHeader + index) = load bytes.1 index := by
  simp [memory, store, returned, Store.apply, load, inside]

theorem half_memory {p : Nat} (inside : p + 2 ≤ bytes.1.length)
    : half (s.memory (some bytes)) (s.netLinkHeader + p) = half (load bytes.1) p := by
  rw [half, half, memory_add s bytes (by omega), Nat.add_assoc, memory_add s bytes (by omega)]

theorem word_memory {p : Nat} (inside : p + 4 ≤ bytes.1.length)
    : word (s.memory (some bytes)) (s.netLinkHeader + p) = word (load bytes.1) p := by
  rw [word, word, half_memory s bytes (by omega), Nat.add_assoc,
    half_memory s bytes (by omega)]

theorem nlmsgType_memory {p : Nat} (inside : p + 6 ≤ bytes.1.length)
    : nlmsgType (s.memory (some bytes)) (s.netLinkHeader + p) = nlmsgType (load bytes.1) p := by
  rw [nlmsgType, Nat.add_assoc, half_memory s bytes (by omega), nlmsgType]

/-- A header that is inside the received bytes is read from them. -/
theorem nlmsgOk_memory (p : Nat)
    : NlmsgOk (s.memory (some bytes)) (s.netLinkHeader + p) (bytes.1.length - p)
      ↔ NlmsgOk (load bytes.1) p (bytes.1.length - p) := by
  by_cases inside : sizeofNlmsghdr ≤ bytes.1.length - p
  · unfold sizeofNlmsghdr at inside
    have length : nlmsgLen (s.memory (some bytes)) (s.netLinkHeader + p)
        = nlmsgLen (load bytes.1) p := word_memory s bytes (by omega)
    rw [NlmsgOk, NlmsgOk, length]
  · exact iff_of_false (fun h => inside h.1) fun h => inside h.1

/-- An accepted message has its length and its type in the received bytes. -/
theorem fields_of_accepted {p : Nat} (accepted : Accepted (load bytes.1) bytes.1.length p)
    : p + nlmsgLen (load bytes.1) p ≤ bytes.1.length
      ∧ sizeofNlmsghdr ≤ nlmsgLen (load bytes.1) p
      ∧ nlmsgLen (s.memory (some bytes)) (s.netLinkHeader + p) = nlmsgLen (load bytes.1) p
      ∧ nlmsgType (s.memory (some bytes)) (s.netLinkHeader + p)
        = nlmsgType (load bytes.1) p := by
  obtain ⟨⟨room, longer, shorter⟩, -⟩ := accepted
  unfold sizeofNlmsghdr at room
  exact ⟨by omega, longer, word_memory s bytes (by omega), nlmsgType_memory s bytes (by omega)⟩

/-- The loop over the attributes of an accepted message starts behind its fixed part, with
the rest of the message.
-/
theorem attributes_of_accepted {p : Nat}
    (accepted : Accepted (load bytes.1) bytes.1.length p)
    : (
        ifaRta (nlmsgData (s.netLinkHeader + p)),
        ifaPayload (s.memory (some bytes)) (s.netLinkHeader + p)
      )
      = (
        s.netLinkHeader + ifaRta (nlmsgData p),
        (p + nlmsgLen (load bytes.1) p - ifaRta (nlmsgData p) : Int)
      ) := by
  obtain ⟨ends, -, length, -⟩ := fields_of_accepted s bytes accepted
  have small : bytes.1.length ≤ 1024 := bytes.2
  rw [ifaPayload, length]
  simp only [toInt, ifaRta, nlmsgData, sizeofNlmsghdr, sizeofIfaddrmsg, Prod.mk.injEq]
  omega

/-- The turn at an accepted message. -/
theorem messageTurn_of_accepted {p : Nat}
    (accepted : Accepted (load bytes.1) bytes.1.length p)
    : Walk.messageTurn (s.memory (some bytes)) (s.netLinkHeader + p) (bytes.1.length - p)
      = (
        [Walk.readLen (s.netLinkHeader + p), Walk.readType (s.netLinkHeader + p)],
        some
          (if nlmsgType (load bytes.1) p = rtmNewaddr then
            ⟨
              s.netLinkHeader + p,
              bytes.1.length - p,
              some (s.netLinkHeader + ifaRta (nlmsgData p),
                p + nlmsgLen (load bytes.1) p - ifaRta (nlmsgData p))
            ⟩
          else
            Walk.nlmsgNext (s.memory (some bytes)) (s.netLinkHeader + p)
              (bytes.1.length - p))
      ) := by
  obtain ⟨-, -, -, type⟩ := fields_of_accepted s bytes accepted
  have going
      : nlmsgType (s.memory (some bytes)) (s.netLinkHeader + p) ≠ nlmsgDone := by
    rw [type]
    exact accepted.2
  rw [Walk.messageTurn_of_ok ((nlmsgOk_memory s bytes p).mpr accepted.1) going, type,
    attributes_of_accepted s bytes accepted]

/-- The walk ends at a message that is not accepted. -/
theorem messageTurn_of_not_accepted {p : Nat}
    (ends : ¬ Accepted (load bytes.1) bytes.1.length p)
    : (Walk.messageTurn (s.memory (some bytes)) (s.netLinkHeader + p)
        (bytes.1.length - p)).2 = none := by
  refine Walk.messageTurn_of_not_ok fun ⟨ok, going⟩ => ends ?_
  have known := (nlmsgOk_memory s bytes p).mp ok
  have room := known.1
  unfold sizeofNlmsghdr at room
  rw [nlmsgType_memory s bytes (by omega)] at going
  exact ⟨known, going⟩

/-- The message behind an accepted one, if the padding between them was received. -/
theorem nlmsgNext_of_accepted {p : Nat}
    (accepted : Accepted (load bytes.1) bytes.1.length p)
    (padding : p + nlmsgAlign (nlmsgLen (load bytes.1) p) ≤ bytes.1.length)
    : Walk.nlmsgNext (s.memory (some bytes)) (s.netLinkHeader + p) (bytes.1.length - p)
      = ⟨
        s.netLinkHeader + (p + nlmsgAlign (nlmsgLen (load bytes.1) p)),
        bytes.1.length - (p + nlmsgAlign (nlmsgLen (load bytes.1) p)),
        none
      ⟩ := by
  obtain ⟨-, -, length, -⟩ := fields_of_accepted s bytes accepted
  have small : bytes.1.length ≤ 1024 := bytes.2
  rw [Walk.nlmsgNext, length, Nat.add_assoc]
  congr 1
  omega

end Memory

-----------------------------------------------------------------------------------------
-- The walk through well padded bytes
-----------------------------------------------------------------------------------------

section Walking

variable {s : Watch} {bytes : {bytes : List UInt8 // bytes.length ≤ headerBufSize}}

/-- The walk is at a message of the received bytes, or at an attribute of an address message
among them.
-/
inductive Placed (s : Watch) (bytes : {bytes : List UInt8 // bytes.length ≤ headerBufSize})
    : Walk → Prop where
  | atMessage {p : Nat} (reached : MessageAt (load bytes.1) bytes.1.length p)
    (inside : p ≤ bytes.1.length)
    : Placed s bytes ⟨s.netLinkHeader + p, bytes.1.length - p, none⟩
  | atAttribute {p rth : Nat} (reached : MessageAt (load bytes.1) bytes.1.length p)
    (accepted : Accepted (load bytes.1) bytes.1.length p)
    (newaddr : nlmsgType (load bytes.1) p = rtmNewaddr)
    (within : AttributeAt (load bytes.1) p rth)
    : Placed s bytes
      ⟨
        s.netLinkHeader + p,
        bytes.1.length - p,
        some (s.netLinkHeader + rth, p + nlmsgLen (load bytes.1) p - rth)
      ⟩

/-- The next message is a place of the walk. -/
theorem placed_nlmsgNext (padded : WellPadded (load bytes.1) bytes.1.length) {p : Nat}
    (reached : MessageAt (load bytes.1) bytes.1.length p)
    (accepted : Accepted (load bytes.1) bytes.1.length p)
    : Placed s bytes (Walk.nlmsgNext (s.memory (some bytes)) (s.netLinkHeader + p)
        (bytes.1.length - p)) := by
  have padding := padded.padding p reached accepted
  rw [nlmsgNext_of_accepted s bytes accepted padding]
  exact .atMessage (reached.next accepted) padding

/-- The walk reads received bytes at a message, and goes on to an attribute of it or to the
next one.
-/
theorem placed_message (padded : WellPadded (load bytes.1) bytes.1.length) {p : Nat}
    (reached : MessageAt (load bytes.1) bytes.1.length p)
    : (∀ read ∈ (Walk.messageTurn (s.memory (some bytes)) (s.netLinkHeader + p)
          (bytes.1.length - p)).1,
        read.Between s.netLinkHeader (s.netLinkHeader + bytes.1.length))
      ∧ ∀ next, (Walk.messageTurn (s.memory (some bytes)) (s.netLinkHeader + p)
          (bytes.1.length - p)).2 = some next → Placed s bytes next := by
  constructor
  · intro read member
    obtain ⟨room, rfl | rfl⟩ := Walk.messageTurn_reads member
    all_goals
      unfold sizeofNlmsghdr at room
      constructor <;> simp only [Walk.readLen, Walk.readType] <;> omega
  · intro next goes
    by_cases accepted : Accepted (load bytes.1) bytes.1.length p
    · rw [messageTurn_of_accepted s bytes accepted] at goes
      obtain rfl := Option.some.inj goes
      by_cases newaddr : nlmsgType (load bytes.1) p = rtmNewaddr
      · rw [if_pos newaddr]
        exact .atAttribute reached accepted newaddr .first
      · rw [if_neg newaddr]
        exact placed_nlmsgNext padded reached accepted
    · rw [messageTurn_of_not_accepted s bytes accepted] at goes
      exact absurd goes.symm (Option.some_ne_none _)

/-- An attribute is read from the received bytes as far as the message goes. -/
theorem rtaOk_memory {p rth : Nat} (ends : p + nlmsgLen (load bytes.1) p ≤ bytes.1.length)
    : RtaOk (s.memory (some bytes)) (s.netLinkHeader + rth)
        (p + nlmsgLen (load bytes.1) p - rth)
      ↔ RtaOk (load bytes.1) rth (p + nlmsgLen (load bytes.1) p - rth) := by
  by_cases room : (sizeofRtattr : Int) ≤ p + nlmsgLen (load bytes.1) p - rth
  · unfold sizeofRtattr at room
    have length : rtaLen (s.memory (some bytes)) (s.netLinkHeader + rth)
        = rtaLen (load bytes.1) rth := half_memory s bytes (by omega)
    rw [RtaOk, RtaOk, length]
  · exact iff_of_false (fun h => room h.1) fun h => room h.1

/-- The fields of an attribute within the message are those of the received bytes. -/
theorem attributeFields_memory {p rth : Nat}
    (ends : p + nlmsgLen (load bytes.1) p ≤ bytes.1.length)
    (ok : RtaOk (load bytes.1) rth (p + nlmsgLen (load bytes.1) p - rth))
    : rtaLen (s.memory (some bytes)) (s.netLinkHeader + rth) = rtaLen (load bytes.1) rth
      ∧ rtaType (s.memory (some bytes)) (s.netLinkHeader + rth)
          = rtaType (load bytes.1) rth := by
  have room : (4 : Int) ≤ p + nlmsgLen (load bytes.1) p - rth := ok.1
  refine ⟨half_memory s bytes (by omega), ?_⟩
  rw [rtaType, Nat.add_assoc, half_memory s bytes (by omega), rtaType]

/-- The walk reads received bytes at an attribute, and goes on to the next one or to the next
message.
-/
theorem placed_attribute (padded : WellPadded (load bytes.1) bytes.1.length) {p rth : Nat}
    (reached : MessageAt (load bytes.1) bytes.1.length p)
    (accepted : Accepted (load bytes.1) bytes.1.length p)
    (newaddr : nlmsgType (load bytes.1) p = rtmNewaddr)
    (within : AttributeAt (load bytes.1) p rth)
    : (∀ read ∈ (Walk.attributeTurn (s.memory (some bytes)) (s.netLinkHeader + p)
          (bytes.1.length - p) (s.netLinkHeader + rth)
          (p + nlmsgLen (load bytes.1) p - rth)).1,
        read.Between s.netLinkHeader (s.netLinkHeader + bytes.1.length))
      ∧ ∀ next, (Walk.attributeTurn (s.memory (some bytes)) (s.netLinkHeader + p)
          (bytes.1.length - p) (s.netLinkHeader + rth)
          (p + nlmsgLen (load bytes.1) p - rth)).2 = some next → Placed s bytes next := by
  obtain ⟨ends, longer, -, -⟩ := fields_of_accepted s bytes accepted
  unfold sizeofNlmsghdr at longer
  have behind : p + 24 ≤ rth := attributeAt_ge within
  by_cases ok : RtaOk (load bytes.1) rth (p + nlmsgLen (load bytes.1) p - rth)
  swap
  · have ending : ¬ RtaOk (s.memory (some bytes)) (s.netLinkHeader + rth)
        (p + nlmsgLen (load bytes.1) p - rth) := mt (rtaOk_memory ends).mp ok
    constructor
    · intro read member
      rcases Walk.attributeTurn_reads_of_not_ok ending member with rfl | ⟨room, rfl⟩
      · constructor <;> simp only [Walk.readLen] <;> omega
      · unfold sizeofRtattr at room
        constructor <;> simp only <;> omega
    · intro next goes
      rw [Walk.attributeTurn_of_not_ok _ _ ending] at goes
      obtain rfl := Option.some.inj goes
      exact placed_nlmsgNext padded reached accepted
  have room : (4 : Int) ≤ p + nlmsgLen (load bytes.1) p - rth := ok.1
  obtain ⟨sameLength, sameType⟩ := attributeFields_memory (s := s) ends ok
  rw [Walk.attributeTurn_of_ok _ _ ((rtaOk_memory ends).mpr ok), sameLength, sameType]
  constructor
  · refine List.forall_mem_append.mpr ⟨?_, ?_⟩
    · rw [List.forall_mem_cons, List.forall_mem_singleton]
      refine ⟨⟨?_, ?_⟩, ?_, ?_⟩ <;> simp only <;> omega
    · by_cases address : rtaType (load bytes.1) rth = ifaAddress
      · have data := padded.address p reached accepted newaddr rth within ok address
        unfold sizeofRtattr at data
        rw [if_pos address, List.forall_mem_cons, List.forall_mem_singleton]
        refine ⟨⟨?_, ?_⟩, ?_, ?_⟩ <;>
          simp only [sizeofRtattr, nlmsgData, sizeofNlmsghdr] <;> omega
      · rw [if_neg address]
        exact List.forall_mem_nil _
  · intro next goes
    obtain rfl := Option.some.inj goes
    have later
        : (p + nlmsgLen (load bytes.1) p - rth - rtaAlign (rtaLen (load bytes.1) rth) : Int)
          = p + nlmsgLen (load bytes.1) p - ↑(rth + rtaAlign (rtaLen (load bytes.1) rth)) := by
      omega
    rw [later, Nat.add_assoc]
    exact .atAttribute reached accepted newaddr (within.next ok)

/-- A walk through well padded bytes stays at their messages and attributes, by induction on
its turns.
-/
theorem placed_of_visits (padded : WellPadded (load bytes.1) bytes.1.length) {w : Walk}
    (visits : s.Visits (some bytes) w)
    : Placed s bytes w := by
  obtain ⟨-, turns⟩ := visits
  induction turns with
  | refl => exact .atMessage .first (Nat.zero_le _)
  | tail _ goes ih =>
      cases ih with
      | atMessage reached _ => exact (placed_message padded reached).2 _ goes
      | atAttribute reached accepted newaddr within =>
          exact (placed_attribute padded reached accepted newaddr within).2 _ goes

/-- recv() of well padded bytes that fit into the buffer keeps to them. -/
theorem respects_of_good (good : Good s.netLinkHeader bytes.1) : s.Respects (some bytes) where
  writes := inside_singleton.mpr (.inr (Int.ofNat_le.mpr good.fits))
  reads := by
    intro w visits
    cases placed_of_visits good.padded visits with
    | atMessage reached _ => exact (placed_message good.padded reached).1
    | atAttribute reached accepted newaddr within =>
        exact (placed_attribute good.padded reached accepted newaddr within).1

-----------------------------------------------------------------------------------------
-- The messages that a walk comes to
-----------------------------------------------------------------------------------------

/-- The loop over the attributes comes to an end and to the next message, by induction on
what is left of the message.
-/
theorem goes_nlmsgNext (m : Memory) (netLinkHeader len rth : Nat) (rtl : Int)
    : ReflTransGen (Walk.Goes m) ⟨netLinkHeader, len, some (rth, rtl)⟩
        (Walk.nlmsgNext m netLinkHeader len) := by
  induction left : rtl.toNat using Nat.strong_induction_on generalizing rth rtl with
  | h left_ ih =>
      by_cases ok : RtaOk m rth rtl
      · have step
            : Walk.Goes m ⟨netLinkHeader, len, some (rth, rtl)⟩
              ⟨
                netLinkHeader,
                len,
                some (rth + rtaAlign (rtaLen m rth), rtl - rtaAlign (rtaLen m rth))
              ⟩ := congrArg Prod.snd (Walk.attributeTurn_of_ok netLinkHeader len ok)
        have shorter : (rtl - rtaAlign (rtaLen m rth)).toNat < left_ := by
          have aligned := (rtaAlign_bounds (rtaLen m rth)).1
          have ⟨room, longer, _⟩ := ok
          unfold sizeofRtattr at *
          omega
        exact .head step (ih _ shorter _ _ rfl)
      · exact .single (Walk.attributeTurn_of_not_ok netLinkHeader len ok)

/-- The walk goes from an accepted address message to its attributes. -/
theorem visits_attributes {p : Nat} (accepted : Accepted (load bytes.1) bytes.1.length p)
    (newaddr : nlmsgType (load bytes.1) p = rtmNewaddr)
    (visits : s.Visits (some bytes) ⟨s.netLinkHeader + p, bytes.1.length - p, none⟩)
    : s.Visits (some bytes)
      ⟨
        s.netLinkHeader + p,
        bytes.1.length - p,
        some (s.netLinkHeader + ifaRta (nlmsgData p),
          p + nlmsgLen (load bytes.1) p - ifaRta (nlmsgData p))
      ⟩ := by
  have turn := congrArg Prod.snd (messageTurn_of_accepted s bytes accepted)
  rw [if_pos newaddr] at turn
  exact ⟨visits.1, visits.2.tail turn⟩

/-- The walk goes from any accepted message to the next one. -/
theorem visits_nlmsgNext {p : Nat} (accepted : Accepted (load bytes.1) bytes.1.length p)
    (visits : s.Visits (some bytes) ⟨s.netLinkHeader + p, bytes.1.length - p, none⟩)
    : s.Visits (some bytes)
      (Walk.nlmsgNext (s.memory (some bytes)) (s.netLinkHeader + p)
        (bytes.1.length - p)) := by
  by_cases newaddr : nlmsgType (load bytes.1) p = rtmNewaddr
  · obtain ⟨some_, turns⟩ := visits_attributes accepted newaddr visits
    exact ⟨some_, turns.trans (goes_nlmsgNext _ _ _ _ _)⟩
  · have turn := congrArg Prod.snd (messageTurn_of_accepted s bytes accepted)
    rw [if_neg newaddr] at turn
    exact ⟨visits.1, visits.2.tail turn⟩

/-- If the walk keeps to the received bytes, the padding behind a message it comes to was
received: without it the next length would be read behind them.
-/
theorem padding_of_respects (respects : s.Respects (some bytes)) {p : Nat}
    (inside : p ≤ bytes.1.length) (accepted : Accepted (load bytes.1) bytes.1.length p)
    (visits : s.Visits (some bytes) ⟨s.netLinkHeader + p, bytes.1.length - p, none⟩)
    : p + nlmsgAlign (nlmsgLen (load bytes.1) p) ≤ bytes.1.length := by
  obtain ⟨ends, -, length, -⟩ := fields_of_accepted s bytes accepted
  have small : bytes.1.length ≤ 1024 := bytes.2
  by_contra outside
  have reads := respects.reads _ (visits_nlmsgNext accepted visits)
  have size : nlmsgLen (load bytes.1) p ≤ 1024 := by omega
  have bounds := nlmsgAlign_bounds size
  rw [Walk.nlmsgNext, length] at reads
  have huge : sizeofNlmsghdr
      ≤ (bytes.1.length - p + 2 ^ 32 - nlmsgAlign (nlmsgLen (load bytes.1) p)) % 2 ^ 32 := by
    unfold sizeofNlmsghdr
    omega
  have read := (reads _ (Walk.readLen_mem_messageTurn huge)).2
  simp only [Walk.readLen, returned] at read
  omega

/-- Where the padding behind each message was received, the walk comes to all messages, by
induction on them.
-/
theorem visits_messageAt (some_ : 0 < bytes.1.length)
    (padding : ∀ p ≤ bytes.1.length, MessageAt (load bytes.1) bytes.1.length p →
      Accepted (load bytes.1) bytes.1.length p →
      s.Visits (some bytes) ⟨s.netLinkHeader + p, bytes.1.length - p, none⟩ →
      p + nlmsgAlign (nlmsgLen (load bytes.1) p) ≤ bytes.1.length)
    {p : Nat} (reached : MessageAt (load bytes.1) bytes.1.length p)
    : p ≤ bytes.1.length
      ∧ s.Visits (some bytes) ⟨s.netLinkHeader + p, bytes.1.length - p, none⟩ := by
  induction reached with
  | first => exact ⟨Nat.zero_le _, some_, .refl⟩
  | @next p message accepted ih =>
      obtain ⟨inside, visits⟩ := ih
      have received := padding p inside message accepted visits
      have next := visits_nlmsgNext accepted visits
      rw [nlmsgNext_of_accepted s bytes accepted received] at next
      exact ⟨received, next⟩

/-- The walk comes to each attribute of an address message, by induction on them. -/
theorem visits_attributeAt {p rth : Nat}
    (accepted : Accepted (load bytes.1) bytes.1.length p)
    (newaddr : nlmsgType (load bytes.1) p = rtmNewaddr)
    (visits : s.Visits (some bytes) ⟨s.netLinkHeader + p, bytes.1.length - p, none⟩)
    (within : AttributeAt (load bytes.1) p rth)
    : s.Visits (some bytes)
      ⟨
        s.netLinkHeader + p,
        bytes.1.length - p,
        some (s.netLinkHeader + rth, p + nlmsgLen (load bytes.1) p - rth)
      ⟩ := by
  induction within with
  | first => exact visits_attributes accepted newaddr visits
  | @next rth before ok ih =>
      obtain ⟨some_, turns⟩ := ih
      obtain ⟨ends, -, -, -⟩ := fields_of_accepted s bytes accepted
      have room : (4 : Int) ≤ p + nlmsgLen (load bytes.1) p - rth := ok.1
      have sameLength : rtaLen (s.memory (some bytes)) (s.netLinkHeader + rth)
          = rtaLen (load bytes.1) rth := half_memory s bytes (by omega)
      have turn := congrArg Prod.snd (Walk.attributeTurn_of_ok (s.netLinkHeader + p)
        (bytes.1.length - p) ((@rtaOk_memory s bytes _ _ ends).mpr ok))
      rw [sameLength] at turn
      have later
          : (p + nlmsgLen (load bytes.1) p - rth - rtaAlign (rtaLen (load bytes.1) rth) : Int)
            = p + nlmsgLen (load bytes.1) p - ↑(rth + rtaAlign (rtaLen (load bytes.1) rth)) := by
        omega
      rw [later, Nat.add_assoc s.netLinkHeader rth (rtaAlign _)] at turn
      exact ⟨some_, turns.tail turn⟩

/-- If recv() and the walk after it keep to their bytes, what was received is in the buffer
and well padded.
-/
theorem good_of_respects (inside : s.netLinkHeader ≤ headerBufSize)
    (respects : s.Respects (some bytes))
    : Good s.netLinkHeader bytes.1 := by
  have room : 0 < bytes.1.length ∨ bytes.1.length = 0 := by omega
  rcases room with some_ | empty
  swap
  · refine ⟨by omega, ⟨?_, ?_⟩⟩
    all_goals
      intro p _ accepted
      have size := accepted.1.1
      unfold sizeofNlmsghdr at size
      omega
  have comes {p : Nat} (reached : MessageAt (load bytes.1) bytes.1.length p) :=
    visits_messageAt (s := s) some_
      (fun _ inside _ accepted visits => padding_of_respects respects inside accepted visits)
      reached
  refine ⟨?_, ?_, ?_⟩
  · rcases inside_singleton.mp respects.writes with empty | ending
    · have size : bytes.1.length = 0 := congrArg List.length empty
      omega
    · exact Int.ofNat_le.mp ending
  · intro p reached accepted
    obtain ⟨inside, visits⟩ := comes reached
    exact padding_of_respects respects inside accepted visits
  · intro p reached accepted newaddr rth within ok address
    obtain ⟨-, visits⟩ := comes reached
    obtain ⟨ends, -, -, -⟩ := fields_of_accepted s bytes accepted
    have room : (4 : Int) ≤ p + nlmsgLen (load bytes.1) p - rth := ok.1
    have reads := respects.reads _ (visits_attributeAt accepted newaddr visits within)
    have sameType : rtaType (s.memory (some bytes)) (s.netLinkHeader + rth)
        = rtaType (load bytes.1) rth := by
      rw [rtaType, Nat.add_assoc, half_memory s bytes (by omega), rtaType]
    simp only [Walk.turn] at reads
    rw [Walk.attributeTurn_of_ok _ _ ((rtaOk_memory ends).mpr ok), sameType,
      if_pos address] at reads
    have data := (reads ⟨s.netLinkHeader + rth + sizeofRtattr, 4⟩ (by simp)).2
    simp only [returned] at data
    omega

end Walking

-----------------------------------------------------------------------------------------
-- Sequences of recv()
-----------------------------------------------------------------------------------------

/-- A failed recv() is followed by a walk that reads what was not received. -/
theorem not_respects_none (s : Watch) : ¬ s.Respects none := by
  intro respects
  have visits : s.Visits none ⟨s.netLinkHeader, 2 ^ 32 - 1, none⟩ := ⟨by decide, .refl⟩
  have read := respects.reads _ visits (Walk.readLen s.netLinkHeader)
    (Walk.readLen_mem_messageTurn (show 16 ≤ 2 ^ 32 - 1 by decide))
  have size := read.2
  simp only [Walk.readLen, returned, List.length_nil] at size
  omega

/-- A walk through well padded bytes leaves the pointer where their messages end. -/
theorem leaves_iff {s next : Watch}
    {bytes : {bytes : List UInt8 // bytes.length ≤ headerBufSize}}
    (padded : WellPadded (load bytes.1) bytes.1.length)
    : s.Leaves (some bytes) next
      ↔ next.headerBuf = s.memory (some bytes)
        ∧ ∃ p, EndsAt (load bytes.1) bytes.1.length p
          ∧ next.netLinkHeader = s.netLinkHeader + p := by
  refine and_congr_right fun _ => ⟨?_, ?_⟩
  · rintro (⟨empty, same⟩ | ⟨w, visits, ends, same⟩)
    · refine ⟨0, ⟨.first, fun accepted => ?_⟩, same⟩
      have room := accepted.1.1
      have size : bytes.1.length = 0 := empty
      unfold sizeofNlmsghdr at room
      omega
    · cases placed_of_visits padded visits with
      | @atMessage p reached _ =>
          refine ⟨p, ⟨reached, fun accepted => ?_⟩, same⟩
          simp only [Walk.turn, messageTurn_of_accepted s bytes accepted] at ends
          exact Option.some_ne_none _ ends
      | atAttribute _ _ _ _ =>
          exact absurd ends (Walk.attributeTurn_ne_none _ _ _ _ _)
  · rintro ⟨p, ⟨reached, ends⟩, same⟩
    have room : 0 < bytes.1.length ∨ bytes.1.length = 0 := by omega
    rcases room with some_ | empty
    · obtain ⟨-, visits⟩ := visits_messageAt (s := s) some_
        (fun p _ reached accepted _ => padded.padding p reached accepted) reached
      exact .inr ⟨_, visits, messageTurn_of_not_accepted s bytes ends, same⟩
    · have first : p ≤ bytes.1.length := padded.messageAt_le reached
      refine .inl ⟨empty, same.trans ?_⟩
      omega

/-- Every recv() in a sequence and the walk after it keep to their bytes exactly if none fails,
and each one returns well padded bytes that fit behind the messages before, by induction on
the sequence.
-/
theorem safe_iff {s : Watch} (inside : s.netLinkHeader ≤ headerBufSize)
    (received : List Received)
    : s.Safe received ↔ AllGood s.netLinkHeader received := by
  induction received generalizing s with
  | nil => exact Iff.rfl
  | cons r rest ih =>
      cases r with
      | none => exact iff_of_false (fun safe => not_respects_none s safe.1) id
      | some bytes =>
          have first : s.Respects (some bytes) ↔ Good s.netLinkHeader bytes.1 :=
            ⟨good_of_respects inside, respects_of_good⟩
          rw [Safe, AllGood, first]
          refine and_congr_right fun good => ?_
          have bound {p : Nat} (ends : EndsAt (load bytes.1) bytes.1.length p)
              : s.netLinkHeader + p ≤ headerBufSize :=
            le_trans (Nat.add_le_add_left (good.padded.messageAt_le ends.1) _) good.fits
          constructor
          · intro later p ends
            have leaves : s.Leaves (some bytes) ⟨s.memory (some bytes), s.netLinkHeader + p⟩ :=
              (leaves_iff good.padded).mpr ⟨rfl, p, ends, rfl⟩
            exact (ih (bound ends)).mp (later _ leaves)
          · rintro later ⟨headerBuf, netLinkHeader⟩ leaves
            obtain ⟨-, p, ends, rfl⟩ := (leaves_iff good.padded).mp leaves
            exact (ih (bound ends)).mpr (later p ends)

/-- The task keeps to its buffer and to what it received exactly if no recv() fails, and each
one returns well padded bytes that fit behind the messages of those before it.
-/
theorem usb0IpWatchTask_safe_iff (headerBuf : Memory) (received : List Received)
    : Safe ⟨headerBuf, 0⟩ received ↔ AllGood 0 received :=
  safe_iff (Nat.zero_le _) received

/-- A recv() that fails. -/
theorem usb0IpWatchTask_unsafe
    : ¬ ∀ (headerBuf : Memory) (received : List Received), Safe ⟨headerBuf, 0⟩ received :=
  fun always => not_respects_none _ (always (fun _ => 0) [none]).1

end Watch

end Reconn.Network
