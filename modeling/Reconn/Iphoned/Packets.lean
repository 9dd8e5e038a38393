import Mathlib.Logic.Function.Basic
import Reconn.Library.ByteStuffing

/-! The iphoned protocol of libiphoned.c: the frames written to the daemon, the stateful
packet parser for the bytes received from it, and the handlers of a complete packet.
-/

namespace Reconn.Iphoned

def startByte : UInt8 := 0x89

/-- ESCAPE_BYTE is the character 'a'. -/
def escapeByte : UInt8 := 0x61

def msgReportIphonePresence : UInt8 := 0x88
def msgReportData : UInt8 := 0x03

/-- The start and escape bytes as the reserved symbols of a stuffed stream. -/
def code : ByteStuffing.Code UInt8 := ⟨startByte, escapeByte, by decide⟩

/-- The bytes send_sock_msg puts in its buffer: the start byte, then the two length bytes,
the command and the payload, each escaped where it is reserved.
-/
def sockMsg (cmdid : UInt8) (outbuf : List UInt8) : List UInt8 :=
  let msglen := outbuf.length + 1
  startByte
    :: (code.stuffOne (UInt8.ofNat (msglen / 256))
        ++ code.stuffOne (UInt8.ofNat (msglen % 256))
        ++ code.stuffOne cmdid
        ++ outbuf.flatMap code.stuffOne)

/-- (sendSockMsg iphonedFd send cmdid outbuf) is what is passed to send(), if anything, and
the returned status; `send` is the result of the call.
-/
def sendSockMsg (iphonedFd : Int) (send : List UInt8 → Int) (cmdid : UInt8)
    (outbuf : List UInt8)
    : Option (List UInt8) × Int :=
  if iphonedFd ≠ -1 then
    let buf := sockMsg cmdid outbuf
    -- The result is compared with the payload's length, not with the frame's.
    (some buf, if send buf = outbuf.length then 0 else -1)
  else (none, -1)

-----------------------------------------------------------------------------------------
-- Receiving
-----------------------------------------------------------------------------------------

/-- A malloc'ed packet buffer. Only indices below `size` belong to the allocation; what
`bytes` holds elsewhere is whatever the heap has there.
-/
structure Packet where
  size : Nat
  bytes : Nat → UInt8

/-- The bytes of the packet's first `len` cells. -/
def Packet.take (packet : Packet) (len : Nat) : List UInt8 := (List.range len).map packet.bytes

/-- A NULL currpkt owns no cell. -/
def Packet.null : Packet := ⟨0, fun _ => 0⟩

/-- What the parser does besides updating its state. `size` is always the allocated size of
the buffer that is accessed.
-/
inductive Event where
  | write (index size : Nat)
  | read (index size : Nat)
  | processmsg (msgbuf : List UInt8) (len : Nat)
  | presencechangecallbackfn
  | rxcallbackfn (data : List UInt8) (len : Int)
  deriving DecidableEq, Repr

/-- The file's static variables, except the escape flag. The two callback fields say whether
a callback is registered; `mallocs` counts the packets allocated so far.
-/
structure Receiver where
  packetpos : Nat
  msglen : Nat
  currpkt : Option Packet
  mallocs : Nat
  iphoneconnected : Bool
  lastpresence : Int
  rxcallbackfn : Bool
  presencechangecallbackfn : Bool

structure State where
  isEscaped : Bool
  receiver : Receiver

/-- The static initialisers, with the given callbacks registered. -/
def State.initial (rxcallbackfn presencechangecallbackfn : Bool) : State where
  isEscaped := false
  receiver := {
    packetpos := 0
    msglen := 0
    currpkt := none
    mallocs := 0
    iphoneconnected := false
    lastpresence := -1
    rxcallbackfn
    presencechangecallbackfn
  }

namespace Receiver

/-- process_msg_report_iphone_presence -/
def processMsgReportIphonePresence (s : Receiver) (buf : Packet) : Receiver × List Event :=
  let presence := buf.bytes 1
  let s := { s with iphoneconnected := presence == 1 }
  if (presence.toNat : Int) ≠ s.lastpresence then
    (
      { s with lastpresence := presence.toNat },
      .read 1 buf.size :: if s.presencechangecallbackfn then [.presencechangecallbackfn] else []
    )
  else (s, [.read 1 buf.size])

/-- process_msg_report_data hands over the bytes after the command; `len - 1` is signed. -/
def processMsgReportData (s : Receiver) (buf : Packet) (len : Nat) : List Event :=
  if s.rxcallbackfn then
    [.rxcallbackfn ((List.range (len - 1)).map fun index => buf.bytes (index + 1)) (len - 1 : Int)]
  else []

def processmsg (s : Receiver) (msgbuf : Packet) (len : Nat) : Receiver × List Event :=
  let called := [Event.processmsg (msgbuf.take len) len, .read 0 msgbuf.size]
  if msgbuf.bytes 0 = msgReportIphonePresence then
    let handled := s.processMsgReportIphonePresence msgbuf
    (handled.1, called ++ handled.2)
  else if msgbuf.bytes 0 = msgReportData then (s, called ++ s.processMsgReportData msgbuf len)
  else (s, called)

/-- Stores one byte of the packet body. -/
def store (s : Receiver) (currbyte : UInt8) : Receiver × List Event :=
  let packet := s.currpkt.getD .null
  let index := s.packetpos - 3
  (
    {
      s with
      currpkt := s.currpkt.map fun packet =>
        { packet with bytes := Function.update packet.bytes index currbyte }
      packetpos := s.packetpos + 1
    },
    [.write index packet.size]
  )

/-- The position cascade of processrx for one decoded byte. `heap n` is what the n-th
allocated buffer contains before anything is stored in it.
-/
def advance (heap : Nat → Nat → UInt8) (s : Receiver) (currbyte : UInt8) (ctrlbyte : Bool)
    : Receiver × List Event :=
  if s.packetpos = 0 ∧ ctrlbyte = false then (s, [])
  else if ctrlbyte then
    if currbyte = startByte then ({ s with packetpos := 1, msglen := 0 }, []) else (s, [])
  else if s.packetpos = 1 then
    ({ s with msglen := s.msglen + currbyte.toNat * 256, packetpos := 2 }, [])
  else if s.packetpos = 2 then
    let msglen := s.msglen + currbyte.toNat
    -- Any packet still held is freed before this allocation.
    (
      {
        s with
        msglen
        packetpos := 3
        currpkt := some ⟨msglen, heap s.mallocs⟩
        mallocs := s.mallocs + 1
      },
      []
    )
  else if s.packetpos ≤ s.msglen + 3 then s.store currbyte
  else (s, [])

/-- Hands a complete packet to processmsg and frees it. -/
def complete (s : Receiver) : Receiver × List Event :=
  if 2 < s.packetpos ∧ s.msglen + 3 ≤ s.packetpos then
    let handled := s.processmsg (s.currpkt.getD .null) s.msglen
    ({ handled.1 with currpkt := none, packetpos := 0 }, handled.2)
  else (s, [])

def processDecoded (heap : Nat → Nat → UInt8) (s : Receiver) (currbyte : UInt8)
    (ctrlbyte : Bool)
    : Receiver × List Event :=
  let advanced := s.advance heap currbyte ctrlbyte
  let completed := advanced.1.complete
  (completed.1, advanced.2 ++ completed.2)

end Receiver

/-- One turn of the processrx loop. -/
def processByte (heap : Nat → Nat → UInt8) (s : State) (byte : UInt8) : State × List Event :=
  let decoded (currbyte : UInt8) (ctrlbyte : Bool) : State × List Event :=
    let processed := s.receiver.processDecoded heap currbyte ctrlbyte
    (⟨false, processed.1⟩, processed.2)
  if s.isEscaped then decoded byte false
  else if byte = escapeByte then ({ s with isEscaped := true }, [])
  else if byte = startByte then decoded startByte true
  else decoded byte false

def processrx (heap : Nat → Nat → UInt8) (s : State) (inbuf : List UInt8)
    : State × List Event :=
  MealyRuns.run (processByte heap) s inbuf

/-- processrx called once for each received chunk, in order. -/
def processChunks (heap : Nat → Nat → UInt8) (s : State) (chunks : List (List UInt8))
    : State × List Event :=
  MealyRuns.run (processrx heap) s chunks

/-- The calls of processmsg among some events: the packet and its length. -/
def processmsgCalls (events : List Event) : List (List UInt8 × Nat) :=
  events.filterMap fun
    | .processmsg msgbuf len => some (msgbuf, len)
    | _ => none

namespace Receiver

/-- The decoded part of the parser, on what the escape decoder makes of the stream. -/
def processSymbol (heap : Nat → Nat → UInt8) (s : Receiver)
    : ByteStuffing.Symbol UInt8 → Receiver × List Event
  | .mark => s.processDecoded heap startByte true
  | .data value => s.processDecoded heap value false

def processSymbols (heap : Nat → Nat → UInt8) (s : Receiver)
    (symbols : List (ByteStuffing.Symbol UInt8))
    : Receiver × List Event :=
  MealyRuns.run (processSymbol heap) s symbols

theorem processSymbols_append (heap : Nat → Nat → UInt8) (s : Receiver)
    (first second : List (ByteStuffing.Symbol UInt8))
    : s.processSymbols heap (first ++ second)
      = (((s.processSymbols heap first).1.processSymbols heap second).1,
          (s.processSymbols heap first).2
          ++ ((s.processSymbols heap first).1.processSymbols heap second).2) :=
  MealyRuns.run_append _ _ _ _

end Receiver

/-- One received byte is one step of the escape decoder followed by what the decoded part
makes of its symbol, if it yields one. Witness: the cases of the escape detection.
-/
theorem processByte_read (heap : Nat → Nat → UInt8) (s : State) (byte : UInt8)
    : processByte heap s byte
      = (⟨(code.read s.isEscaped byte).1,
            (s.receiver.processSymbols heap (code.read s.isEscaped byte).2).1⟩,
          (s.receiver.processSymbols heap (code.read s.isEscaped byte).2).2) := by
  obtain ⟨isEscaped, receiver⟩ := s
  cases isEscaped with
  | true =>
      simp [processByte, ByteStuffing.Code.read, Receiver.processSymbols,
        Receiver.processSymbol]
  | false =>
      by_cases escape : byte = escapeByte
      · simp [processByte, ByteStuffing.Code.read, Receiver.processSymbols, code, escape]
      · by_cases start : byte = startByte
        · have other : startByte ≠ escapeByte := by decide
          simp [processByte, ByteStuffing.Code.read, Receiver.processSymbols,
            Receiver.processSymbol, code, start, other]
        · simp [processByte, ByteStuffing.Code.read, Receiver.processSymbols,
            Receiver.processSymbol, code, escape, start]

/-- processrx decodes its buffer and feeds the decoded symbols to the packet parser.
Witness: induction on the buffer with the one-byte case.
-/
theorem processrx_eq (heap : Nat → Nat → UInt8) (s : State) (inbuf : List UInt8)
    : processrx heap s inbuf
      = (⟨(code.readAll s.isEscaped inbuf).1,
            (s.receiver.processSymbols heap (code.readAll s.isEscaped inbuf).2).1⟩,
          (s.receiver.processSymbols heap (code.readAll s.isEscaped inbuf).2).2) := by
  induction inbuf generalizing s with
  | nil => rfl
  | cons byte rest ih =>
      have unfolded : processrx heap s (byte :: rest)
          = ((processrx heap (processByte heap s byte).1 rest).1,
              (processByte heap s byte).2
              ++ (processrx heap (processByte heap s byte).1 rest).2) := rfl
      have reading : code.readAll s.isEscaped (byte :: rest)
          = ((code.readAll (code.read s.isEscaped byte).1 rest).1,
              (code.read s.isEscaped byte).2
              ++ (code.readAll (code.read s.isEscaped byte).1 rest).2) := rfl
      rw [unfolded, ih, processByte_read, reading, Receiver.processSymbols_append]

/-- Chunk boundaries do not matter to the parser. -/
theorem processChunks_eq (heap : Nat → Nat → UInt8) (s : State) (chunks : List (List UInt8))
    : processChunks heap s chunks = processrx heap s chunks.flatten :=
  MealyRuns.run_flatten _ _ _

end Reconn.Iphoned
