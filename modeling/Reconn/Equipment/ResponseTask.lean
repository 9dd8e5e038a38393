import Reconn.Analyzer.SelectRead
import Reconn.Client.ResponseBytes
import Reconn.Client.State
import Reconn.Library.Appends
import Reconn.Library.TransitionRuns

/-! The responses of the equipment, by reconnGetEqptResponseTask of eqptResponse.c. The task
reads a device that has something to say until it has no more or a payload is full, and queues
what it has read as one message to the clients. No read is told how much space is left.
-/

namespace Reconn.Equipment

open Appends TransitionRuns
open Analyzer (Call spectrumAnalyzerRead)
open Client (
  Action ReconnErrCode ResponsePacket reconnDmmPortNotInitialized reconnFailure
  reconnPmPortNotInitialized reconnRspPacketHeaderSize reconnRspPayloadSize reconnSuccess
  responseLength responsePayload)

def specanaPktRcvdNotif : UInt16 := 0x0203
def pmeterPktRcvdNotif : UInt16 := 0x0403
def dmmPktRcvdNotif : UInt16 := 0x0503
def maxCommandInput : Nat := 1024

/-- The devices that the task reads, in the order in which it looks at them. -/
inductive Device where
  | dmm
  | analyzer
  | powerMeter
  deriving DecidableEq, Repr

def Device.messageId : Device → UInt16
  | .dmm => dmmPktRcvdNotif
  | .analyzer => specanaPktRcvdNotif
  | .powerMeter => pmeterPktRcvdNotif

/-- What a read meets: whether the device's port is open, and what read() gives, none where it
fails or gives nothing.
-/
structure Attempt where
  portInit : Bool
  read : Option (List UInt8)
  deriving DecidableEq, Repr

/-- A read of a fixed size: its result, *length afterwards, and its call of read(). -/
def fixedSizeRead (notInitialized : ReconnErrCode) (size : Nat) (length : Int)
    (portInit : Bool) (read : Option (List UInt8))
    : ReconnErrCode × Int × List Call :=
  if portInit = false then (notInitialized, length, [])
  else match read with
    | none => (reconnFailure, 0, [⟨size, []⟩])
    | some bytes => (reconnSuccess, bytes.length, [⟨size, bytes⟩])

def dmmRead : Int → Bool → Option (List UInt8) → ReconnErrCode × Int × List Call :=
  fixedSizeRead reconnDmmPortNotInitialized 2044

def powerMeterRead : Int → Bool → Option (List UInt8) → ReconnErrCode × Int × List Call :=
  fixedSizeRead reconnPmPortNotInitialized maxCommandInput

def Device.read (device : Device) (length : Int) (attempt : Attempt)
    : ReconnErrCode × Int × List Call :=
  match device with
  | .dmm => dmmRead length attempt.portInit attempt.read
  | .analyzer => spectrumAnalyzerRead length attempt.portInit attempt.read
  | .powerMeter => powerMeterRead length attempt.portInit attempt.read

/-- read() gives at least one byte where it gives some, and no more than it was asked for. -/
def Serves (attempt : Attempt) (calls : List Call) : Prop :=
  attempt.read ≠ some [] ∧ ∀ call ∈ calls, call.delivered.length ≤ call.requested

instance (attempt : Attempt) (calls : List Call) : Decidable (Serves attempt calls) :=
  inferInstanceAs (Decidable (_ ∧ _))

/-- The variables of a visit to a device, with the stores into the payload so far and the
readStatus that its loop has ended with, none while it runs.
-/
structure Visit where
  payloadIndex : Nat
  length : Int
  stores : List (Store UInt8)
  readStatus : Option ReconnErrCode
  deriving DecidableEq, Repr

namespace Visit

/-- A visit before its loop. The payload is cleared; for the analyzer so is the length, which
the visits share.
-/
def start (device : Device) (length : Int) : Visit where
  payloadIndex := 0
  length := if device = .analyzer then 0 else length
  stores := []
  readStatus := none

/-- What the loop does with a length that was read. A payload that is full ends it; one that is
more than full ends it as well, but not for the DMM.
-/
def advance (device : Device) (s : Visit) : Visit :=
  let payloadIndex := s.payloadIndex + s.length.toNat
  if payloadIndex < reconnRspPayloadSize then { s with payloadIndex }
  else if payloadIndex = reconnRspPayloadSize then
    { s with payloadIndex, readStatus := some reconnSuccess }
  else
    {
      s with
      payloadIndex := reconnRspPayloadSize
      readStatus := if device = .dmm then none else some reconnSuccess
    }

/-- One turn of the loop; none if it has ended, or if read() cannot give that. -/
def turn (device : Device) (s : Visit) (attempt : Attempt) : Option Visit :=
  if s.readStatus.isSome then none
  else
    let result := device.read s.length attempt
    if Serves attempt result.2.2 then
      let s : Visit :=
        {
          s with
          length := result.2.1
          stores :=
            s.stores ++ result.2.2.map fun call => ⟨s.payloadIndex, call.delivered⟩
        }
      if result.1 = reconnSuccess then some (s.advance device)
      else some { s with readStatus := some result.1 }
    else none

/-- The response packet of a visit, with as much of its payload as was read. -/
def message (device : Device) (s : Visit) : List UInt8 :=
  let thePacket : ResponsePacket :=
    {
      ResponsePacket.zero.address device.messageId with
      dataPayload := contents (fun _ => 0) s.stores
    }
  (thePacket.withLength s.payloadIndex).bytes (reconnRspPacketHeaderSize + s.payloadIndex)

/-- What the task sends at the end of a visit. The power meter's message is dropped if its port
is closed meanwhile.
-/
def actions (device : Device) (insertedMasterSocketFd : Int) (s : Visit) : List Action :=
  match s.readStatus with
  | none => []
  | some readStatus =>
      if device = .powerMeter ∧ readStatus = reconnPmPortNotInitialized then []
      else if s.payloadIndex = 0 then []
      else
        (if insertedMasterSocketFd = -1 then [] else [.libiphonedTx (s.message device)])
          ++ [.reconnEqptAddMsgToQ (s.message device)]

end Visit

/-- A visit of reconnGetEqptResponseTask to a device, on what its reads meet. -/
def visit (device : Device) (length : Int) (attempts : List Attempt) : Option Visit :=
  attempts.foldlM (Visit.turn device) (.start device length)

/-- The bytes that a read gives. -/
def Attempt.received : Attempt → List UInt8
  | ⟨true, some bytes⟩ => bytes
  | ⟨true, none⟩ | ⟨false, _⟩ => []

/-- All bytes that the reads give. -/
def received (attempts : List Attempt) : List UInt8 := attempts.flatMap Attempt.received

/-- A visit has stored nothing behind the payload, and if what it has stored fits a payload,
the message that it queues has this for its payload and its length for its dataLength. Unless
the power meter's port is closed, it queues what it has read.
-/
structure Visit.Assembles (device : Device) (insertedMasterSocketFd : Int) (s : Visit)
    : Prop where
  inside : Inside reconnRspPayloadSize s.stores
  message
    : (stored s.stores).length ≤ reconnRspPayloadSize
      → ∀ buffer, .reconnEqptAddMsgToQ buffer ∈ s.actions device insertedMasterSocketFd
        → responseLength buffer = (stored s.stores).length
          ∧ responsePayload buffer = stored s.stores
  queued
    : (stored s.stores).length ≤ reconnRspPayloadSize → stored s.stores ≠ []
      → s.readStatus.isSome = true → s.readStatus ≠ some reconnPmPortNotInitialized
        → ∃ buffer, .reconnEqptAddMsgToQ buffer ∈ s.actions device insertedMasterSocketFd

-----------------------------------------------------------------------------------------
-- What a visit stores
-----------------------------------------------------------------------------------------

section

variable (device : Device) (length : Int) (attempt : Attempt)

/-- A successful read stores what it gives and returns its length; any other stores nothing,
by cases on the device and on what the read meets.
-/
theorem Device.read_stores (index : Nat)
    : let result := device.read length attempt
      let stores := result.2.2.map fun call => (⟨index, call.delivered⟩ : Store UInt8)
      InARow index stores ∧ stored stores = attempt.received
        ∧ if result.1 = reconnSuccess then result.2.1 = attempt.received.length
          else attempt.received = [] := by
  obtain ⟨portInit, read⟩ := attempt
  cases portInit <;> cases read <;> cases device <;>
    simp [Device.read, dmmRead, powerMeterRead, fixedSizeRead, spectrumAnalyzerRead,
      Attempt.received, InARow, stored, reconnSuccess, reconnFailure,
      reconnDmmPortNotInitialized, reconnPmPortNotInitialized]

end

namespace Visit

/-- The loop stores nothing with a length that was read. -/
theorem advance_stores (device : Device) (s : Visit)
    : (s.advance device).stores = s.stores := by
  unfold advance
  dsimp only
  split_ifs <;> rfl

/-- It counts a length that fits. -/
theorem advance_payloadIndex (device : Device) {s : Visit}
    (fits : s.payloadIndex + s.length.toNat ≤ reconnRspPayloadSize)
    : (s.advance device).payloadIndex = s.payloadIndex + s.length.toNat := by
  unfold advance
  dsimp only
  rcases fits.lt_or_eq with less | full
  · rw [if_pos less]
  · rw [if_neg full.not_lt, if_pos full]

/-- The visit has stored these bytes, one behind the other as long as they fit; else not all of
them inside the payload.
-/
structure Keeps (s : Visit) (bytes : List UInt8) : Prop where
  kept : stored s.stores = bytes
  fits : bytes.length ≤ reconnRspPayloadSize
    → InARow 0 s.stores ∧ s.payloadIndex = bytes.length
  spills : reconnRspPayloadSize < bytes.length → ¬ Inside reconnRspPayloadSize s.stores

theorem keeps_start (device : Device) (length : Int) : (start device length).Keeps [] where
  kept := rfl
  fits _ := ⟨trivial, rfl⟩
  spills more := absurd more (by decide)

section

variable {s : Visit} {bytes : List UInt8} {more : List (Store UInt8)}

/-- Stores at the payload index continue the ones before them, as long as these fit. -/
theorem Keeps.inARow (keeps : s.Keeps bytes) (row : InARow s.payloadIndex more)
    (fits : bytes.length ≤ reconnRspPayloadSize)
    : InARow 0 (s.stores ++ more) := by
  obtain ⟨before, index⟩ := keeps.fits fits
  refine inARow_append.mpr ⟨before, ?_⟩
  rw [keeps.kept, Nat.zero_add, ← index]
  exact row

/-- Bytes that do not fit are not all stored inside the payload. Witness: either the ones
before did not fit, or the stores are in a row.
-/
theorem Keeps.not_inside (keeps : s.Keeps bytes) (row : InARow s.payloadIndex more)
    (spills : reconnRspPayloadSize < (bytes ++ stored more).length)
    : ¬ Inside reconnRspPayloadSize (s.stores ++ more) := by
  rcases Nat.lt_or_ge reconnRspPayloadSize bytes.length with early | fits
  · exact fun inside => keeps.spills early (inside_append.mp inside).1
  · rw [(keeps.inARow row fits).inside_iff, stored_append, keeps.kept, Nat.zero_add]
    rintro (empty | small)
    · rw [empty] at spills
      cases spills
    · omega

end

/-- A turn adds what its read gives to the bytes. Witness: the stores are those of the read,
and a length that fits is counted.
-/
theorem Keeps.turn {device : Device} {s next : Visit} {attempt : Attempt}
    {bytes : List UInt8} (keeps : s.Keeps bytes) (taken : s.turn device attempt = some next)
    : next.Keeps (bytes ++ attempt.received) := by
  unfold Visit.turn at taken
  obtain ⟨-, taken⟩ := Option.ite_none_left_eq_some.mp taken
  obtain ⟨-, taken⟩ := Option.ite_none_right_eq_some.mp taken
  have reads := device.read_stores s.length attempt s.payloadIndex
  dsimp only at reads taken
  generalize device.read s.length attempt = result at reads taken
  generalize result.2.2.map (fun call => (⟨s.payloadIndex, call.delivered⟩ : Store UInt8))
    = more at reads taken
  obtain ⟨row, same, outcome⟩ := reads
  have kept : stored (s.stores ++ more) = bytes ++ attempt.received := by
    rw [stored_append, keeps.kept, same]
  have inARow (small : (bytes ++ attempt.received).length ≤ reconnRspPayloadSize)
      : InARow 0 (s.stores ++ more) ∧ s.payloadIndex = bytes.length := by
    rw [List.length_append] at small
    exact ⟨keeps.inARow row (by omega), (keeps.fits (by omega)).2⟩
  have spills : reconnRspPayloadSize < (bytes ++ attempt.received).length
      → ¬ Inside reconnRspPayloadSize (s.stores ++ more) :=
    fun large => keeps.not_inside row (same ▸ large)
  split_ifs at taken outcome with success
  · obtain rfl := Option.some.inj taken
    refine ⟨?_, fun small => ⟨?_, ?_⟩, fun large => ?_⟩
    · rwa [advance_stores]
    · rw [advance_stores]
      exact (inARow small).1
    · have index := (inARow small).2
      rw [List.length_append] at small ⊢
      rw [advance_payloadIndex] <;> dsimp only <;> rw [outcome, Int.toNat_natCast, index]
      exact small
    · rw [advance_stores]
      exact spills large
  · obtain rfl := Option.some.inj taken
    refine ⟨kept, fun small => ⟨(inARow small).1, ?_⟩, spills⟩
    rw [outcome, List.append_nil]
    exact (inARow small).2

end Visit

/-- A visit has stored what its reads give, by induction on them. -/
theorem visit_keeps {device : Device} {length : Int} {attempts : List Attempt} {s : Visit}
    (visited : visit device length attempts = some s)
    : s.Keeps (received attempts) := by
  let Inv (rest : List Attempt) (state : Visit) : Prop :=
    ∃ bytes, state.Keeps bytes ∧ bytes ++ received rest = received attempts
  have keep : ∀ attempt rest state next,
      Inv (attempt :: rest) state → state.turn device attempt = some next
        → Inv rest next := by
    rintro attempt rest state next ⟨bytes, keeps, same⟩ taken
    refine ⟨bytes ++ attempt.received, keeps.turn taken, ?_⟩
    rw [← same, List.append_assoc]
    rfl
  obtain ⟨bytes, keeps, same⟩ : Inv [] s :=
    foldlM_invariant Inv keep ⟨[], Visit.keeps_start device length, rfl⟩ visited
  rw [← same, received, List.flatMap_nil, List.append_nil]
  exact keeps

-----------------------------------------------------------------------------------------
-- What a visit queues
-----------------------------------------------------------------------------------------

namespace Visit

/-- What a visit queues is its message. -/
theorem mem_actions {device : Device} {insertedMasterSocketFd : Int} {s : Visit}
    {buffer : List UInt8}
    : .reconnEqptAddMsgToQ buffer ∈ s.actions device insertedMasterSocketFd
      ↔ (∃ readStatus, s.readStatus = some readStatus
          ∧ ¬ (device = .powerMeter ∧ readStatus = reconnPmPortNotInitialized))
        ∧ s.payloadIndex ≠ 0 ∧ buffer = s.message device := by
  unfold actions
  cases s.readStatus with
  | none => simp
  | some readStatus =>
      dsimp only
      split_ifs with dropped empty inserted <;> simp_all

/-- The message of a visit whose bytes fit has their number and the bytes. -/
theorem Keeps.message {s : Visit} {bytes : List UInt8} (keeps : s.Keeps bytes)
    (fits : bytes.length ≤ reconnRspPayloadSize) (device : Device)
    : responseLength (s.message device) = bytes.length
      ∧ responsePayload (s.message device) = bytes := by
  obtain ⟨row, index⟩ := keeps.fits fits
  unfold Visit.message
  dsimp only
  rw [ResponsePacket.responseLength_bytes, ResponsePacket.responsePayload_bytes]
  constructor
  · have word : s.payloadIndex < UInt16.size := by
      rw [index]
      exact Nat.lt_of_le_of_lt fits (by decide)
    rw [← index]
    exact UInt16.toNat_ofNat_of_lt' word
  · have payload := row.map_contents fun _ => 0
    rw [keeps.kept] at payload
    rw [index]
    exact payload

end Visit

/-- A visit assembles what its reads give into one message exactly if a payload has room for
it: what fits is always queued as it was read, and what does not fit is stored outside.
-/
theorem visit_assembles_iff {device : Device} {length : Int} {attempts : List Attempt}
    {insertedMasterSocketFd : Int} {s : Visit}
    (visited : visit device length attempts = some s)
    : s.Assembles device insertedMasterSocketFd
      ↔ (received attempts).length ≤ reconnRspPayloadSize := by
  have keeps := visit_keeps visited
  constructor
  · intro assembles
    by_contra more
    exact keeps.spills (Nat.lt_of_not_le more) assembles.inside
  · intro fits
    obtain ⟨row, index⟩ := keeps.fits fits
    refine ⟨row.inside_iff.mpr (.inr ?_), fun _ buffer queued => ?_, ?_⟩
    · rw [keeps.kept, Nat.zero_add]
      exact Int.ofNat_le.mpr fits
    · obtain ⟨-, -, rfl⟩ := Visit.mem_actions.mp queued
      rw [keeps.kept]
      exact keeps.message fits device
    · rw [keeps.kept]
      intro _ some_read ended open_
      obtain ⟨readStatus, same⟩ := Option.isSome_iff_exists.mp ended
      refine ⟨s.message device, Visit.mem_actions.mpr ⟨⟨readStatus, same, ?_⟩, ?_, rfl⟩⟩
      · rintro ⟨-, rfl⟩
        exact open_ same
      · rw [index]
        exact fun none => some_read (List.eq_nil_of_length_eq_zero none)

/-- A visit to the analyzer, which gives three bytes and then two. -/
theorem visit_assembles_twoReads
    : ∃ s,
      visit .analyzer 7
          [⟨true, some [1, 2, 3]⟩, ⟨true, some [4, 5]⟩, ⟨true, none⟩]
        = some s
      ∧ s.Assembles .analyzer (-1) := by
  have visited
      : visit .analyzer 7 [⟨true, some [1, 2, 3]⟩, ⟨true, some [4, 5]⟩, ⟨true, none⟩]
        = some ⟨5, 2, [⟨0, [1, 2, 3]⟩, ⟨3, [4, 5]⟩, ⟨5, []⟩], some reconnFailure⟩ := by
    decide
  exact ⟨_, visited, (visit_assembles_iff visited).mpr (by decide)⟩

/-- Two reads of the DMM, each of as many bytes as it asks for. -/
def dmmOverflow : List Attempt :=
  [⟨true, some (List.replicate 2044 1)⟩, ⟨true, some (List.replicate 2044 2)⟩, ⟨true, none⟩]

/-- What two full reads of the DMM give is stored behind the payload. -/
theorem visit_assembles_not
    : ¬ ∀ device length attempts insertedMasterSocketFd s,
      visit device length attempts = some s → s.Assembles device insertedMasterSocketFd := by
  intro always
  obtain ⟨s, visited⟩ : ∃ s, visit .dmm 0 dmmOverflow = some s := by
    refine Option.isSome_iff_exists.mp ?_
    decide +kernel
  have spills : reconnRspPayloadSize < (received dmmOverflow).length := by
    decide +kernel
  exact (visit_keeps visited).spills spills (always _ _ _ 0 _ visited).inside

end Reconn.Equipment
