import Mathlib.Logic.Function.Basic
import Reconn.Client.Equipment

/-! The file descriptors of the digital multimeter and the spectrum analyzer. dmm.c and
spectrum.c each keep one to themselves and publish one in gEqptDescriptors, through a pointer
that their callers choose.
-/

namespace Reconn.Equipment

open Client

def reconnUpgradeFileNotFound : ReconnErrCode := 8
def reconnSerialPortOpenFail : ReconnErrCode := 20
def reconnDmmSerialPortOpenFail : ReconnErrCode := 27

/-- What a file descriptor of the process refers to. -/
inductive Fd where
  | closed
  | analyzer
  | dmm
  | other
  deriving DecidableEq, Repr

/-- The variables that the callers have written to: the two of gEqptDescriptors, and the
dummyFd of dmmDiags.
-/
inductive Pointer where
  | analyzerFd
  | dmmFd
  | dummyFd
  deriving DecidableEq, Repr

/-- The static variables of dmm.c and spectrum.c, the published descriptors and the table of
the kernel.
-/
structure State where
  myAnalyzerFd : Int
  saPortOpen : Bool
  analyzerFd : Int
  myDmmFd : Int
  dmmPortInit : Bool
  dmmFd : Int
  fds : Int → Fd

namespace State

/-- *fileDescriptor = fd -/
def store (s : State) (fd : Int) : Pointer → State
  | .analyzerFd => { s with analyzerFd := fd }
  | .dmmFd => { s with dmmFd := fd }
  | .dummyFd => s

/-- open(): the descriptor that the kernel hands out, which was closed, or -1. -/
def openPort (s : State) (port : Fd) : Option Nat → State × Int
  | some fd =>
      if s.fds fd = .closed then ({ s with fds := Function.update s.fds fd port }, fd)
      else (s, -1)
  | none => (s, -1)

/-- close() releases an open descriptor, also where it reports an error. -/
def closeFd (s : State) (fd : Int) : State :=
  { s with fds := Function.update s.fds fd .closed }

-----------------------------------------------------------------------------------------
-- dmm.c
-----------------------------------------------------------------------------------------

/-- dmmPowerDown, for what switching DMM_POWER_GPIO off returns. -/
def dmmPowerDown (s : State) (disable : ReconnErrCode) : State × ReconnErrCode :=
  if disable = reconnSuccess then
    ({ s.closeFd s.myDmmFd with myDmmFd := -1, dmmFd := -1, dmmPortInit := false }, disable)
  else (s, disable)

def dmmOpen (s : State) (fileDescriptor : Pointer) (opened : Option Nat)
    : State × ReconnErrCode :=
  let port := s.openPort .dmm opened
  let s' : State := { port.1 with myDmmFd := port.2 }
  if port.2 < 0 then (s'.store (-1) fileDescriptor, reconnDmmSerialPortOpenFail)
  else ({ s'.store port.2 fileDescriptor with dmmPortInit := true }, reconnSuccess)

end State

/-- What the calls in dmmInit return. -/
structure DmmOutcomes where
  read : ReconnErrCode
  gpioState : UInt8
  enable : ReconnErrCode
  opened : Option Nat
  /-- the meter answers the status command -/
  responds : Bool
  /-- switching a meter that does not answer off and on again -/
  disable : ReconnErrCode
  enableAgain : ReconnErrCode

/-- dmmInit comes to dmmOpen. -/
def DmmOutcomes.powers (env : DmmOutcomes) : Prop :=
  env.read = reconnSuccess
    ∧ (env.gpioState = gpioIsInactive → env.enable ≠ reconnFailure)

instance (env : DmmOutcomes) : Decidable env.powers := inferInstanceAs (Decidable (_ ∧ _))

namespace State

def dmmInit (s : State) (env : DmmOutcomes) (fileDescriptor : Pointer)
    : State × ReconnErrCode :=
  let s := s.store (-1) fileDescriptor
  if env.powers then
    let opened := s.dmmOpen fileDescriptor env.opened
    if opened.2 = reconnSuccess then
      (
        { opened.1 with dmmPortInit := true },
        if env.responds = false
            ∧ (env.disable = reconnFailure ∨ env.enableAgain = reconnFailure) then
          reconnFailure
        else reconnSuccess
      )
    else opened
  else (s, reconnFailure)

/-- dmmDiags, for the result of its comparisons. -/
def dmmDiags (s : State) (env : DmmOutcomes) (compared : ReconnErrCode)
    : State × ReconnErrCode :=
  if s.myDmmFd = -1 then
    let init := s.dmmInit env .dummyFd
    if init.2 = reconnSuccess then (init.1, compared) else (init.1, reconnFailure)
  else (s, compared)

-----------------------------------------------------------------------------------------
-- spectrum.c
-----------------------------------------------------------------------------------------

def spectrumAnalyzerOpen (s : State) (opened : Option Nat) : State × ReconnErrCode :=
  let port := s.openPort .analyzer opened
  let s' : State := { port.1 with myAnalyzerFd := port.2 }
  if port.2 < 0 then (s', reconnSerialPortOpenFail)
  else ({ s' with saPortOpen := true }, reconnSuccess)

end State

/-- What the calls in SpectrumAnalyzerInit return. -/
structure AnalyzerOutcomes where
  read : ReconnErrCode
  gpioState : UInt8
  enable : ReconnErrCode
  opened : Option Nat
  /-- AVCOM_SA_GetFirmwareVersion() == AOV_NO_ERROR -/
  firmwareVersion : Bool

namespace State

/-- SpectrumAnalyzerInit; the pointer may be NULL. -/
def spectrumAnalyzerInit (s : State) (env : AnalyzerOutcomes)
    (fileDescriptor : Option Pointer)
    : State × ReconnErrCode :=
  let s := fileDescriptor.elim s (s.store (-1))
  if env.read = reconnSuccess
      ∧ (env.gpioState = gpioIsInactive → env.enable ≠ reconnFailure) then
    let opened := s.spectrumAnalyzerOpen env.opened
    if opened.2 = reconnSuccess then
      if env.firmwareVersion then
        (
          fileDescriptor.elim opened.1 (opened.1.store opened.1.myAnalyzerFd),
          reconnSuccess
        )
      else (opened.1, reconnFailure)
    else opened
  else (s, reconnFailure)

/-- SpectrumAnalyzerClose, for whether close() of an open descriptor succeeds. Of -1 it does
not.
-/
def spectrumAnalyzerClose (s : State) (closes : Bool) (fileDescriptor : Option Pointer)
    : State × ReconnErrCode :=
  let closed := s.closeFd s.myAnalyzerFd
  if s.fds s.myAnalyzerFd ≠ .closed ∧ closes then
    (
      {
        fileDescriptor.elim closed (closed.store (-1)) with
        myAnalyzerFd := -1
        saPortOpen := false
      },
      reconnSuccess
    )
  else ({ closed with saPortOpen := false }, reconnFailure)

end State

/-- What the calls in SpectrumAnalyzerUpgrade return. -/
structure UpgradeOutcomes where
  /-- close() of an open descriptor succeeds, in the order of the three calls -/
  closes : Bool
  closesBootloader : Bool
  closesFlashed : Bool
  exclusive : AnalyzerOutcomes
  /-- AVCOM_SA_GetActiveRefLevel: the analyzer is in its bootloader; none is an error -/
  bootLoaderMode : Option Bool
  /-- stat() of UPGRADE_FW_NAME -/
  fileFound : Bool
  malloc : Bool
  fileOpens : Bool
  bootBootloader : Bool
  reopened : Option Nat
  flashes : Bool
  published : AnalyzerOutcomes
  /-- the last AVCOM_SA_GetFirmwareVersion() -/
  firmwareVersion : Bool

namespace State

/-- SpectrumAnalyzerUpgrade from the analyzer's bootloader on. -/
def flashAnalyzer (s : State) (env : UpgradeOutcomes) : State × ReconnErrCode :=
  let opened := s.spectrumAnalyzerOpen env.reopened
  if opened.2 = reconnSuccess then
    if env.flashes then
      let closed := opened.1.spectrumAnalyzerClose env.closesFlashed none
      let init := closed.1.spectrumAnalyzerInit env.published (some .analyzerFd)
      if init.2 = reconnSuccess ∧ env.firmwareVersion then (init.1, reconnSuccess)
      else (init.1, reconnFailure)
    else (opened.1, reconnFailure)
  else (opened.1, reconnFailure)

def spectrumAnalyzerUpgrade (s : State) (env : UpgradeOutcomes) : State × ReconnErrCode :=
  let closed := s.spectrumAnalyzerClose env.closes (some .analyzerFd)
  if closed.2 = reconnSuccess then
    let init := closed.1.spectrumAnalyzerInit env.exclusive none
    if init.2 = reconnSuccess then
      match env.bootLoaderMode with
      | none => (init.1, reconnFailure)
      | some bootLoaderMode =>
          if env.fileFound = false then (init.1, reconnUpgradeFileNotFound)
          else if env.malloc = false ∨ env.fileOpens = false then (init.1, reconnFailure)
          else if bootLoaderMode then init.1.flashAnalyzer env
          else
            let left := init.1.spectrumAnalyzerClose env.closesBootloader none
            if env.bootBootloader then left.1.flashAnalyzer env
            else (left.1, reconnFailure)
    else init
  else closed

-----------------------------------------------------------------------------------------
-- The callers
-----------------------------------------------------------------------------------------

/-- DMM_POWER_SET_REQ. For POWER_ON it has dmmInit write to the analyzer's descriptor. -/
def dmmPowerSetReq (s : State) (payload : UInt8) (disable read : ReconnErrCode)
    (theValue : UInt8) (env : DmmOutcomes)
    : State :=
  if payload = powerOff then (s.dmmPowerDown disable).1
  else if payload = powerOn ∧ read = reconnSuccess ∧ theValue = gpioIsInactive then
    (s.dmmInit env .analyzerFd).1
  else s

/-- DMM_PKT_SEND_REQ: dmmWrite refuses while the port is not initialized. -/
def dmmPktSendReq (s : State) (env : DmmOutcomes) : State :=
  if s.dmmPortInit = false then (s.dmmInit env .dmmFd).1 else s

/-- SPECANA_PKT_SEND_REQ, for whether masterClientSocketFd names the client. -/
def specanaPktSendReq (s : State) (master : Bool) (env : AnalyzerOutcomes) : State :=
  if master ∧ (s.saPortOpen = false ∨ s.myAnalyzerFd = -1) then
    (s.spectrumAnalyzerInit env (some .analyzerFd)).1
  else s

/-- meterOn of the debug menu. -/
def meterOn (s : State) (read : ReconnErrCode) (theValue : UInt8) (env : DmmOutcomes)
    : State :=
  if read = reconnSuccess ∧ theValue = gpioIsInactive then (s.dmmInit env .dmmFd).1 else s

/-- A minute of reconnPwrMgmtTask, for which of the two counters have come to zero. -/
def minute (s : State) (dmmIdle analyzerIdle : Bool) (disable : ReconnErrCode)
    (closes : Bool)
    : State :=
  let s := if dmmIdle then (s.dmmPowerDown disable).1 else s
  if analyzerIdle then (s.spectrumAnalyzerClose closes (some .analyzerFd)).1 else s

/-- PeripheralInit, with gEqptDescriptors cleared by main before. -/
def peripheralInit (analyzer : AnalyzerOutcomes) (dmm : DmmOutcomes) (fds : Int → Fd)
    : State :=
  let s : State := {
    myAnalyzerFd := -1
    saPortOpen := false
    analyzerFd := 0
    myDmmFd := -1
    dmmPortInit := false
    dmmFd := 0
    fds
  }
  ((s.spectrumAnalyzerInit analyzer (some .analyzerFd)).1.dmmInit dmm .dmmFd).1

end State

/-- What happens to the descriptors after main has called PeripheralInit. -/
inductive Event where
  | dmmPowerSetReq (payload : UInt8) (disable read : ReconnErrCode) (theValue : UInt8)
    (env : DmmOutcomes)
  | dmmPktSendReq (env : DmmOutcomes)
  | dmmBuiltintestReq (env : DmmOutcomes) (compared : ReconnErrCode)
  | specanaPktSendReq (master : Bool) (env : AnalyzerOutcomes)
  | fwUpgradeReq (env : UpgradeOutcomes)
  | minute (dmmIdle analyzerIdle : Bool) (disable : ReconnErrCode) (closes : Bool)
  | meterOn (read : ReconnErrCode) (theValue : UInt8) (env : DmmOutcomes)
  | meterOff (disable : ReconnErrCode)
  | meterDiags (env : DmmOutcomes) (compared : ReconnErrCode)
  /-- another part of the program opens or closes a descriptor of its own -/
  | otherOpens (fd : Nat)
  | otherCloses (fd : Nat)

namespace State

def perform (s : State) : Event → State
  | .dmmPowerSetReq payload disable read theValue env =>
      s.dmmPowerSetReq payload disable read theValue env
  | .dmmPktSendReq env => s.dmmPktSendReq env
  | .dmmBuiltintestReq env compared => (s.dmmDiags env compared).1
  | .specanaPktSendReq master env => s.specanaPktSendReq master env
  | .fwUpgradeReq env => (s.spectrumAnalyzerUpgrade env).1
  | .minute dmmIdle analyzerIdle disable closes =>
      s.minute dmmIdle analyzerIdle disable closes
  | .meterOn read theValue env => s.meterOn read theValue env
  | .meterOff disable => (s.dmmPowerDown disable).1
  | .meterDiags env compared => (s.dmmDiags env compared).1
  | .otherOpens fd => (s.openPort .other (some fd)).1
  | .otherCloses fd => s.closeFd fd

/-- Other parts of the program close descriptors of their own only. -/
def step (s : State) : Event → Option (State × Unit)
  | .otherCloses fd => if s.fds fd = .other then some (s.closeFd fd, ()) else none
  | event => some (s.perform event, ())

end State

end Reconn.Equipment
