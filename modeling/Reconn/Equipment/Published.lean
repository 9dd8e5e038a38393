import Reconn.Equipment.Descriptors
import Reconn.Library.TransitionRuns

/-! The published descriptors of the equipment. Each is -1 or the one that its device's own
file keeps, as long as the DMM is not opened on behalf of DMM_POWER_SET_REQ, which publishes it
as the analyzer's, and an open analyzer can be closed.
-/

namespace Reconn.Equipment

open Client TransitionRuns

/-- (Aligns fds port mine published) if a device's own descriptor is one of its port, and it is
what is published, each of them unless it is -1.
-/
structure Aligns (fds : Int → Fd) (port : Fd) (mine published : Int) : Prop where
  own : mine = -1 ∨ fds mine = port
  told : published = -1 ∨ published = mine

/-- Both devices' descriptors are aligned. -/
structure State.Aligned (s : State) : Prop where
  analyzer : Aligns s.fds .analyzer s.myAnalyzerFd s.analyzerFd
  dmm : Aligns s.fds .dmm s.myDmmFd s.dmmFd

/-- What is published of a device is -1, or the descriptor that its file keeps and an open
descriptor of that device.
-/
structure State.Published (s : State) : Prop where
  analyzer : s.analyzerFd = -1
    ∨ (s.analyzerFd = s.myAnalyzerFd ∧ s.fds s.analyzerFd = .analyzer)
  dmm : s.dmmFd = -1 ∨ (s.dmmFd = s.myDmmFd ∧ s.fds s.dmmFd = .dmm)

/-- The condition on an event. A request to switch the DMM on does not come to dmmOpen, or finds
no port and a DMM that is not published; and close() of an analyzer that is open succeeds.
-/
def State.Safe (s : State) : Event → Prop
  | .dmmPowerSetReq payload _ read theValue env =>
      payload = powerOn → read = reconnSuccess → theValue = gpioIsInactive → env.powers
        → (s.openPort .dmm env.opened).2 = -1 ∧ s.dmmFd = -1
  | .fwUpgradeReq env =>
      env.closes = true ∧ env.closesBootloader = true ∧ env.closesFlashed = true
  | .minute _ analyzerIdle _ closes => analyzerIdle = true → s.myAnalyzerFd = -1 ∨ closes = true
  | _ => True

namespace Aligns

variable {fds : Int → Fd} {port : Fd} {mine published : Int}

theorem open_of_published (aligns : Aligns fds port mine published)
    : published = -1 ∨ (published = mine ∧ fds published = port) := by
  rcases aligns.told with none | same
  · exact .inl none
  · rcases aligns.own with none | open_
    · exact .inl (same.trans none)
    · exact .inr ⟨same, same ▸ open_⟩

/-- What is published can be taken back. -/
theorem unpublished (aligns : Aligns fds port mine published) : Aligns fds port mine (-1) :=
  ⟨aligns.own, .inl rfl⟩

/-- A device's own descriptor can be published. -/
theorem publishes (aligns : Aligns fds port mine published) : Aligns fds port mine mine :=
  ⟨aligns.own, .inr rfl⟩

/-- A device whose port is not open. -/
theorem closed : Aligns fds port (-1) (-1) := ⟨.inl rfl, .inl rfl⟩

/-- What is no descriptor of the device may change in the table. -/
theorem update (aligns : Aligns fds port mine published) {fd : Int}
    (other : fd = -1 ∨ fds fd ≠ port) (new : Fd)
    : Aligns (Function.update fds fd new) port mine published where
  own := by
    rcases aligns.own with none | open_
    · exact .inl none
    · rcases eq_or_ne mine fd with rfl | apart
      · exact .inl (other.resolve_right (not_not.mpr open_))
      · exact .inr (by rw [Function.update_of_ne apart, open_])
  told := aligns.told

/-- What is known to refer to something else may change in the table. -/
theorem update_known (aligns : Aligns fds port mine published) {fd : Int} {old : Fd}
    (known : fds fd = old) (other : old ≠ port) (new : Fd)
    : Aligns (Function.update fds fd new) port mine published :=
  aligns.update (.inr (known ▸ other)) new

/-- A descriptor that has just been opened for the device. -/
theorem opened {fd : Int} : Aligns (Function.update fds fd port) port fd (-1) :=
  ⟨.inr (Function.update_self ..), .inl rfl⟩

end Aligns

namespace State

variable {s : State}

theorem Aligned.published (aligned : s.Aligned) : s.Published :=
  ⟨aligned.analyzer.open_of_published, aligned.dmm.open_of_published⟩

/-- open() either fails or opens a descriptor that was closed. -/
theorem openPort_cases (s : State) (port : Fd) (opened : Option Nat)
    : s.openPort port opened = (s, -1)
      ∨ ∃ fd : Nat, s.fds fd = .closed
        ∧ s.openPort port opened
          = ({ s with fds := Function.update s.fds fd port }, (fd : Int)) := by
  unfold openPort
  split
  · split_ifs with free
    · exact .inr ⟨_, free, rfl⟩
    · exact .inl rfl
  · exact .inl rfl

/-- open() does not look at what is published. -/
theorem openPort_store (s : State) (fd : Int) (fileDescriptor : Pointer) (port : Fd)
    (opened : Option Nat)
    : (s.store fd fileDescriptor).openPort port opened
      = ((s.openPort port opened).1.store fd fileDescriptor, (s.openPort port opened).2) := by
  have table : (s.store fd fileDescriptor).fds = s.fds := by
    cases fileDescriptor <;> rfl
  cases opened with
  | none => rfl
  | some number =>
      simp only [openPort, table]
      by_cases free : s.fds number = .closed
      · rw [if_pos free, if_pos free]
        cases fileDescriptor <;> rfl
      · rw [if_neg free, if_neg free]

/-- The descriptor of one device is none of the other. -/
theorem Aligned.analyzer_other (aligned : s.Aligned)
    : s.myAnalyzerFd = -1 ∨ s.fds s.myAnalyzerFd ≠ .dmm := by
  refine aligned.analyzer.own.imp_right fun open_ => ?_
  rw [open_]
  decide

theorem Aligned.dmm_other (aligned : s.Aligned)
    : s.myDmmFd = -1 ∨ s.fds s.myDmmFd ≠ .analyzer := by
  refine aligned.dmm.own.imp_right fun open_ => ?_
  rw [open_]
  decide

-----------------------------------------------------------------------------------------
-- The DMM
-----------------------------------------------------------------------------------------

theorem Aligned.dmmPowerDown (aligned : s.Aligned) (disable : ReconnErrCode)
    : (s.dmmPowerDown disable).1.Aligned := by
  unfold State.dmmPowerDown
  split_ifs
  · exact ⟨aligned.analyzer.update aligned.dmm_other .closed, .closed⟩
  · exact aligned

/-- dmmOpen, with the meter unpublished and a pointer to its published descriptor or to a
variable that nobody reads.
-/
theorem Aligned.dmmOpen (aligned : s.Aligned) (none : s.dmmFd = -1) {fileDescriptor : Pointer}
    (own : fileDescriptor ≠ .analyzerFd) (opened : Option Nat)
    : (s.dmmOpen fileDescriptor opened).1.Aligned := by
  rcases s.openPort_cases .dmm opened with fails | ⟨fd, free, opens⟩
  · have dmm : Aligns s.fds .dmm (-1) s.dmmFd := by
      rw [none]
      exact .closed
    simp only [State.dmmOpen, fails]
    cases fileDescriptor with
    | analyzerFd => exact absurd rfl own
    | dmmFd => exact ⟨aligned.analyzer, .closed⟩
    | dummyFd => exact ⟨aligned.analyzer, dmm⟩
  · have analyzer := aligned.analyzer.update_known free (by decide) .dmm
    have dmm : Aligns (Function.update s.fds fd .dmm) .dmm fd s.dmmFd := by
      rw [none]
      exact .opened
    have positive : ¬ (fd : Int) < 0 := by omega
    simp only [State.dmmOpen, opens, if_neg positive]
    cases fileDescriptor with
    | analyzerFd => exact absurd rfl own
    | dmmFd => exact ⟨analyzer, dmm.publishes⟩
    | dummyFd => exact ⟨analyzer, dmm⟩

/-- dmmInit, for those of its callers that do not give it the analyzer's descriptor. -/
theorem Aligned.dmmInit (aligned : s.Aligned) {fileDescriptor : Pointer}
    (own : fileDescriptor = .dmmFd ∨ (fileDescriptor = .dummyFd ∧ s.dmmFd = -1))
    (env : DmmOutcomes)
    : (s.dmmInit env fileDescriptor).1.Aligned := by
  have cleared : (s.store (-1) fileDescriptor).Aligned
      ∧ (s.store (-1) fileDescriptor).dmmFd = -1 ∧ fileDescriptor ≠ .analyzerFd := by
    rcases own with rfl | ⟨rfl, unpublished⟩
    · exact ⟨⟨aligned.analyzer, aligned.dmm.unpublished⟩, rfl, nofun⟩
    · exact ⟨aligned, unpublished, nofun⟩
  obtain ⟨aligned', unpublished, notAnalyzer⟩ := cleared
  have opened := aligned'.dmmOpen unpublished notAnalyzer env.opened
  unfold State.dmmInit
  simp only
  split_ifs
  · exact ⟨opened.analyzer, opened.dmm⟩
  · exact ⟨opened.analyzer, opened.dmm⟩
  · exact opened
  · exact aligned'

theorem Aligned.dmmDiags (aligned : s.Aligned) (env : DmmOutcomes) (compared : ReconnErrCode)
    : (s.dmmDiags env compared).1.Aligned := by
  unfold State.dmmDiags
  split_ifs with closed
  · have unpublished : s.dmmFd = -1 := aligned.dmm.told.elim id (·.trans closed)
    have init := aligned.dmmInit (.inr ⟨rfl, unpublished⟩) env
    simp only
    split_ifs <;> exact init
  · exact aligned

-----------------------------------------------------------------------------------------
-- The analyzer
-----------------------------------------------------------------------------------------

/-- SpectrumAnalyzerOpen, with the analyzer unpublished. -/
theorem Aligned.spectrumAnalyzerOpen (aligned : s.Aligned) (unpublished : s.analyzerFd = -1)
    (opened : Option Nat)
    : (s.spectrumAnalyzerOpen opened).1.Aligned
      ∧ (s.spectrumAnalyzerOpen opened).1.analyzerFd = -1 := by
  rcases s.openPort_cases .analyzer opened with fails | ⟨fd, free, opens⟩
  · have analyzer : Aligns s.fds .analyzer (-1) s.analyzerFd := by
      rw [unpublished]
      exact .closed
    simp only [State.spectrumAnalyzerOpen, fails]
    exact ⟨⟨analyzer, aligned.dmm⟩, unpublished⟩
  · have analyzer
        : Aligns (Function.update s.fds fd .analyzer) .analyzer fd s.analyzerFd := by
      rw [unpublished]
      exact .opened
    have positive : ¬ (fd : Int) < 0 := by omega
    simp only [State.spectrumAnalyzerOpen, opens, if_neg positive]
    exact ⟨⟨analyzer, aligned.dmm.update_known free (by decide) .analyzer⟩, unpublished⟩

/-- SpectrumAnalyzerInit publishes the analyzer, or nothing for NULL. -/
theorem Aligned.spectrumAnalyzerInit (aligned : s.Aligned) {fileDescriptor : Option Pointer}
    (own : fileDescriptor = some .analyzerFd ∨ (fileDescriptor = none ∧ s.analyzerFd = -1))
    (env : AnalyzerOutcomes)
    : (s.spectrumAnalyzerInit env fileDescriptor).1.Aligned
      ∧ (fileDescriptor = none
        → (s.spectrumAnalyzerInit env fileDescriptor).1.analyzerFd = -1) := by
  have cleared : (fileDescriptor.elim s (s.store (-1))).Aligned
      ∧ (fileDescriptor.elim s (s.store (-1))).analyzerFd = -1 := by
    rcases own with rfl | ⟨rfl, unpublished⟩
    · exact ⟨⟨aligned.analyzer.unpublished, aligned.dmm⟩, rfl⟩
    · exact ⟨aligned, unpublished⟩
  obtain ⟨opened, unpublished⟩ := cleared.1.spectrumAnalyzerOpen cleared.2 env.opened
  unfold State.spectrumAnalyzerInit
  simp only
  split_ifs
  · rcases own with rfl | ⟨rfl, -⟩
    · exact ⟨⟨opened.analyzer.publishes, opened.dmm⟩, nofun⟩
    · exact ⟨opened, fun _ => unpublished⟩
  · exact ⟨opened, fun _ => unpublished⟩
  · exact ⟨opened, fun _ => unpublished⟩
  · exact ⟨cleared.1, fun _ => cleared.2⟩

/-- SpectrumAnalyzerClose, where close() of an open descriptor succeeds. -/
theorem Aligned.spectrumAnalyzerClose (aligned : s.Aligned) {fileDescriptor : Option Pointer}
    (own : fileDescriptor = some .analyzerFd ∨ (fileDescriptor = none ∧ s.analyzerFd = -1))
    {closes : Bool} (succeeds : s.myAnalyzerFd = -1 ∨ closes = true)
    : (s.spectrumAnalyzerClose closes fileDescriptor).1.Aligned
      ∧ (s.spectrumAnalyzerClose closes fileDescriptor).1.analyzerFd = -1 := by
  have dmm := aligned.dmm.update aligned.analyzer_other .closed
  unfold State.spectrumAnalyzerClose
  simp only
  split_ifs with released
  · rcases own with rfl | ⟨rfl, unpublished⟩
    · exact ⟨⟨.closed, dmm⟩, rfl⟩
    · exact ⟨⟨⟨.inl rfl, .inl unpublished⟩, dmm⟩, unpublished⟩
  · have none : s.myAnalyzerFd = -1 := by
      rcases succeeds with none | closes
      · exact none
      · refine aligned.analyzer.own.resolve_right fun open_ => released ⟨?_, closes⟩
        rw [open_]
        decide
    have unpublished : s.analyzerFd = -1 := aligned.analyzer.told.elim id (·.trans none)
    exact ⟨⟨aligned.analyzer.update (.inl none) .closed, dmm⟩, unpublished⟩

theorem Aligned.flashAnalyzer (aligned : s.Aligned) (unpublished : s.analyzerFd = -1)
    {env : UpgradeOutcomes} (closes : env.closesFlashed = true)
    : (s.flashAnalyzer env).1.Aligned := by
  obtain ⟨opened, unpublished'⟩ := aligned.spectrumAnalyzerOpen unpublished env.reopened
  obtain ⟨closed, -⟩ := opened.spectrumAnalyzerClose (.inr ⟨rfl, unpublished'⟩) (.inr closes)
  obtain ⟨init, -⟩ := closed.spectrumAnalyzerInit (.inl rfl) env.published
  unfold State.flashAnalyzer
  simp only
  split_ifs
  · exact init
  · exact init
  · exact opened
  · exact opened

/-- An upgrade keeps the analyzer to itself until it initializes it at its end. -/
theorem Aligned.spectrumAnalyzerUpgrade (aligned : s.Aligned) {env : UpgradeOutcomes}
    (closes : env.closes = true ∧ env.closesBootloader = true ∧ env.closesFlashed = true)
    : (s.spectrumAnalyzerUpgrade env).1.Aligned := by
  obtain ⟨first, second, third⟩ := closes
  obtain ⟨closed, unpublished⟩ := aligned.spectrumAnalyzerClose (.inl rfl) (.inr first)
  obtain ⟨init, exclusive⟩ := closed.spectrumAnalyzerInit (.inr ⟨rfl, unpublished⟩) env.exclusive
  obtain ⟨left, unpublished'⟩ :=
    init.spectrumAnalyzerClose (.inr ⟨rfl, exclusive rfl⟩) (.inr second)
  unfold State.spectrumAnalyzerUpgrade
  simp only
  cases env.bootLoaderMode with
  | none =>
      simp only
      split_ifs
      · exact init
      · exact init
      · exact closed
  | some bootLoaderMode =>
      simp only
      split_ifs
      · exact init
      · exact init
      · exact init.flashAnalyzer (exclusive rfl) third
      · exact left.flashAnalyzer unpublished' third
      · exact left
      · exact init
      · exact closed

-----------------------------------------------------------------------------------------
-- Runs
-----------------------------------------------------------------------------------------

/-- Other parts of the program do not touch the equipment's descriptors. -/
theorem Aligned.otherOpens (aligned : s.Aligned) (fd : Nat)
    : (s.openPort .other (some fd)).1.Aligned := by
  rcases s.openPort_cases .other (some fd) with fails | ⟨fd', free, opens⟩
  · rw [fails]
    exact aligned
  · rw [opens]
    exact ⟨aligned.analyzer.update_known free (by decide) .other,
      aligned.dmm.update_known free (by decide) .other⟩

theorem dmmPowerDown_myAnalyzerFd (s : State) (disable : ReconnErrCode)
    : (s.dmmPowerDown disable).1.myAnalyzerFd = s.myAnalyzerFd := by
  unfold State.dmmPowerDown
  split_ifs <;> rfl

theorem openPort_fails {port : Fd} {opened : Option Nat}
    (fails : (s.openPort port opened).2 = -1)
    : (s.store (-1) .analyzerFd).openPort port opened = (s.store (-1) .analyzerFd, -1) := by
  rcases s.openPort_cases port opened with same | ⟨fd, -, opens⟩
  · rw [openPort_store, same]
  · rw [opens] at fails
    simp only at fails
    omega

/-- A meter whose port cannot be opened has no descriptor, and neither has the pointer. -/
theorem dmmOpen_fails {opened : Option Nat} {fileDescriptor : Pointer}
    (fails : s.openPort .dmm opened = (s, -1))
    : s.dmmOpen fileDescriptor opened
      = ({ s with myDmmFd := -1 }.store (-1) fileDescriptor, reconnDmmSerialPortOpenFail) := by
  simp only [State.dmmOpen, fails]
  rfl

/-- The request to switch the DMM on writes to the analyzer's descriptor, which does no harm
only where nothing is opened.
-/
theorem Aligned.dmmPowerSetReq (aligned : s.Aligned) {payload : UInt8}
    {disable read : ReconnErrCode} {theValue : UInt8} {env : DmmOutcomes}
    (safe : s.Safe (.dmmPowerSetReq payload disable read theValue env))
    : (s.dmmPowerSetReq payload disable read theValue env).Aligned := by
  unfold State.dmmPowerSetReq
  split_ifs with off on
  · exact aligned.dmmPowerDown disable
  · obtain ⟨payload, read, inactive⟩ := on
    have cleared : (s.store (-1) .analyzerFd).Aligned :=
      ⟨aligned.analyzer.unpublished, aligned.dmm⟩
    unfold State.dmmInit
    by_cases powers : env.powers
    · obtain ⟨fails, unpublished⟩ := safe payload read inactive powers
      rw [if_pos powers, dmmOpen_fails (openPort_fails fails)]
      exact ⟨aligned.analyzer.unpublished, ⟨.inl rfl, .inl unpublished⟩⟩
    · simp only [if_neg powers]
      exact cleared
  · exact aligned

/-- No less would do for this request. -/
theorem Aligned.published_dmmPowerSetReq_iff (aligned : s.Aligned) (payload : UInt8)
    (disable read : ReconnErrCode) (theValue : UInt8) (env : DmmOutcomes)
    : (s.dmmPowerSetReq payload disable read theValue env).Published
      ↔ s.Safe (.dmmPowerSetReq payload disable read theValue env) := by
  refine ⟨fun published on read inactive powers => ?_,
    fun safe => (aligned.dmmPowerSetReq safe).published⟩
  have notOff : payload ≠ powerOff := by
    rw [on]
    decide
  unfold State.dmmPowerSetReq at published
  rw [if_neg notOff, if_pos ⟨on, read, inactive⟩] at published
  unfold State.dmmInit at published
  rw [if_pos powers] at published
  rcases s.openPort_cases .dmm env.opened with fails | ⟨fd, free, opens⟩
  · have none : (s.openPort .dmm env.opened).2 = -1 := congrArg Prod.snd fails
    rw [dmmOpen_fails (openPort_fails none)] at published
    have told : s.dmmFd = -1 ∨ (s.dmmFd = -1 ∧ s.fds s.dmmFd = .dmm) := published.dmm
    exact ⟨none, told.elim id And.left⟩
  · have positive : ¬ (fd : Int) < 0 := by omega
    simp only [State.dmmOpen, openPort_store, opens, if_neg positive] at published
    have told : (fd : Int) = -1
        ∨ ((fd : Int) = s.myAnalyzerFd ∧ Function.update s.fds fd .dmm fd = .analyzer) :=
      published.analyzer
    rw [Function.update_self] at told
    rcases told with none | ⟨-, analyzer⟩
    · omega
    · exact absurd analyzer (by decide)

/-- A safe event keeps both devices' descriptors aligned. -/
theorem Aligned.perform {event : Event} (aligned : s.Aligned) (safe : s.Safe event)
    (own : ∀ fd : Nat, event = .otherCloses fd → s.fds fd = .other)
    : (s.perform event).Aligned := by
  cases event with
  | dmmPowerSetReq payload disable read theValue env => exact aligned.dmmPowerSetReq safe
  | dmmPktSendReq env =>
      simp only [State.perform, State.dmmPktSendReq]
      split_ifs
      · exact aligned.dmmInit (.inl rfl) env
      · exact aligned
  | dmmBuiltintestReq env compared => exact aligned.dmmDiags env compared
  | specanaPktSendReq master env =>
      simp only [State.perform, State.specanaPktSendReq]
      split_ifs
      · exact (aligned.spectrumAnalyzerInit (.inl rfl) env).1
      · exact aligned
  | fwUpgradeReq env => exact aligned.spectrumAnalyzerUpgrade safe
  | minute dmmIdle analyzerIdle disable closes =>
      have rest : (if dmmIdle = true then (s.dmmPowerDown disable).1 else s).Aligned
          ∧ (if dmmIdle = true then (s.dmmPowerDown disable).1 else s).myAnalyzerFd
            = s.myAnalyzerFd := by
        split_ifs
        · exact ⟨aligned.dmmPowerDown disable, dmmPowerDown_myAnalyzerFd s disable⟩
        · exact ⟨aligned, rfl⟩
      obtain ⟨aligned', same⟩ := rest
      simp only [State.perform, State.minute]
      by_cases idle : analyzerIdle = true
      · rw [if_pos idle]
        exact (aligned'.spectrumAnalyzerClose (.inl rfl) (same ▸ safe idle)).1
      · rw [if_neg idle]
        exact aligned'
  | meterOn read theValue env =>
      simp only [State.perform, State.meterOn]
      split_ifs
      · exact aligned.dmmInit (.inl rfl) env
      · exact aligned
  | meterOff disable => exact aligned.dmmPowerDown disable
  | meterDiags env compared => exact aligned.dmmDiags env compared
  | otherOpens fd => exact aligned.otherOpens fd
  | otherCloses fd =>
      have other := own fd rfl
      exact ⟨aligned.analyzer.update_known other (by decide) .closed,
        aligned.dmm.update_known other (by decide) .closed⟩

/-- A safe step keeps both devices' descriptors aligned. -/
theorem Aligned.step {event : Event} {s' : State} {output : Unit} (aligned : s.Aligned)
    (safe : s.Safe event) (taken : s.step event = some (s', output))
    : s'.Aligned := by
  cases event with
  | otherCloses fd =>
      simp only [State.step] at taken
      split_ifs at taken with other
      obtain ⟨rfl, -⟩ := Prod.mk.inj (Option.some.inj taken)
      have closes : (s.perform (.otherCloses fd)).Aligned := by
        refine aligned.perform safe fun fd' same => ?_
        obtain rfl := Event.otherCloses.inj same
        exact other
      exact closes
  | _ =>
      obtain ⟨rfl, -⟩ := Prod.mk.inj (Option.some.inj taken)
      exact aligned.perform safe nofun

/-- SpectrumAnalyzerInit does not look at what is published of the DMM. -/
theorem spectrumAnalyzerInit_store (s : State) (env : AnalyzerOutcomes) (fd : Int)
    : ((s.store fd .dmmFd).spectrumAnalyzerInit env (some .analyzerFd)).1
      = (s.spectrumAnalyzerInit env (some .analyzerFd)).1.store fd .dmmFd := by
  have opened (s : State)
      : (s.store fd .dmmFd).spectrumAnalyzerOpen env.opened
        = ((s.spectrumAnalyzerOpen env.opened).1.store fd .dmmFd,
          (s.spectrumAnalyzerOpen env.opened).2) := by
    simp only [State.spectrumAnalyzerOpen, openPort_store]
    split_ifs <;> rfl
  have stored : (s.store fd .dmmFd).store (-1) .analyzerFd
      = (s.store (-1) .analyzerFd).store fd .dmmFd := rfl
  simp only [State.spectrumAnalyzerInit, Option.elim_some, stored, opened]
  split_ifs with powers opens version
  · rfl
  · rfl
  · exact (congrArg (fun init : State × ReconnErrCode => init.1.store fd .dmmFd)
      (if_neg opens)).symm
  · rfl

/-- PeripheralInit leaves both aligned, whatever main has left in gEqptDescriptors. -/
theorem aligned_peripheralInit (analyzer : AnalyzerOutcomes) (dmm : DmmOutcomes)
    (fds : Int → Fd)
    : (peripheralInit analyzer dmm fds).Aligned := by
  let s : State := ⟨-1, false, -1, -1, false, -1, fds⟩
  have aligned : s.Aligned := ⟨.closed, .closed⟩
  have init := (aligned.spectrumAnalyzerInit (.inl rfl) analyzer).1
  have started : peripheralInit analyzer dmm fds
      = (((s.store 0 .dmmFd).spectrumAnalyzerInit analyzer (some .analyzerFd)).1.dmmInit
        dmm .dmmFd).1 := rfl
  rw [started, spectrumAnalyzerInit_store]
  exact init.dmmInit (.inl rfl) dmm

end State

/-- The published descriptors are right in every state of a run of safe events. -/
theorem published_of_safe {analyzer : AnalyzerOutcomes} {dmm : DmmOutcomes}
    {fds : Int → Fd} {transitions : List (Transition State Event Unit)} {finish : State}
    (run : Run State.step (State.peripheralInit analyzer dmm fds) transitions finish)
    (safe : ∀ t ∈ transitions, t.before.Safe t.event)
    : (∀ t ∈ transitions, t.before.Published ∧ t.after.Published) ∧ finish.Published := by
  have keep : ∀ state event next output,
      State.Aligned state → state.Safe event → state.step event = some (next, output)
        → next.Aligned :=
    fun _ _ _ _ aligned safe taken => aligned.step safe taken
  obtain ⟨around, last⟩ :=
    run.invariant keep (State.aligned_peripheralInit analyzer dmm fds) safe
  exact ⟨fun t member => ((around t member).imp State.Aligned.published State.Aligned.published),
    last.published⟩

/-- A DMM that answers on this descriptor, for what DMM_POWER_GPIO reads. -/
def dmmOn (gpioState : UInt8) (fd : Nat) : DmmOutcomes where
  read := reconnSuccess
  gpioState
  enable := reconnSuccess
  opened := some fd
  responds := true
  disable := reconnSuccess
  enableAgain := reconnSuccess

/-- An analyzer that answers on this descriptor. -/
def analyzerOn (fd : Nat) : AnalyzerOutcomes where
  read := reconnSuccess
  gpioState := gpioIsInactive
  enable := reconnSuccess
  opened := some fd
  firmwareVersion := true

/-- Both devices are powered on and opened, when no descriptor of either is in use. -/
def bothOpen : State :=
  .peripheralInit (analyzerOn 10) (dmmOn gpioIsInactive 11) fun _ => .closed

/-- The DMM is switched off, and the next packet for it opens it again under another
descriptor.
-/
theorem published_reopened
    : (replay State.step bothOpen
        [
          .dmmPowerSetReq powerOff reconnSuccess reconnSuccess gpioIsInactive
            (dmmOn gpioIsInactive 11),
          .otherOpens 11,
          .dmmPktSendReq (dmmOn gpioIsInactive 12)
        ]).2.Published := by
  refine (published_of_safe (replay_run _ _) ?_).2
  refine forall_replay_cons rfl ?_ ?_
  · intro on
    exact absurd on (by decide)
  refine forall_replay_cons rfl trivial ?_
  exact forall_replay_cons rfl trivial (forall_replay_nil _)

/-- The DMM is switched off and on again by its client, and its descriptor is published as the
analyzer's.
-/
theorem not_published_poweredOn
    : ¬ ∀ (analyzer : AnalyzerOutcomes) (dmm : DmmOutcomes) (fds : Int → Fd)
        (transitions : List (Transition State Event Unit)) (finish : State),
        Run State.step (State.peripheralInit analyzer dmm fds) transitions finish
          → finish.Published := by
  intro always
  have published := always _ _ _ _ _
    (replay_run bothOpen
      [
        .dmmPowerSetReq powerOff reconnSuccess reconnSuccess gpioIsInactive
          (dmmOn gpioIsInactive 11),
        .dmmPowerSetReq powerOn reconnSuccess reconnSuccess gpioIsInactive
          (dmmOn gpioIsInactive 12)
      ])
  rcases published.analyzer with none | ⟨same, -⟩
  · exact absurd none (by decide)
  · exact absurd same (by decide)

end Reconn.Equipment
