import Reconn.Power.Standby

/-! The charging of the battery by reconnBatteryMonTask of powerMgmt.c. Whether charging is
on is a latch: while it is on, the thermistor is not read again.
-/

namespace Reconn.Power.Charging

open Client (GpioAction)
open TransitionRuns

def fuelGaugeMaxPercentage : UInt8 := 85
def fuelGaugeRetryCount : Nat := 5

/-- TEMP_IN_RANGE is the character that the thermistor's GPIO file contains. -/
def tempInRange : UInt8 := 0x31
def tempOutOfRange : UInt8 := 0x30

inductive ChargeState where
  | noState
  | enabled
  | disabled
  deriving DecidableEq, Repr

inductive PowerMgmtLedColors where
  | off
  | red
  | green
  deriving DecidableEq, Repr

/-- The GPIO lines that the task switches. Enabling chargeDisableGpio stops the charging. -/
inductive GpioName where
  | chargeDisableGpio
  | batteryLedRedGpio
  | batteryLedGreenGpio
  deriving DecidableEq, Repr

inductive Action where
  | reconnGpioAction (theGpio : GpioName) (theAction : GpioAction)
  deriving DecidableEq, Repr

/-- The value file of a GPIO line, with the level of the line whether it can be read or not. -/
structure ValueFile where
  opens : Bool
  reads : Bool
  value : UInt8

/-- What a variable contains after fopen and fread of a value file into it. -/
def ValueFile.read (file : ValueFile) (old : UInt8) : UInt8 :=
  if file.opens ∧ file.reads then file.value else old

/-- What the devices are like during one turn of the loop, and which calls succeed. -/
structure Readings where
  swUpgradeInProgress : Bool
  percentSucceeds : Bool
  voltageSucceeds : Bool
  percentage : UInt8
  powerOnResetSucceeds : Bool
  dcPower : ValueFile
  thermistor : ValueFile

namespace Readings

/-- Both calls of the fuel gauge succeed. -/
def Answered (r : Readings) : Prop := r.percentSucceeds = true ∧ r.voltageSucceeds = true

instance (r : Readings) : Decidable r.Answered := inferInstanceAs (Decidable (_ ∧ _))

/-- The battery may be charged: the charger is attached, the battery not full, and its
temperature in range.
-/
def Chargeable (r : Readings) : Prop :=
  r.dcPower.value = attached ∧ r.percentage ≤ fuelGaugeMaxPercentage
    ∧ r.thermistor.value = tempInRange

end Readings

/-- The variables of reconnBatteryMonTask and the globals it writes. -/
structure State where
  gBatteryPercentage : UInt8
  gChargerState : UInt8
  thermistorValue : UInt8
  chargeState : ChargeState
  ledColor : PowerMgmtLedColors
  retryCount : Nat
  /-- the loop has been left by a break -/
  ended : Bool

namespace State

/-- The task before its first turn. -/
def initial : State where
  gBatteryPercentage := 0
  gChargerState := notAttached
  thermistorValue := tempInRange
  chargeState := .noState
  ledColor := .off
  retryCount := 0
  ended := false

/-- What gChargerState is after the charger's value file was read, or could not be opened. -/
def chargerRead (s : State) (r : Readings) : UInt8 :=
  if r.dcPower.opens then r.dcPower.read s.gChargerState else notAttached

/-- What thermistorValue is after the thermistor's value file was read. -/
def thermistorRead (s : State) (r : Readings) : UInt8 := r.thermistor.read s.thermistorValue

/-- Lights the battery's LED in the colour, and switches the other one off. -/
def light (s : State) (ledColor : PowerMgmtLedColors) (lit unlit : GpioName)
    : State × List Action :=
  ({ s with ledColor }, [.reconnGpioAction lit .enable, .reconnGpioAction unlit .disable])

/-- Switches the battery's LED off, which makes it flash. -/
def unlight (s : State) (theGpio : GpioName) : State × List Action :=
  ({ s with ledColor := .off }, [.reconnGpioAction theGpio .disable])

def lightRed (s : State) : State × List Action :=
  s.light .red .batteryLedRedGpio .batteryLedGreenGpio

/-- The battery status LED. -/
def batteryLed (s : State) : State × List Action :=
  if s.gBatteryPercentage = 5 then
    if s.ledColor = .red then s.unlight .batteryLedRedGpio else s.lightRed
  else if s.gBatteryPercentage < 10 then
    if s.ledColor ≠ .red then s.lightRed
    else if s.gChargerState = attached then s.unlight .batteryLedRedGpio
    else (s, [])
  else if s.ledColor ≠ .green then s.light .green .batteryLedGreenGpio .batteryLedRedGpio
  else if ¬ fuelGaugeMaxPercentage < s.gBatteryPercentage ∧ s.gChargerState = attached then
    s.unlight .batteryLedGreenGpio
  else (s, [])

def disableCharging (s : State) : State × List Action :=
  if s.chargeState ≠ .disabled then
    (
      { s with chargeState := .disabled },
      [.reconnGpioAction .chargeDisableGpio .enable]
    )
  else (s, [])

/-- The charge control at the end of the loop. -/
def chargeControl (s : State) (r : Readings) : State × List Action :=
  if s.gChargerState = attached then
    if fuelGaugeMaxPercentage < s.gBatteryPercentage then s.disableCharging
    else if s.chargeState ≠ .enabled then
      let s := { s with thermistorValue := s.thermistorRead r }
      if s.thermistorValue = tempInRange then
        (
          { s with chargeState := .enabled },
          [.reconnGpioAction .chargeDisableGpio .disable]
        )
      else (s, [])
    else (s, [])
  else s.disableCharging

/-- The state after the fuel gauge has answered and the charger's value file was read. -/
def measured (s : State) (r : Readings) : State :=
  { s with gBatteryPercentage := r.percentage, gChargerState := s.chargerRead r, retryCount := 0 }

/-- One turn of the loop. A failure of the fuel gauge goes on with the next turn, or leaves
the loop after too many of them.
-/
def iterate (s : State) (r : Readings) : State × List Action :=
  if r.Answered then
    let lit := (s.measured r).batteryLed
    let charged := lit.1.chargeControl r
    (charged.1, lit.2 ++ charged.2)
  else
    let failed :=
      {
        s with
        gBatteryPercentage := if r.percentSucceeds then r.percentage else 7
        retryCount := s.retryCount + 1
      }
    if fuelGaugeRetryCount < s.retryCount ∨ r.powerOnResetSucceeds = false then
      ({ failed with ended := true }, s.lightRed.2)
    else (failed, [])

/-- The loop ends when a software upgrade is in progress. -/
def step (s : State) (r : Readings) : Option (State × List Action) :=
  if s.ended ∨ r.swUpgradeInProgress then none else some (s.iterate r)

/-- The turn is completed: it does not leave the loop. -/
def Completes (s : State) (r : Readings) : Prop :=
  r.Answered ∨ (s.retryCount ≤ fuelGaugeRetryCount ∧ r.powerOnResetSucceeds = true)

end State

abbrev State.Runs := Run State.step

/-- What is done to chargeDisableGpio, the latest last. -/
def chargeActions (actions : List Action) : List GpioAction :=
  actions.filterMap fun
    | .reconnGpioAction .chargeDisableGpio theAction => some theAction
    | _ => none

/-- Charging is on after these actions. -/
def ChargingEnabled (actions : List Action) : Prop :=
  (chargeActions actions).getLast? = some .disable

instance (actions : List Action) : Decidable (ChargingEnabled actions) :=
  inferInstanceAs (Decidable (_ = _))

/-- A completed turn leaves charging on only if the battery may be charged. -/
def Safe (past : List Action) (t : Transition State Readings (List Action)) : Prop :=
  t.before.Completes t.event → ChargingEnabled (past ++ t.output) → t.event.Chargeable

/-- What must not happen in a turn for charging to be safe; each field excludes one way for
charging to be on, or to be switched on, without a look at what it depends on.
-/
structure State.Guarded (s : State) (r : Readings) : Prop where
  /-- the thermistor is not read again while charging is on -/
  latched
    : r.Answered → s.chargerRead r = attached → r.percentage ≤ fuelGaugeMaxPercentage
        → s.chargeState = .enabled → r.thermistor.value = tempInRange
  /-- a thermistor that cannot be read counts as what it was -/
  staleThermistor
    : r.Answered → s.chargerRead r = attached → r.percentage ≤ fuelGaugeMaxPercentage
        → ¬ (r.thermistor.opens ∧ r.thermistor.reads) → s.thermistorValue = tempInRange
        → r.thermistor.value = tempInRange
  /-- a charger whose open file cannot be read counts as what it was -/
  staleCharger
    : r.Answered → r.percentage ≤ fuelGaugeMaxPercentage
        → s.chargeState = .enabled ∨ s.thermistorRead r = tempInRange
        → r.dcPower.opens → ¬ r.dcPower.reads → s.gChargerState = attached
        → r.dcPower.value = attached
  /-- charging stays as it is while the fuel gauge does not answer -/
  noAnswer : ¬ r.Answered → s.chargeState = .enabled → r.Chargeable

-----------------------------------------------------------------------------------------
-- One turn of the loop
-----------------------------------------------------------------------------------------

theorem chargeActions_append (first second : List Action)
    : chargeActions (first ++ second) = chargeActions first ++ chargeActions second :=
  List.filterMap_append

/-- Actions that leave chargeDisableGpio alone leave charging as it is. -/
theorem chargingEnabled_append_of_nil {past actions : List Action}
    (untouched : chargeActions actions = [])
    : ChargingEnabled (past ++ actions) ↔ ChargingEnabled past := by
  rw [ChargingEnabled, chargeActions_append, untouched, List.append_nil, ChargingEnabled]

/-- The last action decides whether charging is on. -/
theorem chargingEnabled_append_charge (past : List Action) (theAction : GpioAction)
    : ChargingEnabled (past ++ [.reconnGpioAction .chargeDisableGpio theAction])
      ↔ theAction = .disable := by
  rw [ChargingEnabled, chargeActions_append]
  simp [chargeActions]

/-- chargeState is what was last done to chargeDisableGpio. -/
def State.Latch (past : List Action) (s : State) : Prop :=
  s.chargeState = .enabled ↔ ChargingEnabled past

variable {past : List Action} {s : State} (r : Readings)

theorem disableCharging_chargeState (s : State)
    : s.disableCharging.1.chargeState = .disabled := by
  unfold State.disableCharging
  split_ifs with other
  · rfl
  · exact not_not.mp other

/-- Disabling keeps the latch, also where there is nothing to disable. -/
theorem State.Latch.disableCharging (latch : s.Latch past)
    : s.disableCharging.1.Latch (past ++ s.disableCharging.2) := by
  unfold State.disableCharging
  split_ifs with other
  · refine iff_of_false ?_ ?_
    · simp
    · rw [chargingEnabled_append_charge]
      simp
  · rw [List.append_nil]
    exact latch

/-- The charge control keeps the latch. -/
theorem State.Latch.chargeControl (latch : s.Latch past)
    : (s.chargeControl r).1.Latch (past ++ (s.chargeControl r).2) := by
  unfold State.chargeControl
  split_ifs with charger full off
  · exact latch.disableCharging
  · dsimp only
    split_ifs with warm
    · exact iff_of_true rfl ((chargingEnabled_append_charge past _).mpr rfl)
    · rw [List.append_nil]
      exact latch
  · rw [List.append_nil]
    exact latch
  · exact latch.disableCharging

/-- When the charge control leaves charging on: it looks at the thermistor only where
charging was off.
-/
theorem chargeControl_enabled (s : State)
    : (s.chargeControl r).1.chargeState = .enabled
      ↔ s.gChargerState = attached ∧ s.gBatteryPercentage ≤ fuelGaugeMaxPercentage
        ∧ (s.chargeState = .enabled ∨ s.thermistorRead r = tempInRange) := by
  unfold State.chargeControl
  split_ifs with charger full off
  · simp [disableCharging_chargeState, full]
  · dsimp only
    split_ifs with warm
    · simp [charger, UInt8.not_lt.mp full, warm]
    · simp [off, warm]
  · simp [charger, UInt8.not_lt.mp full, not_not.mp off]
  · simp [disableCharging_chargeState, charger]

/-- The LED has nothing to do with the charging. -/
theorem batteryLed_untouched (s : State) : chargeActions s.batteryLed.2 = [] := by
  unfold State.batteryLed
  split_ifs <;> rfl

theorem batteryLed_state (s : State)
    : s.batteryLed.1 = { s with ledColor := s.batteryLed.1.ledColor } := by
  unfold State.batteryLed
  split_ifs <;> rfl

/-- A turn in which the fuel gauge answers keeps the latch. -/
theorem State.Latch.iterate_answered (latch : s.Latch past) (answered : r.Answered)
    : (s.iterate r).1.Latch (past ++ (s.iterate r).2) := by
  have lit : (s.measured r).batteryLed.1.Latch (past ++ (s.measured r).batteryLed.2) := by
    rw [batteryLed_state]
    exact latch.trans (chargingEnabled_append_of_nil (batteryLed_untouched _)).symm
  rw [State.iterate, if_pos answered, ← List.append_assoc]
  exact lit.chargeControl r

/-- When a turn in which the fuel gauge answers leaves charging on. -/
theorem iterate_enabled (s : State) (answered : r.Answered)
    : (s.iterate r).1.chargeState = .enabled
      ↔ s.chargerRead r = attached ∧ r.percentage ≤ fuelGaugeMaxPercentage
        ∧ (s.chargeState = .enabled ∨ s.thermistorRead r = tempInRange) := by
  rw [State.iterate, if_pos answered, chargeControl_enabled, batteryLed_state]
  exact Iff.rfl

/-- A turn in which the fuel gauge fails leaves charging alone. -/
theorem iterate_failed (s : State) (failed : ¬ r.Answered)
    : (s.iterate r).1.chargeState = s.chargeState ∧ chargeActions (s.iterate r).2 = [] := by
  rw [State.iterate, if_neg failed]
  dsimp only
  split_ifs <;> exact ⟨rfl, rfl⟩

/-- Every turn keeps the latch. -/
theorem State.Latch.iterate (latch : s.Latch past)
    : (s.iterate r).1.Latch (past ++ (s.iterate r).2) := by
  by_cases answered : r.Answered
  · exact latch.iterate_answered r answered
  · obtain ⟨same, untouched⟩ := iterate_failed r s answered
    rw [State.Latch, same]
    exact latch.trans (chargingEnabled_append_of_nil untouched).symm

-----------------------------------------------------------------------------------------
-- Safety over runs
-----------------------------------------------------------------------------------------

variable {r}

theorem step_iterate {s' : State} {output : List Action}
    (taken : s.step r = some (s', output))
    : s.iterate r = (s', output) := by
  unfold State.step at taken
  split_ifs at taken
  exact Option.some.inj taken

theorem State.Latch.step {s' : State} {output : List Action} (latch : s.Latch past)
    (taken : s.step r = some (s', output))
    : s'.Latch (past ++ output) := by
  have next := latch.iterate r
  rwa [step_iterate taken] at next

/-- A turn whose gauge answers is safe exactly if it is guarded. Witness: what the charge
control looks at, with the values it looks at in place of the true ones.
-/
theorem chargeable_iff_guarded (s : State) (answered : r.Answered)
    : ((s.iterate r).1.chargeState = .enabled → r.Chargeable) ↔ s.Guarded r := by
  rw [iterate_enabled r s answered]
  constructor
  · intro safe
    refine ⟨fun _ charger low on => ?_, fun _ charger low unread warm => ?_,
      fun _ low warm opens unread stale => ?_, fun failed => absurd answered failed⟩
    · exact (safe ⟨charger, low, .inl on⟩).2.2
    · exact (safe ⟨charger, low, .inr ((if_neg unread).trans warm)⟩).2.2
    · refine (safe ⟨?_, low, warm⟩).1
      simp [State.chargerRead, ValueFile.read, opens, unread, stale]
  · rintro guarded ⟨charger, low, warm⟩
    refine ⟨?_, low, ?_⟩
    · by_cases opens : r.dcPower.opens
      · by_cases reads : r.dcPower.reads
        · simpa [State.chargerRead, ValueFile.read, opens, reads] using charger
        · refine guarded.staleCharger answered low warm opens reads ?_
          simpa [State.chargerRead, ValueFile.read, opens, reads] using charger
      · rw [State.chargerRead, if_neg opens] at charger
        exact absurd charger (by decide)
    · rcases warm with on | warm
      · exact guarded.latched answered charger low on
      · by_cases read : r.thermistor.opens ∧ r.thermistor.reads
        · exact (if_pos read).symm.trans warm
        · exact guarded.staleThermistor answered charger low read ((if_neg read).symm.trans warm)

/-- A completed turn is safe exactly if it is guarded. -/
theorem safe_iff_guarded {t : Transition State Readings (List Action)}
    (latch : t.before.Latch past)
    (taken : t.before.step t.event = some (t.after, t.output))
    : Safe past t ↔ (t.before.Completes t.event → t.before.Guarded t.event) := by
  have result := step_iterate taken
  have next : t.after.chargeState = .enabled ↔ ChargingEnabled (past ++ t.output) :=
    latch.step taken
  refine forall_congr' fun _ => ?_
  rw [← next]
  by_cases answered : t.event.Answered
  · rw [← chargeable_iff_guarded t.before answered, result]
  · have same := (iterate_failed t.event t.before answered).1
    rw [result] at same
    rw [same]
    refine ⟨fun safe => ⟨?_, ?_, ?_, fun _ => safe⟩, fun guarded => guarded.noAnswer answered⟩
    · exact fun given => absurd given answered
    · exact fun given => absurd given answered
    · exact fun given => absurd given answered

/-- In a run of the task charging is on after a completed turn only while the battery may be
charged, exactly if every completed turn is guarded.
-/
theorem safe_throughout_iff {transitions : List (Transition State Readings (List Action))}
    {finish : State} (run : State.Runs .initial transitions finish)
    : Throughout (fun past t => past ++ t.output) Safe [] transitions
      ↔ ∀ t ∈ transitions, t.before.Completes t.event → t.before.Guarded t.event := by
  let Related (past : List Action) (s : State) : Prop := s.Latch past
  let Allowed (s : State) (r : Readings) : Prop := s.Completes r → s.Guarded r
  have exactly (past : List Action) (t : Transition State Readings (List Action))
      (latch : Related past t.before)
      (taken : t.before.step t.event = some (t.after, t.output))
      : Safe past t ↔ Allowed t.before t.event :=
    safe_iff_guarded latch taken
  have keep (past : List Action) (t : Transition State Readings (List Action))
      (latch : Related past t.before)
      (taken : t.before.step t.event = some (t.after, t.output))
      (_ : Allowed t.before t.event)
      : Related (past ++ t.output) t.after :=
    State.Latch.step latch taken
  have initially : State.initial.Latch [] := iff_of_false (by decide) (by decide)
  exact run.throughout_iff_allowed exactly keep [] initially

/-- A turn in which every call succeeds. -/
def reads (charger percentage thermistor : UInt8) : Readings where
  swUpgradeInProgress := false
  percentSucceeds := true
  voltageSucceeds := true
  percentage
  powerOnResetSucceeds := true
  dcPower := ⟨true, true, charger⟩
  thermistor := ⟨true, true, thermistor⟩

/-- A battery that is charged until it is full, in range all the time. -/
theorem safe_untilFull
    : Throughout (fun past t => past ++ t.output) Safe []
        (replay State.step .initial
          [
            reads notAttached 60 tempInRange,
            reads attached 60 tempInRange,
            reads attached 86 tempInRange
          ]).1 := by
  refine (safe_throughout_iff (replay_run _ _)).mpr ?_
  have guarded (s : State) (charger percentage : UInt8)
      : s.Guarded (reads charger percentage tempInRange) :=
    ⟨
      fun _ _ _ _ => rfl,
      fun _ _ _ _ _ => rfl,
      fun _ _ _ _ unread _ => absurd rfl unread,
      fun failed => absurd ⟨rfl, rfl⟩ failed
    ⟩
  refine forall_replay_cons rfl (fun _ => guarded ..) ?_
  refine forall_replay_cons rfl (fun _ => guarded ..) ?_
  exact forall_replay_cons rfl (fun _ => guarded ..) (forall_replay_nil _)

/-- A battery that gets hot while it is charged goes on being charged. -/
theorem charged_outOfRange
    : ¬ ∀ transitions finish, State.Runs .initial transitions finish
        → Throughout (fun past t => past ++ t.output) Safe [] transitions := by
  intro always
  have safe := always _ _
    (replay_run State.initial
      [reads attached 60 tempInRange, reads attached 61 tempOutOfRange])
  rw [throughout_replay_cons rfl, throughout_replay_cons rfl] at safe
  have chargeable := safe.2.1 (.inl ⟨rfl, rfl⟩) (by decide)
  exact absurd chargeable.2.2 (by decide)

end Reconn.Power.Charging
