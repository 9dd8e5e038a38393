import Reconn.Library.PastTime
import Reconn.Power.Charging

/-! When the battery is charged, by what reconnBatteryMonTask has read in all its turns so far.
The thermistor counts only at the turn that switches charging on, and a turn in which the fuel
gauge fails changes nothing.
-/

namespace Reconn.Power.Charging

open TransitionRuns PastTime

/-- A turn of reconnBatteryMonTask. -/
abbrev MonitorTurn := Transition State Readings (List Action)

namespace MonitorTurn

/-- What the turn takes for the charger being attached, and a battery that is not full. -/
def ReadsCharger (t : MonitorTurn) : Prop :=
  t.before.chargerRead t.event = attached ∧ t.event.percentage ≤ fuelGaugeMaxPercentage

/-- What the turn takes for a temperature in range, next to that. -/
def ReadsChargeable (t : MonitorTurn) : Prop :=
  t.event.Answered ∧ t.ReadsCharger ∧ t.before.thermistorRead t.event = tempInRange

/-- A turn has read all that charging needs, and those since then whose fuel gauge answered have
read a charger and a battery that is not full.
-/
def ChargedSince : List MonitorTurn → Prop :=
  Since (fun t => t.event.Answered → t.ReadsCharger) fun _ t => t.ReadsChargeable

/-- What a turn makes of the charging, from what it reads. -/
theorem enabled_step {s next : State} {r : Readings} {output : List Action}
    (taken : s.step r = some (next, output))
    : next.chargeState = .enabled
      ↔ ReadsChargeable ⟨s, r, output, next⟩
        ∨ (r.Answered → ReadsCharger ⟨s, r, output, next⟩) ∧ s.chargeState = .enabled := by
  have result := step_iterate taken
  by_cases answered : r.Answered
  · have enabled := iterate_enabled r s answered
    rw [result] at enabled
    rw [enabled, ReadsChargeable, ReadsCharger]
    simp only [answered, true_and, forall_const]
    tauto
  · have same : next.chargeState = s.chargeState := by
      rw [← (iterate_failed r s answered).1, result]
    simp [same, ReadsChargeable, answered]

/-- After any run the battery is charged exactly if a turn has read all that charging needs, and
no turn since then has read that the charger is away or the battery full. Neither a battery that
gets hot nor a fuel gauge that fails ends it.
-/
theorem charging_enabled_iff {transitions : List MonitorTurn} {finish : State}
    (run : State.Runs .initial transitions finish)
    : ChargingEnabled (transitions.flatMap Transition.output) ↔ ChargedSince transitions := by
  let R (past : List MonitorTurn) (s : State) : Prop :=
    s.Latch (past.flatMap Transition.output) ∧ (s.chargeState = .enabled ↔ ChargedSince past)
  have keep : ∀ past state event next output, R past state →
      State.step state event = some (next, output) →
      R (past ++ [⟨state, event, output, next⟩]) next := by
    rintro past state event next output ⟨latch, since⟩ taken
    refine ⟨?_, ?_⟩
    · rw [List.flatMap_append, List.flatMap_singleton]
      exact latch.step taken
    · rw [enabled_step taken, since, ChargedSince, since_concat_iff]
  have initially : R [] .initial :=
    ⟨iff_of_false (by decide) (by decide), iff_of_false (by decide) not_since_nil⟩
  obtain ⟨latch, since⟩ : R transitions finish := related_finish keep run initially
  exact latch.symm.trans since

/-- A battery that gets hot while it is charged, with a fuel gauge that fails then. -/
theorem charging_enabled_hot
    : ChargedSince
        (replay State.step .initial
          [
            reads attached 60 tempInRange,
            { reads attached 61 tempOutOfRange with voltageSucceeds := false },
            reads attached 62 tempOutOfRange
          ]).1 :=
  (charging_enabled_iff (replay_run _ _)).mp (by decide +kernel)

end MonitorTurn

end Reconn.Power.Charging
