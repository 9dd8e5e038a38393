import Reconn.Library.PastTime
import Reconn.Wifi.State

/-! Whether the WiFi comes back as it was when the box starts again. The state itself is lost, and
WIFI_ACTIVE_FILE_NAME stands for it, which wifi.c and the debug menu create and remove.
-/

namespace Reconn.Wifi

open TransitionRuns PastTime

/-- The state of the WiFi, and whether WIFI_ACTIVE_FILE_NAME exists. -/
structure Box where
  wifi : State
  active : Bool
  deriving DecidableEq, Repr

/-- What the calls of wifiSetState return, where the file does not decide it. -/
structure Answers where
  hostapdStart : Int
  udhcpd : Int
  opens : Bool
  /-- stat() does not fail but for ENOENT. -/
  stats : Bool
  pthreadCreate : Int
  hostapdStop : Int
  /-- unlink() removes the file, if it is there. -/
  unlinks : Bool
  deriving DecidableEq, Repr

namespace Box

def stat (box : Box) (stats : Bool) : Stat :=
  if stats = false then .fails else if box.active then .found else .missing

def unlink (box : Box) (unlinks : Bool) : Int := if unlinks ∧ box.active then 0 else -1

/-- The file is created before the connection task is started. -/
def outcomes (box : Box) (a : Answers) : Outcomes where
  hostapdStart := a.hostapdStart
  udhcpd := a.udhcpd
  activeFileOpens := a.opens
  start := ⟨{ box with active := true }.stat a.stats, a.pthreadCreate⟩
  hostapdStop := a.hostapdStop
  unlink := box.unlink a.unlinks

/-- Both daemons start, and the file is created. -/
def Starts (box : Box) (a : Answers) : Prop :=
  box.wifi.theWiFiState = .wifiDisable ∧ a.hostapdStart = 0 ∧ a.udhcpd = 0 ∧ a.opens = true

/-- The file is removed on the way off. -/
def Stops (box : Box) (a : Answers) : Prop :=
  box.wifi.theWiFiState = .wifiEnable ∧ a.unlinks = true ∧ box.active = true

instance (box : Box) (a : Answers) : Decidable (box.Starts a) := inferInstanceAs (Decidable (_ ∧ _))

instance (box : Box) (a : Answers) : Decidable (box.Stops a) := inferInstanceAs (Decidable (_ ∧ _))

def wifiSetState (box : Box) (newState : WifiEnum) (a : Answers) : Box where
  wifi := (box.wifi.wifiSetState newState (box.outcomes a)).2
  active :=
    match newState with
    | .wifiEnable => box.active || box.Starts a
    | .wifiDisable => box.active && !box.Stops a
    | .wifiRead | .wifiWrite => box.active

/-- The debug menu's way back to the delivered state, which removes the file once more. -/
def defaultState (box : Box) (allocates : Bool) (a : Answers) (unlinks : Bool) : Box :=
  if allocates then
    let off := box.wifiSetState .wifiDisable a
    { off with active := off.active && !unlinks }
  else box

/-- main() starts the connection task with nothing but the file to go by. -/
def reboot (box : Box) (stats : Bool) (pthreadCreate : Int) : Box :=
  { box with wifi := (State.initial.wifiStartConnectionTask ⟨box.stat stats, pthreadCreate⟩).2 }

/-- What happens to the box: WIFI_SET_POWER_REQ and noDefault() both set the state. -/
inductive Event where
  | wifiSetState (newState : WifiEnum) (a : Answers)
  | defaultState (allocates : Bool) (a : Answers) (unlinks : Bool)
  | reboot (stats : Bool) (pthreadCreate : Int)

def step (box : Box) : Event → Option (Box × Unit)
  | .wifiSetState newState a => some (box.wifiSetState newState a, ())
  | .defaultState allocates a unlinks => some (box.defaultState allocates a unlinks, ())
  | .reboot stats pthreadCreate => some (box.reboot stats pthreadCreate, ())

abbrev Turn := Transition Box Event Unit

/-- The file stands for the state. -/
def Agrees (box : Box) : Prop := box.wifi.theWiFiState = .wifiEnable ↔ box.active = true

/-- The turn leaves a file that does not stand for the state: stat() fails behind a file that was
created, or on a file that was left, or the file goes only at the second attempt.
-/
def Breaks (t : Turn) : Prop :=
  match t.event with
  | .wifiSetState .wifiEnable a => t.before.Starts a ∧ a.stats = false
  | .wifiSetState _ _ => False
  | .defaultState allocates a unlinks =>
      allocates = true ∧ t.before.wifi.theWiFiState = .wifiEnable ∧ t.before.active = true
        ∧ a.unlinks = false ∧ unlinks = true
  | .reboot stats _ => stats = false ∧ t.before.active = true

/-- The turn leaves one that does, whatever was before: the WiFi has been switched, the file was
removed while it was off, or the box has started and looked at the file.
-/
def Settles (t : Turn) : Prop :=
  match t.event with
  | .wifiSetState .wifiEnable a => t.before.Starts a ∧ a.stats = true
  | .wifiSetState .wifiDisable a => t.before.Stops a
  | .wifiSetState _ _ => False
  | .defaultState allocates a unlinks =>
      allocates = true ∧ t.before.active = true
        ∧ (t.before.wifi.theWiFiState = .wifiEnable ∧ a.unlinks = true
          ∨ t.before.wifi.theWiFiState = .wifiDisable ∧ unlinks = true)
  | .reboot stats _ => stats = true ∨ t.before.active = false

/-- A turn has broken it, and none has settled it since. -/
def BrokenSince : List Turn → Prop := Since (fun t => ¬ Settles t) fun _ t => Breaks t

-----------------------------------------------------------------------------------------
-- What the turns leave
-----------------------------------------------------------------------------------------

theorem theWiFiState_enable (box : Box) (a : Answers)
    : (box.wifiSetState .wifiEnable a).wifi.theWiFiState
      = if box.Starts a ∧ a.stats = true then .wifiEnable else box.wifi.theWiFiState := by
  unfold wifiSetState State.wifiSetState
  dsimp only
  by_cases starts : box.Starts a
  · obtain ⟨off, hostapd, udhcpd, opens⟩ := id starts
    have hostapd' : (box.outcomes a).hostapdStart = 0 := hostapd
    have udhcpd' : (box.outcomes a).udhcpd = 0 := udhcpd
    have opens' : (box.outcomes a).activeFileOpens = true := opens
    rw [if_pos off, if_pos hostapd', if_pos udhcpd', if_pos opens']
    rcases box.wifi.wifiStartConnectionTask_cases (box.outcomes a).start with
      ⟨found, enabled, -⟩ | ⟨other, same, fails⟩
    · have stats : a.stats = true := by
        by_contra unknown
        simp [outcomes, stat, unknown] at found
      rw [if_pos (show box.Starts a ∧ a.stats = true from ⟨starts, stats⟩)]
      split
      · rfl
      · exact enabled
    · have stats : ¬ (box.Starts a ∧ a.stats = true) := by
        rintro ⟨-, known⟩
        simp [outcomes, stat, known] at other
      rw [if_neg fails, if_neg stats]
      exact same
  · have stays : ¬ (box.Starts a ∧ a.stats = true) := fun both => starts both.1
    rw [if_neg stays]
    split_ifs with off hostapd udhcpd opens started
    · exact (starts ⟨off, hostapd, udhcpd, opens⟩).elim
    · exact (starts ⟨off, hostapd, udhcpd, opens⟩).elim
    all_goals rfl

theorem theWiFiState_disable (box : Box) (a : Answers)
    : (box.wifiSetState .wifiDisable a).wifi.theWiFiState
      = if box.Stops a then .wifiDisable else box.wifi.theWiFiState := by
  unfold wifiSetState State.wifiSetState
  dsimp only
  by_cases stops : box.Stops a
  · obtain ⟨on, unlinks, active⟩ := id stops
    have removed : ¬ (box.outcomes a).unlink ≠ 0 := by simp [outcomes, unlink, unlinks, active]
    rw [if_pos on, if_neg removed, if_pos stops]
    rfl
  · rw [if_neg stops]
    by_cases on : box.wifi.theWiFiState = .wifiEnable
    · have kept : (box.outcomes a).unlink ≠ 0 := by
        intro removed
        have both : a.unlinks = true ∧ box.active = true := by
          simpa [outcomes, unlink] using removed
        exact stops ⟨on, both⟩
      rw [if_pos on, if_pos kept]
    · rw [if_neg on]

theorem theWiFiState_reboot (box : Box) (stats : Bool) (pthreadCreate : Int)
    : (box.reboot stats pthreadCreate).wifi.theWiFiState
      = if stats = true ∧ box.active = true then .wifiEnable else .wifiDisable := by
  cases stats <;> cases active : box.active <;>
    simp [reboot, stat, active, State.wifiStartConnectionTask, State.initial]

theorem switched_step {box next : Box} {event : Event} (switched : box.wifi.Switched)
    (taken : box.step event = some (next, ()))
    : next.wifi.Switched := by
  cases event with
  | wifiSetState newState a =>
      obtain rfl := congrArg Prod.fst (Option.some.inj taken)
      exact switched.wifiSetState newState _
  | defaultState allocates a unlinks =>
      obtain rfl := congrArg Prod.fst (Option.some.inj taken)
      unfold defaultState
      split
      · exact switched.wifiSetState .wifiDisable _
      · exact switched
  | reboot stats pthreadCreate =>
      obtain rfl := congrArg Prod.fst (Option.some.inj taken)
      exact State.Switched.wifiStartConnectionTask (.inl rfl) _

/-- A turn leaves a file that does not stand for the state exactly if it breaks it, or finds it so
and does not settle it, by cases on the turn.
-/
theorem agrees_step {box next : Box} {event : Event} (switched : box.wifi.Switched)
    (taken : box.step event = some (next, ()))
    : ¬ next.Agrees
      ↔ Breaks ⟨box, event, (), next⟩ ∨ ¬ Settles ⟨box, event, (), next⟩ ∧ ¬ box.Agrees := by
  have off : box.wifi.theWiFiState = .wifiDisable ↔ box.wifi.theWiFiState ≠ .wifiEnable := by
    rcases switched with state | state <;> simp [state]
  cases event with
  | wifiSetState newState a =>
      obtain rfl := congrArg Prod.fst (Option.some.inj taken)
      cases newState with
      | wifiEnable =>
          unfold Agrees Breaks Settles
          rw [theWiFiState_enable]
          by_cases starts : box.Starts a
          · cases stats : a.stats <;> simp [wifiSetState, starts, stats, off.mp starts.1]
          · simp [wifiSetState, starts]
      | wifiDisable =>
          unfold Agrees Breaks Settles
          rw [theWiFiState_disable]
          by_cases stops : box.Stops a <;> simp [wifiSetState, stops]
      | wifiRead | wifiWrite => simp [Agrees, Breaks, Settles, wifiSetState, State.wifiSetState]
  | defaultState allocates a unlinks =>
      obtain rfl := congrArg Prod.fst (Option.some.inj taken)
      cases allocates with
      | false => simp [Agrees, Breaks, Settles, defaultState]
      | true =>
          unfold Agrees Breaks Settles defaultState
          simp only [if_true]
          rw [theWiFiState_disable]
          -- the file, the two attempts to remove it and the state decide it
          by_cases on : box.wifi.theWiFiState = .wifiEnable <;> cases active : box.active <;>
            cases removed : a.unlinks <;> cases unlinks <;>
            simp [wifiSetState, Stops, off, on, active, removed]
  | reboot stats pthreadCreate =>
      obtain rfl := congrArg Prod.fst (Option.some.inj taken)
      unfold Agrees Breaks Settles
      rw [theWiFiState_reboot]
      cases stats <;> cases active : box.active <;> simp [reboot, active]

/-- Over a run the file does not stand for the state exactly if a turn has broken it and none has
settled it since.
-/
theorem agrees_run {start box : Box} {past : List Turn} (run : Run step start past box)
    (switched : start.wifi.Switched) (agrees : start.Agrees)
    : box.wifi.Switched ∧ (¬ box.Agrees ↔ BrokenSince past) := by
  let R (past : List Turn) (box : Box) : Prop :=
    box.wifi.Switched ∧ (¬ box.Agrees ↔ BrokenSince past)
  have keep : ∀ past state event next output, R past state →
      step state event = some (next, output) → R (past ++ [⟨state, event, output, next⟩]) next := by
    rintro past state event next output ⟨switched, since⟩ taken
    refine ⟨switched_step switched taken, ?_⟩
    rw [agrees_step switched taken, since, BrokenSince, since_concat_iff]
  have initially : R [] start := ⟨switched, iff_of_false (not_not.mpr agrees) not_since_nil⟩
  exact related_finish keep run initially

/-- After any run, a start of the box that can look at the file leaves the WiFi as it was exactly
if no turn has broken what the file stands for, or one has settled it since: a switch on whose
stat() failed, a start whose stat() failed on the file, or a way back to the delivered state
whose first unlink() alone failed.
-/
theorem reboot_keeps_iff {start box : Box} {past : List Turn} (run : Run step start past box)
    (switched : start.wifi.Switched) (agrees : start.Agrees) (pthreadCreate : Int)
    : (box.reboot true pthreadCreate).wifi.wifiGetState = box.wifi.wifiGetState
      ↔ ¬ BrokenSince past := by
  obtain ⟨switched', since⟩ := agrees_run run switched agrees
  rw [← since, not_not, State.wifiGetState, theWiFiState_reboot, Agrees, State.wifiGetState]
  rcases switched' with state | state <;> cases active : box.active <;> simp [state]

/-- If all goes well. -/
def usual : Answers := ⟨0, 0, true, true, 0, 0, true⟩

/-- A start that cannot look at the file, and another one that can. -/
theorem reboot_keeps_onAndRestarted
    : ¬ BrokenSince
        (replay step ⟨.initial, false⟩
          [.wifiSetState .wifiEnable usual, .reboot false 0, .reboot true 0]).1 :=
  (reboot_keeps_iff (replay_run _ _) (.inl rfl) (iff_of_false (by decide) (by decide)) 0).mp rfl

end Box

end Reconn.Wifi
