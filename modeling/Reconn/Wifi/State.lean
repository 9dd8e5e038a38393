import Reconn.Client.Protocol
import Reconn.Library.TransitionRuns

/-! The state of the WiFi, by wifiSetState, wifiStartConnectionTask and wifiCleanUp of wifi.c.
Two of these functions write it, and the code that the first one returns does not come from all
of its steps.
-/

namespace Reconn.Wifi

open TransitionRuns
open Client (
  ReconnErrCode reconnSuccess reconnFailure reconnInvalidParameter reconnInvalidState
  reconnFailure_ne_success)

/-- WIFIENUM -/
inductive WifiEnum where
  | wifiDisable
  | wifiEnable
  | wifiRead
  | wifiWrite
  deriving DecidableEq, Repr

/-- The static variables of wifi.c, but for the socket of the connection task. -/
structure State where
  theWiFiState : WifiEnum
  taskDone : Bool
  deriving DecidableEq, Repr

/-- stat() of WIFI_ACTIVE_FILE_NAME. -/
inductive Stat where
  | found
  /-- ENOENT -/
  | missing
  | fails
  deriving DecidableEq, Repr

/-- What the calls of wifiStartConnectionTask return. -/
structure StartOutcomes where
  stat : Stat
  pthreadCreate : Int
  deriving DecidableEq, Repr

/-- What the calls of wifiSetState return. It does not look at what killall returns. -/
structure Outcomes where
  /-- system("/etc/init.d/hostapd start") -/
  hostapdStart : Int
  /-- system("udhcpd /etc/udhcpd.conf") -/
  udhcpd : Int
  /-- fopen() of WIFI_ACTIVE_FILE_NAME for writing -/
  activeFileOpens : Bool
  start : StartOutcomes
  /-- system("/etc/init.d/hostapd stop") -/
  hostapdStop : Int
  /-- unlink() of WIFI_ACTIVE_FILE_NAME -/
  unlink : Int
  deriving DecidableEq, Repr

namespace State

def initial : State := ⟨.wifiDisable, false⟩

def wifiCleanUp (s : State) : State := { s with taskDone := true }

def wifiStartConnectionTask (s : State) (env : StartOutcomes) : ReconnErrCode × State :=
  let s := { s with taskDone := false }
  match env.stat with
  | .found =>
      (
        if env.pthreadCreate < 0 then reconnFailure else reconnSuccess,
        { s with theWiFiState := .wifiEnable }
      )
  | .missing => (reconnInvalidState, s)
  | .fails => (reconnFailure, s)

def wifiGetState (s : State) : WifiEnum := s.theWiFiState

def wifiSetState (s : State) (newState : WifiEnum) (env : Outcomes) : ReconnErrCode × State :=
  match newState with
  | .wifiEnable =>
      if s.theWiFiState = .wifiDisable then
        if env.hostapdStart = 0 then
          if env.udhcpd = 0 then
            if env.activeFileOpens then
              let started := s.wifiStartConnectionTask env.start
              if started.1 = reconnSuccess then
                (started.1, { started.2 with theWiFiState := .wifiEnable })
              else started
            -- A file that cannot be opened is only logged.
            else (reconnSuccess, s)
          else (reconnFailure, s)
        else (reconnFailure, s)
      else (reconnSuccess, s)
  | .wifiDisable =>
      if s.theWiFiState = .wifiEnable then
        let retCode := if env.hostapdStop ≠ 0 then reconnFailure else reconnSuccess
        if env.unlink ≠ 0 then (reconnFailure, s)
        else (retCode, wifiCleanUp { s with theWiFiState := newState })
      else (reconnSuccess, s)
  | .wifiRead | .wifiWrite => (reconnInvalidParameter, s)

end State

/-- The calls that write the state: wifiSetState, and wifiStartConnectionTask when the box
starts.
-/
inductive Call where
  | wifiSetState (newState : WifiEnum) (env : Outcomes)
  | wifiStartConnectionTask (env : StartOutcomes)
  deriving DecidableEq, Repr

/-- A call and its code. -/
def State.step (s : State) : Call → Option (State × ReconnErrCode)
  | .wifiSetState newState env => some (s.wifiSetState newState env).swap
  | .wifiStartConnectionTask env => some (s.wifiStartConnectionTask env).swap

/-- A call of wifiSetState that succeeds leaves the state that was asked for, and one that fails
the state of before.
-/
def AllOrNothing (t : Transition State Call ReconnErrCode) : Prop :=
  match t.event with
  | .wifiSetState newState _ =>
      if t.output = reconnSuccess then t.after.wifiGetState = newState
      else t.after.wifiGetState = t.before.wifiGetState
  | .wifiStartConnectionTask _ => True

/-- What a call of wifiSetState does not meet, if it changes the state: on its way on, a file
that cannot be opened behind daemons that have started, or a thread that cannot be created
behind a file that is found; on its way off, a hostapd that does not stop, with a file that can
be removed.
-/
def State.Allows (s : State) : Call → Prop
  | .wifiSetState .wifiEnable env =>
      s.theWiFiState = .wifiDisable → env.hostapdStart = 0 → env.udhcpd = 0
        → env.activeFileOpens = true ∧ (env.start.stat = .found → 0 ≤ env.start.pthreadCreate)
  | .wifiSetState .wifiDisable env =>
      s.theWiFiState = .wifiEnable → env.unlink = 0 → env.hostapdStop = 0
  | _ => True

-----------------------------------------------------------------------------------------
-- Runs
-----------------------------------------------------------------------------------------

/-- The WiFi is on or off. -/
def State.Switched (s : State) : Prop :=
  s.theWiFiState = .wifiDisable ∨ s.theWiFiState = .wifiEnable

/-- Starting the connection task only ever switches the WiFi on. -/
theorem State.Switched.wifiStartConnectionTask {s : State} (switched : s.Switched)
    (env : StartOutcomes)
    : (s.wifiStartConnectionTask env).2.Switched := by
  unfold State.wifiStartConnectionTask
  cases env.stat with
  | found => exact .inr rfl
  | missing | fails => exact switched

/-- A call leaves the WiFi on or off, by cases on what is asked for. -/
theorem State.Switched.wifiSetState {s : State} (switched : s.Switched) (newState : WifiEnum)
    (env : Outcomes)
    : (s.wifiSetState newState env).2.Switched := by
  cases newState with
  | wifiEnable =>
      unfold State.wifiSetState
      dsimp only
      split_ifs with off hostapd udhcpd opens started
      · exact .inr rfl
      · exact switched.wifiStartConnectionTask env.start
      all_goals exact switched
  | wifiDisable =>
      unfold State.wifiSetState
      dsimp only
      split_ifs with on fails stops
      · exact switched
      · exact .inl rfl
      · exact .inl rfl
      · exact switched
  | wifiRead | wifiWrite => exact switched

/-- Starting the connection task succeeds if the file is found and the thread created, and
leaves the state alone exactly if the file is not found, or it was on before.
-/
theorem State.wifiStartConnectionTask_cases (s : State) (env : StartOutcomes)
    : (env.stat = .found ∧ (s.wifiStartConnectionTask env).2.theWiFiState = .wifiEnable
        ∧ ((s.wifiStartConnectionTask env).1 = reconnSuccess ↔ 0 ≤ env.pthreadCreate))
      ∨ (env.stat ≠ .found
        ∧ (s.wifiStartConnectionTask env).2.theWiFiState = s.theWiFiState
        ∧ (s.wifiStartConnectionTask env).1 ≠ reconnSuccess) := by
  unfold State.wifiStartConnectionTask
  cases found : env.stat with
  | found =>
      refine .inl ⟨rfl, rfl, ?_⟩
      dsimp only
      split_ifs with fails
      · exact iff_of_false (by decide) (by omega)
      · exact iff_of_true rfl (by omega)
  | missing =>
      have invalid : reconnInvalidState ≠ reconnSuccess := by decide
      exact .inr ⟨by decide, rfl, invalid⟩
  | fails =>
      exact .inr ⟨by decide, rfl, reconnFailure_ne_success⟩

/-- What a call of wifiSetState must leave. -/
def Leaves (s : State) (newState : WifiEnum) (result : ReconnErrCode × State) : Prop :=
  if result.1 = reconnSuccess then result.2.wifiGetState = newState
  else result.2.wifiGetState = s.wifiGetState

theorem leaves_success {s after : State} {newState : WifiEnum} {result : ReconnErrCode × State}
    (success : result = (reconnSuccess, after))
    : Leaves s newState result ↔ after.theWiFiState = newState := by
  rw [success, Leaves, if_pos rfl]
  rfl

theorem leaves_failure {s after : State} {newState : WifiEnum} {code : ReconnErrCode}
    (fails : code ≠ reconnSuccess)
    : Leaves s newState (code, after) ↔ after.theWiFiState = s.theWiFiState := by
  rw [Leaves, if_neg fails]
  rfl

/-- Switching on leaves what it must exactly if it is allowed. Witness: the code is that of the
daemons, then success where the file does not open, and then that of the connection task.
-/
theorem leaves_wifiEnable_iff {s : State} (switched : s.Switched) (env : Outcomes)
    : Leaves s .wifiEnable (s.wifiSetState .wifiEnable env)
      ↔ s.Allows (.wifiSetState .wifiEnable env) := by
  unfold State.wifiSetState State.Allows
  dsimp only
  split_ifs with off hostapd udhcpd opens started
  · rcases s.wifiStartConnectionTask_cases env.start with
      ⟨found, -, success⟩ | ⟨-, -, fails⟩
    · rw [started, leaves_success rfl]
      exact iff_of_true rfl fun _ _ _ => ⟨opens, fun _ => success.mp started⟩
    · exact absurd started fails
  · rw [@leaves_failure s (s.wifiStartConnectionTask env.start).2 .wifiEnable _ started]
    rcases s.wifiStartConnectionTask_cases env.start with
      ⟨found, enabled, success⟩ | ⟨absent, unchanged, -⟩
    · rw [enabled, off]
      refine iff_of_false (by decide) fun allowed => ?_
      exact started (success.mpr ((allowed rfl hostapd udhcpd).2 found))
    · exact iff_of_true unchanged fun _ _ _ => ⟨opens, fun found => absurd found absent⟩
  · rw [leaves_success rfl, off]
    exact iff_of_false (by decide) fun allowed => opens (allowed rfl hostapd udhcpd).1
  · rw [leaves_failure reconnFailure_ne_success]
    exact iff_of_true rfl fun _ _ udhcpd' => absurd udhcpd' udhcpd
  · rw [leaves_failure reconnFailure_ne_success]
    exact iff_of_true rfl fun _ hostapd' => absurd hostapd' hostapd
  · rw [leaves_success rfl]
    exact iff_of_true (switched.resolve_left off) fun off' => absurd off' off

/-- Switching off leaves what it must exactly if it is allowed. -/
theorem leaves_wifiDisable_iff {s : State} (switched : s.Switched) (env : Outcomes)
    : Leaves s .wifiDisable (s.wifiSetState .wifiDisable env)
      ↔ s.Allows (.wifiSetState .wifiDisable env) := by
  unfold State.wifiSetState State.Allows
  dsimp only
  split_ifs with on kept stops
  · rw [leaves_failure reconnFailure_ne_success]
    exact iff_of_true rfl fun _ removed => absurd removed kept
  · rw [leaves_failure reconnFailure_ne_success, on]
    have changed : WifiEnum.wifiDisable ≠ .wifiEnable := by decide
    exact iff_of_false changed fun allowed => stops (allowed rfl (not_not.mp kept))
  · rw [leaves_success rfl]
    exact iff_of_true rfl fun _ _ => not_not.mp stops
  · rw [leaves_success rfl]
    exact iff_of_true (switched.resolve_right on) fun on' => absurd on' on

/-- A call is all or nothing exactly if it is allowed. -/
theorem allOrNothing_iff {t : Transition State Call ReconnErrCode}
    (switched : t.before.Switched)
    (taken : t.before.step t.event = some (t.after, t.output))
    : AllOrNothing t ↔ t.before.Allows t.event := by
  obtain ⟨before, call, code, after⟩ := t
  cases call with
  | wifiStartConnectionTask env => exact Iff.rfl
  | wifiSetState newState env =>
      have result : before.wifiSetState newState env = (code, after) :=
        congrArg Prod.swap (Option.some.inj taken)
      have leaves
          : AllOrNothing ⟨before, .wifiSetState newState env, code, after⟩
            ↔ Leaves before newState (before.wifiSetState newState env) := by
        rw [result]
        rfl
      rw [leaves]
      cases newState with
      | wifiEnable => exact leaves_wifiEnable_iff switched env
      | wifiDisable => exact leaves_wifiDisable_iff switched env
      | wifiRead | wifiWrite => exact iff_of_true rfl trivial

/-- The WiFi is on or off around every call of a run. -/
theorem State.Switched.run {start finish : State}
    {calls : List (Transition State Call ReconnErrCode)}
    (run : Run State.step start calls finish) (switched : start.Switched)
    : ∀ t ∈ calls, t.before.Switched := by
  have keep : ∀ (s : State) call next output,
      s.Switched → s.step call = some (next, output) → next.Switched := by
    intro s call next output switched taken
    cases call with
    | wifiSetState newState env =>
        obtain rfl := congrArg Prod.fst (Option.some.inj taken)
        exact switched.wifiSetState newState env
    | wifiStartConnectionTask env =>
        obtain rfl := congrArg Prod.fst (Option.some.inj taken)
        exact switched.wifiStartConnectionTask env
  exact fun t member => ((run.invariant_always keep switched).1 t member).1

/-- In a run from the initial state all calls are all or nothing exactly if all are allowed.
-/
theorem wifiSetState_allOrNothing_iff {finish : State}
    {calls : List (Transition State Call ReconnErrCode)}
    (run : Run State.step .initial calls finish)
    : (∀ t ∈ calls, AllOrNothing t) ↔ ∀ t ∈ calls, t.before.Allows t.event := by
  have switched := State.Switched.run run (.inl rfl)
  exact forall₂_congr fun t member =>
    allOrNothing_iff (switched t member) (run.taken t member)

/-- What the calls return if all goes well. -/
def Outcomes.usual : Outcomes := ⟨0, 0, true, ⟨.found, 0⟩, 0, 0⟩

/-- Switching the WiFi on and off again. -/
theorem wifiSetState_allOrNothing_onOff
    : (replay State.step State.initial
            [.wifiSetState .wifiEnable .usual, .wifiSetState .wifiDisable .usual]).2.theWiFiState
          = .wifiDisable
      ∧ ∀ t ∈ (replay State.step State.initial
            [.wifiSetState .wifiEnable .usual, .wifiSetState .wifiDisable .usual]).1,
          AllOrNothing t := by
  refine ⟨rfl, (wifiSetState_allOrNothing_iff (replay_run State.initial _)).mpr ?_⟩
  refine forall_replay_cons rfl (fun _ _ _ => ⟨rfl, fun _ => by decide⟩) ?_
  refine forall_replay_cons rfl (fun _ _ => rfl) ?_
  exact forall_replay_nil _

/-- Where the file cannot be opened, switching on succeeds and changes nothing. -/
theorem wifiSetState_allOrNothing_not
    : ¬ ∀ calls finish, Run State.step .initial calls finish → ∀ t ∈ calls, AllOrNothing t := by
  intro always
  let env : Outcomes := { Outcomes.usual with activeFileOpens := false }
  have run : Run State.step .initial
      [⟨.initial, .wifiSetState .wifiEnable env, reconnSuccess, .initial⟩] .initial :=
    .cons rfl (.nil _)
  have kept : Leaves .initial .wifiEnable (reconnSuccess, .initial) :=
    always _ _ run _ (List.mem_singleton.mpr rfl)
  exact absurd ((leaves_success rfl).mp kept) (by decide)

end Reconn.Wifi
