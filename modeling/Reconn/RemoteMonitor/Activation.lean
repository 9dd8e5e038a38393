import Mathlib.Logic.Function.Basic
import Reconn.Library.TransitionRuns
import Reconn.RemoteMonitor.Task

/-! The activation of the remote monitor, by remoteMonitorActivate and remoteMonitorCleanup of
remoteMonitor.c: which sockets it opens and closes, and which code it returns.
-/

namespace Reconn.RemoteMonitor

open TransitionRuns
open Client (
  ReconnErrCode cString reconnSuccess reconnFailure reconnHostnameUnresolved
  reconnFailure_ne_success)

def reconnConnectionTimedout : ReconnErrCode := 11
def reconnNetworkUnreachable : ReconnErrCode := 12
def reconnConnectionRefused : ReconnErrCode := 13

theorem reconnHostnameUnresolved_ne_success : reconnHostnameUnresolved ≠ reconnSuccess := by
  decide

/-- isalpha() in the C locale. -/
def isAlpha (c : UInt8) : Bool := (65 ≤ c && c ≤ 90) || (97 ≤ c && c ≤ 122)

/-- The values of errno that the activation tells apart. -/
inductive Errno where
  | econnrefused
  | enetunreach
  | etimedout
  | other
  deriving DecidableEq, Repr

def Errno.retCode : Errno → ReconnErrCode
  | .econnrefused => reconnConnectionRefused
  | .enetunreach => reconnNetworkUnreachable
  | .etimedout => reconnConnectionTimedout
  | .other => reconnFailure

/-- What the calls of an attempt to activate return. -/
structure Attempt where
  /-- socket() -/
  webServerSocket : Int
  getaddrinfo : Int
  /-- the errno of connect() where it fails -/
  connect : Option Errno
  pthreadCreate : Int
  deriving DecidableEq, Repr

/-- The static variables, and the descriptors of sockets to the web server that are open. -/
structure Activation where
  statics : Statics
  opened : Int → Bool

namespace Activation

/-- The program's start. -/
def initial : Activation := ⟨State.initial.statics, fun _ => false⟩

/-- The host name of the web server is given as a name and not as an address. -/
def ipAddressIsName (theWebServerHostName : List UInt8) : Bool :=
  (cString theWebServerHostName).any isAlpha

/-- remoteMonitorActivate(YES, ...) for the host name of the context. -/
def activateYes (s : Activation) (theWebServerHostName : List UInt8) (env : Attempt)
    : ReconnErrCode × Activation :=
  if s.statics.remoteMonitorActive then (reconnSuccess, s)
  else
    let s := { s with statics.webServerSocket := env.webServerSocket }
    if env.webServerSocket < 0 then (reconnFailure, s)
    else
      let s := { s with opened := Function.update s.opened env.webServerSocket true }
      let retCode :=
        if ipAddressIsName theWebServerHostName ∧ env.getaddrinfo ≠ 0 then
          reconnHostnameUnresolved
        else reconnSuccess
      if retCode = reconnSuccess then
        match env.connect with
        | some errno => (errno.retCode, s)
        | none =>
            let s := { s with statics.remoteMonitorDone := false }
            if env.pthreadCreate < 0 then
              (reconnFailure, { s with statics.remoteMonitorActive := false })
            else (retCode, { s with statics.remoteMonitorActive := true })
      else (retCode, s)

/-- remoteMonitorCleanup, without the clients that it deregisters. -/
def remoteMonitorCleanup (s : Activation) : Activation where
  statics := s.statics.remoteMonitorCleanup
  opened :=
    if s.statics.webServerSocket ≠ -1 then
      Function.update s.opened s.statics.webServerSocket false
    else s.opened

/-- remoteMonitorActivate(NO, ...) -/
def activateNo (s : Activation) : ReconnErrCode × Activation :=
  (reconnSuccess, if s.statics.remoteMonitorActive then s.remoteMonitorCleanup else s)

/-- socket() returns -1, or a descriptor that is not open. -/
def Serves (s : Activation) (env : Attempt) : Prop :=
  s.statics.remoteMonitorActive = false
    → env.webServerSocket = -1
      ∨ (0 ≤ env.webServerSocket ∧ s.opened env.webServerSocket = false)

instance (s : Activation) (env : Attempt) : Decidable (s.Serves env) :=
  inferInstanceAs (Decidable (_ → _))

end Activation

/-- The calls that open or close the socket. -/
inductive Call where
  | activateYes (theWebServerHostName : List UInt8) (env : Attempt)
  | activateNo
  /-- remoteMonitorCleanup, at the program's end -/
  | cleanup
  deriving DecidableEq, Repr

namespace Activation

/-- A call and its code. -/
def step (s : Activation) : Call → Option (Activation × ReconnErrCode)
  | .activateYes theWebServerHostName env =>
      if s.Serves env then some (s.activateYes theWebServerHostName env).swap else none
  | .activateNo => some s.activateNo.swap
  | .cleanup => some (s.remoteMonitorCleanup, reconnSuccess)

/-- What a failed activation leaves: no activity, no socket, and nothing open that was not open
before.
-/
structure LeavesNothing (before after : Activation) : Prop where
  inactive : after.statics.remoteMonitorActive = false
  noSocket : after.statics.webServerSocket = -1
  closed : ∀ fd, after.opened fd = true → before.opened fd = true

/-- An activation of the inactive monitor that returns an error leaves nothing behind. -/
def CleansUp (t : Transition Activation Call ReconnErrCode) : Prop :=
  match t.event with
  | .activateYes _ _ =>
      t.before.statics.remoteMonitorActive = false → t.output ≠ reconnSuccess
        → LeavesNothing t.before t.after
  | .activateNo | .cleanup => True

/-- No descriptor is open but that of the session. -/
def NoLeak (s : Activation) : Prop :=
  ∀ fd, s.opened fd = true → fd = s.statics.webServerSocket

/-- Behind its socket an attempt succeeds: a name is resolved, and neither connect() nor
pthread_create fails.
-/
def Succeeds (theWebServerHostName : List UInt8) (env : Attempt) : Prop :=
  (ipAddressIsName theWebServerHostName = true → env.getaddrinfo = 0)
    ∧ env.connect = none ∧ 0 ≤ env.pthreadCreate

/-- An attempt that has its socket succeeds. -/
def Allows (s : Activation) : Call → Prop
  | .activateYes theWebServerHostName env =>
      s.statics.remoteMonitorActive = false → 0 ≤ env.webServerSocket
        → Succeeds theWebServerHostName env
  | .activateNo | .cleanup => True

-----------------------------------------------------------------------------------------
-- One attempt
-----------------------------------------------------------------------------------------

theorem retCode_ne_success (errno : Errno) : errno.retCode ≠ reconnSuccess := by
  cases errno <;> decide

/-- The static variables are those of the sessions' model. -/
theorem activateYes_statics (s : Activation) (theWebServerHostName stack : List UInt8)
    (env : Attempt)
    : (s.activateYes theWebServerHostName env).2.statics
      = (s.statics.activate
          ⟨
            env.webServerSocket,
            decide ¬ (ipAddressIsName theWebServerHostName = true ∧ env.getaddrinfo ≠ 0),
            env.connect.isNone,
            env.pthreadCreate,
            stack
          ⟩).1 := by
  unfold activateYes Statics.activate
  by_cases active : s.statics.remoteMonitorActive = true
  · rw [if_pos active, if_pos active]
  rw [if_neg active, if_neg active]
  dsimp only
  by_cases closed : env.webServerSocket < 0
  · rw [if_pos closed, if_pos (.inl closed)]
  rw [if_neg closed]
  by_cases unresolvable : ipAddressIsName theWebServerHostName = true ∧ env.getaddrinfo ≠ 0
  · rw [if_pos unresolvable, if_neg reconnHostnameUnresolved_ne_success,
      if_pos (.inr (.inl (by simp [unresolvable])))]
  rw [if_neg unresolvable, if_pos rfl]
  cases connect : env.connect with
  | some errno => simp
  | none =>
      by_cases created : env.pthreadCreate < 0
      · simp [closed, unresolvable, created]
      · simp [closed, unresolvable, created]

/-- How an attempt of the inactive monitor goes: it gets no socket, or it succeeds, or it fails
with the socket open.
-/
inductive Outcome (s : Activation) (theWebServerHostName : List UInt8) (env : Attempt)
    : ReconnErrCode × Activation → Prop where
  | noSocket (fails : env.webServerSocket < 0)
    : Outcome s theWebServerHostName env
        (reconnFailure, { s with statics.webServerSocket := env.webServerSocket })
  | active (opens : 0 ≤ env.webServerSocket) (succeeds : Succeeds theWebServerHostName env)
      (after : Activation)
      (socket : after.statics.webServerSocket = env.webServerSocket)
      (isActive : after.statics.remoteMonitorActive = true)
      (opened : after.opened = Function.update s.opened env.webServerSocket true)
    : Outcome s theWebServerHostName env (reconnSuccess, after)
  | left (opens : 0 ≤ env.webServerSocket) (fails : ¬ Succeeds theWebServerHostName env)
      (retCode : ReconnErrCode) (after : Activation) (error : retCode ≠ reconnSuccess)
      (socket : after.statics.webServerSocket = env.webServerSocket)
    : Outcome s theWebServerHostName env (retCode, after)

/-- There is no other way, by cases in the order of the calls. -/
theorem activateYes_outcome {s : Activation}
    (inactive : s.statics.remoteMonitorActive = false) (theWebServerHostName : List UInt8)
    (env : Attempt)
    : Outcome s theWebServerHostName env (s.activateYes theWebServerHostName env) := by
  unfold activateYes
  rw [inactive, if_neg Bool.false_ne_true]
  dsimp only
  by_cases closed : env.webServerSocket < 0
  · rw [if_pos closed]
    exact .noSocket closed
  have opens : 0 ≤ env.webServerSocket := Int.not_lt.mp closed
  rw [if_neg closed]
  by_cases unresolvable : ipAddressIsName theWebServerHostName = true ∧ env.getaddrinfo ≠ 0
  · rw [if_pos unresolvable, if_neg reconnHostnameUnresolved_ne_success]
    refine .left opens (fun succeeds => ?_) _ _ reconnHostnameUnresolved_ne_success rfl
    exact unresolvable.2 (succeeds.1 unresolvable.1)
  rw [if_neg unresolvable, if_pos rfl]
  cases connect : env.connect with
  | some errno =>
      refine .left opens (fun succeeds => ?_) _ _ (retCode_ne_success errno) rfl
      exact Option.some_ne_none _ (connect.symm.trans succeeds.2.1)
  | none =>
      dsimp only
      split_ifs with created
      · refine .left opens (fun succeeds => ?_) _ _ reconnFailure_ne_success rfl
        exact Int.not_lt.mpr succeeds.2.2 created
      · refine .active opens ⟨fun isName => ?_, connect, Int.not_lt.mp created⟩ _ rfl rfl rfl
        by_contra fails
        exact unresolvable ⟨isName, fails⟩

/-- An attempt leaves nothing behind exactly if it is allowed. Witness: a failure behind the
socket leaves its descriptor in webServerSocket.
-/
theorem cleansUp_iff {t : Transition Activation Call ReconnErrCode}
    (taken : t.before.step t.event = some (t.after, t.output))
    : CleansUp t ↔ t.before.Allows t.event := by
  obtain ⟨before, call, code, after⟩ := t
  cases call with
  | activateNo | cleanup => exact Iff.rfl
  | activateYes theWebServerHostName env =>
      obtain ⟨serves, result⟩ := Option.ite_none_right_eq_some.mp taken
      have attempt : before.activateYes theWebServerHostName env = (code, after) :=
        congrArg Prod.swap (Option.some.inj result)
      unfold CleansUp Allows
      dsimp only at attempt ⊢
      refine forall_congr' fun inactive => ?_
      have outcome := activateYes_outcome inactive theWebServerHostName env
      rw [attempt] at outcome
      cases outcome with
      | noSocket fails =>
          have none : env.webServerSocket = -1 := by
            rcases serves inactive with none | ⟨opens, -⟩
            · exact none
            · omega
          exact iff_of_true (fun _ => ⟨inactive, none, fun _ opened => opened⟩)
            fun opens => absurd fails (Int.not_lt.mpr opens)
      | active opens succeeds =>
          exact iff_of_true (fun error => absurd rfl error) fun _ => succeeds
      | left opens fails _ _ error socket =>
          refine iff_of_false (fun cleansUp => ?_) fun allowed => fails (allowed opens)
          have closed := (cleansUp error).noSocket
          omega

-----------------------------------------------------------------------------------------
-- Runs of calls
-----------------------------------------------------------------------------------------

/-- An open descriptor is that of the session, and there is one. -/
def Held (s : Activation) : Prop :=
  ∀ fd, s.opened fd = true
    → 0 ≤ fd ∧ fd = s.statics.webServerSocket ∧ s.statics.remoteMonitorActive = true

theorem held_initial : initial.Held := fun _ opened => absurd opened Bool.false_ne_true

/-- Cleaning up closes the session's descriptor. -/
theorem Held.remoteMonitorCleanup {s : Activation} (held : s.Held)
    : s.remoteMonitorCleanup.Held := by
  intro fd opened
  unfold Activation.remoteMonitorCleanup at opened
  dsimp only at opened
  split_ifs at opened with some_
  · rw [Function.update_apply] at opened
    split_ifs at opened with same
    exact absurd (held fd opened).2.1 same
  · have session := held fd opened
    omega

/-- An allowed call keeps what is open to the session, by cases on the call. -/
theorem Held.step {s next : Activation} {call : Call} {output : ReconnErrCode} (held : s.Held)
    (allowed : s.Allows call) (taken : s.step call = some (next, output))
    : next.Held := by
  cases call with
  | cleanup =>
      obtain rfl := congrArg Prod.fst (Option.some.inj taken)
      exact held.remoteMonitorCleanup
  | activateNo =>
      obtain rfl := congrArg Prod.fst (Option.some.inj taken)
      show (if s.statics.remoteMonitorActive then s.remoteMonitorCleanup else s).Held
      split_ifs
      · exact held.remoteMonitorCleanup
      · exact held
  | activateYes theWebServerHostName env =>
      obtain ⟨serves, result⟩ := Option.ite_none_right_eq_some.mp taken
      have attempt : s.activateYes theWebServerHostName env = (output, next) :=
        congrArg Prod.swap (Option.some.inj result)
      by_cases active : s.statics.remoteMonitorActive = true
      · rw [activateYes, if_pos active] at attempt
        obtain rfl := congrArg Prod.snd attempt
        exact held
      · have inactive : s.statics.remoteMonitorActive = false := Bool.not_eq_true _ ▸ active
        have nothing (fd : Int) (opened : s.opened fd = true) : False :=
          active (held fd opened).2.2
        have outcome := activateYes_outcome inactive theWebServerHostName env
        rw [attempt] at outcome
        cases outcome with
        | noSocket fails => exact fun fd opened => (nothing fd opened).elim
        | active opens succeeds _ socket isActive opened =>
            intro fd isOpen
            rw [opened, Function.update_apply] at isOpen
            split_ifs at isOpen with same
            · exact ⟨same ▸ opens, same.trans socket.symm, isActive⟩
            · exact (nothing fd isOpen).elim
        | left opens fails => exact absurd (allowed inactive opens) fails

end Activation

/-- In a run from the program's start all failed activations leave nothing behind, and no
descriptor leaks, exactly if every attempt that has its socket succeeds.
-/
theorem remoteMonitorActivate_cleansUp_iff {finish : Activation}
    {calls : List (Transition Activation Call ReconnErrCode)}
    (run : Run Activation.step .initial calls finish)
    : (∀ t ∈ calls, Activation.CleansUp t ∧ t.after.NoLeak)
      ↔ ∀ t ∈ calls, t.before.Allows t.event := by
  constructor
  · exact fun clean t member =>
      (Activation.cleansUp_iff (run.taken t member)).mp (clean t member).1
  · intro allowed t member
    have keep : ∀ (s : Activation) call next output,
        s.Held → s.Allows call → s.step call = some (next, output) → next.Held :=
      fun s call next output held allowed taken => held.step allowed taken
    have held := (run.invariant keep Activation.held_initial allowed).1 t member
    refine ⟨(Activation.cleansUp_iff (run.taken t member)).mpr (allowed t member), ?_⟩
    exact fun fd opened => (held.2 fd opened).2.1

/-- The host name 10.0.0.7. -/
def webServerAddress : List UInt8 := [49, 48, 46, 48, 46, 48, 46, 55]

/-- A socket() that fails, a session, and its end. -/
def oneSession : List Call :=
  [
    .activateYes webServerAddress ⟨-1, 0, none, 0⟩,
    .activateYes webServerAddress ⟨5, 0, none, 0⟩,
    .activateNo
  ]

/-- In a session each activation cleans up, and it ends without a socket. -/
theorem remoteMonitorActivate_cleansUp_session
    : (replay Activation.step .initial oneSession).2.statics.webServerSocket = -1
      ∧ ∀ t ∈ (replay Activation.step Activation.initial oneSession).1,
          Activation.CleansUp t ∧ t.after.NoLeak := by
  refine ⟨by decide, (remoteMonitorActivate_cleansUp_iff (replay_run Activation.initial _)).mpr ?_⟩
  refine forall_replay_cons rfl (fun _ opens => absurd opens (by decide)) ?_
  refine forall_replay_cons rfl (fun _ _ => ⟨fun _ => rfl, rfl, by decide⟩) ?_
  refine forall_replay_cons rfl trivial ?_
  exact forall_replay_nil _

/-- A connection that is refused leaves its socket open. -/
theorem remoteMonitorActivate_cleansUp_not
    : ¬ ∀ calls finish, Run Activation.step .initial calls finish
        → ∀ t ∈ calls, Activation.CleansUp t ∧ t.after.NoLeak := by
  intro always
  let refused : Call := .activateYes webServerAddress ⟨5, 0, some .econnrefused, 0⟩
  let left := (Activation.initial.activateYes webServerAddress ⟨5, 0, some .econnrefused, 0⟩).2
  have run : Run Activation.step .initial
      [⟨.initial, refused, reconnConnectionRefused, left⟩] left :=
    .cons rfl (.nil _)
  have clean := (always _ _ run _ (List.mem_singleton.mpr rfl)).1
  have closed : left.statics.webServerSocket = -1 := (clean rfl (by decide)).noSocket
  exact absurd closed (by decide)

end Reconn.RemoteMonitor
