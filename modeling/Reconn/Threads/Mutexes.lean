import Reconn.Client.Protocol
import Reconn.Client.Registry
import Reconn.Library.LockOrder
import Mathlib.Data.Fintype.EquivFin

/-! The mutexes the program's threads share. Each function is the list of the mutex operations
it does on one of its paths; what it does in between is not looked at.
-/

namespace Reconn.Threads

open Client (Mode reconnMaxNumClients)
open LockOrder TransitionRuns

inductive Mutex where
  | clientMutex
  | dmmMutex
  | socketMutex
  | clientListMutex
deriving DecidableEq

/-- The order in which the program nests its mutexes, which it states nowhere. -/
def Mutex.rank : Mutex → Fin 4
  | .clientMutex => 0
  | .dmmMutex => 1
  | .socketMutex => 2
  | .clientListMutex => 3

theorem Mutex.rank_injective : Function.Injective Mutex.rank := by
  intro left right same
  cases left <;> cases right <;> first | rfl | exact absurd same (by decide)

instance : LinearOrder Mutex := LinearOrder.lift' Mutex.rank Mutex.rank_injective

instance : Finite Mutex := Finite.of_injective Mutex.rank Mutex.rank_injective

/-- A path through a function, as its mutex operations. -/
abbrev Path := List (Operation Mutex)

def lock (mutex : Mutex) : Operation Mutex := .acquire mutex

def unlock (mutex : Mutex) : Operation Mutex := .release mutex

/-- A path while a mutex is locked. -/
def locked (mutex : Mutex) (inside : Path) : Path := lock mutex :: inside ++ [unlock mutex]

-----------------------------------------------------------------------------------------
-- The functions
-----------------------------------------------------------------------------------------

/-- A change of socketIdList and activeClientsList at a context's index; index 0 has no
socket there.
-/
def tablesAt : Option Int → Path
  | none => []
  | some index =>
      if index < reconnMaxNumClients then
        (if index ≠ 0 then locked .socketMutex [] else []) ++ locked .clientListMutex []
      else []

def reconnRegisterClientApp (theContext : Option Int) : Path := tablesAt theContext

def reconnDeRegisterClientApp (theContext : Option Int) : Path := tablesAt theContext

/-- Both tables at once, the first one locked unlocked first. -/
def bothTables : Path :=
  [lock .socketMutex, lock .clientListMutex, unlock .socketMutex, unlock .clientListMutex]

def reconnClientsRegistered : Path := bothTables

def disconnectAllClients : Path := bothTables

/-- theIndex may be NULL, and no index may be left. -/
def reconnGetFreeClientIndex (theIndex : Option Int) (numberOfActiveClients : Int) : Path :=
  if theIndex.isNone then []
  else if numberOfActiveClients < reconnMaxNumClients then locked .clientListMutex []
  else []

def clientList : Path := locked .clientListMutex []

def showClient (index : Int) : Path :=
  if index < 0 ∨ index > reconnMaxNumClients then []
  else locked .clientListMutex []

def reconnEqptCleanUp (gEqptTaskDone : Bool) : Path :=
  if gEqptTaskDone = false then locked .socketMutex [] else []

/-- The messages the task sends before it ends; socketMutex is locked for each client anew. -/
def reconnEqptTask (messages : Nat) (gEqptTaskDone : Bool) : Path :=
  locked .socketMutex []
    ++ (List.range messages).flatMap (fun _ =>
      (List.range reconnMaxNumClients.toNat).flatMap fun _ => locked .socketMutex [])
    ++ reconnEqptCleanUp gEqptTaskDone

/-- Where a slot's client is a remote one, the context that reconnDeRegisterClientApp finds
there once clientListMutex is unlocked for it. No slot is only reserved: what it has then is no
context whose mode could be read.
-/
abbrev RemoteClients := Nat → Option (Option Int)

def remoteMonitorCleanup (remoteMonitorCleanupRunning : Bool) (remote : RemoteClients) : Path :=
  if remoteMonitorCleanupRunning = false then
    locked .clientListMutex
      ((List.range reconnMaxNumClients.toNat).flatMap fun i =>
        match remote i with
        | none => []
        | some theContext =>
            unlock .clientListMutex
              :: reconnDeRegisterClientApp theContext ++ [lock .clientListMutex])
  else []

/-- The mutex operations of the handler of SIGTERM, all of them in its first two calls:
libiphoned_stop() and what is closed and freed behind it lock none, and reconnEqptCleanUp(), which
exit() calls once more, finds its work done.
-/
def reconnCleanUp (gEqptTaskDone remoteMonitorCleanupRunning : Bool) (remote : RemoteClients)
    : Path :=
  reconnEqptCleanUp gEqptTaskDone ++ remoteMonitorCleanup remoteMonitorCleanupRunning remote

/-- One use of the multimeter. -/
def dmmUse : Path := locked .dmmMutex []

def meterOn : Path := dmmUse

def meterOff : Path := dmmUse

def meterDiags : Path := dmmUse

/-- The case DMM_PKT_SEND_REQ of reconnClientTask. -/
def dmmPktSendReq : Path := dmmUse

/-- The case DMM_BUILTINTEST_REQ of reconnClientTask. -/
def dmmBuiltintestReq : Path := dmmUse

/-- The case DMM_POWER_SET_REQ of reconnClientTask: POWER_ON is 1 and POWER_OFF is 0. -/
def dmmPowerSetReq (payload : UInt8) : Path := if payload = 1 ∨ payload = 0 then dmmUse else []

/-- The times that the task has found the multimeter readable before it ends. -/
def reconnGetEqptResponseTask (responses : Nat) : Path :=
  (List.range responses).flatMap fun _ => dmmUse

/-- The file may not open. -/
def dmmSaveConfig (opened : Bool) : Path := if opened then dmmUse else []

/-- reconnClientTask before its loop. -/
def reconnClientTaskStart (mode : Mode) (index : Int) : Path :=
  locked .clientMutex
    (if mode = .insertedMasterMode then reconnRegisterClientApp (some index) else [])

/-- The case CLIENT_RESIGN_REQ of reconnClientTask. -/
def clientResignReq (mode : Mode) (index : Int) (opened : Bool) : Path :=
  locked .clientMutex
    (if mode = .insertedMasterMode then []
      else (if mode = .masterMode then dmmSaveConfig opened else [])
        ++ reconnDeRegisterClientApp (some index))

/-- The functions, and the parts of reconnClientTask, that lock a mutex. -/
inductive Call where
  | reconnRegisterClientApp (theContext : Option Int)
  | reconnDeRegisterClientApp (theContext : Option Int)
  | reconnClientsRegistered
  | disconnectAllClients
  | reconnGetFreeClientIndex (theIndex : Option Int) (numberOfActiveClients : Int)
  | clientList
  | showClient (index : Int)
  | reconnEqptCleanUp (gEqptTaskDone : Bool)
  | reconnEqptTask (messages : Nat) (gEqptTaskDone : Bool)
  | remoteMonitorCleanup (remoteMonitorCleanupRunning : Bool) (remote : RemoteClients)
  | meterOn
  | meterOff
  | meterDiags
  | dmmPktSendReq
  | dmmBuiltintestReq
  | dmmPowerSetReq (payload : UInt8)
  | reconnGetEqptResponseTask (responses : Nat)
  | dmmSaveConfig (opened : Bool)
  | reconnClientTaskStart (mode : Mode) (index : Int)
  | clientResignReq (mode : Mode) (index : Int) (opened : Bool)

def Call.path : Call → Path
  | .reconnRegisterClientApp theContext => Threads.reconnRegisterClientApp theContext
  | .reconnDeRegisterClientApp theContext => Threads.reconnDeRegisterClientApp theContext
  | .reconnClientsRegistered => Threads.reconnClientsRegistered
  | .disconnectAllClients => Threads.disconnectAllClients
  | .reconnGetFreeClientIndex theIndex numberOfActiveClients =>
      Threads.reconnGetFreeClientIndex theIndex numberOfActiveClients
  | .clientList => Threads.clientList
  | .showClient index => Threads.showClient index
  | .reconnEqptCleanUp gEqptTaskDone => Threads.reconnEqptCleanUp gEqptTaskDone
  | .reconnEqptTask messages gEqptTaskDone => Threads.reconnEqptTask messages gEqptTaskDone
  | .remoteMonitorCleanup remoteMonitorCleanupRunning remote =>
      Threads.remoteMonitorCleanup remoteMonitorCleanupRunning remote
  | .meterOn => Threads.meterOn
  | .meterOff => Threads.meterOff
  | .meterDiags => Threads.meterDiags
  | .dmmPktSendReq => Threads.dmmPktSendReq
  | .dmmBuiltintestReq => Threads.dmmBuiltintestReq
  | .dmmPowerSetReq payload => Threads.dmmPowerSetReq payload
  | .reconnGetEqptResponseTask responses => Threads.reconnGetEqptResponseTask responses
  | .dmmSaveConfig opened => Threads.dmmSaveConfig opened
  | .reconnClientTaskStart mode index => Threads.reconnClientTaskStart mode index
  | .clientResignReq mode index opened => Threads.clientResignReq mode index opened

variable {Thread : Type*}

/-- Every call the threads enter is one of these. -/
def CallsFunctions
    (transitions : List (Transition (State Thread Mutex) (Event Thread Mutex) Unit)) : Prop :=
  ∀ t ∈ transitions, ∀ thread operations, t.event = .call thread operations →
    ∃ call : Call, call.path = operations

-----------------------------------------------------------------------------------------
-- Each function nests its mutexes in their order
-----------------------------------------------------------------------------------------

section Nesting

variable {held : Set Mutex}

theorem leads_locked {mutex : Mutex} (above : ∀ other ∈ held, other < mutex)
    : Leads held (locked mutex []) held := by
  have nothing : Leads (insert mutex held) [] (insert mutex held) := rfl
  exact leads_around above nothing

theorem leads_tablesAt (above : ∀ other ∈ held, other < .socketMutex) (theContext : Option Int)
    : Leads held (tablesAt theContext) held := by
  have above' : ∀ other ∈ held, other < .clientListMutex := fun other owned =>
    (above other owned).trans (by decide)
  unfold tablesAt
  split
  · rfl
  · split
    · split
      · exact (leads_locked above).append (leads_locked above')
      · exact leads_locked above'
    · rfl

/-- socketMutex is unlocked while clientListMutex is still locked. -/
theorem leads_bothTables : Leads ∅ bothTables ∅ := by
  refine ⟨by simp, ?_, by simp, by simp, ?_⟩
  · simp only [insert_empty_eq, Set.mem_singleton_iff, forall_eq]
    decide
  · ext mutex
    simp

theorem leads_remoteMonitorCleanup (running : Bool) (remote : RemoteClients)
    : Leads ∅ (remoteMonitorCleanup running remote) ∅ := by
  unfold remoteMonitorCleanup
  split
  · refine leads_around (by simp) (leads_flatMap _ fun i _ => ?_)
    -- each turn starts and ends with clientListMutex locked
    split
    · rfl
    · refine ⟨Set.mem_insert _ _, ?_⟩
      rw [insert_empty_eq, Set.sdiff_self]
      refine (leads_tablesAt (by simp) _).append ⟨by simp, ?_⟩
      exact insert_empty_eq _
  · rfl

theorem leads_reconnEqptCleanUp (done : Bool) : Leads ∅ (reconnEqptCleanUp done) ∅ := by
  unfold reconnEqptCleanUp
  split
  · exact leads_locked (by simp)
  · rfl

theorem leads_dmmSaveConfig (above : ∀ other ∈ held, other < .dmmMutex) (opened : Bool)
    : Leads held (dmmSaveConfig opened) held := by
  unfold dmmSaveConfig
  split
  · exact leads_locked above
  · rfl

theorem above_clientMutex {mutex : Mutex} (above : .clientMutex < mutex)
    : ∀ other ∈ ({.clientMutex} : Set Mutex), other < mutex := by
  rintro _ rfl
  exact above

theorem leads_clientResignReq (mode : Mode) (index : Int) (opened : Bool)
    : Leads ∅ (clientResignReq mode index opened) ∅ := by
  refine leads_around (by simp) ?_
  rw [insert_empty_eq]
  split
  · rfl
  · have saved : Leads {.clientMutex} (if mode = .masterMode then dmmSaveConfig opened else [])
        {.clientMutex} := by
      split
      · exact leads_dmmSaveConfig (above_clientMutex (by decide)) opened
      · rfl
    exact saved.append (leads_tablesAt (above_clientMutex (by decide)) _)

theorem Call.leads (call : Call) : Leads ∅ call.path ∅ := by
  have alone : ∀ {mutex : Mutex}, Leads ∅ (locked mutex []) ∅ := leads_locked (by simp)
  cases call with
  | reconnRegisterClientApp theContext => exact leads_tablesAt (by simp) theContext
  | reconnDeRegisterClientApp theContext => exact leads_tablesAt (by simp) theContext
  | reconnClientsRegistered => exact leads_bothTables
  | disconnectAllClients => exact leads_bothTables
  | reconnGetFreeClientIndex theIndex numberOfActiveClients =>
      simp only [Call.path, Threads.reconnGetFreeClientIndex]
      split
      · rfl
      · split
        · exact alone
        · rfl
  | clientList => exact alone
  | showClient index =>
      simp only [Call.path, Threads.showClient]
      split
      · rfl
      · exact alone
  | reconnEqptCleanUp gEqptTaskDone => exact leads_reconnEqptCleanUp gEqptTaskDone
  | reconnEqptTask messages gEqptTaskDone =>
      refine (alone.append ?_).append (leads_reconnEqptCleanUp gEqptTaskDone)
      exact leads_flatMap _ fun _ _ => leads_flatMap _ fun _ _ => alone
  | remoteMonitorCleanup running remote => exact leads_remoteMonitorCleanup running remote
  | meterOn | meterOff | meterDiags | dmmPktSendReq | dmmBuiltintestReq => exact alone
  | reconnGetEqptResponseTask responses => exact leads_flatMap _ fun _ _ => alone
  | dmmSaveConfig opened => exact leads_dmmSaveConfig (by simp) opened
  | dmmPowerSetReq payload =>
      simp only [Call.path, Threads.dmmPowerSetReq]
      split
      · exact alone
      · rfl
  | reconnClientTaskStart mode index =>
      refine leads_around (by simp) ?_
      rw [insert_empty_eq]
      split
      · exact leads_tablesAt (above_clientMutex (by decide)) _
      · rfl
  | clientResignReq mode index opened => exact leads_clientResignReq mode index opened

end Nesting

-----------------------------------------------------------------------------------------
-- Threads that call them
-----------------------------------------------------------------------------------------

variable {past : List (Transition (State Thread Mutex) (Event Thread Mutex) Unit)}
  {state : State Thread Mutex}

theorem CallsFunctions.leads (functions : CallsFunctions past)
    : ∀ t ∈ past, ∀ thread operations, t.event = .call thread operations →
      Leads ∅ operations ∅ := by
  intro t member thread operations called
  obtain ⟨call, rfl⟩ := functions t member thread operations called
  exact call.leads

variable [DecidableEq Thread]

/-- Threads that call the program's functions respect the order, whatever the schedule. -/
theorem disciplined_of_run (run : Run step .initial past state)
    (functions : CallsFunctions past)
    : Disciplined (fun _ => ∅) state :=
  disciplined_initial.run run functions.leads

/-- Wherever the threads have come to by any calls in any order, the mutex a thread unlocks is
its own, and if the threads go on with the calls they are in, in whatever order, until none
can, then all of those calls are over, after as many operations as they had left, and no
mutex is locked.
-/
theorem calls_finish [Fintype Thread] (run : Run step .initial past state)
    (functions : CallsFunctions past)
    : (∀ thread mutex rest, state.ahead thread = unlock mutex :: rest →
        state.owner mutex = some thread)
      ∧ ∀ later finish, Run step state later finish → GoesOnly later →
        (∀ thread, step finish (.go thread) = none) →
        later.length = remaining state ∧ (∀ thread, finish.ahead thread = [])
          ∧ ∀ mutex, finish.owner mutex = none := by
  have disciplined := disciplined_of_run run functions
  refine ⟨fun thread mutex rest ahead => disciplined.owner_of_release ahead, ?_⟩
  intro later finish run' goes stuck
  have there := disciplined.run run' (calls_of_goesOnly goes)
  have idle := there.idle_of_stuck (fun _ idle => there.holds_of_idle idle) stuck
  refine ⟨?_, idle, ?_⟩
  · have count := remaining_run run' goes
    have zero : remaining finish = 0 := Finset.sum_eq_zero fun thread _ => by rw [idle thread]; rfl
    omega
  · intro mutex
    by_contra locked
    obtain ⟨thread, owned⟩ := Option.ne_none_iff_exists'.mp locked
    have nothing : finish.holds thread = ∅ := there.holds_of_idle (idle thread)
    exact (Set.eq_empty_iff_forall_notMem.mp nothing mutex) owned

/-- One thread disconnects the slaves while another one's client resigns. -/
def meeting : List (Event Bool Mutex) :=
  [.call true disconnectAllClients, .call false (clientResignReq .slaveMode 2 false), .go true,
    .go false]

theorem meeting_functions : CallsFunctions (replay step .initial meeting).1 := by
  intro t member thread operations called
  have events : (replay step .initial meeting).1.map Transition.event = meeting := rfl
  have known : t.event ∈ meeting := events ▸ List.mem_map_of_mem member
  rw [called] at known
  simp only [meeting, List.mem_cons, Event.call.injEq, reduceCtorEq, List.not_mem_nil,
    or_false] at known
  obtain ⟨-, rfl⟩ | ⟨-, rfl⟩ := known
  · exact ⟨.disconnectAllClients, rfl⟩
  · exact ⟨.clientResignReq .slaveMode 2 false, rfl⟩

/-- The resigning client waits until the other thread has let go of both tables. -/
def afterMeeting : List (Event Bool Mutex) :=
  [.go true, .go true, .go false, .go true, .go false, .go false, .go false, .go false]

theorem calls_finish_meeting
    : (replay step (replay step .initial meeting).2 afterMeeting).1.length
        = remaining (replay step .initial meeting).2
      ∧ (replay step (replay step .initial meeting).2 afterMeeting).2.ahead false = []
      ∧ (replay step (replay step .initial meeting).2 afterMeeting).2.owner .clientMutex
        = none := by
  have finish := (calls_finish (replay_run State.initial meeting) meeting_functions).2 _ _
    (replay_run _ afterMeeting)
    (by
      intro t member
      have events : (replay step (replay step .initial meeting).2 afterMeeting).1.map
          Transition.event = afterMeeting := rfl
      have known : t.event ∈ afterMeeting := events ▸ List.mem_map_of_mem member
      simp only [afterMeeting, List.mem_cons, List.not_mem_nil, or_false] at known
      rcases known with went | went | went | went | went | went | went | went
        <;> exact ⟨_, went⟩)
    (by rintro (_ | _) <;> rfl)
  exact ⟨finish.1, finish.2.1 false, finish.2.2 .clientMutex⟩

end Reconn.Threads
