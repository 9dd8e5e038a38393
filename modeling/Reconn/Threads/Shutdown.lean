import Reconn.Threads.Mutexes

/-! The handler of SIGTERM runs on whichever thread the signal interrupts, with the mutexes
that thread owns, and locks some itself before it stops the iPhone's daemon and closes what is
open. Here it is followed until it has let go of these.
-/

namespace Reconn.Threads

open Client (reconnMaxNumClients)
open LockOrder TransitionRuns

/-- A slot's client is a remote one whose context has a socket in socketIdList. -/
def RemoteSocket (remote : RemoteClients) : Prop :=
  ∃ i < reconnMaxNumClients.toNat, ∃ index, remote i = some (some index) ∧ index ≠ 0
    ∧ index < reconnMaxNumClients

/-- The mutexes that the handler locks. -/
def Needs (gEqptTaskDone : Bool) (remote : RemoteClients) : Mutex → Prop
  | .clientListMutex => True
  | .socketMutex => gEqptTaskDone = false ∨ RemoteSocket remote
  | .clientMutex | .dmmMutex => False

theorem lock_tablesAt {theContext : Option Int} {operation : Operation Mutex}
    (member : operation ∈ tablesAt theContext)
    : operation.lock = .clientListMutex
      ∨ operation.lock = .socketMutex
        ∧ ∃ index, theContext = some index ∧ index ≠ 0 ∧ index < reconnMaxNumClients := by
  unfold tablesAt at member
  split at member
  · exact (List.not_mem_nil member).elim
  · rename_i index
    split at member
    · rename_i inTable
      rcases List.mem_append.mp member with first | second
      · split at first
        · rename_i other
          refine .inr ⟨?_, index, rfl, other, inTable⟩
          rcases List.mem_pair.mp first with rfl | rfl <;> rfl
        · exact (List.not_mem_nil first).elim
      · refine .inl ?_
        rcases List.mem_pair.mp second with rfl | rfl <;> rfl
    · exact (List.not_mem_nil member).elim

theorem needs_remoteMonitorCleanup {remote : RemoteClients} (done : Bool)
    {operation : Operation Mutex} (member : operation ∈ remoteMonitorCleanup false remote)
    : Needs done remote operation.lock := by
  unfold remoteMonitorCleanup at member
  rw [if_pos rfl] at member
  rcases List.mem_cons.mp member with rfl | member
  · exact trivial
  rcases List.mem_append.mp member with turn | last
  · obtain ⟨i, below, turn⟩ := List.mem_flatMap.mp turn
    split at turn
    · exact (List.not_mem_nil turn).elim
    · rename_i theContext there
      rcases List.mem_cons.mp turn with rfl | turn
      · exact trivial
      rcases List.mem_append.mp turn with tables | again
      · rcases lock_tablesAt tables with same | ⟨same, index, rfl, other, inTable⟩
        · rw [same]
          exact trivial
        · rw [same]
          exact .inr ⟨i, List.mem_range.mp below, index, there, other, inTable⟩
      · obtain rfl := List.mem_singleton.mp again
        exact trivial
  · obtain rfl := List.mem_singleton.mp last
    exact trivial

/-- Every mutex operation of the handler is about a mutex it needs. -/
theorem needs_reconnCleanUp {done : Bool} {remote : RemoteClients}
    {operation : Operation Mutex} (member : operation ∈ reconnCleanUp done false remote)
    : Needs done remote operation.lock := by
  rcases List.mem_append.mp member with first | second
  · unfold reconnEqptCleanUp at first
    split at first
    · rcases List.mem_pair.mp first with rfl | rfl <;> exact .inl ‹_›
    · exact (List.not_mem_nil first).elim
  · exact needs_remoteMonitorCleanup done second

theorem lock_mem_remoteMonitorCleanup {remote : RemoteClients} (socket : RemoteSocket remote)
    : lock .socketMutex ∈ remoteMonitorCleanup false remote := by
  obtain ⟨i, below, index, there, other, inTable⟩ := socket
  have tables : lock .socketMutex ∈ reconnDeRegisterClientApp (some index) := by
    simp [reconnDeRegisterClientApp, tablesAt, inTable, other, locked]
  unfold remoteMonitorCleanup
  rw [if_pos rfl]
  refine List.mem_cons_of_mem _ (List.mem_append_left _ ?_)
  refine List.mem_flatMap.mpr ⟨i, List.mem_range.mpr below, ?_⟩
  rw [there]
  exact List.mem_cons_of_mem _ (List.mem_append_left _ tables)

/-- It locks every mutex it needs. -/
theorem lock_mem_reconnCleanUp {done : Bool} {remote : RemoteClients} {mutex : Mutex}
    (needed : Needs done remote mutex)
    : .acquire mutex ∈ reconnCleanUp done false remote := by
  cases mutex with
  | clientMutex => exact needed.elim
  | dmmMutex => exact needed.elim
  | socketMutex =>
      rcases needed with running | socket
      · exact List.mem_append_left _ (by simp [reconnEqptCleanUp, running, locked, lock])
      · exact List.mem_append_right _ (lock_mem_remoteMonitorCleanup socket)
  | clientListMutex =>
      refine List.mem_append_right _ ?_
      simp [remoteMonitorCleanup, locked, lock]

theorem leads_reconnCleanUp (done running : Bool) (remote : RemoteClients)
    : Leads ∅ (reconnCleanUp done running remote) ∅ :=
  (leads_reconnEqptCleanUp done).append (leads_remoteMonitorCleanup running remote)

/-- Mutexes the handler does not need are below those it needs, if it needs one at all. -/
theorem lt_of_not_needs {done : Bool} {remote : RemoteClients} {owned mutex : Mutex}
    (apart : ¬ Needs done remote owned) (needed : Needs done remote mutex)
    : owned < mutex := by
  cases mutex with
  | clientMutex => exact needed.elim
  | dmmMutex => exact needed.elim
  | socketMutex =>
      cases owned with
      | clientMutex => decide
      | dmmMutex => decide
      | socketMutex => exact (apart needed).elim
      | clientListMutex => exact (apart trivial).elim
  | clientListMutex =>
      cases owned with
      | clientMutex => decide
      | dmmMutex => decide
      | socketMutex => decide
      | clientListMutex => exact (apart trivial).elim

/-- On the resigning client's thread, which owns clientMutex, the handler gets past its mutexes
once the other thread is out of both tables.
-/
def afterSignal : List (Event Bool Mutex) :=
  [.go true, .go true, .go true, .go false, .go false, .go false, .go false]

end Reconn.Threads
