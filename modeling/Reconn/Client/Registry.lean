import Mathlib.Logic.Function.Basic
import Mathlib.Data.List.Basic

/-! The client table of reconnApp.c and eqptResponse.c: the count of active clients, the
list of their contexts and the list of the sockets that receive equipment responses.
-/

namespace Reconn.Client

/-- The address of an allocated CLIENTCONTEXT. -/
abbrev Addr := Nat

/-- RECONN_MAX_NUM_CLIENTS: five iPhones and the remote monitor. -/
def reconnMaxNumClients : Int := 6

/-- An entry of activeClientsList: NULL, the marker (CLIENTCONTEXT *)1 of an index that has
been handed out, or the context that was registered at it.
-/
inductive ClientEntry where
  | free
  | reserved
  | registered (context : Addr)
  deriving DecidableEq, Repr

/-- The tables are read and written at any `short` index; only those from 0 below
RECONN_MAX_NUM_CLIENTS are inside the arrays.
-/
structure Registry where
  numberOfActiveClients : Int
  activeClientsList : Int → ClientEntry
  socketIdList : Int → Int

/-- An entry of an updated table is the new one or an old one at another place. -/
theorem update_apply_eq_iff {ι α : Type} [DecidableEq ι] {table : ι → α} {i j : ι}
    {new entry : α}
    : Function.update table i new j = entry
      ↔ (j = i ∧ new = entry) ∨ (j ≠ i ∧ table j = entry) := by
  rw [Function.update_apply, ite_eq_iff]

namespace Registry

/-- The tables after main and reconnEqptTask have initialised them. -/
def initial : Registry where
  numberOfActiveClients := 0
  activeClientsList := fun _ => .free
  socketIdList := fun _ => -1

/-- The first free entry from 1 on, as the loop of reconnGetFreeClientIndex finds it. -/
def firstFree (r : Registry) : Option Int :=
  ([1, 2, 3, 4, 5] : List Int).find? fun i => r.activeClientsList i = .free

/-- Reserves an index and counts the client; none is RECONN_FAILURE. A request for index 0
does not look at the entry.
-/
def reconnGetFreeClientIndex (r : Registry) (theIndex : Int) : Option (Registry × Int) :=
  let reserve (i : Int) : Registry × Int :=
    (
      {
        r with
        numberOfActiveClients := r.numberOfActiveClients + 1
        activeClientsList := Function.update r.activeClientsList i .reserved
      },
      i
    )
  if r.numberOfActiveClients < reconnMaxNumClients then
    if theIndex = 0 then some (reserve 0) else r.firstFree.map reserve
  else none

def reconnReturnClientIndex (r : Registry) (index : Int) : Registry :=
  if index < reconnMaxNumClients then
    { r with numberOfActiveClients := r.numberOfActiveClients - 1 }
  else r

/-- none is RECONN_FAILURE. -/
def reconnRegisterClientApp (r : Registry) (theContext : Addr) (index socketFd : Int)
    : Option Registry :=
  if index < reconnMaxNumClients then
    some {
      r with
      -- Index 0 is the inserted master, which gets its data another way.
      socketIdList :=
        if index = 0 then r.socketIdList else Function.update r.socketIdList index socketFd
      activeClientsList := Function.update r.activeClientsList index (.registered theContext)
    }
  else none

/-- The table update of reconnDeRegisterClientApp. -/
def reconnDeRegisterClientApp (r : Registry) (index : Int) : Registry :=
  if index < reconnMaxNumClients then
    {
      r with
      socketIdList :=
        if index = 0 then r.socketIdList else Function.update r.socketIdList index (-1)
      activeClientsList := Function.update r.activeClientsList index .free
    }
  else r

/-- The socket that reconnDeRegisterClientApp closes: the registered one, if any, unless the
context is remote.
-/
def deRegisteredSocket (r : Registry) (index : Int) (remote : Bool) : Option Int :=
  if index < reconnMaxNumClients ∧ index ≠ 0 ∧ r.socketIdList index ≠ -1 ∧ remote = false then
    some (r.socketIdList index)
  else none

/-- The indices of the arrays, in scan order. -/
def indices : List Int := [0, 1, 2, 3, 4, 5]

/-- The number of clients that the entries show. -/
def nonNullEntries (r : Registry) : Nat :=
  indices.countP fun i => r.activeClientsList i ≠ .free

theorem mem_indices {i : Int} : i ∈ indices ↔ 0 ≤ i ∧ i < reconnMaxNumClients := by
  simp only [indices, List.mem_cons, List.not_mem_nil, or_false, reconnMaxNumClients]
  omega

theorem nonNullEntries_le (r : Registry) : (r.nonNullEntries : Int) ≤ reconnMaxNumClients := by
  have bound : r.nonNullEntries ≤ indices.length := List.countP_le_length
  have length : indices.length = 6 := rfl
  simp only [reconnMaxNumClients]
  omega

theorem indices_nodup : indices.Nodup := by decide

section Counting

variable {is : List Int} {entries : Int → ClientEntry} {i : Int} {entry : ClientEntry}

/-- Filling a free entry adds one to the entries shown, by induction on the indices, of which
only one is filled.
-/
theorem countP_fill (once : is.Nodup) (inside : i ∈ is) (empty : entries i = .free)
    (filled : entry ≠ .free)
    : (is.countP fun j => Function.update entries i entry j ≠ .free)
      = (is.countP fun j => entries j ≠ .free) + 1 := by
  induction is with
  | nil => cases inside
  | cons j rest ih =>
      obtain ⟨new, once⟩ := List.nodup_cons.mp once
      rw [List.countP_cons, List.countP_cons]
      by_cases here : i = j
      · subst here
        have others : (rest.countP fun j => Function.update entries i entry j ≠ .free)
            = rest.countP fun j => entries j ≠ .free := by
          refine List.countP_congr fun k member => ?_
          rw [Function.update_of_ne (ne_of_mem_of_not_mem member new)]
        rw [others, Function.update_self, empty]
        simp [filled]
      · rw [ih once ((List.mem_cons.mp inside).resolve_left here),
          Function.update_of_ne (Ne.symm here)]
        omega

/-- Replacing one entry in use by another shows as many entries. -/
theorem countP_replace (is : List Int) (used : entries i ≠ .free) (filled : entry ≠ .free)
    : (is.countP fun j => Function.update entries i entry j ≠ .free)
      = is.countP fun j => entries j ≠ .free := by
  apply List.countP_congr
  intro j _
  by_cases same : j = i
  · subst same
    simp [used, filled]
  · simp [Function.update_of_ne same]

/-- Emptying an entry in use takes one from the entries shown. -/
theorem countP_empty (once : is.Nodup) (inside : i ∈ is) (used : entries i ≠ .free)
    : (is.countP fun j => Function.update entries i ClientEntry.free j ≠ .free) + 1
      = is.countP fun j => entries j ≠ .free := by
  have emptied : Function.update entries i ClientEntry.free i = .free :=
    Function.update_self ..
  have refill := countP_fill once inside emptied used
  rw [Function.update_idem, Function.update_eq_self] at refill
  exact refill.symm

end Counting

/-- A reserved index is inside the tables; only a request for index 0 may find its entry in
use.
-/
theorem reconnGetFreeClientIndex_spec {r registry : Registry} {theIndex index : Int}
    (found : r.reconnGetFreeClientIndex theIndex = some (registry, index))
    : index ∈ indices
      ∧ registry.activeClientsList = Function.update r.activeClientsList index .reserved
      ∧ registry.numberOfActiveClients = r.numberOfActiveClients + 1
      ∧ r.numberOfActiveClients < reconnMaxNumClients
      ∧ (theIndex = 0 → index = 0)
      ∧ (theIndex ≠ 0 → r.activeClientsList index = .free) := by
  unfold reconnGetFreeClientIndex at found
  simp only at found
  split_ifs at found with room zero
  · obtain ⟨rfl, rfl⟩ := Prod.mk.inj (Option.some.inj found)
    exact ⟨by decide, rfl, rfl, room, fun _ => rfl, fun other => absurd zero other⟩
  · rw [Option.map_eq_some_iff] at found
    obtain ⟨i, first, same⟩ := found
    obtain ⟨rfl, rfl⟩ := Prod.mk.inj same
    have free := List.find?_some first
    have member := List.mem_of_find?_eq_some first
    refine ⟨?_, rfl, rfl, room, fun other => absurd other zero, fun _ => by simpa using free⟩
    exact List.mem_cons_of_mem 0 member

/-- Registration replaces an entry and counts nobody. -/
theorem reconnRegisterClientApp_spec {r registry : Registry} {theContext : Addr}
    {index socketFd : Int}
    (registered : r.reconnRegisterClientApp theContext index socketFd = some registry)
    : registry.activeClientsList
        = Function.update r.activeClientsList index (.registered theContext)
      ∧ registry.numberOfActiveClients = r.numberOfActiveClients := by
  unfold reconnRegisterClientApp at registered
  by_cases room : index < reconnMaxNumClients
  · rw [if_pos room] at registered
    obtain rfl := Option.some.inj registered
    exact ⟨rfl, rfl⟩
  · rw [if_neg room] at registered
    cases registered

/-- Returning and deregistering an index takes one client off and empties the entry. -/
theorem return_deRegister_spec (r : Registry) {index : Int} (inside : index ∈ indices)
    : ((r.reconnReturnClientIndex index).reconnDeRegisterClientApp index).activeClientsList
        = Function.update r.activeClientsList index .free
      ∧ ((r.reconnReturnClientIndex index).reconnDeRegisterClientApp
          index).numberOfActiveClients
        = r.numberOfActiveClients - 1 := by
  have room := (mem_indices.mp inside).2
  simp [reconnReturnClientIndex, reconnDeRegisterClientApp, room]

end Registry

end Reconn.Client
