import Reconn.Library.TransitionRuns
import Mathlib.Algebra.BigOperators.Group.Finset.Basic
import Mathlib.Data.Fintype.Basic
import Mathlib.Data.Set.Lattice
import Mathlib.Order.CompletePartialOrder
import Mathlib.Order.WellFounded

/-! Threads that acquire and release locks. Where every thread acquires locks upwards in one
order, the threads that are inside a call always come to its end.
-/

namespace LockOrder

open TransitionRuns

variable {Thread Lock : Type*}

inductive Operation (Lock : Type*) where
  | acquire (lock : Lock)
  | release (lock : Lock)
deriving DecidableEq

/-- Who owns each lock, and the operations each thread has yet to do in its call. -/
@[ext]
structure State (Thread Lock : Type*) where
  owner : Lock → Option Thread
  ahead : Thread → List (Operation Lock)

/-- No lock is owned and no thread is in a call. -/
def State.initial : State Thread Lock := ⟨fun _ => none, fun _ => []⟩

/-- A thread that is in no call enters one, or a thread goes on with its own. -/
inductive Event (Thread Lock : Type*) where
  | call (thread : Thread) (operations : List (Operation Lock))
  | go (thread : Thread)

section Steps

variable [DecidableEq Thread] [DecidableEq Lock]

/-- A lock somebody owns cannot be acquired, not even by its owner. -/
def step (state : State Thread Lock)
    : Event Thread Lock → Option (State Thread Lock × Unit)
  | .call thread operations =>
      if (state.ahead thread).isEmpty then
        some ({ state with ahead := Function.update state.ahead thread operations }, ())
      else none
  | .go thread =>
      match state.ahead thread with
      | [] => none
      | .acquire lock :: rest =>
          if (state.owner lock).isNone then
            some (⟨Function.update state.owner lock (some thread),
              Function.update state.ahead thread rest⟩, ())
          else none
      | .release lock :: rest =>
          some (⟨Function.update state.owner lock none,
            Function.update state.ahead thread rest⟩, ())

/-- What a thread that goes on does, by cases on its next operation. -/
theorem step_go_cases {state next : State Thread Lock} {thread : Thread}
    (taken : step state (.go thread) = some (next, ()))
    : (∃ lock rest, state.ahead thread = .acquire lock :: rest ∧ state.owner lock = none
        ∧ next = ⟨Function.update state.owner lock (some thread),
            Function.update state.ahead thread rest⟩)
      ∨ ∃ lock rest, state.ahead thread = .release lock :: rest
        ∧ next = ⟨Function.update state.owner lock none,
            Function.update state.ahead thread rest⟩ := by
  cases ahead : state.ahead thread with
  | nil =>
      simp only [step, ahead] at taken
      exact nomatch taken
  | cons operation rest =>
      cases operation with
      | acquire lock =>
          simp only [step, ahead] at taken
          split at taken
          · obtain ⟨rfl, -⟩ := Prod.mk.inj (Option.some.inj taken)
            exact .inl ⟨lock, rest, rfl, Option.isNone_iff_eq_none.mp ‹_›, rfl⟩
          · exact nomatch taken
      | release lock =>
          simp only [step, ahead] at taken
          obtain ⟨rfl, -⟩ := Prod.mk.inj (Option.some.inj taken)
          exact .inr ⟨lock, rest, rfl, rfl⟩

theorem step_call_eq {state next : State Thread Lock} {thread : Thread}
    {operations : List (Operation Lock)}
    (taken : step state (.call thread operations) = some (next, ()))
    : state.ahead thread = []
      ∧ next = { state with ahead := Function.update state.ahead thread operations } := by
  simp only [step] at taken
  split at taken
  · rename_i idle
    obtain ⟨rfl, -⟩ := Prod.mk.inj (Option.some.inj taken)
    exact ⟨List.isEmpty_iff.mp idle, rfl⟩
  · exact nomatch taken

/-- A thread that cannot go on is in no call, or waits for a lock somebody owns. -/
theorem waits_of_step_go_none {state : State Thread Lock} {thread : Thread}
    (refused : step state (.go thread) = none)
    : state.ahead thread = []
      ∨ ∃ lock rest owner, state.ahead thread = .acquire lock :: rest
        ∧ state.owner lock = some owner := by
  cases ahead : state.ahead thread with
  | nil => exact .inl rfl
  | cons operation rest =>
      cases operation with
      | acquire lock =>
          simp only [step, ahead] at refused
          split at refused
          · exact nomatch refused
          · rename_i owned
            obtain ⟨owner, held⟩ := Option.ne_none_iff_exists'.mp
              (fun free => owned (Option.isNone_iff_eq_none.mpr free))
            exact .inr ⟨lock, rest, owner, rfl, held⟩
      | release lock =>
          simp only [step, ahead] at refused
          exact nomatch refused

end Steps

/-- The locks a thread owns. -/
def State.holds (state : State Thread Lock) (thread : Thread) : Set Lock :=
  {lock | state.owner lock = some thread}

section Order

variable [Preorder Lock]

/-- (Leads held operations after) holds if a thread that owns some locks acquires locks above
all it owns, releases only what it owns and is left with others.
-/
def Leads : Set Lock → List (Operation Lock) → Set Lock → Prop
  | held, [], after => held = after
  | held, .acquire lock :: rest, after =>
      (∀ other ∈ held, other < lock) ∧ Leads (insert lock held) rest after
  | held, .release lock :: rest, after => lock ∈ held ∧ Leads (held \ {lock}) rest after

/-- Operations compose, by induction on the first ones. -/
theorem Leads.append {held middle after : Set Lock} {first second : List (Operation Lock)}
    (leads : Leads held first middle) (leads' : Leads middle second after)
    : Leads held (first ++ second) after := by
  induction first generalizing held with
  | nil =>
      obtain rfl : held = middle := leads
      exact leads'
  | cons operation rest ih =>
      cases operation with
      | acquire lock => exact ⟨leads.1, ih leads.2⟩
      | release lock => exact ⟨leads.1, ih leads.2⟩

/-- Operations that give back what they take can be repeated, by induction on the turns. -/
theorem leads_flatMap {α : Type*} {held : Set Lock} {turn : α → List (Operation Lock)}
    (items : List α) (each : ∀ item ∈ items, Leads held (turn item) held)
    : Leads held (items.flatMap turn) held := by
  induction items with
  | nil => rfl
  | cons item rest ih =>
      obtain ⟨first, others⟩ := List.forall_mem_cons.mp each
      exact first.append (ih others)

/-- A lock above all that is owned can be acquired around operations. -/
theorem leads_around {held : Set Lock} {lock : Lock} {inside : List (Operation Lock)}
    (above : ∀ other ∈ held, other < lock)
    (leads : Leads (insert lock held) inside (insert lock held))
    : Leads held (.acquire lock :: inside ++ [.release lock]) held := by
  have outside : lock ∉ held := fun owned => lt_irrefl lock (above lock owned)
  refine ⟨above, leads.append ⟨Set.mem_insert lock held, ?_⟩⟩
  exact Set.insert_sdiff_self_of_notMem outside

/-- The locks operations are about. -/
def Operation.lock : Operation Lock → Lock
  | .acquire lock => lock
  | .release lock => lock

/-- What operations do is the same where locks below theirs are owned as well, by induction
on the operations.
-/
theorem Leads.above {held after : Set Lock} {operations : List (Operation Lock)}
    (leads : Leads held operations after) {more : Set Lock}
    (below : ∀ operation ∈ operations, ∀ other ∈ more, other < operation.lock)
    : Leads (more ∪ held) operations (more ∪ after) := by
  induction operations generalizing held with
  | nil =>
      obtain rfl : held = after := leads
      rfl
  | cons operation rest ih =>
      obtain ⟨first, others⟩ := List.forall_mem_cons.mp below
      cases operation with
      | acquire lock =>
          refine ⟨fun other owned => owned.elim (first other) (leads.1 other), ?_⟩
          rw [← Set.union_insert]
          exact ih leads.2 others
      | release lock =>
          refine ⟨.inr leads.1, ?_⟩
          have outside : lock ∉ more := fun owned => lt_irrefl lock (first lock owned)
          rw [Set.union_sdiff_distrib, Set.sdiff_singleton_eq_self outside]
          exact ih leads.2 others

end Order

section Owners

variable [DecidableEq Lock] {state : State Thread Lock} {thread other : Thread} {lock : Lock}
  {ahead : Thread → List (Operation Lock)}

theorem holds_acquired
    : (State.mk (Function.update state.owner lock (some thread)) ahead).holds thread
      = insert lock (state.holds thread) := by
  ext owned
  by_cases same : owned = lock <;> simp [State.holds, same]

theorem holds_acquired_other (free : state.owner lock = none) (differs : other ≠ thread)
    : (State.mk (Function.update state.owner lock (some thread)) ahead).holds other
      = state.holds other := by
  ext owned
  by_cases same : owned = lock
  · simp [State.holds, same, free, differs.symm]
  · simp [State.holds, same]

theorem holds_released
    : (State.mk (Function.update state.owner lock none) ahead).holds thread
      = state.holds thread \ {lock} := by
  ext owned
  by_cases same : owned = lock <;> simp [State.holds, same]

theorem holds_released_other (owned : lock ∈ state.holds thread) (differs : other ≠ thread)
    : (State.mk (Function.update state.owner lock none) ahead).holds other
      = state.holds other := by
  have outside : lock ∉ state.holds other := fun owned' =>
    differs (Option.some.inj (Eq.trans (Eq.symm owned') owned))
  rw [holds_released, Set.sdiff_singleton_eq_self outside]

end Owners

section Discipline

variable [Preorder Lock] {last : Thread → Set Lock} {state next finish : State Thread Lock}
  {thread : Thread} {operations : List (Operation Lock)}
  {transitions : List (Transition (State Thread Lock) (Event Thread Lock) Unit)}

/-- (Disciplined last state) holds if the rest of each thread's call leads from the locks it
owns to those it is left with.
-/
def Disciplined (last : Thread → Set Lock) (state : State Thread Lock) : Prop :=
  ∀ thread, Leads (state.holds thread) (state.ahead thread) (last thread)

theorem disciplined_initial
    : Disciplined (fun _ => ∅) (State.initial : State Thread Lock) := by
  intro thread
  simp [State.initial, State.holds, Leads]

/-- An idle thread owns what it is left with. -/
theorem Disciplined.holds_of_idle (disciplined : Disciplined last state)
    (idle : state.ahead thread = [])
    : state.holds thread = last thread := by
  have leads := disciplined thread
  rw [idle] at leads
  exact leads

/-- A lock about to be released is the thread's own. -/
theorem Disciplined.owner_of_release (disciplined : Disciplined last state) {lock : Lock}
    {rest : List (Operation Lock)} (ahead : state.ahead thread = .release lock :: rest)
    : state.owner lock = some thread := by
  have leads := disciplined thread
  rw [ahead] at leads
  exact leads.1

variable [DecidableEq Thread] [DecidableEq Lock]

/-- A thread that goes on keeps its own discipline, by cases on its operation. -/
theorem Leads.go {after : Set Lock}
    (leads : Leads (state.holds thread) (state.ahead thread) after)
    (taken : step state (.go thread) = some (next, ()))
    : Leads (next.holds thread) (next.ahead thread) after := by
  obtain ⟨lock, rest, ahead, free, rfl⟩ | ⟨lock, rest, ahead, rfl⟩ := step_go_cases taken
  · rw [ahead] at leads
    simpa only [holds_acquired, Function.update_self] using leads.2
  · rw [ahead] at leads
    simpa only [holds_released, Function.update_self] using leads.2

omit [Preorder Lock] in
/-- All others are as they were, if it only releases its own locks. -/
theorem others_of_go {other : Thread}
    (own : ∀ lock rest, state.ahead thread = .release lock :: rest → lock ∈ state.holds thread)
    (taken : step state (.go thread) = some (next, ())) (differs : other ≠ thread)
    : next.holds other = state.holds other ∧ next.ahead other = state.ahead other := by
  obtain ⟨lock, rest, ahead, free, rfl⟩ | ⟨lock, rest, ahead, rfl⟩ := step_go_cases taken
  · exact ⟨holds_acquired_other free differs, Function.update_of_ne differs _ _⟩
  · exact ⟨holds_released_other (own lock rest ahead) differs, Function.update_of_ne differs _ _⟩

theorem Disciplined.go (disciplined : Disciplined last state)
    (taken : step state (.go thread) = some (next, ()))
    : Disciplined last next := by
  intro other
  by_cases same : other = thread
  · subst same
    exact (disciplined other).go taken
  · obtain ⟨holds, ahead⟩ :=
      others_of_go (fun _ _ ahead => disciplined.owner_of_release ahead) taken same
    rw [holds, ahead]
    exact disciplined other

theorem Disciplined.call (disciplined : Disciplined last state)
    (taken : step state (.call thread operations) = some (next, ()))
    (leads : Leads (last thread) operations (last thread))
    : Disciplined last next := by
  obtain ⟨idle, rfl⟩ := step_call_eq taken
  intro other
  by_cases same : other = thread
  · subst same
    have owned : state.holds other = last other := disciplined.holds_of_idle idle
    simpa only [State.holds, Function.update_self] using owned ▸ leads
  · simpa only [State.holds, Function.update_of_ne same] using disciplined other

/-- Calls that keep the discipline keep it over a whole run, by induction on the run. -/
theorem Disciplined.run (disciplined : Disciplined last state)
    (taken : Run step state transitions finish)
    (calls : ∀ t ∈ transitions, ∀ thread operations, t.event = .call thread operations →
      Leads (last thread) operations (last thread))
    : Disciplined last finish := by
  induction taken with
  | nil => exact disciplined
  | @cons _ _ _ event _ _ taken _ ih =>
      obtain ⟨first, others⟩ := List.forall_mem_cons.mp calls
      refine ih ?_ others
      cases event with
      | call thread operations => exact disciplined.call taken (first thread operations rfl)
      | go thread => exact disciplined.go taken

/-- Where no thread can go on, none is in a call: a thread that waits for a lock waits for one
that waits for a lock above it, and no chain goes up forever.
-/
theorem Disciplined.idle_of_stuck [WellFoundedGT Lock] (disciplined : Disciplined last state)
    (idle : ∀ thread, state.ahead thread = [] → state.holds thread = ∅)
    (stuck : ∀ thread, step state (.go thread) = none) (thread : Thread)
    : state.ahead thread = [] := by
  have none_waits : ∀ lock thread rest owner, state.ahead thread = .acquire lock :: rest →
      state.owner lock = some owner → False := by
    intro lock
    induction lock using WellFoundedGT.induction with
    | ind lock ih =>
        intro thread rest owner _ owned
        rcases waits_of_step_go_none (stuck owner) with done | ⟨lock', rest', owner', ahead, owned'⟩
        · have nothing : lock ∉ state.holds owner := by rw [idle owner done]; exact id
          exact nothing owned
        · have leads := disciplined owner
          rw [ahead] at leads
          exact ih lock' (leads.1 lock owned) owner rest' owner' ahead owned'
  rcases waits_of_step_go_none (stuck thread) with done | ⟨lock, rest, owner, ahead, owned⟩
  · exact done
  · exact (none_waits lock thread rest owner ahead owned).elim

end Discipline

section Remaining

variable [DecidableEq Thread] [DecidableEq Lock] [Fintype Thread]
  {state next finish : State Thread Lock}
  {transitions : List (Transition (State Thread Lock) (Event Thread Lock) Unit)}

/-- How many operations the calls the threads are in have left. -/
def remaining (state : State Thread Lock) : Nat :=
  ∑ thread, (state.ahead thread).length

omit [DecidableEq Lock] in
theorem remaining_eq (state : State Thread Lock) (thread : Thread)
    : remaining state
      = (state.ahead thread).length
        + ∑ other ∈ Finset.univ.erase thread, (state.ahead other).length :=
  (Finset.add_sum_erase _ _ (Finset.mem_univ thread)).symm

theorem remaining_go {thread : Thread} (taken : step state (.go thread) = some (next, ()))
    : remaining state = remaining next + 1 := by
  obtain ⟨operation, rest, ahead, left⟩ : ∃ operation rest,
      state.ahead thread = operation :: rest
        ∧ next.ahead = Function.update state.ahead thread rest := by
    obtain ⟨lock, rest, ahead, -, rfl⟩ | ⟨lock, rest, ahead, rfl⟩ := step_go_cases taken
    · exact ⟨_, rest, ahead, rfl⟩
    · exact ⟨_, rest, ahead, rfl⟩
  have others : ∑ other ∈ Finset.univ.erase thread, (next.ahead other).length
      = ∑ other ∈ Finset.univ.erase thread, (state.ahead other).length := by
    refine Finset.sum_congr rfl fun other member => ?_
    rw [left, Function.update_of_ne (Finset.ne_of_mem_erase member)]
  rw [remaining_eq state thread, remaining_eq next thread, others, left, ahead,
    Function.update_self, List.length_cons]
  omega

/-- No thread enters a call. -/
def GoesOnly (transitions : List (Transition (State Thread Lock) (Event Thread Lock) Unit))
    : Prop :=
  ∀ t ∈ transitions, ∃ thread, t.event = .go thread

/-- Going on does as many operations as there are steps, by induction on the run. -/
theorem remaining_run (run : Run step state transitions finish) (goes : GoesOnly transitions)
    : remaining state = transitions.length + remaining finish := by
  induction run with
  | nil => simp
  | @cons _ _ _ event _ _ taken _ ih =>
      obtain ⟨⟨thread, first⟩, others⟩ := List.forall_mem_cons.mp goes
      obtain rfl : event = .go thread := first
      have now := remaining_go taken
      have later := ih others
      rw [List.length_cons]
      omega

/-- Threads can go on until none can, by induction on what remains. -/
theorem exists_stuck (state : State Thread Lock)
    : ∃ transitions finish, Run step state transitions finish ∧ GoesOnly transitions
      ∧ ∀ thread, step finish (.go thread) = none := by
  induction size : remaining state using Nat.strongRecOn generalizing state with
  | ind n ih =>
      by_cases stuck : ∀ thread, step state (.go thread) = none
      · exact ⟨[], state, .nil _, List.forall_mem_nil _, stuck⟩
      · obtain ⟨thread, goes⟩ := not_forall.mp stuck
        obtain ⟨⟨next, output⟩, taken⟩ := Option.ne_none_iff_exists'.mp goes
        have less := remaining_go taken
        obtain ⟨later, finish, run, others, stuck'⟩ := ih (remaining next) (by omega) next rfl
        exact ⟨_, finish, .cons taken run, List.forall_mem_cons.mpr ⟨⟨thread, rfl⟩, others⟩, stuck'⟩

end Remaining

section Interrupts

variable [Preorder Lock] {state finish : State Thread Lock}
  {thread : Thread} {handler : List (Operation Lock)}

theorem calls_of_goesOnly {last : Thread → Set Lock}
    {transitions : List (Transition (State Thread Lock) (Event Thread Lock) Unit)}
    (goes : GoesOnly transitions)
    : ∀ t ∈ transitions, ∀ thread operations, t.event = .call thread operations →
      Leads (last thread) operations (last thread) := by
  intro t member thread operations called
  obtain ⟨other, went⟩ := goes t member
  exact nomatch went.symm.trans called

variable [DecidableEq Thread]

/-- A thread that is interrupted does other operations and never comes back to its own. -/
def State.interrupted (state : State Thread Lock) (thread : Thread)
    (handler : List (Operation Lock))
    : State Thread Lock :=
  { state with ahead := Function.update state.ahead thread handler }

variable [DecidableEq Lock]
  {transitions : List (Transition (State Thread Lock) (Event Thread Lock) Unit)}

/-- A handler about locks above all that the interrupted thread owns comes to its end. -/
theorem interrupted_finishes [WellFoundedGT Lock]
    (disciplined : Disciplined (fun _ => ∅) state) (leads : Leads ∅ handler ∅)
    (below : ∀ operation ∈ handler, ∀ owned ∈ state.holds thread, owned < operation.lock)
    (run : Run step (state.interrupted thread handler) transitions finish)
    (goes : GoesOnly transitions) (stuck : ∀ other, step finish (.go other) = none)
    : finish.ahead thread = [] := by
  let last : Thread → Set Lock := Function.update (fun _ => ∅) thread (state.holds thread)
  have start : Disciplined last (state.interrupted thread handler) := by
    intro other
    by_cases same : other = thread
    · subst same
      have handled := leads.above below
      rw [Set.union_empty] at handled
      simpa only [State.interrupted, State.holds, last, Function.update_self] using handled
    · simpa only [State.interrupted, State.holds, last, Function.update_of_ne same]
        using disciplined other
  have there := start.run run (calls_of_goesOnly goes)
  by_contra busy
  refine busy (there.idle_of_stuck (fun other idle => ?_) stuck thread)
  have differs : other ≠ thread := fun same => busy (same ▸ idle)
  rw [there.holds_of_idle idle]
  exact Function.update_of_ne differs _ _

/-- A thread interrupted while it owned some locks waits for one of them in its handler, or
will. The locks the handler itself has acquired are others.
-/
structure Hopeless (owned : Set Lock) (lock : Lock) (thread : Thread)
    (state : State Thread Lock)
    : Prop where
  member : lock ∈ owned
  needed : .acquire lock ∈ state.ahead thread
  handler : ∃ acquired, Disjoint owned acquired ∧ state.holds thread = owned ∪ acquired
    ∧ Leads acquired (state.ahead thread) ∅
  others : ∀ other ≠ thread, Leads (state.holds other) (state.ahead other) ∅

variable {next : State Thread Lock} {owned : Set Lock} {lock : Lock}

/-- The handler never gets the lock, by cases on its next operation. -/
theorem Hopeless.go_self (hopeless : Hopeless owned lock thread state)
    (taken : step state (.go thread) = some (next, ()))
    : Hopeless owned lock thread next := by
  obtain ⟨acquired, apart, holds, leads⟩ := hopeless.handler
  have own : ∀ lock rest, state.ahead thread = .release lock :: rest →
      lock ∈ state.holds thread := by
    intro lock rest ahead
    rw [ahead] at leads
    exact holds ▸ .inr leads.1
  have others : ∀ other ≠ thread, Leads (next.holds other) (next.ahead other) ∅ := by
    intro other differs
    obtain ⟨holds', ahead'⟩ := others_of_go own taken differs
    rw [holds', ahead']
    exact hopeless.others other differs
  have needed := hopeless.needed
  obtain ⟨now, rest, ahead, free, rfl⟩ | ⟨now, rest, ahead, rfl⟩ := step_go_cases taken
  · rw [ahead] at leads needed
    have outside : now ∉ owned := by
      intro inside
      have mine : state.owner now = some thread :=
        holds.symm.subset (Set.subset_union_left inside)
      exact nomatch free.symm.trans mine
    refine ⟨hopeless.member, ?_, ⟨insert now acquired, ?_, ?_, ?_⟩, others⟩
    · rcases List.mem_cons.mp needed with same | later
      · exact (outside (Operation.acquire.inj same ▸ hopeless.member)).elim
      · simpa only [Function.update_self] using later
    · exact Set.disjoint_insert_right.mpr ⟨outside, apart⟩
    · rw [holds_acquired, holds, Set.union_insert]
    · simpa only [Function.update_self] using leads.2
  · rw [ahead] at leads needed
    have outside : now ∉ owned := fun inside => Set.disjoint_left.mp apart inside leads.1
    refine ⟨hopeless.member, ?_, ⟨acquired \ {now}, ?_, ?_, ?_⟩, others⟩
    · have later := (List.mem_cons.mp needed).resolve_left (fun same => nomatch same)
      simpa only [Function.update_self] using later
    · exact apart.mono_right Set.sdiff_subset
    · rw [holds_released, holds, Set.union_sdiff_distrib, Set.sdiff_singleton_eq_self outside]
    · simpa only [Function.update_self] using leads.2

/-- The rest of the threads cannot help it. -/
theorem Hopeless.go_other (hopeless : Hopeless owned lock thread state) {other : Thread}
    (differs : other ≠ thread) (taken : step state (.go other) = some (next, ()))
    : Hopeless owned lock thread next := by
  have own : ∀ lock rest, state.ahead other = .release lock :: rest →
      lock ∈ state.holds other := by
    intro lock rest ahead
    have leads := hopeless.others other differs
    rw [ahead] at leads
    exact leads.1
  obtain ⟨holds, ahead⟩ := others_of_go own taken differs.symm
  refine ⟨hopeless.member, ahead ▸ hopeless.needed, ?_, ?_⟩
  · rw [holds, ahead]
    exact hopeless.handler
  · intro another differs'
    by_cases same : another = other
    · subst same
      exact (hopeless.others another differs').go taken
    · obtain ⟨holds', ahead'⟩ := others_of_go own taken same
      rw [holds', ahead']
      exact hopeless.others another differs'

theorem Hopeless.call (hopeless : Hopeless owned lock thread state) {other : Thread}
    {operations : List (Operation Lock)}
    (taken : step state (.call other operations) = some (next, ()))
    (leads : Leads ∅ operations ∅)
    : Hopeless owned lock thread next := by
  obtain ⟨idle, rfl⟩ := step_call_eq taken
  have differs : other ≠ thread := by
    rintro rfl
    exact List.not_mem_nil (idle ▸ hopeless.needed)
  refine ⟨hopeless.member, ?_, ?_, ?_⟩
  · simpa only [Function.update_of_ne differs.symm] using hopeless.needed
  · simpa only [State.holds, Function.update_of_ne differs.symm] using hopeless.handler
  · intro another differs'
    by_cases same : another = other
    · subst same
      have nothing : state.holds another = ∅ := by
        have leads' := hopeless.others another differs'
        rw [idle] at leads'
        exact leads'
      simpa only [State.holds, Function.update_self] using nothing ▸ leads
    · simpa only [State.holds, Function.update_of_ne same] using hopeless.others another differs'

/-- A handler that needs a lock the interrupted thread owns never comes to its end, whatever
calls are made, by induction on the run.
-/
theorem Hopeless.run (hopeless : Hopeless owned lock thread state)
    (run : Run step state transitions finish)
    (calls : ∀ t ∈ transitions, ∀ thread operations, t.event = .call thread operations →
      Leads ∅ operations ∅)
    : Hopeless owned lock thread finish := by
  induction run with
  | nil => exact hopeless
  | @cons _ _ _ event _ _ taken _ ih =>
      obtain ⟨first, others⟩ := List.forall_mem_cons.mp calls
      refine ih ?_ others
      cases event with
      | call other operations => exact hopeless.call taken (first other operations rfl)
      | go other =>
          by_cases same : other = thread
          · subst same
            exact hopeless.go_self taken
          · exact hopeless.go_other same taken

omit [DecidableEq Lock] in
theorem hopeless_interrupted (disciplined : Disciplined (fun _ => ∅) state)
    (leads : Leads ∅ handler ∅) (owns : lock ∈ state.holds thread)
    (needed : .acquire lock ∈ handler)
    : Hopeless (state.holds thread) lock thread (state.interrupted thread handler) := by
  refine ⟨owns, ?_, ⟨∅, Set.disjoint_empty _, (Set.union_empty _).symm, ?_⟩, ?_⟩
  · simpa only [State.interrupted, Function.update_self] using needed
  · simpa only [State.interrupted, Function.update_self] using leads
  · intro other differs
    simpa only [State.interrupted, State.holds, Function.update_of_ne differs]
      using disciplined other

end Interrupts

end LockOrder
