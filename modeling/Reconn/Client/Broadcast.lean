import Mathlib.Data.List.Nodup
import Reconn.Client.Registry
import Reconn.Library.TransitionRuns

/-! The broadcast of equipment messages by reconnEqptTask: producers fill the message queue
and clients come and go while the task takes one message after the other and sends it to the
slots of socketIdList, with the lock released between two slots.
-/

namespace Reconn.Client.Broadcast

open TransitionRuns

/-- EQPT_MSG_Q_SIZE -/
def eqptMsgQSize : Nat := 30

/-- RECONN_RSP_PAYLOAD_SIZE + RECONN_RSPPACKET_HEADER_SIZE -/
def eqptMsgSize : Nat := 2054

/-- A message with its place in the order in which the queue took the messages in. -/
structure Message where
  number : Nat
  bytes : List UInt8
  deriving DecidableEq, Repr

/-- Where reconnEqptTask is: in mq_receive, or before the turn of slot `i` in its scan. -/
inductive Task where
  | receiving
  | scanning (message : Message) (i : Int)
  | ended
  deriving DecidableEq, Repr

structure State where
  queue : List Message
  /-- how many messages the queue has taken in -/
  added : Nat
  gEqptTaskDone : Bool
  registry : Registry
  task : Task

inductive Event where
  /-- A task calls reconnEqptAddMsgToQ, perhaps with NULL. -/
  | addMsgToQ (theMsg : Option (List UInt8))
  | registerClientApp (theContext : Addr) (index socketFd : Int)
  | deRegisterClientApp (index : Int)
  /-- mq_receive returns a message to reconnEqptTask. -/
  | receive
  | receiveFails
  /-- reconnEqptTask takes one turn of its scan. -/
  | scanSlot
  /-- reconnEqptCleanUp is called at the exit of the process. -/
  | cleanUp

/-- A sendSocket call of the scan. -/
structure Sent where
  slot : Int
  socketFd : Int
  message : Message
  deriving DecidableEq, Repr

/-- The message that a step puts into the queue, the one that it takes out and what it sends.
-/
structure Output where
  enqueued : Option Message
  dequeued : Option Message
  sent : Option Sent

def Output.none : Output := ⟨Option.none, Option.none, Option.none⟩

namespace State

/-- reconnEqptTask has opened the queue. -/
def initial : State := ⟨[], 0, false, .initial, .receiving⟩

/-- reconnEqptAddMsgToQ. A message without bytes or with too many is refused, as is every
message once the queue is closed. While the queue is full, the call waits.
-/
def reconnEqptAddMsgToQ (s : State) : Option (List UInt8) → Option (State × Output)
  | none => some (s, .none)
  | some bytes =>
      if eqptMsgSize < bytes.length then some (s, .none)
      else if s.gEqptTaskDone then some (s, .none)
      else if s.queue.length < eqptMsgQSize then
        let message : Message := ⟨s.added, bytes⟩
        some (
          { s with queue := s.queue ++ [message], added := s.added + 1 },
          { Output.none with enqueued := some message }
        )
      else none

/-- One turn of the scan; after the last slot the task receives again or ends. -/
def scanSlot (s : State) (message : Message) (i : Int) : State × Output :=
  let task :=
    if i + 1 < reconnMaxNumClients then .scanning message (i + 1)
    else if s.gEqptTaskDone then .ended
    else .receiving
  (
    { s with task },
    {
      Output.none with
      sent :=
        if 0 < s.registry.socketIdList i then
          some ⟨i, s.registry.socketIdList i, message⟩
        else Option.none
    }
  )

def step (s : State) : Event → Option (State × Output)
  | .addMsgToQ theMsg => s.reconnEqptAddMsgToQ theMsg
  | .registerClientApp theContext index socketFd =>
      let registry :=
        (s.registry.reconnRegisterClientApp theContext index socketFd).getD s.registry
      some ({ s with registry }, .none)
  | .deRegisterClientApp index =>
      some ({ s with registry := s.registry.reconnDeRegisterClientApp index }, .none)
  | .receive =>
      match s.task, s.queue with
      | .receiving, message :: queue =>
          if s.gEqptTaskDone then none
          else
            some (
              { s with queue, task := .scanning message 0 },
              { Output.none with dequeued := some message }
            )
      | _, _ => none
  | .receiveFails =>
      if s.task = .receiving then
        some ({ s with task := .ended, gEqptTaskDone := true }, .none)
      else none
  | .scanSlot =>
      match s.task with
      | .scanning message i => some (s.scanSlot message i)
      | .receiving | .ended => none
  | .cleanUp => some ({ s with gEqptTaskDone := true }, .none)

/-- The scan for a message is under way. -/
def Scans (s : State) (message : Message) : Prop := ∃ i, s.task = .scanning message i

end State

/-- A transition of the broadcast. -/
abbrev Step := Transition State Event Output

/-- The messages that the queue takes in, in order. -/
def enqueued (transitions : List Step) : List Message :=
  transitions.flatMap fun t => t.output.enqueued.toList

/-- The messages that reconnEqptTask takes out of the queue, in order. -/
def dequeued (transitions : List Step) : List Message :=
  transitions.flatMap fun t => t.output.dequeued.toList

/-- What a step sends to a slot. -/
def sentBy (slot : Int) (output : Output) : List Sent :=
  output.sent.toList.filter (·.slot = slot)

/-- What a slot gets, in order. -/
def sentTo (slot : Int) (transitions : List Step) : List Sent :=
  transitions.flatMap fun t => sentBy slot t.output

/-- The scan for a message comes to its end in these transitions. -/
def Completes (message : Message) (transitions : List Step) : Prop :=
  ∃ t ∈ transitions, t.event = .scanSlot
    ∧ t.before.task = .scanning message (reconnMaxNumClients - 1)

/-- The socket that each slot was last registered with, unless it was deregistered since. -/
def slotsAfter (held : Int → Option Int) : Event → Int → Option Int
  | .registerClientApp _ index socketFd =>
      if index < reconnMaxNumClients ∧ index ≠ 0 then
        Function.update held index (some socketFd)
      else held
  | .deRegisterClientApp index =>
      if index < reconnMaxNumClients ∧ index ≠ 0 then Function.update held index none
      else held
  | .addMsgToQ _ | .receive | .receiveFails | .scanSlot | .cleanUp => held

/-- What a slot is promised by the transitions of a run. -/
structure Delivered (slot : Int) (transitions : List Step) : Prop where
  /-- The queue is first in, first out. -/
  queued : dequeued transitions <+: enqueued transitions
  /-- No two messages are the same. -/
  numbered : (enqueued transitions).map Message.number
    = List.range (enqueued transitions).length
  /-- Every message that the slot gets has been taken out of the queue. -/
  genuine : ∀ sent ∈ sentTo slot transitions, sent.message ∈ dequeued transitions
  /-- The slot gets them in queue order, each at most once. -/
  inOrder : (sentTo slot transitions).Pairwise fun first second =>
    first.message.number < second.message.number
  /-- A slot that holds one socket during a whole scan gets its message once. -/
  once : ∀ message fd, slot ∈ Registry.indices → 0 < fd → Completes message transitions
    → (∀ t ∈ transitions, t.before.Scans message → t.before.registry.socketIdList slot = fd)
    → (sentTo slot transitions).filter (·.message = message) = [⟨slot, fd, message⟩]
  /-- The slot gets nothing after it was deregistered. -/
  registered : Throughout (fun held t => slotsAfter held t.event)
    (fun held t => ∀ sent ∈ sentBy slot t.output, held slot = some sent.socketFd)
    (fun _ => none) transitions

/-- The turns that a slot has in a step, by the number of the message. -/
def turns (slot : Int) (s : State) (event : Event) : List Nat :=
  match event, s.task with
  | .scanSlot, .scanning message i => if i = slot then [message.number] else []
  | _, _ => []

/-- The number of the message that a slot has its next turn for. -/
def due (s : State) (slot : Int) : Nat :=
  match s.task with
  | .scanning message i => if i ≤ slot then message.number else message.number + 1
  | .receiving | .ended => s.added - s.queue.length

/-- The message that the scan is under way for. -/
def pending (s : State) : List Message :=
  match s.task with
  | .scanning message _ => [message]
  | .receiving | .ended => []

/-- The queue holds the last messages that it has taken in, and the scan is for the one
before them.
-/
structure Numbered (s : State) : Prop where
  room : s.queue.length ≤ s.added
  queue : s.queue.map Message.number
    = List.range' (s.added - s.queue.length) s.queue.length
  scanning : ∀ message i, s.task = .scanning message i
    → message.number + 1 = s.added - s.queue.length ∧ i ∈ Registry.indices

/-- What a step does to the queue and to the turns of the slots. -/
structure Advances (s : State) (event : Event) (result : State × Output) : Prop where
  numbered : Numbered result.1
  queue : s.queue ++ result.2.enqueued.toList = result.2.dequeued.toList ++ result.1.queue
  enqueued : result.2.enqueued.toList.map Message.number
    = List.range' s.added result.2.enqueued.toList.length
  added : result.1.added = s.added + result.2.enqueued.toList.length
  pending : ∀ message ∈ pending result.1,
    message ∈ pending s ∨ message ∈ result.2.dequeued.toList
  turns : ∀ slot ∈ Registry.indices,
    turns slot s event = List.range' (due s slot) (turns slot s event).length
  due : ∀ slot ∈ Registry.indices,
    due result.1 slot = due s slot + (Broadcast.turns slot s event).length
  sent : ∀ slot,
    ((sentBy slot result.2).map (·.message.number)).Sublist (Broadcast.turns slot s event)
  sentPending : ∀ slot, ∀ sent ∈ sentBy slot result.2,
    slot ∈ Registry.indices ∧ sent.message ∈ Broadcast.pending s
      ∧ sent.socketFd = s.registry.socketIdList slot ∧ 0 < sent.socketFd

section Steps

variable {s : State} {result : State × Output}

/-- A step that neither touches the queue nor the scan. -/
theorem advances_of_same {event : Event} (numbered : Numbered s)
    (noTurn : ∀ slot, turns slot s event = []) (queue : result.1.queue = s.queue)
    (added : result.1.added = s.added) (quiet : result.2 = .none)
    (task : result.1.task = s.task ∨ (result.1.task = .ended ∧ s.task = .receiving))
    : Advances s event result := by
  have same (slot : Int) : due result.1 slot = due s slot := by
    rcases task with task | ⟨ended, receiving⟩
    · simp only [due, task, queue, added]
    · simp only [due, ended, receiving, queue, added]
  refine ⟨⟨?_, ?_, ?_⟩, ?_, ?_, ?_, ?_, ?_, ?_, ?_, ?_⟩
  · rw [queue, added]
    exact numbered.room
  · rw [queue, added]
    exact numbered.queue
  · intro message i scanning
    rw [queue, added]
    rcases task with task | ⟨ended, -⟩
    · exact numbered.scanning message i (task ▸ scanning)
    · rw [ended] at scanning
      cases scanning
  · simp [quiet, Output.none, queue]
  · simp [quiet, Output.none]
  · simp [quiet, Output.none, added]
  · intro message member
    rcases task with task | ⟨ended, -⟩
    · exact .inl (by simpa [pending, task] using member)
    · simp [pending, ended] at member
  · intro slot _
    rw [noTurn]
    rfl
  · intro slot _
    rw [noTurn, same]
    rfl
  · intro slot
    simp [quiet, Output.none, sentBy]
  · intro slot sent member
    simp [quiet, Output.none, sentBy] at member

/-- A message that the queue takes in gets the next number. -/
theorem enqueue_advances (numbered : Numbered s) (bytes : List UInt8) {event : Event}
    (noTurn : ∀ slot, turns slot s event = [])
    : Advances s event
        (
          { s with queue := s.queue ++ [⟨s.added, bytes⟩], added := s.added + 1 },
          { Output.none with enqueued := some ⟨s.added, bytes⟩ }
        ) := by
  obtain ⟨room, queue, scanning⟩ := numbered
  have head : s.added + 1 - (s.queue ++ [(⟨s.added, bytes⟩ : Message)]).length
      = s.added - s.queue.length := by
    rw [List.length_append, List.length_singleton]
    omega
  have last : s.added = s.added - s.queue.length + 1 * s.queue.length := by omega
  refine ⟨⟨?_, ?_, ?_⟩, rfl, rfl, rfl, ?_, ?_, ?_, ?_, ?_⟩
  · simp only [List.length_append, List.length_singleton]
    omega
  · simp only [head]
    rw [List.map_append, queue, List.length_append, List.length_singleton,
      ← List.range'_append, ← last]
    rfl
  · intro message i at_
    simp only [head]
    exact scanning message i at_
  · exact fun message member => .inl member
  · intro slot _
    rw [noTurn]
    rfl
  · intro slot _
    rw [noTurn, due, due]
    simp only [head]
    rfl
  · exact fun slot => List.nil_sublist _
  · exact fun slot sent member => nomatch member

/-- The scan begins for the message that has been taken out of the queue. -/
theorem receive_advances (numbered : Numbered s) {message : Message} {queue : List Message}
    (receiving : s.task = .receiving) (waiting : s.queue = message :: queue)
    : Advances s .receive
        (
          { s with queue, task := .scanning message 0 },
          { Output.none with dequeued := some message }
        ) := by
  obtain ⟨room, numbers, -⟩ := numbered
  rw [waiting] at room numbers
  rw [List.length_cons] at room numbers
  rw [List.map_cons, List.range'_succ, List.cons.injEq] at numbers
  have head : s.added - queue.length = s.added - (queue.length + 1) + 1 := by omega
  refine ⟨⟨by simp only; omega, ?_, ?_⟩, ?_, rfl, rfl, ?_, ?_, ?_, ?_, ?_⟩
  · simp only [head]
    exact numbers.2
  · intro other i scanning
    obtain ⟨rfl, rfl⟩ := Task.scanning.inj scanning
    simp only [head]
    exact ⟨by rw [numbers.1], by decide⟩
  · simp [waiting, Output.none]
  · intro other member
    exact .inr (by simpa [pending] using member)
  · exact fun slot _ => rfl
  · intro slot inside
    have here : (0 : Int) ≤ slot := (Registry.mem_indices.mp inside).1
    simp [due, receiving, waiting, here, numbers.1, turns]
  · exact fun slot => List.nil_sublist _
  · exact fun slot sent member => nomatch member

/-- A turn of the scan is the turn of its slot, and of no other one. -/
theorem scanSlot_advances (numbered : Numbered s) {message : Message} {i : Int}
    (scanning : s.task = .scanning message i)
    : Advances s .scanSlot (s.scanSlot message i) := by
  obtain ⟨room, queue, numbers⟩ := numbered
  obtain ⟨number, inside⟩ := numbers message i scanning
  have bounds := Registry.mem_indices.mp inside
  have sent (slot : Int) : sentBy slot (s.scanSlot message i).2
      = if i = slot ∧ 0 < s.registry.socketIdList i then
          [⟨i, s.registry.socketIdList i, message⟩]
        else [] := by
    simp only [State.scanSlot, sentBy]
    by_cases holds : 0 < s.registry.socketIdList i
    · by_cases here : i = slot
      · subst here
        simp [holds]
      · simp [holds, here]
    · simp [holds]
  refine ⟨⟨room, queue, ?_⟩, (List.append_nil _), rfl, rfl, ?_, ?_, ?_, ?_, ?_⟩
  · intro other j scans
    simp only [State.scanSlot] at scans ⊢
    split_ifs at scans with more
    obtain ⟨rfl, rfl⟩ := Task.scanning.inj scans
    exact ⟨number, Registry.mem_indices.mpr ⟨by omega, more⟩⟩
  · intro other member
    left
    simp only [pending, State.scanSlot] at member
    split_ifs at member
    · simpa [pending, scanning] using member
    · cases member
    · cases member
  · intro slot _
    simp only [turns, scanning, due]
    split_ifs with here before
    · rfl
    · omega
    · rfl
    · rfl
  · intro slot inside
    have := Registry.mem_indices.mp inside
    simp only [due, turns, scanning, State.scanSlot]
    split_ifs <;> simp only [List.length_singleton, List.length_nil] <;> grind
  · intro slot
    rw [sent]
    simp only [turns, scanning]
    split_ifs with both here here
    · exact List.Sublist.refl _
    · exact absurd both.1 here
    · exact List.nil_sublist _
    · exact List.nil_sublist _
  · intro slot entry member
    rw [sent] at member
    split_ifs at member with both
    · obtain rfl := List.mem_singleton.mp member
      obtain ⟨rfl, holds⟩ := both
      exact ⟨inside, by simp [pending, scanning], rfl, holds⟩
    · cases member

/-- What a step does to the queue and to the turns of the slots, said once. -/
theorem step_advances (numbered : Numbered s) {event : Event}
    (taken : s.step event = some result)
    : Advances s event result := by
  cases event with
  | addMsgToQ theMsg =>
      cases theMsg with
      | none =>
          obtain rfl := Option.some.inj taken
          exact advances_of_same numbered (fun _ => rfl) rfl rfl rfl (.inl rfl)
      | some bytes =>
          simp only [State.step, State.reconnEqptAddMsgToQ] at taken
          split_ifs at taken
          · obtain rfl := Option.some.inj taken
            exact advances_of_same numbered (fun _ => rfl) rfl rfl rfl (.inl rfl)
          · obtain rfl := Option.some.inj taken
            exact advances_of_same numbered (fun _ => rfl) rfl rfl rfl (.inl rfl)
          · obtain rfl := Option.some.inj taken
            exact enqueue_advances numbered bytes fun _ => rfl
  | registerClientApp theContext index socketFd =>
      obtain rfl := Option.some.inj taken
      exact advances_of_same numbered (fun _ => rfl) rfl rfl rfl (.inl rfl)
  | deRegisterClientApp index =>
      obtain rfl := Option.some.inj taken
      exact advances_of_same numbered (fun _ => rfl) rfl rfl rfl (.inl rfl)
  | receive =>
      simp only [State.step] at taken
      split at taken
      · rename_i message queue receiving waiting
        split_ifs at taken
        obtain rfl := Option.some.inj taken
        exact receive_advances numbered receiving waiting
      · cases taken
  | receiveFails =>
      simp only [State.step] at taken
      split_ifs at taken with receiving
      obtain rfl := Option.some.inj taken
      exact advances_of_same numbered (fun _ => rfl) rfl rfl rfl (.inr ⟨rfl, receiving⟩)
  | scanSlot =>
      simp only [State.step] at taken
      split at taken
      · rename_i message i scanning
        obtain rfl := Option.some.inj taken
        exact scanSlot_advances numbered scanning
      · cases taken
      · cases taken
  | cleanUp =>
      obtain rfl := Option.some.inj taken
      exact advances_of_same numbered (fun _ => rfl) rfl rfl rfl (.inl rfl)

end Steps

/-- The turns of a slot in a run, by the numbers of the messages. -/
def turnsOf (slot : Int) (transitions : List Step) : List Nat :=
  transitions.flatMap fun t => turns slot t.before t.event

theorem numbered_initial : Numbered .initial := ⟨Nat.le_refl _, rfl, nofun⟩

section Runs

variable {start finish : State} {transitions : List Step}

/-- Every step of a run advances the queue and the turns. -/
theorem run_steps (run : Run State.step start transitions finish) (numbered : Numbered start)
    : ∀ t ∈ transitions, Advances t.before t.event (t.after, t.output) := by
  have keep (state : State) (event : Event) (next : State) (output : Output)
      (numbered : Numbered state) (taken : state.step event = some (next, output))
      : Numbered next :=
    (step_advances numbered taken).numbered
  intro t member
  exact step_advances ((run.invariant_always keep numbered).1 t member).1
    (run.taken t member)

/-- What was in the queue and what is added to it is taken out or still in it, in order. -/
theorem run_queue (run : Run State.step start transitions finish)
    (steps : ∀ t ∈ transitions, Advances t.before t.event (t.after, t.output))
    : start.queue ++ enqueued transitions = dequeued transitions ++ finish.queue := by
  induction run with
  | nil => exact List.append_nil _
  | cons _ _ ih =>
      obtain ⟨first, others⟩ := List.forall_mem_cons.mp steps
      have rest := ih others
      rw [enqueued, dequeued] at rest ⊢
      rw [List.flatMap_cons, List.flatMap_cons, ← List.append_assoc, first.queue,
        List.append_assoc, rest, List.append_assoc]

/-- The messages are numbered as they are added. -/
theorem run_numbers (run : Run State.step start transitions finish)
    (steps : ∀ t ∈ transitions, Advances t.before t.event (t.after, t.output))
    : (enqueued transitions).map Message.number
      = List.range' start.added (enqueued transitions).length := by
  induction run with
  | nil => rfl
  | cons _ _ ih =>
      obtain ⟨first, others⟩ := List.forall_mem_cons.mp steps
      have rest := ih others
      rw [enqueued] at rest ⊢
      rw [List.flatMap_cons, List.map_append, first.enqueued, rest, first.added,
        List.length_append, ← List.range'_append, Nat.one_mul]

/-- A slot has a turn for one message after the other, by induction on the run. -/
theorem run_turns {slot : Int} (inside : slot ∈ Registry.indices)
    (run : Run State.step start transitions finish)
    (steps : ∀ t ∈ transitions, Advances t.before t.event (t.after, t.output))
    : turnsOf slot transitions
        = List.range' (due start slot) (turnsOf slot transitions).length
      ∧ due finish slot = due start slot + (turnsOf slot transitions).length := by
  induction run with
  | nil => exact ⟨rfl, rfl⟩
  | cons _ _ ih =>
      obtain ⟨first, others⟩ := List.forall_mem_cons.mp steps
      obtain ⟨rest, last⟩ := ih others
      have moved := first.due slot inside
      rw [turnsOf] at rest last ⊢
      rw [List.flatMap_cons, List.length_append]
      refine ⟨?_, by rw [last, moved, Nat.add_assoc]⟩
      rw [← List.range'_append, Nat.one_mul, ← moved, ← first.turns slot inside, ← rest]

/-- What a slot gets, it gets in its turns. -/
theorem run_sent (slot : Int)
    (steps : ∀ t ∈ transitions, Advances t.before t.event (t.after, t.output))
    : ((sentTo slot transitions).map (·.message.number)).Sublist
        (turnsOf slot transitions) := by
  induction transitions with
  | nil => exact List.nil_sublist _
  | cons t rest ih =>
      obtain ⟨first, others⟩ := List.forall_mem_cons.mp steps
      rw [sentTo, turnsOf, List.flatMap_cons, List.flatMap_cons, List.map_append]
      exact (first.sent slot).append (ih others)

/-- A scan is for a message that has been taken out of the queue. -/
theorem run_pending (run : Run State.step start transitions finish)
    (steps : ∀ t ∈ transitions, Advances t.before t.event (t.after, t.output))
    : ∀ t ∈ transitions, ∀ message ∈ pending t.before,
        message ∈ pending start ∨ message ∈ dequeued transitions := by
  induction run with
  | nil => simp
  | cons _ _ ih =>
      obtain ⟨first, others⟩ := List.forall_mem_cons.mp steps
      rw [dequeued, List.flatMap_cons, List.forall_mem_cons]
      refine ⟨fun message member => .inl member, fun t member message scanned => ?_⟩
      rcases ih others t member message scanned with before | taken
      · exact (first.pending message before).imp id (List.mem_append_left _)
      · exact .inr (List.mem_append_right _ taken)

/-- A slot before another one in the scan is due for the later message. -/
theorem due_le {s : State} {slot other : Int} (before : slot ≤ other)
    : due s other ≤ due s slot := by
  unfold due
  split
  · split_ifs <;> omega
  · exact Nat.le_refl _
  · exact Nat.le_refl _

/-- A message whose scan comes to its end has had a turn for every slot. -/
theorem Completes.turn {message : Message} (completes : Completes message transitions)
    (run : Run State.step .initial transitions finish)
    (steps : ∀ t ∈ transitions, Advances t.before t.event (t.after, t.output))
    {slot : Int} (inside : slot ∈ Registry.indices)
    : ∃ t ∈ transitions, t.event = .scanSlot ∧ ∃ other,
        t.before.task = .scanning other slot ∧ other.number = message.number := by
  have last : reconnMaxNumClients - 1 ∈ Registry.indices := by decide
  obtain ⟨lastTurns, lastDue⟩ := run_turns last run steps
  obtain ⟨slotTurns, slotDue⟩ := run_turns inside run steps
  have initial (slot : Int) : due State.initial slot = 0 := rfl
  have reached : message.number ∈ turnsOf (reconnMaxNumClients - 1) transitions := by
    obtain ⟨t, member, event, scanning⟩ := completes
    exact List.mem_flatMap.mpr ⟨t, member, by simp [turns, event, scanning]⟩
  have order : due finish (reconnMaxNumClients - 1) ≤ due finish slot :=
    due_le (by have := (Registry.mem_indices.mp inside).2; omega)
  have turn : message.number ∈ turnsOf slot transitions := by
    rw [lastTurns, initial, List.mem_range'_1] at reached
    rw [slotTurns, initial, List.mem_range'_1]
    rw [lastDue, slotDue, initial, initial] at order
    omega
  obtain ⟨t, member, here⟩ := List.mem_flatMap.mp turn
  unfold turns at here
  split at here
  · rename_i other i event scanning
    split_ifs at here with same
    · subst same
      exact ⟨t, member, event, other, scanning, (List.mem_singleton.mp here).symm⟩
    · cases here
  · cases here

/-- Messages of one number in the queue are the same message. -/
theorem eq_of_number {messages : List Message} {first second : Message}
    (numbers : messages.map Message.number = List.range messages.length)
    (member : first ∈ messages) (member' : second ∈ messages)
    (same : first.number = second.number)
    : first = second := by
  have distinct : (messages.map Message.number).Nodup := numbers ▸ List.nodup_range
  exact List.inj_on_of_nodup_map distinct member member' same

/-- One of messages in queue order is the only one of its number, by induction on the list.
-/
theorem filter_message {sents : List Sent} {sent : Sent}
    (inOrder : sents.Pairwise fun first second =>
      first.message.number < second.message.number)
    (member : sent ∈ sents)
    : sents.filter (·.message = sent.message) = [sent] := by
  induction sents with
  | nil => cases member
  | cons first rest ih =>
      obtain ⟨before, inOrder⟩ := List.pairwise_cons.mp inOrder
      rcases List.mem_cons.mp member with rfl | later
      · have others : rest.filter (·.message = sent.message) = [] := by
          refine List.filter_eq_nil_iff.mpr fun other member => ?_
          have := before other member
          simp only [decide_eq_true_eq]
          intro same
          rw [same] at this
          exact Nat.lt_irrefl _ this
        simp [others]
      · have other : first.message ≠ sent.message := by
          intro same
          have := before sent later
          rw [same] at this
          exact Nat.lt_irrefl _ this
        simp [other, ih inOrder later]

/-- What is being scanned for has been taken out of the queue. -/
theorem pending_dequeued (run : Run State.step .initial transitions finish)
    (steps : ∀ t ∈ transitions, Advances t.before t.event (t.after, t.output))
    {t : Step} (member : t ∈ transitions) {message : Message}
    (scans : message ∈ pending t.before)
    : message ∈ dequeued transitions :=
  (run_pending run steps t member message scans).resolve_left nofun

/-- Only the slots of the table get messages, and only those taken out of the queue. -/
theorem sentTo_dequeued (run : Run State.step .initial transitions finish)
    (steps : ∀ t ∈ transitions, Advances t.before t.event (t.after, t.output))
    {slot : Int} {sent : Sent} (member : sent ∈ sentTo slot transitions)
    : slot ∈ Registry.indices ∧ sent.message ∈ dequeued transitions := by
  obtain ⟨t, member, here⟩ := List.mem_flatMap.mp member
  obtain ⟨inside, scans, -⟩ := (steps t member).sentPending slot sent here
  exact ⟨inside, pending_dequeued run steps member scans⟩

/-- A slot gets its messages in queue order. Witness: they are among its turns, which go
through the numbers one after the other.
-/
theorem sentTo_inOrder (run : Run State.step .initial transitions finish)
    (steps : ∀ t ∈ transitions, Advances t.before t.event (t.after, t.output)) (slot : Int)
    : (sentTo slot transitions).Pairwise fun first second =>
        first.message.number < second.message.number := by
  by_cases inside : slot ∈ Registry.indices
  · refine List.pairwise_map.mp (List.Pairwise.sublist (run_sent slot steps) ?_)
    rw [(run_turns inside run steps).1]
    exact List.pairwise_lt_range' ..
  · have nothing : sentTo slot transitions = [] :=
      List.eq_nil_iff_forall_not_mem.mpr fun sent member =>
        inside (sentTo_dequeued run steps member).1
    rw [nothing]
    exact List.Pairwise.nil

/-- A slot that holds a socket in its turn is sent the message of the scan. -/
theorem sent_of_turn (run : Run State.step start transitions finish) {t : Step}
    (member : t ∈ transitions) (event : t.event = .scanSlot) {message : Message} {slot fd : Int}
    (scanning : t.before.task = .scanning message slot)
    (holds : t.before.registry.socketIdList slot = fd) (positive : 0 < fd)
    : (⟨slot, fd, message⟩ : Sent) ∈ sentTo slot transitions := by
  have step := run.taken t member
  simp only [State.step, event, scanning, State.scanSlot, holds, if_pos positive] at step
  have output := (Prod.mk.inj (Option.some.inj step)).2
  refine List.mem_flatMap.mpr ⟨t, member, ?_⟩
  rw [← output]
  simp [sentBy]

section Slots

variable {held : Int → Option Int} {s : State}

/-- The slots of socketIdList hold the sockets that they were last registered with. -/
def Holds (held : Int → Option Int) (s : State) : Prop :=
  ∀ i, s.registry.socketIdList i = (held i).getD (-1)

/-- A slot that is written is recorded, as are the indices that are passed over. -/
theorem Holds.update (holds : Holds held s) {index : Int} {socket : Option Int} {s' : State}
    (sockets : s'.registry.socketIdList
      = if index < reconnMaxNumClients ∧ index ≠ 0 then
          Function.update s.registry.socketIdList index (socket.getD (-1))
        else s.registry.socketIdList)
    : Holds (if index < reconnMaxNumClients ∧ index ≠ 0 then Function.update held index socket
        else held) s' := by
  intro i
  rw [sockets]
  split_ifs
  · by_cases here : i = index
    · rw [here, Function.update_self, Function.update_self]
    · rw [Function.update_of_ne here, Function.update_of_ne here, holds i]
  · exact holds i

/-- Registrations and deregistrations alone change the slots, as the history records them. -/
theorem step_holds (holds : Holds held s) {event : Event} {result : State × Output}
    (taken : s.step event = some result)
    : Holds (slotsAfter held event) result.1 := by
  have of_same (registry : result.1.registry = s.registry) : Holds held result.1 := by
    intro i
    rw [registry]
    exact holds i
  cases event with
  | addMsgToQ theMsg =>
      refine of_same ?_
      cases theMsg with
      | none => exact Option.some.inj taken ▸ rfl
      | some bytes =>
          simp only [State.step, State.reconnEqptAddMsgToQ] at taken
          split_ifs at taken <;> exact Option.some.inj taken ▸ rfl
  | registerClientApp theContext index socketFd =>
      obtain rfl := Option.some.inj taken
      refine holds.update ?_
      by_cases room : index < reconnMaxNumClients
      · simp [Registry.reconnRegisterClientApp, room, ite_not]
      · simp [Registry.reconnRegisterClientApp, room]
  | deRegisterClientApp index =>
      obtain rfl := Option.some.inj taken
      refine holds.update ?_
      by_cases room : index < reconnMaxNumClients
      · simp [Registry.reconnDeRegisterClientApp, room, ite_not]
      · simp [Registry.reconnDeRegisterClientApp, room]
  | receive =>
      refine of_same ?_
      simp only [State.step] at taken
      split at taken
      · split_ifs at taken
        exact Option.some.inj taken ▸ rfl
      · cases taken
  | receiveFails =>
      refine of_same ?_
      simp only [State.step] at taken
      split_ifs at taken
      exact Option.some.inj taken ▸ rfl
  | scanSlot =>
      refine of_same ?_
      simp only [State.step] at taken
      split at taken
      · exact Option.some.inj taken ▸ rfl
      · cases taken
      · cases taken
  | cleanUp => exact of_same (Option.some.inj taken ▸ rfl)

end Slots

/-- In every order of producers, registrations, deregistrations and turns of the scan, each
slot gets messages of the queue in queue order, each at most once, exactly once if it holds
the same socket during the whole scan, and only while it is registered.
Witness: a slot has one turn for each message in queue order, and sends in it exactly if it
holds a socket.
-/
theorem broadcast_delivered (run : Run State.step .initial transitions finish) (slot : Int)
    : Delivered slot transitions := by
  have steps := run_steps run numbered_initial
  have numbers := (run_numbers run steps).trans (List.range_eq_range' ..).symm
  have queued : dequeued transitions <+: enqueued transitions :=
    ⟨finish.queue, (run_queue run steps).symm⟩
  refine ⟨queued, numbers, fun sent member => (sentTo_dequeued run steps member).2,
    sentTo_inOrder run steps slot, ?_, ?_⟩
  · intro message fd inside positive completes held
    have inQueue (t : Step) (member : t ∈ transitions) {i : Int} {m : Message}
        (scanning : t.before.task = .scanning m i)
        : m ∈ enqueued transitions :=
      queued.subset (pending_dequeued run steps member (by simp [pending, scanning]))
    obtain ⟨t, member, event, other, scanning, same⟩ := completes.turn run steps inside
    obtain ⟨last, lastMember, -, lastScanning⟩ := completes
    obtain rfl := eq_of_number numbers (inQueue t member scanning)
      (inQueue last lastMember lastScanning) same
    have holds := held t member ⟨slot, scanning⟩
    exact filter_message (sentTo_inOrder run steps slot)
      (sent_of_turn run member event scanning holds positive)
  · refine run.throughout (R := fun held s => Holds held s ∧ Numbered s)
      (fun held t related taken => ?_) _ ⟨fun _ => rfl, numbered_initial⟩
    have advances := step_advances related.2 taken
    refine ⟨⟨step_holds related.1 taken, advances.numbered⟩, fun sent member => ?_⟩
    obtain ⟨-, -, here, positive⟩ := advances.sentPending slot sent member
    rw [here, related.1 slot] at positive
    rw [here, related.1 slot]
    cases recorded : held slot with
    | none => simp [recorded] at positive
    | some fd => rfl

/-- A slot is registered before two messages and deregistered after them. -/
def twoMessages : List Event :=
  [.addMsgToQ (some [0x01]), .registerClientApp 7 1 12, .addMsgToQ (some [0x02]), .receive]
    ++ List.replicate 6 .scanSlot ++ .receive :: List.replicate 6 .scanSlot
    ++ [.deRegisterClientApp 1]

theorem twoMessages_delivered
    : Delivered 1 (replay State.step .initial twoMessages).1
      ∧ sentTo 1 (replay State.step .initial twoMessages).1
        = [⟨1, 12, ⟨0, [0x01]⟩⟩, ⟨1, 12, ⟨1, [0x02]⟩⟩] :=
  ⟨broadcast_delivered (replay_run State.initial twoMessages) 1, by decide +kernel⟩

end Runs

end Reconn.Client.Broadcast
