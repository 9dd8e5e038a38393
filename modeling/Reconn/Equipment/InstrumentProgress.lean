import Reconn.Equipment.InstrumentStream

/-! What the instruments have said can always still be sent. The queue may be full while
reconnGetEqptResponseTask waits to put its message into it, but then reconnEqptTask goes on, and
the two never wait for each other.
-/

namespace Reconn.Equipment.InstrumentStream

open Appends Pipelines TransitionRuns
open Client (reconnMaxNumClients reconnPmPortNotInitialized reconnRspPayloadSize)
open Client.Broadcast (Message Numbered)

/-- A step that the two tasks take although no instrument has more to say. -/
def Internal : Event → Prop
  | .read attempt => attempt.received = []
  | .finish | .queue | .broadcast .receive | .broadcast .scanSlot => True
  | .loop | .select _ | .insertedMaster _ | .broadcast _ => False

/-- Both tasks are running, the visit that is under way loses nothing at its end, and a slot
holds a socket.
-/
structure Flowing (slot fd : Int) (s : System) : Prop where
  sound : Sound s
  numbered : Numbered s.broadcast
  queueOpen : s.broadcast.gEqptTaskDone = false
  running : s.broadcast.task ≠ .ended
  registered : s.broadcast.registry.socketIdList slot = fd
  losesNothing : s.responder.LosesNothing

/-- The turns that reconnEqptTask still has for the messages that were queued. -/
def turnsLeft (b : Client.Broadcast.State) : Nat :=
  7 * b.queue.length
    + match b.task with
      | .scanning _ i => (reconnMaxNumClients - i).toNat
      | .receiving | .ended => 0

/-- The steps that a visit still needs, with the turns for its message. -/
def stepsLeft : Responder → Nat
  | .reading _ visit => if visit.readStatus.isSome then 9 else 10
  | .queueing _ _ => 8
  | .atTop _ | .selecting _ | .ended => 0

def left (s : System) : Nat := turnsLeft s.broadcast + stepsLeft s.responder

section

variable {slot fd : Int} {s s' : System} {output : List Effect}

/-- A read that meets nothing ends the loop, and stores nothing. -/
theorem turn_nothing (device : Device) {visit : Visit} (running : visit.readStatus = none)
    : ∃ next, visit.turn device ⟨true, none⟩ = some next
      ∧ next.readStatus = some Client.reconnFailure ∧ stored next.stores = stored visit.stores := by
  cases device <;>
    simp [Visit.turn, running, Device.read, dmmRead, powerMeterRead, fixedSizeRead,
      Analyzer.spectrumAnalyzerRead, Serves, stored, Client.reconnFailure, Client.reconnSuccess]

/-- What a step of the rest of the way is: it is taken, loses nothing, needs nothing from
outside, and leaves less to do.
-/
structure GoesOn (slot fd : Int) (s : System) (event : Event) (s' : System)
    (output : List Effect)
    : Prop where
  taken : s.step event = some (s', output)
  internal : Internal event
  lossless : Lossless s event
  flowing : Flowing slot fd s'
  less : left s' < left s

/-- A step of reconnEqptTask. -/
theorem Flowing.task (flowing : Flowing slot fd s) {event : Client.Broadcast.Event}
    {b : Client.Broadcast.State} {result : Client.Broadcast.Output}
    (stepped : s.broadcast.step event = some (b, result))
    (internal : event = .scanSlot ∨ event = .receive) (queueOpen : b.gEqptTaskDone = false)
    (running : b.task ≠ .ended) (registry : b.registry = s.broadcast.registry)
    (less : turnsLeft b < turnsLeft s.broadcast)
    : ∃ event s' output, GoesOn slot fd s event s' output := by
  have taken : s.step (.broadcast event)
      = some ({ s with broadcast := b }, result.sent.toList.map .sent) :=
    Option.map_eq_some_iff.mpr ⟨_, stepped, rfl⟩
  refine ⟨_, _, _, taken, ?_, ?_, ?_, Nat.add_lt_add_right less _⟩
  · rcases internal with rfl | rfl <;> exact trivial
  · rcases internal with rfl | rfl <;> exact trivial
  · exact ⟨flowing.sound.step taken,
      (Client.Broadcast.step_advances flowing.numbered stepped).numbered, queueOpen, running,
      registry ▸ flowing.registered, flowing.losesNothing⟩

/-- A turn of the scan. -/
theorem Flowing.scan (flowing : Flowing slot fd s) {message : Message} {i : Int}
    (scanning : s.broadcast.task = .scanning message i)
    : ∃ event s' output, GoesOn slot fd s event s' output := by
  obtain ⟨-, inside⟩ := flowing.numbered.scanning message i scanning
  have last := (Client.Registry.mem_indices.mp inside).2
  let next : Client.Broadcast.Task :=
    if i + 1 < reconnMaxNumClients then .scanning message (i + 1) else .receiving
  have stepped : s.broadcast.step .scanSlot
      = some ({ s.broadcast with task := next }, (s.broadcast.scanSlot message i).2) := by
    rw [Client.Broadcast.State.step, scanning]
    simp [Client.Broadcast.State.scanSlot, flowing.queueOpen, next]
  refine flowing.task stepped (.inl rfl) flowing.queueOpen ?_ rfl ?_
  · dsimp only [next]
    split_ifs <;> exact Client.Broadcast.Task.noConfusion
  · unfold turnsLeft
    rw [scanning]
    dsimp only [next]
    split_ifs <;> dsimp only <;> omega

/-- reconnEqptTask takes the next message. -/
theorem Flowing.receive (flowing : Flowing slot fd s) (receiving : s.broadcast.task = .receiving)
    {message : Message} {queue : List Message} (next : s.broadcast.queue = message :: queue)
    : ∃ event s' output, GoesOn slot fd s event s' output := by
  have stepped : s.broadcast.step .receive
      = some ({ s.broadcast with queue, task := .scanning message 0 },
        { Client.Broadcast.Output.none with dequeued := some message }) := by
    rw [Client.Broadcast.State.step, receiving, next]
    dsimp only
    rw [if_neg (by rw [flowing.queueOpen]; exact Bool.false_ne_true)]
  have first : (reconnMaxNumClients - 0).toNat = 6 := rfl
  refine flowing.task stepped (.inr rfl) flowing.queueOpen Client.Broadcast.Task.noConfusion rfl ?_
  unfold turnsLeft
  rw [receiving, next, List.length_cons]
  dsimp only
  rw [first]
  omega

/-- A read that meets nothing, or the end of a visit. -/
theorem Flowing.visit (flowing : Flowing slot fd s) {device : Device} {visit : Visit}
    (here : s.responder = .reading device visit)
    : ∃ event s' output, GoesOn slot fd s event s' output := by
  cases status : visit.readStatus with
  | none =>
      obtain ⟨next, turned, failed, same⟩ := turn_nothing device status
      have taken : s.step (.read ⟨true, none⟩)
          = some ({ s with responder := .reading device next }, [.read device []]) := by
        simp only [System.step, System.respond, here, turned, Option.map_some]
        rfl
      have loses : (Responder.reading device visit).LosesNothing := here ▸ flowing.losesNothing
      refine ⟨_, _, _, taken, rfl, trivial, ?_, ?_⟩
      · refine ⟨flowing.sound.step taken, flowing.numbered, flowing.queueOpen, flowing.running,
          flowing.registered, ?_, ?_⟩
        · rw [same]
          exact loses.1
        · intro _ closed
          rw [failed] at closed
          exact absurd (Option.some.inj closed) (by decide)
      · unfold left stepsLeft
        dsimp only
        rw [here, failed]
        simp [status]
  | some readStatus =>
      have ended : visit.readStatus.isSome = true := by rw [status]; rfl
      obtain ⟨s', output, taken⟩ : ∃ s' output, s.step .finish = some (s', output) := by
        simp only [System.step, System.respond, here, ended, if_true]
        exact ⟨_, _, rfl⟩
      have sound := flowing.sound.step taken
      have before : left s = turnsLeft s.broadcast + 9 := by
        unfold left
        rw [here]
        simp [stepsLeft, ended]
      have rest : Flowing slot fd s' ∧ left s' < left s := by
        rw [before]
        cases steps_of_step taken with
        | respond responds =>
            cases responds with
            | nothing =>
                exact ⟨⟨sound, flowing.numbered, flowing.queueOpen, flowing.running,
                  flowing.registered, trivial⟩, Nat.add_lt_add_left (by decide : 0 < 9) _⟩
            | finish =>
                exact ⟨⟨sound, flowing.numbered, flowing.queueOpen, flowing.running,
                  flowing.registered, trivial⟩, Nat.add_lt_add_left (by decide : 8 < 9) _⟩
      exact ⟨_, _, _, taken, trivial, flowing.losesNothing, rest.1, rest.2⟩

/-- The message of a visit goes into the queue when that is empty. -/
theorem Flowing.queue (flowing : Flowing slot fd s) (receiving : s.broadcast.task = .receiving)
    (empty : s.broadcast.queue = []) {length : Int} {theMsg : List UInt8}
    (here : s.responder = .queueing length theMsg)
    : ∃ event s' output, GoesOn slot fd s event s' output := by
  let b : Client.Broadcast.State :=
    {
      s.broadcast with
      queue := s.broadcast.queue ++ [⟨s.broadcast.added, theMsg⟩]
      added := s.broadcast.added + 1
    }
  have added : s.broadcast.reconnEqptAddMsgToQ (some theMsg)
      = some (b, { Client.Broadcast.Output.none with enqueued := some ⟨s.broadcast.added, theMsg⟩ })
        := by
    unfold Client.Broadcast.State.reconnEqptAddMsgToQ
    dsimp only
    rw [if_neg (Nat.not_lt.mpr (flowing.sound.message _ _ here)),
      if_neg (by rw [flowing.queueOpen]; exact Bool.false_ne_true), if_pos (by rw [empty]; decide)]
  have taken : s.step .queue
      = some ({ s with responder := .atTop length, broadcast := b }, []) := by
    simp only [System.step, System.respond, here, added, Option.map_some]
  have stepped : s.broadcast.step (.addMsgToQ (some theMsg)) = some (b, _) := added
  have numbered := (Client.Broadcast.step_advances flowing.numbered stepped).numbered
  refine ⟨_, _, _, taken, trivial, flowing.queueOpen, ?_, ?_⟩
  · exact ⟨flowing.sound.step taken, numbered, flowing.queueOpen, flowing.running,
      flowing.registered, trivial⟩
  · unfold left turnsLeft
    dsimp only [b]
    rw [here, receiving, empty]
    simp [stepsLeft]

/-- While something is left to do, a step of the rest of the way can be taken. -/
theorem Flowing.goesOn (flowing : Flowing slot fd s) (some_ : left s ≠ 0)
    : ∃ event s' output, GoesOn slot fd s event s' output := by
  cases task : s.broadcast.task with
  | scanning message i => exact flowing.scan task
  | ended => exact absurd task flowing.running
  | receiving =>
      cases queue : s.broadcast.queue with
      | cons message rest => exact flowing.receive task queue
      | nil =>
          cases here : s.responder with
          | reading device visit => exact flowing.visit here
          | queueing length theMsg => exact flowing.queue task queue here
          | atTop | selecting | ended =>
              unfold left turnsLeft at some_
              rw [task, queue, here] at some_
              exact absurd rfl some_

/-- Nothing is under way when nothing is left to do. -/
theorem underway_of_left (nothing : left s = 0) (running : s.broadcast.task ≠ .ended)
    (device : Device) (slot : Int) (numbered : Numbered s.broadcast)
    : underway device slot s = [] := by
  obtain ⟨turns, steps⟩ := Nat.add_eq_zero_iff.mp nothing
  obtain ⟨queue, scan⟩ := Nat.add_eq_zero_iff.mp turns
  have empty : s.broadcast.queue = [] := List.eq_nil_of_length_eq_zero (by omega)
  have come : toCome slot s.broadcast = [] := by
    unfold toCome
    cases task : s.broadcast.task with
    | scanning message i =>
        rw [task] at scan
        obtain ⟨-, inside⟩ := numbered.scanning message i task
        have last := (Client.Registry.mem_indices.mp inside).2
        dsimp only at scan
        omega
    | receiving => exact empty
    | ended => exact absurd task running
  have none_ : unqueued device s.responder = [] := by
    cases here : s.responder with
    | reading other visit =>
        rw [here] at steps
        unfold stepsLeft at steps
        dsimp only at steps
        split_ifs at steps
    | queueing length theMsg =>
        rw [here] at steps
        cases steps
    | atTop | selecting | ended => rfl
  unfold underway
  rw [come, none_]
  rfl

end

-----------------------------------------------------------------------------------------
-- Reachable states
-----------------------------------------------------------------------------------------

/-- The queue's messages are numbered, and reconnEqptTask ends only when the queue is closed. -/
structure Orderly (b : Client.Broadcast.State) : Prop where
  numbered : Numbered b
  ended : b.task = .ended → b.gEqptTaskDone = true

theorem Orderly.step {b b' : Client.Broadcast.State} (orderly : Orderly b)
    {event : Client.Broadcast.Event} {result : Client.Broadcast.Output}
    (stepped : b.step event = some (b', result))
    : Orderly b' := by
  refine ⟨(Client.Broadcast.step_advances orderly.numbered stepped).numbered, ?_⟩
  cases event with
  | addMsgToQ theMsg =>
      cases theMsg with
      | none => exact (Prod.mk.inj (Option.some.inj stepped)).1 ▸ orderly.ended
      | some bytes =>
          simp only [Client.Broadcast.State.step, Client.Broadcast.State.reconnEqptAddMsgToQ]
            at stepped
          split_ifs at stepped <;>
            exact (Prod.mk.inj (Option.some.inj stepped)).1 ▸ orderly.ended
  | registerClientApp | deRegisterClientApp =>
      exact (Prod.mk.inj (Option.some.inj stepped)).1 ▸ orderly.ended
  | cleanUp => exact (Prod.mk.inj (Option.some.inj stepped)).1 ▸ fun _ => rfl
  | receive =>
      simp only [Client.Broadcast.State.step] at stepped
      split at stepped
      · obtain ⟨-, same⟩ := Option.ite_none_left_eq_some.mp stepped
        exact (Prod.mk.inj (Option.some.inj same)).1 ▸ Client.Broadcast.Task.noConfusion
      · cases stepped
  | receiveFails =>
      simp only [Client.Broadcast.State.step] at stepped
      obtain ⟨-, same⟩ := Option.ite_none_right_eq_some.mp stepped
      exact (Prod.mk.inj (Option.some.inj same)).1 ▸ fun _ => rfl
  | scanSlot =>
      simp only [Client.Broadcast.State.step] at stepped
      split at stepped
      · rename_i message i scanning
        rw [← (Prod.mk.inj (Option.some.inj stepped)).1]
        dsimp only
        split_ifs with more done
        · exact False.elim
        · exact fun _ => done
        · exact False.elim
      · cases stepped
      · cases stepped

/-- Every step of the system keeps the broadcast orderly. -/
theorem orderly_step {s s' : System} {event : Event} {output : List Effect}
    (orderly : Orderly s.broadcast) (taken : s.step event = some (s', output))
    : Orderly s'.broadcast := by
  cases steps_of_step taken with
  | insertedMaster => exact orderly
  | broadcast stepped => exact orderly.step stepped
  | respond responds =>
      cases responds with
      | @queue length theMsg b sent here added =>
          have stepped : s.broadcast.step (.addMsgToQ (some theMsg)) = some (b, sent) := added
          exact orderly.step stepped
      | loop | unset | select | read | nothing | finish => exact orderly

/-- Steps that need no more from the instruments read nothing. -/
theorem readFrom_internal {t : Step} (internal : Internal t.event)
    (taken : t.before.step t.event = some (t.after, t.output)) (device : Device)
    : readFrom device t = [] := by
  obtain ⟨s, event, output, s'⟩ := t
  dsimp only at internal taken
  cases steps_of_step taken with
  | insertedMaster => rfl
  | broadcast => exact readFrom_broadcast rfl
  | respond responds =>
      cases responds with
      | @read attempt other visit next here turned =>
          have nothing : attempt.received = [] := internal
          simp [readFrom, nothing]
      | nothing | finish => exact readFrom_transmitted rfl
      | loop | unset | select | queue => rfl

section Runs

variable {before : List Step} {s : System} {slot fd : Int}

/-- Whatever was read can still be sent: from every reachable state in which the queue is open,
steps of the two tasks alone send a slot that holds a socket all that is under way to it, if
the visit that is under way loses nothing.
-/
theorem underway_can_be_sent (run : Run System.step .initial before s)
    (queueOpen : s.broadcast.gEqptTaskDone = false)
    (losesNothing : s.responder.LosesNothing)
    (inside : slot ∈ Client.Registry.indices) (positive : 0 < fd)
    (registered : s.broadcast.registry.socketIdList slot = fd)
    : ∃ later finish, Run System.step s later finish ∧ (∀ t ∈ later, Internal t.event)
      ∧ ∀ device, later.flatMap (sentTo device slot) = underway device slot s
        ∧ underway device slot finish = [] := by
  let Allowed (t : Step) : Prop := (Internal t.event ∧ Lossless t.before t.event)
    ∧ t.before.broadcast.registry.socketIdList slot = fd
  have orderly : Orderly s.broadcast :=
    (run.invariant_always (fun _ _ _ _ orderly taken => orderly_step orderly taken)
      (⟨Client.Broadcast.numbered_initial, nofun⟩ : Orderly System.initial.broadcast)).2
  have running : s.broadcast.task ≠ .ended := fun ended =>
    Bool.false_ne_true (queueOpen.symm.trans (orderly.ended ended))
  have flowing : Flowing slot fd s :=
    ⟨sound_always run, orderly.numbered, queueOpen, running, registered, losesNothing⟩
  have goesOn (s : System) (flowing : Flowing slot fd s) (some_ : left s ≠ 0)
      : ∃ event s' output, s.step event = some (s', output) ∧ Allowed ⟨s, event, output, s'⟩
        ∧ Flowing slot fd s' ∧ left s' < left s := by
    obtain ⟨event, s', output, goesOn⟩ := flowing.goesOn some_
    exact ⟨event, s', output, goesOn.taken, ⟨⟨goesOn.internal, goesOn.lossless⟩,
      flowing.registered⟩, goesOn.flowing, goesOn.less⟩
  obtain ⟨later, finish, rest, allowed, last, nothing⟩ :=
    exists_run_of_measure left goesOn s flowing
  refine ⟨later, finish, rest, fun t member => (allowed t member).1.1, fun device => ?_⟩
  have empty := underway_of_left nothing last.running device slot last.numbered
  have sent := slot_passes_run run rest (fun t member => (allowed t member).1.2) inside
    positive (fun t member => (allowed t member).2) device
  have none_ : later.flatMap (readFrom device) = [] :=
    List.flatMap_eq_nil_iff.mpr fun t member =>
      readFrom_internal (allowed t member).1.1 (rest.taken t member) device
  rw [none_, empty, List.append_nil, List.append_nil] at sent
  exact ⟨sent.symm, empty⟩

/-- The analyzer has been read, and its bytes are not yet queued. -/
theorem underway_can_be_sent_analyzer
    : let s := (replay System.step .initial (registers ++ analyzerReads.take 4)).2
      underway .analyzer 1 s = [1, 2, 3]
        ∧ ∃ later finish, Run System.step s later finish ∧ (∀ t ∈ later, Internal t.event)
          ∧ ∀ device, later.flatMap (sentTo device 1) = underway device 1 s
            ∧ underway device 1 finish = [] := by
  have rest := @underway_can_be_sent _ _ 1 12
    (replay_run System.initial (registers ++ analyzerReads.take 4)) (by decide +kernel)
    (by decide +kernel) (by decide) (by decide) (by decide +kernel)
  exact ⟨by decide +kernel, rest⟩

end Runs

end Reconn.Equipment.InstrumentStream
