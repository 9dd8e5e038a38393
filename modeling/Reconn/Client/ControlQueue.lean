import Reconn.Client.Mastership

/-! What the control queue does to the packets of the clients, and who gets its messages.
A client task polls the queue after it has received a packet, whoever the master is.
-/

namespace Reconn.Client

open TransitionRuns

/-- A step brings the packet that it received completely to the command filter, which it
does at most once, and brings there nothing else than the cleared packet of a receive that
would have blocked.
-/
structure Output.HandsOn (output : Output) : Prop where
  once : ∀ p, output.received = some p → output.dispatched = some p
  nothingElse : output.received = none → ∀ p, output.dispatched = some p → p = .zero

/-- A packet arrives while no control message waits, and it fits the buffer. -/
def State.Unhindered (s : State) (event : Event) : Prop :=
  ∀ a received env p, event = .iterate a received env → received.complete = some p
    → p.pktLength ≤ reconnPayloadSize
      ∧ (s.globals.masterClientMsgQid = -1 ∨ s.globals.masterClientMsgQ = [])

/-- A step hands on what it received exactly if it is unhindered. Witness: the way of the
turn, which is a dispatch of the packet exactly then.
-/
theorem State.handsOn_iff {s s' : State} {event : Event} {output : Output}
    (taken : s.step event = some (s', output))
    : output.HandsOn ↔ s.Unhindered event := by
  by_cases noTurn : ∀ a received env, event ≠ .iterate a received env
  · obtain ⟨actions, rfl⟩ := step_output_of_noTurn noTurn taken
    exact ⟨
      fun _ a received env _ same => absurd same (noTurn a received env),
      fun _ => ⟨by simp [Output.of], by simp [Output.of]⟩
    ⟩
  · obtain ⟨a, received, env, rfl⟩ : ∃ a received env, event = .iterate a received env := by
      simpa using noTurn
    obtain ⟨c, way, turns, -, rfl⟩ := step_iterate taken
    obtain rfl := turns.way
    constructor
    · rintro handsOn _ _ _ p ⟨⟩ complete
      exact (turn_complete complete).mp (handsOn.once p complete)
    · intro unhindered
      refine ⟨fun p complete => ?_, fun none p dispatched => ?_⟩
      · exact (turn_complete complete).mpr (unhindered a received env p rfl complete)
      · simp only at none dispatched
        cases way : turn s.globals env.mqReceive received with
        | dispatches p' =>
            rw [way] at dispatched
            obtain rfl := Option.some.inj dispatched
            rcases (turn_dispatches way).2 with complete | ⟨-, zero⟩
            · rw [none] at complete
              cases complete
            · exact zero
        | _ => simp [way, Turn.dispatched] at dispatched

/-- In a run every packet that is received completely reaches the command filter exactly
once, exactly if no packet arrives while a control message waits and all fit the buffer.
-/
theorem handsOn_throughout_iff {transitions : List (Transition State Event Output)}
    {finish : State} (run : State.Runs .initial transitions finish)
    : (∀ t ∈ transitions, t.output.HandsOn)
      ↔ ∀ t ∈ transitions, t.before.Unhindered t.event :=
  forall₂_congr fun t member => State.handsOn_iff (run.taken t member)

/-- Before there is a master every packet is dispatched. -/
theorem handsOn_of_noMaster
    : (replay State.step .initial (connects 1 5 ++ [masterModeReq 1])).1.Forall
        fun t => t.output.HandsOn := by
  refine List.forall_iff_forall_mem.mpr ((handsOn_throughout_iff (replay_run _ _)).mpr ?_)
  refine forall_replay_cons rfl (by simp [State.Unhindered]) ?_
  refine forall_replay_cons rfl (by simp [State.Unhindered]) ?_
  refine forall_replay_cons rfl ?_ (forall_replay_nil _)
  rintro _ _ _ p ⟨⟩ ⟨⟩
  exact ⟨by decide, .inl (by decide)⟩

/-- The client at the address sends KEEPALIVE_MESSAGE. -/
def keepalive (a : Addr) : Event := .iterate a (request (0xFF, 0xFE) 0) .usual

/-- A master that sends a packet while the power meter is reported loses the packet. -/
theorem packet_lost
    : ¬ ∀ transitions finish, State.Runs .initial transitions finish
        → ∀ t ∈ transitions, t.output.HandsOn := by
  intro always
  have last := always _ _
    (replay_run State.initial
      (connects 1 5 ++ [masterModeReq 1, .meterPresence true, keepalive 1]))
    _ (List.mem_of_getElem? (i := 4) rfl)
  have dispatched := congrArg Option.isSome (last.once _ rfl)
  exact absurd dispatched (by decide +kernel)

-----------------------------------------------------------------------------------------
-- Messages
-----------------------------------------------------------------------------------------

/-- A message that a step takes is taken by a task whose socket masterClientSocketFd names,
and an extraction by one in INSERTEDMASTERMODE.
-/
def TakenByMaster (t : Transition State Event Output) : Prop :=
  ∀ message, t.output.taken = some message
    → ∃ a received env c, t.event = .iterate a received env ∧ t.before.contexts a = some c
      ∧ c.socketFd = t.before.globals.masterClientSocketFd
      ∧ (message = .masterExtracted → c.mode = .insertedMasterMode)

/-- What an event must not do for the messages to reach the right task: only the client that
masterClientSocketFd names receives something, or would block, while a message waits; an
extraction is reported only to an inserted master; and while it waits, no new client gets
the socket that masterClientSocketFd names.
-/
structure State.Addressed (s : State) (event : Event) : Prop where
  reader
    : ∀ a received env c, event = .iterate a received env → s.contexts a = some c
        → received = .wouldBlock ∨ received.complete.isSome
        → s.globals.masterClientMsgQid ≠ -1 → s.globals.masterClientMsgQ ≠ []
        → c.socketFd = s.globals.masterClientSocketFd
  extraction
    : event = .iphoneExtracted → s.iphoneInserted = true
        → s.globals.masterClientMsgQid ≠ -1
        → ∀ a t, s.task a = some t → t.socketFd = s.globals.masterClientSocketFd
        → t.mode = .insertedMasterMode
  connection
    : ∀ fd mem, event = .accept fd (some mem) true → s.globals.masterClientMsgQid ≠ -1
        → .masterExtracted ∈ s.globals.masterClientMsgQ
        → fd ≠ s.globals.masterClientSocketFd

/-- An extraction that waits in the queue is for inserted masters only. -/
def State.ExtractionAddressed (s : State) : Prop :=
  s.globals.masterClientMsgQid ≠ -1 → .masterExtracted ∈ s.globals.masterClientMsgQ
    → s.globals.masterClientSocketFd ≠ -1
    → ∀ a t, s.task a = some t → t.socketFd = s.globals.masterClientSocketFd
    → t.mode = .insertedMasterMode

/-- A step that keeps to the conditions keeps a waiting extraction addressed. Witness: a
grant empties the queue, a hand-over finds no message in it, and the other steps that change
the master or a mode close it or leave nobody as the master.
-/
theorem Effect.extractionAddressed {s s' : State} {event : Event}
    (effect : Effect s event s') (placed : s.WellPlaced) (waiting : s.ExtractionAddressed)
    (addressed : s.Addressed event)
    : s'.ExtractionAddressed := by
  have same (globals : s'.globals = s.globals) (tasks : s'.task = s.task)
      : s'.ExtractionAddressed := by
    unfold State.ExtractionAddressed
    rw [globals, tasks]
    exact waiting
  cases effect with
  | halts => exact waiting
  | keeps globals task | denies _ _ _ _ globals task => exact same globals task
  | transmits globals task | forwards _ _ _ globals task =>
      unfold State.ExtractionAddressed
      rw [globals, task]
      exact waiting
  | posts globals task _ extraction =>
      intro isOpen member
      rw [globals] at isOpen member ⊢
      rw [task]
      simp only [Globals.mqSend_masterClientMsgQid, Globals.mqSend_masterClientSocketFd]
        at isOpen ⊢
      rcases Globals.mem_mqSend _ _ member with old | ⟨rfl, -⟩
      · exact waiting isOpen old
      · obtain ⟨rfl, inserted⟩ := extraction rfl
        exact fun _ => addressed.extraction rfl inserted isOpen
  | accepts _ _ _ globals task =>
      intro isOpen member master b t found named
      rw [globals] at isOpen member master named
      rw [task] at found
      rcases update_apply_eq_iff.mp found with ⟨-, new⟩ | ⟨-, old⟩
      · obtain rfl := Option.some.inj new
        exact absurd named (addressed.connection _ _ rfl isOpen member)
      · exact waiting isOpen member master b t old named
  | inserts _ _ globals task =>
      intro isOpen member master b t found named
      rw [globals] at isOpen member master named
      rw [task] at found
      rcases update_apply_eq_iff.mp found with ⟨-, new⟩ | ⟨-, old⟩
      · obtain rfl := Option.some.inj new
        rfl
      · exact waiting isOpen member master b t old named
  | notified _ _ globals task =>
      intro isOpen member
      rw [globals] at isOpen member ⊢
      rw [task]
      exact waiting isOpen (List.mem_of_mem_tail member)
  | leaves _ _ globals task =>
      intro isOpen member master b t found
      rw [globals] at isOpen member master ⊢
      rw [task] at found
      exact waiting isOpen member master b t (State.of_without found).2
  | stepsBack _ globals | extracted _ globals | releases _ _ _ globals =>
      intro isOpen
      simp [globals, Globals.releaseMastership] at isOpen
  | openFails _ _ _ globals =>
      intro isOpen
      simp [globals] at isOpen
  | breaks _ _ globals =>
      intro _ _ master
      simp [globals] at master
  | grants _ _ _ globals =>
      intro _ member
      simp [globals] at member
  | unregistered handles outside =>
      exact absurd (placed.index_lt handles.toTurns) (not_lt.mpr outside)
  | handsOver handles _ _ _ globals =>
      intro isOpen member
      rw [globals] at isOpen member
      rcases (turn_dispatches handles.way).1 with closed | empty
      · exact absurd closed isOpen
      · simp [empty] at member

/-- A step that keeps to the conditions takes its message in the right task. -/
theorem State.takenByMaster {t : Transition State Event Output}
    (waiting : t.before.ExtractionAddressed) (addressed : t.before.Addressed t.event)
    (taken : t.before.step t.event = some (t.after, t.output))
    : TakenByMaster t := by
  obtain ⟨s, event, output, s'⟩ := t
  intro message takes
  simp only at waiting addressed taken takes ⊢
  by_cases noTurn : ∀ a received env, event ≠ .iterate a received env
  · obtain ⟨actions, rfl⟩ := step_output_of_noTurn noTurn taken
    cases takes
  · obtain ⟨a, received, env, rfl⟩ : ∃ a received env, event = .iterate a received env := by
      simpa using noTurn
    obtain ⟨c, way, turns, -, rfl⟩ := step_iterate taken
    obtain rfl : way = .takes message := by
      cases way <;> simp_all [Turn.taken]
    obtain ⟨isOpen, ⟨rest, queue⟩, reads⟩ := turn_takes turns.way
    have named := addressed.reader a received env c rfl turns.found reads isOpen
      (by simp [queue])
    refine ⟨a, received, env, c, rfl, turns.found, named, ?_⟩
    rintro rfl
    have open_ := turns.socketFd_nonneg_of_ne_failed (by simp)
    exact waiting isOpen (by simp [queue]) (by omega) a _ turns.task named

/-- In a run whose steps keep to the conditions, the messages of the control queue are taken
by the master only, and an extraction ends an inserted master only.
-/
theorem takenByMaster_of_addressed {transitions : List (Transition State Event Output)}
    {finish : State} (run : State.Runs .initial transitions finish)
    (addressed : ∀ t ∈ transitions, t.before.Addressed t.event)
    : ∀ t ∈ transitions, TakenByMaster t := by
  have keep (s : State) (event : Event) (s' : State) (output : Output)
      (known : s.ExtractionAddressed ∧ s.WellPlaced) (addressed : s.Addressed event)
      (taken : s.step event = some (s', output))
      : s'.ExtractionAddressed ∧ s'.WellPlaced := by
    have effect := State.step_effect taken
    exact ⟨effect.extractionAddressed known.2 known.1 addressed, effect.wellPlaced known.2⟩
  have throughout := run.invariant keep
    ⟨fun isOpen => absurd rfl isOpen, State.wellPlaced_initial⟩ addressed
  exact fun t member =>
    State.takenByMaster (throughout.1 t member).1.1 (addressed t member) (run.taken t member)

/-- A master that polls the queue takes the report of the power meter. -/
theorem takenByMaster_of_poll
    : (replay State.step .initial
        (connects 1 5
          ++ [masterModeReq 1, .meterPresence true, .iterate 1 .wouldBlock .usual])).1.Forall
        TakenByMaster := by
  refine List.forall_iff_forall_mem.mpr (takenByMaster_of_addressed (replay_run _ _) ?_)
  refine forall_replay_cons rfl ⟨by simp, by simp, fun _ _ _ isOpen => absurd rfl isOpen⟩ ?_
  refine forall_replay_cons rfl ⟨by simp, by simp, by simp⟩ ?_
  refine forall_replay_cons rfl ⟨?_, by simp [masterModeReq], by simp [masterModeReq]⟩ ?_
  · rintro _ _ _ c ⟨⟩ - - isOpen
    exact absurd (by decide +kernel) isOpen
  refine forall_replay_cons rfl ⟨by simp, by simp, by simp⟩ ?_
  refine forall_replay_cons rfl ⟨?_, by simp, by simp⟩ (forall_replay_nil _)
  rintro _ _ _ c ⟨⟩ found - - -
  have named := State.context_field Context.socketFd 5 found (by decide +kernel)
  exact named.trans (by decide +kernel)

/-- A slave that sends a packet while the power meter is reported takes the message. -/
theorem message_takenBySlave
    : ¬ ∀ transitions finish, State.Runs .initial transitions finish
        → ∀ t ∈ transitions, TakenByMaster t := by
  intro always
  have last := always _ _
    (replay_run State.initial
      (connects 1 5 ++ [masterModeReq 1, .meterPresence true] ++ connects 2 6 ++ [keepalive 2]))
    _ (List.mem_of_getElem? (i := 6) rfl)
  obtain ⟨a, received, env, c, same, found, named, -⟩ := last .meterInserted (by decide +kernel)
  cases same
  have socket := State.context_field Context.socketFd 6 found (by decide +kernel)
  exact absurd (socket.symm.trans named) (by decide +kernel)

end Reconn.Client
