import Reconn.Power.SaveOrder

/-! Whether the power daemon and the DMM task come to an end. A daemon that has asked gets its
answer where it waits for it, unless the DMM task is disturbed; one that waits on another
connection waits for ever, and so does the DMM task.
-/

namespace Reconn.Power.SaveProtocol

open TransitionRuns Simulation
open PowerDaemon (Reading)

-----------------------------------------------------------------------------------------
-- The ends of the connections
-----------------------------------------------------------------------------------------

/-- The DMM task has its end open of the connection in its dmmSocketFd only, and it waits on
no other socket.
-/
structure TaskEnds (s : System) : Prop where
  taskOpen : ∀ n, (s.connection n).taskOpen = true ↔ s.taskSocket = .connected n
  recv : s.task = .recv → ∃ c, s.taskSocket = .connected c

/-- The daemon has taken a connection, and has not closed it. -/
def System.Held (s : System) (c : Nat) : Prop :=
  c < s.accepted ∧ (s.connection c).daemonOpen = true

/-- The daemon has not closed the connections that it has not taken, nor the one in its
dmmSocketFd or its recv().
-/
structure DaemonEnds (s : System) : Prop where
  accepted : s.accepted ≤ s.connections.length
  waiting : ∀ n, s.accepted ≤ n → n < s.connections.length
    → (s.connection n).daemonOpen = true
  taken : ∀ n, s.dmmSocketFd = some n → n < s.accepted
  held : ∀ n, s.dmmSocketFd = some n → s.daemon ≠ .clearing → s.Held n
  receiving : ∀ n, s.daemon = .receiving (some n) → s.Held n

section Ends

variable {s s' : System} {output : List Effect}

theorem TaskEnds.initial : TaskEnds .initial where
  taskOpen n := by simp [System.initial, System.connection, Connection.absent]
  recv task := by cases task

theorem DaemonEnds.initial : DaemonEnds .initial where
  accepted := le_rfl
  waiting n := by simp [System.initial]
  taken n fd := by cases fd
  held n fd := by cases fd
  receiving n daemon := by cases daemon

theorem TaskEnds.keeps (ends : TaskEnds s)
    (taskOpen : ∀ n, (s'.connection n).taskOpen = (s.connection n).taskOpen)
    (socket : s'.taskSocket = s.taskSocket) (recv : s'.task = .recv → s.task = .recv)
    : TaskEnds s' where
  taskOpen n := by rw [taskOpen, socket, ends.taskOpen]
  recv task := by rw [socket]; exact ends.recv (recv task)

theorem DaemonEnds.keeps (ends : DaemonEnds s)
    (daemonOpen : ∀ n, (s'.connection n).daemonOpen = (s.connection n).daemonOpen)
    (connections : s'.connections.length = s.connections.length)
    (accepted : s'.accepted = s.accepted) (fd : s'.dmmSocketFd = s.dmmSocketFd)
    (daemon : (s'.daemon ≠ .clearing → s.daemon ≠ .clearing)
      ∧ ∀ n, s'.daemon = .receiving (some n) → s.Held n)
    : DaemonEnds s' where
  accepted := by rw [connections, accepted]; exact ends.accepted
  waiting n := by rw [connections, accepted, daemonOpen]; exact ends.waiting n
  taken n := by rw [fd, accepted]; exact ends.taken n
  held n := by
    rw [fd, System.Held, accepted, daemonOpen]
    exact fun here open_ => ends.held n here (daemon.1 open_)
  receiving n := by
    rw [System.Held, accepted, daemonOpen]
    exact daemon.2 n

/-- The DMM task closes the only end that it has open. -/
theorem TaskEnds.leave (ends : TaskEnds s) {socket : TaskSocket}
    (other : ∀ n, socket ≠ .connected n)
    : TaskEnds (s.leave socket) := by
  refine ⟨fun n => ?_, fun task => by simp at task⟩
  rw [System.leave_connection, System.leave_taskSocket, apply_ite Connection.taskOpen]
  refine iff_of_false ?_ (other n)
  split_ifs with mine
  · exact Bool.false_ne_true
  · rwa [ends.taskOpen]

theorem DaemonEnds.leave (ends : DaemonEnds s) (socket : TaskSocket)
    : DaemonEnds (s.leave socket) := by
  refine ends.keeps (fun n => ?_) (by simp) (by simp) (by simp) (by simpa using ends.receiving)
  rw [System.leave_connection]
  split_ifs <;> rfl

/-- A connection is made if the DMM task has none. -/
theorem connect_ends (task : TaskEnds s) (daemon : DaemonEnds s) (connectFails : Bool)
    (loop : s.task = .loop) (free : ∀ n, s.taskSocket ≠ .connected n)
    : TaskEnds (s.connect connectFails) ∧ DaemonEnds (s.connect connectFails) := by
  have closed n : ¬ (s.connection n).taskOpen = true := (task.taskOpen n).not.mpr (free n)
  unfold System.connect
  split_ifs
  · exact ⟨⟨fun n => iff_of_false (closed n) (by simp), by simp [loop]⟩,
      daemon.keeps (fun _ => rfl) rfl rfl rfl ⟨id, daemon.receiving⟩⟩
  · have held {n : Nat} (here : s.Held n)
        : n < s.accepted ∧ (if n = s.connections.length then Connection.made
          else s.connection n).daemonOpen = true := by
      have old : n ≠ s.connections.length := (here.1.trans_le daemon.accepted).ne
      rw [if_neg old]
      exact here
    refine ⟨⟨fun n => ?_, fun _ => ⟨_, rfl⟩⟩, ⟨?_, fun n here made => ?_, daemon.taken,
      fun n fd phase => ?_, fun n phase => ?_⟩⟩
    · refine (Bool.eq_iff_iff.mp (congrArg Connection.taskOpen (s.connection_append n))).trans ?_
      split_ifs with new
      · exact iff_of_true rfl (by rw [new])
      · exact iff_of_false (closed n) fun same => new (TaskSocket.connected.inj same).symm
    · simpa using daemon.accepted.trans (Nat.le_succ _)
    · refine (congrArg Connection.daemonOpen (s.connection_append n)).trans ?_
      rw [List.length_append, List.length_singleton] at made
      split_ifs with new
      · rfl
      · exact daemon.waiting n here (by omega)
    · refine ⟨(held (daemon.held n fd phase)).1, ?_⟩
      exact (congrArg Connection.daemonOpen (s.connection_append n)).trans
        (held (daemon.held n fd phase)).2
    · refine ⟨(held (daemon.receiving n phase)).1, ?_⟩
      exact (congrArg Connection.daemonOpen (s.connection_append n)).trans
        (held (daemon.receiving n phase)).2

theorem task_ends {env : TaskOutcomes} (task : TaskEnds s) (daemon : DaemonEnds s)
    (taken : s.taskStep env = some (s', output))
    : TaskEnds s' ∧ DaemonEnds s' := by
  have idle {phase : TaskPhase} (other : phase ≠ .recv)
      : TaskEnds { s with task := phase } ∧ DaemonEnds { s with task := phase } :=
    ⟨task.keeps (fun _ => rfl) rfl fun recv => absurd recv other,
      daemon.keeps (fun _ => rfl) rfl rfl rfl ⟨id, daemon.receiving⟩⟩
  have moves {change : Connection → Connection} {phase : TaskPhase} (c : Nat)
      (taskOpen : ∀ connection, (change connection).taskOpen = connection.taskOpen)
      (daemonOpen : ∀ connection, (change connection).daemonOpen = connection.daemonOpen)
      (other : phase ≠ .recv)
      : TaskEnds { s.modify c change with task := phase }
        ∧ DaemonEnds { s.modify c change with task := phase } :=
    ⟨task.keeps (s.modify_keeps _ change taskOpen c) rfl fun recv => absurd recv other,
      daemon.keeps (s.modify_keeps _ change daemonOpen c) (System.modify_length ..) rfl rfl
        ⟨id, daemon.receiving⟩⟩
  cases taskStep_cases taken with
  | quits | saves => exact idle (by simp)
  | connects loop free => exact connect_ends task daemon _ loop free
  | repeats => exact ⟨task, daemon⟩
  | recvFails => exact ⟨task.leave (by simp), daemon.leave .closed⟩
  | closes => exact ⟨task.leave (by simp), daemon.leave .none⟩
  | @request c | @invalid c => exact moves c (fun _ => rfl) (fun _ => rfl) (by simp)
  | @replies c =>
      exact moves c (Connection.sendToDaemon_taskOpen _) (Connection.sendToDaemon_daemonOpen _)
        (by simp)

/-- The connection that the daemon closes. -/
theorem daemonCloses_daemonOpen (s : System) (c n : Nat)
    : ((s.modify c Connection.daemonCloses).connection n).daemonOpen
      = if n = c then false else (s.connection n).daemonOpen := by
  rw [System.connection_modify s rfl, apply_ite Connection.daemonOpen]
  rfl

theorem accept_ends {outcome : Accept} (task : TaskEnds s) (daemon : DaemonEnds s)
    (taken : s.accept outcome = some s')
    : TaskEnds s' ∧ DaemonEnds s' := by
  cases outcome with
  | fails =>
      obtain rfl := Option.some.inj taken
      exact ⟨task.keeps (fun _ => rfl) rfl id,
        daemon.accepted, daemon.waiting, by simp, by simp, daemon.receiving⟩
  | returns =>
      obtain ⟨more, same⟩ := Option.ite_none_right_eq_some.mp taken
      obtain rfl := Option.some.inj same
      refine ⟨task.keeps (fun _ => rfl) rfl id, more, fun n later => ?_, fun n fd => ?_,
        fun n fd _ => ?_, fun n phase => ?_⟩
      · exact daemon.waiting n (Nat.le_of_succ_le later)
      · obtain rfl := Option.some.inj fd
        exact Nat.lt_succ_self _
      · obtain rfl := Option.some.inj fd
        exact ⟨Nat.lt_succ_self _, daemon.waiting _ le_rfl more⟩
      · exact ⟨(daemon.receiving n phase).1.trans (Nat.lt_succ_self _),
          (daemon.receiving n phase).2⟩
  | drops =>
      obtain ⟨more, same⟩ := Option.ite_none_right_eq_some.mp taken
      obtain rfl := Option.some.inj same
      refine ⟨task.keeps (s.modify_keeps Connection.taskOpen Connection.daemonCloses
        (fun _ => rfl) _) rfl id,
        ?_, fun n later made => ?_, by simp, by simp, fun n phase => ?_⟩
      · simpa using more
      · refine (daemonCloses_daemonOpen s _ n).trans ?_
        rw [if_neg (Nat.ne_of_gt later)]
        exact daemon.waiting n (Nat.le_of_succ_le later) (by simpa using made)
      · obtain ⟨old, held⟩ := daemon.receiving n phase
        refine ⟨old.trans (Nat.lt_succ_self _), (daemonCloses_daemonOpen s _ n).trans ?_⟩
        rwa [if_neg old.ne]

theorem close_ends (task : TaskEnds s) (daemon : DaemonEnds s)
    : TaskEnds s.close ∧ DaemonEnds s.close := by
  rw [System.close]
  split
  · exact ⟨task.keeps (fun _ => rfl) rfl id, daemon.accepted, daemon.waiting, daemon.taken,
      fun _ _ open_ => absurd rfl open_, fun _ phase => DaemonPhase.noConfusion phase⟩
  · rename_i c fd
    refine ⟨task.keeps (s.modify_keeps Connection.taskOpen Connection.daemonCloses
      (fun _ => rfl) c) rfl id, ?_, fun n later made => ?_, daemon.taken,
      fun _ _ open_ => absurd rfl open_, fun _ phase => DaemonPhase.noConfusion phase⟩
    · simpa using daemon.accepted
    · refine (daemonCloses_daemonOpen s _ n).trans ?_
      rw [if_neg ((daemon.taken c fd).trans_le later).ne']
      exact daemon.waiting n later (by simpa using made)

theorem kill_ends (task : TaskEnds s) : TaskEnds s.kill ∧ DaemonEnds s.kill := by
  have taskOpen n : (s.kill.connection n).taskOpen = (s.connection n).taskOpen := by
    rw [System.connection, System.kill, System.connection_map _ _ rfl]
    rfl
  refine ⟨task.keeps taskOpen rfl id, ?_, fun n later made => ?_, by simp [System.kill],
    by simp [System.kill], by simp [System.kill]⟩
  · simp [System.kill]
  · simp [System.kill] at later made
    omega

/-- Both kinds of ends are as they should be in every step. -/
theorem step_ends {event : Event} (task : TaskEnds s) (daemon : DaemonEnds s)
    (taken : s.step event = some (s', output))
    : TaskEnds s' ∧ DaemonEnds s' := by
  rw [step_iff] at taken
  cases taken with
  | task _ taken => exact task_ends task daemon taken
  | restart => exact ⟨task.leave (by simp), daemon.leave .none⟩
  | accept _ _ taken => exact accept_ends task daemon taken
  | turn reading selectFails polling =>
      obtain ⟨initialPowerUp, phase, ends, same⟩ := turn_cases polling reading selectFails
      rw [same]
      refine ⟨task.keeps (fun _ => rfl) rfl id,
        daemon.keeps (fun _ => rfl) rfl rfl rfl ⟨by simp [polling], ?_⟩⟩
      cases ends <;> simp
  | close => exact close_ends task daemon
  | clear =>
      exact ⟨task.keeps (fun _ => rfl) rfl id, daemon.accepted, daemon.waiting, by simp, by simp,
        by simp⟩
  | send sending taken =>
      cases send_cases taken with
      | nobody =>
          exact ⟨task.keeps (fun _ => rfl) rfl id,
            daemon.keeps (fun _ => rfl) rfl rfl rfl ⟨by simp [sending], by simp⟩⟩
      | kills => exact kill_ends task
      | @asks d =>
          exact ⟨task.keeps (s.modify_keeps _ _ (Connection.sendToTask_taskOpen _) d) rfl id,
            daemon.keeps (s.modify_keeps _ _ (Connection.sendToTask_daemonOpen _) d)
              (System.modify_length ..) rfl rfl ⟨by simp [sending], by simp⟩⟩
  | select selecting taken =>
      rcases select_cases taken with ⟨-, rfl⟩ | rfl
      · exact ⟨task.keeps (fun _ => rfl) rfl id,
          daemon.keeps (fun _ => rfl) rfl rfl rfl ⟨by simp [selecting], by simp⟩⟩
      · refine ⟨task.keeps (fun _ => rfl) rfl id,
          daemon.keeps (fun _ => rfl) rfl rfl rfl ⟨by simp [selecting], fun n phase => ?_⟩⟩
        exact daemon.held n (DaemonPhase.receiving.inj phase) (by simp [selecting])
  | recv receiving taken =>
      have off : s.daemon ≠ .clearing := by simp [receiving]
      cases recv_cases taken with
      | nobody | ended | closed =>
          exact ⟨task.keeps (fun _ => rfl) rfl id,
            daemon.keeps (fun _ => rfl) rfl rfl rfl ⟨fun _ => off, by simp⟩⟩
      | @answer c | @invalid c =>
          exact ⟨task.keeps (s.modify_keeps Connection.taskOpen Connection.daemonReceives
              (fun _ => rfl) c) rfl id,
            daemon.keeps (s.modify_keeps Connection.daemonOpen Connection.daemonReceives
              (fun _ => rfl) c) (System.modify_length ..) rfl rfl ⟨fun _ => off, by simp⟩⟩

end Ends

-----------------------------------------------------------------------------------------
-- The request is pursued
-----------------------------------------------------------------------------------------

/-- What the past of a system says about it. The daemon keeps the connection that it has sent
the request on, the DMM task waits on any other, and a request on an open connection is
unread, or worked on, or answered.
-/
structure Pursued (s : System) (past : List Effect) : Prop where
  held : ∀ c, .asked c ∈ past → s.Held c
  reads : ∀ c, s.taskSocket = .connected c → s.task = .recv ∨ .asked c ∈ past
  pending : ∀ c, .asked c ∈ past → (s.connection c).taskOpen = true → s.daemon ≠ .off
    → (s.task = .recv ∧ (s.connection c).toTask ≠ []) ∨ s.task = .saving ∨ s.task = .replying
      ∨ (s.connection c).toDaemon ≠ []

section Pursuit

variable {s s' : System} {past output : List Effect} {stage : Stage}

/-- Before the request the DMM task only has to wait where it is connected. -/
theorem pursued_nil
    : Pursued s [] ↔ ∀ c, s.taskSocket = .connected c → s.task = .recv :=
  ⟨fun pursued c socket => (pursued.reads c socket).resolve_right List.not_mem_nil,
    fun reads => ⟨fun _ asked => absurd asked List.not_mem_nil,
      fun c socket => .inl (reads c socket), fun _ asked => absurd asked List.not_mem_nil⟩⟩

/-- What moves no message in the connections that are kept, pursues the request further. -/
theorem Pursued.keeps (pursued : Pursued s past)
    (held : ∀ c, s.Held c → s'.Held c ∧ (s'.connection c).taskOpen = (s.connection c).taskOpen
      ∧ (s'.connection c).toTask = (s.connection c).toTask
      ∧ (s'.connection c).toDaemon = (s.connection c).toDaemon)
    (socket : s'.taskSocket = s.taskSocket) (task : s'.task = s.task)
    (off : s'.daemon ≠ .off → s.daemon ≠ .off)
    : Pursued s' past where
  held c asked := (held c (pursued.held c asked)).1
  reads c connected := by
    rw [task]
    exact pursued.reads c (socket ▸ connected)
  pending c asked isOpen on := by
    obtain ⟨-, taskOpen, toTask, toDaemon⟩ := held c (pursued.held c asked)
    rw [task, toTask, toDaemon]
    exact pursued.pending c asked (taskOpen ▸ isOpen) (off on)

/-- There is nothing to pursue where the DMM task is not connected. -/
theorem Pursued.of_gone (pursued : Pursued s past) (ends : TaskEnds s')
    (held : ∀ c, s.Held c → s'.Held c) (gone : ∀ c, s'.taskSocket ≠ .connected c)
    : Pursued s' past where
  held c asked := held c (pursued.held c asked)
  reads c socket := absurd socket (gone c)
  pending c _ isOpen := absurd ((ends.taskOpen c).mp isOpen) (gone c)

/-- Before the request nothing was put out. -/
theorem past_of_early (here : At s stage) (done : Done past stage)
    (early : s.daemon.early = true)
    : past = [] := by
  obtain rfl := here.unsent_of_early early
  exact done

theorem System.Held.modify {c n : Nat} {change : Connection → Connection} (held : s.Held n)
    (daemonOpen : ∀ connection, (change connection).daemonOpen = connection.daemonOpen)
    : (s.modify c change).Held n :=
  ⟨held.1, (s.modify_keeps Connection.daemonOpen change daemonOpen c n).trans held.2⟩

theorem System.Held.leave {n : Nat} (held : s.Held n) (socket : TaskSocket)
    : (s.leave socket).Held n := by
  rw [System.Held, System.leave_accepted, System.leave_connection,
    apply_ite Connection.daemonOpen]
  exact ⟨held.1, (ite_self _).trans held.2⟩

theorem task_pursued {env : TaskOutcomes} (here : At s stage) (done : Done past stage)
    (ends : TaskEnds s) (daemon : DaemonEnds s) (pursued : Pursued s past)
    (taken : s.taskStep env = some (s', output))
    : Pursued s' (past ++ output) := by
  have later := task_ends ends daemon taken
  cases taskStep_cases taken with
  | quits loop =>
      rw [List.append_nil]
      refine ⟨pursued.held, fun c socket => .inr ?_, fun c asked isOpen on => ?_⟩
      · exact (pursued.reads c socket).resolve_left (by simp [loop])
      · have answered : (s.connection c).toDaemon ≠ [] := by
          simpa [loop] using pursued.pending c asked isOpen on
        exact .inr (.inr (.inr answered))
  | connects loop free =>
      rw [List.append_nil]
      unfold System.connect at later ⊢
      split_ifs at later ⊢
      · exact pursued.of_gone later.1 (fun _ held => held) (by simp)
      · refine ⟨fun c asked => ?_, fun _ _ => .inl rfl, fun c asked isOpen => ?_⟩
        · obtain ⟨old, held⟩ := pursued.held c asked
          refine ⟨old, (congrArg Connection.daemonOpen (s.connection_append c)).trans ?_⟩
          rwa [if_neg (old.trans_le daemon.accepted).ne]
        · have new := TaskSocket.connected.inj ((later.1.taskOpen c).mp isOpen)
          exact absurd new.symm ((pursued.held c asked).1.trans_le daemon.accepted).ne
  | repeats => rwa [List.append_nil]
  | recvFails =>
      rw [List.append_nil]
      exact pursued.of_gone later.1 (fun _ held => held.leave _) (by simp)
  | closes =>
      rw [List.append_nil]
      exact pursued.of_gone later.1 (fun _ held => held.leave _) (by simp)
  | @request c rest recv socket next =>
      have there := here.toTask c
      rw [Stage.messagesToTask, next] at there
      split_ifs at there with same
      subst same
      obtain rfl : past = [.asked c] := done
      rw [List.append_nil]
      refine ⟨fun d asked => (pursued.held d asked).modify fun _ => rfl,
        fun d same => .inr ?_, fun _ _ _ _ => .inr (.inl rfl)⟩
      obtain rfl := TaskSocket.connected.inj (socket.symm.trans same)
      exact List.mem_singleton_self _
  | @invalid c rest recv socket next =>
      have there := here.toTask c
      rw [Stage.messagesToTask, next] at there
      split_ifs at there
      cases (List.cons.inj there).1
  | saves saving =>
      have asked {c : Nat} : .asked c ∈ past ++ [.saved] ↔ .asked c ∈ past := by simp
      refine ⟨fun c => ?_, fun c socket => .inr (asked.mpr ?_), fun c _ _ _ => ?_⟩
      · rw [asked]
        exact pursued.held c
      · exact (pursued.reads c socket).resolve_left (by simp [saving])
      · exact .inr (.inr (.inl rfl))
  | @replies c replying socket =>
      have asked {c : Nat} : .asked c ∈ past ++ [.replied] ↔ .asked c ∈ past := by simp
      refine ⟨fun d => ?_, fun d socket => .inr (asked.mpr ?_), fun d ask isOpen _ => ?_⟩
      · rw [asked]
        exact fun ask => (pursued.held d ask).modify (Connection.sendToDaemon_daemonOpen _)
      · exact (pursued.reads d socket).resolve_left (by simp [replying])
      · obtain rfl := TaskSocket.connected.inj (socket.symm.trans ((later.1.taskOpen d).mp isOpen))
        have held := (pursued.held c (asked.mp ask)).2
        have sent : ((s.modify c (Connection.sendToDaemon .dmmSaveComplete)).connection
            c).toDaemon ≠ [] := by
          rw [System.connection_modify s rfl, if_pos rfl, Connection.sendToDaemon_toDaemon]
          simp [held]
        exact .inr (.inr (.inr sent))

theorem accept_pursued {outcome : Accept} (pursued : Pursued s past)
    (taken : s.accept outcome = some s')
    : Pursued s' past := by
  cases outcome with
  | fails =>
      obtain rfl := Option.some.inj taken
      exact pursued.keeps (fun _ held => ⟨held, rfl, rfl, rfl⟩) rfl rfl id
  | returns =>
      obtain rfl := Option.some.inj (Option.ite_none_right_eq_some.mp taken).2
      exact pursued.keeps (fun _ held => ⟨⟨Nat.lt_succ_of_lt held.1, held.2⟩, rfl, rfl, rfl⟩)
        rfl rfl id
  | drops =>
      obtain rfl := Option.some.inj (Option.ite_none_right_eq_some.mp taken).2
      refine pursued.keeps (fun c held => ?_) rfl rfl id
      have same : (s.modify s.accepted Connection.daemonCloses).connection c = s.connection c :=
        (System.connection_modify s rfl s.accepted c).trans (if_neg held.1.ne)
      refine ⟨⟨Nat.lt_succ_of_lt held.1, ?_⟩, ?_, ?_, ?_⟩
      · exact (congrArg Connection.daemonOpen same).trans held.2
      · exact congrArg Connection.taskOpen same
      · exact congrArg Connection.toTask same
      · exact congrArg Connection.toDaemon same

/-- The request is in the connection where it is sent, and the DMM task waits there. -/
theorem send_pursued {c : Nat} {kills : Bool} (sending : s.daemon = .sending c)
    (ends : TaskEnds s) (daemon : DaemonEnds s) (later : TaskEnds s') (reads : Pursued s [])
    (taken : s.send c kills = some (s', output))
    : Pursued s' output := by
  replace reads := pursued_nil.mp reads
  cases send_cases taken with
  | nobody => exact pursued_nil.mpr reads
  | kills => exact pursued_nil.mpr reads
  | @asks d fd =>
      have held := daemon.held d fd (by simp [sending])
      refine ⟨fun n asked => ?_, fun n socket => .inl (reads n socket),
        fun n asked isOpen _ => .inl ?_⟩
      · obtain rfl := Effect.asked.inj (List.mem_singleton.mp asked)
        exact held.modify (Connection.sendToTask_daemonOpen _)
      · obtain rfl := Effect.asked.inj (List.mem_singleton.mp asked)
        have socket : s.taskSocket = .connected n := (later.taskOpen n).mp isOpen
        have sent : ((s.modify n (Connection.sendToTask .saveDmmState)).connection
            n).toTask ≠ [] := by
          rw [System.connection_modify s rfl, if_pos rfl, Connection.sendToTask_toTask]
          simp [(ends.taskOpen n).mpr socket]
        exact ⟨reads n socket, sent⟩

/-- However recv() returns, main turns the box off, and nothing is left to pursue. -/
theorem recv_pursued {fd : Option Nat} {fails : Bool} (pursued : Pursued s past)
    (taken : s.recv fd fails = some (s', output))
    : Pursued s' (past ++ output) := by
  have step := recv_cases taken
  have asked {c : Nat} : .asked c ∈ past ++ output ↔ .asked c ∈ past := by
    cases step <;> simp
  have off : s'.daemon = .off := by cases step <;> rfl
  refine ⟨fun c ask => ?_, fun c socket => ?_, fun _ _ _ on => absurd off on⟩
  · have held := pursued.held c (asked.mp ask)
    cases step with
    | nobody | ended | closed => exact held
    | answer | invalid => exact held.modify fun _ => rfl
  · rw [asked]
    cases step with
    | nobody | ended | closed => exact pursued.reads c socket
    | answer | invalid => exact pursued.reads c socket

theorem step_pursued {event : Event} (here : At s stage) (done : Done past stage)
    (ends : TaskEnds s) (daemon : DaemonEnds s) (pursued : Pursued s past)
    (taken : s.step event = some (s', output))
    : Pursued s' (past ++ output) := by
  have later := step_ends ends daemon taken
  rw [step_iff] at taken
  have quiet {phase : DaemonPhase} {initialPowerUp : Bool} (off : s.daemon ≠ .off)
      : Pursued { s with initialPowerUp := initialPowerUp, daemon := phase } past :=
    pursued.keeps (fun _ held => ⟨held, rfl, rfl, rfl⟩) rfl rfl fun _ => off
  cases taken with
  | task _ taken => exact task_pursued here done ends daemon pursued taken
  | restart =>
      rw [List.append_nil]
      exact pursued.of_gone later.1 (fun _ held => held.leave _) (by simp)
  | accept _ _ taken =>
      rw [List.append_nil]
      exact accept_pursued pursued taken
  | turn reading selectFails polling =>
      obtain ⟨initialPowerUp, phase, -, same⟩ := turn_cases polling reading selectFails
      rw [List.append_nil, same]
      exact quiet (by simp [polling])
  | close closing =>
      obtain rfl := past_of_early here done (by rw [closing]; rfl)
      have reads := pursued_nil.mp pursued
      rw [List.append_nil, System.close]
      split
      · exact pursued_nil.mpr reads
      · exact pursued_nil.mpr reads
  | clear clearing =>
      rw [List.append_nil]
      exact pursued.keeps (fun _ held => ⟨held, rfl, rfl, rfl⟩) rfl rfl fun _ => by simp [clearing]
  | send sending taken =>
      obtain rfl := past_of_early here done (by rw [sending]; rfl)
      exact send_pursued sending ends daemon later.1 pursued taken
  | select selecting taken =>
      rw [List.append_nil]
      rcases select_cases taken with ⟨-, rfl⟩ | rfl
      · exact quiet (by simp [selecting])
      · exact quiet (by simp [selecting])
  | recv _ taken => exact recv_pursued pursued taken

end Pursuit

/-- What holds of a system and of what was put out in every run. -/
structure Reached (s : System) (past : List Effect) : Prop where
  stage : ∃ stage, Done past stage ∧ At s stage
  task : TaskEnds s
  daemon : DaemonEnds s
  pursued : Pursued s past

section Runs

variable {s s' : System} {past output : List Effect} {c : Nat}

theorem Reached.initial : Reached .initial [] where
  stage := ⟨.unsent, rfl, .initial⟩
  task := .initial
  daemon := .initial
  pursued := pursued_nil.mpr fun _ socket => TaskSocket.noConfusion socket

theorem Reached.step {event : Event} (reached : Reached s past)
    (taken : s.step event = some (s', output))
    : Reached s' (past ++ output) := by
  obtain ⟨stage, done, here⟩ := reached.stage
  obtain ⟨next, walk, there⟩ := step_followed s event s' output stage here taken
  obtain ⟨task, daemon⟩ := step_ends reached.task reached.daemon taken
  exact ⟨⟨next, done.walk walk, there⟩, task, daemon,
    step_pursued here done reached.task reached.daemon reached.pursued taken⟩

theorem Reached.run {transitions : List (Transition System Event (List Effect))}
    {finish : System} (reached : Reached s past) (run : Run System.step s transitions finish)
    : Reached finish (past ++ outputs transitions) := by
  induction run generalizing past with
  | nil =>
      rw [outputs, List.flatMap_nil, List.append_nil]
      exact reached
  | cons taken _ ih =>
      have later := ih (reached.step taken)
      rwa [List.append_assoc] at later

/-- Neither does the service of the DMM task end, nor does its recv() fail, or the daemon's. -/
def Undisturbed (event : Event) : Prop :=
  event ≠ .restart ∧ (∀ env, event = .task env → env.recvFails = false) ∧ event ≠ .recv true

/-- Nor does powerDaemonSocketTask accept a connection, nor does a select() fail. -/
def Smooth (event : Event) : Prop :=
  Undisturbed event ∧ (∀ outcome, event ≠ .accept outcome) ∧ event ≠ .select .fails

/-- The box can be turned off after the answer, and nothing interferes. -/
def Completes (s : System) : Prop :=
  ∃ transitions finish, Run System.step s transitions finish
    ∧ (∀ t ∈ transitions, Smooth t.event) ∧ finish.daemon = .off
    ∧ .answered ∈ outputs transitions

theorem Completes.cons {event : Event} (smooth : Smooth event)
    (taken : s.step event = some (s', output)) (later : Completes s')
    : Completes s := by
  obtain ⟨transitions, finish, run, rest, off, answered⟩ := later
  refine ⟨_, finish, .cons taken run, List.forall_mem_cons.mpr ⟨smooth, rest⟩, off, ?_⟩
  rw [outputs, List.flatMap_cons]
  exact List.mem_append_right _ answered

theorem smooth_calm : Smooth (.task calm) :=
  ⟨⟨by simp, fun _ same => Event.task.inj same ▸ rfl, by simp⟩, by simp, by simp⟩

theorem smooth_recv : Smooth (.recv false) :=
  ⟨⟨by simp, by simp, by simp⟩, by simp, by simp⟩

/-- The daemon waits where it has asked, and the DMM task is still connected there. -/
structure Waiting (c : Nat) (s : System) (past : List Effect) : Prop where
  reached : Reached s past
  receiving : s.daemon = .receiving (some c)
  asked : .asked c ∈ past
  socket : s.taskSocket = .connected c

theorem Waiting.answered (waiting : Waiting c s past)
    (answer : (s.connection c).toDaemon ≠ [])
    : Completes s := by
  obtain ⟨stage, -, here⟩ := waiting.reached.stage
  have there := here.toDaemon c
  rw [Stage.messagesToDaemon] at there
  split_ifs at there
  · have taken : s.step (.recv false)
        = some ({ s.modify c Connection.daemonReceives with daemon := .off }, [.answered]) :=
      step_iff.mpr (.recv waiting.receiving (by rw [System.recv]; simp [there]))
    exact ⟨_, _, .cons taken (.nil _), List.forall_mem_singleton.mpr smooth_recv, rfl,
      by simp [outputs]⟩
  · exact absurd there answer

/-- The DMM task answers, by the steps that are ahead of it. -/
theorem Waiting.steps (waiting : Waiting c s past)
    (taken : s.taskStep calm = some (s', output)) (daemon : s'.daemon = s.daemon)
    (socket : s'.taskSocket = s.taskSocket) (later : Waiting c s' (past ++ output) → Completes s')
    : Completes s := by
  have step : s.step (.task calm) = some (s', output) :=
    step_iff.mpr (.task (by simp [waiting.receiving]) taken)
  exact .cons smooth_calm step (later ⟨waiting.reached.step step,
    daemon.trans waiting.receiving, List.mem_append_left _ waiting.asked,
    socket.trans waiting.socket⟩)

theorem Waiting.replying (waiting : Waiting c s past) (replying : s.task = .replying)
    : Completes s := by
  have taken : s.taskStep calm = some (
      { s.modify c (Connection.sendToDaemon .dmmSaveComplete) with task := .loop },
      [.replied]
    ) := by
    simp [System.taskStep, replying, waiting.socket]
  refine waiting.steps taken rfl rfl fun later => later.answered ?_
  have pending := later.reached.pursued.pending c later.asked
    ((later.reached.task.taskOpen c).mpr later.socket)
    fun off => DaemonPhase.noConfusion (later.receiving.symm.trans off)
  simpa using pending

theorem Waiting.saving (waiting : Waiting c s past) (saving : s.task = .saving)
    : Completes s := by
  have taken : s.taskStep calm = some ({ s with task := .replying }, [.saved]) := by
    simp [System.taskStep, saving]
  exact waiting.steps taken rfl rfl fun later => later.replying rfl

/-- A daemon that waits where it has asked gets its answer, if the DMM task is undisturbed. -/
theorem Waiting.completes (waiting : Waiting c s past) : Completes s := by
  have pending := waiting.reached.pursued.pending c waiting.asked
    ((waiting.reached.task.taskOpen c).mpr waiting.socket) (by simp [waiting.receiving])
  rcases pending with ⟨recv, unread⟩ | saving | replying | answered
  · obtain ⟨stage, -, here⟩ := waiting.reached.stage
    have there := here.toTask c
    rw [Stage.messagesToTask] at there
    split_ifs at there
    · have taken : s.taskStep calm
          = some ({ s.modify c Connection.taskReceives with task := .saving }, []) := by
        simp [System.taskStep, recv, waiting.socket, there, calm]
      exact waiting.steps taken rfl rfl fun later => later.saving rfl
    · exact absurd there unread
  · exact waiting.saving saving
  · exact waiting.replying replying
  · exact waiting.answered answered

/-- The daemon and the DMM task both wait for the other in a connection. -/
structure Stuck (c : Nat) (s : System) : Prop where
  receiving : s.daemon = .receiving (some c)
  recv : s.task = .recv
  socket : s.taskSocket = .connected c
  silent : s.connection c = .made
  accepted : c < s.accepted

/-- Only a failure in the DMM task or of the daemon's recv() ends such a wait. -/
theorem Stuck.step {event : Event} (stuck : Stuck c s) (undisturbed : Undisturbed event)
    (taken : s.step event = some (s', output))
    : Stuck c s' := by
  obtain ⟨receiving, recv, socket, silent, accepted⟩ := stuck
  rw [step_iff] at taken
  cases taken with
  | task _ taken =>
      have same {d : Nat} (there : s.taskSocket = .connected d) : d = c :=
        TaskSocket.connected.inj (there.symm.trans socket)
      cases taskStep_cases taken with
      | quits phase | connects phase | repeats phase | saves phase | replies phase =>
          exact absurd (recv.symm.trans phase) (by simp)
      | recvFails _ fails => exact absurd fails (by simp [undisturbed.2.1 _ rfl])
      | request _ there next | invalid _ there next =>
          rw [same there, silent] at next
          cases next
      | closes _ there closed =>
          rw [same there, silent] at closed
          cases closed
  | restart => exact absurd rfl undisturbed.1
  | @accept outcome _ _ _ taken =>
      cases outcome with
      | fails =>
          obtain rfl := Option.some.inj taken
          exact ⟨receiving, recv, socket, silent, accepted⟩
      | returns =>
          obtain rfl := Option.some.inj (Option.ite_none_right_eq_some.mp taken).2
          exact ⟨receiving, recv, socket, silent, Nat.lt_succ_of_lt accepted⟩
      | drops =>
          obtain rfl := Option.some.inj (Option.ite_none_right_eq_some.mp taken).2
          have kept : (s.modify s.accepted Connection.daemonCloses).connection c = .made := by
            rw [System.connection_modify s rfl, if_neg accepted.ne, silent]
          exact ⟨receiving, recv, socket, kept, Nat.lt_succ_of_lt accepted⟩
  | turn _ _ phase | close phase | clear phase | send phase | select phase =>
      exact absurd (receiving.symm.trans phase) (by simp)
  | recv phase taken =>
      obtain rfl := DaemonPhase.receiving.inj (phase.symm.trans receiving)
      cases recv_cases taken with
      | ended failed => exact absurd (congrArg Event.recv failed) undisturbed.2.2
      | closed closed =>
          rw [silent] at closed
          cases closed
      | answer next | invalid next =>
          rw [silent] at next
          cases next

theorem Stuck.run {transitions : List (Transition System Event (List Effect))}
    {finish : System} (stuck : Stuck c s) (run : Run System.step s transitions finish)
    (undisturbed : ∀ t ∈ transitions, Undisturbed t.event)
    : Stuck c finish := by
  induction run with
  | nil => exact stuck
  | cons taken _ ih =>
      obtain ⟨first, later⟩ := List.forall_mem_cons.mp undisturbed
      exact ih (stuck.step first taken) later

/-- A daemon that waits where it has not asked is stuck. -/
theorem Reached.stuck (reached : Reached s past) (receiving : s.daemon = .receiving (some c))
    (isOpen : (s.connection c).taskOpen = true) (unasked : .asked c ∉ past)
    : Stuck c s := by
  have socket := (reached.task.taskOpen c).mp isOpen
  obtain ⟨accepted, daemonOpen⟩ := reached.daemon.receiving c receiving
  refine ⟨receiving, (reached.pursued.reads c socket).resolve_right unasked, socket, ?_,
    accepted⟩
  obtain ⟨stage, done, here⟩ := reached.stage
  have toTask : (s.connection c).toTask = [] := by
    rw [here.toTask, Stage.messagesToTask, if_neg]
    rintro rfl
    exact unasked (done ▸ List.mem_singleton_self _)
  have toDaemon : (s.connection c).toDaemon = [] := by
    rw [here.toDaemon, Stage.messagesToDaemon, if_neg]
    rintro rfl
    exact unasked (done ▸ List.mem_cons_self)
  calc s.connection c
      = ⟨(s.connection c).toTask, (s.connection c).toDaemon, (s.connection c).taskOpen,
          (s.connection c).daemonOpen⟩ := rfl
    _ = .made := by rw [toTask, toDaemon, isOpen, daemonOpen]; rfl

end Runs

/-- The button was pressed while the DMM task was connected, and nothing has interfered. -/
structure Pressed (c : Nat) (s : System) (past : List Effect) : Prop where
  reached : Reached s past
  fd : s.dmmSocketFd = some c
  socket : s.taskSocket = .connected c
  phase : s.daemon = .sending c
    ∨ (.asked c ∈ past ∧ (s.daemon = .selecting c ∨ s.daemon = .receiving (some c)
      ∨ (s.daemon = .off ∧ .answered ∈ past)))

section Press

variable {s s' : System} {past output : List Effect} {c : Nat}

theorem Pressed.held (pressed : Pressed c s past) : s.Held c := by
  refine pressed.reached.daemon.held c pressed.fd ?_
  rcases pressed.phase with phase | ⟨-, phase | phase | ⟨phase, -⟩⟩ <;> simp [phase]

/-- The DMM task stays connected where the daemon has not closed the connection. -/
theorem taskStep_stays {env : TaskOutcomes} (held : s.Held c)
    (socket : s.taskSocket = .connected c) (lasts : env.recvFails = false)
    (taken : s.taskStep env = some (s', output))
    : s'.dmmSocketFd = s.dmmSocketFd ∧ s'.taskSocket = s.taskSocket ∧ s'.daemon = s.daemon := by
  cases taskStep_cases taken with
  | quits | repeats | request | invalid | saves | replies => exact ⟨rfl, rfl, rfl⟩
  | connects _ free => exact absurd socket (free c)
  | recvFails _ fails => exact absurd fails (by simp [lasts])
  | closes _ there closed =>
      obtain rfl := TaskSocket.connected.inj (there.symm.trans socket)
      exact absurd held.2 (by simp [closed])

/-- Every step that does not interfere goes on. -/
theorem Pressed.step {event : Event} (pressed : Pressed c s past) (smooth : Smooth event)
    (taken : s.step event = some (s', output))
    : Pressed c s' (past ++ output) := by
  have reached := pressed.reached.step taken
  have held := pressed.held
  obtain ⟨reached₀, fd, socket, phase⟩ := pressed
  obtain ⟨⟨lasts, quiet, returns⟩, alone, selects⟩ := smooth
  have isOpen := (reached₀.task.taskOpen c).mpr socket
  rw [step_iff] at taken
  cases taken with
  | task _ taken =>
      obtain ⟨sameFd, sameSocket, sameDaemon⟩ := taskStep_stays held socket (quiet _ rfl) taken
      refine ⟨reached, sameFd.trans fd, sameSocket.trans socket, ?_⟩
      rw [sameDaemon]
      refine phase.imp_right fun ⟨asked, rest⟩ => ⟨List.mem_append_left _ asked, ?_⟩
      exact rest.imp_right (Or.imp_right fun off => ⟨off.1, List.mem_append_left _ off.2⟩)
  | restart => exact absurd rfl lasts
  | accept => exact absurd rfl (alone _)
  | turn _ _ here | close here | clear here => simp [here] at phase
  | send sending taken =>
      obtain rfl : _ = c := by simpa [sending] using phase
      cases send_cases taken with
      | nobody none => exact absurd (fd.symm.trans none) (by simp)
      | kills there closed =>
          obtain rfl := Option.some.inj (there.symm.trans fd)
          exact absurd isOpen (by simp [closed])
      | asks there =>
          obtain rfl := Option.some.inj (there.symm.trans fd)
          exact ⟨reached, fd, socket, .inr ⟨by simp, .inl rfl⟩⟩
  | select selecting taken =>
      obtain ⟨asked, -⟩ : .asked c ∈ past ∧ _ := by simpa [selecting] using phase
      rcases select_cases taken with ⟨rfl, -⟩ | rfl
      · exact absurd rfl selects
      · exact ⟨reached, fd, socket,
          .inr ⟨List.mem_append_left _ asked, .inr (.inl (by rw [fd]))⟩⟩
  | recv receiving taken =>
      obtain ⟨asked, rfl⟩ : .asked c ∈ past ∧ _ = some c := by simpa [receiving] using phase
      cases recv_cases taken with
      | ended failed => exact absurd (congrArg Event.recv failed) returns
      | closed closed => exact absurd isOpen (by simp [closed])
      | answer =>
          exact ⟨reached, fd, socket, .inr ⟨List.mem_append_left _ asked,
            .inr (.inr ⟨rfl, List.mem_append_right _ (List.mem_singleton_self _)⟩)⟩⟩
      | invalid next =>
          obtain ⟨stage, -, here⟩ := reached₀.stage
          have there := here.toDaemon c
          rw [Stage.messagesToDaemon, next] at there
          split_ifs at there
          cases (List.cons.inj there).1

theorem Pressed.run {transitions : List (Transition System Event (List Effect))}
    {finish : System} (pressed : Pressed c s past) (run : Run System.step s transitions finish)
    (smooth : ∀ t ∈ transitions, Smooth t.event)
    : Pressed c finish (past ++ outputs transitions) := by
  induction run generalizing past with
  | nil =>
      rw [outputs, List.flatMap_nil, List.append_nil]
      exact pressed
  | cons taken _ ih =>
      obtain ⟨first, rest⟩ := List.forall_mem_cons.mp smooth
      have later := ih (pressed.step first taken) rest
      rwa [List.append_assoc] at later

/-- The daemon comes to wait where it has asked, at the latest when its select() times out. -/
theorem Pressed.completes (pressed : Pressed c s past)
    : (s.daemon = .off ∧ .answered ∈ past) ∨ Completes s := by
  have selected {s : System} {past : List Effect} (pressed : Pressed c s past)
      (selecting : s.daemon = .selecting c) (asked : .asked c ∈ past) : Completes s := by
    have taken : s.step (.select .timedOut)
        = some ({ s with daemon := .receiving s.dmmSocketFd }, []) :=
      step_iff.mpr (.select selecting rfl)
    have smooth : Smooth (.select .timedOut) := ⟨⟨by simp, by simp, by simp⟩, by simp, by simp⟩
    have later := pressed.step smooth taken
    refine .cons smooth taken (Waiting.completes ⟨later.reached, ?_,
      List.mem_append_left _ asked, later.socket⟩)
    rw [pressed.fd]
  rcases pressed.phase with sending | ⟨asked, selecting | receiving | off⟩
  · have taken : s.step (.send false) = some (
        { s.modify c (Connection.sendToTask .saveDmmState) with daemon := .selecting c },
        [.asked c]
      ) :=
      step_iff.mpr (.send sending (by rw [System.send]; simp [pressed.fd]))
    have smooth : Smooth (.send false) := ⟨⟨by simp, by simp, by simp⟩, by simp, by simp⟩
    have later := pressed.step smooth taken
    exact .inr (.cons smooth taken (selected later rfl (by simp)))
  · exact .inr (selected pressed selecting asked)
  · exact .inr (Waiting.completes ⟨pressed.reached, receiving, asked, pressed.socket⟩)
  · exact .inl off

end Press

/-- The recv() of the daemon returns if the other end is closed. -/
theorem recv_of_closed {s : System} {c : Nat} (closed : (s.connection c).taskOpen = false)
    : ∃ s' output, s.recv (some c) false = some (s', output) := by
  simp only [System.recv, Bool.false_eq_true, if_false]
  split
  · exact ⟨_, _, rfl⟩
  · exact ⟨_, _, rfl⟩
  · exact ⟨_, _, if_neg (by simp [closed])⟩

section Results

variable {transitions : List (Transition System Event (List Effect))} {s : System} {c : Nat}

/-- In every run a daemon in recv() can come to turn the box off, while the DMM task is
undisturbed and no recv() fails, exactly if the connection was closed or it is the one that it
has asked on. On a connection that was accepted in between both wait for each other.
-/
theorem wait_ends_iff (run : Run System.step .initial transitions s)
    (receiving : s.daemon = .receiving (some c))
    : (∃ more finish, Run System.step s more finish ∧ (∀ t ∈ more, Undisturbed t.event)
        ∧ finish.daemon = .off)
      ↔ ((s.connection c).taskOpen = true → .asked c ∈ outputs transitions) := by
  have reached : Reached s (outputs transitions) := Reached.initial.run run
  constructor
  · rintro ⟨more, finish, later, undisturbed, off⟩ isOpen
    by_contra unasked
    have stuck := (reached.stuck receiving isOpen unasked).run later undisturbed
    exact absurd (off.symm.trans stuck.receiving) (by simp)
  · intro asked
    cases isOpen : (s.connection c).taskOpen with
    | true =>
        have waiting : Waiting c s (outputs transitions) :=
          ⟨reached, receiving, asked isOpen, (reached.task.taskOpen c).mp isOpen⟩
        obtain ⟨more, finish, later, smooth, off, -⟩ := waiting.completes
        exact ⟨more, finish, later, fun t member => (smooth t member).1, off⟩
    | false =>
        obtain ⟨s', output, taken⟩ := recv_of_closed isOpen
        have off : s'.daemon = .off := by cases recv_cases taken <;> rfl
        exact ⟨_, s', .cons (step_iff.mpr (.recv receiving taken)) (.nil s'),
          List.forall_mem_singleton.mpr smooth_recv.1, off⟩

/-- The service of the DMM task is started again while the daemon waits in select(). -/
def restarted : List Event :=
  [
    .task calm, .accept .returns, .turn (.value 48) false, .turn (.value 49) false, .send false,
    .restart, .task calm, .accept .returns, .select .ready
  ]

/-- Then the daemon waits on the new connection, and the box stays on. -/
theorem wait_ends_restarted
    : ¬ ∃ more finish, Run System.step (replay System.step System.initial restarted).2 more finish
        ∧ (∀ t ∈ more, Undisturbed t.event) ∧ finish.daemon = .off := by
  have receiving : (replay System.step System.initial restarted).2.daemon
      = .receiving (some 1) := by decide +kernel
  refine (wait_ends_iff (replay_run System.initial restarted) receiving).not.mpr fun asked => ?_
  have unasked : .asked 1 ∉ outputs (replay System.step System.initial restarted).1 := by
    decide +kernel
  exact unasked (asked (by decide +kernel))

/-- If the button is pressed while the DMM task is connected, and nothing interferes, then in
whatever order the two go on and how often select() times out, the box can come to be turned
off, and is turned off only after the configuration was asked for, saved, and the answer
received.
-/
theorem press_saves {after : List (Transition System Event (List Effect))} {finish : System}
    {reading : Reading} {selectFails : Bool}
    (run : Run System.step .initial transitions s) (polling : s.daemon = .polling)
    (started : s.initialPowerUp = false) (fd : s.dmmSocketFd = some c)
    (isOpen : (s.connection c).taskOpen = true) (pressed : reading.pressed = true)
    (later : Run System.step (s.turn reading selectFails) after finish)
    (smooth : ∀ t ∈ after, Smooth t.event)
    : ∃ last off, Run System.step finish last off ∧ (∀ t ∈ last, Smooth t.event)
      ∧ off.daemon = .off
      ∧ outputs transitions ++ outputs after ++ outputs last = Stage.course c := by
  have reached : Reached s (outputs transitions) := Reached.initial.run run
  have turned := @System.turn_pressed s reading selectFails c started fd pressed
  have start : Pressed c (s.turn reading selectFails) (outputs transitions ++ []) := by
    refine ⟨reached.step (step_iff.mpr (.turn reading selectFails polling)), ?_, ?_, ?_⟩
    · rw [turned]
      exact fd
    · rw [turned]
      exact (reached.task.taskOpen c).mp isOpen
    · rw [turned]
      exact .inl rfl
  rw [List.append_nil] at start
  have now := start.run later smooth
  have whole {past : List Effect} {off : System} (pressed : Pressed c off past)
      (ended : off.daemon = .off) : past = Stage.course c := by
    obtain ⟨stage, done, -⟩ := pressed.reached.stage
    obtain ⟨asked, answered⟩ : .asked c ∈ past ∧ .answered ∈ past := by
      simpa [ended] using pressed.phase
    exact done.eq_course asked answered
  rcases now.completes with ⟨ended, -⟩ | ⟨last, off, more, rest, ended, -⟩
  · refine ⟨[], finish, .nil finish, List.forall_mem_nil _, ended, ?_⟩
    exact (List.append_nil _).trans (whole now ended)
  · exact ⟨last, off, more, rest, ended, whole (now.run more rest) ended⟩

/-- What comes after the press, until the DMM task has saved: select() times out before. -/
def pressedSince : List Event := [.send false, .select .timedOut, .task calm, .task calm]

/-- The button is pressed after the DMM task has connected, and the daemon waits in recv() while
the configuration is saved.
-/
theorem press_saves_connected
    : ∃ last off, Run System.step
        (replay System.step
          ((replay System.step System.initial (usual.take 3)).2.turn (.value 49) false)
          pressedSince).2
        last off
      ∧ (∀ t ∈ last, Smooth t.event) ∧ off.daemon = .off
      ∧ outputs (replay System.step System.initial (usual.take 3)).1
          ++ outputs (replay System.step
            ((replay System.step System.initial (usual.take 3)).2.turn (.value 49) false)
            pressedSince).1
          ++ outputs last
        = Stage.course 0 := by
  refine press_saves (replay_run System.initial (usual.take 3)) (by decide +kernel)
    (by decide +kernel) (by decide +kernel) (by decide +kernel) (by decide +kernel)
    (replay_run _ pressedSince) ?_
  have smooth (event : Event) (member : event ∈ pressedSince) : Smooth event := by
    simp only [pressedSince, List.mem_cons, List.not_mem_nil, or_false] at member
    rcases member with rfl | rfl | rfl | rfl
    · simp [Smooth, Undisturbed]
    · simp [Smooth, Undisturbed]
    · exact smooth_calm
    · exact smooth_calm
  exact fun t member => smooth t.event (event_mem_of_mem_replay member)

/-- Neither is the service of the DMM task started again, nor does another of its sockets get
the number of the closed one.
-/
def LeavesClosed : Event → Prop
  | .restart => False
  | .task env => env.reused = false
  | _ => True

instance : (event : Event) → Decidable (LeavesClosed event)
  | .restart => .isFalse id
  | .task _ => inferInstanceAs (Decidable (_ = _))
  | .accept _ | .turn _ _ | .close | .clear | .send _ | .select _ | .recv _ => .isTrue trivial

/-- The DMM task has closed its socket, and does not make a new one. -/
structure Deaf (s : System) : Prop where
  socket : s.taskSocket = .closed
  task : s.task = .loop ∨ s.task = .ended

theorem Deaf.step {s s' : System} {event : Event} {output : List Effect} (deaf : Deaf s)
    (lasts : LeavesClosed event) (taken : s.step event = some (s', output))
    : Deaf s' ∧ s'.connections.length = s.connections.length ∧ .saved ∉ output := by
  have kept {s' : System} (socket : s'.taskSocket = s.taskSocket) (task : s'.task = s.task)
      : Deaf s' := ⟨socket.trans deaf.socket, task ▸ deaf.task⟩
  rw [step_iff] at taken
  cases taken with
  | task _ taken =>
      have other {phase : TaskPhase} (here : s.task = phase)
          (neither : phase ≠ .loop ∧ phase ≠ .ended) : False := by
        rcases deaf.task with loop | ended
        · exact neither.1 (here.symm.trans loop)
        · exact neither.2 (here.symm.trans ended)
      cases taskStep_cases taken with
      | quits => exact ⟨⟨deaf.socket, .inr rfl⟩, rfl, by simp⟩
      | connects _ _ reused =>
          have fresh : _ = false := lasts
          exact absurd (reused deaf.socket) (by simp [fresh])
      | repeats => exact ⟨deaf, rfl, by simp⟩
      | recvFails here | request here | invalid here | closes here | saves here | replies here =>
          exact (other here (by simp)).elim
  | restart => exact lasts.elim
  | @accept outcome _ _ _ taken =>
      cases outcome with
      | fails =>
          obtain rfl := Option.some.inj taken
          exact ⟨kept rfl rfl, rfl, by simp⟩
      | returns =>
          obtain rfl := Option.some.inj (Option.ite_none_right_eq_some.mp taken).2
          exact ⟨kept rfl rfl, rfl, by simp⟩
      | drops =>
          obtain rfl := Option.some.inj (Option.ite_none_right_eq_some.mp taken).2
          exact ⟨kept rfl rfl, System.modify_length .., by simp⟩
  | turn reading selectFails polling =>
      obtain ⟨initialPowerUp, phase, -, same⟩ := turn_cases polling reading selectFails
      rw [same]
      exact ⟨kept rfl rfl, rfl, by simp⟩
  | close =>
      rw [System.close]
      split
      · exact ⟨kept rfl rfl, rfl, by simp⟩
      · exact ⟨kept rfl rfl, System.modify_length .., by simp⟩
  | clear => exact ⟨kept rfl rfl, rfl, by simp⟩
  | send _ taken =>
      cases send_cases taken with
      | nobody => exact ⟨kept rfl rfl, rfl, by simp⟩
      | kills => exact ⟨kept rfl rfl, List.length_map .., by simp⟩
      | asks => exact ⟨kept rfl rfl, System.modify_length .., by simp⟩
  | select _ taken =>
      rcases select_cases taken with ⟨-, rfl⟩ | rfl
      · exact ⟨kept rfl rfl, rfl, by simp⟩
      · exact ⟨kept rfl rfl, rfl, by simp⟩
  | recv _ taken =>
      cases recv_cases taken with
      | nobody | ended | closed => exact ⟨kept rfl rfl, rfl, by simp⟩
      | answer | invalid => exact ⟨kept rfl rfl, System.modify_length .., by simp⟩

/-- After a recv() that has failed the DMM task connects no more, until its service is started
again or gives the number of the closed socket to another one: the configuration is not saved,
whenever the button is pressed.
-/
theorem recv_failure_lasts {after : List (Transition System Event (List Effect))}
    {next finish : System} {env : TaskOutcomes} {output : List Effect}
    (recv : s.task = .recv) (fails : env.recvFails = true)
    (taken : s.step (.task env) = some (next, output))
    (run : Run System.step next after finish) (lasts : ∀ t ∈ after, LeavesClosed t.event)
    : .saved ∉ outputs after ∧ finish.connections.length = s.connections.length := by
  have left : next = s.leave .closed := by
    rw [step_iff] at taken
    cases taken with
    | task _ taken =>
        cases socket : s.taskSocket with
        | none | fresh | closed => simp [System.taskStep, recv, socket] at taken
        | connected c =>
            simp only [System.taskStep, recv, socket, fails, if_true] at taken
            exact (Prod.mk.inj (Option.some.inj taken)).1.symm
  have deaf : Deaf next := by
    rw [left]
    exact ⟨s.leave_taskSocket .closed, .inl (s.leave_task .closed)⟩
  rw [← s.leave_length .closed, ← left]
  clear left taken
  induction run with
  | nil => exact ⟨List.not_mem_nil, rfl⟩
  | cons taken _ ih =>
      obtain ⟨first, rest⟩ := List.forall_mem_cons.mp lasts
      obtain ⟨deaf, same, silent⟩ := deaf.step first taken
      obtain ⟨unsaved, later⟩ := ih rest deaf
      refine ⟨?_, later.trans same⟩
      rw [outputs, List.flatMap_cons]
      exact fun saved => (List.mem_append.mp saved).elim silent unsaved

/-- The DMM task connects, and its recv() fails. -/
theorem recv_failure_lasts_connected
    : .saved ∉ outputs (replay System.step
          ((replay System.step System.initial (usual.take 1)).2.leave .closed) (usual.drop 1)).1
      ∧ (replay System.step ((replay System.step System.initial (usual.take 1)).2.leave .closed)
          (usual.drop 1)).2.connections.length
        = (replay System.step System.initial (usual.take 1)).2.connections.length :=
  @recv_failure_lasts _ _ _ _ { calm with recvFails := true } [] (by decide +kernel) rfl
    (by decide +kernel) (replay_run _ _) (by decide +kernel)

end Results

end Reconn.Power.SaveProtocol
