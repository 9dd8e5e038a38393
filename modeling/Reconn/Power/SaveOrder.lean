import Reconn.Library.Simulation
import Reconn.Power.SaveProtocol

/-! A request of the power daemon is followed through the system: it is sent, received, obeyed
and answered, and it may be lost before that. Whatever the order of the steps, the effects of a
run are those of one request.
-/

namespace Reconn.Power.SaveProtocol

open TransitionRuns Simulation
open PowerDaemon (Reading Select)

-----------------------------------------------------------------------------------------
-- What becomes of a request
-----------------------------------------------------------------------------------------

/-- Where the request of the daemon is, or its answer, with the connection that it was sent
on.
-/
inductive Stage where
  | unsent
  | toTask (c : Nat)
  | saving (c : Nat)
  | replying (c : Nat)
  | toDaemon (c : Nat)
  | answered (c : Nat)
  | lost (c : Option Nat)
  deriving DecidableEq, Repr

namespace Stage

def asked : Stage → Option Nat
  | .unsent => none
  | .toTask c | .saving c | .replying c | .toDaemon c | .answered c => some c
  | .lost c => c

/-- A request is sent, received, obeyed and answered; before that it may be lost. -/
inductive Next : Stage → List Effect → Stage → Prop where
  | ask (c : Nat) : Next .unsent [.asked c] (.toTask c)
  | askNobody (c : Nat) : Next .unsent [.asked c] (.lost (some c))
  | take (c : Nat) : Next (.toTask c) [] (.saving c)
  | save (c : Nat) : Next (.saving c) [.saved] (.replying c)
  | reply (c : Nat) : Next (.replying c) [.replied] (.toDaemon c)
  | replyNobody (c : Nat) : Next (.replying c) [.replied] (.lost (some c))
  | answer (c : Nat) : Next (.toDaemon c) [.answered] (.answered c)
  | lose (stage : Stage) : Next stage [] (.lost stage.asked)

/-- All that is done about a request. -/
def course (c : Nat) : List Effect := [.asked c, .saved, .replied, .answered]

/-- What was done about a request. -/
def done : Stage → List Effect
  | .unsent => []
  | .toTask c | .saving c => (course c).take 1
  | .replying c => (course c).take 2
  | .toDaemon c => (course c).take 3
  | .answered c => course c
  | .lost _ => []

/-- The messages that a stage has on their way. -/
def messagesToTask (stage : Stage) (n : Nat) : List Message :=
  if stage = .toTask n then [.saveDmmState] else []

def messagesToDaemon (stage : Stage) (n : Nat) : List Message :=
  if stage = .toDaemon n then [.dmmSaveComplete] else []

end Stage

/-- What was put out is what a stage has done, or for a lost request the beginning of its
course.
-/
def Done (outputs : List Effect) (stage : Stage) : Prop :=
  match stage with
  | .lost none => outputs = []
  | .lost (some c) => [.asked c] <+: outputs ∧ outputs <+: Stage.course c
  | stage => outputs = stage.done

theorem Done.next {outputs output : List Effect} {stage next : Stage} (done : Done outputs stage)
    (step : Stage.Next stage output next)
    : Done (outputs ++ output) next := by
  cases step with
  | ask c | take c | save c | reply c | answer c =>
      obtain rfl := done
      rfl
  | askNobody c =>
      obtain rfl := done
      exact ⟨List.prefix_rfl, ⟨_, rfl⟩⟩
  | replyNobody c =>
      obtain rfl := done
      exact ⟨⟨_, rfl⟩, ⟨_, rfl⟩⟩
  | lose =>
      rw [List.append_nil]
      cases stage with
      | unsent => exact done
      | toTask c | saving c | replying c | toDaemon c | answered c =>
          obtain rfl := done
          exact ⟨⟨_, rfl⟩, ⟨_, rfl⟩⟩
      | lost c => exact done

theorem Done.walk {outputs more : List Effect} {stage next : Stage} (done : Done outputs stage)
    (walk : Walk Stage.Next stage more next)
    : Done (outputs ++ more) next := by
  induction walk generalizing outputs with
  | stay => rwa [List.append_nil]
  | go first _ ih =>
      rw [← List.append_assoc]
      exact ih (done.next first)

theorem Done.isPrefix {outputs : List Effect} {stage : Stage} (done : Done outputs stage)
    : ∃ c, outputs <+: Stage.course c := by
  cases stage with
  | unsent =>
      obtain rfl := done
      exact ⟨0, List.nil_prefix⟩
  | toTask c | saving c | replying c | toDaemon c | answered c =>
      obtain rfl := done
      exact ⟨c, ⟨_, rfl⟩⟩
  | lost c =>
      cases c with
      | none =>
          obtain rfl := done
          exact ⟨0, List.nil_prefix⟩
      | some c => exact ⟨c, done.2⟩

/-- Only a whole course has the answer. -/
theorem Done.eq_course {outputs : List Effect} {stage : Stage} {c : Nat}
    (done : Done outputs stage) (asked : .asked c ∈ outputs) (answered : .answered ∈ outputs)
    : outputs = Stage.course c := by
  obtain ⟨d, starts⟩ := done.isPrefix
  rw [← List.mem_inits] at starts
  simp only [Stage.course, List.inits, List.map_cons, List.map_nil, List.mem_cons,
    List.not_mem_nil, or_false] at starts
  rcases starts with rfl | rfl | rfl | rfl | rfl
  · cases asked
  · simp at answered
  · simp at answered
  · simp at answered
  · obtain rfl : c = d := by simpa using asked
    rfl

-----------------------------------------------------------------------------------------
-- The system follows the request
-----------------------------------------------------------------------------------------

/-- The daemon has not sent the request yet. -/
def DaemonPhase.early : DaemonPhase → Bool
  | .polling | .closing | .clearing | .sending _ | .killed => true
  | .selecting _ | .receiving _ | .off => false

/-- The daemon waits for the answer. -/
def DaemonPhase.waits : DaemonPhase → Bool
  | .selecting _ | .receiving _ => true
  | .polling | .closing | .clearing | .sending _ | .off | .killed => false

/-- A stage is that of a system: its messages are all that are on their way, the DMM task is
at dmmSaveConfig() or at its answer exactly in the stages for that, and the daemon waits or
has ended once the request was sent.
-/
structure At (s : System) (stage : Stage) : Prop where
  toTask : ∀ n, (s.connection n).toTask = stage.messagesToTask n
  toDaemon : ∀ n, (s.connection n).toDaemon = stage.messagesToDaemon n
  saving : s.task = .saving ↔ ∃ c, stage = .saving c
  replying : s.task = .replying ↔ ∃ c, stage = .replying c
  working : ∀ c, stage = .saving c ∨ stage = .replying c → s.taskSocket = .connected c
  sent : stage ≠ .unsent → s.daemon.early = false
  unsent : stage = .unsent → s.daemon.waits = false

/-- The step lemmas below follow one event each. -/
abbrev Followed (s' : System) (stage : Stage) (output : List Effect) : Prop :=
  ∃ next, Walk Stage.Next stage output next ∧ At s' next

section Steps

variable {s s' : System} {stage : Stage} {output : List Effect}

theorem At.followed (here : At s' stage) : Followed s' stage [] := ⟨stage, .stay stage, here⟩

theorem At.initial : At .initial .unsent where
  toTask _ := rfl
  toDaemon _ := rfl
  saving := by simp [System.initial]
  replying := by simp [System.initial]
  working := by simp
  sent := by simp
  unsent _ := rfl

/-- A step that moves no message and no part of the answer stays in the stage. -/
theorem At.stays (here : At s stage)
    (toTask : ∀ n, (s'.connection n).toTask = (s.connection n).toTask)
    (toDaemon : ∀ n, (s'.connection n).toDaemon = (s.connection n).toDaemon)
    (task : s'.task = s.task ∧ s'.taskSocket = s.taskSocket)
    (sent : s.daemon.early = false → s'.daemon.early = false)
    (unsent : s.daemon.waits = false → s'.daemon.waits = false)
    : At s' stage where
  toTask n := (toTask n).trans (here.toTask n)
  toDaemon n := (toDaemon n).trans (here.toDaemon n)
  saving := by rw [task.1, here.saving]
  replying := by rw [task.1, here.replying]
  working c at_work := task.2.trans (here.working c at_work)
  sent later := sent (here.sent later)
  unsent first := unsent (here.unsent first)

/-- The DMM task is neither at dmmSaveConfig() nor at its answer. -/
def Stage.rests : Stage → Bool
  | .saving _ | .replying _ => false
  | .unsent | .toTask _ | .toDaemon _ | .answered _ | .lost _ => true

theorem At.rests_iff (here : At s stage)
    : stage.rests = true ↔ s.task ≠ .saving ∧ s.task ≠ .replying := by
  rw [ne_eq, ne_eq, here.saving, here.replying]
  cases stage <;> simp [Stage.rests]

/-- The stage of a request that was sent, while the DMM task does not work on it. -/
theorem At.of_rests {stage : Stage} (rests : stage.rests = true) (later : stage ≠ .unsent)
    (task : s.task ≠ .saving ∧ s.task ≠ .replying) (sent : s.daemon.early = false)
    (toTask : ∀ n, (s.connection n).toTask = stage.messagesToTask n)
    (toDaemon : ∀ n, (s.connection n).toDaemon = stage.messagesToDaemon n)
    : At s stage where
  toTask := toTask
  toDaemon := toDaemon
  saving := iff_of_false task.1 (by rintro ⟨c, rfl⟩; cases rests)
  replying := iff_of_false task.2 (by rintro ⟨c, rfl⟩; cases rests)
  working := by rintro c (rfl | rfl) <;> cases rests
  sent _ := sent
  unsent first := absurd first later

/-- While the DMM task does not work on the request, it may do what moves no message. -/
theorem At.idles (here : At s stage) (rests : stage.rests = true)
    (toTask : ∀ n, (s'.connection n).toTask = (s.connection n).toTask)
    (toDaemon : ∀ n, (s'.connection n).toDaemon = (s.connection n).toDaemon)
    (task : s'.task ≠ .saving ∧ s'.task ≠ .replying) (daemon : s'.daemon = s.daemon)
    : At s' stage where
  toTask n := (toTask n).trans (here.toTask n)
  toDaemon n := (toDaemon n).trans (here.toDaemon n)
  saving := iff_of_false task.1 (by rintro ⟨c, rfl⟩; cases rests)
  replying := iff_of_false task.2 (by rintro ⟨c, rfl⟩; cases rests)
  working := by rintro c (rfl | rfl) <;> cases rests
  sent := daemon ▸ here.sent
  unsent := daemon ▸ here.unsent

/-- What the daemon has not received when it closes its end is lost. -/
theorem At.daemonCloses_followed (here : At s stage) (c : Nat)
    : Followed (s.modify c Connection.daemonCloses) stage [] := by
  have toTask n : ((s.modify c Connection.daemonCloses).connection n).toTask
      = (s.connection n).toTask :=
    s.modify_keeps Connection.toTask Connection.daemonCloses (fun _ => rfl) c n
  have toDaemon n : ((s.modify c Connection.daemonCloses).connection n).toDaemon
      = if n = c then [] else (s.connection n).toDaemon := by
    rw [System.connection_modify s rfl, apply_ite Connection.toDaemon]
    rfl
  by_cases there : stage = .toDaemon c
  · subst there
    refine ⟨.lost (some c), .single (.lose _), .of_rests rfl (by simp)
      (here.rests_iff.mp rfl) (here.sent (by simp)) (fun n => ?_) fun n => ?_⟩
    · rw [toTask, here.toTask]
      rfl
    · rw [toDaemon, here.toDaemon, Stage.messagesToDaemon, Stage.messagesToDaemon]
      grind
  · refine At.followed (here.stays toTask (fun n => ?_) ⟨rfl, rfl⟩ id id)
    rw [toDaemon, here.toDaemon, Stage.messagesToDaemon]
    grind

theorem accept_followed {outcome : Accept} (here : At s stage)
    (taken : s.accept outcome = some s')
    : Followed s' stage [] := by
  cases outcome with
  | fails =>
      obtain rfl := Option.some.inj taken
      exact At.followed (here.stays (fun _ => rfl) (fun _ => rfl) ⟨rfl, rfl⟩ id id)
  | returns =>
      obtain rfl := Option.some.inj (Option.ite_none_right_eq_some.mp taken).2
      exact At.followed (here.stays (fun _ => rfl) (fun _ => rfl) ⟨rfl, rfl⟩ id id)
  | drops =>
      obtain rfl := Option.some.inj (Option.ite_none_right_eq_some.mp taken).2
      obtain ⟨next, walk, there⟩ := here.daemonCloses_followed s.accepted
      exact ⟨next, walk, there.stays (fun _ => rfl) (fun _ => rfl) ⟨rfl, rfl⟩ id id⟩

theorem select_followed {c : Nat} {outcome : Select} (here : At s stage)
    (waits : s.daemon.waits = true) (taken : s.select c outcome = some s')
    : Followed s' stage [] := by
  have ends {phase : DaemonPhase} (other : phase.early = false)
      : Followed { s with daemon := phase } stage [] :=
    At.followed (here.stays (fun _ => rfl) (fun _ => rfl) ⟨rfl, rfl⟩ (fun _ => other)
      fun quiet => absurd (waits.symm.trans quiet) (by decide))
  rcases select_cases taken with ⟨-, rfl⟩ | rfl
  · exact ends rfl
  · exact ends rfl

theorem turn_followed {reading : Reading} {selectFails : Bool} (here : At s stage)
    (polling : s.daemon = .polling)
    : Followed (s.turn reading selectFails) stage [] := by
  obtain ⟨initialPowerUp, phase, ends, same⟩ := turn_cases polling reading selectFails
  rw [same]
  refine At.followed (here.stays (fun _ => rfl) (fun _ => rfl) ⟨rfl, rfl⟩ ?_ ?_)
  · simp [polling, DaemonPhase.early]
  · cases ends <;> exact fun _ => rfl

theorem close_followed (here : At s stage) (closing : s.daemon = .closing)
    : Followed s.close stage [] := by
  have early : s.daemon.early = true := by rw [closing]; rfl
  unfold System.close
  cases s.dmmSocketFd with
  | none =>
      exact At.followed (here.stays (fun _ => rfl) (fun _ => rfl) ⟨rfl, rfl⟩
        (fun later => absurd (early.symm.trans later) (by decide)) fun _ => rfl)
  | some c =>
      obtain ⟨next, walk, there⟩ := here.daemonCloses_followed c
      exact ⟨next, walk, there.stays (fun _ => rfl) (fun _ => rfl) ⟨rfl, rfl⟩
        (fun later => absurd (early.symm.trans later) (by decide)) fun _ => rfl⟩

theorem clear_followed (here : At s stage) (clearing : s.daemon = .clearing)
    : Followed { s with dmmSocketFd := none, daemon := .polling } stage [] :=
  At.followed (here.stays (fun _ => rfl) (fun _ => rfl) ⟨rfl, rfl⟩
    (by simp [clearing, DaemonPhase.early]) fun _ => rfl)

/-- Before the request there is none, and no answer. -/
theorem At.unsent_of_early (here : At s stage) (early : s.daemon.early = true)
    : stage = .unsent := by
  by_contra later
  exact Bool.false_ne_true ((here.sent later).symm.trans early)

theorem At.kill (here : At s .unsent) : At s.kill .unsent where
  toTask n := by
    have there := here.toTask n
    rw [System.connection, System.kill, System.connection_map _ _ rfl]
    exact there
  toDaemon n := by
    rw [System.connection, System.kill, System.connection_map _ _ rfl]
    rfl
  saving := here.saving
  replying := here.replying
  working := here.working
  sent := by simp
  unsent _ := rfl

/-- The request is sent, to an open end or to none. -/
theorem send_followed {c : Nat} {kills : Bool} (here : At s stage)
    (sending : s.daemon = .sending c) (taken : s.send c kills = some (s', output))
    : Followed s' stage output := by
  obtain rfl := here.unsent_of_early (by rw [sending]; rfl)
  have rests := here.rests_iff.mp rfl
  have lost {fd : Option Nat} {s' : System}
      (toTask : ∀ n, (s'.connection n).toTask = (s.connection n).toTask)
      (toDaemon : ∀ n, (s'.connection n).toDaemon = (s.connection n).toDaemon)
      (task : s'.task = s.task) (phase : s'.daemon = .selecting c) : At s' (.lost fd) :=
    .of_rests rfl (by simp) (task ▸ rests) (by rw [phase]; rfl)
      (fun n => (toTask n).trans (here.toTask n)) fun n => (toDaemon n).trans (here.toDaemon n)
  cases send_cases taken with
  | nobody =>
      exact ⟨.lost none, .single (.lose .unsent), lost (fun _ => rfl) (fun _ => rfl) rfl rfl⟩
  | kills => exact here.kill.followed
  | @asks d fd =>
      have toDaemon := s.modify_keeps Connection.toDaemon (Connection.sendToTask .saveDmmState)
        (Connection.sendToTask_toDaemon _) d
      have toTask n : ((s.modify d (Connection.sendToTask .saveDmmState)).connection n).toTask
          = if n = d ∧ (s.connection d).taskOpen then [.saveDmmState] else [] := by
        rw [System.connection_modify s rfl, apply_ite Connection.toTask,
          Connection.sendToTask_toTask, here.toTask, here.toTask]
        simp [Stage.messagesToTask, ← ite_and]
      cases reaches : (s.connection d).taskOpen with
      | true =>
          refine ⟨.toTask d, .single (.ask d), .of_rests rfl (by simp) rests rfl (fun n => ?_)
            fun n => (toDaemon n).trans (here.toDaemon n)⟩
          refine (toTask n).trans ?_
          simp [reaches, Stage.messagesToTask, eq_comm]
      | false =>
          refine ⟨.lost (some d), .single (.askNobody d), lost (fun n => ?_) toDaemon rfl rfl⟩
          refine (toTask n).trans ?_
          simp [reaches, here.toTask, Stage.messagesToTask]

/-- An answer is only received where it was sent. -/
theorem recv_followed {fd : Option Nat} {fails : Bool} (here : At s stage)
    (receiving : s.daemon = .receiving fd) (taken : s.recv fd fails = some (s', output))
    : Followed s' stage output := by
  have ends : Followed { s with daemon := .off } stage [] :=
    At.followed (here.stays (fun _ => rfl) (fun _ => rfl) ⟨rfl, rfl⟩ (fun _ => rfl) fun _ => rfl)
  cases recv_cases taken with
  | nobody | ended | closed => exact ends
  | @answer c rest next =>
      have there := here.toDaemon c
      rw [Stage.messagesToDaemon, next] at there
      split_ifs at there with same
      subst same
      obtain rfl := (List.cons.inj there).2
      have toTask := s.modify_keeps Connection.toTask Connection.daemonReceives (fun _ => rfl) c
      refine ⟨.answered c, .single (.answer c), .of_rests rfl (by simp)
        (here.rests_iff.mp rfl) rfl (fun n => (toTask n).trans (here.toTask n)) fun n => ?_⟩
      refine (congrArg Connection.toDaemon (System.connection_modify s rfl c n)).trans ?_
      rw [apply_ite Connection.toDaemon, Connection.daemonReceives, next, here.toDaemon,
        Stage.messagesToDaemon, Stage.messagesToDaemon]
      grind
  | @invalid c rest next =>
      have there := here.toDaemon c
      rw [Stage.messagesToDaemon, next] at there
      split_ifs at there
      cases (List.cons.inj there).1

/-- What the DMM task has not answered when it closes its end is lost. -/
theorem At.leave_followed (here : At s stage) (taskSocket : TaskSocket)
    : Followed (s.leave taskSocket) stage [] := by
  have toDaemon n : ((s.leave taskSocket).connection n).toDaemon = (s.connection n).toDaemon := by
    rw [System.leave_connection]
    split_ifs <;> rfl
  have toTask n : ((s.leave taskSocket).connection n).toTask
      = if s.taskSocket = .connected n then [] else (s.connection n).toTask := by
    rw [System.leave_connection, apply_ite Connection.toTask]
    rfl
  have lost {c : Nat} (later : stage ≠ .unsent) (mine : s.taskSocket = .connected c)
      (toOthers : ∀ n, n ≠ c → stage.messagesToTask n = [])
      (unanswered : ∀ n, stage.messagesToDaemon n = [])
      : Followed (s.leave taskSocket) stage [] := by
    refine ⟨.lost stage.asked, .single (.lose stage), .of_rests rfl (by simp) (by simp)
      (by simpa using here.sent later) (fun n => ?_) fun n => ?_⟩
    · rw [toTask, mine, here.toTask]
      grind [Stage.messagesToTask]
    · exact (toDaemon n).trans ((here.toDaemon n).trans (unanswered n))
  have kept (rests : stage.rests = true)
      (unread : ∀ n, s.taskSocket = .connected n → stage.messagesToTask n = [])
      : Followed (s.leave taskSocket) stage [] := by
    refine At.followed (here.idles rests (fun n => ?_) toDaemon (by simp) (by simp))
    rw [toTask, here.toTask]
    split_ifs with mine
    · exact (unread n mine).symm
    · rfl
  cases stage with
  | unsent | toDaemon | answered | lost => exact kept rfl fun _ _ => rfl
  | saving c =>
      exact lost (by simp) (here.working c (.inl rfl)) (fun _ _ => rfl) fun _ => rfl
  | replying c =>
      exact lost (by simp) (here.working c (.inr rfl)) (fun _ _ => rfl) fun _ => rfl
  | toTask c =>
      by_cases mine : s.taskSocket = .connected c
      · refine lost (by simp) mine (fun n other => if_neg ?_) fun _ => rfl
        exact fun same => other (Stage.toTask.inj same).symm
      · refine kept rfl fun n connected => if_neg ?_
        rintro ⟨⟩
        exact mine connected

/-- A new connection has nothing on its way. -/
theorem At.connect (here : At s stage) (connectFails : Bool) (loop : s.task = .loop)
    : At (s.connect connectFails) stage := by
  have rests := here.rests_iff.mpr (by simp [loop])
  have absent := System.connection_of_length_le (s := s) le_rfl
  unfold System.connect
  split_ifs
  · exact here.idles rests (fun _ => rfl) (fun _ => rfl) (by simp [loop]) rfl
  · refine here.idles rests (fun n => ?_) (fun n => ?_) (by simp) rfl
    · refine (congrArg Connection.toTask (s.connection_append n)).trans ?_
      split_ifs with same
      · rw [same, absent]
        rfl
      · rfl
    · refine (congrArg Connection.toDaemon (s.connection_append n)).trans ?_
      split_ifs with same
      · rw [same, absent]
        rfl
      · rfl

theorem task_followed {env : TaskOutcomes} (here : At s stage)
    (taken : s.taskStep env = some (s', output))
    : Followed s' stage output := by
  cases taskStep_cases taken with
  | quits loop =>
      have rests := here.rests_iff.mpr (by simp [loop])
      exact At.followed (here.idles rests (fun _ => rfl) (fun _ => rfl) (by simp) rfl)
  | connects loop => exact (here.connect _ loop).followed
  | repeats => exact here.followed
  | recvFails => exact here.leave_followed .closed
  | @request c rest recv socket next =>
      have there := here.toTask c
      rw [Stage.messagesToTask, next] at there
      split_ifs at there with same
      subst same
      obtain rfl := (List.cons.inj there).2
      refine ⟨.saving c, .single (.take c), fun n => ?_, fun n => ?_, by simp, by simp, ?_,
        fun _ => here.sent (by simp), by simp⟩
      · refine (congrArg Connection.toTask (System.connection_modify s rfl c n)).trans ?_
        rw [apply_ite Connection.toTask, Connection.taskReceives, next, here.toTask,
          Stage.messagesToTask, Stage.messagesToTask]
        grind
      · exact (s.modify_keeps Connection.toDaemon Connection.taskReceives (fun _ => rfl) c
          n).trans (here.toDaemon n)
      · rintro d (same | ⟨⟨⟩⟩)
        rw [← Stage.saving.inj same]
        exact socket
  | @invalid c rest recv socket next =>
      -- The only message that comes to the DMM task is the request.
      have there := here.toTask c
      rw [Stage.messagesToTask, next] at there
      split_ifs at there
      cases (List.cons.inj there).1
  | closes => exact here.leave_followed .none
  | saves saving =>
      obtain ⟨c, rfl⟩ := here.saving.mp saving
      refine ⟨.replying c, .single (.save c), here.toTask, here.toDaemon, by simp, by simp, ?_,
        fun _ => here.sent (by simp), by simp⟩
      rintro d (⟨⟨⟩⟩ | same)
      rw [← Stage.replying.inj same]
      exact here.working c (.inl rfl)
  | @replies d replying socket =>
      obtain ⟨c, rfl⟩ := here.replying.mp replying
      obtain rfl := TaskSocket.connected.inj (socket.symm.trans (here.working c (.inr rfl)))
      have toTask := s.modify_keeps Connection.toTask (Connection.sendToDaemon .dmmSaveComplete)
        (Connection.sendToDaemon_toTask _) d
      have toDaemon n : ((s.modify d (Connection.sendToDaemon .dmmSaveComplete)).connection
          n).toDaemon
          = if n = d ∧ (s.connection d).daemonOpen then [.dmmSaveComplete] else [] := by
        rw [System.connection_modify s rfl, apply_ite Connection.toDaemon,
          Connection.sendToDaemon_toDaemon, here.toDaemon, here.toDaemon]
        simp [Stage.messagesToDaemon, ← ite_and]
      cases reaches : (s.connection d).daemonOpen with
      | true =>
          refine ⟨.toDaemon d, .single (.reply d), .of_rests rfl (by simp) (by simp)
            (here.sent (by simp)) (fun n => (toTask n).trans (here.toTask n)) fun n => ?_⟩
          refine (toDaemon n).trans ?_
          simp [reaches, Stage.messagesToDaemon, eq_comm]
      | false =>
          refine ⟨.lost (some d), .single (.replyNobody d), .of_rests rfl (by simp) (by simp)
            (here.sent (by simp)) (fun n => (toTask n).trans (here.toTask n)) fun n => ?_⟩
          refine (toDaemon n).trans ?_
          simp [reaches, Stage.messagesToDaemon]

/-- The system follows what becomes of a request. -/
theorem step_followed : Follows System.step Stage.Next At := by
  intro s event s' output stage here taken
  rw [step_iff] at taken
  cases taken with
  | task _ taken => exact task_followed here taken
  | restart => exact here.leave_followed .none
  | accept _ _ taken => exact accept_followed here taken
  | turn _ _ polling => exact turn_followed here polling
  | close closing => exact close_followed here closing
  | clear clearing => exact clear_followed here clearing
  | send sending taken => exact send_followed here sending taken
  | select selecting taken => exact select_followed here (by rw [selecting]; rfl) taken
  | recv receiving taken => exact recv_followed here receiving taken

end Steps

/-- After every run the system is in a stage that has done what was put out. -/
theorem exists_stage {transitions : List (Transition System Event (List Effect))}
    {finish : System} (run : Run System.step .initial transitions finish)
    : ∃ stage, Done (outputs transitions) stage ∧ At finish stage := by
  obtain ⟨stage, walk, here⟩ := step_followed.run run At.initial
  have done : Done [] .unsent := rfl
  exact ⟨stage, done.walk walk, here⟩

/-- In every run what is done about the configuration is the beginning of one course: the
daemon asks, the DMM task saves and replies, and the daemon has the answer.
-/
theorem effects_in_order {transitions : List (Transition System Event (List Effect))}
    {finish : System} (run : Run System.step .initial transitions finish)
    : ∃ c, outputs transitions <+: Stage.course c := by
  obtain ⟨stage, done, -⟩ := exists_stage run
  exact done.isPrefix

/-- The DMM task connects, and the button is pressed. -/
def usual : List Event :=
  [
    .task calm, .accept .returns, .turn (.value 48) false, .turn (.value 49) false, .send false,
    .task calm, .select .timedOut, .task calm, .task calm, .recv false
  ]

theorem effects_in_order_usual
    : ∃ c, outputs (replay System.step System.initial usual).1 <+: Stage.course c :=
  effects_in_order (replay_run System.initial usual)

/-- The request is answered although select() has timed out. -/
example : outputs (replay System.step System.initial usual).1 = Stage.course 0 := by decide +kernel

end Reconn.Power.SaveProtocol
