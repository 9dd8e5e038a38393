import Reconn.Client.Mastership

/-! The count of active clients. It is the number of entries in use as long as the remote
monitor gives back what it takes and index 0 is not taken twice: the client tasks themselves
pair their calls on every path.
-/

namespace Reconn.Client

open TransitionRuns

/-- The count is the number of entries in use, and every live client task has an entry of
its own, which is reserved or registered for its context.
-/
structure Registry.Fits (r : Registry) (task : Addr → Option Task) : Prop where
  counted : r.numberOfActiveClients = r.nonNullEntries
  inside : ∀ a t, task a = some t → t.index ∈ indices
  owned
    : ∀ a t, task a = some t
        → r.activeClientsList t.index = .reserved ∨ r.activeClientsList t.index = .registered a
  distinct : ∀ a b t u, task a = some t → task b = some u → t.index = u.index → a = b

/-- Every task of the second table is one of the first, with the same index. -/
def SubTasks (task task' : Addr → Option Task) : Prop :=
  ∀ b t, task' b = some t → ∃ u, task b = some u ∧ u.index = t.index

namespace Registry.Fits

variable {r r' : Registry} {task task' : Addr → Option Task}

/-- No task stands at a free index. -/
theorem index_ne_of_free (fits : r.Fits task) {i : Int} (free : r.activeClientsList i = .free)
    {a : Addr} {t : Task} (runs : task a = some t)
    : t.index ≠ i := by
  rintro rfl
  rcases fits.owned a t runs with reserved | registered
  · simp [free] at reserved
  · simp [free] at registered

/-- A task's own entry is in use. -/
theorem used (fits : r.Fits task) {a : Addr} {t : Task} (runs : task a = some t)
    : r.activeClientsList t.index ≠ .free :=
  fun free => fits.index_ne_of_free free runs rfl

/-- Fewer tasks fit the same entries. -/
theorem of_subTasks (fits : r.Fits task)
    (entries : r'.activeClientsList = r.activeClientsList)
    (number : r'.numberOfActiveClients = r.numberOfActiveClients) (sub : SubTasks task task')
    : r'.Fits task' where
  counted := by
    rw [number, fits.counted]
    simp only [nonNullEntries, entries]
  inside := by
    intro a t runs
    obtain ⟨u, old, same⟩ := sub a t runs
    exact same ▸ fits.inside a u old
  owned := by
    intro a t runs
    obtain ⟨u, old, same⟩ := sub a t runs
    rw [entries, ← same]
    exact fits.owned a u old
  distinct := by
    intro a b t u first second index
    obtain ⟨t', old, same⟩ := sub a t first
    obtain ⟨u', old', same'⟩ := sub b u second
    exact fits.distinct a b t' u' old old' (by omega)

/-- An entry that no other task stands at can be filled for its task. -/
theorem of_update (fits : r.Fits task) {i : Int} {entry : ClientEntry}
    (entries : r'.activeClientsList = Function.update r.activeClientsList i entry)
    (counted : r'.numberOfActiveClients = r'.nonNullEntries)
    (owner : ∀ a t, task a = some t → t.index = i → entry = .reserved ∨ entry = .registered a)
    : r'.Fits task where
  counted := counted
  inside := fits.inside
  distinct := fits.distinct
  owned := by
    intro a t runs
    rw [entries]
    by_cases here : t.index = i
    · rw [here, Function.update_self]
      exact owner a t runs here
    · rw [Function.update_of_ne here]
      exact fits.owned a t runs

/-- Reserving a free index. -/
theorem reserve (fits : r.Fits task) {i : Int} (inside : i ∈ indices)
    (free : r.activeClientsList i = .free)
    (entries : r'.activeClientsList = Function.update r.activeClientsList i .reserved)
    (number : r'.numberOfActiveClients = r.numberOfActiveClients + 1)
    : r'.Fits task := by
  refine fits.of_update entries ?_ fun _ _ _ _ => .inl rfl
  have filled := countP_fill indices_nodup inside free (by simp : ClientEntry.reserved ≠ .free)
  rw [number, fits.counted]
  simp only [nonNullEntries, entries, filled]
  omega

/-- Registering the context that stands at an index in use. -/
theorem register (fits : r.Fits task) {a : Addr} {i socketFd : Int}
    (used : r.activeClientsList i ≠ .free)
    (registered : r.reconnRegisterClientApp a i socketFd = some r')
    (owner : ∀ b t, task b = some t → t.index = i → b = a)
    : r'.Fits task := by
  obtain ⟨entries, number⟩ := reconnRegisterClientApp_spec registered
  refine fits.of_update entries ?_ fun b t runs here => .inr (by rw [owner b t runs here])
  have replaced := countP_replace indices used (by simp : ClientEntry.registered a ≠ .free)
  rw [number, fits.counted]
  simp only [nonNullEntries, entries, replaced]

/-- Giving back an index in use that no task stands at. -/
theorem giveBack (fits : r.Fits task) {i : Int} (inside : i ∈ indices)
    (used : r.activeClientsList i ≠ .free) (unowned : ∀ a t, task a = some t → t.index ≠ i)
    : ((r.reconnReturnClientIndex i).reconnDeRegisterClientApp i).Fits task := by
  obtain ⟨entries, number⟩ := r.return_deRegister_spec inside
  refine fits.of_update entries ?_ fun a t runs here => absurd here (unowned a t runs)
  have emptied := countP_empty indices_nodup inside used
  rw [number, fits.counted]
  simp only [nonNullEntries, entries]
  omega

/-- A task that leaves gives its index back. -/
theorem leave (fits : r.Fits task) {a : Addr} {t : Task} (runs : task a = some t)
    : ((r.reconnReturnClientIndex t.index).reconnDeRegisterClientApp t.index).Fits
        (Function.update task a none) := by
  have others : r.Fits (Function.update task a none) := by
    refine fits.of_subTasks rfl rfl fun b u left => ?_
    rcases update_apply_eq_iff.mp left with ⟨-, none⟩ | ⟨-, old⟩
    · cases none
    · exact ⟨u, old, rfl⟩
  refine others.giveBack (fits.inside a t runs) (fits.used runs) fun b u left same => ?_
  rcases update_apply_eq_iff.mp left with ⟨-, none⟩ | ⟨other, old⟩
  · cases none
  · exact other (fits.distinct b a u t old runs same)

/-- A new task starts at a reserved index that no other task stands at. -/
theorem start (fits : r.Fits task) {a : Addr} {t : Task} (inside : t.index ∈ indices)
    (reserved : r.activeClientsList t.index = .reserved)
    (unowned : ∀ b u, task b = some u → u.index ≠ t.index)
    : r.Fits (Function.update task a (some t)) where
  counted := fits.counted
  inside := by
    intro b u runs
    rcases update_apply_eq_iff.mp runs with ⟨-, new⟩ | ⟨-, old⟩
    · obtain rfl := Option.some.inj new
      exact inside
    · exact fits.inside b u old
  owned := by
    intro b u runs
    rcases update_apply_eq_iff.mp runs with ⟨-, new⟩ | ⟨-, old⟩
    · obtain rfl := Option.some.inj new
      exact .inl reserved
    · exact fits.owned b u old
  distinct := by
    intro b d u v first second same
    rcases update_apply_eq_iff.mp first with ⟨rfl, new⟩ | ⟨-, old⟩
    · obtain rfl := Option.some.inj new
      rcases update_apply_eq_iff.mp second with ⟨rfl, -⟩ | ⟨-, old'⟩
      · rfl
      · exact absurd same.symm (unowned d v old')
    · rcases update_apply_eq_iff.mp second with ⟨rfl, new⟩ | ⟨-, old'⟩
      · obtain rfl := Option.some.inj new
        exact absurd same (unowned b u old)
      · exact fits.distinct b d u v old old' same

end Registry.Fits

-----------------------------------------------------------------------------------------
-- What a turn does to the tables
-----------------------------------------------------------------------------------------

/-- Only an accepted connection and an insertion make a new task, and a task keeps its
index.
-/
theorem Effect.subTasks {s s' : State} {event : Event} (effect : Effect s event s')
    (noAccept : ∀ fd mem, event ≠ .accept fd (some mem) true)
    (noInsertion : ∀ a, event ≠ .createInserted (some a) true)
    : SubTasks s.task s'.task := by
  intro b t found
  cases effect.taskOrigin found with
  | kept old => exact ⟨t, old, rfl⟩
  | moded old index _ => exact ⟨_, old, index.symm⟩
  | accepted => exact absurd rfl (noAccept _ _)
  | inserted => exact absurd rfl (noInsertion _)

/-- (TurnTables s a c s') is what a turn of the task on `a` can do to the tables. -/
inductive State.TurnTables (s : State) (a : Addr) (c : Context) (s' : State) : Prop where
  | keeps (registry : s'.registry = s.registry)
  | leaves
      (registry : s'.registry
        = (s.registry.reconnReturnClientIndex c.index).reconnDeRegisterClientApp c.index)
      (task : s'.task = s.without a)
  | registers {socketFd : Int}
      (registered
        : s.registry.reconnRegisterClientApp a c.index socketFd = some s'.registry)

namespace State

variable {s : State} {a : Addr} {c : Context} {env : Outcomes} {p : Packet}

@[simp] theorem leave_registry
    : (s.leave a c).registry
      = (s.registry.reconnReturnClientIndex c.index).reconnDeRegisterClientApp c.index := by
  simp [leave]

/-- Every way out of the loop but one gives the index back. -/
theorem leave_tables : s.TurnTables a c (s.leave a c) := .leaves leave_registry leave_task

theorem registerClient_tables {s₁ : State} {c₁ : Context} (actions : List Action)
    (registry : s₁.registry = s.registry) (index : c₁.index = c.index)
    : s.TurnTables a c (s₁.registerClient a c₁ actions).1 := by
  unfold registerClient
  rw [registry, index]
  cases registered : s.registry.reconnRegisterClientApp a c.index c₁.socketFd with
  | some registry => exact .registers registered
  | none =>
      simp only
      split_ifs <;> exact .keeps registry

theorem masterModeReq_tables : s.TurnTables a c (s.masterModeReq env a c p).1 := by
  unfold masterModeReq
  split_ifs
  · exact .keeps rfl
  · unfold grantMastership
    by_cases fails : env.mqOpen = -1
    · rw [if_pos fails]
      exact .keeps rfl
    · rw [if_neg fails]
      exact registerClient_tables _ rfl rfl
  · exact registerClient_tables _ rfl rfl

theorem masterModeResignResp_tables {result : State × List Action}
    (answered : s.masterModeResignResp a c p = some result)
    : result.1.registry = s.registry := by
  cases masterModeResignResp_comes answered with
  | hands success pointer handed =>
      obtain ⟨other, -, rfl⟩ := Option.map_eq_some_iff.mp handed
      rfl
  | denies denied pointer found => rfl
  | neither => rfl

theorem webServiceIpAndPort_registry
    : (s.webServiceIpAndPort env a c p).1.registry = s.registry := by
  unfold webServiceIpAndPort
  simp only
  split_ifs
  · rfl
  · rfl
  · rfl
  · exact (remoteMonitorActivateYes_same env s).2.2.2

/-- A command that is defined resigns, registers or leaves the tables alone. -/
theorem command_tables {result : State × List Action}
    (handled : s.command env a c p = some result)
    : s.TurnTables a c result.1 := by
  unfold command at handled
  split at handled
  · obtain rfl := Option.some.inj handled
    unfold clientResignReq
    simp only
    split_ifs
    · exact .keeps rfl
    · exact .leaves (leave_registry (a := a)) leave_task
    · exact leave_tables
  · obtain rfl := Option.some.inj handled
    exact masterModeReq_tables
  · obtain rfl := Option.some.inj handled
    unfold masterModeResignReq
    simp only
    split_ifs <;> exact .keeps rfl
  · exact .keeps (masterModeResignResp_tables handled)
  · obtain rfl := Option.some.inj handled
    rcases swUpgradeReq_cases env s a c p with ends | stays
    · exact .keeps (by rw [ends]; rfl)
    · exact .keeps (by rw [stays]; rfl)
  · obtain rfl := Option.some.inj handled
    exact .keeps webServiceIpAndPort_registry
  · obtain ⟨_, -, rfl⟩ := Option.map_eq_some_iff.mp handled
    exact .keeps rfl

/-- A turn gives the index back, registers the client or leaves the tables alone. Witness:
the ways a turn can go.
-/
theorem takeTurn_tables (env : Outcomes) (s : State) (a : Addr) (c : Context) (way : Turn)
    : s.TurnTables a c (s.takeTurn env a c way).1 := by
  cases way with
  | closed =>
      unfold takeTurn socketClosed
      simp only
      split_ifs <;> exact .leaves (leave_registry (a := a)) leave_task
  | failed =>
      unfold takeTurn readError
      simp only
      split_ifs <;> exact .leaves (leave_registry (a := a)) leave_task
  | overrun => exact .keeps rfl
  | stalled => exact .keeps rfl
  | takes message =>
      cases message with
      | masterExtracted => exact .leaves (leave_registry (a := a)) leave_task
      | _ => exact .keeps rfl
  | idle =>
      unfold takeTurn idlePoll
      simp only
      split_ifs
      · exact .leaves (leave_registry (a := a)) leave_task
      · exact .keeps rfl
      · exact .keeps rfl
  | dispatches p =>
      unfold takeTurn dispatch
      simp only
      split_ifs
      · exact .keeps rfl
      · cases handled : s.command env a { c with noDataCount := 0 } p with
        | none => exact .keeps rfl
        | some result =>
            cases command_tables handled with
            | keeps registry => exact .keeps registry
            | leaves registry task => exact .leaves registry task
            | registers registered => exact .registers registered

-----------------------------------------------------------------------------------------
-- Steps that keep the count
-----------------------------------------------------------------------------------------

/-- The event asks for index 0, whose entry is not looked at. -/
def reservesZero (s : State) : Event → Prop
  | .createInserted mem _ => mem ≠ none
  | .remoteSendData => ∃ r c, s.remoteContext = some (r, c) ∧ c.index = 0
  | _ => False

/-- The event runs remoteMonitorCleanup. -/
def cleansUp (s : State) : Event → Prop
  | .remoteDeactivate | .remoteStart none => s.remote.remoteMonitorActive = true
  | .remoteSendData =>
      s.remote.remoteMonitorActive = true
        ∧ ∃ r c, s.remoteContext = some (r, c)
          ∧ s.registry.reconnGetFreeClientIndex c.index = none
  | _ => False

/-- A remote client that is registered at one of the entries stands at its own index, and at
most at one other entry, before that index.
-/
def RemotePlaced (s : State) (entries : List Int) : Prop :=
  ∀ i ∈ entries, ∀ a c, s.registry.activeClientsList i = .registered a
    → s.contexts a = some c → c.mode = .remoteMode
    → c.index ∈ Registry.indices
      ∧ s.registry.activeClientsList c.index = .registered a
      ∧ ∀ j ∈ entries, i < j → s.registry.activeClientsList j = .registered a → j = c.index

/-- What an event must not do for the count to stay right: RM_STOP_DATA finds the remote
client's entry in use, index 0 is asked for while its entry is in use, or the remote monitor
is cleaned up while a registered remote client does not stand at its own index.
-/
structure KeepsCount (s : State) (event : Event) : Prop where
  stopData
    : ∀ r c, event = .remoteStopData → s.remoteContext = some (r, c)
        → c.index ∈ Registry.indices → s.registry.activeClientsList c.index = .free
  indexZero
    : s.reservesZero event → s.registry.numberOfActiveClients < reconnMaxNumClients
        → s.registry.activeClientsList 0 = .free
  cleanup : s.cleansUp event → s.RemotePlaced Registry.indices

variable {s' : State}

/-- The tables fit the tasks of a state. -/
def Counted (s : State) : Prop := s.registry.Fits s.task

theorem Counted.of_eq {r : Registry} {task : Addr → Option Task} (fits : r.Fits task)
    (registry : s'.registry = r) (tasks : s'.task = task)
    : s'.Counted := by
  unfold Counted
  rw [registry, tasks]
  exact fits

/-- A turn of a client task keeps the count right. -/
theorem Turns.counted {received : Received} {way : Turn}
    (turns : s.Turns a c received env way) (counted : s.Counted)
    : (s.takeTurn env a c way).1.Counted := by
  have sub : SubTasks s.task (s.takeTurn env a c way).1.task :=
    turns.takeTurn_effect.subTasks (by simp) (by simp)
  cases s.takeTurn_tables env a c way with
  | keeps registry =>
      exact Registry.Fits.of_subTasks counted (by rw [registry]) (by rw [registry]) sub
  | leaves registry task =>
      exact .of_eq (Registry.Fits.leave counted turns.task) registry task
  | registers registered =>
      have fits := Registry.Fits.register counted
        (Registry.Fits.used counted turns.task) registered
        fun b t runs same => Registry.Fits.distinct counted b a t _ runs turns.task same
      exact fits.of_subTasks rfl rfl sub

/-- A visit of the cleanup gives a remote client's own index back, and leaves the entries to
come as the rest of the scan expects them.
-/
theorem cleanupEntry_counted {i : Int} {rest : List Int} (counted : s.Counted)
    (placed : s.WellPlaced) (ordered : ∀ j ∈ rest, i < j)
    (remotes : s.RemotePlaced (i :: rest)) (visited : s.cleanupEntry i = some s')
    : s'.Counted ∧ s'.RemotePlaced rest := by
  have later : s.RemotePlaced rest := by
    intro j member a c here allocated mode
    obtain ⟨inside, own, others⟩ :=
      remotes j (List.mem_cons_of_mem i member) a c here allocated mode
    exact ⟨inside, own, fun k member => others k (List.mem_cons_of_mem i member)⟩
  unfold cleanupEntry at visited
  split at visited
  · obtain rfl := Option.some.inj visited
    exact ⟨counted, later⟩
  · cases visited
  · rename_i a registered
    obtain ⟨c, allocated, rfl⟩ := Option.map_eq_some_iff.mp visited
    split_ifs with mode
    · obtain ⟨inside, own, others⟩ :=
        remotes i (List.mem_cons_self ..) a c registered allocated mode
      have unowned (b : Addr) (t : Task) (runs : s.task b = some t) : t.index ≠ c.index := by
        intro same
        rcases Registry.Fits.owned counted b t runs with reserved | registered
        · rw [same, own] at reserved
          cases reserved
        · rw [same, own] at registered
          obtain rfl := ClientEntry.registered.inj registered
          obtain rfl := task_asTask allocated runs
          exact (placed a _ runs).2 mode
      constructor
      · have fits := Registry.Fits.giveBack counted inside (by simp [own]) unowned
        simpa [Counted] using fits
      · intro j member b d here found remote
        have entries : ((s.returnIndex c).deRegister c).registry.activeClientsList
            = Function.update s.registry.activeClientsList c.index .free := by
          simpa using (s.registry.return_deRegister_spec inside).1
        have before {k : Int} {x : Addr}
            (here : ((s.returnIndex c).deRegister c).registry.activeClientsList k
              = .registered x)
            : k ≠ c.index ∧ s.registry.activeClientsList k = .registered x := by
          rw [entries] at here
          rcases update_apply_eq_iff.mp here with ⟨-, free⟩ | old
          · cases free
          · exact old
        obtain ⟨other, old⟩ := before here
        have allocated' : s.contexts b = some d := by simpa using found
        obtain ⟨inside', own', others'⟩ := later j member b d old allocated' remote
        have apart : d.index ≠ c.index := by
          intro same
          rw [same, own] at own'
          obtain rfl := ClientEntry.registered.inj own'
          exact other (others j (List.mem_cons_of_mem i member) (ordered j member) old)
        refine ⟨inside', ?_, fun k member less here => ?_⟩
        · rw [entries, Function.update_of_ne apart]
          exact own'
        · exact others' k member less (before here).2
    · exact ⟨counted, later⟩

/-- remoteMonitorCleanup keeps the count right. -/
theorem Counted.cleanup (counted : s.Counted) (placed : s.WellPlaced)
    (remotes : s.RemotePlaced Registry.indices) (cleaned : s.remoteMonitorCleanup = some s')
    : s'.Counted := by
  obtain ⟨swept, scanned, -, contexts, registry⟩ := remoteMonitorCleanup_scan cleaned
  have tasks {s s' : State} (contexts : s'.contexts = s.contexts) : s'.task = s.task := by
    funext a
    simp only [task, contexts]
  have final := foldlM_invariant
    (fun rest next => next.Counted ∧ next.WellPlaced ∧ rest.Pairwise (· < ·)
      ∧ next.RemotePlaced rest)
    (fun i rest state next known visited => by
      obtain ⟨counted, placed, ordered, remotes⟩ := known
      obtain ⟨first, others⟩ := List.pairwise_cons.mp ordered
      have kept := cleanupEntry_counted counted placed first remotes visited
      have same := tasks (cleanupEntry_frame visited).2
      exact ⟨kept.1, by simpa [WellPlaced, same] using placed, others, kept.2⟩)
    ⟨counted, placed, by decide, remotes⟩ scanned
  exact .of_eq final.1 registry (tasks contexts)

/-- remoteMonitorActivate(NO) keeps the count right. -/
theorem Counted.activateNo (counted : s.Counted) (placed : s.WellPlaced)
    (remotes : s.remote.remoteMonitorActive = true → s.RemotePlaced Registry.indices)
    (deactivated : s.remoteMonitorActivateNo = some s')
    : s'.Counted := by
  unfold remoteMonitorActivateNo at deactivated
  split_ifs at deactivated with active
  · exact Counted.cleanup
      (s := { s with globals := s.globals.mqSend (.rmStateChange disconnected) })
      counted placed (remotes active) deactivated
  · obtain rfl := Option.some.inj deactivated
    exact counted

/-- An index that is handed out while its entry is free can be left alone, or a task can be
started at it.
-/
theorem Counted.reserve (counted : s.Counted) {registry : Registry} {theIndex index : Int}
    (found : s.registry.reconnGetFreeClientIndex theIndex = some (registry, index))
    (free : s.registry.activeClientsList index = .free)
    : registry.Fits s.task
      ∧ ∀ a mode socketFd,
        registry.Fits (Function.update s.task a (some ⟨index, mode, socketFd⟩)) := by
  obtain ⟨inside, entries, number, -⟩ := Registry.reconnGetFreeClientIndex_spec found
  have reserved : registry.Fits s.task :=
    Registry.Fits.reserve counted inside free entries number
  refine ⟨reserved, fun a mode socketFd => reserved.start inside ?_ fun b u runs => ?_⟩
  · rw [entries, Function.update_self]
  · exact Registry.Fits.index_ne_of_free counted free runs

theorem Counted.accept {fd : Int} {mem : Option Memory} {started : Bool}
    (counted : s.Counted) (enabled : s.enabled (.accept fd mem started) = true)
    : (s.accept fd mem started).1.Counted := by
  unfold State.accept
  split
  · exact counted
  · rename_i registry index found
    obtain ⟨-, -, -, -, -, free⟩ := Registry.reconnGetFreeClientIndex_spec found
    obtain ⟨reserved, start⟩ := counted.reserve found (free (by decide))
    cases mem with
    | none => exact reserved
    | some mem =>
        have nobody := task_of_fresh (accept_fresh enabled).2
        cases started with
        | true => exact .of_eq (start mem.address .slaveMode fd) rfl (State.setContext_task _ _ _)
        | false =>
            refine .of_eq reserved rfl ((State.setContext_task _ _ _).trans ?_)
            exact without_nobody nobody

theorem Counted.createInserted {mem : Option Addr} {started : Bool}
    (counted : s.Counted) (enabled : s.enabled (.createInserted mem started) = true)
    (keeps : s.KeepsCount (.createInserted mem started))
    : (s.createInserted mem started).Counted := by
  cases mem with
  | none => exact counted
  | some a =>
      have nobody := task_of_fresh (createInserted_fresh enabled)
      unfold State.createInserted
      simp only
      split
      · refine .of_eq counted rfl ((State.setContext_task _ a _).trans ?_)
        exact without_nobody nobody
      · rename_i registry index found
        obtain ⟨-, -, -, room, zero, -⟩ := Registry.reconnGetFreeClientIndex_spec found
        have free : s.registry.activeClientsList index = .free := by
          rw [zero rfl]
          exact keeps.indexZero (by simp [reservesZero]) room
        obtain ⟨reserved, start⟩ := counted.reserve found free
        cases started with
        | true =>
            exact .of_eq (start a .insertedMasterMode s.globals.insertedMasterSocketFd) rfl
              (State.setContext_task _ a _)
        | false =>
            refine .of_eq reserved rfl ((State.setContext_task _ a _).trans ?_)
            exact without_nobody nobody

theorem Counted.remoteSendData (counted : s.Counted) (placed : s.WellPlaced)
    (keeps : s.KeepsCount .remoteSendData) (sent : s.remoteSendData = some s')
    : s'.Counted := by
  obtain ⟨⟨r, c⟩, found, sent⟩ := Option.bind_eq_some_iff.mp sent
  obtain ⟨allocated, idle, nobody⟩ := remoteContext_task found
  obtain ⟨registered, -, sent⟩ := Option.bind_eq_some_iff.mp sent
  simp only at sent
  split_ifs at sent
  · split at sent
    · rename_i full
      exact counted.activateNo placed
        (fun active => keeps.cleanup ⟨active, r, c, found, full⟩) sent
    · rename_i registry index given
      obtain ⟨inside, entries, -, room, zero, free⟩ :=
        Registry.reconnGetFreeClientIndex_spec given
      have empty : s.registry.activeClientsList index = .free := by
        by_cases asks : c.index = 0
        · rw [zero asks]
          exact keeps.indexZero ⟨r, c, found, asks⟩ room
        · exact free asks
      have reserved := (counted.reserve given empty).1
      split at sent
      · rename_i registry' done
        obtain rfl := Option.some.inj sent
        have fits := reserved.register (by simp [entries]) done
          fun b t runs same =>
            absurd same (Registry.Fits.index_ne_of_free counted empty runs)
        refine .of_eq fits rfl ((State.setContext_task _ r _).trans ?_)
        refine Eq.trans ?_ (without_nobody nobody)
        simp only [Context.task, idle]
        rfl
      · rename_i failed
        simp [Registry.reconnRegisterClientApp, (Registry.mem_indices.mp inside).2] at failed
  · obtain rfl := Option.some.inj sent
    exact counted

theorem Counted.remoteStart {mem : Option Addr} (counted : s.Counted) (placed : s.WellPlaced)
    (keeps : s.KeepsCount (.remoteStart mem))
    (enabled : s.enabled (.remoteStart mem) = true) (started : s.remoteStart mem = some s')
    : s'.Counted := by
  unfold State.remoteStart at started
  cases mem with
  | none =>
      let remote := { s.remote with created := s.remote.created - 1, aContextPtr := none }
      exact Counted.activateNo (s := { s with remote }) counted placed keeps.cleanup started
  | some a =>
      have nobody := task_of_fresh (remoteStart_fresh enabled)
      obtain rfl := Option.some.inj started
      refine .of_eq counted rfl ((State.setContext_task _ a _).trans ?_)
      exact without_nobody nobody

/-- RM_STOP_DATA may only empty an entry that is free. -/
theorem Counted.remoteStopData (counted : s.Counted) (keeps : s.KeepsCount .remoteStopData)
    (stopped : s.remoteStopData = some s')
    : s'.Counted := by
  obtain ⟨⟨r, c⟩, found, stopped⟩ := Option.bind_eq_some_iff.mp stopped
  simp only at stopped
  split_ifs at stopped with outside
  obtain rfl := Option.some.inj stopped
  have entries
      : (s.registry.reconnDeRegisterClientApp c.index).activeClientsList
          = s.registry.activeClientsList
        ∧ (s.registry.reconnDeRegisterClientApp c.index).numberOfActiveClients
          = s.registry.numberOfActiveClients := by
    unfold Registry.reconnDeRegisterClientApp
    by_cases room : c.index < reconnMaxNumClients
    · rw [if_pos room]
      have inside : c.index ∈ Registry.indices :=
        Registry.mem_indices.mpr ⟨not_lt.mp outside, room⟩
      refine ⟨Function.update_eq_self_iff.mpr ?_, rfl⟩
      exact (keeps.stopData r c rfl found inside).symm
    · rw [if_neg room]
      exact ⟨rfl, rfl⟩
  refine .of_eq (Registry.Fits.of_subTasks counted entries.1 entries.2 ?_)
    (s.deRegister_registry c) (s.deRegister_task c)
  exact fun b t runs => ⟨t, runs, rfl⟩

theorem Counted.remoteExit (counted : s.Counted) (left : s.remoteExit = some s')
    : s'.Counted := by
  unfold State.remoteExit at left
  split_ifs at left
  · obtain rfl := Option.some.inj left
    exact counted
  · obtain ⟨⟨r, c⟩, found, rfl⟩ := Option.map_eq_some_iff.mp left
    refine .of_eq counted rfl ((State.freeContext_task _ r).trans ?_)
    exact without_nobody (remoteContext_task found).2.2

/-- The start of a client task at most registers it. -/
theorem Counted.start (counted : s.Counted) (found : s.contexts a = some c)
    (starting : c.thread = .starting)
    : (s.prologue a c).1.Counted := by
  have unchanged : (s.setContext a { c with thread := .looping }).task = s.task :=
    setContext_same_task found (by simp [Context.task, starting])
  have runs : s.task a = some c.asTask := task_of_runs found (by simp [starting])
  unfold prologue
  simp only
  split_ifs
  · cases registered : s.registry.reconnRegisterClientApp a c.index c.socketFd with
    | none => exact .of_eq counted rfl unchanged
    | some registry =>
        have fits := Registry.Fits.register counted (Registry.Fits.used counted runs)
          registered fun b t other same =>
            Registry.Fits.distinct counted b a t _ other runs same
        exact .of_eq fits rfl unchanged
  · exact .of_eq counted rfl unchanged

/-- A step that may be undefined. -/
theorem Counted.undefined {result : Option State} (counted : s.Counted)
    (defined : ∀ s', result = some s' → s'.Counted)
    : (result.getD s.halt).Counted := by
  cases same : result with
  | none => exact counted
  | some s' => exact defined s' same

/-- A step that keeps to the conditions keeps the count right. Witness: the events one by
one.
-/
theorem Counted.perform {event : Event} (counted : s.Counted) (placed : s.WellPlaced)
    (keeps : s.KeepsCount event) (enabled : s.enabled event = true)
    : (s.perform event).1.Counted := by
  cases event with
  | accept fd mem started => exact counted.accept enabled
  | start a =>
      obtain ⟨c, found, starting⟩ := starting_of_enabled enabled
      simp only [State.perform, found]
      exact counted.start found starting
  | iterate a received env =>
      obtain ⟨c, turns⟩ := turns_of_enabled enabled
      simp only [State.perform, turns.found]
      exact turns.counted counted
  | iphoneInserted =>
      simp only [State.perform, masterIphoneInserted]
      split_ifs <;> exact .of_eq counted rfl rfl
  | connectTransmit fd connected =>
      simp only [State.perform, State.connectTransmit]
      split_ifs <;> exact .of_eq counted rfl rfl
  | transmitAccept fd =>
      simp only [State.perform, State.transmitAccept]
      split_ifs <;> exact .of_eq counted rfl rfl
  | createInserted mem started => exact counted.createInserted enabled keeps
  | iphoneExtracted =>
      simp only [State.perform, masterIphoneExtracted]
      split_ifs <;> exact .of_eq counted rfl rfl
  | semTimedWaitFails | semTimedWait | meterPresence | remoteConnected =>
      exact .of_eq counted rfl rfl
  | remoteStart mem => exact counted.undefined fun _ => counted.remoteStart placed keeps enabled
  | remoteSendData => exact counted.undefined fun _ => counted.remoteSendData placed keeps
  | remoteStopData => exact counted.undefined fun _ => counted.remoteStopData keeps
  | remoteDeactivate =>
      exact counted.undefined fun _ => counted.activateNo placed keeps.cleanup
  | remoteExit => exact counted.undefined fun _ => counted.remoteExit

theorem counted_initial : State.initial.Counted where
  counted := by decide
  inside := nofun
  owned := nofun
  distinct := nofun

end State

/-- The count of active clients is the number of entries in use and never exceeds the
table.
-/
structure Registry.CountsClients (r : Registry) : Prop where
  equal : r.numberOfActiveClients = r.nonNullEntries
  nonneg : 0 ≤ r.numberOfActiveClients
  bounded : r.numberOfActiveClients ≤ reconnMaxNumClients

theorem State.Counted.countsClients {s : State} (counted : s.Counted)
    : s.registry.CountsClients := by
  have equal := Registry.Fits.counted counted
  have most := s.registry.nonNullEntries_le
  exact ⟨equal, by omega, by omega⟩

/-- In a run whose steps keep to the conditions the count of active clients is right in every
reached state.
-/
theorem countsClients_of_keeps {transitions : List (Transition State Event Output)}
    {finish : State} (run : State.Runs .initial transitions finish)
    (keeps : ∀ t ∈ transitions, t.before.KeepsCount t.event)
    : (∀ t ∈ transitions, t.after.registry.CountsClients) ∧ finish.registry.CountsClients := by
  have keep (s : State) (event : Event) (s' : State) (output : Output)
      (known : s.Counted ∧ s.WellPlaced) (keeps : s.KeepsCount event)
      (taken : s.step event = some (s', output))
      : s'.Counted ∧ s'.WellPlaced := by
    obtain ⟨-, enabled, performed⟩ := State.step_eq_some taken
    have counted := known.1.perform known.2 keeps enabled
    rw [performed] at counted
    exact ⟨counted, (State.step_effect taken).wellPlaced known.2⟩
  have throughout := run.invariant keep
    ⟨State.counted_initial, State.wellPlaced_initial⟩ keeps
  exact ⟨fun t member => (throughout.1 t member).2.1.countsClients,
    throughout.2.1.countsClients⟩

/-- A WiFi master has the remote monitor started, which then receives RM_SEND_DATA. -/
def remoteData : List Event :=
  connects 1 5
    ++ [
      masterModeReq 1,
      .iterate 1 (request (0x0b, 0x01) 0) .usual,
      .remoteStart (some 2),
      .remoteSendData
    ]

/-- An event that asks for no index 0 and of the remote monitor neither a stop nor a
clean-up keeps the count.
-/
theorem State.keepsCount_of_quiet {s : State} {event : Event}
    (noStop : event ≠ .remoteStopData) (noZero : ¬ s.reservesZero event)
    (noCleanup : ¬ s.cleansUp event)
    : s.KeepsCount event :=
  ⟨fun _ _ same => absurd same noStop, fun zero => absurd zero noZero,
    fun cleanup => absurd cleanup noCleanup⟩

/-- RM_SEND_DATA of a client that does not hold index 0 keeps the count while there is
room.
-/
theorem State.keepsCount_of_room {s : State} {i : Int}
    (asks : (s.remoteContext.map fun (_, c) => c.index) = some i) (nonzero : i ≠ 0)
    (room : (s.registry.reconnGetFreeClientIndex i).isSome = true)
    : s.KeepsCount .remoteSendData := by
  have index {r : Addr} {c : Context} (found : s.remoteContext = some (r, c)) : c.index = i := by
    rw [found] at asks
    exact Option.some.inj asks
  refine State.keepsCount_of_quiet nofun ?_ ?_
  · rintro ⟨r, c, found, zero⟩
    exact nonzero ((index found).symm.trans zero)
  · rintro ⟨-, r, c, found, full⟩
    rw [index found] at full
    simp [full] at room

/-- Every registered remote client stands at its own index and nowhere else. -/
def State.remotesOwn (s : State) : Bool :=
  Registry.indices.all fun i =>
    match s.registry.activeClientsList i with
    | .registered a => (s.contexts a).all fun c => c.mode ≠ .remoteMode || c.index = i
    | _ => true

theorem State.remotePlaced_of_own {s : State} (own : s.remotesOwn = true)
    : s.RemotePlaced Registry.indices := by
  have placed {i : Int} (member : i ∈ Registry.indices) {a : Addr} {c : Context}
      (here : s.registry.activeClientsList i = .registered a) (found : s.contexts a = some c)
      (mode : c.mode = .remoteMode)
      : c.index = i := by
    have entry := List.all_eq_true.mp own i member
    simpa [here, found, mode] using entry
  intro i member a c here found mode
  obtain rfl := placed member here found mode
  exact ⟨member, here, fun j inside _ there => (placed inside there found mode).symm⟩

/-- Deactivation gives the remote client's index back and takes it off the count. -/
theorem countsClients_of_deactivation
    : (replay State.step .initial
        (remoteData ++ [.remoteDeactivate])).2.registry.CountsClients := by
  refine (countsClients_of_keeps (replay_run _ _) ?_).2
  refine forall_replay_cons rfl (State.keepsCount_of_quiet nofun nofun nofun) ?_
  refine forall_replay_cons rfl (State.keepsCount_of_quiet nofun nofun nofun) ?_
  refine forall_replay_cons rfl (State.keepsCount_of_quiet nofun nofun nofun) ?_
  refine forall_replay_cons rfl (State.keepsCount_of_quiet nofun nofun nofun) ?_
  refine forall_replay_cons rfl (State.keepsCount_of_quiet nofun nofun nofun) ?_
  refine forall_replay_cons rfl ?_ ?_
  · exact State.keepsCount_of_room (by decide +kernel : _ = some (-1)) (by decide)
      (by decide +kernel)
  refine forall_replay_cons rfl ⟨nofun, nofun, fun _ => ?_⟩ (forall_replay_nil _)
  exact State.remotePlaced_of_own (by decide +kernel)

/-- RM_STOP_DATA empties the remote client's entry and leaves it counted. -/
theorem stopData_counted
    : ¬ ∀ transitions finish, State.Runs .initial transitions finish
        → finish.registry.CountsClients := by
  intro always
  have right := always _ _ (replay_run State.initial (remoteData ++ [.remoteStopData]))
  exact absurd right.equal (by decide +kernel)

end Reconn.Client
