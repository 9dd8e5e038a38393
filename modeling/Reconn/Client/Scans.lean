import Reconn.Client.RemoteRegistration

/-! The scans of the client table. They test entries for NULL only, so that they dereference
the marker of an index that has been handed out and not registered yet. An entry that was
registered still refers to its context unless a task frees the context and leaves the entry.
-/

namespace Reconn.Client

open TransitionRuns

/-- The functions that scan activeClientsList. -/
inductive Scan where
  | disconnectAllClients (mode : Mode)
  | reconnClientsRegistered (theType : Nat)
  | remoteMonitorCleanup

namespace State

/-- The entries that are not NULL. -/
def nonNull (s : State) : List Int :=
  Registry.indices.filter fun i => s.registry.activeClientsList i ≠ .free

/-- The context that an entry refers to. -/
def entryContext (s : State) (i : Int) : Option Context :=
  match s.registry.activeClientsList i with
  | .registered a => s.contexts a
  | .free | .reserved => none

/-- The entries that the scan of remoteMonitorCleanup dereferences, up to the first that is
no context. An entry that a visit has deregistered is NULL afterwards.
-/
def cleanupDereferences (s : State) : List Int → List Int
  | [] => []
  | i :: rest =>
      (if s.registry.activeClientsList i = .free then [] else [i])
        ++ match s.cleanupEntry i with
          | none => []
          | some s' => s'.cleanupDereferences rest

end State

namespace Scan

/-- The entries that a scan dereferences. reconnClientsRegistered looks at the mode of an
entry for SLAVE and REMOTE only.
-/
def dereferences (s : State) : Scan → List Int
  | .disconnectAllClients _ => s.nonNull
  | .reconnClientsRegistered theType =>
      if theType = 1 ∨ theType = 2 then s.nonNull else []
  | .remoteMonitorCleanup => s.cleanupDereferences Registry.indices

/-- C defines what the scan does. -/
def defined (s : State) : Scan → Bool
  | .disconnectAllClients mode => (s.disconnectAllClients mode).isSome
  | .reconnClientsRegistered theType => (s.reconnClientsRegistered theType).isSome
  | .remoteMonitorCleanup => s.remoteMonitorCleanup.isSome

end Scan

-----------------------------------------------------------------------------------------
-- What the scans dereference
-----------------------------------------------------------------------------------------

namespace State

variable {s s' : State}

/-- A visit of the sweep only frees entries. -/
theorem cleanupEntry_entry {i j : Int} (visited : s.cleanupEntry i = some s')
    (used : s'.registry.activeClientsList j ≠ .free)
    : s'.registry.activeClientsList j = s.registry.activeClientsList j := by
  rcases cleanupEntry_registry visited with same | ⟨index, given⟩
  · rw [same]
  · rw [given] at used ⊢
    exact s.registry.entry_of_giveBack used

/-- The sweep dereferences entries that were in use before it, by induction on the indices. -/
theorem used_of_cleanupDereferences {is : List Int} {j : Int}
    (member : j ∈ s.cleanupDereferences is)
    : j ∈ is ∧ s.registry.activeClientsList j ≠ .free := by
  induction is generalizing s with
  | nil => cases member
  | cons i rest ih =>
      simp only [cleanupDereferences, List.mem_append] at member
      rcases member with here | later
      · split_ifs at here with free
        · cases here
        · obtain rfl := List.mem_singleton.mp here
          exact ⟨List.mem_cons_self .., free⟩
      · cases visited : s.cleanupEntry i with
        | none => simp [visited] at later
        | some s' =>
            simp only [visited] at later
            obtain ⟨inside, used⟩ := ih later
            refine ⟨List.mem_cons_of_mem i inside, ?_⟩
            rwa [← cleanupEntry_entry visited used]

/-- What the sweep dereferences later on is what the entry referred to before. -/
theorem entryContext_of_visit {i j : Int} {rest : List Int}
    (visited : s.cleanupEntry i = some s') (member : j ∈ s'.cleanupDereferences rest)
    : s'.entryContext j = s.entryContext j := by
  have used := (used_of_cleanupDereferences member).2
  unfold entryContext
  rw [cleanupEntry_entry visited used, (cleanupEntry_frame visited).2]

/-- The sweep is defined exactly if every entry it dereferences refers to an allocated
context, by induction on the indices.
-/
theorem isSome_sweep (is : List Int)
    : (is.foldlM cleanupEntry s).isSome = true
      ↔ ∀ j ∈ s.cleanupDereferences is, (s.entryContext j).isSome = true := by
  induction is generalizing s with
  | nil => simp [cleanupDereferences]
  | cons i rest ih =>
      rw [List.foldlM_cons, cleanupDereferences]
      have entry : (s.cleanupEntry i).isSome = true
          ↔ ∀ j ∈ (if s.registry.activeClientsList i = .free then [] else [i]),
            (s.entryContext j).isSome = true := by
        unfold cleanupEntry entryContext
        cases entry : s.registry.activeClientsList i <;> simp [entry]
      cases visited : s.cleanupEntry i with
      | none =>
          rw [visited] at entry
          simpa using entry
      | some s' =>
          rw [visited] at entry
          have rest' : (rest.foldlM cleanupEntry s').isSome = true
              ↔ ∀ j ∈ s'.cleanupDereferences rest, (s.entryContext j).isSome = true := by
            rw [ih]
            exact forall₂_congr fun j member => by rw [entryContext_of_visit visited member]
          simp only [Option.bind_eq_bind, Option.bind_some, rest', List.forall_mem_append]
          exact ⟨fun later => ⟨entry.mp rfl, later⟩, fun both => both.2⟩

end State

/-- A scan dereferences entries of the table that are not NULL. -/
theorem Scan.used_of_dereferences {s : State} {scan : Scan} {i : Int}
    (dereferenced : i ∈ scan.dereferences s)
    : i ∈ Registry.indices ∧ s.registry.activeClientsList i ≠ .free := by
  have used (member : i ∈ s.nonNull)
      : i ∈ Registry.indices ∧ s.registry.activeClientsList i ≠ .free := by
    simpa [State.nonNull] using member
  cases scan with
  | disconnectAllClients mode => exact used dereferenced
  | reconnClientsRegistered theType =>
      simp only [dereferences] at dereferenced
      split_ifs at dereferenced
      · exact used dereferenced
      · cases dereferenced
  | remoteMonitorCleanup => exact State.used_of_cleanupDereferences dereferenced

/-- A scan is defined exactly if every entry it dereferences refers to an allocated context. -/
theorem Scan.defined_iff (s : State) (scan : Scan)
    : scan.defined s = true
      ↔ ∀ i ∈ scan.dereferences s, (s.entryContext i).isSome = true := by
  have visits (visit : Int → Bool)
      (visited : ∀ i, visit i = true
        ↔ s.registry.activeClientsList i ≠ .free → (s.entryContext i).isSome = true)
      : (∀ i ∈ Registry.indices, visit i = true)
        ↔ ∀ i ∈ s.nonNull, (s.entryContext i).isSome = true := by
    simp only [visited, State.nonNull, List.mem_filter, decide_eq_true_eq, and_imp]
  cases scan with
  | disconnectAllClients mode =>
      simp only [defined, State.disconnectAllClients, Option.isSome_map, isSome_mapM,
        dereferences]
      refine visits _ fun i => ?_
      unfold State.entryContext
      cases s.registry.activeClientsList i <;> simp
  | reconnClientsRegistered theType =>
      simp only [defined, State.reconnClientsRegistered, Option.isSome_map, isSome_mapM,
        dereferences]
      by_cases looks : theType = 1 ∨ theType = 2
      · have other : theType ≠ 0 := by omega
        simp only [if_pos looks, if_neg other]
        refine visits _ fun i => ?_
        unfold State.entryContext
        cases s.registry.activeClientsList i <;> simp
      · simp only [if_neg looks, List.not_mem_nil, false_imp_iff, implies_true, iff_true]
        intro i _
        cases s.registry.activeClientsList i <;> split_ifs <;> rfl
  | remoteMonitorCleanup =>
      simp only [defined, State.remoteMonitorCleanup, Option.isSome_map, dereferences]
      exact State.isSome_sweep Registry.indices

-----------------------------------------------------------------------------------------
-- Entries whose context has been freed
-----------------------------------------------------------------------------------------

/-- The entries whose context has been freed since it was registered there. -/
abbrev Freed := Int → Bool

namespace Freed

/-- Nothing has been freed before the first step. -/
def none : Freed := fun _ => false

/-- An entry refers to a freed context if the step frees it, or if it did so before and is
the same. An address may be allocated again.
-/
def record (past : Freed) (t : Transition State Event Output) : Freed := fun i =>
  match t.after.registry.activeClientsList i with
  | .registered a =>
      (t.after.contexts a).isNone
        || (past i && t.before.registry.activeClientsList i = .registered a)
  | .free | .reserved => false

end Freed

/-- An entry was stored by reconnRegisterClientApp, and its context has not been freed. -/
def State.StoredLive (s : State) (past : Freed) (i : Int) : Prop :=
  (∃ a, s.registry.activeClientsList i = .registered a) ∧ past i = false

/-- A scan at the end of the step would dereference only entries that were stored by
reconnRegisterClientApp and whose contexts have not been freed.
-/
def ScansSafe (past : Freed) (t : Transition State Event Output) : Prop :=
  ∀ scan i, i ∈ Scan.dereferences t.after scan → t.after.StoredLive (past.record t) i

/-- A scan at the end of the step would dereference no other entries than these and the
marker of an index that has been handed out.
-/
def ScansSafeButMarker (past : Freed) (t : Transition State Event Output) : Prop :=
  ∀ scan i, i ∈ Scan.dereferences t.after scan
    → (t.after.StoredLive (past.record t) i
      ↔ t.after.registry.activeClientsList i ≠ .reserved)

/-- The client that cannot open the control queue and frees its context. -/
def State.failsToOpen (s : State) : Event → Option Addr
  | .iterate a received env =>
      (s.switches (.iterate a received env)).bind fun (_, c, p) =>
        if p.command = some .masterModeReq
            ∧ s.globals.masterClientSocketFd ≠ c.socketFd
            ∧ s.globals.masterClientSocketFd = -1
            ∧ env.mqOpen = -1 then some a
        else none
  | _ => none

/-- What an event must not do for no entry to refer to a freed context: mq_open fails for a
client that is registered, and remoteMonitorTask ends while an entry refers to its context.
-/
structure State.FreesUnregistered (s : State) (event : Event) : Prop where
  openFails
    : ∀ a, s.failsToOpen event = some a
        → ∀ i ∈ Registry.indices, s.registry.activeClientsList i ≠ .registered a
  remoteExit
    : ∀ r c, event = .remoteExit → s.remoteContext = some (r, c)
        → ∀ i ∈ Registry.indices, s.registry.activeClientsList i ≠ .registered r

/-- Every registered entry refers to an allocated context, which is that of the index if a
client task runs on it, and none has been freed.
-/
structure Freed.Entries (past : Freed) (s : State) : Prop where
  sound : s.Sound
  live : ∀ i a, s.registry.activeClientsList i = .registered a → past i = false
  context
    : ∀ i a, s.registry.activeClientsList i = .registered a
        → ∃ c, s.contexts a = some c ∧ (c.thread ≠ .none → c.index = i)

theorem State.Handles.failsToOpen {s : State} {a : Addr} {c : Context} {received : Received}
    {env : Outcomes} {p : Packet}
    (handles : s.Handles a c received env p (some .masterModeReq))
    (free : s.globals.masterClientSocketFd = -1) (fails : env.mqOpen = -1)
    : s.failsToOpen (.iterate a received env) = some a := by
  have open_ := handles.socketFd_nonneg
  have other : s.globals.masterClientSocketFd ≠ c.socketFd := by omega
  simp [State.failsToOpen, handles.switches, handles.command, free, fails,
    (free ▸ other : -1 ≠ c.socketFd)]

namespace Freed.Entries

variable {past : Freed} {s s' : State} {a b : Addr} {i : Int}

/-- An entry whose context continues. -/
theorem continued (entries : past.Entries s) (contexts : ContextsContinue s.contexts s'.contexts)
    (before : s.registry.activeClientsList i = .registered a)
    : ∃ c, s'.contexts a = some c ∧ (c.thread ≠ .none → c.index = i) := by
  obtain ⟨c, found, own⟩ := entries.context i a before
  obtain ⟨c', after, continues⟩ := contexts.survives found
  refine ⟨c', after, fun runs => ?_⟩
  exact continues.index.trans (own fun idle => runs (continues.thread.mpr idle))

/-- An entry that refers to another context than the one that is rewritten or freed. -/
theorem other {new : Option Context} (entries : past.Entries s)
    (contexts : s'.contexts = Function.update s.contexts b new) (apart : a ≠ b)
    (before : s.registry.activeClientsList i = .registered a)
    : ∃ c, s'.contexts a = some c ∧ (c.thread ≠ .none → c.index = i) := by
  obtain ⟨c, found, own⟩ := entries.context i a before
  exact ⟨c, by rw [contexts, Function.update_of_ne apart, found], own⟩

/-- No entry refers to an address without a context. -/
theorem unallocated (entries : past.Entries s) (fresh : s.contexts b = Option.none)
    (before : s.registry.activeClientsList i = .registered a)
    : a ≠ b := by
  rintro rfl
  obtain ⟨c, found, -⟩ := entries.context i a before
  simp [fresh] at found

end Freed.Entries

/-- A step that keeps to the conditions keeps the entries' contexts. Witness: a task that
leaves empties its own entry, which is the only one that refers to its context.
-/
theorem TableEffect.entries {past : Freed} {s s' : State} {event : Event}
    (effect : TableEffect s event s') (entries : past.Entries s)
    (frees : s.FreesUnregistered event)
    : ∀ i a, s'.registry.activeClientsList i = .registered a
        → ∃ c, s'.contexts a = some c ∧ (c.thread ≠ .none → c.index = i) := by
  have sound := entries.sound
  intro i a after
  cases effect with
  | keeps registry contexts => exact entries.continued contexts (registry ▸ after)
  | registers found runs registered contexts =>
      rcases Registry.registered_of_register registered after with ⟨rfl, rfl⟩ | ⟨-, before⟩
      · obtain ⟨c', kept, continues⟩ := contexts.survives found
        exact ⟨c', kept, fun _ => continues.index⟩
      · exact entries.continued contexts before
  | @leaves b c _ _ _ found runs registry contexts =>
      rw [registry] at after
      have before := Registry.registered_of_giveBack after
      refine entries.other contexts ?_ before
      rintro rfl
      obtain ⟨c', found', own⟩ := entries.context i a before
      obtain rfl := Option.some.inj (found.symm.trans found')
      obtain rfl := own runs
      rw [(s.registry.return_deRegister_spec (sound.placed.local_ found runs).1).1,
        Function.update_self] at after
      cases after
  | openFails handles free fails registry contexts =>
      rw [registry] at after
      refine entries.other contexts ?_ after
      rintro rfl
      exact frees.openFails _ (handles.failsToOpen free fails) i (sound.inside i a after) after
  | unregistered handles outside =>
      exact absurd (sound.placed.index_lt handles.toTurns) (not_lt.mpr outside)
  | reserves given contexts =>
      exact entries.continued (contexts ▸ .refl _) (Registry.registered_of_given given after).2
  | creates fresh given _ contexts =>
      have before := (Registry.registered_of_given given after).2
      exact entries.other contexts (entries.unallocated fresh before) before
  | allocates fresh registry _ _ contexts =>
      rw [registry] at after
      exact entries.other contexts (entries.unallocated fresh after) after
  | remoteStarts fresh registry _ _ contexts =>
      rw [registry] at after
      exact entries.other contexts (entries.unallocated fresh after) after
  | @remoteRegisters r c _ index _ found given registered contexts =>
      by_cases same : a = r
      · subst same
        refine ⟨{ c with index }, by rw [contexts, Function.update_self], fun runs => ?_⟩
        exact absurd (State.remoteContext_task found).2.1 runs
      · rcases Registry.registered_of_register registered after with ⟨-, own⟩ | ⟨-, kept⟩
        · exact absurd own same
        · exact entries.other contexts same (Registry.registered_of_given given kept).2
  | remoteStops _ _ registry contexts =>
      rw [registry] at after
      exact entries.continued (contexts ▸ .refl _) (Registry.registered_of_deRegister after)
  | cleans _ swept =>
      obtain ⟨registry₀, -, scanned, registry, contexts⟩ := swept
      rw [registry] at after
      refine entries.continued (contexts ▸ .refl _) ?_
      exact registry₀ ▸ State.registered_of_sweep scanned after
  | remoteFrees found _ registry contexts =>
      rw [registry] at after
      refine entries.other contexts ?_ after
      rintro rfl
      exact frees.remoteExit _ _ rfl found i (sound.inside i a after) after

namespace State

variable {s s' : State} {event : Event} {output : Output}

/-- A client that cannot open the control queue is gone, and its entry is as before. -/
theorem step_failsToOpen {a : Addr} (fails : s.failsToOpen event = some a)
    (taken : s.step event = some (s', output))
    : s'.registry = s.registry ∧ s'.contexts a = none := by
  cases event with
  | iterate b received env =>
      obtain ⟨⟨b', c, p⟩, switched, asked⟩ := Option.bind_eq_some_iff.mp fails
      simp only at asked
      split_ifs at asked with request
      obtain rfl := Option.some.inj asked
      obtain ⟨received', env', same, handles, rfl⟩ := switches_eq_some switched taken
      obtain ⟨rfl, rfl, rfl⟩ := Event.iterate.inj same
      obtain ⟨opens, other, free, none⟩ := request
      simp only [command, opens, Option.getD_some, masterModeReq, if_neg other, if_pos free,
        grantMastership, if_pos none]
      exact ⟨rfl, Function.update_self ..⟩
  | _ => cases fails

/-- remoteMonitorTask frees its context at its end, and leaves the table as it is. -/
theorem step_remoteExit {r : Addr} {c : Context} (found : s.remoteContext = some (r, c))
    (taken : s.step .remoteExit = some (s', output))
    : s'.registry = s.registry ∧ s'.contexts r = none := by
  obtain ⟨-, -, performed⟩ := step_eq_some taken
  obtain ⟨rfl, -⟩ := Prod.mk.inj performed.symm
  have pointer : s.remote.aContextPtr ≠ none := by
    intro null
    simp [remoteContext, null] at found
  simp [remoteExit, pointer, found, freeContext]

end State

namespace Freed

variable {past : Freed} {t : Transition State Event Output}

/-- A step that keeps to the conditions frees the context of no entry. -/
theorem Entries.record (entries : past.Entries t.before)
    (taken : t.before.step t.event = some (t.after, t.output))
    (frees : t.before.FreesUnregistered t.event)
    : (past.record t).Entries t.after := by
  have context := (State.step_table taken).entries entries frees
  refine ⟨entries.sound.step taken, fun i a registered => ?_, context⟩
  obtain ⟨c, found, -⟩ := context i a registered
  simp only [Freed.record, registered, found, Option.isNone_some, Bool.false_or,
    Bool.and_eq_false_iff, decide_eq_false_iff_not]
  by_cases before : t.before.registry.activeClientsList i = .registered a
  · exact .inl (entries.live i a before)
  · exact .inr before

/-- An entry in the table that is still registered after its context has been freed is not
safe to scan.
-/
theorem not_scansSafeButMarker {a : Addr} {i : Int} (member : i ∈ Registry.indices)
    (registered : t.after.registry.activeClientsList i = .registered a)
    (gone : t.after.contexts a = Option.none)
    : ¬ ScansSafeButMarker past t := by
  intro safe
  have dereferenced : i ∈ Scan.dereferences t.after (.disconnectAllClients .slaveMode) := by
    simp [Scan.dereferences, State.nonNull, member, registered]
  have live := ((safe _ i dereferenced).mpr (by simp [registered])).2
  simp [Freed.record, registered, gone] at live

/-- The scans are safe but for the marker exactly if the step keeps to the conditions. -/
theorem Entries.scansSafeButMarker_iff (entries : past.Entries t.before)
    (taken : t.before.step t.event = some (t.after, t.output))
    : ScansSafeButMarker past t ↔ t.before.FreesUnregistered t.event := by
  constructor
  · intro safe
    constructor
    · intro a fails i member registered
      obtain ⟨registry, gone⟩ := State.step_failsToOpen fails taken
      exact not_scansSafeButMarker member (registry ▸ registered) gone safe
    · intro r c exits found i member registered
      rw [exits] at taken
      obtain ⟨registry, gone⟩ := State.step_remoteExit found taken
      exact not_scansSafeButMarker member (registry ▸ registered) gone safe
  · intro frees scan i dereferenced
    have after := entries.record taken frees
    have used := (Scan.used_of_dereferences dereferenced).2
    cases entry : t.after.registry.activeClientsList i with
    | free => exact absurd entry used
    | reserved => simp [State.StoredLive, entry]
    | registered a => simp [State.StoredLive, entry, after.live i a entry]

theorem entries_initial : Freed.none.Entries .initial where
  sound := State.sound_initial
  live := nofun
  context := nofun

end Freed

/-- In a run a scan would at every moment dereference live registered contexts and markers
only, exactly if mq_open never fails for a registered client and no task of the remote
monitor ends while an entry refers to its context.
-/
theorem scansSafeButMarker_throughout_iff
    {transitions : List (Transition State Event Output)} {finish : State}
    (run : State.Runs .initial transitions finish)
    : Throughout Freed.record ScansSafeButMarker .none transitions
      ↔ ∀ t ∈ transitions, t.before.FreesUnregistered t.event :=
  run.throughout_iff_allowed
    (fun past _ (entries : past.Entries _) taken => entries.scansSafeButMarker_iff taken)
    (fun past _ (entries : past.Entries _) taken frees => entries.record taken frees)
    _ Freed.entries_initial

/-- Where the marker is all that a scan may stumble over, scans are safe exactly if no entry
is the marker.
-/
theorem ScansSafeButMarker.scansSafe_iff {past : Freed} {t : Transition State Event Output}
    (safe : ScansSafeButMarker past t)
    : ScansSafe past t
      ↔ ∀ i ∈ Registry.indices, t.after.registry.activeClientsList i ≠ .reserved := by
  constructor
  · intro all i member marker
    have dereferenced : i ∈ Scan.dereferences t.after (.disconnectAllClients .slaveMode) := by
      simp [Scan.dereferences, State.nonNull, member, marker]
    obtain ⟨⟨a, registered⟩, -⟩ := all _ i dereferenced
    rw [marker] at registered
    cases registered
  · intro none scan i dereferenced
    exact (safe scan i dereferenced).mpr (none i (Scan.used_of_dereferences dereferenced).1)

/-- In a run in which mq_open never fails for a registered client and no task of the remote
monitor ends while an entry refers to its context, the scans are safe in a reached state
exactly if no client stands between its connection and its registration.
-/
theorem scansSafe_throughout {transitions : List (Transition State Event Output)}
    {finish : State} (run : State.Runs .initial transitions finish)
    (frees : ∀ t ∈ transitions, t.before.FreesUnregistered t.event)
    : Throughout Freed.record
        (fun past t => ScansSafe past t
          ↔ ∀ i ∈ Registry.indices, t.after.registry.activeClientsList i ≠ .reserved)
        .none transitions :=
  ((scansSafeButMarker_throughout_iff run).mpr frees).imp fun _ _ safe => safe.scansSafe_iff

/-- An event that opens the control queue, if it tries, and does not end the remote monitor
frees the context of no entry.
-/
theorem State.freesUnregistered_of {s : State} {event : Event}
    (opens : s.failsToOpen event = none) (noExit : event ≠ .remoteExit)
    : s.FreesUnregistered event where
  openFails := by
    intro a fails
    rw [opens] at fails
    cases fails
  remoteExit := fun _ _ exits => absurd exits noExit

/-- The remote monitor is deregistered before its task ends. -/
theorem scansSafe_of_deactivation
    : Throughout Freed.record
        (fun past t => ScansSafe past t
          ↔ ∀ i ∈ Registry.indices, t.after.registry.activeClientsList i ≠ .reserved)
        .none (replay State.step .initial (remoteData ++ [.remoteDeactivate, .remoteExit])).1 := by
  refine scansSafe_throughout (replay_run _ _) ?_
  refine forall_replay_cons rfl (State.freesUnregistered_of rfl nofun) ?_
  refine forall_replay_cons rfl (State.freesUnregistered_of rfl nofun) ?_
  refine forall_replay_cons rfl (State.freesUnregistered_of (by decide +kernel) nofun) ?_
  refine forall_replay_cons rfl (State.freesUnregistered_of (by decide +kernel) nofun) ?_
  refine forall_replay_cons rfl (State.freesUnregistered_of rfl nofun) ?_
  refine forall_replay_cons rfl (State.freesUnregistered_of rfl nofun) ?_
  refine forall_replay_cons rfl (State.freesUnregistered_of rfl nofun) ?_
  refine forall_replay_cons rfl ⟨nofun, fun r c _ found => ?_⟩ (forall_replay_nil _)
  have address := (congrArg (Option.map Prod.fst) found).symm.trans
    (by decide +kernel : _ = some 2)
  obtain rfl := Option.some.inj address
  decide +kernel

/-- A client that has connected and not asked for mastership yet leaves the marker where
every scan dereferences it.
-/
theorem marker_dereferenced
    : ¬ ∀ transitions finish, State.Runs .initial transitions finish
        → Throughout Freed.record ScansSafe .none transitions := by
  intro always
  have whole := always _ _
    (replay_run State.initial (connects 1 5 ++ [masterModeReq 1] ++ connects 2 6))
  iterate 4 obtain ⟨-, whole⟩ := (throughout_replay_cons rfl).mp whole
  obtain ⟨last, -⟩ := (throughout_replay_cons rfl).mp whole
  obtain ⟨⟨a, registered⟩, -⟩ :=
    last (.disconnectAllClients .slaveMode) 2 (by decide +kernel)
  have marker
      : (replay State.step .initial
          (connects 1 5 ++ [masterModeReq 1] ++ connects 2 6)).2.registry.activeClientsList 2
        = .reserved := by
    decide +kernel
  exact absurd (marker.symm.trans registered) nofun

end Reconn.Client
