import Reconn.Client.TableEffects

/-! The registration of the remote monitor. At most one entry of the client table refers to
a REMOTEMODE context, at that context's own index, as long as RM_SEND_DATA comes while none
does: the guard of RM_SEND_DATA asks for another kind of client than it means.
-/

namespace Reconn.Client

open TransitionRuns

namespace Registry

/-- A socket of socketIdList belongs to the context that is registered at its index, and the
inserted master has none there.
-/
def SlotsOwned (r : Registry) : Prop :=
  ∀ i, r.socketIdList i ≠ -1 → i ≠ 0 ∧ ∃ a, r.activeClientsList i = .registered a

variable {r r' : Registry} {a : Addr} {i index socketFd : Int}

theorem SlotsOwned.register (owned : r.SlotsOwned)
    (registered : r.reconnRegisterClientApp a index socketFd = some r')
    : r'.SlotsOwned := by
  unfold reconnRegisterClientApp at registered
  split_ifs at registered with _ zero
  · obtain rfl := Option.some.inj registered
    intro i used
    obtain ⟨nonzero, old⟩ := owned i used
    exact ⟨nonzero, by simpa [zero, Function.update_of_ne nonzero] using old⟩
  · obtain rfl := Option.some.inj registered
    intro i used
    by_cases here : i = index
    · subst here
      exact ⟨zero, a, Function.update_self ..⟩
    · simp only [Function.update_of_ne here] at used ⊢
      exact owned i used

theorem SlotsOwned.deRegister (owned : r.SlotsOwned) (index : Int)
    : (r.reconnDeRegisterClientApp index).SlotsOwned := by
  unfold reconnDeRegisterClientApp
  split_ifs with _ zero
  · intro i used
    obtain ⟨nonzero, old⟩ := owned i used
    exact ⟨nonzero, by simpa [zero, Function.update_of_ne nonzero] using old⟩
  · intro i used
    by_cases here : i = index
    · subst here
      simp at used
    · simp only [Function.update_of_ne here] at used ⊢
      exact owned i used
  · exact owned

theorem SlotsOwned.giveBack (owned : r.SlotsOwned) (index : Int)
    : ((r.reconnReturnClientIndex index).reconnDeRegisterClientApp index).SlotsOwned := by
  refine SlotsOwned.deRegister ?_ index
  unfold reconnReturnClientIndex
  split_ifs <;> exact owned

/-- An index other than 0 is handed out while its entry is free, and so is its socket. -/
theorem SlotsOwned.reserve (owned : r.SlotsOwned) {theIndex : Int}
    (given : r.reconnGetFreeClientIndex theIndex = some (r', index))
    : r'.SlotsOwned := by
  have sockets : r'.socketIdList = r.socketIdList := by
    unfold reconnGetFreeClientIndex at given
    simp only at given
    split_ifs at given
    · obtain ⟨rfl, -⟩ := Prod.mk.inj (Option.some.inj given)
      rfl
    · obtain ⟨_, -, same⟩ := Option.map_eq_some_iff.mp given
      obtain ⟨rfl, -⟩ := Prod.mk.inj same
      rfl
  obtain ⟨-, entries, -, -, zero, free⟩ := reconnGetFreeClientIndex_spec given
  intro i used
  rw [sockets] at used
  obtain ⟨nonzero, a, old⟩ := owned i used
  refine ⟨nonzero, a, ?_⟩
  have other : i ≠ index := by
    rintro rfl
    by_cases asks : theIndex = 0
    · exact nonzero (zero asks)
    · rw [free asks] at old
      cases old
  rw [entries, Function.update_of_ne other, old]

/-- An entry that is in use after a deregistration was the same before. -/
theorem entry_of_deRegister (r : Registry)
    (used : (r.reconnDeRegisterClientApp index).activeClientsList i ≠ .free)
    : (r.reconnDeRegisterClientApp index).activeClientsList i = r.activeClientsList i := by
  unfold reconnDeRegisterClientApp at used ⊢
  by_cases room : index < reconnMaxNumClients
  · rw [if_pos room] at used ⊢
    by_cases here : i = index
    · simp [here] at used
    · simp [Function.update_of_ne here]
  · rw [if_neg room]

/-- An entry that is in use after a client has given its index back was the same before. -/
theorem entry_of_giveBack (r : Registry)
    (used : ((r.reconnReturnClientIndex index).reconnDeRegisterClientApp
      index).activeClientsList i ≠ .free)
    : ((r.reconnReturnClientIndex index).reconnDeRegisterClientApp index).activeClientsList i
        = r.activeClientsList i := by
  refine ((r.reconnReturnClientIndex index).entry_of_deRegister used).trans ?_
  unfold reconnReturnClientIndex
  split_ifs <;> rfl

/-- Deregistration registers nobody. -/
theorem registered_of_deRegister
    (after : (r.reconnDeRegisterClientApp index).activeClientsList i = .registered a)
    : r.activeClientsList i = .registered a :=
  (r.entry_of_deRegister (by simp [after])).symm.trans after

/-- A client that gives its index back registers nobody. -/
theorem registered_of_giveBack
    (after : ((r.reconnReturnClientIndex index).reconnDeRegisterClientApp
      index).activeClientsList i = .registered a)
    : r.activeClientsList i = .registered a :=
  (r.entry_of_giveBack (by simp [after])).symm.trans after

/-- An entry that is registered afterwards is the new one or was registered before. -/
theorem registered_of_register {b : Addr}
    (registered : r.reconnRegisterClientApp a index socketFd = some r')
    (after : r'.activeClientsList i = .registered b)
    : (i = index ∧ b = a) ∨ (i ≠ index ∧ r.activeClientsList i = .registered b) := by
  rw [(reconnRegisterClientApp_spec registered).1] at after
  rcases update_apply_eq_iff.mp after with ⟨here, new⟩ | old
  · exact .inl ⟨here, (ClientEntry.registered.inj new).symm⟩
  · exact .inr old

/-- Handing an index out registers nobody. -/
theorem registered_of_given {theIndex : Int}
    (given : r.reconnGetFreeClientIndex theIndex = some (r', index))
    (after : r'.activeClientsList i = .registered a)
    : i ≠ index ∧ r.activeClientsList i = .registered a := by
  rw [(reconnGetFreeClientIndex_spec given).2.1] at after
  rcases update_apply_eq_iff.mp after with ⟨-, reserved⟩ | old
  · cases reserved
  · exact old

/-- Only a request for index 0 gets index 0. -/
theorem index_ne_zero_of_given {theIndex : Int}
    (given : r.reconnGetFreeClientIndex theIndex = some (r', index)) (other : theIndex ≠ 0)
    : index ≠ 0 := by
  unfold reconnGetFreeClientIndex at given
  simp only at given
  split_ifs at given
  obtain ⟨i, first, same⟩ := Option.map_eq_some_iff.mp given
  obtain ⟨-, rfl⟩ := Prod.mk.inj same
  have member := List.mem_of_find?_eq_some first
  rintro rfl
  exact absurd member (by decide)

end Registry

/-- Entry `i` refers to the context at `a`, which is in REMOTEMODE. -/
structure State.RemoteAt (s : State) (i : Int) (a : Addr) (c : Context) : Prop where
  registered : s.registry.activeClientsList i = .registered a
  allocated : s.contexts a = some c
  remote : c.mode = .remoteMode

/-- Socket `i` is that of the REMOTEMODE context at `a`, and not one of another client that
got the same descriptor later.
-/
structure State.RemoteSocketAt (s : State) (i : Int) (a : Addr) (c : Context) : Prop where
  socket : s.registry.socketIdList i = c.socketFd
  used : s.registry.socketIdList i ≠ -1
  own : ∀ b, s.registry.activeClientsList i = .registered b → b = a
  allocated : s.contexts a = some c
  remote : c.mode = .remoteMode

/-- At most one entry and at most one socket refer to a REMOTEMODE context, whose index is
that of the entry and of the socket.
-/
structure State.RemoteOnce (s : State) : Prop where
  entry : ∀ i j a b c d, s.RemoteAt i a c → s.RemoteAt j b d → i = j
  index : ∀ i a c, s.RemoteAt i a c → c.index = i
  socket : ∀ i j a b c d, s.RemoteSocketAt i a c → s.RemoteSocketAt j b d → i = j
  socketIndex : ∀ i a c, s.RemoteSocketAt i a c → c.index = i

/-- Entry `i` refers to a context in REMOTEMODE. -/
def State.remoteEntry (s : State) (i : Int) : Bool :=
  match s.registry.activeClientsList i with
  | .registered a => (s.contexts a).any fun c => c.mode = .remoteMode
  | .free | .reserved => false

/-- What an event must not do for the remote monitor to be registered once: RM_SEND_DATA gets
an index while an entry refers to a REMOTEMODE context, and the remote monitor's context is
allocated at an address that an entry still refers to.
-/
structure State.RegistersRemoteOnce (s : State) (event : Event) : Prop where
  sendData
    : ∀ r c, event = .remoteSendData → s.remoteContext = some (r, c) → c.mode = .remoteMode
        → s.registry.reconnGetFreeClientIndex c.index ≠ none
        → ∀ i ∈ Registry.indices, s.remoteEntry i = false
  start
    : ∀ a, event = .remoteStart (some a)
        → ∀ i ∈ Registry.indices, s.registry.activeClientsList i ≠ .registered a

/-- What holds of the tables in every run: only entries inside the table are registered, the
sockets belong to the entries, and no REMOTEMODE context stands at index 0.
-/
structure State.Sound (s : State) : Prop where
  placed : s.WellPlaced
  inside : ∀ i a, s.registry.activeClientsList i = .registered a → i ∈ Registry.indices
  slots : s.registry.SlotsOwned
  nonzero : ∀ a c, s.contexts a = some c → c.mode = .remoteMode → c.index ≠ 0

namespace State

variable {s s' : State} {event : Event}

theorem remoteEntry_iff {i : Int} : s.remoteEntry i = true ↔ ∃ a c, s.RemoteAt i a c := by
  unfold remoteEntry
  constructor
  · intro here
    split at here
    · rename_i a registered
      obtain ⟨c, allocated, remote⟩ := (Option.any_eq_true ..).mp here
      exact ⟨a, c, registered, allocated, by simpa using remote⟩
    · cases here
    · cases here
  · rintro ⟨a, c, registered, allocated, remote⟩
    simp [registered, allocated, remote]

/-- A socket of a REMOTEMODE context is that of its entry. -/
theorem RemoteSocketAt.remoteAt {i : Int} {a : Addr} {c : Context}
    (slots : s.registry.SlotsOwned) (here : s.RemoteSocketAt i a c)
    : s.RemoteAt i a c := by
  obtain ⟨-, b, registered⟩ := slots i here.used
  obtain rfl := here.own b registered
  exact ⟨registered, here.allocated, here.remote⟩

/-- The part of the property that is about the entries gives the one about the sockets. -/
theorem RemoteOnce.of_entries (slots : s.registry.SlotsOwned)
    (entry : ∀ i j a b c d, s.RemoteAt i a c → s.RemoteAt j b d → i = j)
    (index : ∀ i a c, s.RemoteAt i a c → c.index = i)
    : s.RemoteOnce where
  entry := entry
  index := index
  socket i j a b c d first second :=
    entry i j a b c d (first.remoteAt slots) (second.remoteAt slots)
  socketIndex i a c here := index i a c (here.remoteAt slots)

/-- Where every remote entry was one before, with the same index, there is at most one still. -/
theorem RemoteOnce.of_sub (once : s.RemoteOnce) (slots : s'.registry.SlotsOwned)
    (sub
      : ∀ i a c, s'.RemoteAt i a c → ∃ old, s.RemoteAt i a old ∧ c.index = old.index)
    : s'.RemoteOnce := by
  refine .of_entries slots ?_ ?_
  · intro i j a b c d first second
    obtain ⟨c₀, before, -⟩ := sub i a c first
    obtain ⟨d₀, before', -⟩ := sub j b d second
    exact once.entry i j a b c₀ d₀ before before'
  · intro i a c here
    obtain ⟨old, before, same⟩ := sub i a c here
    exact same.trans (once.index i a old before)

-----------------------------------------------------------------------------------------
-- The sweep of the table
-----------------------------------------------------------------------------------------

/-- A visit of the sweep gives an index back or does nothing. -/
theorem cleanupEntry_registry {i : Int} (visited : s.cleanupEntry i = some s')
    : s'.registry = s.registry
      ∨ ∃ index, s'.registry
        = (s.registry.reconnReturnClientIndex index).reconnDeRegisterClientApp index := by
  unfold cleanupEntry at visited
  split at visited
  · obtain rfl := Option.some.inj visited
    exact .inl rfl
  · cases visited
  · obtain ⟨c, -, rfl⟩ := Option.map_eq_some_iff.mp visited
    split_ifs
    · exact .inr ⟨c.index, by simp⟩
    · exact .inl rfl

/-- What a client that gives its index back keeps of the tables, the sweep keeps. -/
theorem sweep_keeps {P : Registry → Prop}
    (keep : ∀ r index, P r
      → P ((r.reconnReturnClientIndex index).reconnDeRegisterClientApp index))
    {is : List Int} {swept : State} (scanned : is.foldlM cleanupEntry s = some swept)
    (initially : P s.registry)
    : P swept.registry :=
  foldlM_invariant (fun _ next => P next.registry)
    (fun i _ state next known visited => by
      rcases cleanupEntry_registry visited with same | ⟨index, given⟩
      · rw [same]
        exact known
      · rw [given]
        exact keep state.registry index known)
    initially scanned

/-- The sweep registers nobody. -/
theorem registered_of_sweep {is : List Int} {swept : State} {i : Int} {a : Addr}
    (scanned : is.foldlM cleanupEntry s = some swept)
    (after : swept.registry.activeClientsList i = .registered a)
    : s.registry.activeClientsList i = .registered a :=
  sweep_keeps
    (P := fun r => r.activeClientsList i = .registered a
      → s.registry.activeClientsList i = .registered a)
    (fun _ _ known after => known (Registry.registered_of_giveBack after))
    scanned id after

/-- The remote monitor's context is no client task's. -/
theorem WellPlaced.local_ (placed : s.WellPlaced) {a : Addr} {c : Context}
    (found : s.contexts a = some c) (runs : c.thread ≠ .none)
    : c.index ∈ Registry.indices ∧ c.mode ≠ .remoteMode :=
  placed a _ (task_of_runs found runs)

/-- A remote context that continues one does not have the index 0. -/
theorem Sound.continued (sound : s.Sound) (contexts : ContextsContinue s.contexts s'.contexts)
    (a : Addr) (c : Context) (found : s'.contexts a = some c) (remote : c.mode = .remoteMode)
    : c.index ≠ 0 := by
  obtain ⟨old, before, continues⟩ := contexts.origin found
  rw [continues.index]
  exact sound.nonzero a old before (continues.remote remote)

/-- Nor does one beside a context that is rewritten. -/
theorem Sound.updated {b : Addr} {new : Option Context} (sound : s.Sound)
    (contexts : s'.contexts = Function.update s.contexts b new)
    (fine : ∀ c, new = some c → c.mode = .remoteMode → c.index ≠ 0) (a : Addr) (c : Context)
    (found : s'.contexts a = some c) (remote : c.mode = .remoteMode)
    : c.index ≠ 0 := by
  rw [contexts] at found
  rcases update_apply_eq_iff.mp found with ⟨-, new⟩ | ⟨-, old⟩
  · exact fine c new remote
  · exact sound.nonzero a c old remote

end State

/-- Every step keeps the tables sound. Witness: an index that is registered was handed out
before or is a task's.
-/
theorem TableEffect.sound {s s' : State} {event : Event} (effect : TableEffect s event s')
    (sound : s.Sound) (placed : s'.WellPlaced)
    : s'.Sound := by
  cases effect with
  | keeps registry contexts =>
      exact ⟨placed, registry ▸ sound.inside, registry ▸ sound.slots, sound.continued contexts⟩
  | registers found runs registered contexts =>
      refine ⟨placed, fun i b after => ?_, sound.slots.register registered,
        sound.continued contexts⟩
      rcases Registry.registered_of_register registered after with ⟨rfl, -⟩ | ⟨-, old⟩
      · exact (sound.placed.local_ found runs).1
      · exact sound.inside i b old
  | leaves found runs registry contexts =>
      refine ⟨placed, fun i b after => ?_, registry ▸ sound.slots.giveBack _,
        sound.updated contexts (by simp)⟩
      rw [registry] at after
      exact sound.inside i b (Registry.registered_of_giveBack after)
  | openFails _ _ _ registry contexts =>
      exact ⟨placed, registry ▸ sound.inside, registry ▸ sound.slots,
        sound.updated contexts (by simp)⟩
  | unregistered handles outside =>
      exact absurd (sound.placed.index_lt handles.toTurns) (not_lt.mpr outside)
  | reserves given contexts =>
      refine ⟨placed, fun i b after => ?_, sound.slots.reserve given, contexts ▸ sound.nonzero⟩
      exact sound.inside i b (Registry.registered_of_given given after).2
  | creates _ given local_ contexts =>
      refine ⟨placed, fun i b after => ?_, sound.slots.reserve given, sound.updated contexts ?_⟩
      · exact sound.inside i b (Registry.registered_of_given given after).2
      · rintro c ⟨⟩ remote
        exact absurd remote local_
  | allocates _ registry _ local_ contexts =>
      refine ⟨placed, registry ▸ sound.inside, registry ▸ sound.slots, sound.updated contexts ?_⟩
      rintro c ⟨⟩ remote
      exact absurd remote local_
  | remoteStarts _ registry index _ contexts =>
      refine ⟨placed, registry ▸ sound.inside, registry ▸ sound.slots, sound.updated contexts ?_⟩
      rintro c ⟨⟩ _
      simp [index]
  | remoteRegisters found given registered contexts =>
      obtain ⟨allocated, -, -⟩ := State.remoteContext_task found
      refine ⟨placed, fun i b after => ?_, (sound.slots.reserve given).register registered,
        sound.updated contexts ?_⟩
      · rcases Registry.registered_of_register registered after with ⟨rfl, -⟩ | ⟨-, old⟩
        · exact (Registry.reconnGetFreeClientIndex_spec given).1
        · exact sound.inside i b (Registry.registered_of_given given old).2
      · rintro _ ⟨⟩ remote
        exact Registry.index_ne_zero_of_given given (sound.nonzero _ _ allocated remote)
  | remoteStops _ _ registry contexts =>
      refine ⟨placed, fun i b after => ?_, registry ▸ sound.slots.deRegister _,
        contexts ▸ sound.nonzero⟩
      rw [registry] at after
      exact sound.inside i b (Registry.registered_of_deRegister after)
  | cleans _ swept =>
      obtain ⟨registry₀, -, scanned, registry, contexts⟩ := swept
      refine ⟨placed, fun i b after => ?_, ?_, contexts ▸ sound.nonzero⟩
      · rw [registry] at after
        have before := State.registered_of_sweep scanned after
        rw [registry₀] at before
        exact sound.inside i b before
      · rw [registry]
        exact State.sweep_keeps (fun _ index slots => slots.giveBack index) scanned
          (registry₀ ▸ sound.slots)
  | remoteFrees _ _ registry contexts =>
      exact ⟨placed, registry ▸ sound.inside, registry ▸ sound.slots,
        sound.updated contexts (by simp)⟩

namespace State

variable {s s' : State} {event : Event} {output : Output}

theorem Sound.step (sound : s.Sound) (taken : s.step event = some (s', output)) : s'.Sound :=
  (step_table taken).sound sound ((step_effect taken).wellPlaced sound.placed)

theorem sound_initial : State.initial.Sound where
  placed := wellPlaced_initial
  inside := nofun
  slots := fun _ used => absurd rfl used
  nonzero := nofun

-----------------------------------------------------------------------------------------
-- One registration
-----------------------------------------------------------------------------------------

/-- RM_SEND_DATA with an index to hand out registers the remote monitor's context there. -/
theorem step_remoteSendData {r : Addr} {c : Context} {registry : Registry} {index : Int}
    (taken : s.step .remoteSendData = some (s', output))
    (found : s.remoteContext = some (r, c))
    (given : s.registry.reconnGetFreeClientIndex c.index = some (registry, index))
    : s'.registry.activeClientsList
        = Function.update (Function.update s.registry.activeClientsList index .reserved) index
          (.registered r)
      ∧ s'.contexts = Function.update s.contexts r (some { c with index }) := by
  obtain ⟨inside, entries, -⟩ := Registry.reconnGetFreeClientIndex_spec given
  have room := (Registry.mem_indices.mp inside).2
  obtain ⟨-, -, performed⟩ := step_eq_some taken
  obtain ⟨rfl, -⟩ := Prod.mk.inj performed.symm
  simp [remoteSendData, found, reconnClientsRegistered_three, given,
    Registry.reconnRegisterClientApp, room, entries, setContext]

/-- A step that keeps the remote monitor registered once keeps to the conditions. Witness:
a second registration, and a new context at an entry that refers to its address.
-/
theorem RemoteOnce.registers (sound : s.Sound) (taken : s.step event = some (s', output))
    (once : s'.RemoteOnce)
    : s.RegistersRemoteOnce event := by
  constructor
  · rintro r c rfl found remote room i -
    obtain ⟨⟨registry, index⟩, given⟩ := Option.ne_none_iff_exists'.mp room
    obtain ⟨entries, contexts⟩ := step_remoteSendData taken found given
    obtain ⟨allocated, -, -⟩ := remoteContext_task found
    have free := (Registry.reconnGetFreeClientIndex_spec given).2.2.2.2.2
      (sound.nonzero r c allocated remote)
    have new : s'.RemoteAt index r { c with index } :=
      ⟨by rw [entries, Function.update_self], by rw [contexts, Function.update_self], remote⟩
    by_contra other
    obtain ⟨a, d, old⟩ := remoteEntry_iff.mp (Bool.eq_true_of_not_eq_false other)
    have apart : i ≠ index := by
      rintro rfl
      rw [old.registered] at free
      cases free
    have kept : s'.registry.activeClientsList i = .registered a := by
      rw [entries, Function.update_of_ne apart, Function.update_of_ne apart, old.registered]
    have second : ∃ d, s'.RemoteAt i a d := by
      by_cases same : a = r
      · subst same
        exact ⟨{ c with index }, kept, by rw [contexts, Function.update_self], remote⟩
      · exact ⟨d, kept, by rw [contexts, Function.update_of_ne same, old.allocated],
          old.remote⟩
    obtain ⟨d', second⟩ := second
    exact apart (once.entry _ _ _ _ _ _ second new)
  · rintro a rfl i member registered
    obtain ⟨-, -, performed⟩ := step_eq_some taken
    obtain ⟨rfl, -⟩ := Prod.mk.inj performed.symm
    have minusOne : -1 = i := once.index i a _ ⟨registered, Function.update_self .., rfl⟩
    obtain ⟨nonneg, -⟩ := Registry.mem_indices.mp member
    omega

/-- RM_SEND_DATA keeps the remote monitor registered once if no entry referred to a REMOTEMODE
context before. Witness: the new entry is the only one, and its context has its index.
-/
theorem RemoteOnce.of_first {r : Addr} {c : Context} {registry : Registry} {index : Int}
    (slots : s'.registry.SlotsOwned) (none : ∀ i a d, ¬ s.RemoteAt i a d)
    (found : s.remoteContext = some (r, c)) (remote : c.mode = .remoteMode)
    (given : s.registry.reconnGetFreeClientIndex c.index = some (registry, index))
    (registered : registry.reconnRegisterClientApp r index c.socketFd = some s'.registry)
    (contexts : s'.contexts = Function.update s.contexts r (some { c with index }))
    : s'.RemoteOnce := by
  have allocated := (remoteContext_task found).1
  have only {i : Int} {a : Addr} {d : Context} (after : s'.RemoteAt i a d)
      : i = index ∧ d.index = index := by
    have found := after.allocated
    rw [contexts] at found
    rcases Registry.registered_of_register registered after.registered with
      ⟨rfl, rfl⟩ | ⟨-, kept⟩
    · rw [Function.update_self] at found
      obtain rfl := Option.some.inj found
      exact ⟨rfl, rfl⟩
    · have old := (Registry.registered_of_given given kept).2
      rcases update_apply_eq_iff.mp found with ⟨rfl, -⟩ | ⟨-, found⟩
      · exact absurd ⟨old, allocated, remote⟩ (none i a c)
      · exact absurd ⟨old, found, after.remote⟩ (none i a d)
  refine .of_entries slots ?_ ?_
  · intro i j a b c d first second
    exact (only first).1.trans (only second).1.symm
  · intro i a c here
    exact (only here).2.trans (only here).1.symm

/-- Entries that were there before, over contexts that continue, keep the registration. -/
theorem RemoteOnce.continued (once : s.RemoteOnce) (slots : s'.registry.SlotsOwned)
    (entries : ∀ i a, s'.registry.activeClientsList i = .registered a
      → s.registry.activeClientsList i = .registered a)
    (contexts : ContextsContinue s.contexts s'.contexts)
    : s'.RemoteOnce := by
  refine once.of_sub slots fun i a c after => ?_
  obtain ⟨old, before, continues⟩ := contexts.origin after.allocated
  exact ⟨old, ⟨entries i a after.registered, before, continues.remote after.remote⟩,
    continues.index⟩

/-- A context that is freed or is not remote keeps the registration, also with an entry. -/
theorem RemoteOnce.updated {b : Addr} {new : Option Context} (once : s.RemoteOnce)
    (slots : s'.registry.SlotsOwned)
    (entries : ∀ i a, s'.registry.activeClientsList i = .registered a
      → a = b ∨ s.registry.activeClientsList i = .registered a)
    (contexts : s'.contexts = Function.update s.contexts b new)
    (local_ : ∀ c, new = some c → c.mode ≠ .remoteMode)
    : s'.RemoteOnce := by
  refine once.of_sub slots fun i a c after => ?_
  have allocated := after.allocated
  rw [contexts] at allocated
  rcases update_apply_eq_iff.mp allocated with ⟨-, new⟩ | ⟨other, old⟩
  · exact absurd after.remote (local_ c new)
  · have before := (entries i a after.registered).resolve_left other
    exact ⟨c, ⟨before, old, after.remote⟩, rfl⟩

/-- A client task that registers itself is not the remote monitor. -/
theorem RemoteOnce.registered {b : Addr} {c : Context} {index fd : Int} (once : s.RemoteOnce)
    (slots : s'.registry.SlotsOwned) (found : s.contexts b = some c)
    (local_ : c.mode ≠ .remoteMode)
    (registered : s.registry.reconnRegisterClientApp b index fd = some s'.registry)
    (contexts : ContextsContinue s.contexts s'.contexts)
    : s'.RemoteOnce := by
  refine once.of_sub slots fun i a d after => ?_
  obtain ⟨old, before, continues⟩ := contexts.origin after.allocated
  have remote := continues.remote after.remote
  rcases Registry.registered_of_register registered after.registered with ⟨rfl, rfl⟩ | ⟨-, kept⟩
  · obtain rfl := Option.some.inj (found.symm.trans before)
    exact absurd remote local_
  · exact ⟨old, ⟨kept, before, remote⟩, continues.index⟩

/-- A step that keeps to the conditions keeps the remote monitor registered once. Witness:
only RM_SEND_DATA refers to a REMOTEMODE context anew, and then no entry did before.
-/
theorem RegistersRemoteOnce.remoteOnce (sound : s.Sound) (once : s.RemoteOnce)
    (taken : s.step event = some (s', output)) (registers : s.RegistersRemoteOnce event)
    : s'.RemoteOnce := by
  have slots := (sound.step taken).slots
  cases step_table taken with
  | keeps registry contexts =>
      exact once.continued slots (fun i a => by rw [registry]; exact id) contexts
  | registers found runs registered contexts =>
      exact once.registered slots found (sound.placed.local_ found runs).2 registered contexts
  | leaves _ _ registry contexts =>
      refine once.updated slots (fun i a after => .inr ?_) contexts (by simp)
      rw [registry] at after
      exact Registry.registered_of_giveBack after
  | openFails _ _ _ registry contexts =>
      refine once.updated slots (fun i a after => .inr ?_) contexts (by simp)
      rwa [registry] at after
  | unregistered handles outside =>
      exact absurd (sound.placed.index_lt handles.toTurns) (not_lt.mpr outside)
  | reserves given contexts =>
      refine once.continued slots (fun i a after => ?_) (contexts ▸ .refl _)
      exact (Registry.registered_of_given given after).2
  | creates _ given local_ contexts =>
      refine once.updated slots (fun i a after => .inr ?_) contexts ?_
      · exact (Registry.registered_of_given given after).2
      · rintro c ⟨⟩
        exact local_
  | allocates _ registry _ local_ contexts =>
      refine once.updated slots (fun i a after => .inr ?_) contexts ?_
      · rwa [registry] at after
      · rintro c ⟨⟩
        exact local_
  | @remoteStarts b c _ _ registry _ _ contexts =>
      refine once.of_sub slots fun i a d after => ?_
      have registered := after.registered
      rw [registry] at registered
      have other : a ≠ b := by
        rintro rfl
        exact registers.start a rfl i (sound.inside i a registered) registered
      have allocated := after.allocated
      rw [contexts, Function.update_of_ne other] at allocated
      exact ⟨d, ⟨registered, allocated, after.remote⟩, rfl⟩
  | @remoteRegisters r c registry index _ found given registered contexts =>
      by_cases remote : c.mode = .remoteMode
      · have none (i : Int) (a : Addr) (d : Context) : ¬ s.RemoteAt i a d := by
          intro here
          have member := sound.inside i a here.registered
          have empty := registers.sendData r c rfl found remote (by simp [given]) i member
          exact absurd (remoteEntry_iff.mpr ⟨a, d, here⟩) (by simp [empty])
        exact .of_first slots none found remote given registered contexts
      · refine once.updated slots (fun i a after => ?_) contexts ?_
        · rcases Registry.registered_of_register registered after with ⟨-, same⟩ | ⟨-, kept⟩
          · exact .inl same
          · exact .inr (Registry.registered_of_given given kept).2
        · rintro _ ⟨⟩
          exact remote
  | remoteStops _ _ registry contexts =>
      refine once.continued slots (fun i a after => ?_) (contexts ▸ .refl _)
      rw [registry] at after
      exact Registry.registered_of_deRegister after
  | cleans _ swept =>
      obtain ⟨registry₀, -, scanned, registry, contexts⟩ := swept
      refine once.continued slots (fun i a after => ?_) (contexts ▸ .refl _)
      rw [registry] at after
      exact registry₀ ▸ registered_of_sweep scanned after
  | remoteFrees _ _ registry contexts =>
      refine once.updated slots (fun i a after => .inr ?_) contexts (by simp)
      rwa [registry] at after

/-- A clean-up leaves no entry that refers to a REMOTEMODE context. Witness: the sweep frees
the entry at the context's own index, which is the one it visits.
-/
theorem Swept.unregistered (once : s.RemoteOnce) (swept : s.Swept s')
    : ∀ i ∈ Registry.indices, s'.remoteEntry i = false := by
  obtain ⟨registry₀, contexts₀, scanned, registry, contexts⟩ := swept
  rename_i s₀ swept
  let Cleared (rest : List Int) (state : State) : Prop :=
    state.contexts = s.contexts
      ∧ (∀ i a, state.registry.activeClientsList i = .registered a
        → s.registry.activeClientsList i = .registered a)
      ∧ ∀ i ∈ Registry.indices, i ∉ rest → ∀ a c, ¬ state.RemoteAt i a c
  have keep (item : Int) (rest : List Int) (state next : State)
      (known : Cleared (item :: rest) state) (visited : state.cleanupEntry item = some next)
      : Cleared rest next := by
    obtain ⟨same, older, cleared⟩ := known
    have kept := (cleanupEntry_frame visited).2
    have before {i : Int} {a : Addr}
        (after : next.registry.activeClientsList i = .registered a)
        : state.registry.activeClientsList i = .registered a := by
      rcases cleanupEntry_registry visited with unchanged | ⟨index, given⟩
      · rwa [unchanged] at after
      · rw [given] at after
        exact Registry.registered_of_giveBack after
    refine ⟨kept.trans same, fun i a after => older i a (before after), ?_⟩
    intro i member gone a c after
    have registered := before after.registered
    have allocated : state.contexts a = some c := kept ▸ after.allocated
    by_cases here : i = item
    · subst here
      have index : c.index = i :=
        once.index i a c ⟨older i a registered, same ▸ allocated, after.remote⟩
      have room := (Registry.mem_indices.mp member).2
      simp only [cleanupEntry, registered, allocated, Option.map_some, after.remote, if_true,
        Option.some.injEq] at visited
      subst visited
      have entry := after.registered
      simp [index, Registry.reconnDeRegisterClientApp, Registry.reconnReturnClientIndex,
        room] at entry
    · exact cleared i member (by simp [here, gone]) a c
        ⟨registered, allocated, after.remote⟩
  have final : Cleared [] swept :=
    foldlM_invariant Cleared keep
      ⟨contexts₀, fun i a => by rw [registry₀]; exact id,
        fun i member gone => absurd member gone⟩ scanned
  obtain ⟨same, -, cleared⟩ := final
  intro i member
  refine Bool.eq_false_iff.mpr fun here => ?_
  obtain ⟨a, c, after⟩ := remoteEntry_iff.mp here
  refine cleared i member (by simp) a c ⟨?_, ?_, after.remote⟩
  · exact registry ▸ after.registered
  · rw [same, ← contexts]
    exact after.allocated

theorem remoteOnce_initial : State.initial.RemoteOnce := by
  have nobody (i : Int) (a : Addr) (c : Context) : ¬ State.initial.RemoteAt i a c :=
    fun here => nomatch here.registered
  exact .of_entries sound_initial.slots
    (fun i _ a _ c _ first _ => absurd first (nobody i a c))
    (fun i a c here => absurd here (nobody i a c))

/-- A step keeps the remote monitor registered once exactly if it keeps to the conditions. -/
theorem remoteOnce_iff (sound : s.Sound) (once : s.RemoteOnce)
    (taken : s.step event = some (s', output))
    : s'.RemoteOnce ↔ s.RegistersRemoteOnce event :=
  ⟨RemoteOnce.registers sound taken, RegistersRemoteOnce.remoteOnce sound once taken⟩

end State

/-- After the step at most one entry and one socket refer to a REMOTEMODE context, at its own
index, and no entry does if the step was a clean-up.
-/
def RegisteredOnce (t : Transition State Event Output) : Prop :=
  t.after.RemoteOnce
    ∧ (t.before.cleansUp t.event → t.after.halted = false
      → ∀ i ∈ Registry.indices, t.after.remoteEntry i = false)

/-- In a run at most one entry and one socket refer to a REMOTEMODE context, at its own
index, and none after a clean-up, exactly if RM_SEND_DATA gets an index only while no entry
refers to one, and the remote monitor's context is allocated where no entry points.
-/
theorem remoteOnce_throughout_iff {transitions : List (Transition State Event Output)}
    {finish : State} (run : State.Runs .initial transitions finish)
    : (∀ t ∈ transitions, RegisteredOnce t)
      ↔ ∀ t ∈ transitions, t.before.RegistersRemoteOnce t.event := by
  have exactly := run.forall_after_iff
    (fun _ _ _ _ sound taken => State.Sound.step sound taken)
    (fun _ _ _ _ sound once taken => State.remoteOnce_iff sound once taken)
    State.sound_initial State.remoteOnce_initial
  constructor
  · intro holds
    exact exactly.mp fun t member => (holds t member).1
  · intro registers
    have keep (s : State) (event : Event) (s' : State) (output : Output)
        (known : s.Sound ∧ s.RemoteOnce) (registers : s.RegistersRemoteOnce event)
        (taken : s.step event = some (s', output))
        : s'.Sound ∧ s'.RemoteOnce :=
      ⟨known.1.step taken, registers.remoteOnce known.1 known.2 taken⟩
    have around := run.invariant keep
      ⟨State.sound_initial, State.remoteOnce_initial⟩ registers
    intro t member
    obtain ⟨before, after⟩ := around.1 t member
    refine ⟨after.2, fun cleanup defined => ?_⟩
    have swept := State.swept_of_cleansUp (run.taken t member) cleanup defined
    exact swept.unregistered before.2

/-- An event that neither starts the remote monitor nor has it register its client. -/
theorem State.registersRemoteOnce_of_quiet {s : State} {event : Event}
    (noSend : event ≠ .remoteSendData) (noStart : ∀ a, event ≠ .remoteStart (some a))
    : s.RegistersRemoteOnce event where
  sendData := fun _ _ sends => absurd sends noSend
  start := fun a starts => absurd starts (noStart a)

/-- The remote client is registered, stopped, registered again and cleaned up. -/
theorem remoteOnce_of_deactivation
    : (replay State.step .initial
        (remoteData ++ [.remoteStopData, .remoteSendData, .remoteDeactivate])).1.Forall
        RegisteredOnce := by
  refine List.forall_iff_forall_mem.mpr ((remoteOnce_throughout_iff (replay_run _ _)).mpr ?_)
  refine forall_replay_cons rfl (State.registersRemoteOnce_of_quiet (by simp) (by simp)) ?_
  refine forall_replay_cons rfl (State.registersRemoteOnce_of_quiet (by simp) (by simp)) ?_
  refine forall_replay_cons rfl (State.registersRemoteOnce_of_quiet nofun nofun) ?_
  refine forall_replay_cons rfl (State.registersRemoteOnce_of_quiet (by simp) (by simp)) ?_
  refine forall_replay_cons rfl ⟨by simp, ?_⟩ ?_
  · rintro a ⟨⟩
    decide +kernel
  refine forall_replay_cons rfl ⟨fun _ _ _ _ _ _ => by decide +kernel, by simp⟩ ?_
  refine forall_replay_cons rfl (State.registersRemoteOnce_of_quiet (by simp) (by simp)) ?_
  refine forall_replay_cons rfl ⟨fun _ _ _ _ _ _ => by decide +kernel, by simp⟩ ?_
  exact forall_replay_cons rfl (State.registersRemoteOnce_of_quiet (by simp) (by simp))
    (forall_replay_nil _)

/-- A second RM_SEND_DATA registers the remote client at a second index. -/
theorem sendData_twice
    : ¬ ∀ transitions finish, State.Runs .initial transitions finish
        → ∀ t ∈ transitions, RegisteredOnce t := by
  intro always
  have last := always _ _ (replay_run State.initial (remoteData ++ [.remoteSendData]))
    _ (List.mem_of_getElem? (i := 6) rfl)
  let s := (replay State.step .initial (remoteData ++ [.remoteSendData])).2
  obtain ⟨a, c, first⟩ := State.remoteEntry_iff.mp
    (by decide +kernel : s.remoteEntry 2 = true)
  obtain ⟨b, d, second⟩ := State.remoteEntry_iff.mp
    (by decide +kernel : s.remoteEntry 3 = true)
  exact absurd (last.1.entry 2 3 a b c d first second) (by decide)

end Reconn.Client
