import Mathlib.Data.List.Basic

/-! Runs of a deterministic machine that may refuse an event.
A run lists its transitions with the states around them, so that conditions on single steps
and facts about every reached state can be stated over it.
-/

namespace TransitionRuns

variable {σ ε ω η : Type*}

/-- One step of a run: the state it starts from, its event, what it puts out and the state
it ends in.
-/
structure Transition (σ ε ω : Type*) where
  before : σ
  event : ε
  output : ω
  after : σ

/-- (Run step start transitions finish) holds if the machine takes these transitions, each
from where the last one ended.
-/
inductive Run (step : σ → ε → Option (σ × ω)) : σ → List (Transition σ ε ω) → σ → Prop where
  | nil (state : σ) : Run step state [] state
  | cons {state next finish : σ} {event : ε} {output : ω}
      {rest : List (Transition σ ε ω)}
      (taken : step state event = some (next, output)) (later : Run step next rest finish)
      : Run step state (⟨state, event, output, next⟩ :: rest) finish

/-- The transitions of a machine over events, up to the first one it refuses, and the state
it is in then.
-/
def replay (step : σ → ε → Option (σ × ω))
    : σ → List ε → List (Transition σ ε ω) × σ
  | state, [] => ([], state)
  | state, event :: rest =>
      match step state event with
      | none => ([], state)
      | some (next, output) =>
          let later := replay step next rest
          (⟨state, event, output, next⟩ :: later.1, later.2)

variable {step : σ → ε → Option (σ × ω)}

/-- Replayed events are a run, by induction on the events. -/
theorem replay_run (state : σ) (events : List ε)
    : Run step state (replay step state events).1 (replay step state events).2 := by
  induction events generalizing state with
  | nil => exact .nil _
  | cons event rest ih =>
      cases taken : step state event with
      | none =>
          simp only [replay, taken]
          exact .nil _
      | some result =>
          simp only [replay, taken]
          exact .cons taken (ih _)

/-- The transitions of replayed events are on these events, by induction on the events. -/
theorem event_mem_of_mem_replay {state : σ} {events : List ε} {t : Transition σ ε ω}
    (member : t ∈ (replay step state events).1)
    : t.event ∈ events := by
  induction events generalizing state with
  | nil => cases member
  | cons event rest ih =>
      cases taken : step state event with
      | none => simp only [replay, taken, List.not_mem_nil] at member
      | some result =>
          simp only [replay, taken, List.mem_cons] at member
          rcases member with rfl | later
          · exact List.mem_cons_self
          · exact List.mem_cons_of_mem event (ih later)

/-- A machine that refuses no event takes all of them, by induction on the events. -/
theorem events_replay (total : ∀ state event, (step state event).isSome = true) (state : σ)
    (events : List ε)
    : (replay step state events).1.map Transition.event = events := by
  induction events generalizing state with
  | nil => rfl
  | cons event rest ih =>
      obtain ⟨result, taken⟩ := Option.isSome_iff_exists.mp (total state event)
      simp only [replay, taken, List.map_cons, ih]

/-- A condition on the transitions of replayed events is checked one event at a time. -/
theorem forall_replay_cons {P : Transition σ ε ω → Prop} {state next : σ} {event : ε}
    {output : ω} {rest : List ε} (taken : step state event = some (next, output))
    (first : P ⟨state, event, output, next⟩) (later : ∀ t ∈ (replay step next rest).1, P t)
    : ∀ t ∈ (replay step state (event :: rest)).1, P t := by
  simp only [replay, taken]
  exact List.forall_mem_cons.mpr ⟨first, later⟩

theorem forall_replay_nil {P : Transition σ ε ω → Prop} (state : σ)
    : ∀ t ∈ (replay step state []).1, P t :=
  List.forall_mem_nil _

/-- (Throughout record P past transitions) holds if P holds of every transition and the
history recorded up to it.
-/
def Throughout (record : η → Transition σ ε ω → η) (P : η → Transition σ ε ω → Prop)
    : η → List (Transition σ ε ω) → Prop
  | _, [] => True
  | past, transition :: rest =>
      P past transition ∧ Throughout record P (record past transition) rest

instance decidableThroughout (record : η → Transition σ ε ω → η)
    (P : η → Transition σ ε ω → Prop) [∀ past transition, Decidable (P past transition)]
    : (past : η) → (transitions : List (Transition σ ε ω))
      → Decidable (Throughout record P past transitions)
  | _, [] => isTrue trivial
  | past, transition :: rest =>
      have : Decidable (Throughout record P (record past transition) rest) :=
        decidableThroughout record P (record past transition) rest
      inferInstanceAs (Decidable (_ ∧ _))

/-- A condition on replayed events with their history is checked one event at a time. -/
theorem throughout_replay_cons {record : η → Transition σ ε ω → η}
    {P : η → Transition σ ε ω → Prop} {past : η} {state next : σ} {event : ε} {output : ω}
    {rest : List ε} (taken : step state event = some (next, output))
    : Throughout record P past (replay step state (event :: rest)).1
      ↔ P past ⟨state, event, output, next⟩
        ∧ Throughout record P (record past ⟨state, event, output, next⟩)
          (replay step next rest).1 := by
  simp only [replay, taken, Throughout]

/-- What each turn of a scan that may fail keeps of the items still to come and the state is
left at its end, by induction on the items.
-/
theorem foldlM_invariant (Inv : List ε → σ → Prop) {visit : σ → ε → Option σ}
    (keep : ∀ item rest state next,
      Inv (item :: rest) state → visit state item = some next → Inv rest next)
    {items : List ε} {start finish : σ} (initially : Inv items start)
    (scanned : items.foldlM visit start = some finish)
    : Inv [] finish := by
  induction items generalizing start with
  | nil =>
      obtain rfl := Option.some.inj scanned
      exact initially
  | cons item rest ih =>
      obtain ⟨next, visited, later⟩ := Option.bind_eq_some_iff.mp scanned
      exact ih (keep item rest start next initially visited) later

/-- A scan whose visits commute with a change of the state commutes with it, by induction on
the items.
-/
theorem foldlM_map {change : σ → σ} {visit : σ → ε → Option σ}
    (commutes : ∀ state item, visit (change state) item = (visit state item).map change)
    (items : List ε) (state : σ)
    : items.foldlM visit (change state) = (items.foldlM visit state).map change := by
  induction items generalizing state with
  | nil => rfl
  | cons item rest ih =>
      rw [List.foldlM_cons, List.foldlM_cons, commutes]
      cases visit state item with
      | none => rfl
      | some next => exact ih next

/-- A weaker condition holds throughout as well, by induction on the transitions. -/
theorem Throughout.imp {record : η → Transition σ ε ω → η} {P Q : η → Transition σ ε ω → Prop}
    (weaker : ∀ past transition, P past transition → Q past transition) {past : η}
    {transitions : List (Transition σ ε ω)} (holds : Throughout record P past transitions)
    : Throughout record Q past transitions := by
  induction transitions generalizing past with
  | nil => trivial
  | cons transition rest ih => exact ⟨weaker past transition holds.1, ih holds.2⟩

/-- A condition that does not look at the history, by induction on the transitions. -/
theorem throughout_const {record : η → Transition σ ε ω → η} {P : Transition σ ε ω → Prop}
    (past : η) (transitions : List (Transition σ ε ω))
    : Throughout record (fun _ transition => P transition) past transitions
      ↔ ∀ transition ∈ transitions, P transition := by
  induction transitions generalizing past with
  | nil => simp [Throughout]
  | cons transition rest ih => rw [List.forall_mem_cons, Throughout, ih]

/-- Two conditions hold throughout if each does, by induction on the transitions. -/
theorem throughout_and {record : η → Transition σ ε ω → η} {P Q : η → Transition σ ε ω → Prop}
    (past : η) (transitions : List (Transition σ ε ω))
    : Throughout record (fun past transition => P past transition ∧ Q past transition) past
        transitions
      ↔ Throughout record P past transitions ∧ Throughout record Q past transitions := by
  induction transitions generalizing past with
  | nil => simp [Throughout]
  | cons transition rest ih =>
      simp only [Throughout, ih]
      exact and_and_and_comm

/-- A scan that collects what its visits return succeeds if every visit does, by induction on
the items.
-/
theorem isSome_mapM {ι α : Type*} {visit : ι → Option α} (items : List ι)
    : (items.mapM visit).isSome = true ↔ ∀ item ∈ items, (visit item).isSome = true := by
  induction items with
  | nil => simp
  | cons item rest ih =>
      rw [List.forall_mem_cons, ← ih, List.mapM_cons]
      cases visit item <;> cases rest.mapM visit <;> simp

/-- What a scan has collected was returned by its visits, by induction on the items. -/
theorem visit_of_mem_mapM {ι α : Type*} {visit : ι → Option α} {items : List ι}
    {collected : List α} (scanned : items.mapM visit = some collected) {result : α}
    (member : result ∈ collected)
    : ∃ item ∈ items, visit item = some result := by
  induction items generalizing collected with
  | nil =>
      obtain rfl := Option.some.inj scanned
      cases member
  | cons item rest ih =>
      rw [List.mapM_cons] at scanned
      obtain ⟨first, visited, scanned⟩ := Option.bind_eq_some_iff.mp scanned
      obtain ⟨others, later, same⟩ := Option.bind_eq_some_iff.mp scanned
      obtain rfl := Option.some.inj same
      rcases List.mem_cons.mp member with rfl | member
      · exact ⟨item, List.mem_cons_self .., visited⟩
      · obtain ⟨found, inside, returned⟩ := ih later member
        exact ⟨found, List.mem_cons_of_mem item inside, returned⟩

namespace Run

/-- Every transition of a run is a step of the machine. -/
theorem taken {start finish : σ} {transitions : List (Transition σ ε ω)}
    (run : Run step start transitions finish)
    : ∀ transition ∈ transitions,
        step transition.before transition.event
          = some (transition.after, transition.output) := by
  induction run with
  | nil => simp
  | cons taken _ ih =>
      intro transition member
      rcases List.mem_cons.mp member with rfl | member
      · exact taken
      · exact ih transition member

/-- A fact that each allowed step keeps holds around every transition of a run of allowed
steps, by induction on the run.
-/
theorem invariant {Inv : σ → Prop} {Allowed : σ → ε → Prop}
    (keep : ∀ state event next output,
      Inv state → Allowed state event → step state event = some (next, output) → Inv next)
    {start finish : σ} {transitions : List (Transition σ ε ω)}
    (run : Run step start transitions finish) (initially : Inv start)
    (allowed : ∀ transition ∈ transitions, Allowed transition.before transition.event)
    : (∀ transition ∈ transitions, Inv transition.before ∧ Inv transition.after)
      ∧ Inv finish := by
  induction run with
  | nil => exact ⟨by simp, initially⟩
  | cons taken _ ih =>
      obtain ⟨first, others⟩ := List.forall_mem_cons.mp allowed
      have next := keep _ _ _ _ initially first taken
      obtain ⟨around, last⟩ := ih next others
      exact ⟨List.forall_mem_cons.mpr ⟨⟨initially, next⟩, around⟩, last⟩

/-- A fact that every step keeps holds around every transition of any run. -/
theorem invariant_always {Inv : σ → Prop}
    (keep : ∀ state event next output,
      Inv state → step state event = some (next, output) → Inv next)
    {start finish : σ} {transitions : List (Transition σ ε ω)}
    (run : Run step start transitions finish) (initially : Inv start)
    : (∀ transition ∈ transitions, Inv transition.before ∧ Inv transition.after)
      ∧ Inv finish := by
  have keep' : ∀ state event next output,
      Inv state → True → step state event = some (next, output) → Inv next :=
    fun state event next output holds _ => keep state event next output holds
  exact run.invariant keep' initially (by simp)

/-- Where each step keeps a relation between the recorded history and the state, conditions
that agree on steps from related states agree throughout a run, by induction on the run.
-/
theorem throughout_iff {Related : η → σ → Prop} {record : η → Transition σ ε ω → η}
    {P Q : η → Transition σ ε ω → Prop}
    (keep : ∀ past (transition : Transition σ ε ω),
      Related past transition.before
        → step transition.before transition.event
          = some (transition.after, transition.output)
        → Related (record past transition) transition.after)
    (agree : ∀ past (transition : Transition σ ε ω),
      Related past transition.before
        → step transition.before transition.event
          = some (transition.after, transition.output)
        → (P past transition ↔ Q past transition))
    {start finish : σ} {transitions : List (Transition σ ε ω)}
    (run : Run step start transitions finish) (past : η) (related : Related past start)
    : Throughout record P past transitions ↔ Throughout record Q past transitions := by
  induction run generalizing past with
  | nil => exact Iff.rfl
  | cons taken _ ih =>
      exact and_congr (agree past ⟨_, _, _, _⟩ related taken)
        (ih _ (keep past ⟨_, _, _, _⟩ related taken))

/-- Where each step that one condition holds at keeps a relation between the recorded history
and the state, and a second condition holds at it, the second holds throughout a run that the
first holds throughout, by induction on the run.
-/
theorem throughout_of_throughout {R : η → σ → Prop} {record : η → Transition σ ε ω → η}
    {P Q : η → Transition σ ε ω → Prop}
    (keep : ∀ past (transition : Transition σ ε ω),
      R past transition.before → Q past transition
        → step transition.before transition.event
          = some (transition.after, transition.output)
        → R (record past transition) transition.after ∧ P past transition)
    {start finish : σ} {transitions : List (Transition σ ε ω)}
    (run : Run step start transitions finish) (past : η) (related : R past start)
    (holds : Throughout record Q past transitions)
    : Throughout record P past transitions := by
  induction run generalizing past with
  | nil => trivial
  | cons taken _ ih =>
      obtain ⟨next, first⟩ := keep past ⟨_, _, _, _⟩ related holds.1 taken
      exact ⟨first, ih _ next holds.2⟩

/-- The same for a condition on the events that does not look at the history. -/
theorem throughout_of_allowed {R : η → σ → Prop} {record : η → Transition σ ε ω → η}
    {P : η → Transition σ ε ω → Prop} {Allowed : σ → ε → Prop}
    (keep : ∀ past (transition : Transition σ ε ω),
      R past transition.before → Allowed transition.before transition.event
        → step transition.before transition.event
          = some (transition.after, transition.output)
        → R (record past transition) transition.after ∧ P past transition)
    {start finish : σ} {transitions : List (Transition σ ε ω)}
    (run : Run step start transitions finish) (past : η) (related : R past start)
    (allowed : ∀ transition ∈ transitions, Allowed transition.before transition.event)
    : Throughout record P past transitions :=
  run.throughout_of_throughout keep past related ((throughout_const past transitions).mpr allowed)

/-- The same where every step is allowed. -/
theorem throughout {R : η → σ → Prop} {record : η → Transition σ ε ω → η}
    {P : η → Transition σ ε ω → Prop}
    (keep : ∀ past (transition : Transition σ ε ω),
      R past transition.before
        → step transition.before transition.event
          = some (transition.after, transition.output)
        → R (record past transition) transition.after ∧ P past transition)
    {start finish : σ} {transitions : List (Transition σ ε ω)}
    (run : Run step start transitions finish) (past : η) (related : R past start)
    : Throughout record P past transitions := by
  let Allowed (_ : σ) (_ : ε) : Prop := True
  have keep' (past : η) (transition : Transition σ ε ω) (related : R past transition.before)
      (_ : Allowed transition.before transition.event)
      (taken : step transition.before transition.event
        = some (transition.after, transition.output))
      : R (record past transition) transition.after ∧ P past transition :=
    keep past transition related taken
  exact run.throughout_of_allowed keep' past related fun _ _ => trivial

/-- Where an allowed step is exactly one that a condition holds at, and allowed steps keep a
relation between the recorded history and the state, the condition holds throughout a run
exactly if every step is allowed, by induction on the run.
-/
theorem throughout_iff_allowed {Related : η → σ → Prop} {record : η → Transition σ ε ω → η}
    {P : η → Transition σ ε ω → Prop} {Allowed : σ → ε → Prop}
    (exactly : ∀ past (transition : Transition σ ε ω),
      Related past transition.before
        → step transition.before transition.event
          = some (transition.after, transition.output)
        → (P past transition ↔ Allowed transition.before transition.event))
    (keep : ∀ past (transition : Transition σ ε ω),
      Related past transition.before
        → step transition.before transition.event
          = some (transition.after, transition.output)
        → Allowed transition.before transition.event
        → Related (record past transition) transition.after)
    {start finish : σ} {transitions : List (Transition σ ε ω)}
    (run : Run step start transitions finish) (past : η) (related : Related past start)
    : Throughout record P past transitions
      ↔ ∀ transition ∈ transitions, Allowed transition.before transition.event := by
  induction run generalizing past with
  | nil => simp [Throughout]
  | cons taken _ ih =>
      rw [List.forall_mem_cons, Throughout]
      have first := exactly past ⟨_, _, _, _⟩ related taken
      constructor
      · rintro ⟨holds, later⟩
        have next := keep past ⟨_, _, _, _⟩ related taken (first.mp holds)
        exact ⟨first.mp holds, (ih _ next).mp later⟩
      · rintro ⟨allowed, later⟩
        have next := keep past ⟨_, _, _, _⟩ related taken allowed
        exact ⟨first.mpr allowed, (ih _ next).mpr later⟩

/-- Where an allowed step is exactly one that keeps a property, next to a fact that every
step keeps, the property holds after every transition of a run exactly if every step is
allowed.
-/
theorem forall_after_iff {Inv P : σ → Prop} {Allowed : σ → ε → Prop}
    (keep : ∀ state event next output,
      Inv state → step state event = some (next, output) → Inv next)
    (exactly : ∀ state event next output,
      Inv state → P state → step state event = some (next, output)
        → (P next ↔ Allowed state event))
    {start finish : σ} {transitions : List (Transition σ ε ω)}
    (run : Run step start transitions finish) (known : Inv start) (initially : P start)
    : (∀ transition ∈ transitions, P transition.after)
      ↔ ∀ transition ∈ transitions, Allowed transition.before transition.event := by
  let Related (_ : Unit) (state : σ) : Prop := Inv state ∧ P state
  have agree (past : Unit) (t : Transition σ ε ω) (related : Related past t.before)
      (taken : step t.before t.event = some (t.after, t.output))
      : P t.after ↔ Allowed t.before t.event :=
    exactly _ _ _ _ related.1 related.2 taken
  have next (past : Unit) (t : Transition σ ε ω) (related : Related past t.before)
      (taken : step t.before t.event = some (t.after, t.output))
      (allowed : Allowed t.before t.event)
      : Related ((fun _ _ => ()) past t) t.after :=
    ⟨keep _ _ _ _ related.1 taken, (agree past t related taken).mpr allowed⟩
  have whole : Throughout (fun _ _ => ()) (fun _ t => P t.after) () transitions ↔ _ :=
    run.throughout_iff_allowed agree next () ⟨known, initially⟩
  exact (throughout_const () transitions).symm.trans whole

end Run

end TransitionRuns
