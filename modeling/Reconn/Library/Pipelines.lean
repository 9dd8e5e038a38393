import Reconn.Library.TransitionRuns

/-! Machines that something passes through in order. What a state still holds and what goes in
behind it is what comes out and what is held then, so nothing is lost, doubled or overtaken.
-/

namespace Pipelines

open TransitionRuns

variable {σ ε ω α : Type*}

/-- What goes in at a transition joins what is held, and what comes out is what was held first.
-/
def Passes (held : σ → List α) (into out : Transition σ ε ω → List α)
    (t : Transition σ ε ω)
    : Prop :=
  held t.before ++ into t = out t ++ held t.after

variable {step : σ → ε → Option (σ × ω)} {start finish : σ}
  {transitions : List (Transition σ ε ω)} {held : σ → List α}
  {into out : Transition σ ε ω → List α}

/-- What each transition passes a whole run passes, by induction on the run. -/
theorem passes_run (run : Run step start transitions finish)
    (each : ∀ t ∈ transitions, Passes held into out t)
    : held start ++ transitions.flatMap into = transitions.flatMap out ++ held finish := by
  induction run with
  | nil => rw [List.flatMap_nil, List.flatMap_nil, List.append_nil, List.nil_append]
  | cons _ _ ih =>
      obtain ⟨first, others⟩ := List.forall_mem_cons.mp each
      have now : _ ++ into _ = out _ ++ _ := first
      rw [List.flatMap_cons, List.flatMap_cons, ← List.append_assoc, now, List.append_assoc,
        ih others, List.append_assoc]

/-- Where every state in which a measure is not zero has an allowed step that makes it smaller,
allowed steps lead to a state in which it is zero, by induction on the measure.
-/
theorem exists_run_of_measure {Inv : σ → Prop} {Allowed : Transition σ ε ω → Prop}
    (measure : σ → Nat)
    (goesOn : ∀ s, Inv s → measure s ≠ 0 → ∃ event s' output,
      step s event = some (s', output) ∧ Allowed ⟨s, event, output, s'⟩ ∧ Inv s'
        ∧ measure s' < measure s)
    (s : σ) (holds : Inv s)
    : ∃ later finish, Run step s later finish ∧ (∀ t ∈ later, Allowed t) ∧ Inv finish
      ∧ measure finish = 0 := by
  induction size : measure s using Nat.strongRecOn generalizing s with
  | ind n ih =>
      by_cases done : n = 0
      · exact ⟨[], s, .nil s, List.forall_mem_nil _, holds, size.trans done⟩
      · obtain ⟨event, next, output, taken, allowed, kept, less⟩ :=
          goesOn s holds (size ▸ done)
        obtain ⟨later, finish, run, others, last, zero⟩ := ih _ (size ▸ less) next kept rfl
        exact ⟨_, finish, .cons taken run, List.forall_mem_cons.mpr ⟨allowed, others⟩, last, zero⟩

end Pipelines
