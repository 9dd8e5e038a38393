import Mathlib.Data.List.Infix

/-! Machines that answer each input with a new state and a list of outputs.
A run concatenates the answers, so it is independent of how the input is cut into chunks.
-/

namespace MealyRuns

variable {σ α β : Type*}

/-- The run of a machine over a list of inputs, with all outputs in order. -/
def run (step : σ → α → σ × List β) : σ → List α → σ × List β
  | state, [] => (state, [])
  | state, input :: rest =>
      let next := step state input
      let later := run step next.1 rest
      (later.1, next.2 ++ later.2)

@[simp]
theorem run_nil (step : σ → α → σ × List β) (state : σ) : run step state [] = (state, []) :=
  rfl

@[simp]
theorem run_cons (step : σ → α → σ × List β) (state : σ) (input : α) (rest : List α)
    : run step state (input :: rest)
      = ((run step (step state input).1 rest).1,
          (step state input).2 ++ (run step (step state input).1 rest).2) :=
  rfl

/-- A run over appended inputs continues from the first run's state, by induction on the
first input list.
-/
theorem run_append (step : σ → α → σ × List β) (state : σ) (first second : List α)
    : run step state (first ++ second)
      = ((run step (run step state first).1 second).1,
          (run step state first).2 ++ (run step (run step state first).1 second).2) := by
  induction first generalizing state with
  | nil => simp
  | cons input rest ih => simp [ih]

/-- Feeding chunks in order is feeding their concatenation, by induction on the chunks. -/
theorem run_flatten (step : σ → α → σ × List β) (state : σ) (chunks : List (List α))
    : run (run step) state chunks = run step state chunks.flatten := by
  induction chunks generalizing state with
  | nil => simp
  | cons chunk rest ih => simp [run_append, ih]

/-- Every output is justified by the inputs consumed up to it.
`Related` ties the state to the consumed inputs and `Justified` is what each step owes its
outputs. Witness: induction on the remaining inputs, extending the consumed part by one.
-/
theorem run_justified {step : σ → α → σ × List β} {Related : List α → σ → Prop}
    (Justified : List α → β → Prop)
    (keep : ∀ past state input,
      Related past state
        → Related (past ++ [input]) (step state input).1
          ∧ ∀ output ∈ (step state input).2, Justified (past ++ [input]) output)
    (past : List α) (state : σ) (related : Related past state) (inputs : List α)
    {output : β} (member : output ∈ (run step state inputs).2)
    : ∃ consumed, consumed <+: inputs ∧ Justified (past ++ consumed) output := by
  induction inputs generalizing past state with
  | nil => simp at member
  | cons input rest ih =>
      obtain ⟨next, justified⟩ := keep past state input related
      rw [run_cons] at member
      rcases List.mem_append.mp member with now | later
      · exact ⟨[input], by simp, justified output now⟩
      · obtain ⟨consumed, isPrefix, holds⟩ := ih (past ++ [input]) _ next later
        refine ⟨input :: consumed, ?_, ?_⟩
        · exact List.cons_prefix_cons.mpr ⟨rfl, isPrefix⟩
        · simpa using holds

end MealyRuns
