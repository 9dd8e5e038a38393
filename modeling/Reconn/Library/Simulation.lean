import Reconn.Library.TransitionRuns

/-! Runs of a machine that are followed by an abstract one. The abstract machine may do nothing,
or take several steps, while the other takes one; what both put out is the same.
-/

namespace Simulation

open TransitionRuns

variable {σ ε ω τ : Type*}

/-- (Walk next start outputs finish) holds if the abstract machine comes from one state to the
other with these outputs.
-/
inductive Walk (next : τ → List ω → τ → Prop) : τ → List ω → τ → Prop where
  | stay (t : τ) : Walk next t [] t
  | go {t middle finish : τ} {output rest : List ω} (first : next t output middle)
      (later : Walk next middle rest finish)
      : Walk next t (output ++ rest) finish

variable {next : τ → List ω → τ → Prop}

theorem Walk.single {t t' : τ} {output : List ω} (first : next t output t')
    : Walk next t output t' := by
  have walk := Walk.go first (.stay t')
  rwa [List.append_nil] at walk

theorem Walk.trans {t middle finish : τ} {outputs more : List ω}
    (walk : Walk next t outputs middle) (later : Walk next middle more finish)
    : Walk next t (outputs ++ more) finish := by
  induction walk with
  | stay => exact later
  | go first _ ih =>
      rw [List.append_assoc]
      exact .go first (ih later)

/-- (Follows step next R) holds if the abstract machine follows every step of the other from
states that `R` relates to states that it relates.
-/
def Follows (step : σ → ε → Option (σ × List ω)) (next : τ → List ω → τ → Prop)
    (R : σ → τ → Prop)
    : Prop :=
  ∀ s event s' output t, R s t → step s event = some (s', output)
    → ∃ t', Walk next t output t' ∧ R s' t'

/-- What a run has put out. -/
def outputs (transitions : List (Transition σ ε (List ω))) : List ω :=
  transitions.flatMap Transition.output

/-- A machine that follows single steps follows whole runs, by induction on the run. -/
theorem Follows.run {step : σ → ε → Option (σ × List ω)} {R : σ → τ → Prop}
    (follows : Follows step next R) {start finish : σ}
    {transitions : List (Transition σ ε (List ω))} (run : Run step start transitions finish)
    {t : τ} (related : R start t)
    : ∃ t', Walk next t (outputs transitions) t' ∧ R finish t' := by
  induction run generalizing t with
  | nil => exact ⟨t, .stay t, related⟩
  | cons taken _ ih =>
      obtain ⟨middle, walk, related⟩ := follows _ _ _ _ _ related taken
      obtain ⟨last, later, related⟩ := ih related
      exact ⟨last, walk.trans later, related⟩

end Simulation
