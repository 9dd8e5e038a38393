import Reconn.Library.TransitionRuns

/-! Conditions on the past of a run. What happened at a step may itself look at the past before
it, so that conditions nest.
-/

namespace PastTime

open TransitionRuns

variable {α : Type*}

/-- (Since still happened past) holds if something happened at one of the steps, and something
else has held at every step since.
-/
def Since (still : α → Prop) (happened : List α → α → Prop) (past : List α) : Prop :=
  ∃ before now later,
    past = before ++ now :: later ∧ happened before now ∧ ∀ step ∈ later, still step

variable {still still' : α → Prop} {happened happened' : List α → α → Prop} {past : List α}
  {step : α}

theorem not_since_nil : ¬ Since still happened [] := by
  rintro ⟨before, now, later, parts, -⟩
  simp at parts

/-- What holds since something is known one step later. -/
theorem since_concat_iff
    : Since still happened (past ++ [step])
      ↔ happened past step ∨ still step ∧ Since still happened past := by
  constructor
  · rintro ⟨before, now, later, parts, now', since⟩
    rcases List.eq_nil_or_concat later with rfl | ⟨later, last, rfl⟩
    · obtain ⟨rfl, last⟩ := List.append_inj' parts rfl
      exact .inl ((List.cons.inj last).1 ▸ now')
    · rw [List.concat_eq_append, ← List.cons_append, ← List.append_assoc] at parts
      obtain ⟨rfl, same⟩ := List.append_inj' parts rfl
      obtain ⟨rfl, -⟩ := List.cons.inj same
      rw [List.concat_eq_append, List.forall_mem_append] at since
      exact .inr
        ⟨since.2 step (List.mem_singleton_self step), before, now, later, rfl, now', since.1⟩
  · rintro (now | ⟨last, before, now, later, rfl, now', since⟩)
    · exact ⟨past, step, [], rfl, now, List.forall_mem_nil _⟩
    · refine ⟨before, now, later ++ [step], by simp, now', ?_⟩
      exact List.forall_mem_append.mpr ⟨since, List.forall_mem_singleton.mpr last⟩

theorem since_now (now : happened past step) : Since still happened (past ++ [step]) :=
  since_concat_iff.mpr (.inl now)

theorem Since.goes_on (since : Since still happened past) (last : still step)
    : Since still happened (past ++ [step]) :=
  since_concat_iff.mpr (.inr ⟨last, since⟩)

section Runs

variable {σ ε ω : Type*} {machine : σ → ε → Option (σ × ω)}

/-- What each step makes of a relation between the steps so far and the state holds wherever a
run has come to, by induction on the run.
-/
theorem related_of_run {R : List (Transition σ ε ω) → σ → Prop}
    (keep : ∀ past state event next output, R past state →
      machine state event = some (next, output) → R (past ++ [⟨state, event, output, next⟩]) next)
    {start finish : σ} {transitions : List (Transition σ ε ω)}
    (run : Run machine start transitions finish) (initially : R [] start)
    {past later : List (Transition σ ε ω)} {now : Transition σ ε ω}
    (parts : transitions = past ++ now :: later)
    : R past now.before ∧ machine now.before now.event = some (now.after, now.output) := by
  have general : ∀ done, R done start → R (done ++ past) now.before
      ∧ machine now.before now.event = some (now.after, now.output) := by
    clear initially
    induction run generalizing past with
    | nil => simp at parts
    | cons taken _ ih =>
        intro done related
        cases past with
        | nil =>
            obtain ⟨rfl, -⟩ := List.cons.inj parts
            rw [List.append_nil]
            exact ⟨related, taken⟩
        | cons first rest =>
            obtain ⟨rfl, others⟩ := List.cons.inj parts
            have next := keep done _ _ _ _ related taken
            have there := ih others _ next
            rwa [List.append_assoc] at there
  exact general [] initially

/-- It holds at the end of a run, by induction on the run. -/
theorem related_finish {R : List (Transition σ ε ω) → σ → Prop}
    (keep : ∀ past state event next output, R past state →
      machine state event = some (next, output) → R (past ++ [⟨state, event, output, next⟩]) next)
    {start finish : σ} {transitions : List (Transition σ ε ω)}
    (run : Run machine start transitions finish) (initially : R [] start)
    : R transitions finish := by
  have general : ∀ done, R done start → R (done ++ transitions) finish := by
    clear initially
    induction run with
    | nil =>
        intro done related
        rwa [List.append_nil]
    | cons taken _ ih =>
        intro done related
        have there := ih _ (keep done _ _ _ _ related taken)
        rwa [List.append_assoc] at there
  exact general [] initially

end Runs

end PastTime
