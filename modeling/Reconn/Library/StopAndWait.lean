import Mathlib.Data.List.Basic

/-! Items that are handed over one after another, each only when the one before it was taken.
An exchange gives a code and the state behind it, or it does not return.
-/

namespace StopAndWait

variable {σ ι ε : Type*} {exchange : σ → ι → Option (ε × σ)} {good : ε}

/-- Hands over the items until one is not taken. -/
def run [DecidableEq ε] (exchange : σ → ι → Option (ε × σ)) (good : ε)
    : σ → List ι → Option (ε × σ)
  | s, [] => some (good, s)
  | s, item :: rest =>
      (exchange s item).bind fun answer =>
        if answer.1 = good then run exchange good answer.2 rest else some answer

/-- All of the items are taken, one after another. -/
inductive Taken (exchange : σ → ι → Option (ε × σ)) (good : ε) : σ → List ι → σ → Prop where
  | nil (s : σ) : Taken exchange good s [] s
  | cons {s next final : σ} {item : ι} {rest : List ι}
      (answer : exchange s item = some (good, next)) (later : Taken exchange good next rest final)
      : Taken exchange good s (item :: rest) final

theorem run_singleton [DecidableEq ε] (item : ι) (s : σ)
    : run exchange good s [item] = exchange s item := by
  rw [run]
  cases exchange s item with
  | none => rfl
  | some answer =>
      rw [Option.bind_some]
      split_ifs with taken
      · rw [run, ← taken]
      · rfl

/-- Two parts of the items are handed over one after the other. -/
theorem run_append [DecidableEq ε] (items more : List ι) (s : σ)
    : run exchange good s (items ++ more)
      = (run exchange good s items).bind fun answer =>
        if answer.1 = good then run exchange good answer.2 more else some answer := by
  induction items generalizing s with
  | nil => simp [run]
  | cons item rest ih =>
      rw [List.cons_append, run, run, Option.bind_assoc]
      refine congrArg (exchange s item).bind (funext fun answer => ?_)
      split_ifs with taken
      · exact ih answer.2
      · rw [Option.bind_some, if_neg taken]

/-- How a run ends: everything was taken, or it stopped at the first item that was not. -/
theorem run_cases [DecidableEq ε] {items : List ι} {s final : σ} {code : ε}
    (returned : run exchange good s items = some (code, final))
    : (code = good ∧ Taken exchange good s items final)
      ∨ (code ≠ good ∧ ∃ done item rest middle,
        items = done ++ item :: rest ∧ Taken exchange good s done middle
          ∧ exchange middle item = some (code, final)) := by
  induction items generalizing s with
  | nil =>
      obtain ⟨rfl, rfl⟩ := Prod.mk.inj (Option.some.inj returned)
      exact .inl ⟨rfl, .nil s⟩
  | cons item rest ih =>
      obtain ⟨⟨answer, next⟩, exchanged, returned⟩ := Option.bind_eq_some_iff.mp returned
      dsimp only at returned
      split_ifs at returned with taken
      · subst taken
        rcases ih returned with ⟨done, all⟩ | ⟨refused, done, item', rest', middle, rfl, all, last⟩
        · exact .inl ⟨done, .cons exchanged all⟩
        · exact .inr ⟨refused, item :: done, item', rest', middle, rfl, .cons exchanged all, last⟩
      · obtain ⟨rfl, rfl⟩ := Prod.mk.inj (Option.some.inj returned)
        exact .inr ⟨taken, [], item, rest, s, rfl, .nil s, exchanged⟩

/-- What every exchange keeps holds when everything was taken, by induction on the items. -/
theorem Taken.keeps {items : List ι} {s final : σ} (all : Taken exchange good s items final)
    {P : List ι → σ → Prop} (start : P [] s)
    (step : ∀ before item s next, P before s → exchange s item = some (good, next)
      → P (before ++ [item]) next)
    : P items final := by
  have general (before : List ι) (here : P before s) : P (before ++ items) final := by
    clear start
    induction all generalizing before with
    | nil => simpa using here
    | cons answer _ ih => simpa using ih (before ++ [_]) (step before _ _ _ here answer)
  exact general [] start

end StopAndWait
