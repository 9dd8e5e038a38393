import Mathlib.Logic.Basic

/-! Resources with one holder each. What is held is open, and no two holders share it, as long
as a step hands out only what was closed, and whoever gives a resource back lets it go.
-/

namespace Holding

variable {η ρ : Type*} {holds holds' : η → ρ → Prop} {open_ open' : ρ → Prop}

/-- Every held resource is open, and a single holder has it. -/
structure Held (holds : η → ρ → Prop) (open_ : ρ → Prop) : Prop where
  opened {h : η} {r : ρ} : holds h r → open_ r
  single {h k : η} {r : ρ} : holds h r → holds k r → h = k

namespace Held

/-- A holder that lets go of its resource leaves it to nobody who held it before. -/
theorem released (held : Held holds open_) {h : η} {r : ρ} (had : holds h r)
    (gone : ¬ holds' h r) {k : η} (other : holds k r)
    : ¬ holds' k r := by
  obtain rfl := held.single had other
  exact gone

/-- A step keeps resources held one by one, if a holder afterwards has its resource from
before or is the one that has just opened it, and what is kept stays open.
-/
theorem step (held : Held holds open_) (newest : Option η)
    (origin : ∀ h r, holds' h r → holds h r ∨ (newest = some h ∧ ¬ open_ r ∧ open' r))
    (kept : ∀ h r, holds h r → holds' h r → open' r)
    : Held holds' open' where
  opened := by
    intro h r has
    rcases origin h r has with old | ⟨-, -, opened⟩
    · exact kept h r old has
    · exact opened
  single := by
    intro h k r first second
    rcases origin h r first with old | ⟨new, fresh, -⟩
    · rcases origin k r second with old' | ⟨-, fresh, -⟩
      · exact held.single old old'
      · exact absurd (held.opened old) fresh
    · rcases origin k r second with old' | ⟨new', -, -⟩
      · exact absurd (held.opened old') fresh
      · exact Option.some.inj (new.symm.trans new')

end Held

end Holding
