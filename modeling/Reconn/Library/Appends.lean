import Mathlib.Data.List.Basic

/-! Stores into a buffer at a moving index. Every store is recorded with where it starts, so
that a bound can speak of each index that was written, and the contents are what the stores
leave in memory.
-/

namespace Appends

variable {α : Type*}

/-- A store of some items from an index on. -/
structure Store (α : Type*) where
  start : Nat
  items : List α
  deriving DecidableEq, Repr

/-- The store writes at the index. -/
def Store.Touches (store : Store α) (index : Nat) : Prop :=
  store.start ≤ index ∧ index < store.start + store.items.length

/-- No store writes at the size or past it. -/
def Inside (size : Int) (stores : List (Store α)) : Prop :=
  ∀ store ∈ stores, ∀ index, store.Touches index → index < size

/-- All that was stored, in its order. -/
def stored (stores : List (Store α)) : List α := stores.flatMap Store.items

/-- (InARow start stores) holds if the first store is at the start and each next one begins
where the last one ended.
-/
def InARow : Nat → List (Store α) → Prop
  | _, [] => True
  | start, store :: rest =>
      store.start = start ∧ InARow (start + store.items.length) rest

/-- What one store leaves in a buffer. -/
def Store.apply (buffer : Nat → α) (store : Store α) : Nat → α := fun index =>
  if store.start ≤ index then (store.items[index - store.start]?).getD (buffer index)
  else buffer index

/-- What the stores leave in a buffer. -/
def contents (buffer : Nat → α) (stores : List (Store α)) : Nat → α :=
  stores.foldl Store.apply buffer

theorem stored_append (first second : List (Store α))
    : stored (first ++ second) = stored first ++ stored second :=
  List.flatMap_append

theorem inside_nil (size : Int) : Inside size ([] : List (Store α)) := List.forall_mem_nil _

theorem inside_append {size : Int} {first second : List (Store α)}
    : Inside size (first ++ second) ↔ Inside size first ∧ Inside size second :=
  List.forall_mem_append

/-- One store is inside if it has no items or ends inside. -/
theorem inside_singleton {size : Int} {store : Store α}
    : Inside size [store]
      ↔ store.items = [] ∨ ((store.start + store.items.length : Nat) : Int) ≤ size := by
  rw [Inside, List.forall_mem_singleton]
  constructor
  · intro inside
    rcases List.eq_nil_or_concat store.items with empty | ⟨front, last, split⟩
    · exact .inl empty
    · have ending := inside (store.start + front.length)
        ⟨Nat.le_add_right _ _, by simp [split]⟩
      have length : store.items.length = front.length + 1 := by simp [split]
      exact .inr (by omega)
  · rintro (empty | ending) index ⟨lower, upper⟩
    · rw [empty, List.length_nil] at upper
      omega
    · omega

/-- Stores behind stores in a row continue them from where they end, by induction on them. -/
theorem inARow_append {start : Nat} {first second : List (Store α)}
    : InARow start (first ++ second)
      ↔ InARow start first ∧ InARow (start + (stored first).length) second := by
  induction first generalizing start with
  | nil => simp [InARow, stored]
  | cons store rest ih =>
      have length
          : (stored (store :: rest)).length = store.items.length + (stored rest).length := by
        simp [stored]
      rw [List.cons_append, InARow, ih, InARow, length, Nat.add_assoc, and_assoc]

/-- A store behind stores in a row. -/
theorem inARow_concat {start : Nat} {stores : List (Store α)} {store : Store α}
    : InARow start (stores ++ [store])
      ↔ InARow start stores ∧ store.start = start + (stored stores).length := by
  rw [inARow_append, InARow, InARow, and_true]

/-- Stores in a row are inside a buffer if all that was stored fits behind their start, by
induction on them.
-/
theorem InARow.inside_iff {size : Int} {start : Nat} {stores : List (Store α)}
    (row : InARow start stores)
    : Inside size stores
      ↔ stored stores = [] ∨ ((start + (stored stores).length : Nat) : Int) ≤ size := by
  induction stores generalizing start with
  | nil => exact iff_of_true (inside_nil size) (.inl rfl)
  | cons store rest ih =>
      obtain ⟨rfl, later⟩ := row
      have parts : stored (store :: rest) = store.items ++ stored rest := rfl
      have first : Inside size (store :: rest) ↔ Inside size [store] ∧ Inside size rest :=
        @inside_append _ _ [store] rest
      rw [first, inside_singleton, ih later, parts, List.append_eq_nil_iff,
        List.length_append]
      rcases store.items with _ | ⟨item, items⟩
      · simp
      · rcases stored rest with _ | ⟨other, others⟩
        · simp
        · simp only [reduceCtorEq, false_or, false_and, List.length_cons]
          omega

/-- A store at the end of another one is one store of both. -/
theorem apply_apply (buffer : Nat → α) (start : Nat) (items more : List α)
    : Store.apply (Store.apply buffer ⟨start, items⟩) ⟨start + items.length, more⟩
      = Store.apply buffer ⟨start, items ++ more⟩ := by
  funext index
  by_cases before : start ≤ index
  · by_cases old : index - start < items.length
    · have early : ¬ start + items.length ≤ index := by omega
      simp [Store.apply, early, before, List.getElem?_append_left old]
    · have behind : start + items.length ≤ index := by omega
      have late : items.length ≤ index - start := by omega
      simp [Store.apply, behind, before, List.getElem?_append_right late,
        List.getElem?_eq_none late, Nat.sub_sub]
  · have early : ¬ start + items.length ≤ index := by omega
    simp [Store.apply, early, before]

/-- Stores in a row leave what one store of everything leaves, by induction on them. -/
theorem InARow.contents_eq {start : Nat} {stores : List (Store α)}
    (row : InARow start stores) (buffer : Nat → α)
    : contents buffer stores = Store.apply buffer ⟨start, stored stores⟩ := by
  induction stores generalizing start buffer with
  | nil =>
      funext index
      simp [contents, stored, Store.apply]
  | cons store rest ih =>
      obtain ⟨rfl, later⟩ := row
      have parts : stored (store :: rest) = store.items ++ stored rest := rfl
      have step : contents buffer (store :: rest) = contents (store.apply buffer) rest := rfl
      rw [step, ih later, parts]
      exact apply_apply buffer store.start store.items (stored rest)

/-- Stores in a row from the start of a buffer leave all that was stored at its start. -/
theorem InARow.map_contents {stores : List (Store α)} (row : InARow 0 stores)
    (buffer : Nat → α)
    : (List.range (stored stores).length).map (contents buffer stores) = stored stores := by
  rw [row.contents_eq buffer]
  refine List.ext_getElem (by simp) fun index inside _ => ?_
  have known : index < (stored stores).length := by simpa using inside
  simp [Store.apply, List.getElem?_eq_getElem known]

end Appends
