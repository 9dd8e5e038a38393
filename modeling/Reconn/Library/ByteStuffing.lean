import Reconn.Library.MealyRuns

/-! Escape-coded streams in which one unescaped symbol marks the start of a record.
A writer puts the escape before every payload symbol that would be read as a mark or an
escape; a reader keeps one bit, whether the last symbol was an unescaped escape.
-/

namespace ByteStuffing

variable {α : Type*} [DecidableEq α]

/-- The two reserved symbols of a stream, which must differ for reading to be unique. -/
structure Code (α : Type*) where
  mark : α
  escape : α
  distinct : mark ≠ escape

/-- What a reader makes of a stream: a start mark, or one payload symbol. -/
inductive Symbol (α : Type*) where
  | mark
  | data (value : α)
  deriving DecidableEq, Repr

namespace Code

variable (code : Code α)

/-- The stream form of one payload symbol. -/
def stuffOne (value : α) : List α :=
  if value = code.escape ∨ value = code.mark then [code.escape, value] else [value]

/-- The stream form of a payload. -/
def stuff (values : List α) : List α := values.flatMap code.stuffOne

/-- The symbol is escaped in a stream. -/
def isReserved (value : α) : Bool := value = code.escape ∨ value = code.mark

/-- Reads one stream symbol; the Boolean says whether an escape is pending. -/
def read (pending : Bool) (value : α) : Bool × List (Symbol α) :=
  if pending then (false, [.data value])
  else if value = code.escape then (true, [])
  else if value = code.mark then (false, [.mark])
  else (false, [.data value])

/-- Reads a whole stream. -/
def readAll (pending : Bool) (stream : List α) : Bool × List (Symbol α) :=
  MealyRuns.run code.read pending stream

theorem readAll_append (pending : Bool) (first second : List α)
    : code.readAll pending (first ++ second)
      = ((code.readAll (code.readAll pending first).1 second).1,
          (code.readAll pending first).2
          ++ (code.readAll (code.readAll pending first).1 second).2) :=
  MealyRuns.run_append code.read pending first second

/-- A stuffed payload is longer by one symbol for each reserved one, by induction on it. -/
theorem length_stuff (values : List α)
    : (code.stuff values).length = values.length + values.countP code.isReserved := by
  induction values with
  | nil => rfl
  | cons value rest ih =>
      have split : code.stuff (value :: rest) = code.stuffOne value ++ code.stuff rest := rfl
      rw [split, List.length_append, ih, List.countP_cons, List.length_cons]
      by_cases reserved : value = code.escape ∨ value = code.mark
      · simp [stuffOne, isReserved, reserved]
        omega
      · simp [stuffOne, isReserved, reserved]
        omega

/-- A stuffed symbol reads back as itself, by cases on whether it is reserved. -/
theorem readAll_stuffOne (value : α)
    : code.readAll false (code.stuffOne value) = (false, [.data value]) := by
  by_cases reserved : value = code.escape ∨ value = code.mark
  · simp [stuffOne, reserved, readAll, read]
  · obtain ⟨notEscape, notMark⟩ := not_or.mp reserved
    simp [stuffOne, readAll, read, notEscape, notMark]

/-- A stuffed payload reads back as its data symbols, by induction on the payload. -/
theorem readAll_stuff (values : List α)
    : code.readAll false (code.stuff values) = (false, values.map .data) := by
  induction values with
  | nil => rfl
  | cons value rest ih =>
      have split : code.stuff (value :: rest) = code.stuffOne value ++ code.stuff rest := rfl
      rw [split, readAll_append, readAll_stuffOne, ih]
      rfl

/-- A marked, stuffed record reads back as the mark and its payload. -/
theorem readAll_record (values : List α)
    : code.readAll false (code.mark :: code.stuff values)
      = (false, .mark :: values.map .data) := by
  have first : code.readAll false [code.mark] = (false, [.mark]) := by
    simp [readAll, read, code.distinct]
  have whole := code.readAll_append false [code.mark] (code.stuff values)
  rw [first, readAll_stuff] at whole
  simpa using whole

/-- A sequence of records reads back record by record, by induction on the sequence. -/
theorem readAll_records (records : List (List α))
    : code.readAll false (records.flatMap fun values => code.mark :: code.stuff values)
      = (false, records.flatMap fun values => .mark :: values.map .data) := by
  induction records with
  | nil => rfl
  | cons values rest ih =>
      rw [List.flatMap_cons, readAll_append, readAll_record, ih]
      simp

end Code

end ByteStuffing
