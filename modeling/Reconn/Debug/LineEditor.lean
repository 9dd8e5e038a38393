import Mathlib.Logic.Function.Basic
import Mathlib.Data.List.Induction
import Reconn.Client.Equipment
import Reconn.Library.Terminated

/-! The line editor of the debug port, getInput of debugMenu.c. The line pointer, the size of
the buffer and the count of what is left in it are three variables; the count is set to the
whole size when the buffer grows.
-/

namespace Reconn.Debug

open Client (cString)

def debugDelete : UInt8 := 127
def carriageReturn : UInt8 := 13

/-- What malloc() is asked for, and below which count a character can be deleted. -/
def lineSize : Nat := 100

/-- isascii() -/
def isAscii (c : UInt8) : Bool := c < 128

/-- A write through the line pointer: its index from linep on, and the size of the buffer. -/
structure LineWrite where
  index : Int
  size : Nat
  deriving DecidableEq, Repr

/-- The write is inside the buffer. -/
def LineWrite.Inside (write : LineWrite) : Prop := 0 ≤ write.index ∧ write.index < write.size

instance (write : LineWrite) : Decidable write.Inside := inferInstanceAs (Decidable (_ ∧ _))

/-- The variables of getInput, with the line pointer as an index from linep on, the writes
through it, and what was returned: nothing yet, NULL or the string at linep.
-/
structure LineInput where
  line : Int
  lenmax : Nat
  len : Nat
  buffer : Int → UInt8
  writes : List LineWrite
  returned : Option (Option (List UInt8))

namespace LineInput

/-- malloc(), for whether it succeeds and what is in memory. -/
def start (allocates : Nat → Bool) (memory : Int → UInt8) : LineInput where
  line := 0
  lenmax := lineSize
  len := lineSize
  buffer := memory
  writes := []
  returned := if allocates lineSize then none else some none

/-- *line = c -/
def put (s : LineInput) (c : UInt8) : LineInput :=
  {
    s with
    buffer := Function.update s.buffer s.line c
    writes := s.writes ++ [⟨s.line, s.lenmax⟩]
  }

/-- What stands between linep and the line pointer. -/
def text (s : LineInput) : List UInt8 :=
  (List.range s.line.toNat).map fun (index : Nat) => s.buffer index

/-- The count is lowered, and realloc() called where that comes to zero. -/
def reserve (allocates : Nat → Bool) (s : LineInput) : LineInput :=
  if s.len - 1 = 0 then
    if allocates (2 * s.lenmax) then { s with lenmax := 2 * s.lenmax, len := 2 * s.lenmax }
    else { s with lenmax := 2 * s.lenmax, len := 2 * s.lenmax, returned := some none }
  else { s with len := s.len - 1 }

/-- One byte from the socket. -/
def turn (allocates : Nat → Bool) (s : LineInput) (c : UInt8) : LineInput :=
  if s.returned.isSome then s
  else if c = debugDelete then
    if s.len < lineSize then
      let back : LineInput := { s with len := s.len + 1, line := s.line - 1 }
      back.put 0
    else s
  else if isAscii c = false then s
  else
    let s := s.reserve allocates
    if s.returned.isSome then s
    else if c = carriageReturn then
      -- the final NUL ends the string at linep, if no character before it does
      let ended := s.put 0
      { ended with returned := some (some (cString ended.text)) }
    else
      let stored := s.put c
      { stored with line := s.line + 1 }

end LineInput

/-- getInput on the bytes from the socket, for which sizes can be allocated. -/
def getInput (allocates : Nat → Bool) (memory : Int → UInt8) (received : List UInt8)
    : LineInput :=
  received.foldl (LineInput.turn allocates) (.start allocates memory)

-----------------------------------------------------------------------------------------
-- The text that is meant
-----------------------------------------------------------------------------------------

/-- A byte that is stored: DELETE and what is no ASCII character are not. -/
def isTyped (c : UInt8) : Bool := c ≠ debugDelete && isAscii c

/-- DELETE removes the last character, if there is one. -/
def edit (text : List UInt8) (c : UInt8) : List UInt8 :=
  if c = debugDelete then text.dropLast else if isAscii c then text ++ [c] else text

/-- The typed characters, each DELETE having removed the last remaining one. -/
def edited (received : List UInt8) : List UInt8 := received.foldl edit []

/-- Every write is inside the buffer of its time, and a string that is returned is the edited
text.
-/
structure LineInput.Correct (s : LineInput) (received : List UInt8) : Prop where
  inside : ∀ write ∈ s.writes, write.Inside
  string : ∀ string, s.returned = some (some string) → string = edited received

/-- The edited text never comes to the size of the buffer. -/
def StaysShort (received : List UInt8) : Prop :=
  ∀ front, front <+: received → (edited front).length < lineSize

/-- The edited text comes to the size of the buffer with the last byte of the first part, and
not before.
-/
structure FillsUp (before after received : List UInt8) : Prop where
  parts : received = before ++ after
  short : ∀ front, front <+: before → front ≠ before → (edited front).length < lineSize
  full : (edited before).length = lineSize

/-- The input is one that getInput can handle: its text stays short and has no NUL, or the
buffer grows once, is not filled again, and holds the text although DELETE does nothing from
then on. It can also handle to be out of memory.
-/
def Manageable (allocates : Nat → Bool) (received : List UInt8) : Prop :=
  allocates lineSize = false
    ∨ (StaysShort received ∧ (0 ∈ edited received →
      (edited received).length + 1 = lineSize ∧ allocates (2 * lineSize) = false))
    ∨ ∃ before after, FillsUp before after received
      ∧ (allocates (2 * lineSize) = false
        ∨ (after.filter isTyped).length < lineSize
          ∧ cString (edited before ++ after.filter isTyped) = edited received)

-----------------------------------------------------------------------------------------
-- The text in the buffer
-----------------------------------------------------------------------------------------

namespace LineInput

variable {s : LineInput} {text : List UInt8} {c : UInt8} {size : Nat}
  {allocates : Nat → Bool}

/-- The buffer has the given size and holds the text in front of the line pointer, and all
writes so far were inside.
-/
structure Holds (s : LineInput) (size : Nat) (text : List UInt8) : Prop where
  line : s.line = text.length
  lenmax : s.lenmax = size
  held : s.text = text
  inside : ∀ write ∈ s.writes, write.Inside
  running : s.returned = none

/-- A write at the line pointer leaves the text in front of it. -/
theorem text_put (s : LineInput) (c : UInt8) : (s.put c).text = s.text := by
  refine List.map_congr_left fun index member => ?_
  have before : index < s.line.toNat := List.mem_range.mp member
  exact Function.update_of_ne (by omega) _ _

/-- A write inside the buffer is one more of them. -/
theorem inside_put (inside : ∀ write ∈ s.writes, write.Inside) (lower : 0 ≤ s.line)
    (upper : s.line < s.lenmax)
    : ∀ write ∈ (s.put c).writes, write.Inside :=
  List.forall_mem_append.mpr ⟨inside, List.forall_mem_singleton.mpr ⟨lower, upper⟩⟩

/-- A character is stored behind the text, if there is room for it. -/
theorem Holds.store (holds : s.Holds size text) (room : text.length < size) (c : UInt8)
    : Holds { s.put c with line := s.line + 1 } size (text ++ [c]) where
  line := by
    rw [holds.line, List.length_append, List.length_singleton]
    rfl
  lenmax := holds.lenmax
  held := by
    have next : (s.line + 1).toNat = s.line.toNat + 1 := by
      have := holds.line
      omega
    have front := text_put s c
    have place : (s.put c).buffer s.line.toNat = c := by
      rw [Int.toNat_of_nonneg (by have := holds.line; omega)]
      exact Function.update_self _ _ _
    rw [holds.held] at front
    simp only [LineInput.text] at front ⊢
    rw [next, List.range_succ, List.map_append, List.map_singleton, place]
    exact congrArg (· ++ [c]) front
  inside := by
    have line := holds.line
    have lenmax := holds.lenmax
    have room' : s.line < s.lenmax := by omega
    have inside := @inside_put s c holds.inside (by omega) room'
    exact inside
  running := holds.running

/-- The last character of the text is deleted, if there is one. -/
theorem Holds.delete (holds : s.Holds size text) (some_ : text ≠ [])
    (room : text.length ≤ size) (len : Nat)
    : Holds (LineInput.put { s with len, line := s.line - 1 } 0) size text.dropLast := by
  obtain ⟨line, lenmax, held, inside, running⟩ := holds
  have length : 0 < text.length := List.length_pos_iff.mpr some_
  refine ⟨?_, lenmax, ?_, inside_put inside (by simp only; omega) (by simp only; omega), running⟩
  · rw [List.length_dropLast]
    show s.line - 1 = _
    omega
  · rw [text_put, ← held]
    simp only [LineInput.text]
    have shorter : s.line.toNat = (s.line - 1).toNat + 1 := by omega
    rw [shorter, List.range_succ, List.map_append, List.map_singleton, List.dropLast_concat]

-----------------------------------------------------------------------------------------
-- Before the buffer grows
-----------------------------------------------------------------------------------------

/-- The first buffer: the count is what the text leaves of it. -/
structure Fresh (s : LineInput) (text : List UInt8) : Prop where
  holds : s.Holds lineSize text
  len : s.len + text.length = lineSize

/-- The turn for a byte that is stored, before the buffer or after realloc(). -/
theorem turn_of_typed (running : s.returned = none) (typed : isTyped c = true)
    (character : c ≠ carriageReturn)
    : s.turn allocates c
      = let s := s.reserve allocates
        if s.returned.isSome then s
        else { s.put c with line := s.line + 1 } := by
  obtain ⟨other, ascii⟩ : c ≠ debugDelete ∧ isAscii c = true := by
    simpa [isTyped] using typed
  have going : ¬ s.returned.isSome = true := by simp [running]
  unfold turn
  rw [if_neg going, if_neg other, if_neg (by simp [ascii])]
  simp only [if_neg character]

/-- A byte that is neither stored nor DELETE changes nothing. -/
theorem turn_of_ignored (running : s.returned = none) (other : c ≠ debugDelete)
    (ascii : isAscii c = false)
    : s.turn allocates c = s := by
  unfold turn
  rw [if_neg (by simp [running]), if_neg other, if_pos ascii]

/-- The turn for DELETE. -/
theorem turn_of_delete (running : s.returned = none)
    : s.turn allocates debugDelete
      = if s.len < lineSize then LineInput.put { s with len := s.len + 1, line := s.line - 1 } 0
        else s := by
  unfold turn
  rw [if_neg (by simp [running]), if_pos rfl]

/-- The turn for the carriage return. -/
theorem turn_of_return (running : s.returned = none)
    : s.turn allocates carriageReturn
      = let s := s.reserve allocates
        if s.returned.isSome then s
        else { s.put 0 with returned := some (some (cString (s.put 0).text)) } := by
  unfold turn
  rw [if_neg (by simp [running]), if_neg (by decide), if_neg (by decide)]
  rfl

theorem reserve_writes (s : LineInput) : (s.reserve allocates).writes = s.writes := by
  unfold reserve
  split_ifs <;> rfl

/-- A turn adds writes to those before it. -/
theorem turn_writes (s : LineInput) (c : UInt8) (allocates : Nat → Bool)
    : ∃ more, (s.turn allocates c).writes = s.writes ++ more := by
  unfold turn
  dsimp only
  split_ifs
  · exact ⟨[], (List.append_nil _).symm⟩
  · exact ⟨_, rfl⟩
  · exact ⟨[], (List.append_nil _).symm⟩
  · exact ⟨[], (List.append_nil _).symm⟩
  all_goals rw [← @reserve_writes allocates s]
  · exact ⟨[], (List.append_nil _).symm⟩
  · exact ⟨_, rfl⟩
  · exact ⟨_, rfl⟩

/-- Nothing is reallocated while the count stays above zero. -/
theorem reserve_of_room (room : 1 < s.len)
    : s.reserve allocates = { s with len := s.len - 1 } :=
  if_neg (by omega)

theorem turn_of_typed_of_room (running : s.returned = none) (room : 1 < s.len)
    (typed : isTyped c = true) (character : c ≠ carriageReturn)
    : s.turn allocates c
      = { LineInput.put { s with len := s.len - 1 } c with line := s.line + 1 } := by
  rw [turn_of_typed running typed character, reserve_of_room room]
  exact if_neg (by simp [running])

theorem turn_of_return_of_room (running : s.returned = none) (room : 1 < s.len)
    : s.turn allocates carriageReturn
      = {
        LineInput.put { s with len := s.len - 1 } 0 with
        returned :=
          some (some (cString (LineInput.put { s with len := s.len - 1 } 0).text))
      } := by
  rw [turn_of_return running, reserve_of_room room]
  exact if_neg (by simp [running])

/-- A character is stored while the count stays above zero. -/
theorem Holds.typed (holds : s.Holds size text) (count : 1 < s.len)
    (room : text.length < size) (typed : isTyped c = true) (character : c ≠ carriageReturn)
    : Holds (s.turn allocates c) size (text ++ [c])
      ∧ (s.turn allocates c).len + 1 = s.len := by
  obtain ⟨line, lenmax, held, inside, running⟩ := holds
  have lowered : Holds { s with len := s.len - 1 } size text :=
    ⟨line, lenmax, held, inside, running⟩
  rw [turn_of_typed_of_room running count typed character]
  refine ⟨lowered.store room c, ?_⟩
  show s.len - 1 + 1 = s.len
  omega

theorem Fresh.start {memory : Int → UInt8} (allocated : allocates lineSize = true)
    : Fresh (.start allocates memory) [] where
  holds := ⟨rfl, rfl, rfl, List.forall_mem_nil _, if_pos allocated⟩
  len := rfl

/-- A byte edits the text in the first buffer as it should, by cases on what it is. -/
theorem Fresh.turn (fresh : s.Fresh text) (short : (edit text c).length < lineSize)
    (character : c ≠ carriageReturn)
    : Fresh (s.turn allocates c) (edit text c) := by
  obtain ⟨holds, len⟩ := fresh
  by_cases delete : c = debugDelete
  · subst delete
    rw [turn_of_delete holds.running, edit, if_pos rfl]
    by_cases empty : text = []
    · subst empty
      rw [if_neg (by simpa using len.ge)]
      exact ⟨holds, len⟩
    · have length : 0 < text.length := List.length_pos_iff.mpr empty
      rw [if_pos (by omega)]
      refine ⟨holds.delete empty (by omega) _, ?_⟩
      rw [List.length_dropLast]
      show s.len + 1 + _ = _
      omega
  by_cases ascii : isAscii c = true
  swap
  · have ignored : isAscii c = false := Bool.eq_false_iff.mpr ascii
    rw [turn_of_ignored holds.running delete ignored, edit, if_neg delete, if_neg ascii]
    exact ⟨holds, len⟩
  rw [edit, if_neg delete, if_pos ascii] at short ⊢
  rw [List.length_append, List.length_singleton] at short
  have typed : isTyped c = true := by simp [isTyped, delete, ascii]
  obtain ⟨stored, count⟩ := @Holds.typed s text c lineSize allocates holds (by omega) (by omega)
    typed character
  refine ⟨stored, ?_⟩
  rw [List.length_append, List.length_singleton]
  omega

/-- With the last byte that the count allows the buffer grows, and the count becomes its whole
size.
-/
theorem Fresh.reserve_full (fresh : s.Fresh text) (last : text.length + 1 = lineSize)
    : s.reserve allocates
      = {
        s with
        lenmax := 2 * lineSize
        len := 2 * lineSize
        returned := if allocates (2 * lineSize) then none else some none
      } := by
  obtain ⟨holds, len⟩ := fresh
  have one : s.len - 1 = 0 := by omega
  rw [reserve, if_pos one, holds.lenmax]
  by_cases allocated : allocates (2 * lineSize) = true
  · rw [if_pos allocated, if_pos allocated, ← holds.running]
  · rw [if_neg allocated, if_neg allocated]

/-- Out of memory, a byte that would have the buffer grow ends the input without a string. -/
theorem Fresh.turn_of_no_memory (fresh : s.Fresh text) (last : text.length + 1 = lineSize)
    (memory : allocates (2 * lineSize) = false)
    (byte : isTyped c = true)
    : (s.turn allocates c).returned = some none ∧ (s.turn allocates c).writes = s.writes := by
  by_cases character : c = carriageReturn
  · subst character
    rw [turn_of_return fresh.holds.running, fresh.reserve_full last]
    simp [memory]
  · rw [turn_of_typed fresh.holds.running byte character, fresh.reserve_full last]
    simp [memory]

-----------------------------------------------------------------------------------------
-- After the buffer has grown
-----------------------------------------------------------------------------------------

/-- The second buffer: the count says that the first half of it is free as well. -/
structure Overrated (s : LineInput) (text : List UInt8) : Prop where
  holds : s.Holds (2 * lineSize) text
  len : s.len + text.length = 3 * lineSize
  long : lineSize ≤ text.length
  fits : text.length ≤ 2 * lineSize

/-- A write was outside the buffer. -/
def Overrun (s : LineInput) : Prop := ∃ write ∈ s.writes, ¬ write.Inside

/-- The buffer has grown to hold the text. -/
theorem Fresh.grows (fresh : s.Fresh text) (last : text.length + 1 = lineSize)
    (typed : isTyped c = true) (character : c ≠ carriageReturn)
    (allocated : allocates (2 * lineSize) = true)
    : Overrated (s.turn allocates c) (text ++ [c]) := by
  obtain ⟨line, -, held, inside, running⟩ := fresh.holds
  have grown
      : Holds { s with lenmax := 2 * lineSize, len := 2 * lineSize, returned := none }
        (2 * lineSize) text := ⟨line, rfl, held, inside, rfl⟩
  have size : lineSize = 100 := rfl
  rw [LineInput.turn_of_typed running typed character, fresh.reserve_full last,
    if_pos allocated]
  dsimp only
  rw [if_neg (by simp)]
  refine ⟨grown.store (by omega) c, ?_, ?_, ?_⟩
  all_goals rw [List.length_append, List.length_singleton]
  · show 2 * lineSize + _ = _
    omega
  · omega
  · omega

/-- DELETE does nothing any more. -/
theorem Overrated.turn_of_not_typed (grown : s.Overrated text) (ignored : isTyped c = false)
    : s.turn allocates c = s := by
  obtain ⟨holds, len, long, fits⟩ := grown
  by_cases delete : c = debugDelete
  · subst delete
    rw [turn_of_delete holds.running, if_neg (by omega)]
  · have ascii : isAscii c = false := by simpa [isTyped, delete] using ignored
    exact turn_of_ignored holds.running delete ascii

/-- A character is stored while there is room for it. -/
theorem Overrated.turn_of_typed (grown : s.Overrated text) (room : text.length < 2 * lineSize)
    (typed : isTyped c = true) (character : c ≠ carriageReturn)
    : Overrated (s.turn allocates c) (text ++ [c]) := by
  obtain ⟨holds, len, long, fits⟩ := grown
  have size : lineSize = 100 := rfl
  obtain ⟨stored, count⟩ := @Holds.typed s text c _ allocates holds (by omega) room typed
    character
  refine ⟨stored, ?_, ?_, ?_⟩
  all_goals rw [List.length_append, List.length_singleton]
  · omega
  · omega
  · omega

/-- A write at the line pointer of a full buffer is outside. -/
theorem Holds.overrun {s' : LineInput} (holds : s.Holds size text) (full : text.length = size)
    (writes : s'.writes = s.writes ++ [⟨s.line, s.lenmax⟩])
    : Overrun s' := by
  refine ⟨⟨s.line, s.lenmax⟩, ?_, ?_⟩
  · rw [writes]
    exact List.mem_append_right _ (List.mem_singleton.mpr rfl)
  · rintro ⟨-, upper⟩
    have upper : s.line < s.lenmax := upper
    have line := holds.line
    have lenmax := holds.lenmax
    omega

/-- In a full buffer a character is stored behind the end. -/
theorem Overrated.overrun (grown : s.Overrated text) (full : text.length = 2 * lineSize)
    (typed : isTyped c = true) (character : c ≠ carriageReturn)
    : Overrun (s.turn allocates c) := by
  obtain ⟨holds, len, -, -⟩ := grown
  have size : lineSize = 100 := rfl
  rw [LineInput.turn_of_typed_of_room holds.running (by omega) typed character]
  exact holds.overrun full rfl

theorem Overrun.not_correct {received : List UInt8} (overrun : s.Overrun)
    : ¬ s.Correct received := by
  obtain ⟨write, member, outside⟩ := overrun
  exact fun correct => outside (correct.inside write member)

/-- What was outside stays so. -/
theorem Overrun.turn (overrun : s.Overrun) (c : UInt8) : Overrun (s.turn allocates c) := by
  obtain ⟨write, member, outside⟩ := overrun
  obtain ⟨more, writes⟩ := turn_writes s c allocates
  exact ⟨write, by rw [writes]; exact List.mem_append_left _ member, outside⟩

-----------------------------------------------------------------------------------------
-- The end of the line
-----------------------------------------------------------------------------------------

/-- The final NUL behind a text that leaves room for it. -/
theorem Holds.finish (holds : s.Holds size text) (room : text.length < size)
    : (∀ write ∈ (s.put 0).writes, write.Inside) ∧ cString (s.put 0).text = cString text := by
  obtain ⟨line, lenmax, held, inside, -⟩ := holds
  refine ⟨inside_put inside (by omega) (by omega), ?_⟩
  rw [text_put, held]

/-- The turn that ends a line which leaves room for the NUL. -/
theorem Holds.turn_return (holds : s.Holds size text) (count : 1 < s.len)
    (room : text.length < size)
    : (∀ write ∈ (s.turn allocates carriageReturn).writes, write.Inside)
      ∧ (s.turn allocates carriageReturn).returned = some (some (cString text)) := by
  obtain ⟨line, lenmax, held, inside, running⟩ := holds
  have lowered : Holds { s with len := s.len - 1 } size text :=
    ⟨line, lenmax, held, inside, running⟩
  obtain ⟨writes, string⟩ := lowered.finish room
  rw [turn_of_return_of_room running count]
  exact ⟨writes, congrArg (fun string => some (some string)) string⟩

/-- A short line is returned, if its growing buffer can be allocated. -/
theorem Fresh.turn_return (fresh : s.Fresh text) (short : text.length < lineSize)
    (memory : text.length + 1 = lineSize → allocates (2 * lineSize) = true)
    : (∀ write ∈ (s.turn allocates carriageReturn).writes, write.Inside)
      ∧ (s.turn allocates carriageReturn).returned = some (some (cString text)) := by
  by_cases last : text.length + 1 = lineSize
  · obtain ⟨line, lenmax, held, inside, running⟩ := fresh.holds
    have grown
        : Holds { s with lenmax := 2 * lineSize, len := 2 * lineSize, returned := none }
          (2 * lineSize) text := ⟨line, rfl, held, inside, rfl⟩
    obtain ⟨writes, string⟩ := grown.finish (by omega)
    rw [turn_of_return running, fresh.reserve_full last, if_pos (memory last)]
    exact ⟨writes, congrArg (fun string => some (some string)) string⟩
  · have len := fresh.len
    exact fresh.holds.turn_return (by omega) short

/-- A line in the second buffer is returned. -/
theorem Overrated.turn_return (grown : s.Overrated text) (room : text.length < 2 * lineSize)
    : (∀ write ∈ (s.turn allocates carriageReturn).writes, write.Inside)
      ∧ (s.turn allocates carriageReturn).returned = some (some (cString text)) := by
  obtain ⟨holds, len, -, -⟩ := grown
  have size : lineSize = 100 := rfl
  exact holds.turn_return (by omega) room

/-- The final NUL of a line that fills the second buffer is stored behind its end. -/
theorem Overrated.overrun_return (grown : s.Overrated text)
    (full : text.length = 2 * lineSize)
    : Overrun (s.turn allocates carriageReturn) := by
  obtain ⟨holds, len, -, -⟩ := grown
  have size : lineSize = 100 := rfl
  rw [turn_of_return_of_room holds.running (by omega)]
  exact holds.overrun full rfl

end LineInput

-----------------------------------------------------------------------------------------
-- Whole lines
-----------------------------------------------------------------------------------------

section Lines

open LineInput

variable {allocates : Nat → Bool} {memory : Int → UInt8} {received : List UInt8}

theorem edited_concat (front : List UInt8) (c : UInt8)
    : edited (front ++ [c]) = edit (edited front) c := by
  rw [edited, List.foldl_append]
  rfl

theorem getInput_append (before after : List UInt8)
    : getInput allocates memory (before ++ after)
      = after.foldl (LineInput.turn allocates) (getInput allocates memory before) :=
  List.foldl_append

/-- Nothing happens after getInput has returned, by induction on what comes then. -/
theorem foldl_turn_of_returned {s : LineInput} (returned : s.returned.isSome = true)
    (later : List UInt8)
    : later.foldl (LineInput.turn allocates) s = s := by
  induction later with
  | nil => rfl
  | cons c rest ih =>
      have same : s.turn allocates c = s := if_pos returned
      rw [List.foldl_cons, same, ih]

/-- What was outside stays so, by induction on what comes then. -/
theorem foldl_turn_of_overrun {s : LineInput} (overrun : s.Overrun) (later : List UInt8)
    : Overrun (later.foldl (LineInput.turn allocates) s) := by
  induction later generalizing s with
  | nil => exact overrun
  | cons c rest ih => exact ih (overrun.turn c)

/-- The first buffer holds a text that stays short, by induction on the input from its end. -/
theorem fresh_getInput (allocated : allocates lineSize = true)
    (line : carriageReturn ∉ received)
    (short : ∀ front, front <+: received → (edited front).length < lineSize)
    : (getInput allocates memory received).Fresh (edited received) := by
  induction received using List.reverseRecOn with
  | nil => exact Fresh.start allocated
  | append_singleton front c ih =>
      rw [List.mem_append, not_or, List.mem_singleton] at line
      have before := ih line.1 fun part inside =>
        short part (inside.trans (List.prefix_append _ _))
      have length := short _ (List.prefix_refl _)
      rw [edited_concat] at length
      rw [getInput_append, edited_concat]
      exact before.turn length (Ne.symm line.2)

/-- After it has grown, the buffer holds what was typed, whatever was deleted, as long as it
has room, and is overrun then. By induction on the input.
-/
theorem foldl_turn_of_overrated {s : LineInput} {text : List UInt8} (grown : s.Overrated text)
    (line : carriageReturn ∉ received)
    : let typed := text ++ received.filter isTyped
      let s' := received.foldl (LineInput.turn allocates) s
      (typed.length ≤ 2 * lineSize → s'.Overrated typed)
        ∧ (2 * lineSize < typed.length → s'.Overrun) := by
  induction received generalizing s text with
  | nil =>
      rw [List.filter_nil, List.append_nil]
      exact ⟨fun _ => grown, fun long => absurd grown.fits (by omega)⟩
  | cons c rest ih =>
      rw [List.mem_cons, not_or] at line
      by_cases typed : isTyped c = true
      swap
      · have ignored : isTyped c = false := Bool.eq_false_iff.mpr typed
        rw [List.filter_cons_of_neg typed, List.foldl_cons, grown.turn_of_not_typed ignored]
        exact ih grown line.2
      rw [List.filter_cons_of_pos typed, List.foldl_cons]
      by_cases full : text.length = 2 * lineSize
      · have overrun := @Overrated.overrun s text c allocates grown full typed
          (Ne.symm line.1)
        refine ⟨fun short => ?_, fun _ => foldl_turn_of_overrun overrun rest⟩
        rw [List.length_append, List.length_cons] at short
        omega
      · have fits := grown.fits
        have next := @Overrated.turn_of_typed s text c allocates grown (by omega) typed
          (Ne.symm line.1)
        have later := ih next line.2
        rw [List.append_assoc] at later
        exact later

/-- A byte lengthens the text by a character at most, and only if it is stored. -/
theorem length_edit_le (text : List UInt8) (c : UInt8)
    : (edit text c).length ≤ text.length + 1
      ∧ (isTyped c = false → (edit text c).length ≤ text.length)
      ∧ (isTyped c = true → edit text c = text ++ [c]) := by
  unfold edit isTyped
  by_cases delete : c = debugDelete
  · rw [if_pos delete, List.length_dropLast]
    refine ⟨by omega, fun _ => by omega, fun h => ?_⟩
    simp [delete] at h
  · rw [if_neg delete]
    by_cases ascii : isAscii c = true
    · rw [if_pos ascii]
      refine ⟨by simp, fun h => ?_, fun _ => rfl⟩
      simp [delete, ascii] at h
    · rw [if_neg ascii]
      refine ⟨by omega, fun _ => le_refl _, fun h => ?_⟩
      simp [ascii] at h

/-- The edited text is no longer than the input, by induction on the input from its end. -/
theorem length_edited_le (received : List UInt8)
    : (edited received).length ≤ received.length := by
  induction received using List.reverseRecOn with
  | nil => exact le_refl _
  | append_singleton front c ih =>
      have grows := (length_edit_le (edited front) c).1
      rw [edited_concat, List.length_append, List.length_singleton]
      omega

/-- Every text stays short or comes to fill the buffer, by induction on the input from its
end.
-/
theorem staysShort_or_fillsUp (received : List UInt8)
    : StaysShort received ∨ ∃ before after, FillsUp before after received := by
  induction received using List.reverseRecOn with
  | nil =>
      refine .inl fun front inside => ?_
      rw [List.prefix_nil.mp inside]
      exact (by decide : 0 < 100)
  | append_singleton front c ih =>
      rcases ih with short | ⟨before, after, rfl, short, full⟩
      swap
      · exact .inr ⟨before, after ++ [c], List.append_assoc _ _ _, short, full⟩
      by_cases length : (edited (front ++ [c])).length < lineSize
      · refine .inl fun part inside => ?_
        rcases List.prefix_concat_iff.mp inside with rfl | earlier
        · exact length
        · exact short part earlier
      · refine .inr ⟨front ++ [c], [], (List.append_nil _).symm, ?_, ?_⟩
        · intro part inside other
          rcases List.prefix_concat_iff.mp inside with rfl | earlier
          · exact absurd rfl other
          · exact short part earlier
        · have before := short front (List.prefix_refl _)
          have grows := (length_edit_le (edited front) c).1
          rw [edited_concat] at length ⊢
          omega

/-- A text that fills the buffer does not stay short. -/
theorem FillsUp.not_staysShort {before after : List UInt8}
    (fills : FillsUp before after received)
    : ¬ StaysShort received := by
  intro short
  have inside : before <+: received := ⟨after, fills.parts.symm⟩
  have length := short before inside
  rw [fills.full] at length
  exact Nat.lt_irrefl _ length

/-- The last byte of a text that fills the buffer is stored behind a text that lacks one
character.
-/
theorem FillsUp.last {before after : List UInt8} (fills : FillsUp before after received)
    : ∃ front c, before = front ++ [c] ∧ isTyped c = true
      ∧ (edited front).length + 1 = lineSize := by
  obtain ⟨-, short, full⟩ := fills
  rcases List.eq_nil_or_concat before with rfl | ⟨front, c, rfl⟩
  · cases full
  rw [List.concat_eq_append] at short full
  have length := short front (List.prefix_append _ _) (by simp)
  obtain ⟨most, ignored, -⟩ := length_edit_le (edited front) c
  rw [edited_concat] at full
  have typed : isTyped c = true := by
    by_contra other
    have same := ignored (Bool.eq_false_iff.mpr other)
    omega
  exact ⟨front, c, List.concat_eq_append, typed, by omega⟩

-----------------------------------------------------------------------------------------
-- When the string is right
-----------------------------------------------------------------------------------------

/-- A line whose text stays short. -/
theorem correct_iff_of_staysShort (allocated : allocates lineSize = true)
    (line : carriageReturn ∉ received) (short : StaysShort received)
    : (getInput allocates memory (received ++ [carriageReturn])).Correct received
      ↔ (0 ∈ edited received →
        (edited received).length + 1 = lineSize ∧ allocates (2 * lineSize) = false) := by
  have fresh := @fresh_getInput allocates memory received allocated line short
  have length := short received (List.prefix_refl _)
  have run : getInput allocates memory (received ++ [carriageReturn])
      = (getInput allocates memory received).turn allocates carriageReturn :=
    getInput_append _ _
  rw [run]
  by_cases noMemory : (edited received).length + 1 = lineSize
      ∧ allocates (2 * lineSize) = false
  · obtain ⟨returned, writes⟩ := @Fresh.turn_of_no_memory _ _ carriageReturn _ fresh
      noMemory.1 noMemory.2 rfl
    refine iff_of_true ⟨?_, ?_⟩ fun _ => noMemory
    · rw [writes]
      exact fresh.holds.inside
    · rw [returned]
      exact fun string h => absurd (Option.some.inj h) (Option.some_ne_none _).symm
  · obtain ⟨inside, returned⟩ := @Fresh.turn_return _ _ allocates fresh length fun last => by
      by_contra failed
      exact noMemory ⟨last, Bool.eq_false_iff.mpr failed⟩
    constructor
    · intro correct zero
      have same := correct.string _ returned
      exact absurd zero (Terminated.upTo_eq_self_iff.mp same)
    · intro noZero
      refine ⟨inside, fun string h => ?_⟩
      rw [returned] at h
      rw [← Option.some.inj (Option.some.inj h)]
      exact Terminated.upTo_eq_self_iff.mpr fun zero => noMemory (noZero zero)

/-- A line whose text comes to fill the buffer. -/
theorem correct_iff_of_fillsUp (allocated : allocates lineSize = true)
    (line : carriageReturn ∉ received) {before after : List UInt8}
    (fills : FillsUp before after received)
    : (getInput allocates memory (received ++ [carriageReturn])).Correct received
      ↔ allocates (2 * lineSize) = false
        ∨ (after.filter isTyped).length < lineSize
          ∧ cString (edited before ++ after.filter isTyped) = edited received := by
  obtain ⟨front, c, rfl, typed, last⟩ := fills.last
  have parts := fills.parts
  rw [parts, List.mem_append, List.mem_append, List.mem_singleton, not_or, not_or] at line
  obtain ⟨⟨lineFront, character⟩, lineAfter⟩ := line
  have fresh : (getInput allocates memory front).Fresh (edited front) := by
    refine fresh_getInput allocated lineFront fun part inside => ?_
    refine fills.short part (inside.trans (List.prefix_append _ _)) ?_
    rintro rfl
    have longer := inside.length_le
    rw [List.length_append, List.length_singleton] at longer
    omega
  have run : getInput allocates memory (received ++ [carriageReturn])
      = (after ++ [carriageReturn]).foldl (LineInput.turn allocates)
        ((getInput allocates memory front).turn allocates c) := by
    rw [parts, List.append_assoc, List.append_assoc, getInput_append]
    rfl
  rw [run]
  by_cases memory_ : allocates (2 * lineSize) = true
  swap
  · have failed : allocates (2 * lineSize) = false := Bool.eq_false_iff.mpr memory_
    obtain ⟨returned, writes⟩ := fresh.turn_of_no_memory last failed typed
    rw [foldl_turn_of_returned (by rw [returned]; rfl)]
    refine iff_of_true ⟨?_, ?_⟩ (.inl failed)
    · rw [writes]
      exact fresh.holds.inside
    · rw [returned]
      exact fun string h => absurd (Option.some.inj h) (Option.some_ne_none _).symm
  have whole : edited (front ++ [c]) = edited front ++ [c] := by
    rw [edited_concat, (length_edit_le _ _).2.2 typed]
  have grown := @Fresh.grows _ _ _ allocates fresh last typed (Ne.symm character) memory_
  obtain ⟨fits, overruns⟩ := @foldl_turn_of_overrated allocates after _ _ grown lineAfter
  have length : (edited front ++ [c] ++ after.filter isTyped).length
      = lineSize + (after.filter isTyped).length := by
    rw [List.length_append, List.length_append, List.length_singleton, last]
  rw [or_iff_right (by simp [memory_]), List.foldl_append, whole]
  rcases lt_trichotomy (after.filter isTyped).length lineSize with room | full | behind
  · obtain ⟨inside, returned⟩ := @Overrated.turn_return _ _ allocates (fits (by omega))
      (by omega)
    rw [and_iff_right room]
    constructor
    · exact fun correct => correct.string _ returned
    · refine fun same => ⟨inside, fun string h => ?_⟩
      rw [List.foldl_cons, List.foldl_nil, returned] at h
      rw [← Option.some.inj (Option.some.inj h), same]
  · have overrun := @Overrated.overrun_return _ _ allocates (fits (by omega)) (by omega)
    exact iff_of_false overrun.not_correct fun h => Nat.lt_irrefl _ (full ▸ h.1)
  · have overrun := @Overrun.turn _ allocates (overruns (by omega)) carriageReturn
    exact iff_of_false overrun.not_correct fun h => Nat.lt_asymm h.1 behind

/-- getInput writes inside its buffer and returns the edited text exactly if the input is one
that it can handle.
-/
theorem getInput_correct_iff (allocates : Nat → Bool) (memory : Int → UInt8)
    {received : List UInt8} (line : carriageReturn ∉ received)
    : (getInput allocates memory (received ++ [carriageReturn])).Correct received
      ↔ Manageable allocates received := by
  by_cases allocated : allocates lineSize = true
  swap
  · have failed : allocates lineSize = false := Bool.eq_false_iff.mpr allocated
    have returned : (LineInput.start allocates memory).returned = some none := if_neg allocated
    have ended : getInput allocates memory (received ++ [carriageReturn])
        = .start allocates memory := foldl_turn_of_returned (by rw [returned]; rfl) _
    refine iff_of_true ⟨?_, ?_⟩ (.inl failed)
    · rw [ended]
      exact List.forall_mem_nil _
    · rw [ended, returned]
      exact fun string h => absurd (Option.some.inj h) (Option.some_ne_none _).symm
  rw [Manageable, or_iff_right (by simp [allocated])]
  rcases staysShort_or_fillsUp received with short | ⟨before, after, fills⟩
  · rw [correct_iff_of_staysShort allocated line short, and_iff_right short]
    refine (or_iff_left ?_).symm
    rintro ⟨before, after, fills, -⟩
    exact fills.not_staysShort short
  · constructor
    · intro correct
      exact .inr ⟨before, after, fills,
        (correct_iff_of_fillsUp allocated line fills).mp correct⟩
    · rintro (⟨short, -⟩ | ⟨before', after', fills', handled⟩)
      · exact absurd short fills.not_staysShort
      · exact (correct_iff_of_fillsUp allocated line fills').mpr handled

-----------------------------------------------------------------------------------------
-- Lines without a NUL
-----------------------------------------------------------------------------------------

/-- Without DELETE the stored bytes are added, by induction on the bytes. -/
theorem foldl_edit_of_no_delete {later : List UInt8} (kept : debugDelete ∉ later)
    (text : List UInt8)
    : later.foldl edit text = text ++ later.filter isTyped := by
  induction later generalizing text with
  | nil => exact (List.append_nil text).symm
  | cons c rest ih =>
      rw [List.mem_cons, not_or] at kept
      rw [List.foldl_cons, ih kept.2]
      by_cases typed : isTyped c = true
      · rw [(length_edit_le text c).2.2 typed, List.filter_cons_of_pos typed, List.append_assoc]
        rfl
      · have ascii : isAscii c = false := by simpa [isTyped, Ne.symm kept.1] using typed
        rw [List.filter_cons_of_neg typed, edit, if_neg (Ne.symm kept.1), if_neg (by simp [ascii])]

/-- A DELETE leaves less than what is stored, by induction on the bytes. -/
theorem length_foldl_edit (later text : List UInt8)
    : (later.foldl edit text).length ≤ text.length + (later.filter isTyped).length
      ∧ (debugDelete ∈ later → text ≠ [] →
        (later.foldl edit text).length < text.length + (later.filter isTyped).length) := by
  induction later generalizing text with
  | nil => exact ⟨le_refl _, fun h => absurd h List.not_mem_nil⟩
  | cons c rest ih =>
      obtain ⟨most, fewer⟩ := ih (edit text c)
      rw [List.foldl_cons]
      by_cases typed : isTyped c = true
      · rw [(length_edit_le text c).2.2 typed] at most fewer ⊢
        rw [List.length_append, List.length_singleton] at most fewer
        rw [List.filter_cons_of_pos typed, List.length_cons]
        refine ⟨by omega, fun member _ => ?_⟩
        have other : debugDelete ≠ c := by
          rintro rfl
          exact absurd typed (by decide)
        have later := fewer ((List.mem_cons.mp member).resolve_left other) (by simp)
        omega
      · have shorter := (length_edit_le text c).2.1 (Bool.eq_false_iff.mpr typed)
        rw [List.filter_cons_of_neg typed]
        refine ⟨by omega, fun member some_ => ?_⟩
        by_cases delete : c = debugDelete
        · have length : 0 < text.length := List.length_pos_iff.mpr some_
          rw [edit, if_pos delete, List.length_dropLast] at most
          rw [edit, if_pos delete]
          omega
        · have ascii : isAscii c = false := by simpa [isTyped, delete] using typed
          have same : edit text c = text := by
            rw [edit, if_neg delete, if_neg (by simp [ascii])]
          rw [same] at fewer ⊢
          exact fewer ((List.mem_cons.mp member).resolve_left (Ne.symm delete)) some_

/-- The edited text has only bytes of the input, by induction on the input from its end. -/
theorem mem_of_mem_edited {received : List UInt8} {c : UInt8} (member : c ∈ edited received)
    : c ∈ received := by
  induction received using List.reverseRecOn with
  | nil => exact member
  | append_singleton front d ih =>
      rw [edited_concat, edit] at member
      split_ifs at member
      · exact List.mem_append_left _ (ih (List.mem_of_mem_dropLast member))
      · rcases List.mem_append.mp member with earlier | last
        · exact List.mem_append_left _ (ih earlier)
        · exact List.mem_append_right _ last
      · exact List.mem_append_left _ (ih member)

/-- With enough memory getInput can handle a line without NUL exactly if its text stays short,
or fills the first half of the second buffer and part of the other one without a DELETE.
-/
theorem manageable_iff_of_plain (plain : 0 ∉ received)
    : Manageable (fun _ => true) received
      ↔ StaysShort received
        ∨ ∃ before after, FillsUp before after received
          ∧ (after.filter isTyped).length < lineSize ∧ debugDelete ∉ after := by
  have noZero : 0 ∉ edited received := fun member => plain (mem_of_mem_edited member)
  have handled {before after : List UInt8} (fills : FillsUp before after received)
      : cString (edited before ++ after.filter isTyped) = edited received
        ↔ debugDelete ∉ after := by
    have whole : edited received = after.foldl edit (edited before) := by
      rw [fills.parts, edited, List.foldl_append]
      rfl
    have terminated : 0 ∉ edited before ++ after.filter isTyped := by
      rw [fills.parts, List.mem_append, not_or] at plain
      rw [List.mem_append, not_or]
      exact ⟨fun h => plain.1 (mem_of_mem_edited h),
        fun h => plain.2 (List.mem_of_mem_filter h)⟩
    have string : cString (edited before ++ after.filter isTyped)
        = edited before ++ after.filter isTyped := Terminated.upTo_eq_self_iff.mpr terminated
    rw [string, whole]
    constructor
    · intro same member
      have some_ : edited before ≠ [] := by
        rintro empty
        exact absurd fills.full (by rw [empty]; decide)
      have fewer := (length_foldl_edit after (edited before)).2 member some_
      rw [← same, List.length_append] at fewer
      exact Nat.lt_irrefl _ fewer
    · exact fun kept => (foldl_edit_of_no_delete kept _).symm
  rw [Manageable, or_iff_right (by simp)]
  constructor
  · rintro (⟨short, -⟩ | ⟨before, after, fills, room⟩)
    · exact .inl short
    · obtain ⟨room, same⟩ := room.resolve_left (by simp)
      exact .inr ⟨before, after, fills, room, (handled fills).mp same⟩
  · rintro (short | ⟨before, after, fills, room, kept⟩)
    · exact .inl ⟨short, fun zero => absurd zero noZero⟩
    · exact .inr ⟨before, after, fills, .inr ⟨room, (handled fills).mpr kept⟩⟩

/-- A word with a typing error. -/
theorem getInput_correct_word
    : (getInput (fun _ => true) (fun _ => 0)
        (Client.ascii "quot" ++ [debugDelete, debugDelete] ++ Client.ascii "it"
          ++ [carriageReturn])).Correct
        (Client.ascii "quot" ++ [debugDelete, debugDelete] ++ Client.ascii "it") := by
  refine (getInput_correct_iff _ _ (by decide +kernel)).mpr (.inr (.inl ⟨?_, ?_⟩))
  · intro front inside
    refine (length_edited_le front).trans_lt (inside.length_le.trans_lt ?_)
    decide +kernel
  · exact fun zero => absurd zero (by decide +kernel)

/-- A line of two hundred characters: the NUL that ends it is behind the buffer. -/
theorem getInput_incorrect
    : ¬ ∀ (allocates : Nat → Bool) (memory : Int → UInt8) (received : List UInt8),
      carriageReturn ∉ received →
        (getInput allocates memory (received ++ [carriageReturn])).Correct received := by
  intro always
  have correct := always (fun _ => true) (fun _ => 0) (List.replicate 200 65)
    (by decide +kernel)
  have outside : ∃ write ∈ (getInput (fun _ => true) (fun _ => 0)
      (List.replicate 200 65 ++ [carriageReturn])).writes, ¬ write.Inside := by
    decide +kernel
  obtain ⟨write, member, outside⟩ := outside
  exact outside (correct.inside write member)

end Lines

end Reconn.Debug
