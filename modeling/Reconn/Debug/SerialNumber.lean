import Reconn.Client.DeviceId
import Reconn.Library.DecimalText
import Reconn.Library.Terminated
import Reconn.Library.TransitionRuns
import Reconn.RemoteMonitor.Activation

/-! The serial number, as serialSet of systemMenu.c has it typed and written to a file, and
as getDeviceId of clientApp.c reads it from there.
-/

namespace Reconn.Debug

open TransitionRuns
open DecimalText (isDigit)
open RemoteMonitor (isAlpha)
open Client (reconnSerialnumMaxLen ascii ResponsePacket readDeviceId readDeviceId_formats_iff)

/-- A line from getInput. -/
abbrev TypedLine := {line : List UInt8 // 0 ∉ line}

/-- The character at an index of a line; behind it is the NUL. -/
def charAt (text : List UInt8) (i : Nat) : UInt8 := (text[i]?).getD 0

/-- What happens after serialSet has asked for a line. -/
structure SerialAttempt where
  /-- what getInput returns -/
  responsePtr : Option TypedLine
  /-- the string in the memory of the line after it was freed -/
  freed : List UInt8
  /-- fopen() of RECONN_SERIALNUM_FILE_NAME -/
  fileOpens : Bool
  /-- what fwrite() returns -/
  bytesWritten : Nat

/-- The variables of serialSet. -/
structure SerialSet where
  allDigits : Bool
  notDone : Bool
  deriving DecidableEq, Repr

/-- The loop over the characters from the fourth one on: whether all are digits. A character
that is none frees the line, and the loop goes on in the freed memory; none if it comes to
another one there, which frees the line again and aborts the process.
-/
def digitLoop (freed : List UInt8) : List UInt8 → Nat → Option Bool
  | [], _ => some true
  | c :: rest, i =>
      if isDigit c then digitLoop freed rest (i + 1)
      else if (freed.drop (i + 1)).all isDigit then some false
      else none

/-- What the checks before the loop over the characters make of a line. -/
inductive SerialCheck where
  | rejected
  | quits
  | passes
  deriving DecidableEq, Repr

/-- The checks of a line's length and of its first three characters. -/
def serialCheck (line : List UInt8) : SerialCheck :=
  if reconnSerialnumMaxLen < line.length then .rejected
  else if charAt line 0 = 81 ∨ charAt line 0 = 113 then .quits
  else if charAt line 0 ≠ 82 then .rejected
  else if isDigit (charAt line 1) = false then .rejected
  else if isAlpha (charAt line 2) = false then .rejected
  else .passes

namespace SerialSet

/-- serialSet before its loop. -/
def start : SerialSet := ⟨true, true⟩

/-- What happens to a line that passes the checks. Nothing sets allDigits again after a line
with another character.
-/
def store (s : SerialSet) (a : SerialAttempt) (line : List UInt8)
    : SerialSet × Option (List UInt8) :=
  match digitLoop a.freed (line.drop 3) 3 with
  | none => (⟨false, false⟩, none)
  | some digits =>
      let allDigits := s.allDigits && digits
      if allDigits ∧ a.fileOpens then (⟨allDigits, false⟩, some (line.take a.bytesWritten))
      else ({ s with allDigits }, none)

/-- A turn of the loop from where a line is asked for on, with the contents that it leaves in
the file; no output if the file is not opened.
-/
def turn (s : SerialSet) (a : SerialAttempt) : Option (SerialSet × Option (List UInt8)) :=
  if s.notDone = false then none
  else match a.responsePtr with
    | none => some ({ s with notDone := false }, none)
    | some line =>
        match serialCheck line.1 with
        | .rejected => some (s, none)
        | .quits => some ({ s with notDone := false }, none)
        | .passes => some (s.store a line.1)

end SerialSet

/-- DEBUG_OUTPUT_LEN, the size of debugOutputString -/
def debugOutputLen : Nat := 100

/-- What every turn of serialSet begins with: a text that is put into debugOutputString. -/
def serialPrompt : List UInt8 :=
  ascii
    "\r\nEnter the serial number in the form R 0-9 alpha character\n\rfollowed by 4 digits "
    ++ ascii "(Example R1A0001) or q to quit > "

/-- serialSet, with a debugOutputString of a given size: the turns that the attempts come to;
none if the prompt, which comes before the first of them, leaves the array.
-/
def serialSet (outputLen : Nat) (attempts : List SerialAttempt)
    : Option (List (Transition SerialSet SerialAttempt (Option (List UInt8)))) :=
  if serialPrompt.length < outputLen then some (replay SerialSet.turn .start attempts).1
  else none

/-- R, a digit, a letter, and some more characters, all within the maximal length. -/
def BeginsSerial (line tail : List UInt8) : Prop :=
  line.length ≤ reconnSerialnumMaxLen
    ∧ ∃ digit letter, line = 82 :: digit :: letter :: tail
      ∧ isDigit digit = true ∧ isAlpha letter = true

/-- R, a digit, a letter and then only digits, within the maximal length. -/
def ValidSerial (line : List UInt8) : Prop :=
  ∃ tail, BeginsSerial line tail ∧ ∀ c ∈ tail, isDigit c = true

/-- The line is rejected for a character behind the letter. -/
def DigitRejected (line : List UInt8) : Prop :=
  ∃ tail, BeginsSerial line tail ∧ ∃ c ∈ tail, isDigit c = false

/-- After a turn, the line that was typed is in the file exactly if it is a serial number. -/
def WrittenIfValid
    (turn : Transition SerialSet SerialAttempt (Option (List UInt8)))
    : Prop :=
  ∀ line, turn.event.responsePtr = some line
    → (turn.output = some line.1 ↔ ValidSerial line.1)

/-- serialSet keeps to its arrays and judges each line by itself. -/
def SerialSetRight (outputLen : Nat) (attempts : List SerialAttempt) : Prop :=
  ∃ turns, serialSet outputLen attempts = some turns ∧ ∀ turn ∈ turns, WrittenIfValid turn

/-- The lines typed up to a turn. -/
def typedBefore (earlier : List TypedLine)
    (turn : Transition SerialSet SerialAttempt (Option (List UInt8)))
    : List TypedLine :=
  earlier ++ turn.event.responsePtr.toList

/-- The file can be opened, and takes the whole line. -/
def SerialAttempt.Stores (a : SerialAttempt) (line : List UInt8) : Prop :=
  a.fileOpens = true ∧ line.length ≤ a.bytesWritten

/-- If the line typed in a turn is a serial number, then none of the lines before it was
rejected for a character behind the letter, and the file stores it.
-/
def FirstOrUnspoiled (earlier : List TypedLine)
    (turn : Transition SerialSet SerialAttempt (Option (List UInt8)))
    : Prop :=
  ∀ line, turn.event.responsePtr = some line → ValidSerial line.1
    → (∀ other ∈ earlier, ¬ DigitRejected other.1) ∧ turn.event.Stores line.1

-----------------------------------------------------------------------------------------
-- What a line comes to
-----------------------------------------------------------------------------------------

/-- The loop over the characters finds digits only exactly if there are only digits, by
induction on the characters.
-/
theorem digitLoop_eq_true_iff {freed tail : List UInt8} {i : Nat}
    : digitLoop freed tail i = some true ↔ ∀ c ∈ tail, isDigit c = true := by
  induction tail generalizing i with
  | nil => exact iff_of_true rfl (List.forall_mem_nil _)
  | cons c rest ih =>
      rw [digitLoop, List.forall_mem_cons]
      by_cases digit : isDigit c = true
      · rw [if_pos digit, ih, and_iff_right digit]
      · rw [if_neg digit]
        refine iff_of_false ?_ fun h => digit h.1
        split_ifs <;> simp

/-- The checks before the loop over the characters let through what begins like a serial
number.
-/
theorem serialCheck_eq_passes_iff {line : List UInt8}
    : serialCheck line = .passes ↔ BeginsSerial line (line.drop 3) := by
  have checks
      : serialCheck line = .passes
        ↔ line.length ≤ reconnSerialnumMaxLen ∧ charAt line 0 = 82
          ∧ isDigit (charAt line 1) = true ∧ isAlpha (charAt line 2) = true := by
    unfold serialCheck
    split_ifs with long quits other <;> simp_all
    rcases quits with q | q <;> simp [q]
  rw [checks]
  refine and_congr_right fun _ => ⟨?_, ?_⟩
  · rintro ⟨r, isDigit_, isAlpha_⟩
    match line, r, isDigit_, isAlpha_ with
    | [], r, _, _ => exact absurd r (by decide)
    | [_], _, isDigit_, _ => exact Bool.noConfusion isDigit_
    | [_, _], _, _, isAlpha_ => exact Bool.noConfusion isAlpha_
    | first :: digit :: letter :: tail, r, isDigit_, isAlpha_ =>
        obtain rfl : first = 82 := r
        exact ⟨digit, letter, rfl, isDigit_, isAlpha_⟩
  · rintro ⟨digit, letter, shape, isDigit_, isAlpha_⟩
    rw [shape]
    exact ⟨rfl, isDigit_, isAlpha_⟩

/-- What follows the letter is what the line has from its fourth character on. -/
theorem BeginsSerial.tail_eq {line tail : List UInt8} (begins : BeginsSerial line tail)
    : tail = line.drop 3 := by
  obtain ⟨-, digit, letter, rfl, -⟩ := begins
  rfl

theorem validSerial_iff {line : List UInt8}
    : ValidSerial line
      ↔ BeginsSerial line (line.drop 3) ∧ ∀ c ∈ line.drop 3, isDigit c = true := by
  constructor
  · rintro ⟨tail, begins, digits⟩
    obtain rfl := begins.tail_eq
    exact ⟨begins, digits⟩
  · exact fun h => ⟨_, h⟩

theorem digitRejected_iff {line : List UInt8}
    : DigitRejected line
      ↔ BeginsSerial line (line.drop 3) ∧ ¬ ∀ c ∈ line.drop 3, isDigit c = true := by
  constructor
  · rintro ⟨tail, begins, c, member, other⟩
    obtain rfl := begins.tail_eq
    exact ⟨begins, fun digits => absurd (digits c member) (by simp [other])⟩
  · rintro ⟨begins, other⟩
    exact ⟨_, begins, by simpa using other⟩

namespace SerialSet

variable {s next : SerialSet} {a : SerialAttempt} {output : Option (List UInt8)}

/-- A line that passes the checks is written exactly if it has only digits, no line before
it had anything else, and the file stores it.
-/
theorem store_eq_iff (s : SerialSet) (a : SerialAttempt) (line : List UInt8)
    : (s.store a line).2 = some line
      ↔ (∀ c ∈ line.drop 3, isDigit c = true) ∧ s.allDigits = true ∧ a.Stores line := by
  have digits := @digitLoop_eq_true_iff a.freed (line.drop 3) 3
  have whole : line.take a.bytesWritten = line ↔ line.length ≤ a.bytesWritten :=
    List.take_eq_self_iff line
  unfold store
  match loop : digitLoop a.freed (line.drop 3) 3 with
  | none | some false =>
      have other : ¬ ∀ c ∈ line.drop 3, isDigit c = true := by
        rw [← digits, loop]
        simp
      exact iff_of_false (by simp) fun h => other h.1
  | some true =>
      have all : ∀ c ∈ line.drop 3, isDigit c = true := digits.mp loop
      rw [and_iff_right all, SerialAttempt.Stores]
      dsimp only
      rw [Bool.and_true]
      by_cases opens : s.allDigits = true ∧ a.fileOpens = true
      · rw [if_pos opens, Option.some.injEq, whole, and_iff_right opens.1,
          and_iff_right opens.2]
      · rw [if_neg opens]
        exact iff_of_false (by simp) fun h => opens ⟨h.1, h.2.1⟩

/-- allDigits tells whether the lines that pass the checks have had only digits. -/
theorem store_allDigits (s : SerialSet) (a : SerialAttempt) (line : List UInt8)
    : (s.store a line).1.allDigits = true
      ↔ s.allDigits = true ∧ ∀ c ∈ line.drop 3, isDigit c = true := by
  have digits := @digitLoop_eq_true_iff a.freed (line.drop 3) 3
  unfold store
  match loop : digitLoop a.freed (line.drop 3) 3 with
  | none | some false =>
      have other : ¬ ∀ c ∈ line.drop 3, isDigit c = true := by
        rw [← digits, loop]
        simp
      exact iff_of_false (by simp) fun h => other h.2
  | some true =>
      rw [and_iff_left (digits.mp loop)]
      dsimp only
      split_ifs <;> simp

/-- A turn writes a line exactly if that is valid, no line was rejected for a character behind
the letter before, and the file stores it.
-/
theorem turn_written_iff {line : TypedLine} (typed : a.responsePtr = some line)
    (taken : s.turn a = some (next, output))
    : output = some line.1 ↔ ValidSerial line.1 ∧ s.allDigits = true ∧ a.Stores line.1 := by
  rw [turn, Option.ite_none_left_eq_some, typed] at taken
  obtain ⟨-, taken⟩ := taken
  rw [validSerial_iff, ← serialCheck_eq_passes_iff]
  cases check : serialCheck line.1 with
  | rejected | quits =>
      simp only [check, Option.some.injEq, Prod.mk.injEq] at taken
      rw [← taken.2]
      exact iff_of_false (by simp) fun h => SerialCheck.noConfusion h.1.1
  | passes =>
      simp only [check, Option.some.injEq] at taken
      have written := store_eq_iff s a line.1
      rw [taken] at written
      rw [written, and_iff_right rfl]

/-- A line clears allDigits exactly if it is rejected for a character behind the letter. -/
theorem turn_allDigits (taken : s.turn a = some (next, output))
    : next.allDigits = true
      ↔ s.allDigits = true ∧ ¬ ∃ line, a.responsePtr = some line ∧ DigitRejected line.1 := by
  rw [turn, Option.ite_none_left_eq_some] at taken
  obtain ⟨-, taken⟩ := taken
  cases typed : a.responsePtr with
  | none =>
      simp only [typed, Option.some.injEq, Prod.mk.injEq] at taken
      rw [← taken.1]
      simp
  | some line =>
      simp only [typed] at taken
      have same : (∃ other, some line = some other ∧ DigitRejected other.1)
          ↔ serialCheck line.1 = .passes ∧ ¬ ∀ c ∈ line.1.drop 3, isDigit c = true := by
        rw [serialCheck_eq_passes_iff, ← digitRejected_iff]
        constructor
        · rintro ⟨other, same, rejected⟩
          obtain rfl := Option.some.inj same
          exact rejected
        · exact fun rejected => ⟨line, rfl, rejected⟩
      rw [same]
      cases check : serialCheck line.1 with
      | rejected | quits =>
          simp only [check, Option.some.injEq, Prod.mk.injEq] at taken
          rw [← taken.1]
          simp
      | passes =>
          simp only [check, Option.some.injEq] at taken
          have kept := store_allDigits s a line.1
          rw [taken] at kept
          rw [kept, and_iff_right rfl, not_not]

end SerialSet

-----------------------------------------------------------------------------------------
-- Sequences of lines
-----------------------------------------------------------------------------------------

/-- allDigits after a turn, in terms of the lines typed up to it. -/
theorem SerialSet.turn_keeps_history {s next : SerialSet} {a : SerialAttempt}
    {output : Option (List UInt8)} {earlier : List TypedLine}
    (related : s.allDigits = true ↔ ∀ other ∈ earlier, ¬ DigitRejected other.1)
    (taken : s.turn a = some (next, output))
    : next.allDigits = true
      ↔ ∀ other ∈ typedBefore earlier ⟨s, a, output, next⟩, ¬ DigitRejected other.1 := by
  rw [turn_allDigits taken, related, typedBefore, List.forall_mem_append]
  refine and_congr_right fun _ => ?_
  simp only [Option.mem_toList, not_exists, not_and]

/-- In a sequence of lines, each is written exactly if it is a serial number, exactly if no
serial number among them comes after a line that was rejected for a character behind the
letter, and the file stores each.
-/
theorem writtenIfValid_iff {finish : SerialSet}
    {turns : List (Transition SerialSet SerialAttempt (Option (List UInt8)))}
    (run : Run SerialSet.turn .start turns finish)
    : (∀ turn ∈ turns, WrittenIfValid turn)
      ↔ Throughout typedBefore FirstOrUnspoiled [] turns := by
  let Related (earlier : List TypedLine) (s : SerialSet) : Prop :=
    s.allDigits = true ↔ ∀ other ∈ earlier, ¬ DigitRejected other.1
  have agree (earlier : List TypedLine)
      (t : Transition SerialSet SerialAttempt (Option (List UInt8)))
      (related : Related earlier t.before)
      (taken : t.before.turn t.event = some (t.after, t.output))
      : WrittenIfValid t ↔ FirstOrUnspoiled earlier t := by
    refine forall_congr' fun line => forall_congr' fun typed => ?_
    have unspoiled : t.before.allDigits = true ↔ ∀ other ∈ earlier, ¬ DigitRejected other.1 :=
      related
    rw [SerialSet.turn_written_iff typed taken, unspoiled]
    exact ⟨fun h valid => (h.mpr valid).2, fun h => ⟨And.left, fun valid => ⟨valid, h valid⟩⟩⟩
  have keep (earlier : List TypedLine)
      (t : Transition SerialSet SerialAttempt (Option (List UInt8)))
      (related : Related earlier t.before)
      (taken : t.before.turn t.event = some (t.after, t.output))
      : Related (typedBefore earlier t) t.after :=
    SerialSet.turn_keeps_history related taken
  rw [← @throughout_const _ _ _ _ typedBefore _ []]
  exact run.throughout_iff keep agree [] (by simp [Related, SerialSet.start])

/-- A serial number. -/
def serialNumber : TypedLine := ⟨ascii "R1A0001", by decide +kernel⟩

theorem validSerial_serialNumber : ValidSerial serialNumber.1 :=
  ⟨ascii "0001", ⟨by decide +kernel, 49, 65, by decide +kernel, rfl, rfl⟩, by decide +kernel⟩

/-- serialSet never does what it should: its prompt has 115 characters, and debugOutputString is
an array of 100. In a larger one it would, exactly if no serial number among the lines came
after one that was rejected for a character behind the letter, and the file stored each.
-/
theorem serialSet_never_right (attempts : List SerialAttempt)
    : ¬ SerialSetRight debugOutputLen attempts
      ∧ ∀ outputLen, SerialSetRight outputLen attempts
        ↔ 115 < outputLen
          ∧ Throughout typedBefore FirstOrUnspoiled []
            (replay SerialSet.turn .start attempts).1 := by
  have right_iff (outputLen : Nat)
      : SerialSetRight outputLen attempts
        ↔ 115 < outputLen
          ∧ Throughout typedBefore FirstOrUnspoiled []
            (replay SerialSet.turn .start attempts).1 := by
    rw [SerialSetRight, serialSet, show serialPrompt.length = 115 by decide +kernel,
      ← writtenIfValid_iff (replay_run _ _)]
    constructor
    · rintro ⟨turns, done, right⟩
      obtain ⟨fits, done⟩ := Option.ite_none_right_eq_some.mp done
      exact ⟨fits, Option.some.inj done ▸ right⟩
    · exact fun ⟨fits, right⟩ => ⟨_, if_pos fits, right⟩
  exact ⟨fun right => absurd ((right_iff _).mp right).1 (by decide), right_iff⟩

/-- A line with a letter among its last characters. -/
def misspelt : TypedLine := ⟨ascii "R1A0X", by decide +kernel⟩

/-- A serial number that is typed first, and one after a line with a letter among its last
characters, which would not be written in an array of any size.
-/
theorem serialSet_wrong
    : ¬ SerialSetRight debugOutputLen [⟨some serialNumber, [], true, 7⟩]
      ∧ ∀ outputLen, ¬ SerialSetRight outputLen
        [⟨some misspelt, [], true, 0⟩, ⟨some serialNumber, [], true, 7⟩] := by
  constructor
  · rintro ⟨turns, done, -⟩
    exact absurd (Option.ite_none_right_eq_some.mp done).1 (by decide +kernel)
  · rintro outputLen ⟨turns, done, right⟩
    obtain ⟨-, done⟩ := Option.ite_none_right_eq_some.mp done
    have turns_
        : (replay SerialSet.turn .start
            [⟨some misspelt, [], true, 0⟩, ⟨some serialNumber, [], true, 7⟩]).1
          = [
            ⟨.start, ⟨some misspelt, [], true, 0⟩, none, ⟨false, true⟩⟩,
            ⟨⟨false, true⟩, ⟨some serialNumber, [], true, 7⟩, none, ⟨false, true⟩⟩
          ] := by
      rfl
    obtain rfl := turns_.symm.trans (Option.some.inj done)
    have written := right _ (List.mem_cons_of_mem _ (List.mem_singleton_self _)) serialNumber rfl
    exact absurd (written.mpr validSerial_serialNumber).symm (Option.some_ne_none _)

-----------------------------------------------------------------------------------------
-- Reading the serial number
-----------------------------------------------------------------------------------------

/-- A serial number that serialSet writes is read by getDeviceId, and formatted as a response
with its NUL, exactly if it has at most 10 characters.
-/
theorem written_readBack_iff {s next : SerialSet} {a : SerialAttempt} {line : TypedLine}
    (typed : a.responsePtr = some line) (written : s.turn a = some (next, some line.1))
    (pkt : ResponsePacket)
    : (readDeviceId pkt (some line.1)).Formats line.1 ↔ line.1.length ≤ 10 := by
  obtain ⟨⟨tail, ⟨-, digit, letter, shape, -⟩, -⟩, -⟩ :=
    (SerialSet.turn_written_iff typed written).mp rfl
  have nonempty : line.1 ≠ [] := by
    rw [shape]
    exact List.cons_ne_nil _ _
  rw [readDeviceId_formats_iff line.2 nonempty]
  exact Nat.lt_succ_iff

/-- The serial number of the prompt is read back. -/
theorem written_readBack_serialNumber
    : (readDeviceId .zero (some serialNumber.1)).Formats serialNumber.1 := by
  have written
      : SerialSet.start.turn ⟨some serialNumber, [], true, 7⟩
        = some (⟨true, false⟩, some serialNumber.1) := by
    decide +kernel
  exact (written_readBack_iff rfl written .zero).mpr (by decide +kernel)

/-- A serial number of as many characters as theSerialNumberString holds with its NUL. -/
def longSerialNumber : TypedLine := ⟨ascii "R1A00000001", by decide +kernel⟩

/-- serialSet writes a serial number of 11 characters, and getDeviceId fails on it. -/
theorem written_unread_long
    : ¬ ∀ (s next : SerialSet) (a : SerialAttempt) (line : TypedLine),
        a.responsePtr = some line → s.turn a = some (next, some line.1)
          → ∀ pkt, (readDeviceId pkt (some line.1)).Formats line.1 := by
  intro readBack
  have written
      : SerialSet.start.turn ⟨some longSerialNumber, [], true, 11⟩
        = some (⟨true, false⟩, some longSerialNumber.1) := by
    decide +kernel
  have formats := readBack _ _ _ _ rfl written .zero
  exact absurd formats.succeeds (by decide +kernel)

end Reconn.Debug
