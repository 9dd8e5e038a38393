import Reconn.Equipment.Descriptors
import Reconn.Equipment.DiagsResponse
import Reconn.Upgrade.RoundTrip

/-! The diagnostics of the digital multimeter, by dmmDiags of dmm.c. It puts the meter into
each mode and function and compares the status that the meter reports. One return code serves
all steps, so a later step can overwrite what an earlier one left in it.
-/

namespace Reconn.Equipment

open Appends TransitionRuns
open Client (ReconnErrCode reconnSuccess reconnFailure reconnDmmPortNotInitialized ascii
  reconnFailure_ne_success)
open Upgrade (strncmpEqual)

def dmmMaxResponse : Nat := 6

def statusCommand : Nat := 0
def milliVoltCommand : Nat := 1
def ohmCommand : Nat := 5
def dcModeCommand : Nat := 6
def acModeCommand : Nat := 7

/-- The array dmmCommands. -/
def dmmCommandTexts : List (List UInt8) :=
  [ascii "s", ascii "v", ascii "V", ascii "i", ascii "I", ascii "o", ascii "d", ascii "a"]

/-- dmmCommands[i] -/
def dmmCommands (i : Nat) : List UInt8 := (dmmCommandTexts[i]?).getD []

def milliVoltDc : Nat := 0
def milliVoltAc : Nat := 5

/-- The array dmmStatusResult. -/
def dmmStatusResultTexts : List (List UInt8) :=
  [
    ascii "vda", ascii "Vda", ascii "ida", ascii "Ida", ascii "oda",
    ascii "vaa", ascii "Vaa", ascii "iaa", ascii "Iaa", ascii "oaa"
  ]

/-- dmmStatusResult[i] -/
def dmmStatusResult (i : Nat) : List UInt8 := (dmmStatusResultTexts[i]?).getD []

/-- dmmWrite, for what write() returns. -/
def dmmWrite (dmmPortInit : Bool) (buffer : List UInt8) (bytesWritten : Int)
    : ReconnErrCode :=
  if dmmPortInit = false then reconnDmmPortNotInitialized
  else if bytesWritten ≠ buffer.length ∨ bytesWritten < 0 then reconnFailure
  else reconnSuccess

/-- What the calls of dmmDiags meet: write() for each command, and the turns of
diagsGetResponse after it. The commands of a mode and a function are told apart by both.
-/
structure DiagsOutcomes where
  writeMode : Nat → Int
  /-- what follows the command for DC mode -/
  modeEcho : List Wait
  writeFunction : Nat → Nat → Int
  functionEcho : Nat → Nat → List Wait
  writeStatus : Nat → Nat → Int
  status : Nat → Nat → List Wait

/-- What diagsGetResponse comes to with an array of its caller. -/
inductive Response where
  /-- It has not returned when the turns are over. -/
  | waits
  /-- A part of the response is stored behind the array. -/
  | leaves
  | returns (retCode : ReconnErrCode) (response : List UInt8)
  deriving DecidableEq, Repr

/-- diagsGetResponse into dmmResponse, an array of the given size that was cleared before. The
parts lie in it one behind the other.
-/
def dmmResponse (size : Nat) (length : Int) (waits : List Wait) : Response :=
  match diagsGetResponse length waits with
  | none => .waits
  | some s =>
      if size < s.count then .leaves
      else match s.returned with
        | none => .waits
        | some retCode =>
            .returns retCode ((List.range size).map (contents (fun _ => 0) s.stores))

/-- How a turn of one of the loops ends. -/
inductive DiagsTurn where
  | next (retCode : ReconnErrCode)
  | break_ (retCode : ReconnErrCode)
  /-- the loop variables are set so that both loops end -/
  | mismatch
  /-- diagsGetResponse has not returned -/
  | waits
  /-- Memory outside of an array is used: nothing is known of what follows. -/
  | leaves
  deriving DecidableEq, Repr

/-- The turn ends both loops, or does not end itself, or leaves an array. -/
def DiagsTurn.Stops (turn : DiagsTurn) : Prop :=
  turn = .mismatch ∨ turn = .waits ∨ turn = .leaves

theorem DiagsTurn.Stops.ne_next {turn : DiagsTurn} (stops : turn.Stops)
    (retCode : ReconnErrCode)
    : turn ≠ .next retCode := by
  rcases stops with rfl | rfl | rfl <;> exact DiagsTurn.noConfusion

theorem DiagsTurn.Stops.ne_break {turn : DiagsTurn} (stops : turn.Stops)
    (retCode : ReconnErrCode)
    : turn ≠ .break_ retCode := by
  rcases stops with rfl | rfl | rfl <;> exact DiagsTurn.noConfusion

theorem DiagsTurn.not_stops_next (retCode : ReconnErrCode) : ¬ (next retCode).Stops :=
  fun stops => stops.ne_next retCode rfl

theorem DiagsTurn.not_stops_break (retCode : ReconnErrCode) : ¬ (break_ retCode).Stops :=
  fun stops => stops.ne_break retCode rfl

/-- What dmmDiags comes to. -/
inductive DiagsVerdict where
  | returns (retCode : ReconnErrCode)
  | waits
  | leaves
  deriving DecidableEq, Repr

namespace DiagsOutcomes

variable (o : DiagsOutcomes) (dmmPortInit : Bool)

/-- The comparison of a status response, which is printed as a string if it differs. Whatever the
mode, it is compared with the entry that the function alone selects.
-/
def compareTurn (i : Nat) (retCode : ReconnErrCode) (response : List UInt8) : DiagsTurn :=
  if retCode ≠ reconnSuccess then .next retCode
  else if strncmpEqual 3 response (dmmStatusResult (i - 1)) = false then
    if 0 ∈ response then .mismatch else .leaves
  else .next retCode

/-- The turn for one function. -/
def functionTurn (voltageMode i : Nat) : DiagsTurn :=
  let retCode := dmmWrite dmmPortInit (dmmCommands i) (o.writeFunction voltageMode i)
  if retCode ≠ reconnSuccess then .break_ retCode
  else match dmmResponse dmmMaxResponse 1 (o.functionEcho voltageMode i) with
    | .waits => .waits
    | .leaves => .leaves
    | .returns _ _ =>
        let retCode :=
          dmmWrite dmmPortInit (dmmCommands statusCommand) (o.writeStatus voltageMode i)
        if retCode ≠ reconnSuccess then .next retCode
        else match dmmResponse dmmMaxResponse dmmStatusRspLen (o.status voltageMode i) with
          | .waits => .waits
          | .leaves => .leaves
          | .returns retCode response => compareTurn i retCode response

/-- The loop over the functions from the given ones on. -/
def functionTurns (voltageMode : Nat) : List Nat → ReconnErrCode → DiagsTurn
  | [], retCode => .next retCode
  | i :: rest, _ =>
      match o.functionTurn dmmPortInit voltageMode i with
      | .next retCode => functionTurns voltageMode rest retCode
      | ending => ending

/-- MILLI_VOLT_COMMAND to OHM_COMMAND -/
def functionCommands : List Nat := List.range' milliVoltCommand ohmCommand

/-- The turn for one mode. If its command is not written, dmmCommands[i] is printed with the i of
the loop over the functions, which is not initialised before DC mode. A break out of the inner
loop leaves the outer one running.
-/
def modeTurn (voltageMode : Nat) : DiagsTurn :=
  let retCode := dmmWrite dmmPortInit (dmmCommands voltageMode) (o.writeMode voltageMode)
  if retCode ≠ reconnSuccess then
    if voltageMode = dcModeCommand then .leaves else .next retCode
  else match
      if voltageMode = dcModeCommand then dmmResponse dmmMaxResponse 1 o.modeEcho
      else .returns reconnSuccess [] with
    | .waits => .waits
    | .leaves => .leaves
    | .returns _ _ =>
        match o.functionTurns dmmPortInit voltageMode functionCommands retCode with
        | .break_ retCode => .next retCode
        | ending => ending

/-- The loop over the modes from the given ones on, with what dmmDiags returns. -/
def modeTurns : List Nat → ReconnErrCode → DiagsVerdict
  | [], retCode => .returns retCode
  | voltageMode :: rest, _ =>
      match o.modeTurn dmmPortInit voltageMode with
      | .next retCode | .break_ retCode => modeTurns rest retCode
      | .mismatch => .returns reconnFailure
      | .waits => .waits
      | .leaves => .leaves

/-- What the loops of dmmDiags come to. -/
def compared : DiagsVerdict :=
  o.modeTurns dmmPortInit [dcModeCommand, acModeCommand] reconnSuccess

end DiagsOutcomes

/-- dmmDiags with its loops. -/
def State.dmmDiagsReturns (s : State) (env : DmmOutcomes) (o : DiagsOutcomes)
    : DiagsVerdict :=
  let init := s.dmmDiags env reconnSuccess
  if init.2 = reconnSuccess then
    match o.compared init.1.dmmPortInit with
    | .returns compared => .returns (s.dmmDiags env compared).2
    | other => other
  else .returns init.2

-----------------------------------------------------------------------------------------
-- What the steps meet
-----------------------------------------------------------------------------------------

namespace DiagsOutcomes

variable (o : DiagsOutcomes) (dmmPortInit : Bool)

/-- The command for the mode is written. -/
def ModeWritten (voltageMode : Nat) : Prop :=
  dmmWrite dmmPortInit (dmmCommands voltageMode) (o.writeMode voltageMode) = reconnSuccess

/-- The command for the function is written. -/
def FunctionWritten (voltageMode i : Nat) : Prop :=
  dmmWrite dmmPortInit (dmmCommands i) (o.writeFunction voltageMode i) = reconnSuccess

instance (voltageMode i : Nat) : Decidable (o.FunctionWritten dmmPortInit voltageMode i) :=
  inferInstanceAs (Decidable (_ = _))

/-- The status command after a function's command is written. -/
def StatusWritten (voltageMode i : Nat) : Prop :=
  dmmWrite dmmPortInit (dmmCommands statusCommand) (o.writeStatus voltageMode i)
    = reconnSuccess

instance (voltageMode i : Nat) : Decidable (o.StatusWritten dmmPortInit voltageMode i) :=
  inferInstanceAs (Decidable (_ = _))

/-- A status response is received. -/
def Received (voltageMode i : Nat) : Prop :=
  ∃ s, diagsGetResponse dmmStatusRspLen (o.status voltageMode i) = some s
    ∧ s.returned = some reconnSuccess

/-- The first three characters of the status response. -/
def firstCharacters (voltageMode i : Nat) : List UInt8 :=
  (delivered (o.status voltageMode i)).take 3

/-- The entry of dmmStatusResult for a mode and a function. -/
def expected (voltageMode i : Nat) : List UInt8 :=
  dmmStatusResult ((if voltageMode = dcModeCommand then milliVoltDc else milliVoltAc) + (i - 1))

/-- A step for a function that goes as it should. -/
structure FunctionPasses (voltageMode i : Nat) : Prop where
  written : o.FunctionWritten dmmPortInit voltageMode i
  statusWritten : o.StatusWritten dmmPortInit voltageMode i
  received : o.Received voltageMode i
  expected : o.firstCharacters voltageMode i = expected voltageMode i

/-- The meter does in both modes what it should. -/
def Passes : Prop :=
  ∀ voltageMode ∈ [dcModeCommand, acModeCommand],
    o.ModeWritten dmmPortInit voltageMode
    ∧ ∀ i ∈ functionCommands, o.FunctionPasses dmmPortInit voltageMode i

/-- The first response after a function's command comes to an end. -/
def Echoed (voltageMode i : Nat) : Prop :=
  dmmResponse dmmMaxResponse 1 (o.functionEcho voltageMode i) ≠ .waits

/-- A status response has more characters than dmmResponse, or it fills the array without a NUL
and is to be printed, as it has not the entry for DC.
-/
def Outside (voltageMode i : Nat) : Prop :=
  o.StatusWritten dmmPortInit voltageMode i
    ∧ (diagsGetResponse dmmStatusRspLen (o.status voltageMode i)).isSome = true
    ∧ (dmmMaxResponse < (delivered (o.status voltageMode i)).length
      ∨ o.Received voltageMode i ∧ (delivered (o.status voltageMode i)).length = dmmMaxResponse
        ∧ 0 ∉ delivered (o.status voltageMode i)
        ∧ o.firstCharacters voltageMode i ≠ dmmStatusResult (i - 1))

/-- Both responses after a function's command come to an end inside of the array, and a status
response that is received has the entry for DC.
-/
structure Unremarkable (voltageMode i : Nat) : Prop where
  echo : o.Echoed voltageMode i
  status : o.StatusWritten dmmPortInit voltageMode i →
    dmmResponse dmmMaxResponse dmmStatusRspLen (o.status voltageMode i) ≠ .waits
  inside : o.StatusWritten dmmPortInit voltageMode i →
    (delivered (o.status voltageMode i)).length ≤ dmmMaxResponse
  entry : o.StatusWritten dmmPortInit voltageMode i → o.Received voltageMode i →
    o.firstCharacters voltageMode i = dmmStatusResult (i - 1)

/-- In DC mode nothing remarkable comes back before a function's command is not written. -/
structure DcPasses : Prop where
  written : o.ModeWritten dmmPortInit dcModeCommand
  echo : dmmResponse dmmMaxResponse 1 o.modeEcho ≠ .waits
  functions : ∀ i ∈ functionCommands.takeWhile (o.FunctionWritten dmmPortInit dcModeCommand ·),
    o.Unremarkable dmmPortInit dcModeCommand i

/-- Whatever goes wrong is overwritten: in DC mode everything except a response with another
text, in AC mode the statuses before the last one.
-/
structure Overlooked : Prop where
  dc : o.DcPasses dmmPortInit
  acWritten : o.ModeWritten dmmPortInit acModeCommand
  ac : ∀ i ∈ functionCommands, o.FunctionWritten dmmPortInit acModeCommand i
    ∧ o.Unremarkable dmmPortInit acModeCommand i
  last : o.StatusWritten dmmPortInit acModeCommand ohmCommand
    ∧ o.Received acModeCommand ohmCommand

/-- The first function for which something is not written or remarkable has a status response
outside of its array.
-/
def LeavesFirst (voltageMode : Nat) (commands : List Nat) : Prop :=
  ∃ front i back, commands = front ++ i :: back
    ∧ (∀ j ∈ front, o.FunctionWritten dmmPortInit voltageMode j
      ∧ o.Unremarkable dmmPortInit voltageMode j)
    ∧ o.FunctionWritten dmmPortInit voltageMode i ∧ o.Echoed voltageMode i
    ∧ o.Outside dmmPortInit voltageMode i

/-- The command for DC mode is written, and as far as the loops come, every status response keeps
to its array.
-/
structure KeepsInside : Prop where
  written : o.ModeWritten dmmPortInit dcModeCommand
  dc : dmmResponse dmmMaxResponse 1 o.modeEcho ≠ .waits →
    ¬ o.LeavesFirst dmmPortInit dcModeCommand functionCommands
  ac : o.DcPasses dmmPortInit → o.ModeWritten dmmPortInit acModeCommand →
    ¬ o.LeavesFirst dmmPortInit acModeCommand functionCommands

end DiagsOutcomes

-----------------------------------------------------------------------------------------
-- The response in the array
-----------------------------------------------------------------------------------------

/-- strncmp() over the whole of a text that has no NUL compares the first bytes with it, by
induction on the text.
-/
theorem strncmpEqual_iff_take {bytes text : List UInt8} (terminated : 0 ∉ text)
    : strncmpEqual text.length bytes text = true ↔ bytes.take text.length = text := by
  induction text generalizing bytes with
  | nil => exact iff_of_true rfl rfl
  | cons b rest ih =>
      rw [List.mem_cons, not_or] at terminated
      cases bytes with
      | nil => exact iff_of_false (by simp [strncmpEqual]) (by simp)
      | cons a as =>
          have same : strncmpEqual (rest.length + 1) (a :: as) (b :: rest) = true
              ↔ a = b ∧ strncmpEqual rest.length as rest = true := by
            simp only [strncmpEqual, Bool.and_eq_true, Bool.or_eq_true, decide_eq_true_eq]
            constructor
            · rintro ⟨rfl, ends⟩
              exact ⟨rfl, ends.resolve_left (Ne.symm terminated.1)⟩
            · rintro ⟨rfl, equal⟩
              exact ⟨rfl, .inr equal⟩
          rw [List.length_cons, List.take_succ_cons, List.cons.injEq, same, ih terminated.2]

/-- Each function has an entry of three characters for DC. -/
theorem dmmStatusResult_dc {i : Nat} (known : i ∈ DiagsOutcomes.functionCommands)
    : (dmmStatusResult (i - 1)).length = 3 ∧ 0 ∉ dmmStatusResult (i - 1) := by
  have entries : ∀ i ∈ DiagsOutcomes.functionCommands,
      (dmmStatusResult (i - 1)).length = 3 ∧ 0 ∉ dmmStatusResult (i - 1) := by
    decide +kernel
  exact entries i known

/-- What dmmResponse returns, from the last state of diagsGetResponse. -/
theorem dmmResponse_eq_returns_iff {size : Nat} {length : Int} {waits : List Wait}
    {retCode : ReconnErrCode} {response : List UInt8}
    : dmmResponse size length waits = .returns retCode response
      ↔ ∃ s, diagsGetResponse length waits = some s ∧ s.count ≤ size
        ∧ s.returned = some retCode
        ∧ (List.range size).map (contents (fun _ => 0) s.stores) = response := by
  unfold dmmResponse
  cases run : diagsGetResponse length waits with
  | none => simp
  | some s =>
      by_cases outside : size < s.count
      · simp [outside]
      · have inside := not_lt.mp outside
        cases returned : s.returned <;> simp [outside, inside, returned]

/-- It leaves its array exactly if more is delivered than that has room for. -/
theorem dmmResponse_eq_leaves_iff {size : Nat} {length : Int} {waits : List Wait}
    : dmmResponse size length waits = .leaves
      ↔ (diagsGetResponse length waits).isSome = true ∧ size < (delivered waits).length := by
  unfold dmmResponse
  cases run : diagsGetResponse length waits with
  | none => simp
  | some s =>
      rw [← (diagsGetResponse_collected run).count]
      by_cases outside : size < s.count
      · simp [outside]
      · cases returned : s.returned <;> simp [outside, returned]

/-- Until the read of one character ends, nothing has been delivered, and then one at most. -/
def DiagsResponse.Single (state : DiagsResponse) : Prop :=
  state.count ≤ 1 ∧ (state.returned = none → state.count = 0)

theorem DiagsResponse.Single.turn {state next : DiagsResponse} {wait : Wait}
    (single : state.Single) (taken : state.turn 1 wait = some next)
    : next.Single := by
  obtain ⟨bound, running⟩ := single
  unfold DiagsResponse.turn at taken
  rw [Option.ite_none_left_eq_some] at taken
  obtain ⟨returned, taken⟩ := taken
  have zero : state.count = 0 := running (by simpa using returned)
  match wait with
  | .selectFails | .timeout | .ready none =>
      obtain rfl := Option.some.inj taken
      exact ⟨bound, by simp⟩
  | .notSet =>
      obtain rfl := Option.some.inj taken
      unfold DiagsResponse.whileMissing
      split_ifs
      · exact ⟨bound, running⟩
      · exact ⟨bound, by simp⟩
  | .ready (some bytes) =>
      obtain ⟨served, taken⟩ := Option.ite_none_right_eq_some.mp taken
      obtain rfl := Option.some.inj taken
      have single : bytes.length ≤ 1 := served
      unfold DiagsResponse.whileMissing
      split_ifs with missing
      · have none_ : state.count + bytes.length < 1 := by exact_mod_cast missing
        exact ⟨by dsimp only; omega, fun _ => by dsimp only; omega⟩
      · exact ⟨by dsimp only; omega, by simp⟩

/-- A response of one character comes in one read, by induction on the turns. -/
theorem dmmResponse_one_ne_leaves {size : Nat} (room : 0 < size) (waits : List Wait)
    : dmmResponse size 1 waits ≠ .leaves := by
  rw [Ne, dmmResponse_eq_leaves_iff]
  rintro ⟨some_, outside⟩
  obtain ⟨s, run⟩ := Option.isSome_iff_exists.mp some_
  rw [← (diagsGetResponse_collected run).count] at outside
  obtain ⟨bound, -⟩ : s.Single :=
    foldlM_invariant (fun _ => DiagsResponse.Single) (fun _ _ _ _ => DiagsResponse.Single.turn)
      ⟨Nat.zero_le 1, fun _ => rfl⟩ run
  omega

/-- The bytes of the array are those of the response, and zeros behind them. -/
theorem dmmResponse_eq_map {size : Nat} {length : Int} {waits : List Wait}
    {retCode : ReconnErrCode} {response : List UInt8}
    (returned : dmmResponse size length waits = .returns retCode response)
    : response = (List.range size).map fun index => ((delivered waits)[index]?).getD 0 := by
  obtain ⟨s, run, -, -, rfl⟩ := dmmResponse_eq_returns_iff.mp returned
  have collected := diagsGetResponse_collected run
  refine List.map_congr_left fun index _ => ?_
  rw [collected.row.contents_eq, collected.stored]
  simp [Store.apply]

/-- The response is no longer than the array. -/
theorem delivered_le_of_returns {size : Nat} {length : Int} {waits : List Wait}
    {retCode : ReconnErrCode} {response : List UInt8}
    (returned : dmmResponse size length waits = .returns retCode response)
    : (delivered waits).length ≤ size := by
  obtain ⟨s, run, inside, -⟩ := dmmResponse_eq_returns_iff.mp returned
  rwa [(diagsGetResponse_collected run).count] at inside

/-- The array begins with a text of three characters exactly if the response does: what the
response leaves free in the array is zero.
-/
theorem take_dmmResponse {length : Int} {waits : List Wait} {retCode : ReconnErrCode}
    {response text : List UInt8} (three : text.length = 3) (terminated : 0 ∉ text)
    (returned : dmmResponse dmmMaxResponse length waits = .returns retCode response)
    : response.take 3 = text ↔ (delivered waits).take 3 = text := by
  have front
      : response.take 3
        = [
          ((delivered waits)[0]?).getD 0, ((delivered waits)[1]?).getD 0,
          ((delivered waits)[2]?).getD 0
        ] := by
    rw [dmmResponse_eq_map returned]
    rfl
  rw [front]
  -- Of fewer than three bytes the array has a zero in the place of the third.
  rcases delivered waits with _ | ⟨a, _ | ⟨b, _ | ⟨c, rest⟩⟩⟩
  case cons.cons.cons => simp
  all_goals
    refine iff_of_false ?_ ?_
    · rintro rfl
      simp at terminated
    · rintro rfl
      simp at three

/-- The array has no NUL exactly if the response has none and fills it. -/
theorem zero_not_mem_dmmResponse {size : Nat} {length : Int} {waits : List Wait}
    {retCode : ReconnErrCode} {response : List UInt8}
    (returned : dmmResponse size length waits = .returns retCode response)
    : 0 ∉ response ↔ (delivered waits).length = size ∧ 0 ∉ delivered waits := by
  have inside := delivered_le_of_returns returned
  rw [dmmResponse_eq_map returned, List.mem_map]
  constructor
  · intro unterminated
    have full : (delivered waits).length = size := by
      by_contra short
      refine unterminated ⟨(delivered waits).length, List.mem_range.mpr (by omega), ?_⟩
      simp
    refine ⟨full, fun zero => ?_⟩
    obtain ⟨index, bound, byte⟩ := List.getElem_of_mem zero
    refine unterminated ⟨index, List.mem_range.mpr (full ▸ bound), ?_⟩
    rw [List.getElem?_eq_getElem bound, Option.getD_some, byte]
  · rintro ⟨rfl, other⟩ ⟨index, bound, byte⟩
    have bound := List.mem_range.mp bound
    rw [List.getElem?_eq_getElem bound, Option.getD_some] at byte
    exact other (byte ▸ List.getElem_mem bound)

namespace DiagsOutcomes

variable {o : DiagsOutcomes} {dmmPortInit : Bool} {voltageMode i : Nat}

-----------------------------------------------------------------------------------------
-- The loop over the functions
-----------------------------------------------------------------------------------------

/-- A turn up to the status: what it comes to once the function's command is written and its
response has ended.
-/
theorem functionTurn_of_echo (written : o.FunctionWritten dmmPortInit voltageMode i)
    (echo : o.Echoed voltageMode i)
    : o.functionTurn dmmPortInit voltageMode i
      = if ¬ o.StatusWritten dmmPortInit voltageMode i then
          .next (dmmWrite dmmPortInit (dmmCommands statusCommand) (o.writeStatus voltageMode i))
        else match dmmResponse dmmMaxResponse dmmStatusRspLen (o.status voltageMode i) with
          | .waits => .waits
          | .leaves => .leaves
          | .returns retCode response => compareTurn i retCode response := by
  have going
      : ¬ dmmWrite dmmPortInit (dmmCommands i) (o.writeFunction voltageMode i) ≠ reconnSuccess :=
    not_not.mpr written
  have inside := dmmResponse_one_ne_leaves (show 0 < dmmMaxResponse by decide)
    (o.functionEcho voltageMode i)
  rw [functionTurn, if_neg going]
  cases response : dmmResponse dmmMaxResponse 1 (o.functionEcho voltageMode i) with
  | waits => exact absurd response echo
  | leaves => exact absurd response inside
  | returns => rfl

/-- The comparison with an entry of the table is one of the first three characters. -/
theorem strncmpEqual_status {retCode : ReconnErrCode} {response : List UInt8}
    (known : i ∈ functionCommands)
    (status : dmmResponse dmmMaxResponse dmmStatusRspLen (o.status voltageMode i)
      = .returns retCode response)
    : strncmpEqual 3 response (dmmStatusResult (i - 1)) = true
      ↔ o.firstCharacters voltageMode i = dmmStatusResult (i - 1) := by
  obtain ⟨three, terminated⟩ := dmmStatusResult_dc known
  have compared := @strncmpEqual_iff_take response _ terminated
  rw [three] at compared
  exact compared.trans (take_dmmResponse three terminated status)

/-- Nothing unremarkable is outside of its array. -/
theorem Unremarkable.not_outside (unremarkable : o.Unremarkable dmmPortInit voltageMode i)
    : ¬ o.Outside dmmPortInit voltageMode i := by
  rintro ⟨written, -, long | ⟨received, -, -, other⟩⟩
  · exact absurd (unremarkable.inside written) (Nat.not_le.mpr long)
  · exact other (unremarkable.entry written received)

/-- A status response that never ends is not outside of its array. -/
theorem not_outside_of_waits
    (status : dmmResponse dmmMaxResponse dmmStatusRspLen (o.status voltageMode i) = .waits)
    : ¬ o.Outside dmmPortInit voltageMode i := by
  rintro ⟨-, some_, long | ⟨⟨s, run, returned⟩, full, -⟩⟩
  · rw [dmmResponse_eq_leaves_iff.mpr ⟨some_, long⟩] at status
    cases status
  · have count := (diagsGetResponse_collected run).count
    have fits : s.count ≤ dmmMaxResponse := by omega
    rw [dmmResponse_eq_returns_iff.mpr ⟨s, run, fits, returned, rfl⟩] at status
    cases status

/-- A status response that ends inside of its array is received if its code says so. -/
theorem received_iff_of_returns {retCode : ReconnErrCode} {response : List UInt8}
    (status : dmmResponse dmmMaxResponse dmmStatusRspLen (o.status voltageMode i)
      = .returns retCode response)
    : o.Received voltageMode i ↔ retCode = reconnSuccess := by
  obtain ⟨s, run, -, returned, -⟩ := dmmResponse_eq_returns_iff.mp status
  simp [Received, run, returned]

/-- A status response that ends inside of its array is unremarkable exactly if it is not received
or has the entry for DC.
-/
theorem unremarkable_iff_of_returns (echo : o.Echoed voltageMode i)
    (statusWritten : o.StatusWritten dmmPortInit voltageMode i)
    {retCode : ReconnErrCode} {response : List UInt8}
    (status : dmmResponse dmmMaxResponse dmmStatusRspLen (o.status voltageMode i)
      = .returns retCode response)
    : o.Unremarkable dmmPortInit voltageMode i
      ↔ (retCode = reconnSuccess → o.firstCharacters voltageMode i = dmmStatusResult (i - 1)) := by
  have received := received_iff_of_returns status
  constructor
  · exact fun unremarkable success => unremarkable.entry statusWritten (received.mpr success)
  · exact fun entry => {
      echo
      status := fun _ => by simp [status]
      inside := fun _ => delivered_le_of_returns status
      entry := fun _ h => entry (received.mp h)
    }

/-- A status response with another text than the entry for DC is outside of its array exactly if
its print finds no NUL.
-/
theorem outside_iff_of_returns (statusWritten : o.StatusWritten dmmPortInit voltageMode i)
    {response : List UInt8}
    (status : dmmResponse dmmMaxResponse dmmStatusRspLen (o.status voltageMode i)
      = .returns reconnSuccess response)
    (other : o.firstCharacters voltageMode i ≠ dmmStatusResult (i - 1))
    : o.Outside dmmPortInit voltageMode i ↔ 0 ∉ response := by
  have unterminated := zero_not_mem_dmmResponse status
  have inside := delivered_le_of_returns status
  obtain ⟨s, run, -⟩ := dmmResponse_eq_returns_iff.mp status
  constructor
  · rintro ⟨-, -, long | ⟨-, full, none_, -⟩⟩
    · exact absurd inside (Nat.not_le.mpr long)
    · exact unterminated.mpr ⟨full, none_⟩
  · intro zero
    obtain ⟨full, none_⟩ := unterminated.mp zero
    have received := (received_iff_of_returns status).mpr rfl
    exact ⟨statusWritten, by simp [run], .inr ⟨received, full, none_, other⟩⟩

/-- The status of a turn: it goes on unremarkably, with a code that tells whether there was one,
or it stops, outside of the array or not.
-/
theorem statusTurn_cases (known : i ∈ functionCommands)
    (written : o.FunctionWritten dmmPortInit voltageMode i) (echo : o.Echoed voltageMode i)
    (statusWritten : o.StatusWritten dmmPortInit voltageMode i)
    : (¬ o.Unremarkable dmmPortInit voltageMode i
        ∧ (o.functionTurn dmmPortInit voltageMode i).Stops
        ∧ (o.functionTurn dmmPortInit voltageMode i = .leaves
          ↔ o.Outside dmmPortInit voltageMode i))
      ∨ (o.Unremarkable dmmPortInit voltageMode i
        ∧ ∃ retCode, o.functionTurn dmmPortInit voltageMode i = .next retCode
          ∧ (retCode = reconnSuccess ↔ o.Received voltageMode i)) := by
  have turn := functionTurn_of_echo written echo
  rw [if_neg (not_not.mpr statusWritten)] at turn
  cases status : dmmResponse dmmMaxResponse dmmStatusRspLen (o.status voltageMode i) with
  | waits =>
      rw [status] at turn
      refine .inl ⟨fun h => h.status statusWritten status, .inr (.inl turn), ?_⟩
      rw [turn]
      exact iff_of_false DiagsTurn.noConfusion (not_outside_of_waits status)
  | leaves =>
      rw [status] at turn
      obtain ⟨some_, long⟩ := dmmResponse_eq_leaves_iff.mp status
      refine .inl ⟨fun h => ?_, .inr (.inr turn), ?_⟩
      · exact absurd (h.inside statusWritten) (Nat.not_le.mpr long)
      · exact iff_of_true turn ⟨statusWritten, some_, .inl long⟩
  | returns retCode response =>
      rw [status] at turn
      have received := received_iff_of_returns status
      have unremarkable := unremarkable_iff_of_returns echo statusWritten status
      by_cases success : retCode = reconnSuccess
      swap
      · exact .inr ⟨unremarkable.mpr (absurd · success), retCode, turn.trans (if_pos success),
          received.symm⟩
      have same := strncmpEqual_status known status
      replace turn := turn.trans (if_neg (not_not.mpr success))
      by_cases equal : o.firstCharacters voltageMode i = dmmStatusResult (i - 1)
      · refine .inr ⟨unremarkable.mpr fun _ => equal, retCode, ?_, received.symm⟩
        rw [turn, if_neg (by simp [same.mpr equal])]
      · replace turn := turn.trans (if_pos (Bool.eq_false_iff.mpr fun h => equal (same.mp h)))
        have outside := outside_iff_of_returns statusWritten (success ▸ status) equal
        refine .inl ⟨fun h => equal (unremarkable.mp h success), ?_, ?_⟩
        · rw [turn]
          split_ifs
          · exact .inl rfl
          · exact .inr (.inr rfl)
        · rw [turn, outside]
          by_cases zero : 0 ∈ response
          · rw [if_pos zero]
            exact iff_of_false DiagsTurn.noConfusion (not_not.mpr zero)
          · rw [if_neg zero]
            exact iff_of_true rfl zero

/-- The three ways of a turn for a function: its command is not written, something remarkable
comes back, or it goes on, with a code that tells whether there was a status.
-/
theorem functionTurn_cases (o : DiagsOutcomes) (dmmPortInit : Bool) (voltageMode : Nat)
    (known : i ∈ functionCommands)
    : (¬ o.FunctionWritten dmmPortInit voltageMode i
        ∧ ∃ retCode, retCode ≠ reconnSuccess
          ∧ o.functionTurn dmmPortInit voltageMode i = .break_ retCode)
      ∨ (o.FunctionWritten dmmPortInit voltageMode i
        ∧ ¬ o.Unremarkable dmmPortInit voltageMode i
        ∧ (o.functionTurn dmmPortInit voltageMode i).Stops
        ∧ (o.functionTurn dmmPortInit voltageMode i = .leaves
          ↔ o.Echoed voltageMode i ∧ o.Outside dmmPortInit voltageMode i))
      ∨ (o.FunctionWritten dmmPortInit voltageMode i
        ∧ o.Unremarkable dmmPortInit voltageMode i
        ∧ ∃ retCode, o.functionTurn dmmPortInit voltageMode i = .next retCode
          ∧ (retCode = reconnSuccess
            ↔ o.StatusWritten dmmPortInit voltageMode i ∧ o.Received voltageMode i)) := by
  by_cases written : o.FunctionWritten dmmPortInit voltageMode i
  swap
  · exact .inl ⟨written, _, written, if_pos written⟩
  right
  by_cases waits : dmmResponse dmmMaxResponse 1 (o.functionEcho voltageMode i) = .waits
  · have going
        : ¬ dmmWrite dmmPortInit (dmmCommands i) (o.writeFunction voltageMode i) ≠ reconnSuccess :=
      not_not.mpr written
    have turn : o.functionTurn dmmPortInit voltageMode i = .waits := by
      rw [functionTurn, if_neg going, waits]
    refine .inl ⟨written, fun unremarkable => unremarkable.echo waits, .inr (.inl turn), ?_⟩
    rw [turn]
    exact iff_of_false DiagsTurn.noConfusion fun h => h.1 waits
  have echo : o.Echoed voltageMode i := waits
  by_cases statusWritten : o.StatusWritten dmmPortInit voltageMode i
  swap
  · refine .inr ⟨written, ⟨echo, ?_, ?_, ?_⟩, _,
      (functionTurn_of_echo written echo).trans (if_pos statusWritten),
      iff_of_false statusWritten fun h => statusWritten h.1⟩
    all_goals exact fun h => absurd h statusWritten
  rcases statusTurn_cases known written echo statusWritten with
    ⟨remarkable, stops, leaves⟩ | ⟨unremarkable, retCode, turn, received⟩
  · exact .inl ⟨written, remarkable, stops, leaves.trans (and_iff_right echo).symm⟩
  · exact .inr ⟨written, unremarkable, retCode, turn,
      received.trans (and_iff_right statusWritten).symm⟩

/-- The loop goes on behind a turn that does. -/
theorem functionTurns_of_next {rest : List Nat} {retCode next : ReconnErrCode}
    (turn : o.functionTurn dmmPortInit voltageMode i = .next next)
    : o.functionTurns dmmPortInit voltageMode (i :: rest) retCode
      = o.functionTurns dmmPortInit voltageMode rest next := by
  rw [functionTurns, turn]

/-- The loop ends like a turn that does not go on. -/
theorem functionTurns_of_ending {rest : List Nat} {retCode : ReconnErrCode}
    (ending : ∀ next, o.functionTurn dmmPortInit voltageMode i ≠ .next next)
    : o.functionTurns dmmPortInit voltageMode (i :: rest) retCode
      = o.functionTurn dmmPortInit voltageMode i := by
  rw [functionTurns]
  cases turn : o.functionTurn dmmPortInit voltageMode i with
  | next retCode => exact absurd turn (ending retCode)
  | break_ | mismatch | waits | leaves => rfl

/-- The loop stops exactly if something remarkable comes back before a command is not
written, by induction on the functions.
-/
theorem functionTurns_stops_iff {commands : List Nat}
    (known : ∀ i ∈ commands, i ∈ functionCommands) (retCode : ReconnErrCode)
    : (o.functionTurns dmmPortInit voltageMode commands retCode).Stops
      ↔ ¬ ∀ i ∈ commands.takeWhile (o.FunctionWritten dmmPortInit voltageMode ·),
        o.Unremarkable dmmPortInit voltageMode i := by
  induction commands generalizing retCode with
  | nil => exact iff_of_false (DiagsTurn.not_stops_next retCode) (by simp)
  | cons i rest ih =>
      obtain ⟨first, others⟩ := List.forall_mem_cons.mp known
      rcases functionTurn_cases o dmmPortInit voltageMode first with
        ⟨unwritten, _, -, turn⟩ | ⟨written, remarkable, stops, -⟩
        | ⟨written, unremarkable, next, turn, -⟩
      · rw [functionTurns_of_ending (by simp [turn]), turn,
          List.takeWhile_cons_of_neg (by simpa using unwritten)]
        exact iff_of_false (DiagsTurn.not_stops_break _) (by simp)
      · rw [functionTurns_of_ending stops.ne_next,
          List.takeWhile_cons_of_pos (by simpa using written), List.forall_mem_cons]
        exact iff_of_true stops fun h => remarkable h.1
      · rw [functionTurns_of_next turn, ih others,
          List.takeWhile_cons_of_pos (by simpa using written), List.forall_mem_cons,
          and_iff_right unremarkable]

/-- The first of the functions is outside, or it goes on to the others. -/
theorem leavesFirst_cons {rest : List Nat}
    : o.LeavesFirst dmmPortInit voltageMode (i :: rest)
      ↔ o.FunctionWritten dmmPortInit voltageMode i
        ∧ (o.Echoed voltageMode i ∧ o.Outside dmmPortInit voltageMode i
          ∨ o.Unremarkable dmmPortInit voltageMode i
            ∧ o.LeavesFirst dmmPortInit voltageMode rest) := by
  constructor
  · rintro ⟨front, j, back, parts, before, written, outside⟩
    rcases front with _ | ⟨first, front⟩
    · obtain ⟨rfl, -⟩ := List.cons.inj parts
      exact ⟨written, .inl outside⟩
    · obtain ⟨rfl, behind⟩ := List.cons.inj parts
      obtain ⟨now, later⟩ := List.forall_mem_cons.mp before
      exact ⟨now.1, .inr ⟨now.2, front, j, back, behind, later, written, outside⟩⟩
  · rintro ⟨written, outside | ⟨unremarkable, front, j, back, rfl, before, outside⟩⟩
    · exact ⟨[], i, rest, rfl, List.forall_mem_nil _, written, outside⟩
    · exact ⟨i :: front, j, back, rfl,
        List.forall_mem_cons.mpr ⟨⟨written, unremarkable⟩, before⟩, outside⟩

/-- The loop leaves the array exactly if the first remarkable status does, by induction on the
functions.
-/
theorem functionTurns_eq_leaves_iff {commands : List Nat}
    (known : ∀ i ∈ commands, i ∈ functionCommands) (retCode : ReconnErrCode)
    : o.functionTurns dmmPortInit voltageMode commands retCode = .leaves
      ↔ o.LeavesFirst dmmPortInit voltageMode commands := by
  induction commands generalizing retCode with
  | nil =>
      refine iff_of_false DiagsTurn.noConfusion ?_
      rintro ⟨front, i, back, parts, -⟩
      simp at parts
  | cons i rest ih =>
      obtain ⟨first, others⟩ := List.forall_mem_cons.mp known
      rw [leavesFirst_cons]
      rcases functionTurn_cases o dmmPortInit voltageMode first with
        ⟨unwritten, _, -, turn⟩ | ⟨written, remarkable, stops, leaves⟩
        | ⟨written, unremarkable, next, turn, -⟩
      · rw [functionTurns_of_ending (by simp [turn]), turn]
        exact iff_of_false DiagsTurn.noConfusion fun h => unwritten h.1
      · rw [functionTurns_of_ending stops.ne_next, leaves, and_iff_right written]
        exact (or_iff_left fun h => remarkable h.1).symm
      · rw [functionTurns_of_next turn, ih others, and_iff_right written,
          and_iff_right unremarkable]
        exact (or_iff_right fun h => unremarkable.not_outside h.2).symm

/-- The loop ends with success exactly if every command is written, nothing remarkable comes
back, and the last status is there, by induction on the functions before the last one.
-/
theorem functionTurns_eq_next_iff {commands : List Nat} {last : Nat}
    (known : ∀ i ∈ commands ++ [last], i ∈ functionCommands) (retCode : ReconnErrCode)
    : o.functionTurns dmmPortInit voltageMode (commands ++ [last]) retCode
        = .next reconnSuccess
      ↔ (∀ i ∈ commands ++ [last], o.FunctionWritten dmmPortInit voltageMode i
          ∧ o.Unremarkable dmmPortInit voltageMode i)
        ∧ o.StatusWritten dmmPortInit voltageMode last ∧ o.Received voltageMode last := by
  induction commands generalizing retCode with
  | nil =>
      rw [List.nil_append, List.forall_mem_singleton] at *
      rcases functionTurn_cases o dmmPortInit voltageMode known with
        ⟨unwritten, _, -, turn⟩ | ⟨written, remarkable, stops, -⟩
        | ⟨written, unremarkable, next, turn, answered⟩
      · rw [functionTurns_of_ending (by simp [turn]), turn]
        exact iff_of_false (by simp) fun h => unwritten h.1.1
      · rw [functionTurns_of_ending stops.ne_next]
        exact iff_of_false (stops.ne_next _) fun h => remarkable h.1.2
      · rw [functionTurns_of_next turn, functionTurns, ← answered]
        simp [written, unremarkable]
  | cons i rest ih =>
      rw [List.cons_append, List.forall_mem_cons] at *
      rcases functionTurn_cases o dmmPortInit voltageMode known.1 with
        ⟨unwritten, _, -, turn⟩ | ⟨written, remarkable, stops, -⟩
        | ⟨written, unremarkable, next, turn, -⟩
      · rw [functionTurns_of_ending (by simp [turn]), turn]
        exact iff_of_false (by simp) fun h => unwritten h.1.1.1
      · rw [functionTurns_of_ending stops.ne_next]
        exact iff_of_false (stops.ne_next _) fun h => remarkable h.1.1.2
      · rw [functionTurns_of_next turn, ih known.2]
        simp [written, unremarkable]

/-- A break out of the loop leaves a failure behind, by induction on the functions. -/
theorem functionTurns_ne_break {commands : List Nat}
    (known : ∀ i ∈ commands, i ∈ functionCommands) (retCode : ReconnErrCode)
    : o.functionTurns dmmPortInit voltageMode commands retCode ≠ .break_ reconnSuccess := by
  induction commands generalizing retCode with
  | nil => exact DiagsTurn.noConfusion
  | cons i rest ih =>
      obtain ⟨first, others⟩ := List.forall_mem_cons.mp known
      rcases functionTurn_cases o dmmPortInit voltageMode first with
        ⟨-, failure, failed, turn⟩ | ⟨-, -, stops, -⟩ | ⟨-, -, next, turn, -⟩
      · rw [functionTurns_of_ending (by simp [turn]), turn]
        exact fun h => failed (DiagsTurn.break_.inj h)
      · rw [functionTurns_of_ending stops.ne_next]
        exact stops.ne_break _
      · rw [functionTurns_of_next turn]
        exact ih others next

-----------------------------------------------------------------------------------------
-- The loop over the modes
-----------------------------------------------------------------------------------------

/-- A break out of the loop over the functions ends the mode only. -/
def afterFunctions : DiagsTurn → DiagsTurn
  | .break_ retCode => .next retCode
  | ending => ending

theorem afterFunctions_stops_iff (turn : DiagsTurn) : (afterFunctions turn).Stops ↔ turn.Stops := by
  cases turn with
  | next | mismatch | waits | leaves => exact Iff.rfl
  | break_ retCode =>
      exact iff_of_false (DiagsTurn.not_stops_next retCode) (DiagsTurn.not_stops_break retCode)

theorem afterFunctions_eq_leaves_iff (turn : DiagsTurn)
    : afterFunctions turn = .leaves ↔ turn = .leaves := by
  cases turn <;> simp [afterFunctions]

theorem afterFunctions_ne_break (turn : DiagsTurn) (retCode : ReconnErrCode)
    : afterFunctions turn ≠ .break_ retCode := by
  cases turn <;> simp [afterFunctions]

theorem known_functionCommands : ∀ i ∈ functionCommands, i ∈ functionCommands := fun _ h => h

/-- The turn for DC mode: without its command the print leaves its array, and the loop over the
functions comes behind the response to the command.
-/
theorem modeTurn_dc_cases (o : DiagsOutcomes) (dmmPortInit : Bool)
    : (¬ o.ModeWritten dmmPortInit dcModeCommand
        ∧ o.modeTurn dmmPortInit dcModeCommand = .leaves)
      ∨ (o.ModeWritten dmmPortInit dcModeCommand
        ∧ dmmResponse dmmMaxResponse 1 o.modeEcho = .waits
        ∧ o.modeTurn dmmPortInit dcModeCommand = .waits)
      ∨ (o.ModeWritten dmmPortInit dcModeCommand
        ∧ dmmResponse dmmMaxResponse 1 o.modeEcho ≠ .waits
        ∧ o.modeTurn dmmPortInit dcModeCommand
          = afterFunctions
            (o.functionTurns dmmPortInit dcModeCommand functionCommands reconnSuccess)) := by
  by_cases written : o.ModeWritten dmmPortInit dcModeCommand
  swap
  · exact .inl ⟨written, (if_pos written).trans (if_pos rfl)⟩
  right
  have code
      : dmmWrite dmmPortInit (dmmCommands dcModeCommand) (o.writeMode dcModeCommand)
        = reconnSuccess := written
  have inside := dmmResponse_one_ne_leaves (show 0 < dmmMaxResponse by decide) o.modeEcho
  rw [modeTurn, code, if_neg (not_not.mpr rfl), if_pos rfl]
  cases echo : dmmResponse dmmMaxResponse 1 o.modeEcho with
  | waits => exact .inl ⟨written, rfl, rfl⟩
  | leaves => exact absurd echo inside
  | returns =>
      refine .inr ⟨written, Response.noConfusion, ?_⟩
      dsimp only
      cases o.functionTurns dmmPortInit dcModeCommand functionCommands reconnSuccess <;> rfl

/-- The turn for AC mode, whose command has no response. -/
theorem modeTurn_ac_cases (o : DiagsOutcomes) (dmmPortInit : Bool)
    : (¬ o.ModeWritten dmmPortInit acModeCommand
        ∧ ∃ retCode, retCode ≠ reconnSuccess
          ∧ o.modeTurn dmmPortInit acModeCommand = .next retCode)
      ∨ (o.ModeWritten dmmPortInit acModeCommand
        ∧ o.modeTurn dmmPortInit acModeCommand
          = afterFunctions
            (o.functionTurns dmmPortInit acModeCommand functionCommands reconnSuccess)) := by
  have other : acModeCommand ≠ dcModeCommand := by decide
  by_cases written : o.ModeWritten dmmPortInit acModeCommand
  swap
  · exact .inl ⟨written, _, written, (if_pos written).trans (if_neg other)⟩
  right
  have code
      : dmmWrite dmmPortInit (dmmCommands acModeCommand) (o.writeMode acModeCommand)
        = reconnSuccess := written
  refine ⟨written, ?_⟩
  rw [modeTurn, code, if_neg (not_not.mpr rfl), if_neg other]
  dsimp only
  cases o.functionTurns dmmPortInit acModeCommand functionCommands reconnSuccess <;> rfl

/-- The functions before the last one. -/
theorem functionCommands_eq : functionCommands = [1, 2, 3, 4] ++ [ohmCommand] := by decide

/-- The turn for DC mode goes on exactly if its command is written and nothing remarkable comes
back.
-/
theorem modeTurn_dc_stops_iff
    : (o.modeTurn dmmPortInit dcModeCommand).Stops ↔ ¬ o.DcPasses dmmPortInit := by
  rcases modeTurn_dc_cases o dmmPortInit with
    ⟨unwritten, turn⟩ | ⟨-, waits, turn⟩ | ⟨written, echo, turn⟩
  · exact iff_of_true (.inr (.inr turn)) fun passes => unwritten passes.written
  · exact iff_of_true (.inr (.inl turn)) fun passes => passes.echo waits
  · rw [turn, afterFunctions_stops_iff, functionTurns_stops_iff known_functionCommands, not_iff_not]
    exact ⟨fun functions => ⟨written, echo, functions⟩, DcPasses.functions⟩

theorem modeTurn_dc_eq_leaves_iff
    : o.modeTurn dmmPortInit dcModeCommand = .leaves
      ↔ ¬ o.ModeWritten dmmPortInit dcModeCommand
        ∨ dmmResponse dmmMaxResponse 1 o.modeEcho ≠ .waits
          ∧ o.LeavesFirst dmmPortInit dcModeCommand functionCommands := by
  rcases modeTurn_dc_cases o dmmPortInit with
    ⟨unwritten, turn⟩ | ⟨written, waits, turn⟩ | ⟨written, echo, turn⟩
  · exact iff_of_true turn (.inl unwritten)
  · rw [turn]
    exact iff_of_false DiagsTurn.noConfusion fun h => h.elim (· written) fun h => h.1 waits
  · rw [turn, afterFunctions_eq_leaves_iff, functionTurns_eq_leaves_iff known_functionCommands,
      or_iff_right (not_not.mpr written), and_iff_right echo]

theorem modeTurn_ac_eq_leaves_iff
    : o.modeTurn dmmPortInit acModeCommand = .leaves
      ↔ o.ModeWritten dmmPortInit acModeCommand
        ∧ o.LeavesFirst dmmPortInit acModeCommand functionCommands := by
  rcases modeTurn_ac_cases o dmmPortInit with ⟨unwritten, _, -, turn⟩ | ⟨written, turn⟩
  · rw [turn]
    exact iff_of_false DiagsTurn.noConfusion fun h => unwritten h.1
  · rw [turn, afterFunctions_eq_leaves_iff, functionTurns_eq_leaves_iff known_functionCommands,
      and_iff_right written]

/-- The turn for AC mode ends with success exactly if every command is written, nothing
remarkable comes back, and the last status is there.
-/
theorem modeTurn_ac_eq_next_iff
    : o.modeTurn dmmPortInit acModeCommand = .next reconnSuccess
      ↔ o.ModeWritten dmmPortInit acModeCommand
        ∧ (∀ i ∈ functionCommands, o.FunctionWritten dmmPortInit acModeCommand i
          ∧ o.Unremarkable dmmPortInit acModeCommand i)
        ∧ o.StatusWritten dmmPortInit acModeCommand ohmCommand
        ∧ o.Received acModeCommand ohmCommand := by
  rcases modeTurn_ac_cases o dmmPortInit with ⟨unwritten, _, failed, turn⟩ | ⟨written, turn⟩
  · rw [turn]
    exact iff_of_false (fun h => failed (DiagsTurn.next.inj h)) fun h => unwritten h.1
  have known : ∀ i ∈ [1, 2, 3, 4] ++ [ohmCommand], i ∈ functionCommands := by decide
  have loop := @functionTurns_eq_next_iff o dmmPortInit acModeCommand _ _ known reconnSuccess
  have breaks := @functionTurns_ne_break o dmmPortInit acModeCommand _ known reconnSuccess
  rw [← functionCommands_eq] at loop breaks
  rw [turn, and_iff_right written, ← loop]
  cases turns : o.functionTurns dmmPortInit acModeCommand functionCommands reconnSuccess with
  | next | mismatch | waits | leaves => exact Iff.rfl
  | break_ retCode =>
      refine iff_of_false (fun h => breaks ?_) DiagsTurn.noConfusion
      rw [turns, DiagsTurn.next.inj h]

/-- The turn for the last mode decides what the loops come to. -/
theorem modeTurns_ac (retCode : ReconnErrCode)
    : (o.modeTurns dmmPortInit [acModeCommand] retCode = .returns reconnSuccess
        ↔ o.modeTurn dmmPortInit acModeCommand = .next reconnSuccess)
      ∧ (o.modeTurns dmmPortInit [acModeCommand] retCode = .leaves
        ↔ o.modeTurn dmmPortInit acModeCommand = .leaves) := by
  have noBreak (retCode : ReconnErrCode)
      : o.modeTurn dmmPortInit acModeCommand ≠ .break_ retCode := by
    rcases modeTurn_ac_cases o dmmPortInit with ⟨-, _, -, turn⟩ | ⟨-, turn⟩
    · simp [turn]
    · rw [turn]
      exact afterFunctions_ne_break _ retCode
  simp only [modeTurns]
  cases turn : o.modeTurn dmmPortInit acModeCommand with
  | next | waits | leaves => simp
  | break_ retCode => exact absurd turn (noBreak retCode)
  | mismatch => simp [reconnFailure_ne_success]

/-- Behind a turn for DC mode that goes on, the loops come to what the turn for AC mode does;
else they come to what the first does.
-/
theorem compared_cases (o : DiagsOutcomes) (dmmPortInit : Bool)
    : (o.DcPasses dmmPortInit ∧ ∃ retCode,
        o.compared dmmPortInit = o.modeTurns dmmPortInit [acModeCommand] retCode)
      ∨ (¬ o.DcPasses dmmPortInit ∧ o.compared dmmPortInit ≠ .returns reconnSuccess
        ∧ (o.compared dmmPortInit = .leaves ↔ o.modeTurn dmmPortInit dcModeCommand = .leaves)) := by
  have stops := @modeTurn_dc_stops_iff o dmmPortInit
  rw [compared, modeTurns]
  cases turn : o.modeTurn dmmPortInit dcModeCommand with
  | next retCode =>
      rw [turn] at stops
      exact .inl ⟨not_not.mp (mt stops.mpr (DiagsTurn.not_stops_next retCode)), retCode, rfl⟩
  | break_ retCode =>
      rw [turn] at stops
      exact .inl ⟨not_not.mp (mt stops.mpr (DiagsTurn.not_stops_break retCode)), retCode, rfl⟩
  | mismatch =>
      rw [turn] at stops
      exact .inr ⟨stops.mp (.inl rfl), by simp [reconnFailure_ne_success], by simp⟩
  | waits =>
      rw [turn] at stops
      exact .inr ⟨stops.mp (.inr (.inl rfl)), by simp, by simp⟩
  | leaves =>
      rw [turn] at stops
      exact .inr ⟨stops.mp (.inr (.inr rfl)), by simp, by simp⟩

/-- The loops of dmmDiags come to success exactly if whatever goes wrong is overlooked. -/
theorem compared_eq_success_iff
    : o.compared dmmPortInit = .returns reconnSuccess ↔ o.Overlooked dmmPortInit := by
  rcases compared_cases o dmmPortInit with ⟨dc, retCode, same⟩ | ⟨dc, failed, -⟩
  · rw [same, (modeTurns_ac retCode).1, modeTurn_ac_eq_next_iff]
    constructor
    · rintro ⟨written, ac, last⟩
      exact ⟨dc, written, ac, last⟩
    · rintro ⟨-, written, ac, last⟩
      exact ⟨written, ac, last⟩
  · exact iff_of_false failed fun overlooked => dc overlooked.dc

/-- The loops leave an array exactly if the inputs do not keep them inside. -/
theorem compared_ne_leaves_iff
    : o.compared dmmPortInit ≠ .leaves ↔ o.KeepsInside dmmPortInit := by
  have dcTurn := @modeTurn_dc_eq_leaves_iff o dmmPortInit
  have stops := @modeTurn_dc_stops_iff o dmmPortInit
  rcases compared_cases o dmmPortInit with ⟨dc, retCode, same⟩ | ⟨dc, -, leaves⟩
  · have inside : o.modeTurn dmmPortInit dcModeCommand ≠ .leaves := fun turn =>
      stops.mp (.inr (.inr turn)) dc
    rw [Ne, dcTurn, not_or, not_not, not_and] at inside
    rw [same, Ne, (modeTurns_ac retCode).2, modeTurn_ac_eq_leaves_iff, not_and]
    exact ⟨fun ac => ⟨inside.1, inside.2, fun _ => ac⟩, fun keeps => keeps.ac dc⟩
  · rw [Ne, leaves, dcTurn, not_or, not_not, not_and]
    exact ⟨fun inside => ⟨inside.1, inside.2, fun h => absurd h dc⟩,
      fun keeps => ⟨keeps.written, keeps.dc⟩⟩

/-- A meter that does what it should has no entry for DC in AC mode, so something is
remarkable about it.
-/
theorem Passes.not_overlooked (passes : o.Passes dmmPortInit)
    : ¬ o.Overlooked dmmPortInit := by
  intro overlooked
  have first : milliVoltCommand ∈ functionCommands := by decide
  obtain ⟨-, functions⟩ := passes acModeCommand (by decide)
  have ac := functions milliVoltCommand first
  obtain ⟨-, unremarkable⟩ := overlooked.ac milliVoltCommand first
  have entry := unremarkable.entry ac.statusWritten ac.received
  rw [ac.expected] at entry
  exact absurd entry (by decide +kernel)

end DiagsOutcomes

/-- dmmDiags of an open meter is its loops. -/
theorem dmmDiagsReturns_of_open {s : State} (opened : s.myDmmFd ≠ -1) (env : DmmOutcomes)
    (o : DiagsOutcomes)
    : s.dmmDiagsReturns env o = o.compared s.dmmPortInit := by
  have same (compared : ReconnErrCode) : s.dmmDiags env compared = (s, compared) :=
    if_neg opened
  rw [State.dmmDiagsReturns, same, if_pos rfl]
  cases o.compared s.dmmPortInit with
  | returns retCode => simp [same]
  | waits | leaves => rfl

/-- dmmDiags keeps to its arrays, and its verdict is right. -/
def State.DiagsRight (s : State) (env : DmmOutcomes) (o : DiagsOutcomes) : Prop :=
  s.dmmDiagsReturns env o ≠ .leaves
    ∧ (s.dmmDiagsReturns env o = .returns reconnSuccess ↔ o.Passes s.dmmPortInit)

/-- The verdict on an open meter is right exactly if the meter does not do what it should, not
everything that goes wrong is overlooked, and what is printed and received keeps to the arrays.
-/
theorem dmmDiagsReturns_right_iff {s : State} (opened : s.myDmmFd ≠ -1) (env : DmmOutcomes)
    (o : DiagsOutcomes)
    : s.DiagsRight env o
      ↔ ¬ o.Passes s.dmmPortInit ∧ ¬ o.Overlooked s.dmmPortInit
        ∧ o.KeepsInside s.dmmPortInit := by
  rw [State.DiagsRight, dmmDiagsReturns_of_open opened, DiagsOutcomes.compared_eq_success_iff,
    DiagsOutcomes.compared_ne_leaves_iff]
  constructor
  · rintro ⟨keeps, right⟩
    have fails : ¬ o.Passes s.dmmPortInit := fun passes =>
      passes.not_overlooked (right.mpr passes)
    exact ⟨fails, fun overlooked => fails (right.mp overlooked), keeps⟩
  · rintro ⟨fails, noticed, keeps⟩
    exact ⟨keeps, iff_of_false noticed fails⟩

/-- Descriptors of which the meter's is open. -/
def State.meterOpened : State where
  myAnalyzerFd := -1
  saPortOpen := false
  analyzerFd := -1
  myDmmFd := 5
  dmmPortInit := true
  dmmFd := 5
  fds := fun fd => if fd = 5 then .dmm else .closed

/-- Calls of dmmInit that all succeed. -/
def DmmOutcomes.succeeding : DmmOutcomes where
  read := reconnSuccess
  gpioState := 0x31
  enable := reconnSuccess
  opened := some 5
  responds := true
  disable := reconnSuccess
  enableAgain := reconnSuccess

/-- A meter that takes every command and answers with the given texts. -/
def DiagsOutcomes.answering (text : Nat → Nat → List UInt8) : DiagsOutcomes where
  writeMode := fun _ => 1
  modeEcho := [.ready (some (dmmCommands dcModeCommand))]
  writeFunction := fun _ _ => 1
  functionEcho := fun _ i => [.ready (some (dmmCommands i))]
  writeStatus := fun _ _ => 1
  status := fun voltageMode i => [.ready (some (text voltageMode i ++ [13, 10]))]

theorem answering_statusWritten (text : Nat → Nat → List UInt8) (voltageMode i : Nat)
    : (DiagsOutcomes.answering text).StatusWritten true voltageMode i := by
  have written : dmmWrite true (dmmCommands statusCommand) 1 = reconnSuccess := by
    decide +kernel
  exact written

/-- Responses of three characters and a line's end keep to the array. -/
theorem answering_keepsInside {text : Nat → Nat → List UInt8}
    (three : ∀ voltageMode i, (text voltageMode i).length = 3)
    : (DiagsOutcomes.answering text).KeepsInside true := by
  have inside (voltageMode : Nat) (commands : List Nat)
      : ¬ (DiagsOutcomes.answering text).LeavesFirst true voltageMode commands := by
    rintro ⟨front, i, back, -, -, -, -, -, -, outside⟩
    have length
        : (delivered ((DiagsOutcomes.answering text).status voltageMode i)).length = 5 := by
      simp [DiagsOutcomes.answering, delivered, Wait.delivered, three]
    rw [length] at outside
    rcases outside with long | ⟨-, full, -⟩
    · exact absurd long (by decide)
    · exact absurd full (by decide)
  have written : dmmWrite true (dmmCommands dcModeCommand) 1 = reconnSuccess := by
    decide +kernel
  exact ⟨written, fun _ => inside _ _, fun _ _ => inside _ _⟩

/-- A meter that reports another text than expected in DC mode. -/
theorem dmmDiagsReturns_right_otherText
    : State.meterOpened.DiagsRight .succeeding (.answering fun _ _ => ascii "???") := by
  refine (dmmDiagsReturns_right_iff (by decide) .succeeding _).mpr
    ⟨?_, ?_, answering_keepsInside fun _ _ => rfl⟩
  · intro passes
    obtain ⟨-, functions⟩ := passes dcModeCommand (by decide)
    exact absurd (functions milliVoltCommand (by decide)).expected (by decide +kernel)
  · intro overlooked
    obtain ⟨-, unremarkable⟩ := overlooked.ac milliVoltCommand (by decide)
    have received
        : (DiagsOutcomes.answering fun _ _ => ascii "???").Received acModeCommand
          milliVoltCommand :=
      ⟨⟨5, [⟨0, ascii "???" ++ [13, 10]⟩], some reconnSuccess⟩, by decide +kernel, rfl⟩
    exact absurd (unremarkable.entry (answering_statusWritten _ _ _) received) (by decide +kernel)

/-- A meter that reports each mode and function as it should fails its diagnostics. -/
theorem dmmDiagsReturns_wrong
    : ¬ ∀ (s : State) (env : DmmOutcomes) (o : DiagsOutcomes), s.myDmmFd ≠ -1 →
      s.DiagsRight env o := by
  intro always
  have passes : (DiagsOutcomes.answering DiagsOutcomes.expected).Passes true := by
    have known : ∀ voltageMode ∈ [dcModeCommand, acModeCommand],
        dmmWrite true (dmmCommands voltageMode) 1 = reconnSuccess
        ∧ ∀ i ∈ DiagsOutcomes.functionCommands,
          dmmWrite true (dmmCommands i) 1 = reconnSuccess
          ∧ diagsGetResponse dmmStatusRspLen
              [.ready (some (DiagsOutcomes.expected voltageMode i ++ [13, 10]))]
            = some ⟨5, [⟨0, DiagsOutcomes.expected voltageMode i ++ [13, 10]⟩],
              some reconnSuccess⟩
          ∧ (delivered [.ready (some (DiagsOutcomes.expected voltageMode i ++ [13, 10]))]).take 3
            = DiagsOutcomes.expected voltageMode i := by
      decide +kernel
    intro voltageMode mode
    obtain ⟨written, functions⟩ := known voltageMode mode
    refine ⟨written, fun i function => ?_⟩
    obtain ⟨command, received, entry⟩ := functions i function
    exact ⟨command, answering_statusWritten _ _ _, ⟨_, received, rfl⟩, entry⟩
  have success := (always .meterOpened .succeeding (.answering DiagsOutcomes.expected)
    (by decide)).2.mpr passes
  exact absurd success (by decide +kernel)

end Reconn.Equipment
