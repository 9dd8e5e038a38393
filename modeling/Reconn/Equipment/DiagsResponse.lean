import Reconn.Client.Protocol
import Reconn.Library.Appends
import Reconn.Library.TransitionRuns

/-! The response to a command that the DMM's diagnostics wait for, by diagsGetResponse of
dmm.c. A response may come in parts; each one is stored behind the parts before it, but every
read asks for as much as the whole response may be.
-/

namespace Reconn.Equipment

open Appends TransitionRuns
open Client (ReconnErrCode reconnSuccess reconnFailure)

/-- What one turn of the loop meets. -/
inductive Wait where
  | selectFails
  | timeout
  /-- select returns, and the descriptor is not in its set -/
  | notSet
  /-- there is something to read; read() fails, or gives some bytes -/
  | ready (read : Option (List UInt8))
  deriving DecidableEq, Repr

/-- What the meter's response to a status command has. -/
def dmmStatusRspLen : Int := 5

/-- The size that read() is asked for: an int converted to a size_t. -/
def sizeOfInt (length : Int) : Nat := (length % 2 ^ 32).toNat

/-- The variables of diagsGetResponse, with the stores into the caller's buffer so far and
what it has returned, none while its loop runs.
-/
structure DiagsResponse where
  count : Nat
  stores : List (Store UInt8)
  returned : Option ReconnErrCode
  deriving DecidableEq, Repr

namespace DiagsResponse

/-- diagsGetResponse before its loop. -/
def start : DiagsResponse := ⟨0, [], none⟩

/-- The condition at the end of a turn. -/
def whileMissing (length : Int) (s : DiagsResponse) : DiagsResponse :=
  if s.count < length then s else { s with returned := some reconnSuccess }

/-- One turn of the loop; none if it has ended, or if read() gives more than it was asked
for.
-/
def turn (length : Int) (s : DiagsResponse) (wait : Wait) : Option DiagsResponse :=
  if s.returned.isSome then none
  else match wait with
    | .selectFails => some { s with returned := some reconnFailure }
    | .timeout =>
        some { s with returned := some (if s.count = 0 then reconnFailure else reconnSuccess) }
    | .notSet => some (s.whileMissing length)
    | .ready none => some { s with returned := some reconnFailure }
    | .ready (some bytes) =>
        if bytes.length ≤ sizeOfInt length then
          let read : DiagsResponse :=
            {
              s with
              count := s.count + bytes.length
              stores := s.stores ++ [⟨s.count, bytes⟩]
            }
          some (read.whileMissing length)
        else none

end DiagsResponse

/-- diagsGetResponse on what the turns of its loop meet. -/
def diagsGetResponse (length : Int) (waits : List Wait) : Option DiagsResponse :=
  waits.foldlM (DiagsResponse.turn length) .start

/-- The part of the response that a turn reads. -/
def Wait.delivered : Wait → List UInt8
  | .ready (some bytes) => bytes
  | .ready none | .selectFails | .timeout | .notSet => []

/-- All that the turns read. -/
def delivered (waits : List Wait) : List UInt8 := waits.flatMap Wait.delivered

-----------------------------------------------------------------------------------------
-- Where the parts are stored
-----------------------------------------------------------------------------------------

/-- The parts so far are stored one behind the other, and counted. -/
structure DiagsResponse.Collected (s : DiagsResponse) (parts : List UInt8) : Prop where
  row : InARow 0 s.stores
  count : s.count = parts.length
  stored : stored s.stores = parts

theorem collected_start : DiagsResponse.start.Collected [] := ⟨trivial, rfl, rfl⟩

/-- The condition of the loop stores nothing. -/
theorem DiagsResponse.Collected.whileMissing {s : DiagsResponse} {parts : List UInt8}
    (collected : s.Collected parts) (length : Int)
    : (s.whileMissing length).Collected parts := by
  unfold DiagsResponse.whileMissing
  split_ifs
  · exact collected
  · exact ⟨collected.row, collected.count, collected.stored⟩

/-- A turn adds what it reads to the parts, by cases on what it meets. -/
theorem DiagsResponse.Collected.turn {length : Int} {s next : DiagsResponse} {wait : Wait}
    {parts : List UInt8} (collected : s.Collected parts)
    (taken : s.turn length wait = some next)
    : next.Collected (parts ++ wait.delivered) := by
  unfold DiagsResponse.turn at taken
  rw [Option.ite_none_left_eq_some] at taken
  obtain ⟨-, taken⟩ := taken
  match wait with
  | .selectFails | .timeout | .ready none =>
      obtain rfl := Option.some.inj taken
      refine ⟨collected.row, ?_, ?_⟩
      · rw [collected.count, Wait.delivered, List.append_nil]
      · rw [collected.stored, Wait.delivered, List.append_nil]
  | .notSet =>
      obtain rfl := Option.some.inj taken
      rw [Wait.delivered, List.append_nil]
      exact collected.whileMissing length
  | .ready (some bytes) =>
      obtain ⟨-, taken⟩ := Option.ite_none_right_eq_some.mp taken
      obtain rfl := Option.some.inj taken
      refine Collected.whileMissing ⟨inARow_concat.mpr ⟨collected.row, ?_⟩, ?_, ?_⟩ length
      · rw [collected.count, collected.stored, Nat.zero_add]
      · rw [collected.count, List.length_append, Wait.delivered]
      · rw [stored_append, collected.stored]
        exact congrArg (parts ++ ·) (List.append_nil bytes)

/-- All parts of a response are collected, by induction on the turns. -/
theorem diagsGetResponse_collected {length : Int} {waits : List Wait} {s : DiagsResponse}
    (run : diagsGetResponse length waits = some s)
    : s.Collected (delivered waits) := by
  let Inv (rest : List Wait) (state : DiagsResponse) : Prop :=
    ∃ parts, state.Collected parts ∧ parts ++ delivered rest = delivered waits
  have keep : ∀ wait rest state next,
      Inv (wait :: rest) state → state.turn length wait = some next → Inv rest next := by
    rintro wait rest state next ⟨parts, collected, same⟩ taken
    refine ⟨parts ++ wait.delivered, collected.turn taken, ?_⟩
    rw [← same, List.append_assoc]
    rfl
  obtain ⟨parts, collected, same⟩ : Inv [] s :=
    foldlM_invariant Inv keep ⟨[], collected_start, rfl⟩ run
  rw [← same, delivered, List.flatMap_nil, List.append_nil]
  exact collected

/-- The response is stored inside a buffer of the requested length exactly if its parts are
no longer together, or if it has none.
-/
theorem diagsGetResponse_inside_iff {length : Int} {waits : List Wait} {s : DiagsResponse}
    (run : diagsGetResponse length waits = some s)
    : Inside length s.stores
      ↔ delivered waits = [] ∨ ((delivered waits).length : Int) ≤ length := by
  have collected := diagsGetResponse_collected run
  rw [collected.row.inside_iff, collected.stored, Nat.zero_add]

/-- A status response in two parts. -/
theorem diagsGetResponse_inside_twoParts
    : ∃ s, diagsGetResponse dmmStatusRspLen [.ready (some [1, 2, 3]), .ready (some [4, 5])]
        = some s
      ∧ Inside dmmStatusRspLen s.stores := by
  have run
      : diagsGetResponse dmmStatusRspLen [.ready (some [1, 2, 3]), .ready (some [4, 5])]
        = some ⟨5, [⟨0, [1, 2, 3]⟩, ⟨3, [4, 5]⟩], some reconnSuccess⟩ := by
    decide
  exact ⟨_, run, (diagsGetResponse_inside_iff run).mpr (.inr (by decide))⟩

/-- The second part of a status response is as long as the whole response. -/
theorem diagsGetResponse_outside
    : ¬ ∀ length waits s, diagsGetResponse length waits = some s → Inside length s.stores := by
  intro always
  have run
      : diagsGetResponse dmmStatusRspLen
          [.ready (some [1, 2, 3]), .ready (some [4, 5, 6, 7, 8])]
        = some ⟨8, [⟨0, [1, 2, 3]⟩, ⟨3, [4, 5, 6, 7, 8]⟩], some reconnSuccess⟩ := by
    decide
  have inside := always _ _ _ run ⟨3, [4, 5, 6, 7, 8]⟩ (by decide) 7 ⟨by decide, by decide⟩
  exact absurd inside (by decide)

end Reconn.Equipment
