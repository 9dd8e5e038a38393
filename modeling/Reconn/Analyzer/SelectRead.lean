import Mathlib.Data.List.Infix
import Reconn.Client.Protocol

/-! Reading from the spectrum analyzer, by SpectrumAnalyzerSelectRead of spectrum.c. Its loop
takes off the amount still to be read what has arrived so far, and not what the last read
has brought.
-/

namespace Reconn.Analyzer

open Client (ReconnErrCode reconnSuccess reconnFailure reconnRspPayloadSize)

/-- What one turn of the loop meets. -/
inductive Outcome where
  | selectFails
  | timeout
  /-- select returns, and the descriptor is not in its set -/
  | notSet
  /-- there is something to read; read() fails, or gives some bytes -/
  | ready (saPortOpen : Bool) (read : Option (List UInt8))
  deriving DecidableEq, Repr

/-- A call of read(): the size it asks for, and what it stores. -/
structure Call where
  requested : Nat
  delivered : List UInt8
  deriving DecidableEq, Repr

/-- What the calls of read() have taken from the device. -/
def consumed (calls : List Call) : List UInt8 := calls.flatMap Call.delivered

/-- The variables of SpectrumAnalyzerSelectRead: *length, the two amounts and the buffer,
with the calls of read() so far.
-/
structure Reading where
  length : Int
  amountRead : Int
  amountRemaining : Int
  buffer : Nat → UInt8
  calls : List Call

/-- Stores bytes in a buffer from an index on. -/
def store (buffer : Nat → UInt8) (start : Nat) (bytes : List UInt8) : Nat → UInt8 :=
  fun index =>
    if start ≤ index then (bytes[index - start]?).getD (buffer index) else buffer index

/-- The size that SpectrumAnalyzerRead asks read() for: an int converted to a size_t. -/
def requestedSize (length : Int) : Nat :=
  if length = 0 then reconnRspPayloadSize else (length % 2 ^ 32).toNat

/-- SpectrumAnalyzerRead: its result, *length afterwards, and its call of read(). -/
def spectrumAnalyzerRead (length : Int) (saPortOpen : Bool) (read : Option (List UInt8))
    : ReconnErrCode × Int × List Call :=
  if saPortOpen = false then (reconnFailure, length, [])
  else match read with
    | none => (reconnFailure, length, [⟨requestedSize length, []⟩])
    | some bytes => (reconnSuccess, bytes.length, [⟨requestedSize length, bytes⟩])

namespace Reading

/-- SpectrumAnalyzerSelectRead before its loop. -/
def start (buffer : Nat → UInt8) (length : Int) : Reading where
  length
  amountRead := 0
  amountRemaining := length
  buffer
  calls := []

/-- One turn of the loop. -/
def turn (s : Reading) : Outcome → ReconnErrCode × Reading
  | .selectFails | .notSet => (reconnFailure, s)
  | .timeout => (reconnFailure, { s with length := 0 })
  | .ready saPortOpen read =>
      let result := spectrumAnalyzerRead s.amountRemaining saPortOpen read
      let amountRead := s.amountRead + result.2.1
      (
        result.1,
        {
          s with
          amountRead
          amountRemaining := s.amountRemaining - amountRead
          buffer := store s.buffer s.amountRead.toNat (consumed result.2.2)
          calls := s.calls ++ result.2.2
        }
      )

/-- read() gives at least one byte, and no more than it was asked for. -/
def Serves (s : Reading) : Outcome → Prop
  | .ready true (some bytes) =>
      0 < bytes.length ∧ bytes.length ≤ requestedSize s.amountRemaining
  | _ => True

instance (s : Reading) : (outcome : Outcome) → Decidable (s.Serves outcome)
  | .ready true (some _) => inferInstanceAs (Decidable (_ ∧ _))
  | .ready true none | .ready false _ | .selectFails | .timeout | .notSet => .isTrue trivial

/-- The loop, on what its turns meet; none if it has not returned by then. -/
def loop : Reading → List Outcome → Option (ReconnErrCode × Reading)
  | _, [] => none
  | s, outcome :: rest =>
      if s.Serves outcome then
        let result := s.turn outcome
        if result.1 = reconnSuccess ∧ result.2.amountRead < result.2.length then
          result.2.loop rest
        else some result
      else none

end Reading

/-- SpectrumAnalyzerSelectRead on what its turns meet. -/
def spectrumAnalyzerSelectRead (buffer : Nat → UInt8) (length : Int) (outcomes : List Outcome)
    : Option (ReconnErrCode × Reading) :=
  (Reading.start buffer length).loop outcomes

-----------------------------------------------------------------------------------------
-- What is read
-----------------------------------------------------------------------------------------

/-- No call asks for more than the calls before it leave of `n` bytes. -/
def Within (n : Nat) (calls : List Call) : Prop :=
  ∀ before call after, calls = before ++ call :: after
    → (consumed before).length + call.requested ≤ n

/-- A read of `n` bytes that has returned asked for no more than was missing, and if it
succeeded it has taken exactly the bytes asked for, and stored them in their order.
-/
structure ReadsExactly (n : Nat) (retCode : ReconnErrCode) (s : Reading) : Prop where
  within : Within n s.calls
  taken : retCode = reconnSuccess → (consumed s.calls).length = n
  stored
    : retCode = reconnSuccess → ∀ index, index < n
        → (consumed s.calls)[index]? = some (s.buffer index)

/-- (Fits n arrived taken outcomes) holds if every read is reached with less taken off the
`n` bytes than they are, or with exactly as much and a full payload still missing. `arrived`
bytes have been read, and `taken` is what has been taken off: the bytes that had arrived
after each of the reads, added up.
-/
def Fits (n : Nat) : Nat → Nat → List Outcome → Prop
  | arrived, taken, .ready true read :: rest =>
      (taken < n ∨ (taken = n ∧ arrived + reconnRspPayloadSize ≤ n))
        ∧ ∀ bytes, read = some bytes → arrived + bytes.length < n
          → Fits n (arrived + bytes.length) (taken + (arrived + bytes.length)) rest
  | _, _, _ => True

theorem fits_ready {n arrived taken : Nat} {read : Option (List UInt8)} {rest : List Outcome}
    : Fits n arrived taken (.ready true read :: rest)
      ↔ (taken < n ∨ (taken = n ∧ arrived + reconnRspPayloadSize ≤ n))
        ∧ ∀ bytes, read = some bytes → arrived + bytes.length < n
          → Fits n (arrived + bytes.length) (taken + (arrived + bytes.length)) rest :=
  Iff.rfl

theorem consumed_append (first second : List Call)
    : consumed (first ++ second) = consumed first ++ consumed second :=
  List.flatMap_append

/-- A call after others is within what they leave. -/
theorem within_concat {n : Nat} {calls : List Call} {call : Call}
    : Within n (calls ++ [call])
      ↔ Within n calls ∧ (consumed calls).length + call.requested ≤ n := by
  constructor
  · refine fun within => ⟨?_, within calls call [] rfl⟩
    rintro before other after rfl
    exact within before other (after ++ [call]) (by simp)
  · rintro ⟨within, last⟩ before other after split
    rcases List.eq_nil_or_concat after with rfl | ⟨front, final, rfl⟩
    · obtain ⟨rfl, same⟩ := List.append_inj' split rfl
      obtain rfl := List.singleton_inj.mp same
      exact last
    · have shorter : calls ++ [call] = (before ++ other :: front) ++ [final] := by
        simp [split]
      exact within before other front (List.append_inj' shorter rfl).1

theorem Within.mono {n : Nat} {calls more : List Call} (within : Within n more)
    (front : calls <+: more)
    : Within n calls := by
  obtain ⟨rest, rfl⟩ := front
  rintro before call after rfl
  exact within before call (after ++ rest) (by simp)

/-- Storing nothing changes nothing. -/
theorem store_nil (buffer : Nat → UInt8) (start : Nat) : store buffer start [] = buffer := by
  funext index
  simp [store]

/-- Storing what follows the stored bytes stores all of them. -/
theorem store_append (buffer : Nat → UInt8) (bytes more : List UInt8)
    : store (store buffer 0 bytes) bytes.length more = store buffer 0 (bytes ++ more) := by
  funext index
  by_cases old : index < bytes.length
  · simp [store, List.getElem?_append_left old, Nat.not_le.mpr old]
  · have behind : bytes.length ≤ index := Nat.not_lt.mp old
    simp [store, List.getElem?_append_right behind, behind]

/-- A buffer contains what was stored at its start. -/
theorem getElem?_store (buffer : Nat → UInt8) {bytes : List UInt8} {index : Nat}
    (inside : index < bytes.length)
    : bytes[index]? = some (store buffer 0 bytes index) := by
  simp [store, List.getElem?_eq_getElem inside]

/-- The loop keeps the calls that it has made, by induction on what it meets. -/
theorem Reading.loop_calls {s : Reading} {outcomes : List Outcome} {retCode : ReconnErrCode}
    {final : Reading} (returned : s.loop outcomes = some (retCode, final))
    : s.calls <+: final.calls := by
  induction outcomes generalizing s with
  | nil => cases returned
  | cons outcome rest ih =>
      have kept : s.calls <+: (s.turn outcome).2.calls := by
        cases outcome <;> first | exact List.prefix_rfl | exact List.prefix_append _ _
      rw [loop] at returned
      dsimp only at returned
      split_ifs at returned
      · exact kept.trans (ih returned)
      · obtain rfl : (s.turn outcome).2 = final :=
          congrArg Prod.snd (Option.some.inj returned)
        exact kept


/-- A read into `original` has counted what it has read and stored it at the buffer's start. -/
structure Reading.Counts (original : Nat → UInt8) (s : Reading) : Prop where
  amountRead : s.amountRead = (consumed s.calls).length
  buffer : s.buffer = store original 0 (consumed s.calls)

theorem counts_start (buffer : Nat → UInt8) (length : Int)
    : (Reading.start buffer length).Counts buffer :=
  ⟨rfl, (store_nil buffer 0).symm⟩

/-- How far a read of `n` bytes has come at the top of the loop: `arrived` bytes are stored,
`taken` is taken off the length, and no request has been for too much.
-/
structure Reading.Progress (n arrived taken : Nat) (original : Nat → UInt8) (s : Reading)
    : Prop where
  counts : s.Counts original
  length : s.length = n
  amountRemaining : s.amountRemaining = n - taken
  count : (consumed s.calls).length = arrived
  within : Within n s.calls
  missing : arrived < n
  bound : arrived ≤ taken ∧ taken ≤ 2 * n

/-- A request is for no more than is missing exactly if not too much was taken off. Witness:
a negative amount is a huge size, and zero asks for a full payload.
-/
theorem requestedSize_le_iff {n arrived taken : Nat} (int : n < 2 ^ 31) (missing : arrived < n)
    (bound : arrived ≤ taken ∧ taken ≤ 2 * n)
    : arrived + requestedSize (n - taken) ≤ n
      ↔ taken < n ∨ (taken = n ∧ arrived + reconnRspPayloadSize ≤ n) := by
  unfold requestedSize
  split_ifs with zero
  · omega
  · rcases Nat.lt_or_ge taken n with less | more
    · have small : ((n : Int) - taken) % 2 ^ 32 = n - taken :=
        Int.emod_eq_of_lt (by omega) (by omega)
      rw [small]
      omega
    · have large : ((n : Int) - taken) % 2 ^ 32 = n - taken + 2 ^ 32 := by
        rw [← Int.add_emod_right]
        exact Int.emod_eq_of_lt (by omega) (by omega)
      rw [large]
      omega

/-- A read that fails need only have asked for no more than was missing. -/
theorem readsExactly_failure {n : Nat} {s : Reading}
    : ReadsExactly n reconnFailure s ↔ Within n s.calls := by
  refine ⟨ReadsExactly.within, fun within => ⟨within, ?_, ?_⟩⟩
  · exact fun success => absurd success (by decide)
  · exact fun success => absurd success (by decide)

/-- A read() that fails. -/
theorem turn_fails (s : Reading)
    : (s.turn (.ready true none)).1 = reconnFailure
      ∧ (s.turn (.ready true none)).2.calls
        = s.calls ++ [⟨requestedSize s.amountRemaining, []⟩] :=
  ⟨rfl, rfl⟩

/-- A read that gives some bytes. -/
theorem turn_delivers (s : Reading) (bytes : List UInt8)
    : s.turn (.ready true (some bytes))
      = (
        reconnSuccess,
        {
          s with
          amountRead := s.amountRead + bytes.length
          amountRemaining := s.amountRemaining - (s.amountRead + bytes.length)
          buffer := store s.buffer s.amountRead.toNat bytes
          calls := s.calls ++ [⟨requestedSize s.amountRemaining, bytes⟩]
        }
      ) := by
  simp [Reading.turn, spectrumAnalyzerRead, consumed]

theorem consumed_delivers (s : Reading) (bytes : List UInt8)
    : consumed (s.turn (.ready true (some bytes))).2.calls = consumed s.calls ++ bytes := by
  rw [turn_delivers, consumed_append]
  simp [consumed]

/-- What a read gives is counted, and stored after what has been stored. -/
theorem Reading.Counts.delivers {original : Nat → UInt8} {s : Reading}
    (counts : s.Counts original) (bytes : List UInt8)
    : (s.turn (.ready true (some bytes))).2.Counts original := by
  refine ⟨?_, ?_⟩
  · rw [consumed_delivers, turn_delivers, List.length_append, Nat.cast_add]
    exact congrArg (· + (bytes.length : Int)) counts.amountRead
  · rw [consumed_delivers, turn_delivers, ← store_append]
    dsimp only
    rw [counts.amountRead, Int.toNat_natCast, counts.buffer]

section

variable {n arrived taken : Nat} {original : Nat → UInt8} {s : Reading}

/-- A read that asks for no more than is missing keeps the calls within it. -/
theorem Reading.Progress.delivers (progress : s.Progress n arrived taken original)
    (within : arrived + requestedSize s.amountRemaining ≤ n) (bytes : List UInt8)
    : Within n (s.turn (.ready true (some bytes))).2.calls := by
  rw [turn_delivers]
  refine within_concat.mpr ⟨progress.within, ?_⟩
  rw [progress.count]
  exact within

/-- The amounts after a read that gives some bytes. -/
theorem Reading.Progress.amounts (progress : s.Progress n arrived taken original)
    (bytes : List UInt8)
    : (s.turn (.ready true (some bytes))).2.length = n
      ∧ (s.turn (.ready true (some bytes))).2.amountRead = (arrived + bytes.length : Nat)
      ∧ (s.turn (.ready true (some bytes))).2.amountRemaining
        = n - (taken + (arrived + bytes.length) : Nat) := by
  have amountRead : s.amountRead = arrived := by
    rw [progress.counts.amountRead, progress.count]
  rw [turn_delivers]
  refine ⟨progress.length, ?_, ?_⟩
  · simp [amountRead]
  · dsimp only
    rw [amountRead, progress.amountRemaining]
    omega

/-- A read that leaves something missing is progress. -/
theorem Reading.Progress.next (progress : s.Progress n arrived taken original)
    (within : arrived + requestedSize s.amountRemaining ≤ n) {bytes : List UInt8}
    (more : arrived + bytes.length < n) (bound : taken ≤ n)
    : (s.turn (.ready true (some bytes))).2.Progress n (arrived + bytes.length)
        (taken + (arrived + bytes.length)) original := by
  obtain ⟨length, -, amountRemaining⟩ := progress.amounts bytes
  refine ⟨progress.counts.delivers bytes, length, amountRemaining, ?_,
    progress.delivers within bytes, more, by omega⟩
  rw [consumed_delivers, List.length_append, progress.count]

/-- From the top of the loop a read is exact exactly if what its turns meet fits. Witness:
induction on what they meet; the first request for too much decides it.
-/
theorem Reading.Progress.readsExactly_iff (int : n < 2 ^ 31)
    (progress : s.Progress n arrived taken original) {outcomes : List Outcome}
    {retCode : ReconnErrCode} {final : Reading}
    (returned : s.loop outcomes = some (retCode, final))
    : ReadsExactly n retCode final ↔ Fits n arrived taken outcomes := by
  induction outcomes generalizing s arrived taken with
  | nil => cases returned
  | cons outcome rest ih =>
      have asked := requestedSize_le_iff int progress.missing progress.bound
      rw [← progress.amountRemaining] at asked
      rw [loop] at returned
      dsimp only at returned
      cases outcome with
      | selectFails | notSet | timeout =>
          obtain ⟨rfl, rfl⟩ := Prod.mk.inj (Option.some.inj returned)
          exact iff_of_true (readsExactly_failure.mpr progress.within) trivial
      | ready saPortOpen read =>
          cases saPortOpen with
          | false =>
              obtain ⟨rfl, rfl⟩ := Prod.mk.inj (Option.some.inj returned)
              refine iff_of_true (readsExactly_failure.mpr ?_) trivial
              exact (List.append_nil s.calls).symm ▸ progress.within
          | true =>
              rw [fits_ready, ← asked]
              cases read with
              | none =>
                  have ended : s.turn (.ready true none) = (retCode, final) :=
                    Option.some.inj returned
                  obtain ⟨code, calls⟩ := turn_fails s
                  rw [ended] at code calls
                  obtain rfl : retCode = reconnFailure := code
                  rw [readsExactly_failure, calls, within_concat, progress.count]
                  simp [progress.within]
              | some bytes =>
                  obtain ⟨length, amountRead, -⟩ := progress.amounts bytes
                  have success : (s.turn (.ready true (some bytes))).1 = reconnSuccess := rfl
                  rw [length, amountRead, success] at returned
                  have kept : (s.turn (.ready true (some bytes))).2.calls <+: final.calls := by
                    split_ifs at returned
                    · exact loop_calls returned
                    · rw [Option.some.inj returned]
                  by_cases within : arrived + requestedSize s.amountRemaining ≤ n
                  · split_ifs at returned with serves continues
                    · have more : arrived + bytes.length < n := by omega
                      have bound : taken ≤ n := by
                        rcases asked.mp within with less | ⟨same, -⟩ <;> omega
                      rw [ih (progress.next within more bound) returned]
                      refine ⟨fun fits => ⟨within, ?_⟩, fun fits => fits.2 bytes rfl more⟩
                      rintro _ ⟨⟩ _
                      exact fits
                    · have all : arrived + bytes.length = n := by
                        have served := serves.2
                        simp only [true_and] at continues
                        omega
                      have calls := progress.delivers within bytes
                      have counts := progress.counts.delivers bytes
                      have count
                          : (consumed (s.turn (.ready true (some bytes))).2.calls).length
                            = n := by
                        rw [consumed_delivers, List.length_append, progress.count, all]
                      rw [Option.some.inj returned] at calls counts count
                      refine iff_of_true ⟨calls, fun _ => count, fun _ => ?_⟩ ⟨within, ?_⟩
                      · rw [counts.buffer, ← count]
                        exact fun index => getElem?_store original
                      · rintro _ ⟨⟩ less
                        omega
                  · refine iff_of_false (fun exactly => within ?_) fun fits => within fits.1
                    rw [turn_delivers] at kept
                    have last := (within_concat.mp (exactly.within.mono kept)).2
                    rwa [progress.count] at last

end

/-- A read of some bytes is exact exactly if what the turns of the loop meet fits. -/
theorem readsExactly_iff_fits {n : Nat} (pos : 0 < n) (int : n < 2 ^ 31) {buffer : Nat → UInt8}
    {outcomes : List Outcome} {retCode : ReconnErrCode} {final : Reading}
    (returned : spectrumAnalyzerSelectRead buffer n outcomes = some (retCode, final))
    : ReadsExactly n retCode final ↔ Fits n 0 0 outcomes := by
  have initially : (Reading.start buffer n).Progress n 0 0 buffer := by
    refine ⟨counts_start buffer n, rfl, by simp [Reading.start], rfl, ?_, pos, by omega⟩
    intro before call after none
    simp [Reading.start] at none
  exact initially.readsExactly_iff int returned

/-- Four bytes that arrive in two parts. -/
theorem readsExactly_twoParts
    : ∃ final,
      spectrumAnalyzerSelectRead (fun _ => 0) (4 : Nat)
          [.ready true (some [1]), .ready true (some [2, 3, 4])]
        = some (reconnSuccess, final)
      ∧ ReadsExactly 4 reconnSuccess final := by
  obtain ⟨final, returned⟩
      : ∃ final, spectrumAnalyzerSelectRead (fun _ => 0) (4 : Nat)
        [.ready true (some [1]), .ready true (some [2, 3, 4])] = some (reconnSuccess, final) :=
    ⟨_, rfl⟩
  refine ⟨final, returned, (readsExactly_iff_fits (by decide) (by decide) returned).mpr ?_⟩
  refine ⟨.inl (by decide), ?_⟩
  rintro _ ⟨⟩ _
  exact ⟨.inl (by decide), fun _ _ _ => trivial⟩

/-- The third of three bytes is asked for with the size of a full payload. -/
theorem readsExactly_thirdPart
    : ¬ ∀ (n : Nat) buffer outcomes retCode final, 0 < n → n < 2 ^ 31
        → spectrumAnalyzerSelectRead buffer n outcomes = some (retCode, final)
        → ReadsExactly n retCode final := by
  intro always
  have exactly := always 3 (fun _ => 0)
    [.ready true (some [1]), .ready true (some [2]), .ready true (some [3, 4])]
    _ _ (by decide) (by decide) rfl
  exact absurd (exactly.taken rfl) (by decide)

end Reconn.Analyzer
