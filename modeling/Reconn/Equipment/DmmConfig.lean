import Reconn.Equipment.DmmDiags

/-! The configuration of the digital multimeter over a loss of power, by dmmSaveConfig and
dmmLoadSavedConfig of dmm.c. The first two characters that the meter's serial line has when its
status was asked for go into a file, which need not be the first two of the status, and the meter
is sent the two characters of the file when the box has power again.
-/

namespace Reconn.Equipment

open Appends
open Client (ReconnErrCode reconnSuccess reconnFailure ascii)

def dmmNumConfigBytes : Nat := 2

/-- The code and the array, if diagsGetResponse has returned and has kept to it. -/
def Response.returned : Response → Option (ReconnErrCode × List UInt8)
  | .waits | .leaves => none
  | .returns retCode response => some (retCode, response)

theorem Response.returned_eq_some_iff {r : Response} {retCode : ReconnErrCode}
    {response : List UInt8}
    : r.returned = some (retCode, response) ↔ r = .returns retCode response := by
  cases r <;> simp [returned]

/-- What the calls of dmmSaveConfig meet. -/
structure SaveOutcomes where
  unlink : Bool
  fopen : Bool
  /-- what write() returns for the status command -/
  write : Int
  status : List Wait
  /-- how many characters fwrite() writes -/
  fwrite : Nat
  deriving Repr

/-- dmmSaveConfig, with the file before and after it; none if diagsGetResponse has not returned,
or if the response has left its array.
-/
def dmmSaveConfig (dmmPortInit : Bool) (file : Option (List UInt8)) (o : SaveOutcomes)
    : Option (Option (List UInt8)) :=
  if o.fopen = false then some (if o.unlink then none else file)
  else if dmmWrite dmmPortInit (dmmCommands statusCommand) o.write ≠ reconnSuccess then
    some (some [])
  else
    (dmmResponse dmmMaxResponse dmmStatusRspLen o.status).returned.map fun (retCode, response) =>
      if retCode = reconnSuccess then some ((response.take dmmNumConfigBytes).take o.fwrite)
      else some []

/-- What the calls of dmmLoadSavedConfig meet. -/
structure LoadOutcomes where
  fopen : Bool
  /-- the turns of each call of the loop that clears the line -/
  clear : List (List Wait)
  write : Fin 2 → Int
  echo : Fin 2 → List Wait

/-- The loop that clears the line; none if it has not ended with the last of these calls. -/
def clearQueued : List (List Wait) → Option Unit
  | [] => none
  | waits :: rest => do
      let (retCode, _) ← (dmmResponse (dmmMaxResponse + 1) 1 waits).returned
      if retCode = reconnSuccess then clearQueued rest
      else if rest = [] then some ()
      else none

/-- dmmLoadSavedConfig: the characters that it writes to the meter; none if a call of
diagsGetResponse has not returned.
-/
def dmmLoadSavedConfig (dmmPortInit : Bool) (file : Option (List UInt8)) (o : LoadOutcomes)
    : Option (List UInt8) :=
  match if o.fopen then file else none with
  | none => some []
  | some stored => do
      clearQueued o.clear
      match stored.take dmmNumConfigBytes with
      | [byte0, byte1] =>
          if dmmWrite dmmPortInit [byte0] (o.write 0) ≠ reconnSuccess then return []
          let (retCode, _) ← (dmmResponse (dmmMaxResponse + 1) 1 (o.echo 0)).returned
          if retCode ≠ reconnSuccess then return [byte0]
          if dmmWrite dmmPortInit [byte1] (o.write 1) ≠ reconnSuccess then return [byte0]
          let _ ← (dmmResponse (dmmMaxResponse + 1) 1 (o.echo 1)).returned
          return [byte0, byte1]
      | _ => return []

/-- A meter: its configuration, what a character that it receives makes of that, and what it
answers.
-/
structure Firmware where
  Config : Type
  mode : Config → UInt8
  coupling : Config → UInt8
  receive : Config → UInt8 → Config × List UInt8

namespace Firmware

/-- The characters for the functions and for DC and AC. -/
def modes : List UInt8 := DiagsOutcomes.functionCommands.flatMap dmmCommands
def couplings : List UInt8 := dmmCommands dcModeCommand ++ dmmCommands acModeCommand

variable (fw : Firmware)

/-- A meter's configuration after some characters, and what it answers to them. -/
def after (config : fw.Config) (sent : List UInt8) : fw.Config :=
  sent.foldl (fun config command => (fw.receive config command).1) config

def answer (config : fw.Config) : List UInt8 → List UInt8
  | [] => []
  | command :: rest =>
      (fw.receive config command).2 ++ answer (fw.receive config command).1 rest

/-- What dmm.c knows of the meter. It answers the character of a function; it need not answer the
one for DC or AC, as its firmware does not for AC.
-/
structure Documented : Prop where
  mode : ∀ config, fw.mode config ∈ modes
  coupling : ∀ config, fw.coupling config ∈ couplings
  status : ∀ config, ∃ others,
    fw.answer config (dmmCommands statusCommand) = fw.mode config :: fw.coupling config :: others
  statusLength : ∀ config,
    ((fw.answer config (dmmCommands statusCommand)).length : Int) = dmmStatusRspLen
  setMode : ∀ config, ∀ command ∈ modes,
    fw.mode (fw.after config [command]) = command
      ∧ fw.coupling (fw.after config [command]) = fw.coupling config
      ∧ fw.answer config [command] ≠ []
  setCoupling : ∀ config, ∀ command ∈ couplings,
    fw.mode (fw.after config [command]) = fw.mode config
      ∧ fw.coupling (fw.after config [command]) = command

end Firmware

/-- The turns of diagsGetResponse on a serial line, and what they leave on it: a read gives some
of what is there, and select() times out only if nothing is.
-/
inductive Meets : List UInt8 → List Wait → List UInt8 → Prop where
  | done (line : List UInt8) : Meets line [] line
  | ready {bytes line final : List UInt8} {waits : List Wait} (some_ : bytes ≠ [])
    (later : Meets line waits final)
    : Meets (bytes ++ line) (.ready (some bytes) :: waits) final
  | timeout {final : List UInt8} {waits : List Wait} (later : Meets [] waits final)
    : Meets [] (.timeout :: waits) final

/-- The turns of calls one after the other. -/
inductive MeetsAll : List UInt8 → List (List Wait) → List UInt8 → Prop where
  | done (line : List UInt8) : MeetsAll line [] line
  | call {line between final : List UInt8} {waits : List Wait} {rest : List (List Wait)}
    (first : Meets line waits between) (later : MeetsAll between rest final)
    : MeetsAll line (waits :: rest) final

-----------------------------------------------------------------------------------------
-- What a call reads from the line
-----------------------------------------------------------------------------------------

theorem Meets.delivered_append {line final : List UInt8} {waits : List Wait}
    (meets : Meets line waits final)
    : delivered waits ++ final = line := by
  induction meets with
  | done => rfl
  | ready _ _ ih =>
      rw [delivered, List.flatMap_cons, List.append_assoc]
      exact congrArg _ ih
  | timeout _ ih =>
      rw [delivered, List.flatMap_cons]
      exact ih

/-- No turn follows once the loop has ended. -/
theorem waits_of_returned {length : Int} {s last : DiagsResponse} {waits : List Wait}
    (returned : s.returned.isSome = true)
    (run : waits.foldlM (DiagsResponse.turn length) s = some last)
    : waits = [] ∧ last = s := by
  cases waits with
  | nil => exact ⟨rfl, (Option.some.inj run).symm⟩
  | cons wait rest =>
      obtain ⟨next, taken, -⟩ := Option.bind_eq_some_iff.mp run
      unfold DiagsResponse.turn at taken
      rw [if_pos returned] at taken
      cases taken

/-- The line with nothing on it stays so. -/
theorem Meets.final_of_done {line final : List UInt8} (meets : Meets line [] final)
    : final = line := by
  cases meets
  rfl

/-- A call that returns fails exactly if it has nothing to read, and it leaves something on the
line only if it has as much as it was asked for. By induction on the turns, with what was counted
before them.
-/
theorem Meets.returned {length : Int} {line final : List UInt8} {waits : List Wait}
    (meets : Meets line waits final) {s last : DiagsResponse} (running : s.returned = none)
    (run : waits.foldlM (DiagsResponse.turn length) s = some last)
    (ended : last.returned.isSome = true)
    : last.returned
        = some (if s.count = 0 ∧ line = [] then reconnFailure else reconnSuccess)
      ∧ (length ≤ last.count ∨ final = []) := by
  induction meets generalizing s with
  | done =>
      obtain rfl := Option.some.inj run
      simp [running] at ended
  | @ready bytes line final waits some_ later ih =>
      obtain ⟨next, taken, rest⟩ := Option.bind_eq_some_iff.mp run
      have filled : 0 < bytes.length := List.length_pos_iff.mpr some_
      have nonempty : ¬ (s.count = 0 ∧ bytes ++ line = []) := fun h => some_ (by simp_all)
      unfold DiagsResponse.turn at taken
      rw [if_neg (by simp [running])] at taken
      obtain ⟨-, taken⟩ := Option.ite_none_right_eq_some.mp taken
      obtain rfl := Option.some.inj taken
      unfold DiagsResponse.whileMissing at rest
      rw [if_neg nonempty]
      split_ifs at rest with missing
      · have counted : ¬ (s.count + bytes.length = 0 ∧ line = []) := by omega
        have done := ih (by exact running) rest
        rwa [if_neg counted] at done
      · obtain ⟨-, rfl⟩ := waits_of_returned rfl rest
        exact ⟨rfl, .inl (not_lt.mp missing)⟩
  | timeout later =>
      obtain ⟨next, taken, rest⟩ := Option.bind_eq_some_iff.mp run
      unfold DiagsResponse.turn at taken
      rw [if_neg (by simp [running])] at taken
      obtain rfl := Option.some.inj taken
      obtain ⟨rfl, rfl⟩ := waits_of_returned rfl rest
      exact ⟨by simp, .inr later.final_of_done⟩

/-- What a call that has returned says of the line: it fails exactly if nothing was there, and it
has read the whole line or as much as it was asked for.
-/
theorem dmmResponse_of_meets {size : Nat} {length : Int} {line final : List UInt8}
    {waits : List Wait} {retCode : ReconnErrCode} {response : List UInt8}
    (meets : Meets line waits final)
    (returned : dmmResponse size length waits = .returns retCode response)
    : retCode = (if line = [] then reconnFailure else reconnSuccess)
      ∧ (length ≤ (delivered waits).length ∨ final = []) := by
  obtain ⟨s, run, -, code, -⟩ := dmmResponse_eq_returns_iff.mp returned
  obtain ⟨verdict, read⟩ := @Meets.returned length line final waits meets .start s rfl run
    (by rw [code]; rfl)
  rw [code, Option.some.injEq] at verdict
  rw [(diagsGetResponse_collected run).count] at read
  exact ⟨by simpa [DiagsResponse.start] using verdict, read⟩

/-- The array begins with what was read. -/
theorem take_dmmResponse_of_le {size : Nat} {length : Int} {waits : List Wait}
    {retCode : ReconnErrCode} {response : List UInt8} {n : Nat} (fits : n ≤ size)
    (read : n ≤ (delivered waits).length)
    (returned : dmmResponse size length waits = .returns retCode response)
    : response.take n = (delivered waits).take n := by
  rw [dmmResponse_eq_map returned]
  refine List.ext_getElem (by simp [fits, read]) fun index bound _ => ?_
  have inside : index < (delivered waits).length := by
    rw [List.length_take] at bound
    omega
  simp [inside]

-----------------------------------------------------------------------------------------
-- Saving and loading
-----------------------------------------------------------------------------------------

namespace Firmware

variable (fw : Firmware)

/-- dmmSaveConfig on a meter that has a configuration, with what nobody has read on its serial
line. The calls succeed, and the response arrives in whatever parts.
-/
structure Saves (config : fw.Config) (unread : List UInt8) (o : SaveOutcomes) : Prop where
  fopen : o.fopen = true
  write : o.write = 1
  status : ∃ final, Meets (unread ++ fw.answer config (dmmCommands statusCommand)) o.status final
  fwrite : o.fwrite = dmmNumConfigBytes

/-- dmmLoadSavedConfig of two characters, alike. -/
structure Loads (config : fw.Config) (unread : List UInt8) (byte0 byte1 : UInt8)
    (o : LoadOutcomes) : Prop where
  fopen : o.fopen = true
  write : ∀ i, o.write i = 1
  line : ∃ cleared between final,
    MeetsAll unread o.clear cleared
    ∧ Meets (cleared ++ fw.answer config [byte0]) (o.echo 0) between
    ∧ Meets (between ++ fw.answer (fw.after config [byte0]) [byte1]) (o.echo 1) final

end Firmware

/-- A mode is no coupling. -/
theorem mode_ne_coupling {mode coupling : UInt8} (known : mode ∈ Firmware.modes)
    (known' : coupling ∈ Firmware.couplings)
    : mode ≠ coupling := by
  have apart : ∀ mode ∈ Firmware.modes, ∀ coupling ∈ Firmware.couplings, mode ≠ coupling := by
    decide +kernel
  exact apart mode known coupling known'

namespace Firmware

variable {fw : Firmware} {config : fw.Config} {unread : List UInt8}

/-- The file has the first two characters of the line. -/
theorem Saves.stored {o : SaveOutcomes} (documented : fw.Documented)
    (saves : fw.Saves config unread o) {file saved : Option (List UInt8)}
    (returned : dmmSaveConfig true file o = some saved)
    : saved
      = some ((unread ++ [fw.mode config, fw.coupling config]).take dmmNumConfigBytes) := by
  obtain ⟨final, meets⟩ := saves.status
  obtain ⟨others, reply⟩ := documented.status config
  have length := documented.statusLength config
  have written
      : ¬ dmmWrite true (dmmCommands statusCommand) o.write ≠ reconnSuccess := by
    rw [saves.write]
    decide +kernel
  rw [dmmSaveConfig, saves.fopen, if_neg Bool.noConfusion, if_neg written] at returned
  obtain ⟨⟨retCode, response⟩, responded, rfl⟩ := Option.map_eq_some_iff.mp returned
  replace responded := Response.returned_eq_some_iff.mp responded
  obtain ⟨verdict, read⟩ := dmmResponse_of_meets meets responded
  have parts := meets.delivered_append
  -- A call for five characters leaves none of the first two on the line.
  have enough : dmmStatusRspLen ≤ (delivered o.status).length := by
    rcases read with read | rfl
    · exact read
    · rw [← length, ← List.append_nil (delivered o.status), parts, List.length_append]
      omega
  have two : dmmNumConfigBytes ≤ (delivered o.status).length := by
    unfold dmmStatusRspLen at enough
    unfold dmmNumConfigBytes
    omega
  have success : retCode = reconnSuccess := by
    rw [verdict, if_neg]
    simp [reply]
  have front : response.take dmmNumConfigBytes
      = (unread ++ [fw.mode config, fw.coupling config]).take dmmNumConfigBytes := by
    have whole
        : (delivered o.status ++ final).take dmmNumConfigBytes
          = (delivered o.status).take dmmNumConfigBytes :=
      List.take_append_of_le_length two
    rw [take_dmmResponse_of_le (by decide) two responded, ← whole, parts, reply]
    rcases unread with _ | ⟨a, _ | ⟨b, rest⟩⟩ <;> rfl
  dsimp only
  rw [if_pos success, saves.fwrite, List.take_take, Nat.min_self, front]

/-- A load writes both characters of the file to a meter that answers the first. -/
theorem Loads.sent {o : LoadOutcomes} {byte0 byte1 : UInt8}
    (loads : fw.Loads config unread byte0 byte1 o) (answers : fw.answer config [byte0] ≠ [])
    {sent : List UInt8}
    (returned : dmmLoadSavedConfig true (some [byte0, byte1]) o = some sent)
    : sent = [byte0, byte1] := by
  obtain ⟨cleared, between, final, clear, echo0, echo1⟩ := loads.line
  have written (i : Fin 2) (byte : UInt8)
      : ¬ dmmWrite true [byte] (o.write i) ≠ reconnSuccess := by
    simp [loads.write i, dmmWrite]
  simp only [dmmLoadSavedConfig, loads.fopen, if_true, Option.bind_eq_bind, Option.pure_def,
    dmmNumConfigBytes, List.take, if_neg (written _ _), Option.bind_eq_some_iff] at returned
  obtain ⟨⟨⟩, emptied, ⟨retCode, response⟩, first, second⟩ := returned
  obtain ⟨verdict, -⟩ := dmmResponse_of_meets echo0 (Response.returned_eq_some_iff.mp first)
  have there : cleared ++ fw.answer config [byte0] ≠ [] := by simp [answers]
  rw [if_neg there] at verdict
  rw [if_neg (not_not.mpr verdict), Option.bind_eq_some_iff] at second
  obtain ⟨-, -, last⟩ := second
  exact (Option.some.inj last).symm

theorem after_singleton (command : UInt8)
    : fw.after config [command] = (fw.receive config command).1 := rfl

theorem answer_singleton (command : UInt8)
    : fw.answer config [command] = (fw.receive config command).2 := List.append_nil _

/-- A meter that does what dmm.c knows of it, and ignores any other character. -/
def echoing : Firmware where
  Config := { mode // mode ∈ modes } × { coupling // coupling ∈ couplings }
  mode := fun config => config.1
  coupling := fun config => config.2
  receive := fun config command =>
    if mode : command ∈ modes then ((⟨command, mode⟩, config.2), [command])
    else if coupling : command ∈ couplings then ((config.1, ⟨command, coupling⟩), [])
    else if command ∈ dmmCommands statusCommand then
      (config, [config.1.1, config.2.1] ++ ascii "a" ++ [13, 10])
    else (config, [])

theorem echoing_mode (config : echoing.Config) {command : UInt8} (known : command ∈ modes)
    : echoing.receive config command = ((⟨command, known⟩, config.2), [command]) :=
  dif_pos known

theorem echoing_coupling (config : echoing.Config) {command : UInt8}
    (known : command ∈ couplings)
    : echoing.receive config command = ((config.1, ⟨command, known⟩), []) := by
  have other : command ∉ modes := fun h => mode_ne_coupling h known rfl
  exact (dif_neg other).trans (dif_pos known)

theorem echoing_documented : echoing.Documented where
  mode := fun config => config.1.2
  coupling := fun config => config.2.2
  status := fun _ => ⟨ascii "a" ++ [13, 10], rfl⟩
  statusLength := fun _ => rfl
  setMode := by
    intro config command known
    rw [after_singleton, answer_singleton, echoing_mode config known]
    exact ⟨rfl, rfl, List.cons_ne_nil _ _⟩
  setCoupling := by
    intro config command known
    rw [after_singleton, echoing_coupling config known]
    exact ⟨rfl, rfl⟩

end Firmware

end Reconn.Equipment
