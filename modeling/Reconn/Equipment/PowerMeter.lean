import Mathlib.Data.List.Chain
import Reconn.Client.Equipment
import Reconn.Library.TransitionRuns

/-! The power meter, by powerMeter.c: how it is opened and closed, and the task that polls for
it and tells the master of its insertions and extractions. Three flags of the task say what it
has told; the descriptor is published in gEqptDescriptors.
-/

namespace Reconn.Equipment

open TransitionRuns
open Client (ReconnErrCode reconnSuccess reconnFailure reconnRspPayloadSize ascii cString
  reconnFailure_ne_success)

def reconnPowerMeterOpenFail : ReconnErrCode := 22
def reconnFileNotFound : ReconnErrCode := 31

/-- What the calls in powerMeterOpen return. -/
structure MeterOutcomes where
  /-- open(), none if it fails -/
  opened : Option Nat
  /-- the bytes that read() gets, none if it fails -/
  read : Option (List UInt8)
  /-- the bytes behind the array meterData -/
  behind : List UInt8

/-- The variables of powerMeter.c and of powerMeterPresenceTask, and the descriptor of
gEqptDescriptors.
-/
structure PowerMeter where
  myMeterFd : Int
  powerMeterPortInit : Bool
  powerMeterFd : Int
  insertMessageSent : Bool
  extractMessageSent : Bool
  meterInserted : Bool
  deriving DecidableEq, Repr

/-- The notifications that the task decides to send. -/
inductive Notice where
  | meterInserted
  | meterExtracted
  deriving DecidableEq, Repr

inductive MeterAction where
  | powerMeterInit (retCode : ReconnErrCode)
  | powerMeterClose
  | decides (notice : Notice)
  | mqSend (notice : Notice)
  deriving DecidableEq, Repr

/-- stat() of POWER_METER_DEV -/
inductive Stat where
  | succeeds
  | fails (enoent : Bool)
  deriving DecidableEq, Repr

/-- What one turn of the task's loop meets. -/
structure Poll where
  stat : Stat
  init : MeterOutcomes
  masterClientMsgQid : Int

/-- strstr finds the text in a string. -/
def strstr (haystack needle : List UInt8) : Bool := decide (needle <:+: haystack)

/-- meterData, which was cleared before the bytes were read. -/
def meterData (bytesRead : List UInt8) : List UInt8 :=
  bytesRead ++ List.replicate (reconnRspPayloadSize - bytesRead.length) 0

def isPowerMeterPresent : Stat → ReconnErrCode
  | .succeeds => reconnSuccess
  | .fails true => reconnFileNotFound
  | .fails false => reconnFailure

namespace PowerMeter

/-- The variables before the first poll; PeripheralInit has set the descriptor. -/
def initial : PowerMeter where
  myMeterFd := 0
  powerMeterPortInit := false
  powerMeterFd := -1
  insertMessageSent := false
  extractMessageSent := false
  meterInserted := false

def powerMeterOpen (m : PowerMeter) (env : MeterOutcomes) : PowerMeter × ReconnErrCode :=
  match env.opened with
  | none => ({ m with myMeterFd := -1, powerMeterFd := -1 }, reconnPowerMeterOpenFail)
  | some fd =>
      let m := { m with myMeterFd := fd }
      match env.read with
      | none => (m, reconnFailure)
      | some bytesRead =>
          if strstr (cString (meterData bytesRead ++ env.behind)) (ascii "Power Meter") then
            ({ m with powerMeterFd := fd }, reconnSuccess)
          else (m, reconnFailure)

def powerMeterInit (m : PowerMeter) (env : MeterOutcomes) : PowerMeter × ReconnErrCode :=
  let opened := { m with powerMeterFd := -1 }.powerMeterOpen env
  if opened.2 = reconnSuccess then
    ({ opened.1 with powerMeterPortInit := true }, reconnSuccess)
  else (opened.1, reconnFailure)

/-- powerMeterClose of the published descriptor; a close() that fails is only reported. -/
def powerMeterClose (m : PowerMeter) : PowerMeter :=
  if m.powerMeterFd ≠ -1 then { m with powerMeterPortInit := false, powerMeterFd := -1 }
  else m

/-- A notification is sent if there is a control queue. -/
def notify (notice : Notice) (masterClientMsgQid : Int) : List MeterAction :=
  .decides notice :: if masterClientMsgQid ≠ -1 then [.mqSend notice] else []

/-- The branch of a poll that finds no device. -/
def absent (m : PowerMeter) (p : Poll) : PowerMeter × List MeterAction :=
  if m.meterInserted = true ∧ m.extractMessageSent = false then
    (
      {
        m.powerMeterClose with
        insertMessageSent := false
        extractMessageSent := true
        meterInserted := false
      },
      notify .meterExtracted p.masterClientMsgQid ++ [.powerMeterClose]
    )
  else (m, [])

/-- The branch of a poll that finds the device. -/
def present (m : PowerMeter) (p : Poll) : PowerMeter × List MeterAction :=
  if m.insertMessageSent = false then
    let init := if m.meterInserted = false then m.powerMeterInit p.init else (m, reconnSuccess)
    let calls := if m.meterInserted = false then [.powerMeterInit init.2] else []
    if init.2 = reconnSuccess then
      (
        {
          init.1 with
          insertMessageSent := true
          extractMessageSent := false
          meterInserted := true
        },
        calls ++ notify .meterInserted p.masterClientMsgQid
      )
    else (init.1, calls)
  else (m, [])

/-- One turn of the loop of powerMeterPresenceTask. -/
def poll (m : PowerMeter) (p : Poll) : PowerMeter × List MeterAction :=
  let retCode := isPowerMeterPresent p.stat
  if retCode = reconnFileNotFound then m.absent p
  else if retCode = reconnSuccess then m.present p
  else (m, [])

/-- The task refuses no poll. -/
def step (m : PowerMeter) (p : Poll) : Option (PowerMeter × List MeterAction) :=
  some (m.poll p)

/-- The notifications among the actions, in order. -/
def decided (actions : List MeterAction) : List Notice :=
  actions.filterMap fun
    | .decides notice => some notice
    | .powerMeterInit _ | .powerMeterClose | .mqSend _ => none

variable {m m' : PowerMeter} {actions : List MeterAction}

/-- A notification is decided once, whether there is a control queue or not. -/
theorem decided_notify (notice : Notice) (qid : Int) : decided (notify notice qid) = [notice] := by
  unfold notify
  split_ifs <;> rfl

theorem decided_insertion (qid : Int)
    : decided (.powerMeterInit reconnSuccess :: notify .meterInserted qid)
      = [.meterInserted] :=
  decided_notify .meterInserted qid

theorem decided_extraction (qid : Int)
    : decided (notify .meterExtracted qid ++ [.powerMeterClose]) = [.meterExtracted] := by
  have appended : decided (notify .meterExtracted qid ++ [.powerMeterClose])
      = decided (notify .meterExtracted qid) ++ decided [.powerMeterClose] :=
    List.filterMap_append
  rw [appended, decided_notify]
  rfl

-----------------------------------------------------------------------------------------
-- What a poll can do
-----------------------------------------------------------------------------------------

/-- The flags agree with each other and with the published descriptor. -/
structure Sound (m : PowerMeter) : Prop where
  told : m.insertMessageSent = m.meterInserted
  untold : m.meterInserted = true → m.extractMessageSent = false
  descriptor : m.powerMeterFd ≠ -1 ↔ m.meterInserted = true

/-- (Polled m m' actions) is what a poll decides: nothing, an insertion right after a
successful init, or an extraction.
-/
inductive Polled (m m' : PowerMeter) : List MeterAction → Prop where
  | silent {calls} (undecided : decided calls = []) (same : m'.meterInserted = m.meterInserted)
    : Polled m m' calls
  | inserts {qid} (gone : m.meterInserted = false) (here : m'.meterInserted = true)
    : Polled m m' (.powerMeterInit reconnSuccess :: notify .meterInserted qid)
  | extracts {qid} (here : m.meterInserted = true) (gone : m'.meterInserted = false)
    : Polled m m' (notify .meterExtracted qid ++ [.powerMeterClose])

/-- Only an insertion right after a successful init is decided. -/
theorem Polled.initialised (polled : m.Polled m' actions)
    (decides : .meterInserted ∈ decided actions)
    : ∃ rest, actions = .powerMeterInit reconnSuccess :: .decides .meterInserted :: rest := by
  cases polled with
  | silent undecided same => simp [undecided] at decides
  | inserts gone here => exact ⟨_, rfl⟩
  | extracts here gone => simp [decided_extraction] at decides

theorem sound_initial : initial.Sound where
  told := rfl
  untold := nofun
  descriptor := by decide

/-- powerMeterOpen publishes the descriptor that it returns successfully with, and leaves the
task's flags alone.
-/
theorem powerMeterOpen_spec (m : PowerMeter) (env : MeterOutcomes) (closed : m.powerMeterFd = -1)
    : (m.powerMeterOpen env).1.meterInserted = m.meterInserted
      ∧ (m.powerMeterOpen env).1.insertMessageSent = m.insertMessageSent
      ∧ (m.powerMeterOpen env).1.extractMessageSent = m.extractMessageSent
      ∧ ((m.powerMeterOpen env).1.powerMeterFd ≠ -1
        ↔ (m.powerMeterOpen env).2 = reconnSuccess) := by
  have refused : ¬ reconnPowerMeterOpenFail = reconnSuccess := by decide
  unfold powerMeterOpen
  cases env.opened with
  | none => exact ⟨rfl, rfl, rfl, iff_of_false (by simp) refused⟩
  | some fd =>
      cases env.read with
      | none =>
          exact ⟨rfl, rfl, rfl, iff_of_false (not_not.mpr closed) reconnFailure_ne_success⟩
      | some bytesRead =>
          simp only
          split_ifs
          · exact ⟨rfl, rfl, rfl, iff_of_true (by simp only; omega) rfl⟩
          · exact ⟨rfl, rfl, rfl, iff_of_false (not_not.mpr closed) reconnFailure_ne_success⟩

/-- powerMeterInit succeeds exactly if it publishes a descriptor. -/
theorem powerMeterInit_spec (m : PowerMeter) (env : MeterOutcomes)
    : (m.powerMeterInit env).1.meterInserted = m.meterInserted
      ∧ (m.powerMeterInit env).1.insertMessageSent = m.insertMessageSent
      ∧ (m.powerMeterInit env).1.extractMessageSent = m.extractMessageSent
      ∧ ((m.powerMeterInit env).1.powerMeterFd ≠ -1
        ↔ (m.powerMeterInit env).2 = reconnSuccess) := by
  obtain ⟨inserted, told, untold, published⟩ :=
    powerMeterOpen_spec { m with powerMeterFd := -1 } env rfl
  unfold powerMeterInit
  simp only
  split_ifs with succeeds
  · exact ⟨inserted, told, untold, iff_of_true (published.mpr succeeds) rfl⟩
  · refine ⟨inserted, told, untold, iff_of_false (mt published.mp succeeds) ?_⟩
    exact reconnFailure_ne_success

theorem absent_spec (sound : m.Sound) (p : Poll)
    : (m.absent p).1.Sound ∧ Polled m (m.absent p).1 (m.absent p).2 := by
  unfold absent
  split_ifs with extracts
  · refine ⟨⟨rfl, nofun, ?_⟩, .extracts extracts.1 rfl⟩
    unfold powerMeterClose
    split_ifs with opened
    · simp
    · exact iff_of_false opened (by simp)
  · exact ⟨sound, .silent rfl rfl⟩

theorem present_spec (sound : m.Sound) (p : Poll)
    : (m.present p).1.Sound ∧ Polled m (m.present p).1 (m.present p).2 := by
  unfold present
  split_ifs with untold gone
  · obtain ⟨inserted, told, extracted, published⟩ := m.powerMeterInit_spec p.init
    simp only
    split_ifs with succeeds
    · refine ⟨⟨rfl, fun _ => rfl, iff_of_true (published.mpr succeeds) rfl⟩, ?_⟩
      rw [succeeds]
      exact .inserts gone rfl
    · refine ⟨⟨?_, ?_, ?_⟩, .silent rfl inserted⟩
      · rw [told, inserted, sound.told]
      · rw [inserted, extracted]
        exact sound.untold
      · rw [inserted]
        exact iff_of_false (mt published.mp succeeds) (by simp [gone])
  · exact absurd (sound.told.symm.trans untold) gone
  · exact ⟨sound, .silent rfl rfl⟩

/-- A poll keeps the flags sound, and decides what it may. -/
theorem poll_spec (sound : m.Sound) (p : Poll)
    : (m.poll p).1.Sound ∧ Polled m (m.poll p).1 (m.poll p).2 := by
  unfold poll
  simp only
  split_ifs
  · exact absent_spec sound p
  · exact present_spec sound p
  · exact ⟨sound, .silent rfl rfl⟩

-----------------------------------------------------------------------------------------
-- Runs of the task
-----------------------------------------------------------------------------------------

/-- The notifications alternate, and the first one is METER_INSERTED. -/
structure Alternates (notices : List Notice) : Prop where
  differ : notices.IsChain (· ≠ ·)
  first : ∀ notice ∈ notices.head?, notice = .meterInserted

/-- A notification follows if it is not the last one, and is no extraction to begin with. -/
theorem Alternates.concat {notices : List Notice} (alternates : Alternates notices)
    {notice : Notice} (other : notices.getLast? ≠ some notice)
    (begins : notices = [] → notice = .meterInserted)
    : Alternates (notices ++ [notice]) := by
  refine ⟨alternates.differ.append (List.isChain_singleton _) ?_, ?_⟩
  · rintro last isLast _ ⟨⟩ rfl
    exact other isLast
  · cases notices with
    | nil => simpa using begins rfl
    | cons head rest => simpa using alternates.first

/-- The notifications decided after a poll. -/
def recordNotices (past : List Notice) (t : Transition PowerMeter Poll (List MeterAction))
    : List Notice :=
  past ++ decided t.output

/-- What a poll leaves behind: alternating notifications, an insertion only after a successful
init, and a published descriptor exactly if the last notification is METER_INSERTED.
-/
structure Consistent (past : List Notice) (t : Transition PowerMeter Poll (List MeterAction))
    : Prop where
  alternates : Alternates (recordNotices past t)
  initialised
    : .meterInserted ∈ decided t.output
        → ∃ rest, t.output
          = .powerMeterInit reconnSuccess :: .decides .meterInserted :: rest
  descriptor
    : t.after.powerMeterFd ≠ -1 ↔ (recordNotices past t).getLast? = some .meterInserted

/-- The flag meterInserted says which notification was the last. -/
structure Told (past : List Notice) (m : PowerMeter) : Prop where
  sound : m.Sound
  alternates : Alternates past
  last : m.meterInserted = true ↔ past.getLast? = some .meterInserted

/-- What a poll decides keeps the notifications alternating and the flag telling the last one,
by the cases of what it decides.
-/
theorem Told.polled {past : List Notice} (told : Told past m) (sound : m'.Sound)
    (polled : m.Polled m' actions)
    : Told (past ++ decided actions) m' := by
  cases polled with
  | silent undecided same =>
      rw [undecided, List.append_nil]
      exact ⟨sound, told.alternates, same ▸ told.last⟩
  | inserts gone here =>
      have other : past.getLast? ≠ some .meterInserted := fun last => by
        simp [told.last.mpr last] at gone
      rw [decided_insertion]
      refine ⟨sound, told.alternates.concat other fun _ => rfl, ?_⟩
      exact iff_of_true here List.getLast?_concat
  | extracts here gone =>
      have last := told.last.mp here
      rw [decided_extraction]
      refine ⟨sound, told.alternates.concat ?_ ?_, ?_⟩
      · simp [last]
      · rintro rfl
        cases last
      · simp [gone]

/-- A poll keeps the flag telling, and leaves everything consistent. -/
theorem Told.record {past : List Notice} (t : Transition PowerMeter Poll (List MeterAction))
    (told : Told past t.before) (taken : t.before.step t.event = some (t.after, t.output))
    : Told (recordNotices past t) t.after ∧ Consistent past t := by
  have performed : t.before.poll t.event = (t.after, t.output) := Option.some.inj taken
  obtain ⟨sound, polled⟩ := poll_spec told.sound t.event
  rw [performed] at sound polled
  have next := told.polled sound polled
  exact ⟨next, next.alternates, polled.initialised, sound.descriptor.trans next.last⟩

/-- For all results of the polls, the notifications alternate from METER_INSERTED on, an
insertion is only told after a successful init, and the descriptor is published exactly while
the last notification is METER_INSERTED.
-/
theorem powerMeterPresenceTask_consistent (polls : List Poll)
    : (replay step initial polls).1.map Transition.event = polls
      ∧ Throughout recordNotices Consistent [] (replay step initial polls).1 := by
  constructor
  · exact events_replay (fun _ _ => rfl) initial polls
  · have run : Run step initial _ _ := replay_run initial polls
    have start : Told [] initial := ⟨sound_initial, ⟨List.isChain_nil, nofun⟩, by decide⟩
    exact run.throughout (fun _ t => Told.record t) [] start

end PowerMeter

end Reconn.Equipment
