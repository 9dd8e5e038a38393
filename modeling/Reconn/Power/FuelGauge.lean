import Mathlib.Logic.Function.Basic
import Reconn.Client.ResponseBytes
import Reconn.Library.PastTime
import Reconn.Power.I2c

/-! The fuel gauge of fuelGauge.c when several threads use it. A call that finds the gauge in use
is refused; the one that has it addresses a register and then reads it, in two transfers over
the bus.
-/

namespace Reconn.Power.FuelGauge

open TransitionRuns PastTime
open Client (highByte lowByte highByte_ofNat lowByte_ofNat toNat_highByte_lowByte)

-----------------------------------------------------------------------------------------
-- Calls
-----------------------------------------------------------------------------------------

/-- A function that reads a register, and what it stores of the content. -/
structure Getter where
  register : UInt8
  stored : UInt16 → UInt16

def fuelGaugeGetBatteryVoltage : Getter := ⟨0x02, (· >>> 4)⟩
def fuelGaugeGetChargePercent : Getter := ⟨0x04, (· >>> 8)⟩
def fuelGaugeGetVersion : Getter := ⟨0x08, id⟩
def fuelGaugeGetRcomp : Getter := ⟨0x0c, id⟩

/-- A function that writes a register. -/
structure Setter where
  register : UInt8
  val : UInt16

def fuelGaugeQuickStart : Setter := ⟨0x06, 0x4000⟩
def fuelGaugeSetRcomp (rcomp : UInt16) : Setter := ⟨0x0c, rcomp⟩
def fuelGaugePowerOnReset : Setter := ⟨0xfe, 0x5400⟩

/-- The host's word at two bytes of its memory, the low one first. -/
def ofMemory (first second : UInt8) : UInt16 :=
  UInt16.ofNat (second.toNat * 256 + first.toNat)

/-- FUEL_GAUGE_NTOHS and FUEL_GAUGE_HTONS -/
def be16toh (word : UInt16) : UInt16 :=
  UInt16.ofNat ((lowByte word).toNat * 256 + (highByte word).toNat)

/-- The gauge sends the high byte first. -/
theorem be16toh_ofMemory (content : UInt16)
    : be16toh (ofMemory (highByte content) (lowByte content)) = content := by
  rw [be16toh, ofMemory, lowByte_ofNat, highByte_ofNat, toNat_highByte_lowByte,
    UInt16.ofNat_toNat]

/-- It takes the high byte first. -/
theorem bytes_be16toh (val : UInt16)
    : UInt16.ofNat ((lowByte (be16toh val)).toNat * 256 + (highByte (be16toh val)).toNat)
      = val := by
  rw [be16toh, lowByte_ofNat, highByte_ofNat, toNat_highByte_lowByte,
    UInt16.ofNat_toNat]

inductive Request where
  | get (getter : Getter)
  /-- reconn_i2c_write_reg may find no memory for the register's address and the data. -/
  | set (setter : Setter) (allocates : Bool)

/-- The status a call returns, with what it has stored. -/
inductive Result where
  | stored (value : UInt16)
  | written
  | busy
  | ioErr
  deriving DecidableEq

/-- What a thread does next: nothing, a transfer with so many attempts left after it, or
fuel_gauge_release().
-/
inductive Phase where
  | idle
  | addressing (getter : Getter) (retry : Nat)
  | reading (getter : Getter) (retry : Nat)
  | writing (setter : Setter) (retry : Nat)
  | releasing (result : Result)

/-- What a call does once it has the gauge. -/
def Request.start : Request → Phase
  | .get getter => .addressing getter reconnI2cRetryCount
  | .set setter allocates =>
      if allocates then .writing setter reconnI2cRetryCount else .releasing .ioErr

/-- The first loop of reconn_i2c_read_reg, at whose last attempt a success is too late. -/
def Getter.addressed (getter : Getter) (retry : Nat) (o : I2cOutcome) : Phase :=
  if o.transfers 1 then
    if retry = 0 then .releasing .ioErr else .reading getter reconnI2cRetryCount
  else if retry = 0 ∨ o.fails = false then .releasing .ioErr
  else .addressing getter (retry - 1)

/-- Its second loop, which puts the bytes of the register into val. -/
def Getter.read (getter : Getter) (retry : Nat) (o : I2cOutcome) (content : UInt16) : Phase :=
  if o.transfers 2 then
    .releasing (.stored (getter.stored
      (be16toh (ofMemory (highByte content) (lowByte content)))))
  else if retry = 0 ∨ o.errnoIsMinusOne = false then .releasing .ioErr
  else .reading getter (retry - 1)

/-- The loop of reconn_i2c_write_reg: a write that is two bytes long returns what a whole one
does, once the address has been taken off.
-/
def Setter.written (setter : Setter) (retry : Nat) (o : I2cOutcome) : Phase :=
  if o.transfers 3 then .releasing .written
  else if retry = 0 ∨ o.fails = false then .releasing (if o.ret = 2 then .written else .ioErr)
  else .writing setter (retry - 1)

-----------------------------------------------------------------------------------------
-- Threads
-----------------------------------------------------------------------------------------

variable {Thread : Type*}

/-- The context of the gauge, what each thread is at, and the gauge itself: its registers, and
the one that was addressed last.
-/
structure State (Thread : Type*) where
  inuse : Bool
  phase : Thread → Phase
  pointer : UInt8
  registers : UInt8 → UInt16

/-- fuel_gauge_init(), with whatever the gauge holds. -/
def State.initial (pointer : UInt8) (registers : UInt8 → UInt16) : State Thread :=
  ⟨false, fun _ => .idle, pointer, registers⟩

inductive Event (Thread : Type*) where
  /-- fuel_gauge_acquire(), whose semaphore makes it one step -/
  | call (thread : Thread) (request : Request)
  /-- A write() or read(), and the register that is addressed after it, unless that is known -/
  | transfer (thread : Thread) (o : I2cOutcome) (pointer : UInt8)
  /-- fuel_gauge_release() -/
  | release (thread : Thread)
  /-- The gauge changes a register by itself. -/
  | measure (register : UInt8) (content : UInt16)

section Steps

variable [DecidableEq Thread]

/-- No write() or read() returns more than it was asked for. -/
def State.step (s : State Thread) : Event Thread → Option (State Thread × Option Result)
  | .call thread request =>
      match s.phase thread with
      | .idle =>
          if s.inuse then some (s, some .busy)
          else
            some
              ({ s with inuse := true, phase := Function.update s.phase thread request.start },
                none)
      | _ => none
  | .transfer thread o pointer =>
      match s.phase thread with
      | .addressing getter retry =>
          if 1 < o.ret.toInt then none
          else
            some
              ({ s with
                phase := Function.update s.phase thread (getter.addressed retry o)
                pointer := if o.transfers 1 then getter.register else pointer }, none)
      | .reading getter retry =>
          if 2 < o.ret.toInt then none
          else
            some
              ({ s with
                phase := Function.update s.phase thread
                  (getter.read retry o (s.registers s.pointer))
                pointer }, none)
      | .writing setter retry =>
          if 3 < o.ret.toInt then none
          else
            some
              ({ s with
                phase := Function.update s.phase thread (setter.written retry o)
                pointer
                registers :=
                  if o.transfers 3 then
                    Function.update s.registers setter.register
                      (UInt16.ofNat ((lowByte (be16toh setter.val)).toNat * 256
                        + (highByte (be16toh setter.val)).toNat))
                  else s.registers }, none)
      | .idle | .releasing _ => none
  | .release thread =>
      match s.phase thread with
      | .releasing result =>
          some ({ s with inuse := false, phase := Function.update s.phase thread .idle },
            some result)
      | _ => none
  | .measure register content =>
      some ({ s with registers := Function.update s.registers register content }, none)

end Steps

-----------------------------------------------------------------------------------------
-- Runs
-----------------------------------------------------------------------------------------

/-- A step of one of the threads, or of the gauge. -/
abbrev Turn (Thread : Type*) := Transition (State Thread) (Event Thread) (Option Result)

/-- A call that has the gauge is the only one. -/
def State.Exclusive (s : State Thread) : Prop :=
  ∀ thread, s.phase thread ≠ .idle → s.inuse = true ∧ ∀ other ≠ thread, s.phase other = .idle

/-- The thread neither enters a call nor returns from one. -/
def Stays (thread : Thread) (t : Turn Thread) : Prop :=
  (∀ request, t.event ≠ .call thread request) ∧ t.event ≠ .release thread

/-- The last call the thread has entered is this one, it has got the gauge for it, and only this
thread has used the bus since.
-/
def Within (thread : Thread) (request : Request) : List (Turn Thread) → Prop :=
  Since
    (fun t => Stays thread t
      ∧ ∀ other o pointer, t.event = .transfer other o pointer → other = thread)
    fun _ t => t.event = .call thread request ∧ t.output = none

/-- The last use of the bus was a read of the thread's within its call of a getter: what is
stored is the content that the getter's own register had then.
-/
def ReadBy (thread : Thread) (value : UInt16) (before : List (Turn Thread)) (t : Turn Thread)
    : Prop :=
  ∃ getter o pointer, t.event = .transfer thread o pointer ∧ o.transfers 2 = true
    ∧ Within thread (.get getter) before
    ∧ value = getter.stored (t.before.registers getter.register)

/-- The last use of the bus was a write of the thread's within its call of a setter, which is in
the setter's register, unless only two of its three bytes were taken.
-/
def WrittenBy (thread : Thread) (before : List (Turn Thread)) (t : Turn Thread) : Prop :=
  ∃ setter o pointer, t.event = .transfer thread o pointer
    ∧ Within thread (.set setter true) before
    ∧ (t.after.registers setter.register = setter.val ∨ o.ret = 2)

/-- What a call that returns something has done. -/
def Answered (thread : Thread) (result : Result) (past : List (Turn Thread)) : Prop :=
  let unused (t : Turn Thread) : Prop :=
    Stays thread t ∧ ∀ other o pointer, t.event ≠ .transfer other o pointer
  match result with
  | .stored value => Since unused (ReadBy thread value) past
  | .written => Since unused (WrittenBy thread) past
  | .busy => False
  | .ioErr => True

/-- What a thread's phase tells of its past, and of the register that is addressed. -/
def Phase.Tells (thread : Thread) (pointer : UInt8) (past : List (Turn Thread)) : Phase → Prop
  | .idle => True
  | .addressing getter _ => Within thread (.get getter) past
  | .reading getter _ => pointer = getter.register ∧ Within thread (.get getter) past
  | .writing setter _ => Within thread (.set setter true) past
  | .releasing result => Answered thread result past

/-- What it tells is so. -/
def Explained (s : State Thread) (past : List (Turn Thread)) (thread : Thread) : Prop :=
  (s.phase thread).Tells thread s.pointer past

theorem Within.goes_on {thread : Thread} {request : Request} {past : List (Turn Thread)}
    {t : Turn Thread} (within : Within thread request past) (stays : Stays thread t)
    (own : ∀ other o pointer, t.event = .transfer other o pointer → other = thread)
    : Within thread request (past ++ [t]) :=
  Since.goes_on within ⟨stays, own⟩

theorem Answered.goes_on {thread : Thread} {result : Result} {past : List (Turn Thread)}
    {t : Turn Thread} (answered : Answered thread result past) (stays : Stays thread t)
    (unused : ∀ other o pointer, t.event ≠ .transfer other o pointer)
    : Answered thread result (past ++ [t]) := by
  cases result with
  | stored value => exact Since.goes_on answered ⟨stays, unused⟩
  | written => exact Since.goes_on answered ⟨stays, unused⟩
  | busy => exact answered
  | ioErr => trivial

/-- A step that is none of the thread's, and no use of the bus, changes nothing for it. -/
theorem Explained.goes_on {s next : State Thread} {past : List (Turn Thread)} {thread : Thread}
    {t : Turn Thread} (explained : Explained s past thread)
    (phase : next.phase thread = s.phase thread) (pointer : next.pointer = s.pointer)
    (stays : Stays thread t) (unused : ∀ other o pointer, t.event ≠ .transfer other o pointer)
    : Explained next (past ++ [t]) thread := by
  have own : ∀ other o pointer, t.event = .transfer other o pointer → other = thread :=
    fun other o pointer used => (unused other o pointer used).elim
  unfold Explained at explained ⊢
  rw [phase, pointer]
  cases now : s.phase thread with
  | idle => trivial
  | addressing getter retry =>
      rw [now] at explained
      exact Within.goes_on explained stays own
  | reading getter retry =>
      rw [now] at explained
      exact ⟨explained.1, explained.2.goes_on stays own⟩
  | writing setter retry =>
      rw [now] at explained
      exact Within.goes_on explained stays own
  | releasing result =>
      rw [now] at explained
      exact Answered.goes_on explained stays unused

section Loops

variable {thread : Thread} {pointer : UInt8} {past : List (Turn Thread)} {o : I2cOutcome}

theorem tells_addressed {getter : Getter} (within : Within thread (.get getter) past)
    (addressed : o.transfers 1 = true → pointer = getter.register) (retry : Nat)
    : (getter.addressed retry o).Tells thread pointer past := by
  unfold Getter.addressed
  split
  · split
    · trivial
    · exact ⟨addressed ‹_›, within⟩
  · split
    · trivial
    · exact within

/-- No read is repeated: errno is never -1. -/
theorem tells_read {getter : Getter} {content : UInt16}
    (read : o.transfers 2 = true → Answered thread (.stored (getter.stored content)) past)
    (retry : Nat)
    : (getter.read retry o content).Tells thread pointer past := by
  unfold Getter.read
  split
  · rw [be16toh_ofMemory]
    exact read ‹_›
  · rw [if_pos (.inr o.errnoIsMinusOne_eq_false)]
    trivial

theorem tells_written {setter : Setter} (within : Within thread (.set setter true) past)
    (written : o.transfers 3 = true ∨ o.ret = 2 → Answered thread .written past) (retry : Nat)
    : (setter.written retry o).Tells thread pointer past := by
  unfold Setter.written
  split
  · exact written (.inl ‹_›)
  · split
    · split
      · exact written (.inr ‹_›)
      · trivial
    · exact within

end Loops

theorem exclusive_update [DecidableEq Thread] {s : State Thread} {thread : Thread}
    (others : ∀ other ≠ thread, s.phase other = .idle) (phase : Phase) (pointer : UInt8)
    (registers : UInt8 → UInt16)
    : State.Exclusive ⟨true, Function.update s.phase thread phase, pointer, registers⟩ := by
  intro other busy
  by_cases same : other = thread
  · subst same
    refine ⟨rfl, fun another differs => ?_⟩
    exact (Function.update_of_ne differs _ _).trans (others another differs)
  · exact (busy ((Function.update_of_ne same _ _).trans (others other same))).elim

theorem explained_of_idle {s : State Thread} {past : List (Turn Thread)} {thread : Thread}
    (idle : s.phase thread = .idle)
    : Explained s past thread := by
  unfold Explained
  rw [idle]
  trivial

theorem explained_update [DecidableEq Thread] {s : State Thread} {past : List (Turn Thread)}
    {thread : Thread} {phase : Phase} {pointer : UInt8} {registers : UInt8 → UInt16}
    {inuse : Bool} (tells : phase.Tells thread pointer past)
    : Explained ⟨inuse, Function.update s.phase thread phase, pointer, registers⟩ past thread := by
  simpa only [Explained, Function.update_self] using tells

/-- What holds of every state of a run and the past that led to it. -/
def Sound (past : List (Turn Thread)) (s : State Thread) : Prop :=
  s.Exclusive ∧ ∀ thread, Explained s past thread

section Keeping

variable [DecidableEq Thread] {s next : State Thread} {past : List (Turn Thread)}
  {thread : Thread} {output : Option Result}

theorem Sound.call {request : Request} (sound : Sound past s)
    (taken : s.step (.call thread request) = some (next, output))
    : Sound (past ++ [⟨s, .call thread request, output, next⟩]) next := by
  obtain ⟨exclusive, explained⟩ := sound
  have idle : s.phase thread = .idle := by
    cases now : s.phase thread <;> simp only [State.step, now, reduceCtorEq] at taken ⊢
  simp only [State.step, idle] at taken
  have others : ∀ other, other ≠ thread →
      Stays other (⟨s, .call thread request, output, next⟩ : Turn Thread) := by
    intro other differs
    refine ⟨fun request' same => differs (Event.call.inj same).1.symm, nofun⟩
  split at taken
  · obtain ⟨rfl, rfl⟩ := Prod.mk.inj (Option.some.inj taken)
    refine ⟨exclusive, fun other => ?_⟩
    by_cases same : other = thread
    · exact explained_of_idle (same ▸ idle)
    · exact (explained other).goes_on rfl rfl (others other same) nofun
  · rename_i free
    obtain ⟨rfl, rfl⟩ := Prod.mk.inj (Option.some.inj taken)
    have unused : ∀ other, s.phase other = .idle := by
      intro other
      by_contra busy
      exact free (exclusive other busy).1
    refine ⟨exclusive_update (fun other _ => unused other) _ _ _, fun other => ?_⟩
    by_cases same : other = thread
    · subst same
      have entered (next : State Thread)
          : Within other request (past ++ [⟨s, .call other request, none, next⟩]) :=
        since_now ⟨rfl, rfl⟩
      refine explained_update ?_
      cases request with
      | get getter => exact entered _
      | set setter allocates =>
          cases allocates with
          | true => exact entered _
          | false => exact trivial
    · exact explained_of_idle ((Function.update_of_ne same _ _).trans (unused other))

theorem Sound.release (sound : Sound past s)
    (taken : s.step (.release thread) = some (next, output))
    : Sound (past ++ [⟨s, .release thread, output, next⟩]) next := by
  obtain ⟨exclusive, -⟩ := sound
  cases now : s.phase thread with
  | releasing result =>
      simp only [State.step, now] at taken
      obtain ⟨rfl, rfl⟩ := Prod.mk.inj (Option.some.inj taken)
      have unused : ∀ other, Function.update s.phase thread .idle other = .idle := by
        intro other
        by_cases same : other = thread
        · rw [same, Function.update_self]
        · rw [Function.update_of_ne same]
          exact (exclusive thread (by rw [now]; nofun)).2 other same
      exact ⟨fun other busy => (busy (unused other)).elim,
        fun other => explained_of_idle (unused other)⟩
  | idle | addressing | reading | writing =>
      simp only [State.step, now] at taken
      exact nomatch taken

theorem Sound.transfer {o : I2cOutcome} {pointer : UInt8} (sound : Sound past s)
    (taken : s.step (.transfer thread o pointer) = some (next, output))
    : Sound (past ++ [⟨s, .transfer thread o pointer, output, next⟩]) next := by
  obtain ⟨exclusive, explained⟩ := sound
  have busy : s.phase thread ≠ .idle := by
    intro idle
    simp only [State.step, idle] at taken
    exact nomatch taken
  obtain ⟨inuse, others⟩ := exclusive thread busy
  -- it is the only one that has used the bus since its call
  have goes_on {request : Request} (within : Within thread request past)
      : Within thread request (past ++ [⟨s, .transfer thread o pointer, output, next⟩]) :=
    within.goes_on ⟨nofun, nofun⟩ fun other o' pointer' same =>
      (Event.transfer.inj same).1.symm
  have settle {phase : Phase} {pointer' : UInt8} {registers : UInt8 → UInt16}
      (shape : next = ⟨s.inuse, Function.update s.phase thread phase, pointer', registers⟩)
      (tells : phase.Tells thread pointer'
        (past ++ [⟨s, .transfer thread o pointer, output, next⟩]))
      : Sound (past ++ [⟨s, .transfer thread o pointer, output, next⟩]) next := by
    refine ⟨?_, fun other => ?_⟩
    · rw [shape, inuse]
      exact exclusive_update others _ _ _
    · by_cases same : other = thread
      · subst same
        have there : Explained ⟨s.inuse, Function.update s.phase other phase, pointer', registers⟩
            (past ++ [⟨s, .transfer other o pointer, output, next⟩]) other :=
          explained_update tells
        rwa [← shape] at there
      · refine explained_of_idle ?_
        rw [shape]
        exact (Function.update_of_ne same _ _).trans (others other same)
  have mine := explained thread
  unfold Explained at mine
  cases now : s.phase thread with
  | idle => exact (busy now).elim
  | releasing result =>
      simp only [State.step, now] at taken
      exact nomatch taken
  | addressing getter retry =>
      rw [now] at mine
      simp only [State.step, now] at taken
      split at taken
      · exact nomatch taken
      · obtain ⟨rfl, rfl⟩ := Prod.mk.inj (Option.some.inj taken)
        exact settle rfl (tells_addressed (goes_on mine) (fun whole => if_pos whole) retry)
  | reading getter retry =>
      rw [now] at mine
      simp only [State.step, now] at taken
      split at taken
      · exact nomatch taken
      · obtain ⟨rfl, rfl⟩ := Prod.mk.inj (Option.some.inj taken)
        refine settle rfl (tells_read (fun whole => since_now ?_) retry)
        exact ⟨getter, o, pointer, rfl, whole, mine.2, by rw [mine.1]⟩
  | writing setter retry =>
      rw [now] at mine
      simp only [State.step, now] at taken
      split at taken
      · exact nomatch taken
      · obtain ⟨rfl, rfl⟩ := Prod.mk.inj (Option.some.inj taken)
        refine settle rfl (tells_written (goes_on mine) ?_ retry)
        rintro (whole | short)
        · refine since_now ⟨setter, o, pointer, rfl, mine, .inl ?_⟩
          simp only [whole, if_true, Function.update_self, bytes_be16toh]
        · exact since_now ⟨setter, o, pointer, rfl, mine, .inr short⟩

theorem Sound.measure {register : UInt8} {content : UInt16} (sound : Sound past s)
    (taken : s.step (.measure register content) = some (next, output))
    : Sound (past ++ [⟨s, .measure register content, output, next⟩]) next := by
  obtain ⟨rfl, rfl⟩ := Prod.mk.inj (Option.some.inj taken)
  refine ⟨sound.1, fun other => ?_⟩
  exact (sound.2 other).goes_on rfl rfl ⟨nofun, nofun⟩ nofun

theorem sound_of_run {pointer : UInt8} {registers : UInt8 → UInt16}
    (run : Run State.step (.initial pointer registers) past s)
    : Sound past s := by
  refine related_finish (R := Sound) ?_ run ⟨fun _ busy => (busy rfl).elim, fun _ => trivial⟩
  intro past state event next output sound taken
  cases event with
  | call thread request => exact sound.call taken
  | transfer thread o pointer => exact sound.transfer taken
  | release thread => exact sound.release taken
  | measure register content => exact sound.measure taken

/-- Whatever threads call the gauge and however their steps interleave, what a call returns is
its own: a value that was stored is the content of the register that the call names, in the
gauge's byte order, at the last use of the bus, which was the call's and after its start; and a
register that is reported written was written by the call, but for a write of two bytes.
-/
theorem results_own {pointer : UInt8} {registers : UInt8 → UInt16} {result : Result}
    (run : Run State.step (.initial pointer registers) past s)
    (taken : s.step (.release thread) = some (next, some result))
    : Answered thread result past := by
  have explained := (sound_of_run run).2 thread
  unfold Explained at explained
  cases now : s.phase thread with
  | releasing returned =>
      rw [now] at explained
      simp only [State.step, now] at taken
      obtain rfl : returned = result := Option.some.inj (Prod.mk.inj (Option.some.inj taken)).2
      exact explained
  | idle | addressing | reading | writing =>
      simp only [State.step, now] at taken
      exact nomatch taken

end Keeping

/-- Another thread's call is refused between the two transfers of the first one's. -/
def percentRead : List (Event Bool) :=
  [
    .call true (.get fuelGaugeGetChargePercent), .transfer true ⟨-1, 0⟩ 0,
    .transfer true ⟨1, 0⟩ 0, .call false (.get fuelGaugeGetBatteryVoltage),
    .measure 0x04 0x6280, .transfer true ⟨2, 0⟩ 0
  ]

theorem results_own_percent
    : Answered true (.stored 0x62)
        (replay State.step (.initial 0 fun _ => 0) percentRead).1 :=
  results_own (replay_run _ percentRead) rfl

end Reconn.Power.FuelGauge
