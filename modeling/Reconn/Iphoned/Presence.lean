import Reconn.Iphoned.Monitor

/-! What the presence callback learns of the iPhone's presence. lastpresence remembers the
last report of the daemon, which is what the last callback saw; only a lost connection
changes the presence without a report.
-/

namespace Reconn.Iphoned

open TransitionRuns

namespace Receiver

/-- (s.Told value) holds if a callback is registered and `value` is what the last one saw, as
far as lastpresence can tell.
-/
structure Told (s : Receiver) (value : Int) : Prop where
  registered : s.presencechangecallbackfn = true
  last : value = if s.lastpresence = 1 then 0 else -1

/-- The receiver's part in the presence is unchanged. -/
structure SamePresence (s s' : Receiver) : Prop where
  iphoneconnected : s'.iphoneconnected = s.iphoneconnected
  lastpresence : s'.lastpresence = s.lastpresence
  presencechangecallbackfn : s'.presencechangecallbackfn = s.presencechangecallbackfn

/-- What a receiver with a callback makes of a presence byte. -/
structure Reported (s s' : Receiver) (presence : UInt8) (called : Prop) : Prop where
  iphoneconnected : s'.iphoneconnected = (presence == 1)
  lastpresence : s'.lastpresence = presence.toNat
  presencechangecallbackfn : s'.presencechangecallbackfn = s.presencechangecallbackfn
  called : called ↔ (presence.toNat : Int) ≠ s.lastpresence

/-- What some events do to the presence: nothing without a callback, or a report of one
byte.
-/
def Hears (s s' : Receiver) (events : List Event) : Prop :=
  (s.SamePresence s' ∧ .presencechangecallbackfn ∉ events)
    ∨ ∃ presence, s.Reported s' presence (.presencechangecallbackfn ∈ events)

variable {s s' s'' : Receiver} {events : List Event}

theorem SamePresence.refl (s : Receiver) : s.SamePresence s := ⟨rfl, rfl, rfl⟩

/-- The cascade up to a complete packet has nothing to do with the presence. -/
theorem advance_presence (heap : Nat → Nat → UInt8) (s : Receiver) (currbyte : UInt8)
    (ctrlbyte : Bool)
    : s.SamePresence (s.advance heap currbyte ctrlbyte).1
      ∧ .presencechangecallbackfn ∉ (s.advance heap currbyte ctrlbyte).2 := by
  unfold advance store
  dsimp only
  split_ifs <;> exact ⟨⟨rfl, rfl, rfl⟩, by simp⟩

/-- A complete packet reports a presence byte, or has nothing to do with the presence. -/
theorem processmsg_hears (registered : s.presencechangecallbackfn = true) (msgbuf : Packet)
    (len : Nat)
    : s.Hears (s.processmsg msgbuf len).1 (s.processmsg msgbuf len).2 := by
  unfold processmsg
  dsimp only
  split_ifs with presence data
  · refine .inr ⟨msgbuf.bytes 1, ?_⟩
    unfold processMsgReportIphonePresence
    dsimp only
    split_ifs with changed
    · exact ⟨rfl, rfl, rfl, by simp [changed]⟩
    · exact ⟨rfl, (not_not.mp changed).symm, rfl, by simpa using changed⟩
  · refine .inl ⟨.refl s, ?_⟩
    unfold processMsgReportData
    split_ifs <;> simp
  · exact .inl ⟨.refl s, by simp⟩

/-- What follows the cascade on a receiver that has the same presence is all that it does to
the presence.
-/
theorem SamePresence.hears {before : List Event} (same : s.SamePresence s')
    (silent : .presencechangecallbackfn ∉ before) (hears : s'.Hears s'' events)
    : s.Hears s'' (before ++ events) := by
  rcases hears with ⟨later, quiet⟩ | ⟨presence, reported⟩
  · refine .inl ⟨⟨?_, ?_, ?_⟩, by simp [silent, quiet]⟩
    · exact later.iphoneconnected.trans same.iphoneconnected
    · exact later.lastpresence.trans same.lastpresence
    · exact later.presencechangecallbackfn.trans same.presencechangecallbackfn
  · refine .inr ⟨presence, reported.iphoneconnected, reported.lastpresence, ?_, ?_⟩
    · exact reported.presencechangecallbackfn.trans same.presencechangecallbackfn
    · rw [← same.lastpresence, ← reported.called]
      simp [silent]

theorem complete_hears (registered : s.presencechangecallbackfn = true)
    : s.Hears s.complete.1 s.complete.2 := by
  unfold complete
  dsimp only
  split_ifs
  · rcases processmsg_hears registered (s.currpkt.getD .null) s.msglen with
      ⟨same, silent⟩ | ⟨presence, reported⟩
    · exact .inl ⟨⟨same.1, same.2, same.3⟩, silent⟩
    · exact .inr ⟨presence, reported.1, reported.2, reported.3, reported.4⟩
  · exact .inl ⟨.refl s, by simp⟩

theorem processDecoded_hears (registered : s.presencechangecallbackfn = true)
    (heap : Nat → Nat → UInt8) (currbyte : UInt8) (ctrlbyte : Bool)
    : s.Hears (s.processDecoded heap currbyte ctrlbyte).1
        (s.processDecoded heap currbyte ctrlbyte).2 := by
  obtain ⟨same, silent⟩ := s.advance_presence heap currbyte ctrlbyte
  exact same.hears silent
    (complete_hears (same.presencechangecallbackfn.trans registered))

end Receiver

open Receiver

theorem processByte_hears {s : State} (registered : s.receiver.presencechangecallbackfn = true)
    (heap : Nat → Nat → UInt8) (byte : UInt8)
    : s.receiver.Hears (processByte heap s byte).1.receiver (processByte heap s byte).2 := by
  unfold processByte
  dsimp only
  split_ifs
  · exact processDecoded_hears registered ..
  · exact .inl ⟨.refl _, by simp⟩
  · exact processDecoded_hears registered ..
  · exact processDecoded_hears registered ..

/-- What the last callback saw stays known to lastpresence, and a presence that was what it
saw stays so. Witness: a report without a callback repeats the last one.
-/
theorem Receiver.Told.hears {s s' : Receiver} {events : List Event} {value : Int}
    (told : s.Told value) (hears : s.Hears s' events)
    : s'.Told (if .presencechangecallbackfn ∈ events then s'.libiphonedIsiphonepresent else value)
      ∧ (s.libiphonedIsiphonepresent = value
        → s'.libiphonedIsiphonepresent
          = if .presencechangecallbackfn ∈ events then s'.libiphonedIsiphonepresent
            else value) := by
  rcases hears with ⟨same, silent⟩ | ⟨presence, reported⟩
  · rw [if_neg silent]
    refine ⟨⟨same.presencechangecallbackfn.trans told.registered, ?_⟩, fun known => ?_⟩
    · rw [same.lastpresence]
      exact told.last
    · rw [← known, libiphonedIsiphonepresent, same.iphoneconnected, libiphonedIsiphonepresent]
  · have present : s'.libiphonedIsiphonepresent = if s'.lastpresence = 1 then 0 else -1 := by
      have one : presence = 1 ↔ (presence.toNat : Int) = 1 := by
        have value : (1 : UInt8).toNat = 1 := rfl
        rw [← UInt8.toNat_inj, value]
        omega
      rw [libiphonedIsiphonepresent, reported.iphoneconnected, reported.lastpresence]
      simp [one]
    have registered := reported.presencechangecallbackfn.trans told.registered
    split_ifs with called
    · exact ⟨⟨registered, present⟩, fun _ => rfl⟩
    · have repeated : (presence.toNat : Int) = s.lastpresence :=
        not_not.mp fun changed => called (reported.called.mpr changed)
      have same : value = s'.libiphonedIsiphonepresent := by
        rw [present, reported.lastpresence, repeated]
        exact told.last
      exact ⟨⟨registered, same.trans present⟩, fun _ => same.symm⟩

/-- A received buffer is reported like its bytes one after the other, by induction on it. -/
theorem processrx_told {heap : Nat → Nat → UInt8} {s : State} {value : Int}
    (inbuf : List UInt8) (told : s.receiver.Told value)
    : let latest := (Monitor.presenceReports heap s inbuf).getLastD value
      (processrx heap s inbuf).1.receiver.Told latest
        ∧ (s.receiver.libiphonedIsiphonepresent = value
          → (processrx heap s inbuf).1.receiver.libiphonedIsiphonepresent = latest) := by
  induction inbuf generalizing s value with
  | nil => exact ⟨told, id⟩
  | cons byte rest ih =>
      obtain ⟨next, known⟩ := told.hears (processByte_hears told.registered heap byte)
      obtain ⟨later, last⟩ := ih next
      have unfolded : (processrx heap s (byte :: rest)).1
          = (processrx heap (processByte heap s byte).1 rest).1 := rfl
      have reports : (Monitor.presenceReports heap s (byte :: rest)).getLastD value
          = (Monitor.presenceReports heap (processByte heap s byte).1 rest).getLastD
              (if .presencechangecallbackfn ∈ (processByte heap s byte).2 then
                (processByte heap s byte).1.receiver.libiphonedIsiphonepresent
              else value) := by
        rw [Monitor.presenceReports]
        split_ifs
        · exact List.getLastD_cons
        · rfl
      dsimp only
      rw [unfolded, reports]
      exact ⟨later, fun faithful => last (known faithful)⟩

namespace Monitor

variable {heap : Nat → Nat → UInt8} {m m' : Monitor} {event : MonitorEvent}
  {reports : List Int}

/-- The event is the loss of the connection: recv fails in CONNECTED, and not by a timeout. -/
def Loses (m : Monitor) (event : MonitorEvent) : Prop :=
  event = .turn (.fails false) ∧ m.iphonedMonitorState = .connected
    ∧ ¬ (m.monitorthreadterminate ∧ m.iphonedFd ≠ -1)

/-- Only a received buffer and the loss of the connection change the parser's state. -/
theorem parser_step (taken : m.step heap event = some (m', reports))
    : (¬ m.Loses event
        ∧ ((m'.parser = m.parser ∧ reports = [])
          ∨ ∃ rxbuf, m'.parser = (processrx heap m.parser rxbuf).1
            ∧ reports = presenceReports heap m.parser rxbuf))
      ∨ (m.Loses event ∧ reports = []
        ∧ m'.parser.receiver = { m.parser.receiver with iphoneconnected := false }) := by
  cases event with
  | turn received =>
      simp only [step] at taken
      split_ifs at taken with top
      cases turned_of_turn taken with
      | terminates ends => exact .inl ⟨fun loses => loses.2.2 ends, .inl ⟨rfl, rfl⟩⟩
      | advances source target =>
          exact .inl ⟨fun loses => source loses.2.1, .inl ⟨rfl, rfl⟩⟩
      | tries waiting => exact .inl ⟨by simp [Loses, waiting], .inl ⟨rfl, rfl⟩⟩
      | waits silent => exact .inl ⟨by simp [Loses, silent], .inl ⟨rfl, rfl⟩⟩
      | loses connected goesOn => exact .inr ⟨⟨rfl, connected, goesOn⟩, rfl, rfl⟩
      | receives rxbuf => exact .inl ⟨by simp [Loses], .inr ⟨rxbuf, rfl, rfl⟩⟩
  | attempt socket connects =>
      obtain ⟨attempts, attempting, taken⟩ := Option.bind_eq_some_iff.mp taken
      split_ifs at taken
      obtain ⟨rfl, rfl⟩ := Prod.mk.inj (Option.some.inj taken)
      refine .inl ⟨by simp [Loses], .inl ⟨?_, rfl⟩⟩
      unfold tryConnect connectToIphoned
      dsimp only
      split_ifs <;> rfl
  | libiphonedStart | otherOpens fd | otherCloses fd =>
      simp only [step] at taken
      split_ifs at taken <;>
        obtain ⟨rfl, rfl⟩ := Prod.mk.inj (Option.some.inj taken) <;>
        exact .inl ⟨by simp [Loses], .inl ⟨rfl, rfl⟩⟩
  | stopIphonedMonitor =>
      obtain ⟨rfl, rfl⟩ := Prod.mk.inj (Option.some.inj taken)
      exact .inl ⟨by simp [Loses], .inl ⟨rfl, rfl⟩⟩

/-- The presence after a step is what the last callback saw. -/
def Faithful (value : Int) (t : Transition Monitor MonitorEvent (List Int)) : Prop :=
  t.after.parser.receiver.libiphonedIsiphonepresent = t.output.getLastD value

/-- A step keeps the presence faithful exactly if it does not lose the connection while the
iPhone is present.
-/
theorem faithful_iff {value : Int} (told : m.parser.receiver.Told value)
    (faithful : m.parser.receiver.libiphonedIsiphonepresent = value)
    (taken : m.step heap event = some (m', reports))
    : m'.parser.receiver.Told (reports.getLastD value)
      ∧ (m'.parser.receiver.libiphonedIsiphonepresent = reports.getLastD value
        ↔ (m.Loses event → m.parser.receiver.iphoneconnected = false)) := by
  rcases parser_step taken with ⟨keeps, ⟨parser, rfl⟩ | ⟨rxbuf, parser, rfl⟩⟩
    | ⟨loses, rfl, receiver⟩
  · rw [libiphonedIsiphonepresent, parser]
    exact ⟨told, iff_of_true faithful fun loses => absurd loses keeps⟩
  · rw [libiphonedIsiphonepresent, parser]
    obtain ⟨next, known⟩ := processrx_told rxbuf told
    exact ⟨next, iff_of_true (known faithful) fun loses => absurd loses keeps⟩
  · rw [libiphonedIsiphonepresent, receiver]
    refine ⟨⟨told.registered, told.last⟩, ?_⟩
    rw [imp_iff_right loses, List.getLastD_nil, ← faithful, libiphonedIsiphonepresent]
    cases m.parser.receiver.iphoneconnected <;> simp

/-- Over every run with a registered callback the presence is what the last callback saw,
exactly if no connection is lost while the iPhone is present.
-/
theorem faithful_throughout_iff {rxcallbackfn : Bool}
    {transitions : List (Transition Monitor MonitorEvent (List Int))} {finish : Monitor}
    (run : Runs heap (.initial rxcallbackfn true) transitions finish)
    : Throughout (fun value t => t.output.getLastD value) Faithful (-1) transitions
      ↔ ∀ t ∈ transitions, t.before.Loses t.event
          → t.before.parser.receiver.iphoneconnected = false := by
  let Related (value : Int) (m : Monitor) : Prop :=
    m.parser.receiver.Told value ∧ m.parser.receiver.libiphonedIsiphonepresent = value
  let Allowed (m : Monitor) (event : MonitorEvent) : Prop :=
    m.Loses event → m.parser.receiver.iphoneconnected = false
  have exactly (value : Int) (t : Transition Monitor MonitorEvent (List Int))
      (related : Related value t.before)
      (taken : t.before.step heap t.event = some (t.after, t.output))
      : Faithful value t ↔ Allowed t.before t.event :=
    (faithful_iff related.1 related.2 taken).2
  have keep (value : Int) (t : Transition Monitor MonitorEvent (List Int))
      (related : Related value t.before)
      (taken : t.before.step heap t.event = some (t.after, t.output))
      (allowed : Allowed t.before t.event)
      : Related (t.output.getLastD value) t.after :=
    ⟨(faithful_iff related.1 related.2 taken).1, (exactly value t related taken).mpr allowed⟩
  exact run.throughout_iff_allowed exactly keep (-1) ⟨⟨rfl, rfl⟩, rfl⟩

/-- The daemon reports a presence byte. -/
def presenceReport (presence : UInt8) : MonitorEvent :=
  .turn (.bytes [startByte, 0, 2, msgReportIphonePresence, presence])

/-- An iPhone that is reported absent before the connection is lost. -/
theorem faithful_absent
    : Throughout (fun value t => t.output.getLastD value) Faithful (-1)
        (replay (step fun _ _ => 0) (.initial true true)
          (starts
            ++ [
              .attempt 3 true,
              presenceReport 1,
              presenceReport 0,
              .turn (.fails false)
            ])).1 := by
  refine (faithful_throughout_iff (replay_run _ _)).mpr ?_
  refine forall_replay_cons rfl (by simp [Loses]) ?_
  refine forall_replay_cons rfl (by simp [Loses]) ?_
  refine forall_replay_cons rfl (by simp [Loses]) ?_
  refine forall_replay_cons rfl (by simp [Loses]) ?_
  refine forall_replay_cons rfl (by simp [Loses, presenceReport]) ?_
  refine forall_replay_cons rfl (by simp [Loses, presenceReport]) ?_
  exact forall_replay_cons rfl (fun _ => rfl) (forall_replay_nil _)

/-- A connection that is lost while the iPhone is present makes it absent without a
callback.
-/
theorem unfaithful_lost
    : ¬ ∀ transitions finish, Runs (fun _ _ => 0) (.initial true true) transitions finish
        → Throughout (fun value t => t.output.getLastD value) Faithful (-1) transitions := by
  intro always
  have faithful := always _ _
    (replay_run (initial true true)
      (starts ++ [.attempt 3 true, presenceReport 1, .turn (.fails false)]))
  rw [starts, List.cons_append, List.cons_append, List.cons_append, List.nil_append,
    throughout_replay_cons rfl, throughout_replay_cons rfl, throughout_replay_cons rfl,
    throughout_replay_cons rfl, throughout_replay_cons rfl, throughout_replay_cons rfl]
    at faithful
  have absent : (-1 : Int) = 0 := faithful.2.2.2.2.2.1
  exact absurd absent (by decide)

end Monitor

end Reconn.Iphoned
