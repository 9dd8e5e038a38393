import Reconn.Client.ReceiveBound
import Reconn.Iphoned.Framing

/-! The way of the inserted iPhone's packets to its client task. The monitor thread passes what
the daemon reports to insertedMasterRead of clientApp.c, which sends it into the socket that
the client task receives from. The monitor thread and the client task go on in any order, also
while a send() has put only a part of its bytes into the socket.
-/

namespace Reconn.Client.InsertedMaster

open TransitionRuns
open Iphoned (msgReportData msgReportIphonePresence processByte processrx processmsgCalls sockMsg)

/-- What is passed to the rx callback. -/
def callbacks (events : List Iphoned.Event) : List (List UInt8) :=
  events.filterMap fun
    | .rxcallbackfn data _ => some data
    | .write _ _ | .read _ _ | .processmsg _ _ | .presencechangecallbackfn => none

structure System where
  iphoned : Iphoned.State
  /-- insertedMasterSocketFd is not -1 -/
  connected : Bool
  /-- what the monitor thread has still to send, call by call -/
  sending : List (List UInt8)
  client : Receive.State

deriving instance DecidableEq for Receive.Event

inductive Event where
  /-- the monitor thread has received bytes from the daemon -/
  | monitor (chunk : List UInt8)
  /-- its send() puts so many bytes into the socket, and returns when these are all -/
  | sends (count : Nat)
  /-- its send() fails, or returns before it has sent all bytes -/
  | sendFails
  /-- something happens at the client task's end of the socket -/
  | client (event : Receive.Event)
  deriving DecidableEq

/-- insertedMasterRead: the result of sendSocket() is not looked at. -/
def insertedMasterRead (s : System) (dataPtr : List UInt8) : System :=
  if s.connected then { s with sending := s.sending ++ [dataPtr] } else s

namespace System

/-- A step hands packets and read errors to the loop of the client task. -/
def step (heap : Nat → Nat → UInt8) (s : System) : Event → Option (System × List Received)
  | .monitor chunk =>
      if s.sending ≠ [] then none
      else
        let parsed := processrx heap s.iphoned chunk
        some ((callbacks parsed.2).foldl insertedMasterRead { s with iphoned := parsed.1 }, [])
  | .sends count =>
      match s.sending with
      | [] => none
      | data :: later =>
          (s.client.step (.arrive (data.take count))).map fun (client, _) =>
            let left := if data.length ≤ count then later else data.drop count :: later
            ({ s with client, sending := left }, [])
  | .sendFails =>
      match s.sending with
      | [] => none
      | _ :: later => some ({ s with sending := later }, [])
  -- Only insertedMasterRead sends into the socket, and fromLibToClientfd stays open.
  | .client (.arrive _) | .client .peerCloses => none
  | .client event =>
      (s.client.step event).map fun (client, output) =>
        ({ s with client }, Receive.handedBy output)

end System

abbrev Step := Transition System Event (List Received)

/-- The bytes that the daemon has sent. -/
def fromDaemon (transitions : List Step) : List UInt8 :=
  transitions.flatMap fun t =>
    match t.event with
    | .monitor chunk => chunk
    | .sends _ | .sendFails | .client _ => []

/-- What was handed to the loop of the client task. -/
def handed (transitions : List Step) : List Received := transitions.flatMap Transition.output

/-- A message of the daemon: bytes that the iPhone has sent, or something else. -/
inductive Message where
  | data (bytes : List UInt8)
  | other (cmdid : UInt8) (outbuf : List UInt8)

namespace Message

def cmdid : Message → UInt8
  | .data _ => msgReportData
  | .other cmdid _ => cmdid

def outbuf : Message → List UInt8
  | .data bytes => bytes
  | .other _ outbuf => outbuf

/-- The bytes of a report of data. -/
def data? : Message → Option (List UInt8)
  | .data bytes => some bytes
  | .other _ _ => none

/-- The length bytes can hold the message's length, and it does not tell that the iPhone was
extracted.
-/
structure Proper (message : Message) : Prop where
  fits : message.outbuf.length + 1 ≤ 65535
  data : message.cmdid = msgReportData → message.data?.isSome = true
  stays : message.cmdid = msgReportIphonePresence → message.outbuf = [1]

end Message

/-- The messages as the daemon frames them, which is what send_sock_msg does on the other
side.
-/
def frames (messages : List Message) : List UInt8 :=
  messages.flatMap fun message => sockMsg message.cmdid message.outbuf

-----------------------------------------------------------------------------------------
-- From the daemon to the callback
-----------------------------------------------------------------------------------------

/-- What a call of processmsg passes to the callback. -/
def report : List UInt8 × Nat → Option (List UInt8)
  | (cmdid :: data, _) => if cmdid = msgReportData then some data else none
  | ([], _) => none

theorem callbacks_append (first second : List Iphoned.Event)
    : callbacks (first ++ second) = callbacks first ++ callbacks second :=
  List.filterMap_append ..

section Parser

open Iphoned

variable {heap : Nat → Nat → UInt8}

/-- A report of data is passed on without its command. -/
theorem callbacks_processmsg {s : Receiver} (registered : s.rxcallbackfn = true)
    (packet : Iphoned.Packet) (len : Nat)
    : callbacks (s.processmsg packet (len + 1)).2
      = (report (packet.take (len + 1), len + 1)).toList := by
  have whole : packet.take (len + 1)
      = packet.bytes 0 :: (List.range len).map fun index => packet.bytes (index + 1) := by
    rw [Packet.take, List.range_succ_eq_map, List.map_cons, List.map_map]
    rfl
  rw [whole, report]
  unfold Receiver.processmsg
  by_cases data : packet.bytes 0 = msgReportData
  · have other : packet.bytes 0 ≠ msgReportIphonePresence := by
      rw [data]
      decide
    rw [if_pos data]
    dsimp only
    rw [if_neg other, if_pos data, Receiver.processMsgReportData, if_pos registered]
    rfl
  · rw [if_neg data]
    dsimp only
    split_ifs with presence
    · unfold Receiver.processMsgReportIphonePresence
      dsimp only
      split_ifs <;> rfl
    · rfl

/-- Every packet that was handed to processmsg has a command. -/
def Commanded (events : List Iphoned.Event) : Prop :=
  ∀ call ∈ processmsgCalls events, call.2 ≠ 0

/-- The callback stays registered, and gets what the packets report. -/
def Reports (s : Receiver) (result : Receiver × List Iphoned.Event) : Prop :=
  s.rxcallbackfn = true → Commanded result.2
    → result.1.rxcallbackfn = true
      ∧ callbacks result.2 = (processmsgCalls result.2).filterMap report

theorem reports_nothing {s : Receiver} {result : Receiver × List Iphoned.Event}
    (kept : result.1.rxcallbackfn = s.rxcallbackfn) (quiet : callbacks result.2 = [])
    (calls : processmsgCalls result.2 = [])
    : Reports s result := by
  intro registered _
  rw [kept, quiet, calls]
  exact ⟨registered, rfl⟩

theorem advance_quiet (s : Receiver) (currbyte : UInt8) (ctrlbyte : Bool)
    : (s.advance heap currbyte ctrlbyte).1.rxcallbackfn = s.rxcallbackfn
      ∧ callbacks (s.advance heap currbyte ctrlbyte).2 = []
      ∧ processmsgCalls (s.advance heap currbyte ctrlbyte).2 = [] := by
  unfold Receiver.advance
  split_ifs <;> exact ⟨rfl, rfl, rfl⟩

theorem complete_reports (s : Receiver) : Reports s s.complete := by
  unfold Receiver.complete
  split_ifs
  · intro registered commanded
    have calls := Receiver.processmsgCalls_processmsg s (s.currpkt.getD .null) s.msglen
    have some : s.msglen ≠ 0 := by
      refine commanded ((s.currpkt.getD .null).take s.msglen, s.msglen) ?_
      dsimp only
      rw [calls]
      exact List.mem_singleton_self _
    obtain ⟨len, length⟩ := Nat.exists_eq_succ_of_ne_zero some
    refine ⟨?_, ?_⟩
    · dsimp only
      unfold Receiver.processmsg Receiver.processMsgReportIphonePresence
      dsimp only
      split_ifs <;> exact registered
    · dsimp only
      rw [calls, length, callbacks_processmsg registered]
      rw [List.filterMap_cons, List.filterMap_nil]
      cases report ((s.currpkt.getD .null).take (len + 1), len + 1) <;> rfl
  · exact reports_nothing rfl rfl rfl

theorem Reports.append {s : Receiver} {first second : Receiver × List Iphoned.Event}
    (reports : Reports s first) (later : Reports first.1 second)
    : Reports s (second.1, first.2 ++ second.2) := by
  intro registered commanded
  have split : processmsgCalls (first.2 ++ second.2)
      = processmsgCalls first.2 ++ processmsgCalls second.2 := processmsgCalls_append ..
  have both := fun call => commanded call
  dsimp only at both ⊢
  rw [split] at both
  obtain ⟨kept, now⟩ := reports registered fun call member =>
    both call (List.mem_append_left _ member)
  obtain ⟨still, then_⟩ := later kept fun call member =>
    both call (List.mem_append_right _ member)
  rw [callbacks_append, now, then_, split, List.filterMap_append]
  exact ⟨still, rfl⟩

/-- A byte passes to the callback what the packets report. -/
theorem processByte_reports (s : Iphoned.State) (byte : UInt8)
    : Reports s.receiver
        ((processByte heap s byte).1.receiver, (processByte heap s byte).2) := by
  have decoded (currbyte : UInt8) (ctrlbyte : Bool)
      : Reports s.receiver (s.receiver.processDecoded heap currbyte ctrlbyte) := by
    obtain ⟨kept, quiet, calls⟩ := @advance_quiet heap s.receiver currbyte ctrlbyte
    exact (reports_nothing kept quiet calls).append (complete_reports _)
  unfold processByte
  dsimp only
  split_ifs
  · exact decoded byte false
  · exact reports_nothing rfl rfl rfl
  · exact decoded startByte true
  · exact decoded byte false

/-- So do received bytes, by induction on them. -/
theorem processrx_reports (s : Iphoned.State) (inbuf : List UInt8)
    : Reports s.receiver ((processrx heap s inbuf).1.receiver, (processrx heap s inbuf).2) := by
  induction inbuf generalizing s with
  | nil => exact reports_nothing rfl rfl rfl
  | cons byte rest ih =>
      exact (processByte_reports s byte).append (ih (processByte heap s byte).1)

theorem processrx_append (s : Iphoned.State) (first second : List UInt8)
    : processrx heap s (first ++ second)
      = ((processrx heap (processrx heap s first).1 second).1,
          (processrx heap s first).2
          ++ (processrx heap (processrx heap s first).1 second).2) :=
  MealyRuns.run_append _ _ _ _

/-- The calls of processmsg for whole messages. -/
theorem processmsgCalls_frames {s : Iphoned.State} (unescaped : s.isEscaped = false)
    {messages : List Message} (proper : ∀ message ∈ messages, message.Proper)
    : processmsgCalls (processrx heap s (frames messages)).2
      = messages.map fun message =>
          (message.cmdid :: message.outbuf, message.outbuf.length + 1) := by
  have sent : [frames messages].flatten = Iphoned.frames 0 (fun _ => 0)
      (messages.map fun message => (message.cmdid, message.outbuf)) := by
    simp [frames, Iphoned.frames, sendSockMsg, List.flatMap_map]
  have calls := (frames_roundTrip heap s 0 (fun _ => 0) _ [frames messages] unescaped (by decide)
    (by simpa using fun message member => (proper message member).fits) sent).1
  rwa [processChunks_eq, List.flatten_singleton, List.map_map] at calls

/-- What a message passes to the callback. -/
theorem report_message {message : Message} (proper : message.Proper)
    : report (message.cmdid :: message.outbuf, message.outbuf.length + 1) = message.data? := by
  cases message with
  | data bytes => rfl
  | other cmdid outbuf =>
      refine if_neg fun data => ?_
      exact Bool.false_ne_true (proper.data data)

/-- While the messages come in, the callback gets the first reports of data, and all of them
when all messages have come in.
-/
theorem callbacks_of_starts {s : Iphoned.State} (unescaped : s.isEscaped = false)
    (registered : s.receiver.rxcallbackfn = true) {messages : List Message}
    (proper : ∀ message ∈ messages, message.Proper) {bytes : List UInt8}
    (starts : bytes <+: frames messages)
    : callbacks (processrx heap s bytes).2 <+: messages.filterMap Message.data?
      ∧ (bytes = frames messages
        → callbacks (processrx heap s bytes).2 = messages.filterMap Message.data?) := by
  have calls := @processmsgCalls_frames heap s unescaped messages proper
  have split : processmsgCalls (processrx heap s bytes).2
      <+: processmsgCalls (processrx heap s (frames messages)).2 := by
    obtain ⟨rest, whole⟩ := starts
    rw [← whole, processrx_append, processmsgCalls_append]
    exact List.prefix_append _ _
  have commanded : Commanded (processrx heap s bytes).2 := by
    intro call member
    have called := split.subset member
    rw [calls] at called
    obtain ⟨message, -, rfl⟩ := List.mem_map.mp called
    exact Nat.succ_ne_zero _
  have told := (processrx_reports s bytes registered commanded).2
  have reported : (processmsgCalls (processrx heap s (frames messages)).2).filterMap report
      = messages.filterMap Message.data? := by
    rw [calls, List.filterMap_map]
    exact List.filterMap_congr fun message member => report_message (proper message member)
  dsimp only at told
  constructor
  · rw [told, ← reported]
    exact split.filterMap report
  · rintro rfl
    exact told.trans reported

end Parser

-----------------------------------------------------------------------------------------
-- From the callback to the client task
-----------------------------------------------------------------------------------------

/-- A step of the client task's socket does not close the other side of it. -/
theorem client_closed {s next : Receive.State} {event : Receive.Event} {output : Receive.Output}
    (stays : event ≠ .peerCloses) (taken : s.step event = some (next, output))
    : next.socket.closed = s.socket.closed := by
  cases event with
  | arrive segment =>
      obtain ⟨-, same⟩ := Option.ite_none_left_eq_some.mp taken
      obtain ⟨rfl, -⟩ := Prod.mk.inj (Option.some.inj same)
      rfl
  | setMode nonBlocking =>
      obtain ⟨rfl, -⟩ := Prod.mk.inj (Option.some.inj taken)
      rfl
  | peerCloses => exact absurd rfl stays
  | recv =>
      simp only [Receive.State.step, Option.bind_eq_some_iff, Option.map_eq_some_iff] at taken
      obtain ⟨size, -, ⟨received, socket⟩, recv, same⟩ := taken
      have after := Receive.afterRecv_socket { s with socket } received
      dsimp only at same after
      rw [same] at after
      rw [after]
      unfold Receive.Socket.recv at recv
      split_ifs at recv <;> obtain ⟨-, rfl⟩ := Prod.mk.inj (Option.some.inj recv) <;> rfl
  | recvFails =>
      simp only [Receive.State.step, Option.map_eq_some_iff] at taken
      obtain ⟨size, -, same⟩ := taken
      have after := Receive.afterRecv_socket s .error
      rw [same] at after
      rw [after]

section Pipeline

variable {heap : Nat → Nat → UInt8} {start : Iphoned.State} {messages : List Message}
  {packets : List Packet}

/-- The callback sends report behind report, by induction on them. -/
theorem foldl_insertedMasterRead {s : System} (connected : s.connected = true)
    (reports : List (List UInt8))
    : reports.foldl insertedMasterRead s = { s with sending := s.sending ++ reports } := by
  induction reports generalizing s with
  | nil => rw [List.append_nil, List.foldl_nil]
  | cons data reports ih =>
      have first : insertedMasterRead s data = { s with sending := s.sending ++ [data] } :=
        if_pos connected
      rw [List.foldl_cons, first, @ih { s with sending := s.sending ++ [data] } connected,
        List.append_assoc]
      rfl

/-- What was received and handed over, and what is on its way: the bytes of the packets that the
client task has still to read are in its socket, in the reports that are being sent, and in those
that the callback has not got yet.
-/
structure OnTheWay (heap : Nat → Nat → UInt8) (start : Iphoned.State) (packets : List Packet)
    (s : System) (bytes : List UInt8) (handed : List Received)
    : Prop where
  parsed : s.iphoned = (processrx heap start bytes).1
  connected : s.connected = true
  opened : s.client.socket.closed = false
  packets : ∃ later done rest,
    (callbacks (processrx heap start bytes).2).flatten ++ later = packets.flatMap Packet.wire
    ∧ packets = done ++ rest ∧ handed = done.map .packet
    ∧ Receive.InStep (s.sending.flatten ++ later) s.client rest

/-- The monitor thread has nothing to send any more, and receives something. -/
theorem OnTheWay.monitor {s : System} {bytes chunk : List UInt8} {handed : List Received}
    (unescaped : start.isEscaped = false) (registered : start.receiver.rxcallbackfn = true)
    (proper : ∀ message ∈ messages, message.Proper)
    (carried : (messages.filterMap Message.data?).flatten = packets.flatMap Packet.wire)
    (way : OnTheWay heap start packets s bytes handed) (sent : s.sending = [])
    (starts : bytes ++ chunk <+: frames messages)
    : OnTheWay heap start packets
        ((callbacks (processrx heap s.iphoned chunk).2).foldl insertedMasterRead
          { s with iphoned := (processrx heap s.iphoned chunk).1 })
        (bytes ++ chunk) handed := by
  obtain ⟨parsed, connected, opened, later, done, rest, total, split, handed, inStep⟩ := way
  obtain ⟨others, all⟩ := (@callbacks_of_starts heap start unescaped registered messages proper _
    starts).1
  rw [@foldl_insertedMasterRead { s with iphoned := (processrx heap s.iphoned chunk).1 } connected,
    parsed]
  have now : (callbacks (processrx heap start (bytes ++ chunk)).2).flatten
      = (callbacks (processrx heap start bytes).2).flatten
        ++ (callbacks (processrx heap (processrx heap start bytes).1 chunk).2).flatten := by
    rw [processrx_append, callbacks_append, List.flatten_append]
  have behind : later
      = (callbacks (processrx heap (processrx heap start bytes).1 chunk).2).flatten
        ++ others.flatten := by
    refine (List.append_right_inj (callbacks (processrx heap start bytes).2).flatten).mp ?_
    rw [total, ← carried, ← all, List.flatten_append, now, List.append_assoc]
  refine ⟨by rw [processrx_append], connected, opened, others.flatten, done, rest, ?_, split,
    handed, ?_⟩
  · rw [← carried, ← all, List.flatten_append]
  · simpa [sent, behind] using inStep

/-- The client task's socket goes on, and takes what arrives there off what is being sent. -/
theorem OnTheWay.client {s : System} {bytes : List UInt8} {handed : List Received}
    {event : Receive.Event} {next : Receive.State} {output : Receive.Output}
    {sending : List (List UInt8)} (wellFormed : ∀ p ∈ packets, p.WellFormed)
    (way : OnTheWay heap start packets s bytes handed)
    (sent : s.sending.flatten = Receive.arrived event ++ sending.flatten)
    (served : Receive.Served s.client event) (stays : event ≠ .peerCloses)
    (taken : s.client.step event = some (next, output))
    : OnTheWay heap start packets { s with client := next, sending } bytes
        (handed ++ Receive.handedBy output) := by
  obtain ⟨parsed, connected, opened, later, done, rest, total, split, handed, inStep⟩ := way
  rw [sent, List.append_assoc] at inStep
  have ahead : ∀ p ∈ rest, p.WellFormed := fun p member =>
    wellFormed p (split ▸ List.mem_append_right _ member)
  obtain ⟨now, still, rfl, brought, inStep⟩ := Receive.step_handsOver ahead inStep served taken
  refine ⟨parsed, connected, (client_closed stays taken).trans opened, later, done ++ now, still,
    total, ?_, ?_, inStep⟩
  · rw [split, List.append_assoc]
  · rw [handed, brought, List.map_append]

/-- A send() goes on. -/
theorem OnTheWay.sends {s next : System} {bytes : List UInt8} {handed output : List Received}
    {count : Nat} (wellFormed : ∀ p ∈ packets, p.WellFormed)
    (way : OnTheWay heap start packets s bytes handed)
    (taken : s.step heap (.sends count) = some (next, output))
    : OnTheWay heap start packets next bytes (handed ++ output) := by
  unfold System.step at taken
  cases under : s.sending with
  | nil =>
      rw [under] at taken
      cases taken
  | cons data later =>
      rw [under] at taken
      obtain ⟨⟨client, stores⟩, step, same⟩ := Option.map_eq_some_iff.mp taken
      obtain ⟨rfl, rfl⟩ := Prod.mk.inj same
      have quiet : Receive.handedBy stores = [] := by
        obtain ⟨-, same⟩ := Option.ite_none_left_eq_some.mp step
        obtain ⟨-, rfl⟩ := Prod.mk.inj (Option.some.inj same)
        rfl
      rw [← quiet]
      have served : Receive.Served s.client (.arrive (data.take count)) := trivial
      refine way.client wellFormed ?_ served (by simp) step
      rw [under, List.flatten_cons]
      split_ifs with whole
      · rw [Receive.arrived, List.take_of_length_le whole]
      · rw [Receive.arrived, List.flatten_cons, ← List.append_assoc, List.take_append_drop]

/-- No send() fails, and every recv() of the client task is served. -/
def Delivers (t : Step) : Prop :=
  match t.event with
  | .monitor _ | .sends _ => True
  | .sendFails => False
  | .client event => Receive.Served t.before.client event

instance decidableDelivers : (t : Step) → Decidable (Delivers t)
  | ⟨_, .monitor _, _, _⟩ | ⟨_, .sends _, _, _⟩ => .isTrue trivial
  | ⟨_, .sendFails, _, _⟩ => .isFalse id
  | ⟨before, .client event, _, _⟩ =>
      inferInstanceAs (Decidable (Receive.Served before.client event))

/-- Every step keeps what is on the way. -/
theorem OnTheWay.step {s next : System} {bytes : List UInt8} {past output : List Received}
    {event : Event} (unescaped : start.isEscaped = false)
    (registered : start.receiver.rxcallbackfn = true)
    (proper : ∀ message ∈ messages, message.Proper)
    (wellFormed : ∀ p ∈ packets, p.WellFormed)
    (carried : (messages.filterMap Message.data?).flatten = packets.flatMap Packet.wire)
    (way : OnTheWay heap start packets s bytes past)
    (taken : s.step heap event = some (next, output))
    (delivers : Delivers ⟨s, event, output, next⟩)
    (starts : bytes ++ fromDaemon [⟨s, event, output, next⟩] <+: frames messages)
    : OnTheWay heap start packets next (bytes ++ fromDaemon [⟨s, event, output, next⟩])
        (past ++ output) := by
  cases event with
  | monitor chunk =>
      simp only [System.step, ne_eq, ite_not] at taken
      obtain ⟨sent, same⟩ := Option.ite_none_right_eq_some.mp taken
      obtain ⟨rfl, rfl⟩ := Prod.mk.inj (Option.some.inj same)
      rw [List.append_nil]
      simp only [fromDaemon, List.flatMap_cons, List.flatMap_nil, List.append_nil] at starts ⊢
      exact way.monitor unescaped registered proper carried sent starts
  | sends count =>
      rw [fromDaemon, List.flatMap_singleton, List.append_nil]
      exact way.sends wellFormed taken
  | sendFails => exact delivers.elim
  | client event =>
      rw [fromDaemon, List.flatMap_singleton, List.append_nil]
      have moves {next : System} (taken : (s.client.step event).map (fun (client, output) =>
            ({ s with client }, Receive.handedBy output)) = some (next, output))
          (here : Receive.arrived event = []) (stays : event ≠ .peerCloses)
          : OnTheWay heap start packets next bytes (past ++ output) := by
        obtain ⟨⟨client, stores⟩, step, same⟩ := Option.map_eq_some_iff.mp taken
        obtain ⟨rfl, rfl⟩ := Prod.mk.inj same
        exact way.client wellFormed (by rw [here, List.nil_append]) delivers stays step
      cases event with
      | arrive | peerCloses => cases taken
      | setMode | recv | recvFails => exact moves taken rfl (by simp)

/-- So does every run, by induction on it. -/
theorem OnTheWay.run {s finish : System} {bytes : List UInt8} {past : List Received}
    {transitions : List Step} (unescaped : start.isEscaped = false)
    (registered : start.receiver.rxcallbackfn = true)
    (proper : ∀ message ∈ messages, message.Proper)
    (wellFormed : ∀ p ∈ packets, p.WellFormed)
    (carried : (messages.filterMap Message.data?).flatten = packets.flatMap Packet.wire)
    (way : OnTheWay heap start packets s bytes past)
    (run : Run (System.step heap) s transitions finish)
    (starts : bytes ++ fromDaemon transitions <+: frames messages)
    (delivers : ∀ t ∈ transitions, Delivers t)
    : OnTheWay heap start packets finish (bytes ++ fromDaemon transitions)
        (past ++ handed transitions) := by
  induction run generalizing bytes past with
  | nil =>
      rw [fromDaemon, handed, List.flatMap_nil, List.flatMap_nil, List.append_nil,
        List.append_nil]
      exact way
  | @cons s next finish event output rest taken _ ih =>
      obtain ⟨first, others⟩ := List.forall_mem_cons.mp delivers
      have here : fromDaemon (⟨s, event, output, next⟩ :: rest)
          = fromDaemon [⟨s, event, output, next⟩] ++ fromDaemon rest := by
        rw [fromDaemon, List.flatMap_cons, fromDaemon, List.flatMap_singleton]
        rfl
      rw [here, ← List.append_assoc] at starts ⊢
      rw [handed, List.flatMap_cons, ← List.append_assoc]
      refine ih ?_ starts others
      exact way.step unescaped registered proper wellFormed carried taken first
        ((List.prefix_append _ _).trans starts)

end Pipeline

/-- Packets that the inserted iPhone has sent, cut into whatever reports, come to the loop of the
client task in their order, none of them twice or changed, however the monitor thread receives
the reports and sends them on, as long as no send() fails and every recv() of the client task is
served; and when everything is sent and read, none is missing.
-/
theorem packets_reach_client {heap : Nat → Nat → UInt8} {start : Iphoned.State}
    {messages : List Message} {packets : List Packet} {transitions : List Step} {finish : System}
    (unescaped : start.isEscaped = false) (registered : start.receiver.rxcallbackfn = true)
    (proper : ∀ message ∈ messages, message.Proper)
    (wellFormed : ∀ p ∈ packets, p.WellFormed)
    (carried : (messages.filterMap Message.data?).flatten = packets.flatMap Packet.wire)
    (run : Run (System.step heap) ⟨start, true, [], .initial⟩ transitions finish)
    (starts : fromDaemon transitions <+: frames messages)
    (delivers : ∀ t ∈ transitions, Delivers t)
    : (∃ later, packets.map .packet = handed transitions ++ later)
      ∧ (fromDaemon transitions = frames messages → finish.sending = []
        → finish.client.socket.unread = []
        → handed transitions = packets.map .packet
          ∧ ∀ count loop, finish.client.progress ≠ .payload count loop) := by
  have initially : OnTheWay heap start packets ⟨start, true, [], .initial⟩ [] [] :=
    ⟨rfl, rfl, rfl, packets.flatMap Packet.wire, [], packets, rfl, rfl, rfl,
      .header rfl (fun _ _ => rfl) rfl⟩
  obtain ⟨-, -, -, later, done, rest, total, split, handed, inStep⟩ :=
    initially.run unescaped registered proper wellFormed carried run starts delivers
  rw [List.nil_append] at total handed
  rw [handed, split]
  refine ⟨⟨rest.map .packet, List.map_append⟩, fun whole sent read => ?_⟩
  have nothing : later = [] := by
    have all := (@callbacks_of_starts heap start unescaped registered messages proper _
      starts).2 whole
    rw [all, carried] at total
    exact List.append_right_eq_self.mp total
  rw [sent, nothing] at inStep
  obtain ⟨rfl, between⟩ := inStep.nothingLeft (.inl read)
  rw [List.append_nil]
  exact ⟨rfl, between⟩

/-- The iPhone is reported, and then the bytes of two packets, cut inside the second one. -/
def reported : List Message :=
  [.other msgReportIphonePresence [1], .data ((Receive.resign.wire ++ Receive.resign.wire).take 6),
    .data ((Receive.resign.wire ++ Receive.resign.wire).drop 6)]

/-- The monitor thread receives the messages in two parts, and sends the first report of data in
two parts.
-/
def inTwoParts : List Event :=
  [
    .monitor ((frames reported).take 9), .client (.setMode true), .client .recv,
    .monitor ((frames reported).drop 9), .sends 5, .client .recv, .sends 1, .sends 2,
    .client .recv
  ]

theorem packets_reach_client_inTwoParts
    : handed (replay (System.step fun _ _ => 0) ⟨.initial true true, true, [], .initial⟩
        inTwoParts).1
      = [Receive.resign, Receive.resign].map .packet := by
  have proper : ∀ message ∈ reported, message.Proper := by
    intro message member
    simp only [reported, List.mem_cons, List.not_mem_nil, or_false] at member
    rcases member with rfl | rfl | rfl
    · exact ⟨by decide, by decide, fun _ => rfl⟩
    · exact ⟨by decide, fun _ => rfl, by decide⟩
    · exact ⟨by decide, fun _ => rfl, by decide⟩
  have wellFormed : ∀ p ∈ [Receive.resign, Receive.resign], p.WellFormed := by
    simp [Receive.resign_wellFormed]
  exact ((packets_reach_client rfl rfl proper wellFormed (by decide) (replay_run _ inTwoParts)
    (by decide +kernel) (by decide +kernel)).2 (by decide +kernel) (by decide +kernel)
    (by decide +kernel)).1

end Reconn.Client.InsertedMaster
