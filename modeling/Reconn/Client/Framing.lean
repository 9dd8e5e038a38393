import Reconn.Client.Receive

/-! The packets that reach a client task against the packets sent to it: calls whose recv()s
are all served stay in step with the stream, and bytes left over by others are accounted for.
-/

namespace Reconn.Client.Receive

open TransitionRuns

-----------------------------------------------------------------------------------------
-- Calls that stay in step with the stream
-----------------------------------------------------------------------------------------

/-- The calls are in step with a stream on which these packets are still to be handed over,
when some of their bytes are unread and the others will arrive.
-/
inductive InStep (future : List UInt8) (s : State) : List Packet → Prop where
  | header {rest : List Packet} (here : s.progress = .header) (filled : Filled s [])
      (bytes : s.socket.unread ++ future = rest.flatMap Packet.wire)
      : InStep future s rest
  | payload {p : Packet} {rest : List Packet} {got missing : List UInt8}
      (here : s.progress = .payload p.pktLength got.length)
      (split : p.payload p.pktLength = got ++ missing) (more : missing ≠ [])
      (filled : Filled s (p.header ++ got))
      (bytes : s.socket.unread ++ future = missing ++ rest.flatMap Packet.wire)
      : InStep future s (p :: rest)
  | ended {rest : List Packet} (here : s.progress = .ended) (read : s.socket.unread = [])
      (closed : s.socket.closed = true) (bytes : future = rest.flatMap Packet.wire)
      : InStep future s rest

/-- What a step in step with the stream hands over comes off the packets still to be handed
over.
-/
def HandsOver (future : List UInt8) (rest : List Packet) (result : State × Output) : Prop :=
  ∃ done later, rest = done ++ later
    ∧ handedBy result.2 = done.map .packet
    ∧ InStep future result.1 later

section InStep

variable {future : List UInt8} {s : State}

/-- A step that hands over nothing. -/
theorem HandsOver.nothing {rest : List Packet} {result : State × Output}
    (quiet : handedBy result.2 = [])
    (inStep : InStep future result.1 rest)
    : HandsOver future rest result :=
  ⟨[], rest, rfl, quiet, inStep⟩

/-- After a stored byte, or a stored header, the packet is handed over when no byte of it is
missing.
-/
theorem payloadLoop_handsOver {p : Packet} {rest : List Packet} {got missing : List UInt8}
    (stores : List (Nat × UInt8)) (wellFormed : p.WellFormed)
    (split : p.payload p.pktLength = got ++ missing) (filled : Filled s (p.header ++ got))
    (bytes : s.socket.unread ++ future = missing ++ rest.flatMap Packet.wire)
    : HandsOver future (p :: rest) (s.payloadLoop stores p.pktLength got.length) := by
  have lengths : p.pktLength = got.length + missing.length := by
    simpa [Packet.payload] using congrArg List.length split
  unfold State.payloadLoop
  split_ifs with more
  · refine .nothing rfl (.payload rfl split ?_ filled bytes)
    rintro rfl
    simp only [List.length_nil] at lengths
    omega
  · have none : missing = [] := List.length_eq_zero_iff.mp (by omega)
    subst none
    have whole : s.packet = p := by
      rw [List.append_nil] at split
      exact Filled.packet (by rwa [Packet.wire, split]) wellFormed
    have fits : ¬ reconnPayloadSize < p.pktLength := Nat.not_lt.mpr wellFormed.fits
    refine ⟨[p], rest, rfl, by simp [State.returns, whole, handedBy, reported], ?_⟩
    simp only [State.returns, State.returned, whole, if_neg fits]
    exact .header rfl (nextCall_filled s) bytes

/-- The recv() of a header that finds nothing, or the header of the next packet. -/
theorem headerRecv_handsOver {rest : List Packet} (wellFormed : ∀ p ∈ rest, p.WellFormed)
    (here : s.progress = .header) (filled : Filled s [])
    (bytes : s.socket.unread ++ future = rest.flatMap Packet.wire)
    (served : s.socket.unread = []
      ∨ reconnPacketHeaderSize ≤ s.socket.unread.length)
    {result : State × Output} (taken : s.step .recv = some result)
    : HandsOver future rest result := by
  simp only [State.step, State.recvSize, here, Option.bind_some, Option.map_eq_some_iff]
    at taken
  obtain ⟨⟨received, socket⟩, recv, rfl⟩ := taken
  unfold Socket.recv at recv
  split_ifs at recv with unread closed nonBlocking
  · obtain ⟨rfl, rfl⟩ := Prod.mk.inj (Option.some.inj recv)
    have complete := served.resolve_left unread
    cases rest with
    | nil => simp [unread] at bytes
    | cons p rest =>
        have headerLength : p.header.length = reconnPacketHeaderSize := rfl
        rw [List.flatMap_cons, Packet.wire, List.append_assoc] at bytes
        have first : s.socket.unread.take reconnPacketHeaderSize = p.header := by
          have := congrArg (List.take reconnPacketHeaderSize) bytes
          rwa [List.take_append_of_le_length complete, ← headerLength,
            List.take_left] at this
        have others : s.socket.unread.drop reconnPacketHeaderSize ++ future
            = p.payload p.pktLength ++ rest.flatMap Packet.wire := by
          have := congrArg (List.drop reconnPacketHeaderSize) bytes
          rwa [List.drop_append_of_le_length complete, ← headerLength,
            List.drop_left] at this
        simp only [State.afterRecv, State.headerReceived, first, headerLength, ne_eq,
          not_true_eq_false, if_false]
        let unfilled : State := ⟨{
          s.socket with unread := s.socket.unread.drop reconnPacketHeaderSize
        }, s.buffer, .header⟩
        have stored : Filled (unfilled.store 0 p.header).1 (p.header ++ []) := by
          simpa using Filled.store (s := unfilled) filled p.header
        rw [stored.count]
        refine payloadLoop_handsOver _ (wellFormed p List.mem_cons_self) ?_ stored others
        rfl
  · obtain ⟨rfl, rfl⟩ := Prod.mk.inj (Option.some.inj recv)
    have read := not_ne_iff.mp unread
    simp only [State.afterRecv, State.headerReceived, State.returns, State.returned]
    exact .nothing rfl (.ended rfl read closed (by simpa [read] using bytes))
  · obtain ⟨rfl, rfl⟩ := Prod.mk.inj (Option.some.inj recv)
    simp only [State.afterRecv, State.headerReceived, State.returns, State.returned]
    exact .nothing rfl (.header rfl (nextCall_filled _) bytes)

/-- The recv() of the next byte of a payload. -/
theorem byteRecv_handsOver {p : Packet} {rest : List Packet} {got missing : List UInt8}
    (wellFormed : p.WellFormed) (here : s.progress = .payload p.pktLength got.length)
    (split : p.payload p.pktLength = got ++ missing) (more : missing ≠ [])
    (filled : Filled s (p.header ++ got))
    (bytes : s.socket.unread ++ future = missing ++ rest.flatMap Packet.wire)
    (served : s.socket.unread ≠ [])
    {result : State × Output} (taken : s.step .recv = some result)
    : HandsOver future (p :: rest) result := by
  simp only [State.step, State.recvSize, here, Option.bind_some, Socket.recv, if_pos served,
    Option.map_some, Option.some.injEq] at taken
  subst taken
  obtain ⟨byte, unread, found⟩ := List.exists_cons_of_ne_nil served
  obtain ⟨next, missing, rfl⟩ := List.exists_cons_of_ne_nil more
  rw [found, List.cons_append, List.cons_append, List.cons.injEq] at bytes
  obtain ⟨rfl, bytes⟩ := bytes
  simp only [State.afterRecv, State.byteReceived, found, List.take_succ_cons,
    List.take_zero, List.drop_succ_cons, List.drop_zero]
  let unfilled : State :=
    ⟨{ s.socket with unread }, s.buffer, .payload p.pktLength got.length⟩
  have stored := Filled.store (s := unfilled) filled [byte]
  have offset : (p.header ++ got).length = reconnPacketHeaderSize + got.length :=
    List.length_append
  have length : got.length + 1 = (got ++ [byte]).length := by simp
  rw [offset, List.append_assoc] at stored
  rw [length]
  exact payloadLoop_handsOver _ wellFormed (by simpa using split) stored bytes

/-- A step of a connection keeps its calls in step with the stream, if it is served. -/
theorem step_handsOver {event : Event} {rest : List Packet} {result : State × Output}
    (wellFormed : ∀ p ∈ rest, p.WellFormed)
    (inStep : InStep (arrived event ++ future) s rest) (served : Served s event)
    (taken : s.step event = some result)
    : HandsOver future rest result := by
  cases event with
  | arrive segment =>
      simp only [State.step] at taken
      split_ifs at taken with closed
      obtain rfl := Option.some.inj taken
      refine .nothing rfl ?_
      cases inStep with
      | header here filled bytes => exact .header here filled (by simpa [arrived] using bytes)
      | payload here split more filled bytes =>
          exact .payload here split more filled (by simpa [arrived] using bytes)
      | ended _ _ closed' _ => exact absurd closed' closed
  | setMode nonBlocking =>
      obtain rfl := Option.some.inj taken
      refine .nothing rfl ?_
      cases inStep with
      | header here filled bytes => exact .header here filled bytes
      | payload here split more filled bytes => exact .payload here split more filled bytes
      | ended here read closed bytes => exact .ended here read closed bytes
  | peerCloses =>
      obtain rfl := Option.some.inj taken
      refine .nothing rfl ?_
      cases inStep with
      | header here filled bytes => exact .header here filled bytes
      | payload here split more filled bytes => exact .payload here split more filled bytes
      | ended here read _ bytes => exact .ended here read rfl bytes
  | recv =>
      cases inStep with
      | header here filled bytes =>
          simp only [Served, here] at served
          exact headerRecv_handsOver wellFormed here filled bytes served taken
      | payload here split more filled bytes =>
          simp only [Served, here] at served
          exact byteRecv_handsOver (wellFormed _ List.mem_cons_self) here split more filled
            bytes served taken
      | ended here _ _ _ => simp [State.step, State.recvSize, here] at taken
  | recvFails => exact served.elim

/-- While every recv() is served, the packets handed over are the first ones of the stream,
by induction on the run.
-/
theorem run_handsOver {start finish : State} {transitions : List Step} {rest : List Packet}
    (run : Run State.step start transitions finish) (wellFormed : ∀ p ∈ rest, p.WellFormed)
    (inStep : InStep (delivered transitions) start rest)
    (served : ∀ t ∈ transitions, Served t.before t.event)
    : ∃ done later, rest = done ++ later ∧ handed transitions = done.map .packet
        ∧ InStep [] finish later := by
  induction run generalizing rest with
  | nil => exact ⟨[], rest, rfl, rfl, inStep⟩
  | cons taken _ ih =>
      obtain ⟨first, others⟩ := List.forall_mem_cons.mp served
      rw [delivered, List.flatMap_cons] at inStep
      obtain ⟨done, later, rfl, brought, next⟩ :=
        step_handsOver wellFormed inStep first taken
      obtain ⟨done', later', rfl, brought', last⟩ := ih
        (fun p member => wellFormed p (List.mem_append_right _ member)) next others
      refine ⟨done ++ done', later', (List.append_assoc ..).symm, ?_, last⟩
      rw [handed] at brought' ⊢
      rw [List.flatMap_cons, brought', List.map_append, ← brought]

/-- Nothing is left to hand over when all bytes are read and no call is under way. -/
theorem InStep.nothingLeft {later : List Packet} (inStep : InStep [] s later)
    (read : s.socket.unread = [] ∨ s.progress = .ended)
    : later = [] ∧ ∀ count loop, s.progress ≠ .payload count loop := by
  have wire_ne (p : Packet) : p.wire ≠ [] := List.cons_ne_nil _ _
  have nothing {rest : List Packet} (bytes : [] = rest.flatMap Packet.wire) : rest = [] := by
    cases rest with
    | nil => rfl
    | cons p rest => simp [wire_ne] at bytes
  cases inStep with
  | header here _ bytes =>
      have unread : s.socket.unread = [] := read.resolve_right (by simp [here])
      rw [unread] at bytes
      exact ⟨nothing bytes, by simp [here]⟩
  | payload here _ more _ bytes =>
      have unread : s.socket.unread = [] := read.resolve_right (by simp [here])
      rw [unread] at bytes
      exact absurd (List.append_eq_nil_iff.mp bytes.symm).1 more
  | ended here _ _ bytes => exact ⟨nothing bytes, by simp [here]⟩

end InStep

-----------------------------------------------------------------------------------------
-- How many bytes a call takes
-----------------------------------------------------------------------------------------

/-- The task is in the loop over a payload of the announced length. -/
structure Filling (s : State) (count loop : Nat) : Prop where
  here : s.progress = .payload count loop
  room : loop < count
  announced : s.count = count

/-- A call under way knows the length of its payload. -/
def Counting (s : State) : Prop :=
  ∀ count loop, s.progress = .payload count loop → Filling s count loop

/-- The bytes that the call under way should have taken. -/
def position (s : State) : Nat :=
  match s.progress with
  | .header | .ended => 0
  | .payload _ loop => reconnPacketHeaderSize + loop

/-- The bytes of a packet that is handed over. -/
def size : Received → Nat
  | .packet p => reconnPacketHeaderSize + p.pktLength
  | .closed | .failed | .wouldBlock => 0

/-- The bytes of all packets handed over. -/
def sizes (results : List Received) : Nat := (results.map size).sum

section Accounts

variable {s : State}

/-- Between two calls no payload is being received. -/
theorem returned_between (s : State) (received : Received)
    : Counting (s.returned received) ∧ position (s.returned received) = 0
      ∧ (s.returned received).socket = s.socket := by
  have between {s : State} (here : s.progress = .header ∨ s.progress = .ended)
      : Counting s ∧ position s = 0 := by
    rcases here with here | here <;> simp [Counting, position, here]
  cases received with
  | closed => exact ⟨(between (.inr rfl)).1, (between (.inr rfl)).2, rfl⟩
  | failed => exact ⟨(between (.inr rfl)).1, (between (.inr rfl)).2, rfl⟩
  | wouldBlock => exact ⟨(between (.inl rfl)).1, (between (.inl rfl)).2, rfl⟩
  | packet p =>
      simp only [State.returned]
      split_ifs
      · exact ⟨(between (.inr rfl)).1, (between (.inr rfl)).2, rfl⟩
      · exact ⟨(between (.inl rfl)).1, (between (.inl rfl)).2, rfl⟩

/-- Stores into the payload leave the announced length. -/
theorem store_count (s : State) (loop : Nat) (data : List UInt8)
    : (s.store (reconnPacketHeaderSize + loop) data).1.count = s.count := by
  have inHeader (index : Nat) (inside : index < reconnPacketHeaderSize)
      : index < reconnPacketHeaderSize + loop := Nat.lt_add_right loop inside
  simp only [State.count, store_buffer]
  rw [if_pos (inHeader 2 (by decide)), if_pos (inHeader 3 (by decide))]

/-- What one turn of the loop over a payload does: it goes on, or the call returns a packet
of the announced length.
-/
structure Looped (s : State) (stores : List (Nat × UInt8)) (count loop : Nat)
    (result : State × Output)
    : Prop where
  stores : result.2.stores = stores
  socket : result.1.socket = s.socket
  counting : Counting result.1
  position : sizes (handedBy result.2) + position result.1 = reconnPacketHeaderSize + loop
  ends : result.2.received = none ∧ Filling result.1 count loop
    ∨ loop = count ∧ ∃ p, result.2.received = some (.packet p) ∧ p.pktLength = count

theorem payloadLoop_looped (s : State) (stores : List (Nat × UInt8)) {count loop : Nat}
    (inside : loop ≤ count) (announced : s.count = count)
    : Looped s stores count loop (s.payloadLoop stores count loop) := by
  unfold State.payloadLoop
  split_ifs with more
  · refine ⟨rfl, rfl, ?_, Nat.zero_add _, .inl ⟨rfl, rfl, more, announced⟩⟩
    intro count' loop' here
    obtain ⟨rfl, rfl⟩ := Progress.payload.inj here
    exact ⟨rfl, more, announced⟩
  · obtain rfl : loop = count := by omega
    obtain ⟨counting, position, socket⟩ := returned_between s (.packet s.packet)
    refine ⟨rfl, socket, counting, ?_, .inr ⟨rfl, s.packet, rfl, announced⟩⟩
    have length : s.packet.pktLength = loop := announced
    have handed
        : handedBy (s.returns stores (.packet s.packet)).2 = [.packet s.packet] := rfl
    rw [handed, State.returns, position]
    simp [sizes, size, length]

/-- What the loop over a payload stores after a recv(). -/
def byteStores (loop : Nat) : RecvResult → List (Nat × UInt8)
  | .bytes data => data.mapIdx fun index byte => (reconnPacketHeaderSize + loop + index, byte)
  | .closed | .again | .error => []

/-- The recv() of a whole header begins a payload of the length it announces. -/
theorem headerRecv_looped (here : s.progress = .header) {b₀ b₁ b₂ b₃ : UInt8}
    {unread : List UInt8} (header : s.socket.unread = b₀ :: b₁ :: b₂ :: b₃ :: unread)
    {result : State × Output} (taken : s.step .recv = some result)
    : ∃ stored, stored.socket = { s.socket with unread }
      ∧ Looped stored [(0, b₀), (1, b₁), (2, b₂), (3, b₃)] (b₂.toNat * 256 + b₃.toNat) 0
        result := by
  simp only [State.step, State.recvSize, here, Option.bind_some, Socket.recv, header,
    ne_eq, reduceCtorEq, not_false_eq_true, if_true, Option.map_some, Option.some.injEq]
    at taken
  subst taken
  refine ⟨(State.store ⟨{ s.socket with unread }, s.buffer, .header⟩ 0 [b₀, b₁, b₂, b₃]).1,
    rfl, ?_⟩
  exact payloadLoop_looped _ _ (Nat.zero_le _) (by simp [State.count, store_buffer])

/-- A recv() of a byte of the payload is followed by the next turn of the loop, whatever it
has returned.
-/
theorem byteReceived_looped {count loop : Nat} (filling : Filling s count loop)
    (received : RecvResult)
    : ∃ stored, stored.socket = s.socket
      ∧ Looped stored (byteStores loop received) count (loop + 1)
        (s.byteReceived count loop received) := by
  cases received with
  | bytes data =>
      let stored := s.store (reconnPacketHeaderSize + loop) data
      refine ⟨stored.1, rfl, payloadLoop_looped stored.1 stored.2 filling.room ?_⟩
      rw [store_count, filling.announced]
  | closed | again | error =>
      exact ⟨s, rfl, payloadLoop_looped s [] filling.room filling.announced⟩

/-- The bytes that were unread or arrive are unread afterwards, or belong to the packet that
is handed over or under way; the latter has bytes of its own exactly if the step is not
served.
-/
structure Accounted (s : State) (event : Event) (result : State × Output) : Prop where
  counting : Counting result.1
  covered : s.socket.unread.length + (arrived event).length + position s
    ≤ result.1.socket.unread.length + sizes (handedBy result.2) + position result.1
  exact : s.socket.unread.length + (arrived event).length + position s
      = result.1.socket.unread.length + sizes (handedBy result.2) + position result.1
    ↔ Served s event

/-- The recv() of a header takes its four bytes, unless the call reports a read error. -/
theorem headerRecv_accounted (here : s.progress = .header) {result : State × Output}
    (taken : s.step .recv = some result) (noFailure : result.2.received ≠ some .failed)
    : Accounted s .recv result := by
  have start : position s = 0 := by simp [position, here]
  by_cases none : s.socket.unread = []
  · have served : Served s .recv := by simp [Served, here, none]
    simp only [State.step, State.recvSize, here, Option.bind_some, Socket.recv, none, ne_eq,
      not_true_eq_false, if_false, Option.map_eq_some_iff] at taken
    obtain ⟨⟨received, socket⟩, recv, rfl⟩ := taken
    have kept : ∃ r, State.afterRecv ⟨socket, s.buffer, .header⟩ received
          = State.returns ⟨socket, s.buffer, .header⟩ [] r
        ∧ sizes (handedBy ⟨[], some r⟩) = 0 ∧ socket = s.socket := by
      split_ifs at recv
      · obtain ⟨rfl, rfl⟩ := Prod.mk.inj (Option.some.inj recv)
        exact ⟨.closed, rfl, rfl, rfl⟩
      · obtain ⟨rfl, rfl⟩ := Prod.mk.inj (Option.some.inj recv)
        exact ⟨.wouldBlock, rfl, rfl, rfl⟩
    obtain ⟨r, returned, empty, rfl⟩ := kept
    obtain ⟨counting, finish, same⟩ := returned_between ⟨s.socket, s.buffer, .header⟩ r
    rw [returned] at noFailure ⊢
    refine ⟨counting, ?_, iff_of_true ?_ served⟩ <;>
      simp [State.returns, empty, finish, same, start, none, arrived]
  · by_cases whole : reconnPacketHeaderSize ≤ s.socket.unread.length
    · have served : Served s .recv := by simp [Served, here, whole]
      obtain ⟨b₀, b₁, b₂, b₃, unread, header⟩
          : ∃ b₀ b₁ b₂ b₃ unread, s.socket.unread = b₀ :: b₁ :: b₂ :: b₃ :: unread := by
        unfold reconnPacketHeaderSize at whole
        generalize s.socket.unread = bytes at whole
        rcases bytes with _ | ⟨b₀, _ | ⟨b₁, _ | ⟨b₂, _ | ⟨b₃, unread⟩⟩⟩⟩
        · simp at whole
        · simp at whole
        · simp at whole
        · simp at whole
        · exact ⟨b₀, b₁, b₂, b₃, unread, rfl⟩
      obtain ⟨stored, socket, looped⟩ := headerRecv_looped here header taken
      have took := looped.position
      have same : s.socket.unread.length
          = result.1.socket.unread.length + reconnPacketHeaderSize := by
        rw [looped.socket, socket, header]
        rfl
      refine ⟨looped.counting, ?_, iff_of_true ?_ served⟩ <;>
        simp only [arrived, List.length_nil, start] <;> omega
    · simp only [State.step, State.recvSize, here, Option.bind_some, Socket.recv, none,
        ne_eq, not_false_eq_true, if_true, Option.map_some, Option.some.injEq] at taken
      subst taken
      have short : (s.socket.unread.take reconnPacketHeaderSize).length
          ≠ reconnPacketHeaderSize := by
        rw [List.length_take]
        omega
      simp only [State.afterRecv, State.headerReceived] at noFailure
      rw [if_pos short] at noFailure
      exact absurd rfl noFailure

/-- A turn of the loop over a payload moves on by one byte, which a served recv() has taken.
-/
theorem byteReceived_accounted {count loop : Nat} (filling : Filling s count loop)
    (received : RecvResult) (unread : List UInt8) (event : Event)
    (quiet : arrived event = [])
    (took : s.socket.unread.length ≤ unread.length + 1)
    (served : s.socket.unread.length = unread.length + 1 ↔ Served s event)
    {result : State × Output}
    (looped : State.byteReceived { s with socket := { s.socket with unread } } count loop
        received
      = result)
    : Accounted s event result := by
  have filling' : Filling { s with socket := { s.socket with unread } } count loop :=
    ⟨filling.here, filling.room, filling.announced⟩
  obtain ⟨stored, socket, done⟩ := byteReceived_looped filling' received
  rw [looped] at done
  have moved := done.position
  have start : position s = reconnPacketHeaderSize + loop := by
    simp [position, filling.here]
  have left : result.1.socket.unread.length = unread.length := by
    rw [done.socket, socket]
  refine ⟨done.counting, ?_, Iff.trans ?_ served⟩ <;>
    simp only [quiet, List.length_nil, start] <;> omega

theorem Counting.of_same {s' : State} (counting : Counting s)
    (progress : s'.progress = s.progress) (buffer : s'.buffer = s.buffer)
    : Counting s' := by
  intro count loop here
  obtain ⟨here, room, announced⟩ := counting count loop (progress ▸ here)
  exact ⟨progress.trans here, room, by rw [State.count, buffer]; exact announced⟩

/-- Every step of a connection is accounted for, unless it reports a read error. -/
theorem step_accounted (counting : Counting s) {event : Event} {result : State × Output}
    (taken : s.step event = some result) (noFailure : result.2.received ≠ some .failed)
    : Accounted s event result := by
  cases event with
  | arrive segment =>
      simp only [State.step] at taken
      split_ifs at taken
      obtain rfl := Option.some.inj taken
      have length : (s.socket.unread ++ segment).length + 0 + position s
          = s.socket.unread.length + segment.length + position s := by simp
      exact ⟨counting.of_same rfl rfl, length.ge, iff_of_true length.symm trivial⟩
  | setMode _ =>
      obtain rfl := Option.some.inj taken
      exact ⟨counting.of_same rfl rfl, Nat.le_refl _, iff_of_true rfl trivial⟩
  | peerCloses =>
      obtain rfl := Option.some.inj taken
      exact ⟨counting.of_same rfl rfl, Nat.le_refl _, iff_of_true rfl trivial⟩
  | recv =>
      cases here : s.progress with
      | header => exact headerRecv_accounted here taken noFailure
      | payload count loop =>
          simp only [State.step, State.recvSize, here, Option.bind_some,
            Option.map_eq_some_iff] at taken
          obtain ⟨⟨received, socket⟩, recv, looped⟩ := taken
          have unread : socket.unread = s.socket.unread.drop 1
              ∧ socket = { s.socket with unread := socket.unread } := by
            unfold Socket.recv at recv
            split_ifs at recv with bytes
            · obtain ⟨rfl, rfl⟩ := Prod.mk.inj (Option.some.inj recv)
              exact ⟨rfl, rfl⟩
            all_goals
              obtain ⟨rfl, rfl⟩ := Prod.mk.inj (Option.some.inj recv)
              exact ⟨by rw [not_ne_iff.mp bytes, List.drop_nil], rfl⟩
          have dropped : socket.unread.length = s.socket.unread.length - 1 := by
            rw [unread.1, List.length_drop]
          have served : s.socket.unread.length = socket.unread.length + 1
              ↔ Served s .recv := by
            simp only [Served, here, ne_eq, ← List.length_eq_zero_iff]
            omega
          rw [unread.2] at looped
          have looped' : State.byteReceived
              { s with socket := { s.socket with unread := socket.unread } } count loop
              received = result := by
            rw [← looped, State.afterRecv]
            simp only [here]
          exact byteReceived_accounted (counting count loop here) received socket.unread
            .recv rfl (by omega) served looped'
      | ended => simp [State.step, State.recvSize, here] at taken
  | recvFails =>
      cases here : s.progress with
      | header =>
          simp only [State.step, State.recvSize, here, Option.map_some, Option.some.injEq,
            State.afterRecv, State.headerReceived] at taken
          subst taken
          exact absurd rfl noFailure
      | payload count loop =>
          simp only [State.step, State.recvSize, here, Option.map_some, Option.some.injEq,
            State.afterRecv] at taken
          exact byteReceived_accounted (counting count loop here) .error s.socket.unread
            .recvFails rfl (Nat.le_succ _) (by simp [Served]) taken
      | ended => simp [State.step, State.recvSize, here] at taken

/-- Unless a read error is reported, the bytes of a run are those of the packets handed over,
less those of recv() calls that were not served, by induction on the run.
-/
theorem run_accounted {start finish : State} {transitions : List Step}
    (run : Run State.step start transitions finish) (counting : Counting start)
    (noFailure : .failed ∉ handed transitions)
    : start.socket.unread.length + (delivered transitions).length + position start
        ≤ finish.socket.unread.length + sizes (handed transitions) + position finish
      ∧ (start.socket.unread.length + (delivered transitions).length + position start
          = finish.socket.unread.length + sizes (handed transitions) + position finish
        ↔ ∀ t ∈ transitions, Served t.before t.event) := by
  induction run with
  | nil => exact ⟨Nat.le_refl _, iff_of_true rfl (by simp)⟩
  | cons taken _ ih =>
      rw [handed, List.flatMap_cons, List.mem_append, not_or] at noFailure
      have reportsNone {output : Output} (noFailure : .failed ∉ handedBy output)
          : output.received ≠ some .failed := by
        intro failed
        simp [handedBy, failed, reported] at noFailure
      obtain ⟨counting', covered, exact⟩ :=
        step_accounted counting taken (reportsNone noFailure.1)
      obtain ⟨covers, iff⟩ := ih counting' noFailure.2
      rw [List.forall_mem_cons, ← exact, ← iff]
      simp only [delivered, handed, sizes, List.flatMap_cons, List.map_append,
        List.sum_append, List.length_append] at covered covers ⊢
      omega

end Accounts

-----------------------------------------------------------------------------------------
-- The packets that the client task gets
-----------------------------------------------------------------------------------------

section Ending

variable {s : State} {event : Event} {result : State × Output}

theorem payloadLoop_ended {stores : List (Nat × UInt8)} {count loop : Nat}
    (ends : (s.payloadLoop stores count loop).1.progress = .ended)
    : ∃ p, (s.payloadLoop stores count loop).2.received = some (.packet p)
        ∧ reconnPayloadSize < p.pktLength := by
  unfold State.payloadLoop at ends ⊢
  split_ifs at ends ⊢ with more
  refine ⟨s.packet, rfl, ?_⟩
  simp only [State.returns, State.returned] at ends
  split_ifs at ends with oversized
  · exact oversized
  · cases ends

/-- recv() tells of a closed connection when everything is read. -/
theorem recv_closed {socket after : Socket} {size : Nat}
    (recv : socket.recv size = some (.closed, after))
    : after.unread = [] ∧ after.closed = true := by
  unfold Socket.recv at recv
  split_ifs at recv with unread closed nonBlocking
  · cases recv
  · obtain ⟨-, rfl⟩ := Prod.mk.inj (Option.some.inj recv)
    exact ⟨not_ne_iff.mp unread, closed⟩
  · cases recv

/-- A task stops receiving after a read error, after a packet that does not fit its context,
or when everything is read and the peer has closed its side.
-/
theorem step_ended (going : s.progress ≠ .ended) (taken : s.step event = some result)
    (ends : result.1.progress = .ended)
    : result.2.received = some .failed
      ∨ (∃ p, result.2.received = some (.packet p) ∧ reconnPayloadSize < p.pktLength)
      ∨ result.1.socket.unread = [] ∧ result.1.socket.closed = true := by
  cases event with
  | arrive segment =>
      simp only [State.step] at taken
      split_ifs at taken
      obtain rfl := Option.some.inj taken
      exact absurd ends going
  | setMode _ | peerCloses =>
      obtain rfl := Option.some.inj taken
      exact absurd ends going
  | recv =>
      simp only [State.step, Option.bind_eq_some_iff, Option.map_eq_some_iff] at taken
      obtain ⟨size, -, ⟨received, socket⟩, recv, rfl⟩ := taken
      cases here : s.progress with
      | header =>
          simp only [State.afterRecv, here] at ends ⊢
          cases received with
          | bytes data =>
              simp only [State.headerReceived] at ends ⊢
              split_ifs at ends ⊢ with short
              · exact .inl rfl
              · exact .inr (.inl (payloadLoop_ended ends))
          | closed => exact .inr (.inr (recv_closed recv))
          | again => cases ends
          | error => exact .inl rfl
      | payload count loop =>
          simp only [State.afterRecv, here] at ends ⊢
          exact .inr (.inl (payloadLoop_ended ends))
      | ended => exact absurd here going
  | recvFails =>
      simp only [State.step, Option.map_eq_some_iff] at taken
      obtain ⟨size, -, rfl⟩ := taken
      cases here : s.progress with
      | header =>
          simp only [State.afterRecv, here] at ends ⊢
          exact .inl rfl
      | payload count loop =>
          simp only [State.afterRecv, here] at ends ⊢
          exact .inr (.inl (payloadLoop_ended ends))
      | ended => exact absurd here going

/-- Nothing is read or arrives any more. -/
theorem step_read (read : s.socket.unread = [] ∧ s.socket.closed = true)
    (ends : s.progress = .ended) (taken : s.step event = some result)
    : result.1.socket.unread = [] ∧ result.1.socket.closed = true := by
  cases event with
  | arrive segment => simp [State.step, read.2] at taken
  | setMode _ => exact Option.some.inj taken ▸ read
  | peerCloses => exact Option.some.inj taken ▸ ⟨read.1, rfl⟩
  | recv | recvFails => simp [State.step, State.recvSize, ends] at taken

/-- A task that has got packets that fit, and no read error, has read everything when it
stops, by induction on the run.
-/
theorem run_ended {start finish : State} {transitions : List Step}
    (run : Run State.step start transitions finish)
    (initially : start.progress = .ended
      → start.socket.unread = [] ∧ start.socket.closed = true)
    (fit : ∀ r ∈ handed transitions, ∃ p, r = .packet p ∧ p.pktLength ≤ reconnPayloadSize)
    (ends : finish.progress = .ended)
    : finish.socket.unread = [] := by
  induction run with
  | nil => exact (initially ends).1
  | @cons state _ _ _ output _ taken _ ih =>
      rw [handed, List.flatMap_cons] at fit
      refine ih (fun ended => ?_) (fun r later => fit r (List.mem_append_right _ later)) ends
      by_cases going : state.progress = .ended
      · exact step_read (initially going) going taken
      · have reports {r : Received} (received : output.received = some r)
            (reports : reported r = true)
            : ∃ p, r = .packet p ∧ p.pktLength ≤ reconnPayloadSize :=
          fit r (List.mem_append_left _ (by simp [handedBy, received, reports]))
        rcases step_ended going taken ended with failed | ⟨p, large, oversized⟩ | read
        · obtain ⟨p, same, -⟩ := reports failed rfl
          cases same
        · obtain ⟨q, same, fits⟩ := reports large rfl
          obtain rfl := Received.packet.inj same
          omega
        · exact read

end Ending

/-- A connection whose bytes are all read, or whose task has stopped receiving, has handed
exactly the packets sent to the client task, and is not waiting for the rest of another one,
if and only if every recv() was served: no header was read while only a part of it had
arrived, no byte of a payload was read before it had arrived, and no recv() failed.
Witness: served calls stay in step with the stream, and calls that are not served leave bytes
of a packet over, which the packets sent account for.
-/
theorem handed_eq_sent_iff {transitions : List Step} {finish : State}
    (run : Run State.step .initial transitions finish)
    {sent : List Packet} (wellFormed : ∀ p ∈ sent, p.WellFormed)
    (stream : delivered transitions = sent.flatMap Packet.wire)
    (read : finish.socket.unread = [] ∨ finish.progress = .ended)
    : (handed transitions = sent.map .packet
        ∧ ∀ count loop, finish.progress ≠ .payload count loop)
      ↔ ∀ t ∈ transitions, Served t.before t.event := by
  constructor
  · rintro ⟨handed, between⟩
    have fit : ∀ r ∈ Receive.handed transitions,
        ∃ p, r = .packet p ∧ p.pktLength ≤ reconnPayloadSize := by
      intro r member
      rw [handed, List.mem_map] at member
      obtain ⟨p, sent, rfl⟩ := member
      exact ⟨p, rfl, (wellFormed p sent).fits⟩
    have noFailure : .failed ∉ Receive.handed transitions := by
      intro failed
      obtain ⟨p, same, -⟩ := fit _ failed
      cases same
    have unread : finish.socket.unread = [] :=
      read.elim id (run_ended run (by simp [State.initial]) fit)
    have position : position finish = 0 := by
      unfold Receive.position
      split
      · rfl
      · rfl
      · rename_i here
        exact absurd here (between _ _)
    have bytes : (delivered transitions).length = sizes (Receive.handed transitions) := by
      rw [handed, stream, sizes, List.map_map, List.length_flatMap]
      exact congrArg List.sum (List.map_congr_left fun p _ => p.wire_length)
    refine (run_accounted run ?_ noFailure).2.mp ?_
    · simp [Counting, State.initial]
    · rw [unread, position, bytes, Nat.add_zero]
      rfl
  · intro served
    have inStep : InStep (delivered transitions) .initial sent :=
      .header rfl (fun _ _ => rfl) stream
    obtain ⟨done, later, rfl, handed, last⟩ := run_handsOver run wellFormed inStep served
    obtain ⟨rfl, between⟩ := last.nothingLeft read
    exact ⟨by rw [handed, List.append_nil], between⟩

/-- CLIENT_RESIGN_REQ -/
def resign : Packet := ⟨(0x00, 0x02), (0x00, 0x00), fun _ => 0⟩

theorem resign_wellFormed : resign.WellFormed := ⟨by decide, fun _ _ => rfl⟩

/-- The request in one segment each, on a blocking and then on a non-blocking socket. -/
def resignTwice : List Event :=
  [.arrive resign.wire, .recv, .setMode true, .recv, .arrive resign.wire, .recv]

theorem handed_resignTwice
    : handed (replay State.step .initial resignTwice).1 = [resign, resign].map .packet :=
  have wellFormed : ∀ p ∈ [resign, resign], p.WellFormed := by simp [resign_wellFormed]
  ((handed_eq_sent_iff (replay_run State.initial resignTwice) wellFormed rfl (.inl rfl)).mpr
    (by decide +kernel)).1

/-- The same request in two segments, the first of which ends inside the header, is lost: the
task reports a read error and stops receiving.
-/
theorem resign_lost
    : let run :=
        replay State.step .initial [.arrive [0x00, 0x02], .recv, .arrive [0x00, 0x00]]
      resign.WellFormed ∧ delivered run.1 = [resign].flatMap Packet.wire
        ∧ run.2.progress = .ended ∧ handed run.1 ≠ [resign].map .packet :=
  ⟨resign_wellFormed, rfl, rfl, fun same => nomatch same⟩

end Reconn.Client.Receive
