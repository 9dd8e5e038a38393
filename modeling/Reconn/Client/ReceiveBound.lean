import Reconn.Client.Framing

/-! What one call of receive_packet_data stores in the task's packet, and how many bytes it
takes off the stream.
-/

namespace Reconn.Client.Receive

open TransitionRuns

/-- The call returns in the last of these transitions. -/
def Returns : List Step → Prop
  | [] => False
  | [last] => last.output.received ≠ none
  | t :: next :: rest => t.output.received = none ∧ Returns (next :: rest)

instance decidableReturns : (transitions : List Step) → Decidable (Returns transitions)
  | [] => .isFalse id
  | [_] => inferInstanceAs (Decidable (_ ≠ none))
  | _ :: next :: rest =>
      have := decidableReturns (next :: rest)
      inferInstanceAs (Decidable (_ ∧ _))

/-- One call of receive_packet_data, from the recv() that finds the header of a packet with
`dataLength` bytes of payload to its return.
-/
structure Call (start : State) (transitions : List Step) (finish : State) (dataLength : Nat)
    : Prop where
  run : Run State.step start transitions finish
  here : start.progress = .header
  begins : ∃ first rest, transitions = first :: rest ∧ first.event = .recv
  header : ∃ b₀ b₁ b₂ b₃ unread, start.socket.unread = b₀ :: b₁ :: b₂ :: b₃ :: unread
    ∧ dataLength = b₂.toNat * 256 + b₃.toNat
  returns : Returns transitions

section OneCall

variable {s : State}

theorem afterRecv_socket (s : State) (received : RecvResult)
    : (s.afterRecv received).1.socket = s.socket := by
  have looped (s : State) (stores : List (Nat × UInt8)) (count loop : Nat)
      : (s.payloadLoop stores count loop).1.socket = s.socket := by
    unfold State.payloadLoop
    split_ifs
    · rfl
    · exact (returned_between s _).2.2
  unfold State.afterRecv
  cases s.progress with
  | header =>
      cases received with
      | bytes data =>
          simp only [State.headerReceived]
          split_ifs
          · rfl
          · exact looped _ _ _ _
      | closed | again | error => rfl
  | payload count loop =>
      simp only [State.byteReceived]
      rw [looped]
      cases received <;> rfl
  | ended => rfl

/-- The unread bytes are always the last ones of the stream. -/
theorem step_suffix {event : Event} {result : State × Output}
    (taken : s.step event = some result)
    : result.1.socket.unread <:+ s.socket.unread ++ arrived event := by
  cases event with
  | arrive segment =>
      simp only [State.step] at taken
      split_ifs at taken
      obtain rfl := Option.some.inj taken
      exact List.suffix_rfl
  | setMode _ | peerCloses =>
      obtain rfl := Option.some.inj taken
      exact (List.append_nil _).symm ▸ List.suffix_rfl
  | recv =>
      simp only [State.step, Option.bind_eq_some_iff, Option.map_eq_some_iff] at taken
      obtain ⟨size, -, ⟨received, socket⟩, recv, rfl⟩ := taken
      simp only [afterRecv_socket, arrived, List.append_nil]
      unfold Socket.recv at recv
      split_ifs at recv <;> obtain ⟨-, rfl⟩ := Prod.mk.inj (Option.some.inj recv)
      · exact List.drop_suffix ..
      · exact List.suffix_rfl
      · exact List.suffix_rfl
  | recvFails =>
      simp only [State.step, Option.map_eq_some_iff] at taken
      obtain ⟨size, -, rfl⟩ := taken
      simp only [afterRecv_socket, arrived, List.append_nil]
      exact List.suffix_rfl

theorem run_suffix {start finish : State} {transitions : List Step}
    (run : Run State.step start transitions finish)
    : finish.socket.unread <:+ start.socket.unread ++ delivered transitions := by
  induction run with
  | nil => exact (List.append_nil _).symm ▸ List.suffix_rfl
  | @cons _ _ _ event _ rest taken _ ih =>
      obtain ⟨before, split⟩ := step_suffix taken
      refine ih.trans ⟨before, ?_⟩
      rw [← List.append_assoc, split, delivered, delivered, List.flatMap_cons,
        List.append_assoc]

/-- What the steps of one call do together: they store at most the packet's bytes, they hand
over a packet of the announced length, and if all of them are served, the last byte is stored
too.
-/
structure CallDone (transitions : List Step) (finish : State) (dataLength : Nat) : Prop where
  stores : ∀ t ∈ transitions, ∀ store ∈ t.output.stores,
    store.1 < reconnPacketHeaderSize + dataLength
  handed : ∃ p, handed transitions = [.packet p] ∧ p.pktLength = dataLength
  between : position finish = 0
  last : 0 < dataLength → (∀ t ∈ transitions, Served t.before t.event)
    → ∃ t ∈ transitions, ∃ byte,
      (reconnPacketHeaderSize + (dataLength - 1), byte) ∈ t.output.stores

/-- What one step in the loop over a payload does. -/
structure FillingStep (s : State) (event : Event) (count : Nat) (result : State × Output)
    : Prop where
  stores : ∀ store ∈ result.2.stores, store.1 < reconnPacketHeaderSize + count
  ends : result.2.received = none ∧ (∃ loop, Filling result.1 count loop)
    ∨ (∃ p, result.2.received = some (.packet p) ∧ p.pktLength = count)
      ∧ position result.1 = 0
      ∧ (Served s event
        → ∃ byte, (reconnPacketHeaderSize + (count - 1), byte) ∈ result.2.stores)

theorem fillingStep_of_looped {count loop : Nat} {event : Event} {received : RecvResult}
    {stored : State} {result : State × Output} (filling : Filling s count loop)
    (looped : Looped stored (byteStores loop received) count (loop + 1) result)
    (small : ∀ data, received = .bytes data → data.length ≤ 1)
    (served : Served s event → ∃ byte, received = .bytes [byte])
    : FillingStep s event count result := by
  have room := filling.room
  refine ⟨fun store member => ?_, ?_⟩
  · rw [looped.stores] at member
    cases received with
    | bytes data =>
        obtain ⟨index, inside, rfl⟩ := List.mem_mapIdx.mp member
        have := small data rfl
        simp only
        omega
    | closed | again | error => cases member
  · rcases looped.ends with ⟨none, filling⟩ | ⟨last, p, packet, length⟩
    · exact .inl ⟨none, loop + 1, filling⟩
    · refine .inr ⟨⟨p, packet, length⟩, ?_, fun found => ?_⟩
      · have took := looped.position
        simp only [handedBy_packet packet, sizes, List.map_cons, List.map_nil, List.sum_cons,
          List.sum_nil, size, length] at took
        omega
      · obtain ⟨byte, rfl⟩ := served found
        refine ⟨byte, ?_⟩
        have place : count - 1 = loop := by omega
        rw [looped.stores, place]
        exact List.mem_singleton.mpr rfl

theorem filling_step {event : Event} {count loop : Nat} (filling : Filling s count loop)
    {result : State × Output} (taken : s.step event = some result)
    : FillingStep s event count result := by
  have going : Filling s count loop
      → result.2 = ⟨[], none⟩ → result.1.progress = s.progress → result.1.buffer = s.buffer
      → FillingStep s event count result := by
    intro filling quiet progress buffer
    refine ⟨by simp [quiet], .inl ⟨by rw [quiet], loop, ?_⟩⟩
    exact ⟨progress.trans filling.here, filling.room, by
      rw [State.count, buffer]; exact filling.announced⟩
  cases event with
  | arrive segment =>
      simp only [State.step] at taken
      split_ifs at taken
      obtain rfl := Option.some.inj taken
      exact going filling rfl rfl rfl
  | setMode _ | peerCloses =>
      obtain rfl := Option.some.inj taken
      exact going filling rfl rfl rfl
  | recv =>
      simp only [State.step, State.recvSize, filling.here, Option.bind_some,
        Option.map_eq_some_iff, State.afterRecv] at taken
      obtain ⟨⟨received, socket⟩, recv, looped⟩ := taken
      have filling' : Filling ⟨socket, s.buffer, .payload count loop⟩ count loop :=
        ⟨rfl, filling.room, filling.announced⟩
      obtain ⟨stored, -, done⟩ := byteReceived_looped filling' received
      rw [looped] at done
      unfold Socket.recv at recv
      refine fillingStep_of_looped filling done (fun data bytes => ?_) (fun served => ?_)
      · split_ifs at recv <;> obtain ⟨rfl, -⟩ := Prod.mk.inj (Option.some.inj recv)
        · obtain rfl := RecvResult.bytes.inj bytes
          exact List.length_take_le ..
        · cases bytes
        · cases bytes
      · simp only [Served, filling.here] at served
        rw [if_pos served] at recv
        obtain ⟨rfl, -⟩ := Prod.mk.inj (Option.some.inj recv)
        obtain ⟨byte, rest, found⟩ := List.exists_cons_of_ne_nil served
        exact ⟨byte, by rw [found]; rfl⟩
  | recvFails =>
      simp only [State.step, State.recvSize, filling.here, Option.map_some,
        Option.some.injEq, State.afterRecv] at taken
      obtain ⟨stored, -, done⟩ := byteReceived_looped filling .error
      rw [taken] at done
      exact fillingStep_of_looped filling done (fun _ bytes => by cases bytes) False.elim

/-- The loop over a payload runs to the end of the call, by induction on the run. -/
theorem filling_run {start finish : State} {transitions : List Step} {count loop : Nat}
    (run : Run State.step start transitions finish) (filling : Filling start count loop)
    (returns : Returns transitions)
    : CallDone transitions finish count := by
  induction run generalizing loop with
  | nil => exact returns.elim
  | @cons _ _ _ _ output rest taken later ih =>
      obtain ⟨stores, ends⟩ := filling_step filling taken
      cases rest with
      | nil =>
          cases later
          obtain ⟨⟨p, packet, length⟩, between, last⟩ :=
            ends.resolve_left fun none => returns none.1
          refine ⟨by simpa using stores, ⟨p, ?_, length⟩, between, fun _ served => ?_⟩
          · rw [handed, List.flatMap_cons, handedBy_packet packet]
            rfl
          · have first := served _ (List.mem_singleton.mpr rfl)
            exact ⟨_, List.mem_singleton.mpr rfl, last first⟩
      | cons next rest =>
          obtain ⟨none, returns⟩ := returns
          obtain ⟨-, loop, filling⟩ := ends.resolve_right fun returned => by
            obtain ⟨⟨p, packet, -⟩, -⟩ := returned
            exact absurd (none.symm.trans packet) (by simp)
          obtain ⟨stores', ⟨p, handed', length⟩, between, last⟩ := ih filling returns
          refine ⟨List.forall_mem_cons.mpr ⟨stores, stores'⟩, ⟨p, ?_, length⟩, between,
            fun room served => ?_⟩
          · rw [handed, List.flatMap_cons, handedBy_none none]
            exact handed'
          · obtain ⟨t, member, byte, stored⟩ :=
              last room (List.forall_mem_cons.mp served).2
            exact ⟨t, List.mem_cons_of_mem _ member, byte, stored⟩

/-- A call stores the header and runs through the loop over the payload. -/
theorem Call.done {start finish : State} {transitions : List Step} {dataLength : Nat}
    (call : Call start transitions finish dataLength)
    : CallDone transitions finish dataLength := by
  obtain ⟨run, here, ⟨first, rest, rfl, event⟩, ⟨b₀, b₁, b₂, b₃, unread, header, rfl⟩,
    returns⟩ := call
  cases run with
  | @cons _ _ _ _ output _ taken later =>
      obtain rfl := event
      obtain ⟨stored, -, looped⟩ := headerRecv_looped here header taken
      have stores : ∀ store ∈ output.stores,
          store.1 < reconnPacketHeaderSize + (b₂.toNat * 256 + b₃.toNat) := by
        intro store member
        rw [looped.stores] at member
        have inHeader : store.1 < reconnPacketHeaderSize := by
          simp only [List.mem_cons, List.not_mem_nil, or_false] at member
          rcases member with rfl | rfl | rfl | rfl <;> simp [reconnPacketHeaderSize]
        exact Nat.lt_add_right _ inHeader
      cases rest with
      | nil =>
          cases later
          obtain ⟨empty, p, packet, length⟩ :=
            looped.ends.resolve_left fun none => returns none.1
          refine ⟨by simpa using stores, ⟨p, ?_, length⟩, ?_, fun room => by omega⟩
          · rw [handed, List.flatMap_cons, handedBy_packet packet]
            rfl
          · have took := looped.position
            simp only [handedBy_packet packet, sizes, List.map_cons, List.map_nil,
              List.sum_cons, List.sum_nil, size, length] at took
            omega
      | cons next rest =>
          obtain ⟨none, returns⟩ := returns
          obtain ⟨-, filling⟩ := looped.ends.resolve_right fun returned => by
            obtain ⟨-, p, packet, -⟩ := returned
            exact absurd (none.symm.trans packet) (by simp)
          obtain ⟨stores', ⟨p, handed', length⟩, between, last⟩ :=
            filling_run later filling returns
          refine ⟨List.forall_mem_cons.mpr ⟨stores, stores'⟩, ⟨p, ?_, length⟩, between,
            fun room served => ?_⟩
          · rw [handed, List.flatMap_cons, handedBy_none none]
            exact handed'
          · obtain ⟨t, member, byte, stored⟩ :=
              last room (List.forall_mem_cons.mp served).2
            exact ⟨t, List.mem_cons_of_mem _ member, byte, stored⟩

end OneCall

/-- A call that finds a header stores inside the ReconnPacket and takes exactly the announced
bytes off the stream if and only if the payload fits the packet and every recv() was served.
Witness: a served loop stores at every offset of the announced payload, and one that is not
served takes fewer bytes than announced.
-/
theorem call_bounded_iff {start finish : State} {transitions : List Step} {dataLength : Nat}
    (call : Call start transitions finish dataLength)
    : ((∀ t ∈ transitions, ∀ store ∈ t.output.stores, store.1 < sizeofReconnPacket)
        ∧ ∃ taken, taken.length = reconnPacketHeaderSize + dataLength
          ∧ start.socket.unread ++ delivered transitions = taken ++ finish.socket.unread)
      ↔ dataLength ≤ reconnPayloadSize ∧ ∀ t ∈ transitions, Served t.before t.event := by
  obtain ⟨stores, ⟨p, handed, length⟩, between, last⟩ := call.done
  have noFailure : .failed ∉ Receive.handed transitions := by simp [handed]
  have initially : position start = 0 := by simp [position, call.here]
  have counting : Counting start := by simp [Counting, call.here]
  have accounts := (run_accounted call.run counting noFailure).2
  simp only [handed, sizes, List.map_cons, List.map_nil, List.sum_cons, List.sum_nil, size,
    length, initially, between] at accounts
  constructor
  · rintro ⟨bounded, taken, exact, split⟩
    have lengths := congrArg List.length split
    simp only [List.length_append] at lengths
    have served := accounts.mp (by omega)
    refine ⟨?_, served⟩
    by_contra large
    obtain ⟨t, member, byte, stored⟩ := last (by omega) served
    have inside := bounded t member _ stored
    simp only [sizeofReconnPacket] at inside
    omega
  · rintro ⟨fits, served⟩
    have exact := accounts.mpr served
    obtain ⟨taken, split⟩ := run_suffix call.run
    have lengths := congrArg List.length split
    simp only [List.length_append] at lengths
    refine ⟨fun t member store stored => ?_, taken, by omega, split.symm⟩
    exact Nat.lt_of_lt_of_le (stores t member store stored) (Nat.add_le_add_left fits _)

/-- The socket of a client that has sent a header and its payload. -/
def sentPayload (high low : UInt8) (payload : List UInt8) : State :=
  ⟨⟨[0xFF, 0xFE, high, low] ++ payload, false, false⟩, fun _ => 0, .header⟩

/-- Its recv() calls. -/
def receiving (start : State) (recvs : Nat) : List Step × State :=
  replay State.step start (List.replicate recvs .recv)

theorem receiving_call {high low : UInt8} {payload : List UInt8} {recvs dataLength : Nat}
    (length : dataLength = high.toNat * 256 + low.toNat)
    (returns : Returns (receiving (sentPayload high low payload) (recvs + 1)).1)
    : Call (sentPayload high low payload)
        (receiving (sentPayload high low payload) (recvs + 1)).1
        (receiving (sentPayload high low payload) (recvs + 1)).2 dataLength :=
  ⟨replay_run _ _, rfl, ⟨_, _, rfl, rfl⟩, ⟨_, _, _, _, _, rfl, length⟩, returns⟩

/-- A payload of one byte is stored inside the packet. -/
theorem receiving_one_bounded
    : (receiving (sentPayload 0x00 0x01 [0x2A]) 2).1.Forall fun t =>
        ∀ store ∈ t.output.stores, store.1 < sizeofReconnPacket :=
  List.forall_iff_forall_mem.mpr
    ((call_bounded_iff (receiving_call rfl (by decide +kernel))).mpr
      ⟨by decide, by decide +kernel⟩).1

/-- A header that announces 501 bytes makes the call write behind the packet. -/
theorem oversized_overruns
    : Call (sentPayload 0x01 0xF5 (List.replicate 501 0))
        (receiving (sentPayload 0x01 0xF5 (List.replicate 501 0)) 502).1
        (receiving (sentPayload 0x01 0xF5 (List.replicate 501 0)) 502).2 501
      ∧ ¬ ∀ t ∈ (receiving (sentPayload 0x01 0xF5 (List.replicate 501 0)) 502).1,
        ∀ store ∈ t.output.stores, store.1 < sizeofReconnPacket :=
  ⟨receiving_call rfl (by decide +kernel), by decide +kernel⟩

end Reconn.Client.Receive
