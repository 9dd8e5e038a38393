import Reconn.Iphoned.Framing

/-! Which byte streams make the packet parser leave its buffers: exactly those that announce
an empty packet or a one-byte presence report.
-/

namespace Reconn.Iphoned

open ByteStuffing

/-- An access stays inside the allocated packet, and the rx callback's length is a length. -/
def Event.InBounds : Event → Prop
  | .write index size => index < size
  | .read index size => index < size
  | .rxcallbackfn _ len => 0 ≤ len
  | .processmsg _ _ => True
  | .presencechangecallbackfn => True

instance : DecidablePred Event.InBounds := fun event => by
  cases event <;> unfold Event.InBounds <;> infer_instance

/-- A frame that announces no command byte. -/
def emptyPacket : List (Symbol UInt8) := [.mark, .data 0, .data 0]

/-- A presence report that announces no presence byte. -/
def barePresence : List (Symbol UInt8) :=
  [.mark, .data 0, .data 1, .data msgReportIphonePresence]

/-- The decoded stream holds a frame that is too short for its handler. -/
def Undersized (symbols : List (Symbol UInt8)) : Prop :=
  emptyPacket <:+: symbols ∨ barePresence <:+: symbols

theorem Undersized.mono {part whole : List (Symbol UInt8)} (short : Undersized part)
    (inside : part <:+: whole)
    : Undersized whole :=
  short.imp (·.trans inside) (·.trans inside)

theorem announced_eq_zero {high low : UInt8}
    : announced high low = 0 ↔ high = 0 ∧ low = 0 := by
  simp only [announced, ← UInt8.toNat_inj, UInt8.toNat_zero]
  omega

theorem announced_eq_one {high low : UInt8}
    : announced high low = 1 ↔ high = 0 ∧ low = 1 := by
  simp only [announced, ← UInt8.toNat_inj, UInt8.toNat_zero, UInt8.toNat_one]
  omega

namespace Receiver

/-- Where the parser stands after the decoded symbols `past`. -/
inductive Progress (past : List (Symbol UInt8)) (s : Receiver) : Prop where
  | idle (packetpos : s.packetpos = 0)
  | marked (isSuffix : [.mark] <:+ past) (packetpos : s.packetpos = 1) (msglen : s.msglen = 0)
  | high (value : UInt8) (isSuffix : [.mark, .data value] <:+ past)
      (packetpos : s.packetpos = 2) (msglen : s.msglen = value.toNat * 256)
  | body (high low : UInt8) (got : List UInt8)
      (isSuffix : .mark :: .data high :: .data low :: got.map .data <:+ past)
      (filling : Filling s (announced high low) got)

/-- processmsg stays inside a packet that holds its command, unless the packet is a presence
report without its presence byte.
-/
theorem processmsg_inBounds (s : Receiver) {packet : Packet} {len : Nat}
    (size : packet.size = len) (command : 0 < len)
    (complete : packet.bytes 0 = msgReportIphonePresence → 1 < len)
    : ∀ event ∈ (s.processmsg packet len).2, event.InBounds := by
  have payload : (0 : Int) ≤ len - 1 := by omega
  simp only [processmsg, processMsgReportIphonePresence, processMsgReportData]
  split_ifs with presence <;> simp_all [Event.InBounds]

/-- processmsg reads the presence byte of any presence report. -/
theorem processmsg_reads_presence (s : Receiver) {packet : Packet}
    (presence : packet.bytes 0 = msgReportIphonePresence) (len : Nat)
    : Event.read 1 packet.size ∈ (s.processmsg packet len).2 := by
  simp only [processmsg, presence, processMsgReportIphonePresence]
  split_ifs <;> simp

/-- One symbol keeps track of where the parser stands, and leaves a packet only at the end
of an undersized frame. Witness: a mark restarts the parser; otherwise by where it stood.
-/
theorem Progress.step (heap : Nat → Nat → UInt8) {past : List (Symbol UInt8)} {s : Receiver}
    (progress : Progress past s) (symbol : Symbol UInt8)
    : Progress (past ++ [symbol]) (s.processSymbol heap symbol).1
      ∧ ∀ event ∈ (s.processSymbol heap symbol).2,
          ¬ event.InBounds → Undersized (past ++ [symbol]) := by
  have extend {trail : List (Symbol UInt8)} (isSuffix : trail <:+ past)
      : trail ++ [symbol] <:+ past ++ [symbol] := by
    obtain ⟨before, rfl⟩ := isSuffix
    exact ⟨before, by simp⟩
  cases symbol with
  | mark =>
      rw [processSymbol_mark]
      exact ⟨.marked ⟨past, rfl⟩ rfl rfl, by simp⟩
  | data value =>
      cases progress with
      | idle packetpos =>
          rw [processSymbol_idle heap packetpos]
          exact ⟨.idle packetpos, by simp⟩
      | marked isSuffix packetpos msglen =>
          rw [processSymbol_high heap packetpos]
          exact ⟨.high value (extend isSuffix) rfl (by simp [msglen]), by simp⟩
      | high high isSuffix packetpos msglen =>
          by_cases zero : announced high value = 0
          · obtain ⟨rfl, rfl⟩ := announced_eq_zero.mp zero
            have short : Undersized (past ++ [.data 0]) := .inl (extend isSuffix).isInfix
            have idle := (processSymbol_low_zero heap _ _ packetpos msglen zero).2
            exact ⟨.idle idle, fun _ _ _ => short⟩
          · obtain ⟨silent, filling⟩ :=
              processSymbol_low heap _ _ packetpos msglen (Nat.pos_of_ne_zero zero)
            exact ⟨.body high value [] (extend isSuffix) filling, by simp [silent]⟩
      | body high low got isSuffix filling =>
          have stored := filling.processSymbol heap value
          have longer := extend isSuffix
          have written : Event.InBounds (.write got.length (announced high low)) :=
            filling.room
          split_ifs at stored with more
          · obtain ⟨outputs, filling⟩ := stored
            refine ⟨.body high low (got ++ [value]) (by simpa using longer) filling, ?_⟩
            rw [outputs]
            simpa using fun outside => absurd written outside
          · obtain ⟨receiver, packet, size, taken, outputs, idle⟩ := stored
            refine ⟨.idle idle, ?_⟩
            intro event member outside
            rw [outputs] at member
            rcases List.mem_cons.mp member with rfl | handled
            · exact absurd written outside
            by_contra enough
            apply outside
            apply processmsg_inBounds receiver size (by have := filling.room; omega) ?_
              event handled
            intro presence
            by_contra single
            -- A one-byte body is its command alone, so this is the bare presence report.
            have one : announced high low = 1 := by have := filling.room; omega
            obtain ⟨rfl, rfl⟩ := announced_eq_one.mp one
            have nothing : got = [] := by
              apply List.length_eq_zero_iff.mp
              have := filling.room
              omega
            subst nothing
            rw [one] at taken
            have same : packet.bytes 0 = value := by simpa [Packet.take] using taken
            rw [presence] at same
            exact enough (.inr (by simpa [barePresence, same] using longer.isInfix))

/-- From any state, an undersized frame makes some handler leave its packet. Witness: the
frame's start byte restarts the parser, and its last byte runs processmsg.
-/
theorem processSymbols_undersized (heap : Nat → Nat → UInt8) (s : Receiver)
    {symbols : List (Symbol UInt8)} (short : Undersized symbols)
    : ∃ event ∈ (s.processSymbols heap symbols).2, ¬ event.InBounds := by
  have within (before part after : List (Symbol UInt8))
      (leaves : ∀ from_ : Receiver,
        ∃ event ∈ (from_.processSymbols heap part).2, ¬ event.InBounds)
      : ∃ event ∈ (s.processSymbols heap (before ++ part ++ after)).2,
          ¬ event.InBounds := by
    obtain ⟨event, member, outside⟩ := leaves (s.processSymbols heap before).1
    refine ⟨event, ?_, outside⟩
    rw [processSymbols_append, processSymbols_append]
    simp [member]
  rcases short with ⟨before, after, rfl⟩ | ⟨before, after, rfl⟩
  · apply within
    intro start
    obtain ⟨member, -⟩ := processSymbol_low_zero heap
      (s := { start with packetpos := 2, msglen := 0 }) 0 0 rfl rfl rfl
    refine ⟨.read 0 0, ?_, by simp [Event.InBounds]⟩
    simpa [emptyPacket, Receiver.processSymbols, processSymbol_mark, processSymbol_high]
      using member
  · apply within
    intro start
    obtain ⟨silent, filling⟩ := processSymbol_low heap
      (s := { start with packetpos := 2, msglen := 0 }) 0 1 rfl rfl (by decide)
    have stored := filling.processSymbol heap msgReportIphonePresence
    rw [if_neg (by decide)] at stored
    obtain ⟨receiver, packet, size, taken, outputs, -⟩ := stored
    have presence : packet.bytes 0 = msgReportIphonePresence := by
      have one : announced 0 1 = 1 := by decide
      rw [one] at taken
      simpa [Packet.take] using taken
    have reads := processmsg_reads_presence receiver presence (announced 0 1)
    refine ⟨.read 1 packet.size, ?_, by simp [Event.InBounds, size, announced]⟩
    simp only [barePresence, Receiver.processSymbols, MealyRuns.run_cons, MealyRuns.run_nil,
      processSymbol_mark, processSymbol_high, UInt8.toNat_zero, Nat.zero_mul, Nat.add_zero,
      silent, List.nil_append, List.append_nil, outputs]
    exact List.mem_cons_of_mem _ reads

end Receiver

/-- From its initial state, the parser and its handlers stay inside their packets on a
byte stream, in any chunks, exactly when the decoded stream has no undersized frame.
Witness: the parser's progress justifies every access it makes.
-/
theorem processChunks_inBounds_iff (heap : Nat → Nat → UInt8)
    (rxcallbackfn presencechangecallbackfn : Bool) (chunks : List (List UInt8))
    : (∀ event ∈ (processChunks heap (.initial rxcallbackfn presencechangecallbackfn)
          chunks).2, event.InBounds)
      ↔ ¬ Undersized (code.readAll false chunks.flatten).2 := by
  let start := (State.initial rxcallbackfn presencechangecallbackfn).receiver
  rw [processChunks_eq, processrx_eq]
  constructor
  · intro inBounds short
    obtain ⟨event, member, outside⟩ := start.processSymbols_undersized heap short
    exact outside (inBounds event member)
  · intro enough event member
    by_contra outside
    have idle : Receiver.Progress [] start := .idle rfl
    obtain ⟨consumed, isPrefix, justified⟩ :=
      MealyRuns.run_justified (fun past event => ¬ event.InBounds → Undersized past)
        (fun _ _ symbol progress => progress.step heap symbol) [] start idle _ member
    exact enough ((justified outside).mono isPrefix.isInfix)

/-- A frame announcing length zero makes processmsg read a byte it does not own. -/
theorem processChunks_zeroLength
    : ¬ ∀ event ∈ (processChunks (fun _ _ => 0) (.initial true true) [[0x89, 0x00, 0x00]]).2,
        event.InBounds := by
  decide

end Reconn.Iphoned
