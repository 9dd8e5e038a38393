import Reconn.Analyzer.SendPacket

/-! Packets that are damaged on the line. Up to three wrong bits anywhere in a packet are seen
by AVCOM_INT_RecvPacket, and so are wrong bits that lie together in sixteen bits of one of the
parts that a checksum covers.
-/

namespace Reconn.Analyzer

open Polynomial (X)
open CyclicCodes (bitsOf bitsOfMessage bitsOf_append eq_of_count_xor_eq_zero foldl_eq_of_dvd
  generator generator_dvd_errors poly poly_append residue residue_eq_iff Burst)

/-- The bits in which two messages differ. -/
def errors (sent received : List UInt8) : List Bool :=
  List.zipWith xor (messageBits sent) (messageBits received)

-----------------------------------------------------------------------------------------
-- The bits that differ
-----------------------------------------------------------------------------------------

theorem messageBits_cons (byte : UInt8) (rest : List UInt8)
    : messageBits (byte :: rest) = bitsOf byte.toBitVec ++ messageBits rest :=
  rfl

theorem messageBits_append (message more : List UInt8)
    : messageBits (message ++ more) = messageBits message ++ messageBits more := by
  simp [messageBits, symbols, bitsOfMessage]

theorem length_errors {sent received : List UInt8} (same : sent.length = received.length)
    : (errors sent received).length = sent.length * 8 := by
  simp [errors, same]

theorem errors_append {sent received : List UInt8} (same : sent.length = received.length)
    (more moreReceived : List UInt8)
    : errors (sent ++ more) (received ++ moreReceived)
      = errors sent received ++ errors more moreReceived := by
  rw [errors, messageBits_append, messageBits_append, List.zipWith_append (by simp [same])]
  rfl

/-- Messages that differ in no bit are the same, by induction over their bytes. -/
theorem eq_of_errors_clean {sent received : List UInt8} (same : sent.length = received.length)
    (clean : (errors sent received).count true = 0)
    : sent = received := by
  induction sent generalizing received with
  | nil => exact (List.length_eq_zero_iff.mp same.symm).symm
  | cons byte rest ih =>
      obtain _ | ⟨byte', rest'⟩ := received
      · cases same
      · rw [errors, messageBits_cons, messageBits_cons, List.zipWith_append (by simp),
          List.count_append, Nat.add_eq_zero_iff] at clean
        rw [UInt8.toBitVec_inj.mp (eq_of_count_xor_eq_zero clean.1),
          ih (Nat.succ.inj same) clean.2]

/-- A message does not differ from itself. -/
theorem errors_self (message : List UInt8) : (errors message message).count true = 0 := by
  rw [List.count_eq_zero, errors, List.zipWith_self]
  simp

theorem bitsOf_word (high low : UInt8)
    : bitsOf (word high low).toBitVec = messageBits [high, low] := by
  have joined : (word high low).toBitVec = high.toBitVec ++ low.toBitVec := by
    rw [← BitVec.toNat_inj, BitVec.toNat_append]
    have := high.toNat_lt
    have := low.toNat_lt
    rw [UInt8.toNat_toBitVec, UInt8.toNat_toBitVec, ← Nat.shiftLeft_add_eq_or_of_lt low.toNat_lt,
      Nat.shiftLeft_eq, UInt16.toNat_toBitVec, word]
    simp
    omega
  rw [joined, bitsOf_append]
  simp [messageBits, symbols, bitsOfMessage]

-----------------------------------------------------------------------------------------
-- What the checksums see
-----------------------------------------------------------------------------------------

/-- The generator divides what two messages and their checksums differ in. -/
theorem generator_dvd_checked {sent received : List UInt8} (same : sent.length = received.length)
    {sum sum' : UInt16} (checked : crcFast sent = sum) (checked' : crcFast received = sum')
    : generator tail
      ∣ poly (errors sent received
          ++ List.zipWith xor (bitsOf sum.toBitVec) (bitsOf sum'.toBitVec)) := by
  have divides := generator_dvd_errors (by decide) (by decide)
    (by rw [length_symbols, length_symbols, same]) (toBitVec_crcFast sent).symm
    (toBitVec_crcFast received).symm
  rwa [List.zipWith_append (by simp [same]), checked, checked'] at divides

/-- A header that is accepted has its own checksum between its bytes. -/
theorem checksum_accepted {front back : List UInt8} {high low : UInt8} (eight : front.length = 8)
    (accepted : (avcomIntProcessHeader (front ++ high :: low :: back)).2 = aovNoError)
    : crcFast (front ++ 0 :: 0 :: back) = word high low := by
  have cleared : ((front ++ high :: low :: back).set 8 0).set 9 0 = front ++ 0 :: 0 :: back := by
    rw [List.set_append_right _ _ eight.le, List.set_append_right _ _ (by omega), eight]
    rfl
  have field : word ((front ++ high :: low :: back).getD 8 0)
        ((front ++ high :: low :: back).getD 9 0)
      = word high low := by
    rw [List.getD_append_right _ _ _ _ eight.le, List.getD_append_right _ _ _ _ (by omega), eight]
    rfl
  rw [avcomIntProcessHeader] at accepted
  simp only [cleared, field] at accepted
  split_ifs at accepted with size sum version
  · exact absurd accepted (by decide)
  · exact absurd accepted (by decide)
  · exact absurd accepted (by decide)
  · exact not_not.mp sum

/-- The wrong bits of a header as its checksum sees them: the checksum's own field last, and
nothing in its place.
-/
def headerErrors (wrong : List Bool) : List Bool :=
  wrong.take 64 ++ List.replicate 16 false ++ wrong.drop 80 ++ (wrong.drop 64).take 16

/-- The generator divides what two accepted headers differ in. -/
theorem generator_dvd_headers {sent received : List UInt8} (whole : sent.length = avcomHeaderLength)
    (whole' : received.length = avcomHeaderLength)
    (accepted : (avcomIntProcessHeader sent).2 = aovNoError)
    (accepted' : (avcomIntProcessHeader received).2 = aovNoError)
    : generator tail ∣ poly (headerErrors (errors sent received)) := by
  have parts {header : List UInt8} (whole : header.length = avcomHeaderLength)
      : ∃ front high low back,
        header = front ++ high :: low :: back ∧ front.length = 8 ∧ back.length = 2 := by
    have twelve : header.length = 12 := whole
    refine ⟨header.take 8, header[8], header[9], header.drop 10, ?_, by simp [twelve],
      by simp [twelve]⟩
    rw [List.getElem_cons_drop, List.getElem_cons_drop, List.take_append_drop]
  obtain ⟨front, high, low, back, rfl, eight, two⟩ := parts whole
  obtain ⟨front', high', low', back', rfl, eight', two'⟩ := parts whole'
  have fronts : front.length = front'.length := eight.trans eight'.symm
  have divides := generator_dvd_checked (by simp [eight, eight', two, two'])
    (checksum_accepted eight accepted) (checksum_accepted eight' accepted')
  have split (byte byte' low low' : UInt8)
      : errors (front ++ byte :: low :: back) (front' ++ byte' :: low' :: back')
        = errors front front' ++ errors [byte, low] [byte', low'] ++ errors back back' := by
    rw [errors_append fronts, List.append_assoc]
    have field : [byte, low].length = [byte', low'].length := rfl
    exact congrArg (errors front front' ++ ·) (errors_append field back back')
  have frontBits : (errors front front').length = 64 := by rw [length_errors fronts, eight]
  have fieldBits : (errors [high, low] [high', low']).length = 16 := length_errors rfl
  have nothing : errors [0, 0] [0, 0] = List.replicate 16 false := by decide
  rw [split 0 0 0 0, nothing, bitsOf_word, bitsOf_word, ← errors] at divides
  rw [headerErrors, split, List.append_assoc (errors front front'),
    List.take_left' frontBits, List.drop_left' frontBits, List.take_left' fieldBits]
  have behind
      : (errors front front' ++ (errors [high, low] [high', low'] ++ errors back back')).drop 80
        = errors back back' := by
    rw [← List.append_assoc]
    exact List.drop_left' (by rw [List.length_append, frontBits, fieldBits])
  rwa [behind]

-----------------------------------------------------------------------------------------
-- Damaged packets
-----------------------------------------------------------------------------------------

/-- Damage that the checksums see: up to three wrong bits, in a packet of no more data than the
polynomial can tell apart; or wrong bits that lie together in sixteen bits, of a packet of any
length, if they are not both inside and outside of the header's checksum.
-/
def Visible (dataLen : Nat) (wrong : List Bool) : Prop :=
  wrong.count true ≠ 0
    ∧ ((wrong.count true ≤ 3 ∧ dataLen ≤ 4095)
      ∨ (Burst 16 wrong
        ∧ ((wrong.drop 64).count true = 0
          ∨ ((wrong.take 64).count true = 0 ∧ (wrong.drop 80).count true = 0)
          ∨ (wrong.take 80).count true = 0)))

/-- Bits split in the parts of a header. -/
theorem header_split (wrong : List Bool)
    : wrong = wrong.take 64 ++ ((wrong.drop 64).take 16 ++ wrong.drop 80) := by
  rw [show wrong.drop 80 = (wrong.drop 64).drop 16 by rw [List.drop_drop],
    List.take_append_drop, List.take_append_drop]

theorem count_headerErrors (wrong : List Bool)
    : (headerErrors wrong).count true = wrong.count true := by
  conv_rhs => rw [header_split wrong]
  simp [headerErrors, List.count_append]
  omega

/-- Damage to the header is seen by the header's checksum. -/
theorem header_seen {wrong : List Bool} (bits : wrong.length = 96) (damaged : wrong.count true ≠ 0)
    (visible : wrong.count true ≤ 3
      ∨ (Burst 16 wrong
        ∧ ((wrong.drop 64).count true = 0
          ∨ ((wrong.take 64).count true = 0 ∧ (wrong.drop 80).count true = 0)
          ∨ (wrong.take 80).count true = 0)))
    : ¬ generator tail ∣ poly (headerErrors wrong) := by
  have there : (headerErrors wrong).count true ≠ 0 := by rwa [count_headerErrors]
  rcases visible with few | ⟨burst, place⟩
  · refine generates_tail.not_dvd_few there (by rwa [count_headerErrors]) ?_
    simp [headerErrors, bits]
  · refine generates_tail.not_dvd_burst there ?_
    have zeros : (List.replicate 16 false).count true = 0 := by decide
    rw [header_split wrong] at burst
    rw [headerErrors]
    rcases place with front | ⟨front, back⟩ | front
    · have field : ((wrong.drop 64).take 16).count true = 0 :=
        Nat.eq_zero_of_le_zero (front ▸ (List.take_sublist _ _).count_le _)
      have back : (wrong.drop 80).count true = 0 := by
        rw [show wrong.drop 80 = (wrong.drop 64).drop 16 by rw [List.drop_drop]]
        exact Nat.eq_zero_of_le_zero (front ▸ (List.drop_sublist _ _).count_le _)
      exact ((burst.left.append_clean zeros).append_clean back).append_clean field
    · refine burst.right.left.clean_append ?_
      rw [List.count_append, List.count_append, front, zeros, back]
    · rw [show 80 = 64 + 16 from rfl, List.take_add, List.count_append,
        Nat.add_eq_zero_iff] at front
      refine (burst.right.right.clean_append ?_).append_clean front.2
      rw [List.count_append, front.1, zeros]

/-- Damage to the data is seen by their checksum. -/
theorem data_seen {sent received : List UInt8} (same : sent.length = received.length)
    (damaged : (errors sent received).count true ≠ 0)
    (visible : ((errors sent received).count true ≤ 3 ∧ sent.length ≤ 4095)
      ∨ Burst 16 (errors sent received))
    : crcFast received ≠ crcFast sent := by
  intro undetected
  have divides := generator_dvd_checked same rfl undetected
  have clean : List.zipWith xor (bitsOf (crcFast sent).toBitVec) (bitsOf (crcFast sent).toBitVec)
      = List.replicate 16 false := by
    rw [List.zipWith_self]
    simp [List.map_const']
  rw [clean, CyclicCodes.poly_append, poly_replicate_false, add_zero] at divides
  have divides := generates_tail.dvd_of_dvd_mul_X_pow divides
  rcases visible with ⟨few, short⟩ | burst
  · refine generates_tail.not_dvd_few damaged few ?_ divides
    rw [length_errors same]
    omega
  · exact generates_tail.not_dvd_burst damaged burst divides

/-- Visible damage to a packet is visible in its header alone. -/
theorem Visible.header {dataLen : Nat} {wrong rest : List Bool} (bits : wrong.length = 96)
    (visible : Visible dataLen (wrong ++ rest))
    : wrong.count true ≤ 3
      ∨ (Burst 16 wrong
        ∧ ((wrong.drop 64).count true = 0
          ∨ ((wrong.take 64).count true = 0 ∧ (wrong.drop 80).count true = 0)
          ∨ (wrong.take 80).count true = 0)) := by
  obtain ⟨-, ⟨few, -⟩ | ⟨burst, place⟩⟩ := visible
  · rw [List.count_append] at few
    exact .inl (by omega)
  · have back (n : Nat) (inside : n ≤ 80) (clean : ((wrong ++ rest).drop n).count true = 0)
        : (wrong.drop n).count true = 0 := by
      rw [List.drop_append_of_le_length (by omega), List.count_append, Nat.add_eq_zero_iff]
        at clean
      exact clean.1
    have front (n : Nat) (inside : n ≤ 80) : (wrong ++ rest).take n = wrong.take n :=
      List.take_append_of_le_length (by omega)
    rw [front 64 (by decide), front 80 le_rfl] at place
    exact .inr ⟨burst.left,
      place.imp (back 64 (by decide)) (.imp_left (.imp_right (back 80 le_rfl)))⟩

/-- Visible damage to the data of a packet is seen by their checksum. -/
theorem Visible.data_seen {wrong : List Bool} {sent received : List UInt8}
    (same : sent.length = received.length) (clean : wrong.count true = 0)
    (visible : Visible sent.length (wrong ++ errors sent received))
    : crcFast received ≠ crcFast sent := by
  obtain ⟨damaged, visible⟩ := visible
  rw [List.count_append, clean, zero_add] at damaged visible
  exact Analyzer.data_seen same damaged (visible.imp_right fun burst => burst.1.right)

/-- Data with another checksum are not read in full and taken for those that were sent. -/
theorem recvData_damaged {sent received : List UInt8} (same : sent.length = received.length)
    (seen : crcFast received ≠ crcFast sent) {data : Nat → UInt8} {outcomes : List Outcome}
    {iResult : Int} {reading : Reading} (arrived : delivered outcomes = received)
    (returned : avcomIntRecvData data sent.length outcomes = some (iResult, reading))
    : ¬ (iResult = sent.length
        ∧ crcFast (firstBytes reading.buffer sent.length) = crcFast sent) := by
  obtain ⟨buffer, taken, ⟨-, whole⟩ | ⟨-, all, less⟩⟩ := recvData_cases returned
  · have consumes : consumed reading.calls = received := by
      rw [arrived] at taken
      refine taken.eq_of_length_le ?_
      rw [← same]
      exact_mod_cast whole
    rw [consumes] at buffer
    rw [buffer, same, firstBytes_store data le_rfl, List.take_length]
    exact fun taken => seen taken.2
  · have nonempty : 0 < sent.length := by
      by_contra empty
      obtain rfl : sent = [] := List.length_eq_zero_iff.mp (by omega)
      obtain rfl : received = [] := List.length_eq_zero_iff.mp same.symm
      exact seen rfl
    have short := less (by exact_mod_cast nonempty)
    rw [all, arrived, same] at short
    omega

/-- A packet with damage that the checksums see is not received. -/
theorem recvPacket_damaged {dataIn received : List UInt8} (fits : dataIn.length < 2 ^ 16)
    (same : received.length = (avcomIntAssemblePacket dataIn).length)
    (visible : Visible dataIn.length (errors (avcomIntAssemblePacket dataIn) received))
    {avcomHeader data : Nat → UInt8} {headerOutcomes payloadOutcomes : List Outcome}
    {result : PacketResult}
    (header : delivered headerOutcomes = received.take avcomHeaderLength)
    (payload : delivered payloadOutcomes = received.drop avcomHeaderLength)
    (returned : avcomIntRecvPacket avcomHeader data headerOutcomes payloadOutcomes = some result)
    : result.iResult ≠ aovNoError := by
  -- The packet and what arrives, each as its header and its data
  obtain ⟨sentHead, assembled⟩
      : ∃ sentHead, assembledHeader dataIn (crcFast (assembledHeader dataIn 0)) = sentHead :=
    ⟨_, rfl⟩
  have sentLength : sentHead.length = avcomHeaderLength := by rw [← assembled]; rfl
  have sentAccepted := processHeader_assembled dataIn
  rw [assembled] at sentAccepted
  rw [avcomIntAssemblePacket, assembled] at same visible
  obtain ⟨head, body, rfl, headLength⟩
      : ∃ head body, received = head ++ body ∧ head.length = avcomHeaderLength := by
    refine ⟨received.take avcomHeaderLength, received.drop avcomHeaderLength,
      (List.take_append_drop ..).symm, List.length_take_of_le ?_⟩
    rw [same, List.length_append, sentLength]
    exact Nat.le_add_right ..
  rw [List.take_left' headLength] at header
  rw [List.drop_left' headLength] at payload
  have heads : sentHead.length = head.length := sentLength.trans headLength.symm
  have bodies : dataIn.length = body.length := by
    rw [List.length_append, List.length_append] at same
    omega
  rw [errors_append heads] at visible
  have headBits : (errors sentHead head).length = 96 := by
    rw [length_errors heads, sentLength]
    rfl
  rcases recvPacket_header returned with
    ⟨-, -, error⟩ | ⟨accepted, size, reading, read, -, -, -, got, ends⟩
  · exact error
  · rw [acceptedHeader, header, List.take_of_length_le headLength.le] at read
    obtain ⟨⟨-, noError⟩, got'⟩ := Option.ite_none_right_eq_some.mp read
    have divides := generator_dvd_headers sentLength headLength (by rw [sentAccepted]) noError
    by_cases touched : (errors sentHead head).count true = 0
    · obtain rfl := eq_of_errors_clean heads touched
      obtain rfl : sentHeader dataIn = accepted := by
        rw [sentAccepted] at got'
        exact Option.some.inj got'
      rw [sentHeader_dataLen fits] at got ends
      rw [ne_eq, ends]
      exact recvData_damaged bodies (visible.data_seen bodies touched) payload got
    · exact absurd divides (header_seen headBits touched (visible.header headBits))

/-- What AVCOM_INT_RecvPacket makes of what arrives in place of a packet: if it is the packet,
no error and its data, and if it has damage that the checksums see, an error.
-/
theorem packet_received {dataIn received : List UInt8} (nonempty : 0 < dataIn.length)
    (fits : dataIn.length < 2 ^ 16)
    (same : received.length = (avcomIntAssemblePacket dataIn).length)
    {avcomHeader data : Nat → UInt8} {headerOutcomes payloadOutcomes : List Outcome}
    {result : PacketResult}
    (header : delivered headerOutcomes = received.take avcomHeaderLength)
    (payload : delivered payloadOutcomes = received.drop avcomHeaderLength)
    (returned : avcomIntRecvPacket avcomHeader data headerOutcomes payloadOutcomes = some result)
    : (received = avcomIntAssemblePacket dataIn
        → result.iResult = aovNoError ∧ result.accepted = some (sentHeader dataIn)
          ∧ ∃ reading, result.payload = some reading
            ∧ firstBytes reading.buffer dataIn.length = dataIn)
      ∧ (Visible dataIn.length (errors (avcomIntAssemblePacket dataIn) received)
        → result.iResult ≠ aovNoError) := by
  refine ⟨?_, fun visible => recvPacket_damaged fits same visible header payload returned⟩
  rintro rfl
  obtain ⟨noError, accepted, reading, paid, -, buffer⟩ :=
    recvPacket_assembled nonempty fits header payload returned
  refine ⟨noError, accepted, reading, paid, ?_⟩
  rw [buffer, firstBytes_store data le_rfl, List.take_length]

/-- A packet of one byte that arrives whole, and with two bits wrong. -/
theorem packet_received_oneByte
    : (∃ result reading,
        avcomIntRecvPacket (fun _ => 0) (fun _ => 0)
            [.ready true (some ((avcomIntAssemblePacket [7]).take 12))]
            [.ready true (some [7])]
          = some result
        ∧ result.iResult = aovNoError ∧ result.payload = some reading
        ∧ firstBytes reading.buffer 1 = [7])
      ∧ ∃ result,
        avcomIntRecvPacket (fun _ => 0) (fun _ => 0)
            [.ready true (some ((avcomIntAssemblePacket [7]).take 12))]
            [.ready true (some [4])]
          = some result
        ∧ result.iResult ≠ aovNoError := by
  obtain ⟨whole, returned⟩ := Option.isSome_iff_exists.mp
    (show (avcomIntRecvPacket (fun _ => 0) (fun _ => 0)
        [.ready true (some ((avcomIntAssemblePacket [7]).take 12))]
        [.ready true (some [7])]).isSome by decide +kernel)
  obtain ⟨broken, returned'⟩ := Option.isSome_iff_exists.mp
    (show (avcomIntRecvPacket (fun _ => 0) (fun _ => 0)
        [.ready true (some ((avcomIntAssemblePacket [7]).take 12))]
        [.ready true (some [4])]).isSome by decide +kernel)
  obtain ⟨noError, -, reading, paid, start⟩ :=
    (@packet_received [7] (avcomIntAssemblePacket [7]) (by decide) (by decide) rfl _ _ _ _ _
      (by decide +kernel) (by decide +kernel) returned).1 rfl
  have error : broken.iResult ≠ aovNoError :=
    (@packet_received [7] ((avcomIntAssemblePacket [7]).take 12 ++ [4]) (by decide) (by decide)
      (by decide +kernel) _ _ _ _ _ (by decide +kernel) (by decide +kernel) returned').2
      ⟨by decide +kernel, .inl ⟨by decide +kernel, by decide⟩⟩
  exact ⟨⟨whole, reading, returned, noError, paid, start⟩, broken, returned', error⟩

-----------------------------------------------------------------------------------------
-- What is not seen
-----------------------------------------------------------------------------------------

/-- Flipping the bits of a mask changes these bits. -/
theorem errors_flipped (byte mask : UInt8)
    : errors [byte] [byte ^^^ mask] = messageBits [mask] := by
  have bits : List.zipWith xor (bitsOf byte.toBitVec) (bitsOf (byte ^^^ mask).toBitVec)
      = bitsOf mask.toBitVec := by
    rw [UInt8.toBitVec_xor, bitsOf, bitsOf, bitsOf, ← List.reverse_zipWith (by simp),
      List.zipWith_map, List.zipWith_self]
    simp
  simpa [errors, messageBits, symbols, bitsOfMessage] using bits

theorem errors_self_eq (message : List UInt8)
    : errors message message = List.replicate (message.length * 8) false := by
  rw [errors, List.zipWith_self]
  simp [List.map_const']

/-- The generator divides two powers that are as far apart as the order of the polynomial. -/
theorem generator_dvd_far {gap : Nat} (far : gap * 8 + 15 = 32767) (bytes : Nat)
    : generator tail
      ∣ poly (messageBits [0x80] ++ (List.replicate (gap * 8) false
        ++ (messageBits [0x01] ++ List.replicate (bytes * 8) false))) := by
  have high : messageBits [0x80] = true :: List.replicate 7 false := by decide
  have low : messageBits [0x01] = List.replicate 7 false ++ [true] := by decide
  have apart : poly (messageBits [0x80] ++ (List.replicate (gap * 8) false
        ++ (messageBits [0x01] ++ List.replicate (bytes * 8) false)))
      = (X ^ (gap * 8 + 15) + 1) * X ^ (bytes * 8) := by
    simp only [poly_append, poly_replicate_false, List.length_append, List.length_replicate,
      high, low, poly]
    simp [CyclicCodes.coefficient]
    ring
  have order : AdjoinRoot.root (generator tail) ^ (gap * 8 + 15) = 1 := by
    rw [far, ← generates_tail.order]
    exact pow_orderOf_eq_one _
  have same : residue tail (X ^ (gap * 8 + 15)) = residue tail 1 := by
    simpa [residue] using order
  rewrite [apart]
  exact (residue_eq_iff.mp same).mul_right _

/-- The limit is sharp: in a packet of more data, two wrong bits can be as far apart as the
order of the polynomial, and then nothing sees them.
-/
theorem unseen_damage {dataIn : List UInt8} (long : 4096 ≤ dataIn.length)
    (fits : dataIn.length < 2 ^ 16)
    : ∃ received : List UInt8,
      received.length = (avcomIntAssemblePacket dataIn).length
        ∧ (errors (avcomIntAssemblePacket dataIn) received).count true = 2
        ∧ ∀ avcomHeader data headerOutcomes payloadOutcomes result,
          delivered headerOutcomes = received.take avcomHeaderLength
          → delivered payloadOutcomes = received.drop avcomHeaderLength
          → avcomIntRecvPacket avcomHeader data headerOutcomes payloadOutcomes = some result
          → result.iResult = aovNoError := by
  obtain ⟨first, middle, last, rest, split, between⟩
      : ∃ first middle last rest,
        dataIn = [first] ++ (middle ++ ([last] ++ rest)) ∧ middle.length = 4094 := by
    refine ⟨dataIn[0], (dataIn.drop 1).take 4094, dataIn[4095], dataIn.drop 4096, ?_, ?_⟩
    · rw [List.singleton_append, List.singleton_append, List.getElem_cons_drop,
        show dataIn.drop 4095 = (dataIn.drop 1).drop 4094 by rw [List.drop_drop],
        List.take_append_drop, List.getElem_cons_drop, List.drop_zero]
    · simp
      omega
  obtain ⟨body, flipped⟩
      : ∃ body, body = [first ^^^ 0x80] ++ (middle ++ ([last ^^^ 0x01] ++ rest)) :=
    ⟨_, rfl⟩
  have lengths : body.length = dataIn.length := by
    rw [flipped, split]
    simp
  have wrong : errors dataIn body
      = messageBits [0x80] ++ (List.replicate (middle.length * 8) false
        ++ (messageBits [0x01] ++ List.replicate (rest.length * 8) false)) := by
    have single (byte byte' : UInt8) : [byte].length = [byte'].length := rfl
    rw [flipped, split, errors_append (single first _), errors_append rfl,
      errors_append (single last _), errors_flipped, errors_flipped, errors_self_eq,
      errors_self_eq]
  have sum : crcFast body = crcFast dataIn := by
    rw [← UInt16.toBitVec_inj, toBitVec_crcFast, toBitVec_crcFast]
    refine (foldl_eq_of_dvd (by decide) (by decide) ?_ ?_).symm
    · rw [length_symbols, length_symbols, lengths]
    · have gap : middle.length * 8 + 15 = 32767 := by rw [between]
      have far := generator_dvd_far gap rest.length
      rewrite [← wrong] at far
      exact far
  refine ⟨assembledHeader dataIn (crcFast (assembledHeader dataIn 0)) ++ body, ?_, ?_, ?_⟩
  · rw [avcomIntAssemblePacket, List.length_append, List.length_append, lengths]
  · rw [avcomIntAssemblePacket, errors_append rfl, List.count_append, errors_self, wrong]
    have high : (messageBits [0x80]).count true = 1 := by decide
    have low : (messageBits [0x01]).count true = 1 := by decide
    simp [List.count_append, List.count_replicate, high, low]
  · intro avcomHeader data headerOutcomes payloadOutcomes result header payload returned
    rw [List.take_left' (length_assembledHeader ..)] at header
    rw [List.drop_left' (length_assembledHeader ..)] at payload
    refine (recvPacket_checked (by omega) fits lengths sum ?_ payload returned).1
    rw [header, avcomIntAssemblePacket, List.take_left' (length_assembledHeader ..)]

/-- Bytes that come one by one, until nothing comes. -/
def singly (bytes : List UInt8) : List Outcome :=
  bytes.map (fun byte => .ready true (some [byte])) ++ [.timeout]

theorem delivered_singly (bytes : List UInt8) : delivered (singly bytes) = bytes := by
  induction bytes with
  | nil => rfl
  | cons byte rest ih => exact congrArg (byte :: ·) ih

/-- Bytes that come one by one are always served, as long as the amount that remains does not
wrap, and so a loop that reads them returns. By induction on the bytes: what each read takes
off is bounded by all that has then arrived.
-/
theorem Reading.loop_singly {s : Reading} {bytes : List UInt8} (counted : 0 ≤ s.amountRead)
    (small : s.amountRemaining < 2 ^ 32)
    (bound : -2 ^ 32 < s.amountRemaining - bytes.length * (s.amountRead + bytes.length))
    : (s.loop (singly bytes)).isSome := by
  induction bytes generalizing s with
  | nil => rfl
  | cons byte rest ih =>
      rw [List.length_cons] at bound
      push_cast at bound
      have positive : 0 < requestedSize s.amountRemaining := by
        unfold requestedSize
        split_ifs
        · decide
        · have above : -2 ^ 32 < s.amountRemaining := by nlinarith
          omega
      have serves : s.Serves (.ready true (some [byte])) := ⟨by simp, positive⟩
      have next := turn_delivers s [byte]
      rw [singly, List.map_cons, List.cons_append, Reading.loop, if_pos serves, next]
      dsimp only
      split_ifs
      · refine ih ?_ ?_ ?_
        · dsimp only
          simp
          omega
        · dsimp only
          simp
          omega
        · dsimp only
          simp
          nlinarith
      · rfl

theorem recvData_singly (data : Nat → UInt8) {dataSize : Int} {bytes : List UInt8}
    (size : 0 ≤ dataSize ∧ dataSize < 2 ^ 32) (short : bytes.length < 2 ^ 16)
    : (avcomIntRecvData data dataSize (singly bytes)).isSome := by
  rw [avcomIntRecvData, spectrumAnalyzerSelectRead, Option.isSome_map]
  refine Reading.loop_singly le_rfl size.2 ?_
  simp only [Reading.start, zero_add]
  have square : (bytes.length : Int) * bytes.length < 2 ^ 16 * 2 ^ 16 := by
    exact_mod_cast Nat.mul_lt_mul'' short short
  omega

/-- A packet that comes byte by byte is received, with or without an error. -/
theorem recvPacket_singly (avcomHeader data : Nat → UInt8) (head body : List UInt8)
    (headLength : head.length < 2 ^ 16) (bodyLength : body.length < 2 ^ 16)
    : (avcomIntRecvPacket avcomHeader data (singly head) (singly body)).isSome := by
  have twelve : (0 : Int) ≤ avcomHeaderLength ∧ (avcomHeaderLength : Int) < 2 ^ 32 := by decide
  obtain ⟨received, read⟩ := Option.isSome_iff_exists.mp
    (recvData_singly avcomHeader twelve headLength)
  rw [avcomIntRecvPacket, read, Option.bind_some]
  dsimp only
  split_ifs
  · rfl
  · rfl
  · rfl
  · rfl
  · rw [Option.isSome_map]
    have bound := UInt16.toNat_lt
      (avcomIntProcessHeader (firstBytes received.2.buffer avcomHeaderLength)).1.dataLen
    exact recvData_singly data ⟨by omega, by omega⟩ bodyLength

/-- A packet of 4096 bytes that are zero, of which what arrives comes byte by byte. -/
theorem unseen_damage_zeros
    : ∃ received result,
      (errors (avcomIntAssemblePacket (List.replicate 4096 0)) received).count true = 2
        ∧ avcomIntRecvPacket (fun _ => 0) (fun _ => 0)
            (singly (received.take avcomHeaderLength)) (singly (received.drop avcomHeaderLength))
          = some result
        ∧ result.iResult = aovNoError := by
  have length : (List.replicate 4096 (0 : UInt8)).length = 4096 := List.length_replicate
  obtain ⟨received, same, two, unseen⟩ := unseen_damage length.ge (by rw [length]; decide)
  have whole : received.length = 4108 := by
    rw [same, avcomIntAssemblePacket, List.length_append, length_assembledHeader, length]
    rfl
  obtain ⟨result, returned⟩ := Option.isSome_iff_exists.mp
    (recvPacket_singly (fun _ => 0) (fun _ => 0) (received.take avcomHeaderLength)
      (received.drop avcomHeaderLength) (by rw [List.length_take, whole]; decide)
      (by rw [List.length_drop, whole]; decide))
  exact ⟨received, result, two, returned,
    unseen _ _ _ _ _ (delivered_singly _) (delivered_singly _) returned⟩

end Reconn.Analyzer
