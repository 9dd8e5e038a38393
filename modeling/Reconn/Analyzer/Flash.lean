import Reconn.Analyzer.Exchange
import Reconn.Library.StopAndWait

/-! AVCOM_INT_FlashSBS2Shared of aov_sa.c, which takes a file to the analyzer in blocks: a
packet that announces it, its blocks, and the command that is to use it. Each packet waits for
the acknowledgement of the one before. What an upgrade has sent is compared with what a loader
makes of it.
-/

namespace Reconn.Analyzer

def apiFlashMainStart : UInt16 := 0x0002
def apiFileBlock : UInt16 := 0x0003
def apiRecvStart : UInt16 := 0x0004
def apiFlashBootStart : UInt16 := 0x0015
def apiFlashInitStart : UInt16 := 0x0016

/-- The size of sa_rx in AVCOM_INT_FlashSBS2Shared. -/
def saRxSize : Nat := 1024

/-- How many blocks a file has. -/
def numi (dataLen : Nat) : Nat := if dataLen % 512 ≠ 0 then dataLen / 512 + 1 else dataLen / 512

/-- The packet that announces a file. -/
def startPacket (data : List UInt8) : List UInt8 :=
  pack2 apiRecvStart ++ pack4 data.length ++ pack4 (numi data.length) ++ pack2 (crcFast data)

/-- The length of the block with the given number, from one on. -/
def sendLen (dataLen i : Nat) : Nat :=
  if dataLen - (i - 1) * 512 < 512 then dataLen - (i - 1) * 512 else 512

/-- The packet of a block. -/
def blockPacket (data : List UInt8) (i : Nat) : List UInt8 :=
  pack2 apiFileBlock ++ pack4 (sendLen data.length i) ++ pack4 i
    ++ (List.range (sendLen data.length i)).map fun ii => data.getD ((i - 1) * 512 + ii) 0

namespace Session

/-- The loop over the blocks from `i` on, with what each exchange meets. -/
def flashBlocks (envs : Nat → ExchangeOutcomes) (data : List UInt8)
    : Nat → Nat → Session → Option (Int × Session)
  | 0, _, s => some (aovNoError, s)
  | remaining + 1, i, s =>
      (s.exchange saRxSize (envs i) apiFileBlock (blockPacket data i)).bind fun answer =>
        if answer.1 ≠ aovNoError then some answer
        else flashBlocks envs data remaining (i + 1) answer.2

/-- AVCOM_INT_FlashSBS2Shared -/
def avcomIntFlashSbs2Shared (envs : Nat → ExchangeOutcomes) (cmd : UInt16) (data : List UInt8)
    (s : Session)
    : Option (Int × Session) :=
  (s.exchange saRxSize (envs 0) apiRecvStart (startPacket data)).bind fun started =>
    if started.1 ≠ aovNoError then some started
    else
      (flashBlocks envs data (numi data.length) 1 started.2).bind fun transferred =>
        if transferred.1 ≠ aovNoError then some transferred
        else transferred.2.exchange saRxSize (envs (numi data.length + 1)) cmd (pack2 cmd)

end Session

/-- AVCOM_SA_FlashSBS2 -/
def avcomSaFlashSbs2 (envs : Nat → ExchangeOutcomes) (data : List UInt8) (s : Session) :=
  s.avcomIntFlashSbs2Shared envs apiFlashMainStart data

/-- AVCOM_ENG_FlashSBS2bootloader -/
def avcomEngFlashSbs2Bootloader (envs : Nat → ExchangeOutcomes) (data : List UInt8) (s : Session) :=
  s.avcomIntFlashSbs2Shared envs apiFlashBootStart data

/-- AVCOM_ENG_FlashSBS2init -/
def avcomEngFlashSbs2Init (envs : Nat → ExchangeOutcomes) (data : List UInt8) (s : Session) :=
  s.avcomIntFlashSbs2Shared envs apiFlashInitStart data

-----------------------------------------------------------------------------------------
-- The packets of an upgrade
-----------------------------------------------------------------------------------------

/-- A command and the packet that carries it. -/
abbrev Request := UInt16 × List UInt8

def blockRequest (data : List UInt8) (i : Nat) : Request := (apiFileBlock, blockPacket data i)

/-- All packets of an upgrade, in their order. -/
def plan (cmd : UInt16) (data : List UInt8) : List Request :=
  (apiRecvStart, startPacket data)
    :: (List.range' 1 (numi data.length)).map (blockRequest data) ++ [(cmd, pack2 cmd)]

/-- What an exchange of an upgrade is about: what it meets, and its request. -/
abbrev Item := ExchangeOutcomes × Request

def Session.hand (s : Session) (item : Item) : Option (Int × Session) :=
  s.exchange saRxSize item.1 item.2.1 item.2.2

/-- The exchanges of an upgrade. -/
def items (envs : Nat → ExchangeOutcomes) (cmd : UInt16) (data : List UInt8) : List Item :=
  (envs 0, apiRecvStart, startPacket data)
    :: (List.range' 1 (numi data.length)).map (fun i => (envs i, blockRequest data i))
    ++ [(envs (numi data.length + 1), cmd, pack2 cmd)]

theorem map_items (envs : Nat → ExchangeOutcomes) (cmd : UInt16) (data : List UInt8)
    : (items envs cmd data).map Prod.snd = plan cmd data := by
  simp [items, plan]

/-- The loop hands over the blocks one after another, by induction on how many remain. -/
theorem flashBlocks_eq (envs : Nat → ExchangeOutcomes) (data : List UInt8) (remaining i : Nat)
    (s : Session)
    : s.flashBlocks envs data remaining i
      = StopAndWait.run Session.hand aovNoError s
        ((List.range' i remaining).map fun i => (envs i, blockRequest data i)) := by
  induction remaining generalizing i s with
  | zero => rfl
  | succ remaining ih =>
      rw [Session.flashBlocks, List.range'_succ, List.map_cons, StopAndWait.run]
      refine congrArg (s.exchange saRxSize (envs i) apiFileBlock (blockPacket data i)).bind
        (funext fun answer => ?_)
      rw [ite_not, ih]

/-- An upgrade hands over its packets, each when the one before was acknowledged. -/
theorem flashSbs2Shared_eq (envs : Nat → ExchangeOutcomes) (cmd : UInt16) (data : List UInt8)
    (s : Session)
    : s.avcomIntFlashSbs2Shared envs cmd data
      = StopAndWait.run Session.hand aovNoError s (items envs cmd data) := by
  rw [items, List.cons_append, StopAndWait.run, Session.avcomIntFlashSbs2Shared]
  refine congrArg (s.exchange saRxSize (envs 0) apiRecvStart (startPacket data)).bind
    (funext fun started => ?_)
  rw [ite_not, StopAndWait.run_append, flashBlocks_eq]
  split_ifs
  · refine congrArg (Option.bind _) (funext fun transferred => ?_)
    rw [ite_not, StopAndWait.run_singleton]
    rfl
  · rfl

-----------------------------------------------------------------------------------------
-- What an upgrade sends
-----------------------------------------------------------------------------------------

/-- A turn that answers a request: its packet was sent, and the command was acknowledged. -/
structure Answers (request : Request) (turn : Turn) : Prop where
  sent : turn.sent = request.2
  line : turn.line <+: avcomIntAssemblePacket request.2
  acked : turn.Acked request.1

/-- The turns of an upgrade that stopped at `request`: all before it were answered, and it was
not sent, or sent and not acknowledged.
-/
structure StoppedAt (done : List Request) (request : Request) (turns : List Turn) : Prop where
  answered : List.Forall₂ Answers done (turns.take done.length)
  last
    : turns.length = done.length
      ∨ ∃ turn, turns = turns.take done.length ++ [turn] ∧ turn.sent = request.2
        ∧ turn.line <+: avcomIntAssemblePacket request.2 ∧ ¬ turn.Acked request.1

/-- An exchange that succeeds has answered its request. -/
theorem hand_answers {s next : Session} {item : Item}
    (handed : s.hand item = some (aovNoError, next))
    : ∃ turn, next.turns = s.turns ++ [turn] ∧ Answers item.2 turn := by
  rcases Session.exchange_cases handed with
    ⟨-, error, -⟩ | ⟨-, received, -, -, -, turn, turns, sent, line, -, acked⟩
  · exact absurd rfl error
  · exact ⟨turn, turns, sent, line ▸ List.take_prefix .., acked.mp rfl⟩

/-- All that was taken was answered. -/
theorem taken_answers {s final : Session} {handed : List Item} (fresh : s.turns = [])
    (taken : StopAndWait.Taken Session.hand aovNoError s handed final)
    : List.Forall₂ Answers (handed.map Prod.snd) final.turns := by
  refine taken.keeps (P := fun before next => List.Forall₂ Answers (before.map Prod.snd) next.turns)
    (by rw [fresh]; exact .nil) fun before item s next answered handed => ?_
  obtain ⟨turn, turns, answers⟩ := hand_answers handed
  rw [turns, List.map_append]
  exact List.rel_append answered (.cons answers .nil)

/-- What an upgrade has done when it returns. It has succeeded exactly if every packet of the
plan was sent and acknowledged; otherwise it has stopped at the first that was not, and has
sent nothing behind that.
-/
theorem flash_cases {envs : Nat → ExchangeOutcomes} {cmd : UInt16} {data : List UInt8}
    {s final : Session} {iResult : Int} (fresh : s.turns = [])
    (returned : s.avcomIntFlashSbs2Shared envs cmd data = some (iResult, final))
    : (iResult = aovNoError ∧ List.Forall₂ Answers (plan cmd data) final.turns)
      ∨ (iResult ≠ aovNoError ∧ ∃ done request rest,
        plan cmd data = done ++ request :: rest ∧ StoppedAt done request final.turns) := by
  rw [flashSbs2Shared_eq] at returned
  rcases StopAndWait.run_cases returned with
    ⟨success, taken⟩ | ⟨error, done, item, rest, middle, split, taken, last⟩
  · exact .inl ⟨success, map_items envs cmd data ▸ taken_answers fresh taken⟩
  · have answered := taken_answers fresh taken
    have length : middle.turns.length = (done.map Prod.snd).length := answered.length_eq.symm
    refine .inr ⟨error, done.map Prod.snd, item.2, rest.map Prod.snd, ?_, ?_⟩
    · rw [← map_items envs, split, List.map_append, List.map_cons]
    · rcases Session.exchange_cases last with
        ⟨-, -, rfl⟩ | ⟨-, received, -, -, -, turn, turns, sent, line, -, acked⟩
      · exact ⟨by rwa [← length, List.take_length], .inl length⟩
      · have front : final.turns.take (done.map Prod.snd).length = middle.turns := by
          rw [turns, List.take_left' length]
        refine ⟨by rwa [front], .inr ⟨turn, by rw [front, turns], sent,
          line ▸ List.take_prefix .., fun answered => error (acked.mpr answered)⟩⟩

-----------------------------------------------------------------------------------------
-- What the packets are for
-----------------------------------------------------------------------------------------

/-- What a loader has of a file: nothing yet; the blocks before `next`; the whole file, for the
command that is to use it; or packets that do not belong together.
-/
inductive Loader where
  | idle
  | receiving (dataLen blocks : Nat) (fileCrc : UInt16) (next : Nat) (file : List UInt8)
  | flashes (cmd : UInt16) (file : List UInt8)
  | confused
  deriving DecidableEq, Repr

/-- What a loader makes of one packet: it takes blocks in their order only, and a command only
with the whole file, of the announced length and checksum.
-/
def Loader.step (loader : Loader) (packet : List UInt8) : Loader :=
  let bytes := fun index => packet.getD index 0
  let cmd := unpack2 bytes 0
  match loader with
  | .idle =>
      if cmd = apiRecvStart ∧ packet.length = 12 then
        .receiving (unpack4 bytes 2).toNat (unpack4 bytes 6).toNat (unpack2 bytes 10) 1 []
      else .confused
  | .receiving dataLen blocks fileCrc next file =>
      if cmd = apiFileBlock then
        if (unpack4 bytes 6).toNat = next ∧ packet.length = 10 + (unpack4 bytes 2).toNat then
          .receiving dataLen blocks fileCrc (next + 1) (file ++ packet.drop 10)
        else .confused
      else if packet.length = 2 ∧ next = blocks + 1 ∧ file.length = dataLen
          ∧ crcFast file = fileCrc then
        .flashes cmd file
      else .confused
  | .flashes _ _ | .confused => .confused

/-- A loader that has the first blocks of the file, and expects the next one. -/
def halfway (data : List UInt8) (i : Nat) : Loader :=
  .receiving data.length (numi data.length) (crcFast data) i (data.take ((i - 1) * 512))

/-- A loader that has not got the whole file yet. -/
def Loading (data : List UInt8) (loader : Loader) : Prop :=
  loader = .idle ∨ ∃ i, loader = halfway data i

/-- The blocks are those of the whole file. -/
theorem numi_bounds (dataLen : Nat)
    : dataLen ≤ numi dataLen * 512 ∧ numi dataLen * 512 < dataLen + 512 := by
  rw [numi]
  split_ifs <;> omega

theorem sendLen_bounds (dataLen i : Nat) : sendLen dataLen i ≤ 512 := by
  rw [sendLen]
  split_ifs <;> omega

/-- The bytes of a block are the next ones of the file. -/
theorem blockBytes_eq (data : List UInt8) (i : Nat)
    : (List.range (sendLen data.length i)).map (fun ii => data.getD ((i - 1) * 512 + ii) 0)
      = (data.drop ((i - 1) * 512)).take 512 := by
  have length : sendLen data.length i = min 512 (data.length - (i - 1) * 512) := by
    rw [sendLen]
    split_ifs <;> omega
  refine List.ext_getElem (by simp [length]) fun ii inside _ => ?_
  have within : (i - 1) * 512 + ii < data.length := by
    simp [length] at inside
    omega
  simp [within]

section

variable {data : List UInt8} (int : data.length < 2 ^ 31)

include int

/-- The first packet announces the file. -/
theorem step_start : Loader.idle.step (startPacket data) = halfway data 1 := by
  have blocks := (numi_bounds data.length).2
  have cmd : unpack2 (fun index => (startPacket data).getD index 0) 0 = apiRecvStart :=
    unpack2_eq_iff.mpr rfl
  have length : (unpack4 (fun index => (startPacket data).getD index 0) 2).toNat = data.length :=
    unpack4_packed (by omega) rfl
  have count : (unpack4 (fun index => (startPacket data).getD index 0) 6).toNat
      = numi data.length :=
    unpack4_packed (by omega) rfl
  have sum : unpack2 (fun index => (startPacket data).getD index 0) 10 = crcFast data :=
    unpack2_eq_iff.mpr rfl
  rw [Loader.step, if_pos ⟨cmd, rfl⟩, length, count, sum]
  simp [halfway]

/-- A block is taken by a loader that expects it. -/
theorem step_block {i : Nat} (first : 1 ≤ i) (last : i ≤ numi data.length)
    : (halfway data i).step (blockPacket data i) = halfway data (i + 1) := by
  have blocks := (numi_bounds data.length).2
  have bytes := sendLen_bounds data.length i
  have cmd : unpack2 (fun index => (blockPacket data i).getD index 0) 0 = apiFileBlock :=
    unpack2_eq_iff.mpr rfl
  have length : (unpack4 (fun index => (blockPacket data i).getD index 0) 2).toNat
      = sendLen data.length i :=
    unpack4_packed (by omega) rfl
  have number : (unpack4 (fun index => (blockPacket data i).getD index 0) 6).toNat = i :=
    unpack4_packed (by omega) rfl
  have whole : (blockPacket data i).length = 10 + sendLen data.length i := by
    simp [blockPacket, pack2, pack4]
    omega
  have next : (i + 1 - 1) * 512 = (i - 1) * 512 + 512 := by omega
  have block : data.take ((i - 1) * 512) ++ (blockPacket data i).drop 10
      = data.take ((i + 1 - 1) * 512) := by
    rw [next, List.take_add, ← blockBytes_eq data i]
    rfl
  rw [halfway, Loader.step, if_pos cmd, length, number, if_pos ⟨rfl, whole⟩, block]
  rfl

end

/-- A command with the whole file makes the loader use it. -/
theorem step_command {cmd : UInt16} (command : cmd ≠ apiFileBlock) (data : List UInt8)
    : (halfway data (numi data.length + 1)).step (pack2 cmd) = .flashes cmd data := by
  have named : unpack2 (fun index => (pack2 cmd).getD index 0) 0 = cmd := by
    rw [unpack2_eq_iff]
    rfl
  have whole : data.take ((numi data.length + 1 - 1) * 512) = data := by
    rw [Nat.add_sub_cancel]
    exact List.take_of_length_le (numi_bounds data.length).1
  have length : (pack2 cmd).length = 2 := rfl
  rw [halfway, whole, Loader.step, named, if_neg command]
  simp [length]

/-- What a loader has once it got the announcement and the first blocks. -/
theorem foldl_blocks {data : List UInt8} (int : data.length < 2 ^ 31) {count : Nat}
    (within : count ≤ numi data.length)
    : ((startPacket data :: (List.range' 1 count).map (blockPacket data)).foldl Loader.step .idle)
      = halfway data (count + 1) := by
  induction count with
  | zero =>
      rw [List.range'_zero, List.map_nil, List.foldl_cons, List.foldl_nil]
      exact step_start int
  | succ count ih =>
      rw [List.range'_concat, List.map_append, ← List.cons_append, List.foldl_append,
        ih (by omega), List.map_singleton, List.foldl_cons, List.foldl_nil, one_mul, Nat.add_comm 1]
      exact step_block int (by omega) within

/-- The packets of the plan. -/
theorem plan_packets (cmd : UInt16) (data : List UInt8)
    : (plan cmd data).map Prod.snd
      = startPacket data :: (List.range' 1 (numi data.length)).map (blockPacket data)
        ++ [pack2 cmd] := by
  simp [plan, blockRequest]

/-- All packets of the plan make a loader use the file. -/
theorem foldl_plan {cmd : UInt16} (command : cmd ≠ apiFileBlock) {data : List UInt8}
    (int : data.length < 2 ^ 31)
    : ((plan cmd data).map Prod.snd).foldl Loader.step .idle = .flashes cmd data := by
  rw [plan_packets, List.foldl_append, foldl_blocks int le_rfl, List.foldl_cons, List.foldl_nil]
  exact step_command command data

/-- Fewer packets leave it waiting for the rest. -/
theorem foldl_prefix {cmd : UInt16} {data : List UInt8} (int : data.length < 2 ^ 31)
    {packets : List (List UInt8)} (first : packets <+: (plan cmd data).map Prod.snd)
    (short : packets.length ≤ numi data.length + 1)
    : Loading data (packets.foldl Loader.step .idle) := by
  rw [plan_packets] at first
  have before : packets
      <+: startPacket data :: (List.range' 1 (numi data.length)).map (blockPacket data) :=
    List.prefix_of_prefix_length_le first (List.prefix_append _ _) (by simpa using short)
  cases packets with
  | nil => exact .inl rfl
  | cons packet rest =>
      obtain ⟨rfl, blocks⟩ := List.cons_prefix_cons.mp before
      have within : rest.length ≤ numi data.length := by simpa using short
      have count : rest = (List.range' 1 rest.length).map (blockPacket data) := by
        have taken := List.prefix_iff_eq_take.mp blocks
        have range : (List.range' 1 (numi data.length)).take rest.length
            = List.range' 1 rest.length := by
          rw [← Nat.sub_add_cancel within, Nat.add_comm, ← List.range'_append_1]
          exact List.take_left' (by simp)
        rwa [← List.map_take, range] at taken
      have loads := foldl_blocks int within
      rw [← count] at loads
      exact .inr ⟨_, loads⟩

-----------------------------------------------------------------------------------------
-- Upgrades
-----------------------------------------------------------------------------------------

theorem Answers.map_sent {requests : List Request} {turns : List Turn}
    (answered : List.Forall₂ Answers requests turns)
    : turns.map Turn.sent = requests.map Prod.snd := by
  induction answered with
  | nil => rfl
  | cons answers _ ih => rw [List.map_cons, List.map_cons, answers.sent, ih]

/-- What a stopped upgrade has sent are the first packets of the plan. -/
theorem StoppedAt.sent_prefix {done rest : List Request} {request : Request} {turns : List Turn}
    (stopped : StoppedAt done request turns)
    : turns.map Turn.sent <+: (done ++ request :: rest).map Prod.snd := by
  have answered := Answers.map_sent stopped.answered
  rcases stopped.last with length | ⟨turn, split, sent, -, -⟩
  · rw [← length, List.take_length] at answered
    rw [answered, List.map_append]
    exact List.prefix_append _ _
  · rw [split, List.map_append, answered, List.map_append, List.map_cons, List.map_cons, sent]
    exact (List.prefix_append_right_inj _).mpr ⟨rest.map Prod.snd, rfl⟩

/-- A stopped upgrade has not been answered in full. -/
theorem StoppedAt.not_answered {done rest : List Request} {request : Request} {turns : List Turn}
    (stopped : StoppedAt done request turns)
    : ¬ List.Forall₂ Answers (done ++ request :: rest) turns := by
  intro answered
  have lengths := answered.length_eq
  rw [List.length_append, List.length_cons] at lengths
  rcases stopped.last with length | ⟨turn, split, -, -, unanswered⟩
  · omega
  · have front : (turns.take done.length).length = done.length :=
      stopped.answered.length_eq.symm
    rw [split] at answered
    have last := List.forall₂_drop_append _ _ _ answered
    rw [front, List.drop_left] at last
    cases last with
    | cons answers _ => exact unanswered answers.acked

/-- An analyzer that acknowledges everything, during the upgrade with one block. -/
def acknowledging : Nat → ExchangeOutcomes
  | 0 => answering (ack apiRecvStart)
  | 1 => answering (ack apiFileBlock)
  | _ => answering (ack apiFlashMainStart)

end Reconn.Analyzer
