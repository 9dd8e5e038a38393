import Reconn.Library.PastTime
import Reconn.Network.LinkWatch

/-! What the master is told of the USB link, by Usb0IpWatchTask of network.c. The task polls the
link while there is a master, and tells the master what it has read if it has read something else
before, or has seen that there was no master. A netlink message that leaves headerBuf, or through
which the walk leaves what was received, ends the runs: what the variables are worth then is not
known.
-/

namespace Reconn.Network

open Appends Relation TransitionRuns PastTime

-----------------------------------------------------------------------------------------
-- Following the walk through a message
-----------------------------------------------------------------------------------------

namespace Walk

/-- The inner loop has come to an address, of which the master is told. -/
def AtAddress (m : Memory) (w : Walk) : Prop :=
  match w.attributes with
  | none => False
  | some (rth, rtl) => RtaOk m rth rtl ∧ rtaType m rth = ifaAddress

instance decidableAtAddress (m : Memory) : (w : Walk) → Decidable (AtAddress m w)
  | ⟨_, _, none⟩ => .isFalse id
  | ⟨_, _, some (_, _)⟩ => inferInstanceAs (Decidable (_ ∧ _))

instance decidableBetween (first behind : Nat) (read : Read)
    : Decidable (read.Between first behind) :=
  inferInstanceAs (Decidable (_ ∧ _))

/-- At most so many turns from here on, as long as they read between the two indices: the
addresses that they come to, and where the pointer is at the end.
-/
def follow (m : Memory) (first behind : Nat) : Nat → Walk → Option (Nat × Nat)
  | 0, _ => none
  | turns + 1, w =>
      if ∀ read ∈ (w.turn m).1, read.Between first behind then
        match (w.turn m).2 with
        | none => some (0, w.netLinkHeader)
        | some next =>
            (follow m first behind turns next).map fun (addresses, netLinkHeader) =>
              ((if w.AtAddress m then 1 else 0) + addresses, netLinkHeader)
      else none

/-- The turns that a walk through received bytes has still to take, at most. -/
def turnsLeft (m : Memory) (w : Walk) : Nat :=
  match w.attributes with
  | none => 2 * w.len + 1
  | some (_, rtl) => 2 * (nlmsgNext m w.netLinkHeader w.len).len + 2 + rtl.toNat

variable {m : Memory} {first behind turns : Nat} {w : Walk} {result : Nat × Nat}

/-- What is followed is a walk to its end that reads between the two indices, by induction on
the turns.
-/
theorem of_follow (followed : follow m first behind turns w = some result)
    : (∃ last, ReflTransGen (Goes m) w last ∧ (last.turn m).2 = none
        ∧ last.netLinkHeader = result.2)
      ∧ ∀ later, ReflTransGen (Goes m) w later →
        (∀ read ∈ (later.turn m).1, read.Between first behind)
          ∧ ((later.turn m).2 = none → later.netLinkHeader = result.2) := by
  induction turns generalizing w result with
  | zero => cases followed
  | succ turns ih =>
      obtain ⟨reads, followed⟩ := Option.ite_none_right_eq_some.mp followed
      cases goes : (w.turn m).2 with
      | none =>
          rw [goes] at followed
          obtain rfl := Option.some.inj followed
          refine ⟨⟨w, .refl, goes, rfl⟩, fun later turns => ?_⟩
          rcases turns.cases_head with rfl | ⟨next, goes', -⟩
          · exact ⟨reads, fun _ => rfl⟩
          · exact absurd (goes.symm.trans goes') (Option.some_ne_none next).symm
      | some next =>
          rw [goes] at followed
          obtain ⟨rest, further, rfl⟩ := Option.map_eq_some_iff.mp followed
          obtain ⟨⟨last, turns, ends, same⟩, all⟩ := ih further
          refine ⟨⟨last, .head goes turns, ends, same⟩, fun later turns => ?_⟩
          rcases turns.cases_head with rfl | ⟨next', goes', turns⟩
          · exact ⟨reads, fun ends => absurd (goes.symm.trans ends) (Option.some_ne_none next)⟩
          · obtain rfl := Option.some.inj (goes.symm.trans goes')
            exact all later turns

/-- The inner loop comes nearer to its end with every turn. -/
theorem turnsLeft_attribute {netLinkHeader len rth : Nat} {rtl : Int} {next : Walk}
    (goes : (attributeTurn m netLinkHeader len rth rtl).2 = some next)
    : turnsLeft m next < turnsLeft m ⟨netLinkHeader, len, some (rth, rtl)⟩ := by
  by_cases ok : RtaOk m rth rtl
  · rw [attributeTurn_of_ok netLinkHeader len ok] at goes
    obtain rfl := Option.some.inj goes
    have aligned := (rtaAlign_bounds (rtaLen m rth)).1
    obtain ⟨room, longer, -⟩ := ok
    unfold sizeofRtattr at room longer
    simp only [turnsLeft]
    omega
  · rw [attributeTurn_of_not_ok netLinkHeader len ok] at goes
    obtain rfl := Option.some.inj goes
    simp only [turnsLeft, nlmsgNext]
    omega

end Walk

namespace Watch

section Following

variable {s : Watch} {bytes : {bytes : List UInt8 // bytes.length ≤ headerBufSize}}

/-- So does the outer loop, where the padding behind each message was received. -/
theorem turnsLeft_message (padded : WellPadded (load bytes.1) bytes.1.length) {p : Nat}
    (reached : MessageAt (load bytes.1) bytes.1.length p) {next : Walk}
    (goes : (Walk.messageTurn (s.memory (some bytes)) (s.netLinkHeader + p)
      (bytes.1.length - p)).2 = some next)
    : (next.turnsLeft (s.memory (some bytes)))
      < Walk.turnsLeft (s.memory (some bytes))
        ⟨s.netLinkHeader + p, bytes.1.length - p, none⟩ := by
  by_cases accepted : Accepted (load bytes.1) bytes.1.length p
  swap
  · rw [messageTurn_of_not_accepted s bytes accepted] at goes
    cases goes
  have padding := padded.padding p reached accepted
  have small : bytes.1.length ≤ 1024 := bytes.2
  obtain ⟨ends, longer, -, -⟩ := fields_of_accepted s bytes accepted
  have aligned := (nlmsgAlign_bounds (le_trans (Nat.le_add_left _ p) (le_trans ends small))).1
  rw [messageTurn_of_accepted s bytes accepted] at goes
  obtain rfl := Option.some.inj goes
  unfold sizeofNlmsghdr at longer
  by_cases newaddr : nlmsgType (load bytes.1) p = rtmNewaddr
  · rw [if_pos newaddr]
    simp only [Walk.turnsLeft, nlmsgNext_of_accepted s bytes accepted padding]
    unfold ifaRta nlmsgData sizeofNlmsghdr sizeofIfaddrmsg
    omega
  · rw [if_neg newaddr]
    simp only [Walk.turnsLeft, nlmsgNext_of_accepted s bytes accepted padding]
    omega

/-- A walk through well padded bytes can be followed to its end, by induction on the turns. -/
theorem follow_isSome (padded : WellPadded (load bytes.1) bytes.1.length) {turns : Nat} {w : Walk}
    (placed : Placed s bytes w) (enough : w.turnsLeft (s.memory (some bytes)) ≤ turns)
    : (Walk.follow (s.memory (some bytes)) s.netLinkHeader
        (s.netLinkHeader + bytes.1.length) turns w).isSome = true := by
  induction turns generalizing w with
  | zero =>
      have some_ : 0 < w.turnsLeft (s.memory (some bytes)) := by
        unfold Walk.turnsLeft
        split <;> omega
      omega
  | succ turns ih =>
      have turn
          : (∀ read ∈ (w.turn (s.memory (some bytes))).1,
              read.Between s.netLinkHeader (s.netLinkHeader + bytes.1.length))
            ∧ ∀ next, (w.turn (s.memory (some bytes))).2 = some next →
              Placed s bytes next
                ∧ next.turnsLeft (s.memory (some bytes))
                  < w.turnsLeft (s.memory (some bytes)) := by
        cases placed with
        | atMessage reached _ =>
            obtain ⟨reads, later⟩ := placed_message (s := s) padded reached
            exact ⟨reads, fun next goes => ⟨later next goes, turnsLeft_message padded reached goes⟩⟩
        | atAttribute reached accepted newaddr within =>
            obtain ⟨reads, later⟩ :=
              placed_attribute (s := s) padded reached accepted newaddr within
            exact ⟨reads, fun next goes => ⟨later next goes, Walk.turnsLeft_attribute goes⟩⟩
      rw [Walk.follow, if_pos turn.1]
      cases goes : (w.turn (s.memory (some bytes))).2 with
      | none => rfl
      | some next =>
          obtain ⟨placed, fewer⟩ := turn.2 next goes
          simpa using ih placed (by omega)

end Following

/-- recv() and the walk after it, if they keep to headerBuf and to what recv() has returned: the
addresses that the master is told of, and the task before the next recv().
-/
def receive (s : Watch) (r : Received) : Option (Nat × Watch) :=
  if (returned r).length = 0 ∨ s.netLinkHeader + (returned r).length ≤ headerBufSize then
    if len r = 0 then some (0, ⟨s.memory r, s.netLinkHeader⟩)
    else
      (Walk.follow (s.memory r) s.netLinkHeader (s.netLinkHeader + (returned r).length)
          (2 * headerBufSize + 1) ⟨s.netLinkHeader, len r, none⟩).map
        fun (addresses, netLinkHeader) => (addresses, ⟨s.memory r, netLinkHeader⟩)
  else none

variable {s next : Watch} {r : Received} {addresses : Nat}

/-- What is received so keeps to its bytes, and the task is where the walk leaves it. -/
theorem of_receive (received : s.receive r = some (addresses, next))
    : s.Respects r ∧ ∀ other, s.Leaves r other ↔ other = next := by
  obtain ⟨fits, received⟩ := Option.ite_none_right_eq_some.mp received
  have writes : Inside headerBufSize [s.store r] :=
    inside_singleton.mpr (fits.imp List.length_eq_zero_iff.mp Int.ofNat_le.mpr)
  by_cases none_ : len r = 0
  · rw [if_pos none_] at received
    obtain ⟨rfl, rfl⟩ := Prod.mk.inj (Option.some.inj received)
    refine ⟨⟨writes, fun w visits => absurd visits.1 (by omega)⟩, fun other => ?_⟩
    constructor
    · rintro ⟨memory, ⟨-, same⟩ | ⟨w, visits, -⟩⟩
      · cases other
        exact congrArg₂ Watch.mk memory same
      · exact absurd visits.1 (by omega)
    · rintro rfl
      exact ⟨rfl, .inl ⟨none_, rfl⟩⟩
  · rw [if_neg none_] at received
    obtain ⟨result, followed, same⟩ := Option.map_eq_some_iff.mp received
    obtain ⟨rfl, rfl⟩ := Prod.mk.inj same
    obtain ⟨⟨last, turns, ends, there⟩, all⟩ := Walk.of_follow followed
    refine ⟨⟨writes, fun w visits => (all w visits.2).1⟩, fun other => ?_⟩
    constructor
    · rintro ⟨memory, ⟨nothing, -⟩ | ⟨w, visits, ends, same⟩⟩
      · exact absurd nothing none_
      · cases other
        exact congrArg₂ Watch.mk memory (same.trans ((all w visits.2).2 ends))
    · rintro rfl
      exact ⟨rfl, .inr ⟨last, ⟨Nat.pos_of_ne_zero none_, turns⟩, ends, there.symm⟩⟩

/-- Everything else leaves headerBuf, or what was received. -/
theorem receive_isSome_iff (inside : s.netLinkHeader ≤ headerBufSize)
    : (s.receive r).isSome = true ↔ s.Respects r := by
  constructor
  · intro received
    obtain ⟨⟨addresses, next⟩, received⟩ := Option.isSome_iff_exists.mp received
    exact (of_receive received).1
  · intro respects
    cases r with
    | none => exact absurd respects (not_respects_none s)
    | some bytes =>
        have good := good_of_respects inside respects
        unfold receive
        rw [if_pos (.inr good.fits)]
        split_ifs with none_
        · rfl
        · have size : bytes.1.length ≤ headerBufSize := bytes.2
          have first : Placed s bytes ⟨s.netLinkHeader, bytes.1.length, none⟩ :=
            .atMessage .first (Nat.zero_le _)
          have enough
              : Walk.turnsLeft (s.memory (some bytes)) ⟨s.netLinkHeader, bytes.1.length, none⟩
                ≤ 2 * headerBufSize + 1 := by
            simp only [Walk.turnsLeft]
            omega
          exact Option.isSome_map.trans (follow_isSome good.padded first enough)

/-- The pointer of a task that keeps to headerBuf stays inside it. -/
theorem inside_of_leaves (inside : s.netLinkHeader ≤ headerBufSize) (respects : s.Respects r)
    (leaves : s.Leaves r next)
    : next.netLinkHeader ≤ headerBufSize := by
  cases r with
  | none => exact absurd respects (not_respects_none s)
  | some bytes =>
      have good := good_of_respects inside respects
      obtain ⟨-, p, ends, same⟩ := (leaves_iff good.padded).mp leaves
      have within : p ≤ bytes.1.length := good.padded.messageAt_le ends.1
      have fits := good.fits
      omega

end Watch

-----------------------------------------------------------------------------------------
-- The loop of the task
-----------------------------------------------------------------------------------------

/-- LINKSTATUS_e -/
def linkDown : UInt8 := 0
def linkUp : UInt8 := 1
def ipChange : UInt8 := 2

/-- What the carrier file has while the link is up, the character 1. -/
def carrierUp : UInt8 := 49

/-- One turn of the loop. -/
inductive LinkEvent where
  /-- no master is connected -/
  | noMaster
  /-- select() times out; whether the carrier file opens, the byte that fread() gives, and whether
  errno is EINVAL after that
  -/
  | timeout (fopen : Bool) (fread : Option UInt8) (einval : Bool)
  /-- select() finds a netlink message, and recv() returns -/
  | received (r : Received)

/-- The variables of the loop. -/
structure LinkStatus where
  watch : Watch
  theValue : UInt8
  oldLinkState : UInt8
  messageSent : Bool

/-- The payload of the notification of what was read. -/
def statusByte (theValue : UInt8) : UInt8 := if theValue = carrierUp then linkUp else linkDown

namespace LinkStatus

/-- Before the first turn, with whatever is in headerBuf. -/
def start (headerBuf : Memory) : LinkStatus := ⟨⟨headerBuf, 0⟩, linkDown, linkDown, false⟩

/-- What was read is compared with what was read before. -/
def compare (s : LinkStatus) : LinkStatus × List UInt8 :=
  if s.oldLinkState ≠ s.theValue ∨ s.messageSent = false then
    ({ s with oldLinkState := s.theValue, messageSent := true }, [statusByte s.theValue])
  else (s, [])

@[simp] theorem compare_watch (s : LinkStatus) : s.compare.1.watch = s.watch := by
  unfold LinkStatus.compare
  split_ifs <;> rfl

/-- One turn of the loop, with the payloads of the notifications that it sends to the master, if
it keeps to headerBuf and to what it receives.
-/
def step (s : LinkStatus) : LinkEvent → Option (LinkStatus × List UInt8)
  | .noMaster => some ({ s with messageSent := false }, [])
  | .timeout false _ _ => some (s, [])
  | .timeout true fread einval =>
      if fread = none ∧ einval = false then some (s, [])
      else
        let read := fread.getD s.theValue
        some { s with theValue := if einval then linkDown else read }.compare
  | .received r =>
      (s.watch.receive r).map fun (addresses, watch) =>
        ({ s with watch }, List.replicate addresses ipChange)

end LinkStatus

/-- What a turn reads of the link: an error that is taken for one is a link that is down. -/
def LinkEvent.polled : LinkEvent → Option UInt8
  | .timeout true fread einval => if einval then some linkDown else fread
  | .noMaster | .timeout false _ _ | .received _ => none

/-- What a turn receives. -/
def LinkEvent.received? : LinkEvent → Option Received
  | .received r => some r
  | .noMaster | .timeout _ _ _ => none

/-- The task takes all turns of a sequence exactly if it keeps to headerBuf and to what it receives
in them, by induction on the turns.
-/
theorem taken_iff_safe {s : LinkStatus} (inside : s.watch.netLinkHeader ≤ headerBufSize)
    (events : List LinkEvent)
    : (replay LinkStatus.step s events).1.length = events.length
      ↔ s.watch.Safe (events.filterMap LinkEvent.received?) := by
  induction events generalizing s with
  | nil => exact iff_of_true rfl trivial
  | cons event rest ih =>
      have quiet {next : LinkStatus} {output : List UInt8}
          (taken : s.step event = some (next, output)) (same : next.watch = s.watch)
          (unread : event.received? = none)
          : (replay LinkStatus.step s (event :: rest)).1.length = (event :: rest).length
            ↔ s.watch.Safe ((event :: rest).filterMap LinkEvent.received?) := by
        simp only [replay, taken, List.length_cons, Nat.add_right_cancel_iff,
          List.filterMap_cons, unread]
        rw [ih (same ▸ inside), same]
      cases event with
      | noMaster => exact quiet rfl rfl rfl
      | timeout fopen fread einval =>
          cases fopen with
          | false => exact quiet rfl rfl rfl
          | true =>
              by_cases unread : fread = none ∧ einval = false
              · exact quiet (if_pos unread) rfl rfl
              · exact quiet (if_neg unread) (LinkStatus.compare_watch _) rfl
      | received r =>
          have messages : (LinkEvent.received r :: rest).filterMap LinkEvent.received?
              = r :: rest.filterMap LinkEvent.received? := rfl
          rw [messages, Watch.Safe, ← Watch.receive_isSome_iff inside]
          cases received : s.watch.receive r with
          | none => simp [replay, LinkStatus.step, received]
          | some result =>
              obtain ⟨addresses, next⟩ := result
              obtain ⟨respects, leaves⟩ := Watch.of_receive received
              have later := Watch.inside_of_leaves inside respects ((leaves next).mpr rfl)
              have step : s.step (.received r)
                  = some ({ s with watch := next }, List.replicate addresses ipChange) := by
                simp [LinkStatus.step, received]
              simp only [replay, step, List.length_cons, Nat.add_right_cancel_iff, leaves,
                forall_eq, Option.isSome_some, true_and]
              exact @ih { s with watch := next } later

/-- A turn of the loop. -/
abbrev LinkTurn := Transition LinkStatus LinkEvent (List UInt8)

namespace LinkTurn

/-- The same was read before, and since then nothing else, and there was always a master. -/
def ReadBefore (value : UInt8) : List LinkTurn → Prop :=
  Since
    (fun t => t.event ≠ .noMaster ∧ ∀ other, t.event.polled = some other → other = value)
    fun _ t => t.event.polled = some value

/-- A master was told so, and since then nothing else of the link, and there was always a master.
-/
def Told (value : UInt8) : List LinkTurn → Prop :=
  Since
    (fun t => t.event ≠ .noMaster ∧ ∀ told ∈ t.output, told = ipChange ∨ told = statusByte value)
    fun _ t => statusByte value ∈ t.output

/-- What the variables say about the past. -/
structure Explained (past : List LinkTurn) (s : LinkStatus) : Prop where
  readBefore : ∀ value, s.messageSent = true ∧ s.oldLinkState = value ↔ ReadBefore value past
  told : s.messageSent = true → Told s.oldLinkState past

variable {past : List LinkTurn} {s next : LinkStatus} {event : LinkEvent} {output : List UInt8}

theorem explained_start (headerBuf : Memory) : Explained [] (.start headerBuf) where
  readBefore := fun _ => iff_of_false (fun h => Bool.noConfusion h.1) not_since_nil
  told := Bool.noConfusion

/-- A turn that reads nothing says nothing of the link. -/
theorem step_of_polled_none (polled : event.polled = none) (master : event ≠ .noMaster)
    (taken : s.step event = some (next, output))
    : next.messageSent = s.messageSent ∧ next.oldLinkState = s.oldLinkState
      ∧ ∀ told ∈ output, told = ipChange := by
  match event with
  | .noMaster => exact absurd rfl master
  | .timeout false _ _ =>
      obtain ⟨rfl, rfl⟩ := Prod.mk.inj (Option.some.inj taken)
      exact ⟨rfl, rfl, List.forall_mem_nil _⟩
  | .timeout true fread einval =>
      cases einval with
      | true => cases polled
      | false =>
          have unread : fread = none := polled
          rw [unread] at taken
          obtain ⟨rfl, rfl⟩ := Prod.mk.inj (Option.some.inj taken)
          exact ⟨rfl, rfl, List.forall_mem_nil _⟩
  | .received r =>
      obtain ⟨⟨addresses, watch⟩, -, same⟩ := Option.map_eq_some_iff.mp taken
      obtain ⟨rfl, rfl⟩ := Prod.mk.inj same
      exact ⟨rfl, rfl, fun told member => List.eq_of_mem_replicate member⟩

/-- A turn that reads something tells it, unless that is what was told last. -/
theorem step_of_polled_some {value : UInt8} (polled : event.polled = some value)
    (taken : s.step event = some (next, output))
    : next.messageSent = true ∧ next.oldLinkState = value
      ∧ output
        = if s.messageSent = true ∧ s.oldLinkState = value then [] else [statusByte value] := by
  match event with
  | .noMaster | .timeout false _ _ | .received _ => cases polled
  | .timeout true fread einval =>
      have read : ¬ (fread = none ∧ einval = false) := by
        rintro ⟨rfl, rfl⟩
        cases polled
      have same : (if einval then linkDown else fread.getD s.theValue) = value := by
        cases einval with
        | true => exact Option.some.inj polled
        | false =>
            have given : fread = some value := polled
            rw [given]
            rfl
      simp only [LinkStatus.step, if_neg read, same, LinkStatus.compare] at taken
      split_ifs at taken with differs
      · obtain ⟨rfl, rfl⟩ := Prod.mk.inj (Option.some.inj taken)
        refine ⟨rfl, rfl, (if_neg ?_).symm⟩
        rintro ⟨sent, old⟩
        simp [sent, old] at differs
      · obtain ⟨rfl, rfl⟩ := Prod.mk.inj (Option.some.inj taken)
        rw [not_or, not_not, Bool.not_eq_false] at differs
        exact ⟨differs.2, differs.1, (if_pos differs.symm).symm⟩

/-- Every turn explains the variables anew, by cases on what it reads. -/
theorem Explained.step (explained : Explained past s)
    (taken : s.step event = some (next, output))
    : Explained (past ++ [⟨s, event, output, next⟩]) next := by
  by_cases master : event = .noMaster
  · obtain ⟨rfl, rfl⟩ : { s with messageSent := false } = next ∧ [] = output := by
      rw [master] at taken
      exact Prod.mk.inj (Option.some.inj taken)
    refine ⟨fun value => iff_of_false (fun h => Bool.noConfusion h.1) ?_, Bool.noConfusion⟩
    rw [ReadBefore, since_concat_iff]
    rintro (now | ⟨⟨present, -⟩, -⟩)
    · rw [master] at now
      cases now
    · exact present master
  cases polled : event.polled with
  | none =>
      obtain ⟨sent, old, silent⟩ := step_of_polled_none polled master taken
      refine ⟨fun value => ?_, fun sent' => ?_⟩
      · rw [sent, old, explained.readBefore value, ReadBefore, since_concat_iff]
        simp [polled, master]
      · rw [old]
        exact (explained.told (sent ▸ sent')).goes_on
          ⟨master, fun told member => .inl (silent told member)⟩
  | some value =>
      obtain ⟨sent, old, told⟩ := step_of_polled_some polled taken
      refine ⟨fun other => ?_, fun _ => ?_⟩
      · rw [ReadBefore, since_concat_iff, sent, old]
        simp only [polled, Option.some.injEq, true_and]
        constructor
        · exact .inl
        · rintro (now | ⟨⟨-, only⟩, -⟩)
          · exact now
          · exact only value rfl
      · rw [old]
        by_cases before : s.messageSent = true ∧ s.oldLinkState = value
        · rw [if_pos before] at told
          have since := explained.told before.1
          rw [before.2] at since
          exact since.goes_on ⟨master, by simp [told]⟩
        · rw [if_neg before] at told
          exact since_now (by simp [told])

/-- A turn that reads something is told exactly unless the same was read before. -/
theorem told_of_run {headerBuf : Memory} {finish : LinkStatus}
    {transitions past later : List LinkTurn} {t : LinkTurn}
    (run : Run LinkStatus.step (.start headerBuf) transitions finish)
    (parts : transitions = past ++ t :: later) {value : UInt8}
    (polled : t.event.polled = some value)
    : (t.output = [] ∧ ReadBefore value past
        ∨ t.output = [statusByte value] ∧ ¬ ReadBefore value past)
      ∧ Told value (past ++ [t]) := by
  have keep : ∀ past state event next output, Explained past state →
      LinkStatus.step state event = some (next, output) →
      Explained (past ++ [⟨state, event, output, next⟩]) next :=
    fun _ _ _ _ _ explained taken => explained.step taken
  obtain ⟨explained, taken⟩ := related_of_run keep run (explained_start headerBuf) parts
  obtain ⟨sent, old, told⟩ := step_of_polled_some polled taken
  constructor
  · rw [← explained.readBefore value]
    by_cases before : t.before.messageSent = true ∧ t.before.oldLinkState = value
    · exact .inl ⟨told.trans (if_pos before), before⟩
    · exact .inr ⟨told.trans (if_neg before), before⟩
  · have next := (explained.step taken).told sent
    rwa [old] at next

end LinkTurn

/-- A netlink message with a new address. -/
def newAddress : {bytes : List UInt8 // bytes.length ≤ headerBufSize} :=
  ⟨
    [
      32, 0, 0, 0, 20, 0, 0, 0, 0, 0, 0, 0, 0, 0, 0, 0,
      2, 24, 0, 0, 3, 0, 0, 0,
      8, 0, 1, 0, 192, 168, 1, 2
    ],
    by decide
  ⟩

/-- A link that is read to be up twice, and gets an address in between. -/
def readTwice : List LinkEvent :=
  [
    .noMaster, .timeout true (some carrierUp) false, .received (some newAddress),
    .timeout true (some carrierUp) false
  ]

end Reconn.Network
