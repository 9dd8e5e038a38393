import Reconn.Equipment.Published

/-! An upgrade of the spectrum analyzer that is refused before a block was flashed. It has
closed the analyzer and opened it again for itself alone; what it leaves open should again be
what is published, and nothing that it opened should be lost.
-/

namespace Reconn.Equipment

open Client

/-- open() gives a descriptor. -/
def Opens (fds : Int → Fd) (opened : Option Nat) : Prop :=
  ∃ fd, opened = some fd ∧ fds fd = .closed

namespace AnalyzerOutcomes

/-- SpectrumAnalyzerInit comes to SpectrumAnalyzerOpen. -/
def powers (env : AnalyzerOutcomes) : Prop :=
  env.read = reconnSuccess
    ∧ (env.gpioState = gpioIsInactive → env.enable ≠ reconnFailure)

/-- SpectrumAnalyzerInit opens the port. -/
def OpensPort (env : AnalyzerOutcomes) (fds : Int → Fd) : Prop :=
  env.powers ∧ Opens fds env.opened

end AnalyzerOutcomes

namespace State

/-- Whether a flash block is sent from the bootloader on, where `sends` is whether
AVCOM_SA_FlashSBS2 sends one before it returns.
-/
def flashSendsBlock (s : State) (env : UpgradeOutcomes) (sends : Bool) : Bool :=
  if (s.spectrumAnalyzerOpen env.reopened).2 = reconnSuccess then sends else false

/-- SpectrumAnalyzerUpgrade once it has the analyzer for itself. -/
def upgradeExclusively (s : State) (env : UpgradeOutcomes) : State × ReconnErrCode :=
  match env.bootLoaderMode with
  | none => (s, reconnFailure)
  | some bootLoaderMode =>
      if env.fileFound = false then (s, reconnUpgradeFileNotFound)
      else if env.malloc = false ∨ env.fileOpens = false then (s, reconnFailure)
      else if bootLoaderMode then s.flashAnalyzer env
      else
        let left := s.spectrumAnalyzerClose env.closesBootloader none
        if env.bootBootloader then left.1.flashAnalyzer env else (left.1, reconnFailure)

/-- Whether this part sends a flash block. -/
def exclusiveSendsBlock (s : State) (env : UpgradeOutcomes) (sends : Bool) : Bool :=
  match env.bootLoaderMode with
  | none => false
  | some bootLoaderMode =>
      if env.fileFound = false then false
      else if env.malloc = false ∨ env.fileOpens = false then false
      else if bootLoaderMode then s.flashSendsBlock env sends
      else
        let left := s.spectrumAnalyzerClose env.closesBootloader none
        if env.bootBootloader then left.1.flashSendsBlock env sends else false

/-- Whether SpectrumAnalyzerUpgrade sends a flash block. -/
def upgradeSendsBlock (s : State) (env : UpgradeOutcomes) (sends : Bool) : Bool :=
  let closed := s.spectrumAnalyzerClose env.closes (some .analyzerFd)
  if closed.2 = reconnSuccess then
    let init := closed.1.spectrumAnalyzerInit env.exclusive none
    if init.2 = reconnSuccess then init.1.exclusiveSendsBlock env sends else false
  else false

theorem spectrumAnalyzerUpgrade_eq (s : State) (env : UpgradeOutcomes)
    : s.spectrumAnalyzerUpgrade env
      = let closed := s.spectrumAnalyzerClose env.closes (some .analyzerFd)
        if closed.2 = reconnSuccess then
          let init := closed.1.spectrumAnalyzerInit env.exclusive none
          if init.2 = reconnSuccess then init.1.upgradeExclusively env else init
        else closed :=
  rfl

/-- Every descriptor of the analyzer is the one that spectrum.c has now, or was already lost
before.
-/
def LosesNone (s after : State) : Prop :=
  ∀ fd, after.fds fd = .analyzer
    → fd = after.myAnalyzerFd ∨ (s.fds fd = .analyzer ∧ fd ≠ s.myAnalyzerFd)

/-- An upgrade that has failed with no block sent and the port open has published the analyzer
again and lost no descriptor.
-/
def Survives (s : State) (result : State × ReconnErrCode) (sent : Bool) : Prop :=
  result.2 ≠ reconnSuccess → sent = false → result.1.saPortOpen = true
    → result.1.analyzerFd = result.1.myAnalyzerFd ∧ s.LosesNone result.1

/-- The table without the descriptor of the analyzer. -/
def freed (s : State) : Int → Fd := Function.update s.fds s.myAnalyzerFd .closed

end State

/-- When the analyzer survives from the bootloader on. If the port can be opened, a block is
sent; or the flash succeeds without one, and if the port can be opened once more, the analyzer
answers. Where a descriptor is still open, the port can be opened, and the analyzer answers
twice.
-/
def UpgradeOutcomes.FlashSurvives (env : UpgradeOutcomes) (sends : Bool) (fds : Int → Fd)
    (stillOpen : Bool)
    : Prop :=
  (Opens fds env.reopened
    → sends = true
      ∨ (env.flashes = true
        ∧ (env.published.OpensPort fds → env.published.firmwareVersion = true
          ∧ (stillOpen = true → env.firmwareVersion = true))))
    ∧ (stillOpen = true → Opens fds env.reopened)

/-- When the analyzer survives an upgrade for which it was opened alone, with the given
descriptor. Its firmware version and its reference level can be read, the upgrade file is there
and fits the memory, and then it survives the rest, which in bootloader mode begins with the
port open.
-/
def State.ExclusiveSurvives (s : State) (env : UpgradeOutcomes) (sends : Bool) (fd : Nat)
    : Prop :=
  env.exclusive.firmwareVersion = true ∧ env.fileFound = true ∧ env.malloc = true
    ∧ env.fileOpens = true
    ∧ match env.bootLoaderMode with
      | none => False
      | some false => env.bootBootloader = true → env.FlashSurvives sends s.freed false
      | some true => env.FlashSurvives sends (Function.update s.freed fd .analyzer) true

/-- When the analyzer survives an upgrade: if it can be closed and opened again, then as one
that was opened for the upgrade alone.
-/
def State.UpgradeSurvives (s : State) (env : UpgradeOutcomes) (sends : Bool) : Prop :=
  s.fds s.myAnalyzerFd ≠ .closed → env.closes = true → env.exclusive.powers
    → ∀ fd : Nat, env.exclusive.opened = some fd → s.freed fd = .closed
      → s.ExclusiveSurvives env sends fd

-----------------------------------------------------------------------------------------
-- What the calls do to the descriptors
-----------------------------------------------------------------------------------------

namespace State

theorem reconnSerialPortOpenFail_ne_success : reconnSerialPortOpenFail ≠ reconnSuccess := by
  decide

theorem reconnUpgradeFileNotFound_ne_success : reconnUpgradeFileNotFound ≠ reconnSuccess := by
  decide

variable {s : State}

theorem spectrumAnalyzerOpen_opens {fd : Nat} (free : s.fds fd = .closed)
    : s.spectrumAnalyzerOpen (some fd)
      = (
        {
          s with
          fds := Function.update s.fds fd .analyzer
          myAnalyzerFd := fd
          saPortOpen := true
        },
        reconnSuccess
      ) := by
  have number : ¬ (fd : Int) < 0 := by omega
  simp [spectrumAnalyzerOpen, openPort, free, number]

theorem spectrumAnalyzerOpen_fails {opened : Option Nat} (fails : ¬ Opens s.fds opened)
    : s.spectrumAnalyzerOpen opened
      = ({ s with myAnalyzerFd := -1 }, reconnSerialPortOpenFail) := by
  have none : s.openPort .analyzer opened = (s, -1) := by
    cases opened with
    | none => rfl
    | some fd =>
        have taken : s.fds fd ≠ .closed := fun free => fails ⟨fd, rfl, free⟩
        simp [openPort, taken]
  simp [spectrumAnalyzerOpen, none]

/-- An initialisation that does not come to open the port leaves it as it was. -/
theorem spectrumAnalyzerInit_fails {env : AnalyzerOutcomes} (fileDescriptor : Option Pointer)
    (fails : ¬ env.OpensPort s.fds)
    : (s.spectrumAnalyzerInit env fileDescriptor).2 ≠ reconnSuccess
      ∧ (s.spectrumAnalyzerInit env fileDescriptor).1.saPortOpen = s.saPortOpen := by
  have table
      : (fileDescriptor.elim s (s.store (-1))).fds = s.fds
        ∧ (fileDescriptor.elim s (s.store (-1))).saPortOpen = s.saPortOpen := by
    rcases fileDescriptor with _ | _ | _ | _ <;> exact ⟨rfl, rfl⟩
  unfold spectrumAnalyzerInit
  dsimp only
  by_cases powers : env.read = reconnSuccess
      ∧ (env.gpioState = gpioIsInactive → env.enable ≠ reconnFailure)
  · have none : ¬ Opens (fileDescriptor.elim s (s.store (-1))).fds env.opened := by
      rw [table.1]
      exact fun opens => fails ⟨powers, opens⟩
    rw [if_pos powers, spectrumAnalyzerOpen_fails none, if_neg reconnSerialPortOpenFail_ne_success]
    exact ⟨reconnSerialPortOpenFail_ne_success, table.2⟩
  · rw [if_neg powers]
    exact ⟨reconnFailure_ne_success, table.2⟩

/-- An initialisation for its caller alone that opens the port. -/
theorem spectrumAnalyzerInit_exclusive {env : AnalyzerOutcomes} (powers : env.powers)
    {fd : Nat} (opened : env.opened = some fd) (free : s.fds fd = .closed)
    : s.spectrumAnalyzerInit env none
      = (
        {
          s with
          fds := Function.update s.fds fd .analyzer
          myAnalyzerFd := fd
          saPortOpen := true
        },
        if env.firmwareVersion then reconnSuccess else reconnFailure
      ) := by
  unfold spectrumAnalyzerInit
  dsimp only [Option.elim]
  rw [if_pos ⟨powers.1, powers.2⟩, opened, spectrumAnalyzerOpen_opens free, if_pos rfl]
  split_ifs <;> rfl

/-- An initialisation that opens the port and publishes it if the analyzer answers. -/
theorem spectrumAnalyzerInit_publishes {env : AnalyzerOutcomes} (powers : env.powers)
    {fd : Nat} (opened : env.opened = some fd) (free : s.fds fd = .closed)
    : s.spectrumAnalyzerInit env (some .analyzerFd)
      = (
        {
          s with
          fds := Function.update s.fds fd .analyzer
          myAnalyzerFd := fd
          saPortOpen := true
          analyzerFd := if env.firmwareVersion then fd else -1
        },
        if env.firmwareVersion then reconnSuccess else reconnFailure
      ) := by
  unfold spectrumAnalyzerInit
  dsimp only [Option.elim]
  have free' : (s.store (-1) .analyzerFd).fds fd = .closed := free
  rw [if_pos ⟨powers.1, powers.2⟩, opened, spectrumAnalyzerOpen_opens free', if_pos rfl]
  split_ifs <;> rfl

/-- Closing the port. -/
theorem spectrumAnalyzerClose_none (s : State) (closes : Bool)
    : (s.spectrumAnalyzerClose closes none).1.fds = s.freed
      ∧ (s.spectrumAnalyzerClose closes none).1.saPortOpen = false
      ∧ (s.spectrumAnalyzerClose closes none).1.analyzerFd = s.analyzerFd := by
  unfold spectrumAnalyzerClose
  dsimp only
  split_ifs <;> exact ⟨rfl, rfl, rfl⟩

-----------------------------------------------------------------------------------------
-- From the bootloader on
-----------------------------------------------------------------------------------------

/-- The table with which the analyzer is flashed: the descriptor for its caller alone has been
closed, or it is still open.
-/
def Tabled (s : State) (fds : Int → Fd) : Bool → Prop
  | false => fds = s.freed
  | true => ∃ fd : Nat, s.freed fd = .closed ∧ fds = Function.update s.freed fd .analyzer

/-- A descriptor was lost before exactly if it is the analyzer's without the current one. -/
theorem losesNone_iff {after : State}
    : s.LosesNone after
      ↔ ∀ fd, after.fds fd = .analyzer → fd = after.myAnalyzerFd ∨ s.freed fd = .analyzer := by
  refine forall₂_congr fun fd _ => or_congr_right ?_
  unfold freed
  rw [Function.update_apply]
  split_ifs with mine
  · exact iff_of_false (fun lost => lost.2 mine) (by decide)
  · exact and_iff_left mine

/-- Opening the port loses none exactly if no descriptor was still open. -/
theorem Tabled.losesNone_iff {fds : Int → Fd} {stillOpen : Bool} (tabled : s.Tabled fds stillOpen)
    {fd : Nat} (free : fds fd = .closed) {after : State}
    (table : after.fds = Function.update fds fd .analyzer) (mine : after.myAnalyzerFd = fd)
    : s.LosesNone after ↔ stillOpen = false := by
  rw [State.losesNone_iff, table, mine]
  cases stillOpen with
  | false =>
      obtain rfl : fds = s.freed := tabled
      refine iff_of_true (fun other analyzer => ?_) rfl
      rw [Function.update_apply] at analyzer
      split_ifs at analyzer with same
      · exact .inl same
      · exact .inr analyzer
  | true =>
      obtain ⟨old, closed, rfl⟩ := tabled
      refine iff_of_false (fun losesNone => ?_) (by decide)
      have apart : (old : Int) ≠ fd := by
        intro same
        rw [← same, Function.update_self] at free
        cases free
      have lost := losesNone old
      rw [Function.update_of_ne apart, Function.update_self, closed] at lost
      rcases lost rfl with same | absurd_
      · exact apart same
      · cases absurd_

/-- A port that cannot be opened loses the descriptor that was still open. -/
theorem Tabled.losesNone_not {fds : Int → Fd} (tabled : s.Tabled fds true) {after : State}
    (table : after.fds = fds) (mine : after.myAnalyzerFd = -1)
    : ¬ s.LosesNone after := by
  obtain ⟨old, closed, rfl⟩ := tabled
  rw [State.losesNone_iff, table, mine]
  intro losesNone
  rcases losesNone old (Function.update_self ..) with same | absurd_
  · omega
  · rw [closed] at absurd_
    cases absurd_

variable {t : State} {env : UpgradeOutcomes} {sends stillOpen : Bool}

/-- A result with the port closed is survived. -/
theorem survives_closed {result : State × ReconnErrCode} {sent : Bool}
    (closed : result.1.saPortOpen = false)
    : s.Survives result sent := by
  intro _ _ opened
  rw [closed] at opened
  cases opened

/-- A failure that leaves the port open and unpublished is survived only if a block was sent.
-/
theorem survives_unpublished {after : State} {code : ReconnErrCode} {sent : Bool}
    (fails : code ≠ reconnSuccess) (opened : after.saPortOpen = true) {fd : Nat}
    (mine : after.myAnalyzerFd = fd) (unpublished : after.analyzerFd = -1)
    : s.Survives (after, code) sent ↔ sent = true := by
  refine ⟨fun survives => ?_, fun sends _ none => ?_⟩
  · by_contra none
    have published := (survives fails (Bool.eq_false_of_not_eq_true none) opened).1
    rw [mine, unpublished] at published
    omega
  · rw [sends] at none
    cases none

/-- A failure that leaves the port open and published is survived if a block was sent or no
descriptor is lost.
-/
theorem survives_published {after : State} {code : ReconnErrCode} {sent : Bool}
    (fails : code ≠ reconnSuccess) (opened : after.saPortOpen = true)
    (published : after.analyzerFd = after.myAnalyzerFd)
    : s.Survives (after, code) sent ↔ sent = true ∨ s.LosesNone after := by
  refine ⟨fun survives => ?_, fun either _ none _ => ⟨published, ?_⟩⟩
  · rcases Bool.eq_false_or_eq_true sent with sends | none
    · exact .inl sends
    · exact .inr (survives fails none opened).2
  · refine either.resolve_left fun sends => ?_
    rw [sends] at none
    cases none

/-- The last initialisation survives exactly if a block was sent, or it does not open the port,
or the analyzer answers, and answers twice where a descriptor was still open.
-/
theorem survives_published_iff {fds : Int → Fd} (tabled : s.Tabled fds stillOpen)
    (table : t.fds = fds) (closed : t.saPortOpen = false)
    : s.Survives
        (if (t.spectrumAnalyzerInit env.published (some .analyzerFd)).2 = reconnSuccess
            ∧ env.firmwareVersion = true then
          ((t.spectrumAnalyzerInit env.published (some .analyzerFd)).1, reconnSuccess)
        else ((t.spectrumAnalyzerInit env.published (some .analyzerFd)).1, reconnFailure))
        sends
      ↔ sends = true
        ∨ (env.published.OpensPort fds → env.published.firmwareVersion = true
          ∧ (stillOpen = true → env.firmwareVersion = true)) := by
  subst table
  by_cases opensPort : env.published.OpensPort t.fds
  · obtain ⟨powers, fd, opened, free⟩ := opensPort
    rw [spectrumAnalyzerInit_publishes powers opened free]
    dsimp only
    cases answers : env.published.firmwareVersion with
    | false =>
        have silent : ¬ (reconnFailure = reconnSuccess ∧ env.firmwareVersion = true) :=
          fun both => reconnFailure_ne_success both.1
        simp only [Bool.false_eq_true, if_false]
        rw [if_neg silent, survives_unpublished reconnFailure_ne_success rfl rfl rfl]
        exact (or_iff_left fun either => (either ⟨powers, fd, opened, free⟩).1).symm
    | true =>
        cases again : env.firmwareVersion with
        | true =>
            simp only [if_true, and_true]
            refine iff_of_true (fun error => absurd rfl error) (.inr fun _ => ?_)
            exact ⟨trivial, fun _ => trivial⟩
        | false =>
            simp only [if_true, Bool.false_eq_true, and_false, if_false]
            rw [survives_published reconnFailure_ne_success rfl rfl,
              tabled.losesNone_iff free rfl rfl]
            refine or_congr_right ⟨fun none _ => ⟨trivial, fun some => ?_⟩, fun either => ?_⟩
            · rw [none] at some
              cases some
            · exact Bool.eq_false_of_not_eq_true (either ⟨powers, fd, opened, free⟩).2
  · have fails := spectrumAnalyzerInit_fails (some .analyzerFd) opensPort
    refine iff_of_true (survives_closed ?_) (.inr fun opens => absurd opens opensPort)
    rw [if_neg fun both => fails.1 both.1]
    exact fails.2.trans closed

/-- The analyzer survives from the bootloader on exactly under its condition, by cases in the
order of the calls.
-/
theorem flashAnalyzer_survives_iff (tabled : s.Tabled t.fds stillOpen)
    (unpublished : t.analyzerFd = -1) (port : t.saPortOpen = stillOpen)
    : s.Survives (t.flashAnalyzer env) (t.flashSendsBlock env sends)
      ↔ env.FlashSurvives sends t.fds stillOpen := by
  unfold flashAnalyzer flashSendsBlock UpgradeOutcomes.FlashSurvives
  dsimp only
  by_cases opens : Opens t.fds env.reopened
  · rw [and_iff_left fun _ => opens, forall_prop_of_true opens]
    obtain ⟨fd, reopened, free⟩ := opens
    rw [reopened, spectrumAnalyzerOpen_opens free, if_pos rfl, if_pos rfl]
    cases flashes : env.flashes with
    | false =>
        simp only [Bool.false_eq_true, if_false, false_and, or_false]
        exact survives_unpublished reconnFailure_ne_success rfl rfl unpublished
    | true =>
        simp only [if_true, true_and]
        let opened : State :=
          {
            t with
            fds := Function.update t.fds fd .analyzer
            myAnalyzerFd := fd
            saPortOpen := true
          }
        obtain ⟨table, closed, -⟩ := opened.spectrumAnalyzerClose_none env.closesFlashed
        have released : opened.freed = t.fds := by
          unfold freed
          rw [Function.update_idem, ← free, Function.update_eq_self]
        rw [released] at table
        exact survives_published_iff tabled table closed
  · rw [and_iff_right fun opens' => absurd opens' opens, spectrumAnalyzerOpen_fails opens,
      if_neg reconnSerialPortOpenFail_ne_success, if_neg reconnSerialPortOpenFail_ne_success]
    cases stillOpen with
    | false => exact iff_of_true (survives_closed port) fun some => absurd some Bool.false_ne_true
    | true =>
        refine iff_of_false (fun survives => ?_) fun both => opens (both rfl)
        have lost : s.LosesNone { t with myAnalyzerFd := -1 } :=
          (survives reconnFailure_ne_success rfl port).2
        exact absurd lost (tabled.losesNone_not rfl rfl)

-----------------------------------------------------------------------------------------
-- The whole upgrade
-----------------------------------------------------------------------------------------

/-- Closing the published port, if close() succeeds. -/
theorem spectrumAnalyzerClose_published (s : State) (closes : Bool)
    : (s.spectrumAnalyzerClose closes (some .analyzerFd)).1.saPortOpen = false
      ∧ (s.spectrumAnalyzerClose closes (some .analyzerFd)).1.fds = s.freed
      ∧ ((s.spectrumAnalyzerClose closes (some .analyzerFd)).2 = reconnSuccess
        ↔ s.fds s.myAnalyzerFd ≠ .closed ∧ closes = true)
      ∧ ((s.spectrumAnalyzerClose closes (some .analyzerFd)).2 = reconnSuccess
        → (s.spectrumAnalyzerClose closes (some .analyzerFd)).1.analyzerFd = -1) := by
  unfold spectrumAnalyzerClose
  dsimp only
  split_ifs with closed
  · exact ⟨rfl, rfl, iff_of_true rfl closed, fun _ => rfl⟩
  · refine ⟨rfl, rfl, iff_of_false reconnFailure_ne_success closed, ?_⟩
    exact fun error => absurd error reconnFailure_ne_success

/-- The analyzer survives an upgrade that has it for itself exactly under this condition, by
cases in the order of the calls.
-/
theorem upgradeExclusively_survives_iff {fd : Nat} (free : s.freed fd = .closed)
    (table : t.fds = Function.update s.freed fd .analyzer) (unpublished : t.analyzerFd = -1)
    (mine : t.myAnalyzerFd = fd) (port : t.saPortOpen = true)
    : s.Survives (t.upgradeExclusively env) (t.exclusiveSendsBlock env sends)
      ↔ env.fileFound = true ∧ env.malloc = true ∧ env.fileOpens = true
        ∧ match env.bootLoaderMode with
          | none => False
          | some false => env.bootBootloader = true → env.FlashSurvives sends s.freed false
          | some true => env.FlashSurvives sends t.fds true := by
  have unsent {code : ReconnErrCode} (fails : code ≠ reconnSuccess)
      : ¬ s.Survives (t, code) false :=
    fun survives =>
      Bool.false_ne_true ((survives_unpublished fails port mine unpublished).mp survives)
  unfold upgradeExclusively exclusiveSendsBlock
  cases env.bootLoaderMode with
  | none => exact iff_of_false (unsent reconnFailure_ne_success) fun both => both.2.2.2
  | some bootLoaderMode =>
      dsimp only
      by_cases found : env.fileFound = false
      · rw [if_pos found, if_pos found]
        refine iff_of_false (unsent reconnUpgradeFileNotFound_ne_success) fun both => ?_
        exact Bool.false_ne_true (found.symm.trans both.1)
      rw [if_neg found, if_neg found, and_iff_right (Bool.eq_true_of_not_eq_false found)]
      by_cases unread : env.malloc = false ∨ env.fileOpens = false
      · rw [if_pos unread, if_pos unread]
        refine iff_of_false (unsent reconnFailure_ne_success) fun both => ?_
        rcases unread with none | none
        · exact Bool.false_ne_true (none.symm.trans both.1)
        · exact Bool.false_ne_true (none.symm.trans both.2.1)
      obtain ⟨malloc, opens⟩ := not_or.mp unread
      rw [if_neg unread, if_neg unread, and_iff_right (Bool.eq_true_of_not_eq_false malloc),
        and_iff_right (Bool.eq_true_of_not_eq_false opens)]
      cases bootLoaderMode with
      | true =>
          have tabled : s.Tabled t.fds true := ⟨fd, free, table⟩
          exact flashAnalyzer_survives_iff tabled unpublished port
      | false =>
          obtain ⟨released, closed, same⟩ := t.spectrumAnalyzerClose_none env.closesBootloader
          have restored := Function.update_eq_self (fd : Int) s.freed
          rw [free] at restored
          have tabled : t.freed = s.freed :=
            calc t.freed = Function.update t.fds t.myAnalyzerFd .closed := rfl
              _ = Function.update s.freed fd .closed := by
                rw [mine, table, Function.update_idem]
              _ = s.freed := restored
          rw [tabled] at released
          simp only [Bool.false_eq_true, if_false]
          cases env.bootBootloader with
          | false =>
              refine iff_of_true (survives_closed closed) fun boots => ?_
              exact absurd boots Bool.false_ne_true
          | true =>
              simp only [if_true, forall_true_left]
              rw [← released]
              exact flashAnalyzer_survives_iff released (same.trans unpublished) closed

/-- Where the analyzer is closed and opened again, it is on one descriptor. -/
theorem upgradeSurvives_iff {fd : Nat} (open_ : s.fds s.myAnalyzerFd ≠ .closed)
    (accepted : env.closes = true) (powers : env.exclusive.powers)
    (opened : env.exclusive.opened = some fd) (free : s.freed fd = .closed)
    : s.UpgradeSurvives env sends ↔ s.ExclusiveSurvives env sends fd := by
  refine ⟨fun all => all open_ accepted powers fd opened free, ?_⟩
  intro survives _ _ _ other same _
  obtain rfl : fd = other := Option.some.inj (opened.symm.trans same)
  exact survives

/-- The analyzer survives an upgrade for which it is opened alone exactly under this condition.
A firmware version that cannot be read leaves it open and unpublished.
-/
theorem exclusive_survives_iff {fd : Nat} (table : t.fds = s.freed)
    (unpublished : t.analyzerFd = -1) (powers : env.exclusive.powers)
    (opened : env.exclusive.opened = some fd) (free : s.freed fd = .closed)
    : s.Survives
        (if (t.spectrumAnalyzerInit env.exclusive none).2 = reconnSuccess then
          (t.spectrumAnalyzerInit env.exclusive none).1.upgradeExclusively env
        else t.spectrumAnalyzerInit env.exclusive none)
        (if (t.spectrumAnalyzerInit env.exclusive none).2 = reconnSuccess then
          (t.spectrumAnalyzerInit env.exclusive none).1.exclusiveSendsBlock env sends
        else false)
      ↔ s.ExclusiveSurvives env sends fd := by
  have free' : t.fds fd = .closed := table ▸ free
  rw [spectrumAnalyzerInit_exclusive powers opened free']
  let alone : State :=
    {
      t with
      fds := Function.update t.fds fd .analyzer
      myAnalyzerFd := fd
      saPortOpen := true
    }
  have tabled : alone.fds = Function.update s.freed fd .analyzer :=
    congrArg (Function.update · (fd : Int) Fd.analyzer) table
  have unpublished' : alone.analyzerFd = -1 := unpublished
  unfold ExclusiveSurvives
  rw [← tabled]
  cases answers : env.exclusive.firmwareVersion with
  | false =>
      simp only [Bool.false_eq_true, if_false, false_and]
      rw [if_neg reconnFailure_ne_success, if_neg reconnFailure_ne_success]
      refine iff_of_false (fun survives => ?_) id
      exact Bool.false_ne_true
        ((survives_unpublished reconnFailure_ne_success rfl rfl unpublished').mp survives)
  | true =>
      simp only [if_true, true_and]
      exact upgradeExclusively_survives_iff free tabled unpublished' rfl rfl

/-- The analyzer survives an upgrade exactly under its condition, by cases in whether it is
closed and opened again.
-/
theorem spectrumAnalyzerUpgrade_survives_iff (s : State) (env : UpgradeOutcomes) (sends : Bool)
    : s.Survives (s.spectrumAnalyzerUpgrade env) (s.upgradeSendsBlock env sends)
      ↔ s.UpgradeSurvives env sends := by
  obtain ⟨port, table, success, unpublished⟩ := s.spectrumAnalyzerClose_published env.closes
  rw [spectrumAnalyzerUpgrade_eq]
  unfold upgradeSendsBlock
  dsimp only
  generalize s.spectrumAnalyzerClose env.closes (some .analyzerFd) = closed at *
  by_cases closes : closed.2 = reconnSuccess
  · rw [if_pos closes, if_pos closes]
    obtain ⟨open_, accepted⟩ := success.mp closes
    by_cases opensPort : env.exclusive.OpensPort closed.1.fds
    · obtain ⟨powers, fd, opened, free⟩ := opensPort
      rw [table] at free
      rw [upgradeSurvives_iff open_ accepted powers opened free]
      exact exclusive_survives_iff table (unpublished closes) powers opened free
    · have fails := spectrumAnalyzerInit_fails none opensPort
      rw [if_neg fails.1, if_neg fails.1]
      refine iff_of_true (survives_closed (fails.2.trans port)) ?_
      intro _ _ powers fd opened free
      rw [table] at opensPort
      exact absurd ⟨powers, fd, opened, free⟩ opensPort
  · rw [if_neg closes, if_neg closes]
    refine iff_of_true (survives_closed port) ?_
    exact fun open_ accepted => absurd (success.mpr ⟨open_, accepted⟩) closes

end State

/-- An upgrade of an analyzer that is in use, for which there is no upgrade file. -/
def fileMissing : UpgradeOutcomes where
  closes := true
  closesBootloader := true
  closesFlashed := true
  exclusive := analyzerOn 10
  bootLoaderMode := some false
  fileFound := false
  malloc := true
  fileOpens := true
  bootBootloader := true
  reopened := some 10
  flashes := true
  published := analyzerOn 10
  firmwareVersion := true

/-- Without an upgrade file the port stays open for the upgrade alone. -/
theorem spectrumAnalyzerUpgrade_survives_not
    : ¬ ∀ (s : State) (env : UpgradeOutcomes) (sends : Bool),
        s.Survives (s.spectrumAnalyzerUpgrade env) (s.upgradeSendsBlock env sends) := by
  intro always
  have survives := always bothOpen fileMissing true
  have refused
      : (bothOpen.spectrumAnalyzerUpgrade fileMissing).2 ≠ reconnSuccess
        ∧ bothOpen.upgradeSendsBlock fileMissing true = false
        ∧ (bothOpen.spectrumAnalyzerUpgrade fileMissing).1.saPortOpen = true := by
    decide
  have published := (survives refused.1 refused.2.1 refused.2.2).1
  exact absurd published (by decide)

end Reconn.Equipment
