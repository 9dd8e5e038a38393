import Reconn.Client.Equipment

/-! The commands of a debug menu, by the loop of debugMenuTask in debugMenu.c. An entry is run
if its name is the typed line or the last command, and the last command changes while the
loop goes on.
-/

namespace Reconn.Debug

open Client (ReconnErrCode reconnSuccess ascii)

/-- DEBUG_INPUT_LEN, the size of lastCommand -/
def debugInputLen : Nat := 50

def reconnDebugDone : ReconnErrCode := 30

/-- An entry of a menu's table, with what its command returns if it is run, what lies behind
the end of its name in memory, and whether malloc() has memory for the text of a failure.
-/
structure MenuItem where
  commandName : Option (List UInt8)
  func : ReconnErrCode
  behind : List UInt8
  allocates : Bool
  deriving DecidableEq, Repr

namespace MenuItem

/-- strlen(commandName + 10), which is what is allocated for the text of a failure; none if it
finds no end.
-/
def failedSize (item : MenuItem) (name : List UInt8) : Option Nat :=
  ((name ++ 0 :: item.behind).drop 10).idxOf? 0

/-- The text of a failure, with its end, keeps to what is allocated for it. -/
def FailedFits (item : MenuItem) : Prop :=
  ∀ name ∈ item.commandName, ∃ size ∈ item.failedSize name,
    item.allocates = true → (name ++ ascii " Failed\r\n").length < size

instance (item : MenuItem) : Decidable item.FailedFits :=
  inferInstanceAs (Decidable (∀ name ∈ item.commandName, ∃ size ∈ item.failedSize name, _))

/-- Once the command has returned, nothing is written outside of its place. -/
def EndsWell (item : MenuItem) : Prop :=
  item.func = reconnSuccess ∨ item.func = reconnDebugDone ∨ item.FailedFits

instance (item : MenuItem) : Decidable item.EndsWell :=
  inferInstanceAs (Decidable (_ ∨ _ ∨ _))

end MenuItem

/-- The variables of the loop, with the entries that were run. -/
structure Dispatch where
  lastCommand : List UInt8
  runs : List MenuItem
  commandFound : Bool
  /-- false if activeTableEntry is NULL -/
  activeTableEntry : Bool
  /-- false once the text of a failure has left its place: the heap is damaged, and that the
  loop goes on is no more than what it would do if that did no harm.
  -/
  intact : Bool
  deriving DecidableEq, Repr

/-- tolower() -/
def toLower (c : UInt8) : UInt8 := if 65 ≤ c ∧ c ≤ 90 then c + 32 else c

/-- strcasecmp() of the line and a text in small letters finds no difference. -/
def strcasecmpEqual (line text : List UInt8) : Bool := line.map toLower = text

/-- The line is quit, or begins with a q. -/
def leavesMenu (inputString : List UInt8) : Bool :=
  strcasecmpEqual inputString (ascii "quit")
    || strcasecmpEqual (inputString.take 1) (ascii "q")

/-- strcpy() to lastCommand; none if the line leaves the array. -/
def rememberCommand (inputString : List UInt8) : Option (List UInt8) :=
  if inputString.length < debugInputLen then some inputString else none

namespace Dispatch

/-- The entry's name is the line or the last command. -/
def Selects (lastCommand inputString : List UInt8) (item : MenuItem) : Prop :=
  item.commandName = some inputString ∨ item.commandName = some lastCommand

instance (lastCommand inputString : List UInt8) (item : MenuItem)
    : Decidable (Selects lastCommand inputString item) :=
  inferInstanceAs (Decidable (_ ∨ _))

/-- The loop comes to an entry. -/
def visit (inputString : List UInt8) (d : Dispatch) (item : MenuItem) : Option Dispatch :=
  if Selects d.lastCommand inputString item then
    (if inputString = [] then some d.lastCommand else rememberCommand inputString).map
      fun lastCommand => {
        lastCommand
        runs := d.runs ++ [item]
        commandFound := true
        activeTableEntry := item.func ≠ reconnDebugDone
        intact := d.intact && item.EndsWell
      }
  else some d

/-- The loop over the entries from the given ones on. -/
def visits (inputString : List UInt8) : Dispatch → List MenuItem → Option Dispatch
  | d, [] => some d
  | d, item :: rest =>
      match d.visit inputString item with
      | none => none
      | some d => if d.activeTableEntry then visits inputString d rest else some d

end Dispatch

/-- A line in the menu. The loop begins behind the first entry of the table. -/
def debugMenuLine (theMenu : List MenuItem) (lastCommand inputString : List UInt8)
    : Option Dispatch :=
  if leavesMenu inputString then
    some {
      lastCommand := []
      runs := []
      commandFound := false
      activeTableEntry := false
      intact := true
    }
  else
    Dispatch.visits inputString
      { lastCommand, runs := [], commandFound := false, activeTableEntry := true, intact := true }
      (theMenu.drop 1)

/-- The command that a line asks for: an empty line repeats the last one. -/
def wanted (lastCommand inputString : List UInt8) : List UInt8 :=
  if inputString = [] then lastCommand else inputString

/-- Only entries of the name are run, one at most, and one if there is any. -/
structure RunsExactly (name : List UInt8) (theMenu : List MenuItem) (d : Dispatch) : Prop where
  named : ∀ item ∈ d.runs, item.commandName = some name
  once : d.runs.length ≤ 1
  found : (∃ item ∈ theMenu, item.commandName = some name) → d.runs ≠ []

/-- The line runs what it asks for, and nothing is written outside of its place. -/
def Served (theMenu : List MenuItem) (lastCommand inputString : List UInt8) : Prop :=
  ∃ d, debugMenuLine theMenu lastCommand inputString = some d ∧ d.intact = true
    ∧ RunsExactly (wanted lastCommand inputString) theMenu d

/-- The loop over these entries comes to the wanted one before any other that has the name of
the line or the last command, there is no further one behind it unless it ends the session,
the line can be remembered, and the text of its failure, if it fails, keeps to its place.
-/
def WantedFirst (lastCommand inputString : List UInt8) (items : List MenuItem) : Prop :=
  ∃ front item back, items = front ++ item :: back
    ∧ (∀ other ∈ front, ¬ Dispatch.Selects lastCommand inputString other)
    ∧ item.commandName = some (wanted lastCommand inputString)
    ∧ (inputString = [] ∨ inputString.length < debugInputLen)
    ∧ item.EndsWell
    ∧ (item.func = reconnDebugDone
      ∨ ∀ other ∈ back,
        ¬ Dispatch.Selects (wanted lastCommand inputString) inputString other)

/-- No entry has the wanted name, and none that the loop comes to the name of the line or the
last command.
-/
def NothingWanted (lastCommand inputString : List UInt8) (theMenu : List MenuItem) : Prop :=
  (∀ item ∈ theMenu, item.commandName ≠ some (wanted lastCommand inputString))
    ∧ ∀ item ∈ theMenu.drop 1, ¬ Dispatch.Selects lastCommand inputString item

-----------------------------------------------------------------------------------------
-- The loop
-----------------------------------------------------------------------------------------

namespace Dispatch

variable {inputString : List UInt8} {d d' : Dispatch} {item : MenuItem}
  {items : List MenuItem}

/-- An entry without either name is passed. -/
theorem visit_of_not_selects (other : ¬ Selects d.lastCommand inputString item)
    : d.visit inputString item = some d :=
  if_neg other

/-- The loop goes on behind entries without either name, by induction on them. -/
theorem visits_append {front : List MenuItem}
    (others : ∀ item ∈ front, ¬ Selects d.lastCommand inputString item)
    (active : d.activeTableEntry = true) (items : List MenuItem)
    : d.visits inputString (front ++ items) = d.visits inputString items := by
  induction front with
  | nil => rfl
  | cons item rest ih =>
      obtain ⟨first, later⟩ := List.forall_mem_cons.mp others
      rw [List.cons_append, visits, visit_of_not_selects first]
      simp only [active, if_true]
      exact ih later

/-- An entry with one of the names is run, and the line becomes the last command. -/
theorem visit_of_selects (selects : Selects d.lastCommand inputString item)
    : d.visit inputString item
      = if inputString = [] ∨ inputString.length < debugInputLen then
          some {
            lastCommand := wanted d.lastCommand inputString
            runs := d.runs ++ [item]
            commandFound := true
            activeTableEntry := item.func ≠ reconnDebugDone
            intact := d.intact && item.EndsWell
          }
        else none := by
  rw [visit, if_pos selects, wanted, rememberCommand]
  by_cases empty : inputString = []
  · simp [empty]
  · by_cases short : inputString.length < debugInputLen <;> simp [empty, short]

/-- Entries without either name are all passed. -/
theorem visits_of_others (others : ∀ item ∈ items, ¬ Selects d.lastCommand inputString item)
    (active : d.activeTableEntry = true)
    : d.visits inputString items = some d := by
  have passed := visits_append others active []
  rwa [List.append_nil] at passed

/-- What was run stays so, by induction on the entries. -/
theorem runs_le_of_visits (run : d.visits inputString items = some d')
    : d.runs.length ≤ d'.runs.length := by
  induction items generalizing d with
  | nil => rw [Option.some.inj run]
  | cons item rest ih =>
      rw [visits] at run
      cases visited : d.visit inputString item with
      | none => simp [visited] at run
      | some next =>
          rw [visited] at run
          have first : d.runs.length ≤ next.runs.length := by
            by_cases selects : Selects d.lastCommand inputString item
            · rw [visit_of_selects selects] at visited
              obtain ⟨-, visited⟩ := Option.ite_none_right_eq_some.mp visited
              rw [← Option.some.inj visited]
              simp
            · rw [visit_of_not_selects selects] at visited
              rw [Option.some.inj visited]
          cases active : next.activeTableEntry with
          | true =>
              simp only [active, if_true] at run
              exact first.trans (ih run)
          | false =>
              simp only [active, Bool.false_eq_true, if_false, Option.some.injEq] at run
              rw [← run]
              exact first

/-- If some entry has one of the names, something is run, by induction on the entries. -/
theorem runs_lt_of_visits (active : d.activeTableEntry = true)
    (some_ : ∃ item ∈ items, Selects d.lastCommand inputString item)
    (run : d.visits inputString items = some d')
    : d.runs.length < d'.runs.length := by
  induction items with
  | nil =>
      obtain ⟨item, member, -⟩ := some_
      exact absurd member List.not_mem_nil
  | cons item rest ih =>
      by_cases selects : Selects d.lastCommand inputString item
      · rw [visits, visit_of_selects selects] at run
        split_ifs at run with short
        simp only at run
        by_cases done : item.func = reconnDebugDone
        · simp only [done, ne_eq, not_true_eq_false, decide_false, Bool.false_eq_true, if_false,
            Option.some.injEq] at run
          rw [← run]
          simp
        · simp only [ne_eq, done, not_false_eq_true, decide_true, if_true] at run
          have later := runs_le_of_visits run
          rw [List.length_append, List.length_singleton] at later
          omega
      · obtain ⟨other, member, named⟩ := some_
        have behind : other ∈ rest := by
          rcases List.mem_cons.mp member with rfl | behind
          · exact absurd named selects
          · exact behind
        rw [visits, visit_of_not_selects selects] at run
        simp only [active, if_true] at run
        exact ih ⟨other, behind, named⟩ run

/-- The loop from the first entry with one of the names on. -/
theorem visits_cons_of_selects (selects : Selects d.lastCommand inputString item)
    (back : List MenuItem)
    : d.visits inputString (item :: back)
      = if inputString = [] ∨ inputString.length < debugInputLen then
          let next : Dispatch := {
            lastCommand := wanted d.lastCommand inputString
            runs := d.runs ++ [item]
            commandFound := true
            activeTableEntry := item.func ≠ reconnDebugDone
            intact := d.intact && item.EndsWell
          }
          if item.func = reconnDebugDone then some next else next.visits inputString back
        else none := by
  rw [visits, visit_of_selects selects]
  by_cases short : inputString = [] ∨ inputString.length < debugInputLen
  · rw [if_pos short, if_pos short]
    by_cases done : item.func = reconnDebugDone <;> simp [done]
  · rw [if_neg short, if_neg short]

end Dispatch

-----------------------------------------------------------------------------------------
-- What a line runs
-----------------------------------------------------------------------------------------

section Line

variable {theMenu : List MenuItem} {lastCommand inputString name : List UInt8} {d : Dispatch}

/-- A line is served exactly if what it runs is right and nothing leaves its place. -/
theorem served_iff_of_eq_some (run : debugMenuLine theMenu lastCommand inputString = some d)
    : Served theMenu lastCommand inputString
      ↔ d.intact = true ∧ RunsExactly (wanted lastCommand inputString) theMenu d := by
  rw [Served, run]
  constructor
  · rintro ⟨_, same, served⟩
    exact Option.some.inj same ▸ served
  · exact fun served => ⟨d, rfl, served⟩

/-- To run nothing is right exactly if no entry has the name. -/
theorem runsExactly_nothing (nothing : d.runs = [])
    : RunsExactly name theMenu d ↔ ∀ item ∈ theMenu, item.commandName ≠ some name := by
  constructor
  · intro exactly item member named
    exact exactly.found ⟨item, member, named⟩ nothing
  · intro unnamed
    refine ⟨by simp [nothing], by simp [nothing], ?_⟩
    rintro ⟨item, member, named⟩
    exact absurd named (unnamed item member)

/-- To run one entry is right exactly if that has the name. -/
theorem runsExactly_single {item : MenuItem} (single : d.runs = [item])
    : RunsExactly name theMenu d ↔ item.commandName = some name := by
  constructor
  · intro exactly
    exact exactly.named item (by rw [single]; exact List.mem_singleton_self _)
  · intro named
    refine ⟨?_, by simp [single], fun _ => by simp [single]⟩
    rw [single]
    exact List.forall_mem_singleton.mpr named

theorem selects_of_wanted {item : MenuItem}
    (named : item.commandName = some (wanted lastCommand inputString))
    : Dispatch.Selects lastCommand inputString item := by
  unfold wanted at named
  split_ifs at named
  · exact .inr named
  · exact .inl named

/-- A line that the loop finds no entry for is served exactly if the table has no entry of
the wanted name.
-/
theorem served_iff_of_none (stays : leavesMenu inputString = false)
    (others : ∀ item ∈ theMenu.drop 1, ¬ Dispatch.Selects lastCommand inputString item)
    : Served theMenu lastCommand inputString
      ↔ ∀ item ∈ theMenu, item.commandName ≠ some (wanted lastCommand inputString) := by
  have run : debugMenuLine theMenu lastCommand inputString
      = some
        { lastCommand, runs := [], commandFound := false, activeTableEntry := true, intact := true }
      := by
    rw [debugMenuLine, if_neg (by simp [stays])]
    exact Dispatch.visits_of_others others rfl
  exact (served_iff_of_eq_some run).trans ((and_iff_right rfl).trans (runsExactly_nothing rfl))

/-- A line that leaves the menu is served exactly if no entry has its name. -/
theorem served_iff_of_leaves (leaves : leavesMenu inputString = true)
    : Served theMenu lastCommand inputString
      ↔ ∀ item ∈ theMenu, item.commandName ≠ some (wanted lastCommand inputString) := by
  have run : debugMenuLine theMenu lastCommand inputString = some ⟨[], [], false, false, true⟩ :=
    if_pos leaves
  exact (served_iff_of_eq_some run).trans ((and_iff_right rfl).trans (runsExactly_nothing rfl))

/-- The variables of the loop behind the first entry that it finds. -/
def Dispatch.found (lastCommand inputString : List UInt8) (item : MenuItem) : Dispatch where
  lastCommand := wanted lastCommand inputString
  runs := [item]
  commandFound := true
  activeTableEntry := item.func ≠ reconnDebugDone
  intact := item.EndsWell

/-- The loop passes the entries before the first one that it finds, runs that, and goes on with
the others unless it is done.
-/
theorem debugMenuLine_of_first (stays : leavesMenu inputString = false)
    {front back : List MenuItem} {item : MenuItem}
    (parts : theMenu.drop 1 = front ++ item :: back)
    (others : ∀ other ∈ front, ¬ Dispatch.Selects lastCommand inputString other)
    (selects : Dispatch.Selects lastCommand inputString item)
    : debugMenuLine theMenu lastCommand inputString
      = if inputString = [] ∨ inputString.length < debugInputLen then
          if item.func = reconnDebugDone then some (Dispatch.found lastCommand inputString item)
          else (Dispatch.found lastCommand inputString item).visits inputString back
        else none := by
  have passed := @Dispatch.visits_append inputString ⟨lastCommand, [], false, true, true⟩ _ others
    rfl (item :: back)
  rw [debugMenuLine, if_neg (by simp [stays]), parts, passed,
    Dispatch.visits_cons_of_selects selects]
  rfl

/-- What the first entry comes to is right exactly if it has the wanted name and ends well. -/
theorem found_right_iff {item : MenuItem}
    : (Dispatch.found lastCommand inputString item).intact = true
        ∧ RunsExactly (wanted lastCommand inputString) theMenu
          (Dispatch.found lastCommand inputString item)
      ↔ item.commandName = some (wanted lastCommand inputString) ∧ item.EndsWell := by
  rw [runsExactly_single rfl, Dispatch.found, decide_eq_true_iff, and_comm]

/-- A line that the loop finds a first entry for is served exactly if that is the wanted one,
and the only one, the line can be remembered, and the command ends well.
-/
theorem served_iff_of_first (stays : leavesMenu inputString = false)
    {front back : List MenuItem} {item : MenuItem}
    (parts : theMenu.drop 1 = front ++ item :: back)
    (others : ∀ other ∈ front, ¬ Dispatch.Selects lastCommand inputString other)
    (selects : Dispatch.Selects lastCommand inputString item)
    : Served theMenu lastCommand inputString
      ↔ item.commandName = some (wanted lastCommand inputString)
        ∧ (inputString = [] ∨ inputString.length < debugInputLen)
        ∧ item.EndsWell
        ∧ (item.func = reconnDebugDone
          ∨ ∀ other ∈ back,
            ¬ Dispatch.Selects (wanted lastCommand inputString) inputString other) := by
  have run := debugMenuLine_of_first stays parts others selects
  by_cases short : inputString = [] ∨ inputString.length < debugInputLen
  swap
  · refine iff_of_false ?_ fun h => short h.2.1
    rintro ⟨d, same, -⟩
    rw [run, if_neg short] at same
    exact Option.some_ne_none _ same.symm
  rw [if_pos short] at run
  rw [and_iff_right short]
  by_cases done : item.func = reconnDebugDone
  · rw [if_pos done] at run
    rw [and_iff_left (show item.func = reconnDebugDone ∨ _ from .inl done)]
    exact (served_iff_of_eq_some run).trans found_right_iff
  rw [if_neg done] at run
  rw [or_iff_right done]
  have active : (Dispatch.found lastCommand inputString item).activeTableEntry = true := by
    simp [Dispatch.found, done]
  by_cases single : ∀ other ∈ back,
      ¬ Dispatch.Selects (wanted lastCommand inputString) inputString other
  · rw [Dispatch.visits_of_others single active] at run
    rw [and_iff_left single]
    exact (served_iff_of_eq_some run).trans found_right_iff
  · refine iff_of_false ?_ fun h => single h.2.2
    rintro ⟨d, same, -, exactly⟩
    rw [run] at same
    have another : ∃ other ∈ back,
        Dispatch.Selects (wanted lastCommand inputString) inputString other := by
      simpa using single
    have more := Dispatch.runs_lt_of_visits active another same
    exact absurd exactly.once (Nat.not_le.mpr more)

/-- A line other than quit is served exactly if it does not leave the menu and the loop finds
the wanted entry first and alone, or if nothing has the wanted name.
-/
theorem served_iff (theMenu : List MenuItem) (lastCommand : List UInt8)
    {inputString : List UInt8} (line : strcasecmpEqual inputString (ascii "quit") = false)
    : Served theMenu lastCommand inputString
      ↔ if strcasecmpEqual (inputString.take 1) (ascii "q") then
          ∀ item ∈ theMenu, item.commandName ≠ some inputString
        else
          NothingWanted lastCommand inputString theMenu
            ∨ WantedFirst lastCommand inputString (theMenu.drop 1) := by
  have leaves : leavesMenu inputString = strcasecmpEqual (inputString.take 1) (ascii "q") := by
    rw [leavesMenu, line, Bool.false_or]
  by_cases q : strcasecmpEqual (inputString.take 1) (ascii "q") = true
  · have some_ : inputString ≠ [] := by
      rintro rfl
      exact absurd q (by decide +kernel)
    have asked : wanted lastCommand inputString = inputString := if_neg some_
    rw [if_pos q, served_iff_of_leaves (leaves.trans q), asked]
  rw [if_neg q]
  have stays : leavesMenu inputString = false := by
    rw [leaves]
    exact Bool.eq_false_iff.mpr q
  cases first : (theMenu.drop 1).find? (Dispatch.Selects lastCommand inputString ·) with
  | none =>
      have others : ∀ item ∈ theMenu.drop 1,
          ¬ Dispatch.Selects lastCommand inputString item := by
        simpa using first
      rw [served_iff_of_none stays others]
      constructor
      · exact fun none_ => .inl ⟨none_, others⟩
      · rintro (⟨none_, -⟩ | ⟨front, item, back, parts, -, named, -⟩)
        · exact none_
        · have member : item ∈ theMenu.drop 1 := by simp [parts]
          exact absurd (selects_of_wanted named) (others item member)
  | some item =>
      obtain ⟨selects, front, back, parts, others⟩ := List.find?_eq_some_iff_append.mp first
      have selects : Dispatch.Selects lastCommand inputString item := of_decide_eq_true selects
      have others : ∀ other ∈ front, ¬ Dispatch.Selects lastCommand inputString other := by
        simpa using others
      constructor
      · intro served
        obtain ⟨named, rest⟩ := (served_iff_of_first stays parts others selects).mp served
        exact .inr ⟨front, item, back, parts, others, named, rest⟩
      · rintro (⟨-, none_⟩ | ⟨front', item', back', parts', others', named, rest⟩)
        · have member : item ∈ theMenu.drop 1 := by simp [parts]
          exact absurd selects (none_ item member)
        · exact (served_iff_of_first stays parts' others' (selects_of_wanted named)).mpr
            ⟨named, rest⟩

/-- The menu of the multimeter. -/
def dmmDebugMenu : List MenuItem :=
  [
    ⟨none, reconnSuccess, [], true⟩,
    ⟨some (ascii "on"), reconnSuccess, [], true⟩,
    ⟨some (ascii "off"), reconnSuccess, [], true⟩,
    ⟨some (ascii "diags"), reconnSuccess, [], true⟩
  ]

/-- A first command in the menu of the multimeter. -/
theorem served_first : Served dmmDebugMenu [] (ascii "off") := by
  refine (served_iff dmmDebugMenu [] (by decide +kernel)).mpr ?_
  rw [if_neg (by decide +kernel)]
  refine .inr
    ⟨
      [⟨some (ascii "on"), reconnSuccess, [], true⟩],
      _,
      [⟨some (ascii "diags"), reconnSuccess, [], true⟩],
      rfl, by decide +kernel, rfl, .inr (by decide +kernel), .inl rfl, .inr (by decide +kernel)
    ⟩

/-- After on, the line off also runs on again: it is still the last command when the loop comes
to it.
-/
theorem not_served_second
    : ¬ ∀ (theMenu : List MenuItem) (lastCommand inputString : List UInt8),
      strcasecmpEqual inputString (ascii "quit") = false →
        Served theMenu lastCommand inputString := by
  intro always
  obtain ⟨d, run, -, exactly⟩ := always dmmDebugMenu (ascii "on") (ascii "off") (by decide +kernel)
  have both : debugMenuLine dmmDebugMenu (ascii "on") (ascii "off")
      = some
        {
          lastCommand := ascii "off"
          runs := [
            ⟨some (ascii "on"), reconnSuccess, [], true⟩,
            ⟨some (ascii "off"), reconnSuccess, [], true⟩
          ]
          commandFound := true
          activeTableEntry := true
          intact := true
        } := by
    decide +kernel
  rw [both] at run
  obtain rfl := Option.some.inj run
  exact absurd exactly.once (by decide)

end Line

end Reconn.Debug
