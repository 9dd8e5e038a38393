import Reconn.Debug.Dispatch
import Reconn.Library.PastTime

/-! The sessions of the debug port, by debugMenuTask and getInput of debugMenu.c. One task serves
one connection after the other; the last command and timeoutDebugMenus outlive the connections.
-/

namespace Reconn.Debug

open Client (ReconnErrCode reconnSuccess ascii)
open TransitionRuns PastTime

/-- DEBUG_PASSWORD -/
def debugPassword : List UInt8 := ascii "Reconn2012"

/-- An entry of debugMenusTable: what its menu's first entry names, and the names of the menu's
commands, none of them empty.
-/
structure TableEntry where
  subSystemName : List UInt8
  commandNames : List (Option (List UInt8))
  named : some [] ∉ commandNames
  deriving DecidableEq

/-- The menu, with what the given items have next to the names of the commands. -/
def TableEntry.theMenu (entry : TableEntry) (items : Nat → MenuItem) : List MenuItem :=
  entry.commandNames.mapIdx fun i commandName => { items i with commandName }

/-- Where debugMenuTask is. -/
inductive Phase where
  | listening
  /-- in the select() before the password, which waits for the first character -/
  | password
  /-- in getInput, for the password -/
  | typing
  /-- in getInput, for a line of a menu -/
  | menus
  /-- The text of a failing command has damaged the heap. -/
  | damaged
  deriving DecidableEq, Repr

/-- debugMenuTask is in getInput. -/
def Phase.inGetInput : Phase → Bool
  | .typing | .menus => true
  | .listening | .password | .damaged => false

/-- The variables that a session leaves to the next one, and where debugMenuTask is. -/
structure Session where
  phase : Phase
  activeTableEntry : Option TableEntry
  lastCommand : List UInt8
  timeoutDebugMenus : Bool
  deriving DecidableEq

inductive SessionEvent where
  /-- accept() returns, with a socket, on which the two recv()s of the negotiation have returned,
  or without -/
  | accept (accepted : Bool)
  /-- the select() before the password returns nothing -/
  | noPassword
  /-- the select() before the password returns -/
  | typed
  /-- getInput returns a line. The commands that it runs return what the items have, and leave a
  value in timeoutDebugMenus if they store there.
  -/
  | line (inputString : List UInt8) (items : Nat → MenuItem) (stored : Option Bool)
  /-- a select() in getInput returns nothing -/
  | inactive
  /-- a recv() in getInput gets nothing -/
  | hangup
  /-- getInput gets no memory -/
  | noMemory

/-- The line that getInput returns. -/
def SessionEvent.inputString : SessionEvent → Option (List UInt8)
  | .line inputString _ _ => some inputString
  | .accept _ | .noPassword | .typed | .inactive | .hangup | .noMemory => none

namespace Session

/-- debugMenuTask when it starts. -/
def start : Session := ⟨.listening, none, [], true⟩

/-- What debugMenuTask does once getInput has returned NULL. -/
def lost (s : Session) : Session :=
  match s.phase with
  | .listening | .password | .typing | .damaged => { s with phase := .listening }
  | .menus => { s with phase := .listening, activeTableEntry := none }

/-- A line in the main menu. -/
def mainMenuLine (tables : List TableEntry) (s : Session) (inputString : List UInt8) : Session :=
  if leavesMenu inputString then { s with phase := .listening, timeoutDebugMenus := true }
  else match tables.find? (·.subSystemName = inputString) with
    | some entry => { s with activeTableEntry := some entry }
    | none => s

/-- A line in a menu, with the entries that it runs. A command that is done with the session
leaves the menu as a q does, but does not go back to the main menu.
-/
def menuLine (s : Session) (entry : TableEntry) (inputString : List UInt8)
    (items : Nat → MenuItem) (stored : Option Bool)
    : Option (Session × List MenuItem) :=
  (debugMenuLine (entry.theMenu items) s.lastCommand inputString).map fun d =>
    ({
      phase :=
        if d.intact = false then .damaged
        else if d.activeTableEntry || leavesMenu inputString then .menus
        else .listening
      activeTableEntry := if d.intact && d.activeTableEntry then some entry else none
      lastCommand := d.lastCommand
      timeoutDebugMenus :=
        if d.runs = [] then s.timeoutDebugMenus else stored.getD s.timeoutDebugMenus
    }, d.runs)

/-- debugMenuTask, with the entries that it runs; none if it does not wait for the event, if a
line leaves the array of the last command, or if the heap is damaged.
-/
def step (tables : List TableEntry) (s : Session) : SessionEvent → Option (Session × List MenuItem)
  | .accept accepted =>
      if s.phase = .listening then
        some ({ s with phase := if accepted then .password else .listening }, [])
      else none
  | .noPassword =>
      if s.phase = .password then some ({ s with phase := .listening }, []) else none
  | .typed => if s.phase = .password then some ({ s with phase := .typing }, []) else none
  | .line inputString items stored =>
      match s.phase, s.activeTableEntry with
      | .listening, _ | .password, _ | .damaged, _ => none
      | .typing, _ =>
          let phase := if inputString = debugPassword then .menus else .listening
          some ({ s with phase }, [])
      | .menus, some entry => s.menuLine entry inputString items stored
      | .menus, none => some (s.mainMenuLine tables inputString, [])
  | .inactive =>
      if s.phase.inGetInput = false then none
      else if s.timeoutDebugMenus then some ({ s with timeoutDebugMenus := false }.lost, [])
      else some (s, [])
  | .hangup =>
      if s.phase.inGetInput = false then none
      else some ({ s with timeoutDebugMenus := false }.lost, [])
  | .noMemory => if s.phase.inGetInput = false then none else some (s.lost, [])

end Session

-----------------------------------------------------------------------------------------
-- What has happened
-----------------------------------------------------------------------------------------

/-- A step of debugMenuTask. -/
abbrev SessionTurn := Transition Session SessionEvent (List MenuItem)

namespace SessionTurn

/-- The text was typed. -/
def Types (text : List UInt8) (t : SessionTurn) : Prop := t.event.inputString = some text

instance (text : List UInt8) (t : SessionTurn) : Decidable (Types text t) :=
  inferInstanceAs (Decidable (_ = _))

/-- A line was typed, or nothing. -/
def Stays (t : SessionTurn) : Prop := (∃ text, Types text t) ∨ t.event = .inactive

/-- A line that leaves the menu it was typed in. -/
def Leaves (t : SessionTurn) : Prop := ∃ text, Types text t ∧ leavesMenu text = true

/-- The password was asked for, and no line was typed since. -/
def Waiting : List SessionTurn → Prop :=
  Since (fun t => t.event = .inactive ∨ t.event = .typed) fun _ t => t.event = .accept true

/-- The password was the first line that was typed, and the connection has not ended since. -/
def LoggedIn : List SessionTurn → Prop :=
  Since Stays fun past t => Waiting past ∧ Types debugPassword t

/-- In this session the menu was asked for, and not left since. -/
def InMenu (entry : TableEntry) : List SessionTurn → Prop :=
  Since (fun t => Stays t ∧ ¬ Leaves t)
    fun past t => LoggedIn past ∧ Types entry.subSystemName t

/-- The text was typed in a menu, in this session or an earlier one, and since then no menu was
left by a q.
-/
def Typed (tables : List TableEntry) (text : List UInt8) : List SessionTurn → Prop :=
  Since (fun t => ¬ (t.before.activeTableEntry.isSome = true ∧ Leaves t))
    fun past t => (∃ entry ∈ tables, InMenu entry past) ∧ Types text t

/-- The step stores a value in timeoutDebugMenus. -/
def Stores (value : Bool) (t : SessionTurn) : Prop :=
  (value = false ∧ (t.event = .inactive ∨ t.event = .hangup))
    ∨ (value = true ∧ t.before.phase = .menus ∧ t.before.activeTableEntry = none ∧ Leaves t)
    ∨ ∃ text items, t.event = .line text items (some value) ∧ t.output ≠ []

/-- timeoutDebugMenus was stored to be false, and has not been stored to be true since. -/
def SwitchedOff : List SessionTurn → Prop :=
  Since (fun t => ¬ Stores true t) fun _ t => Stores false t

end SessionTurn

-----------------------------------------------------------------------------------------
-- What a line in a menu runs
-----------------------------------------------------------------------------------------

/-- Every entry that the loop runs is one of those that it goes over, under the name of the line
or of the last command, and the last command stays or becomes the line. By induction on the
entries.
-/
theorem Dispatch.visits_spec {inputString : List UInt8} {d d' : Dispatch}
    {items : List MenuItem} (run : d.visits inputString items = some d')
    : (∀ item ∈ d'.runs, item ∈ d.runs
        ∨ item ∈ items ∧ Selects d.lastCommand inputString item)
      ∧ (d'.lastCommand = d.lastCommand ∨ d'.lastCommand = inputString) := by
  induction items generalizing d with
  | nil =>
      obtain rfl := Option.some.inj run
      exact ⟨fun item member => .inl member, .inl rfl⟩
  | cons item rest ih =>
      by_cases selects : Selects d.lastCommand inputString item
      swap
      · rw [visits, visit_of_not_selects selects] at run
        dsimp only at run
        split_ifs at run
        · obtain ⟨entries, last⟩ := ih run
          refine ⟨fun other member => (entries other member).imp_right fun h => ⟨?_, h.2⟩, last⟩
          exact List.mem_cons_of_mem _ h.1
        · obtain rfl := Option.some.inj run
          exact ⟨fun item member => .inl member, .inl rfl⟩
      rw [visits_cons_of_selects selects, Option.ite_none_right_eq_some] at run
      obtain ⟨-, run⟩ := run
      dsimp only at run
      -- The last command is the one that was wanted by now.
      have asked
          : wanted d.lastCommand inputString = d.lastCommand
            ∨ wanted d.lastCommand inputString = inputString := by
        unfold wanted
        split_ifs
        · exact .inl rfl
        · exact .inr rfl
      have now (other : MenuItem) (member : other ∈ d.runs ++ [item])
          : other ∈ d.runs ∨ other ∈ item :: rest ∧ Selects d.lastCommand inputString other := by
        rcases List.mem_append.mp member with before | single
        · exact .inl before
        · obtain rfl := List.mem_singleton.mp single
          exact .inr ⟨List.mem_cons_self .., selects⟩
      split_ifs at run
      · obtain rfl := Option.some.inj run
        exact ⟨now, asked⟩
      obtain ⟨entries, last⟩ := ih run
      refine ⟨fun other member => ?_, ?_⟩
      · rcases entries other member with before | ⟨behind, selected⟩
        · exact now other before
        · refine .inr ⟨List.mem_cons_of_mem _ behind, ?_⟩
          rcases selected with line | last
          · exact .inl line
          · rcases asked with same | same
            · exact .inr (same ▸ last)
            · exact .inl (same ▸ last)
      · rcases last with same | same
        · rw [same]
          exact asked
        · exact .inr same

/-- What a line in a menu comes to. -/
theorem debugMenuLine_cases {theMenu : List MenuItem} {lastCommand inputString : List UInt8}
    {d : Dispatch} (run : debugMenuLine theMenu lastCommand inputString = some d)
    : leavesMenu inputString = true ∧ d = ⟨[], [], false, false, true⟩
      ∨ leavesMenu inputString = false
        ∧ (∀ item ∈ d.runs, item ∈ theMenu ∧ Dispatch.Selects lastCommand inputString item)
        ∧ (d.lastCommand = lastCommand ∨ d.lastCommand = inputString) := by
  cases leaves : leavesMenu inputString with
  | true =>
      rw [debugMenuLine, if_pos leaves] at run
      exact .inl ⟨rfl, (Option.some.inj run).symm⟩
  | false =>
      rw [debugMenuLine, if_neg (by simp [leaves])] at run
      obtain ⟨entries, last⟩ := Dispatch.visits_spec run
      refine .inr ⟨rfl, fun item member => ?_, last⟩
      obtain ⟨inside, selects⟩ := (entries item member).resolve_left List.not_mem_nil
      exact ⟨List.mem_of_mem_drop inside, selects⟩

/-- The names of a menu's entries are those of its commands. -/
theorem TableEntry.commandName_of_mem_theMenu {entry : TableEntry} {items : Nat → MenuItem}
    {item : MenuItem} (member : item ∈ entry.theMenu items)
    : item.commandName ∈ entry.commandNames := by
  obtain ⟨i, bound, rfl⟩ := List.mem_mapIdx.mp member
  exact List.getElem_mem bound

-----------------------------------------------------------------------------------------
-- Where commands are run
-----------------------------------------------------------------------------------------

namespace SessionTurn

variable {tables : List TableEntry} {past : List SessionTurn} {s next : Session}
  {event : SessionEvent} {output : List MenuItem}

/-- What the variables of debugMenuTask say about the past. -/
structure Explained (tables : List TableEntry) (past : List SessionTurn) (s : Session)
    : Prop where
  password : s.phase = .password ∨ s.phase = .typing → Waiting past
  menus : s.phase = .menus → LoggedIn past
  menu : ∀ entry, s.activeTableEntry = some entry →
    s.phase = .menus ∧ entry ∈ tables ∧ InMenu entry past
  last : s.lastCommand ≠ [] → Typed tables s.lastCommand past

theorem explained_start (tables : List TableEntry) : Explained tables [] .start where
  password := by simp [Session.start]
  menus := Phase.noConfusion
  menu := fun _ active => (Option.some_ne_none _ active.symm).elim
  last := fun some_ => absurd rfl some_

/-- The connection has ended: nothing is known of the next one. -/
theorem Explained.ends (explained : Explained tables past s) {t : SessionTurn}
    (keeps : ¬ (t.before.activeTableEntry.isSome = true ∧ Leaves t)) {timeoutDebugMenus : Bool}
    : Explained tables (past ++ [t])
        ⟨.listening, none, s.lastCommand, timeoutDebugMenus⟩ where
  password := by simp
  menus := Phase.noConfusion
  menu := fun _ active => (Option.some_ne_none _ active.symm).elim
  last := fun some_ => (explained.last some_).goes_on keeps

/-- Only a line leaves a menu. -/
theorem not_leaves {t : SessionTurn} (other : t.event.inputString = none) : ¬ Leaves t := by
  rintro ⟨text, line, -⟩
  exact Option.some_ne_none text (line.symm.trans other)

/-- Outside the menus no menu is active. -/
theorem Explained.activeTableEntry_eq_none (explained : Explained tables past s)
    (outside : s.phase ≠ .menus)
    : s.activeTableEntry = none := by
  cases active : s.activeTableEntry with
  | none => rfl
  | some entry => exact absurd (explained.menu entry active).1 outside

/-- getInput has returned NULL. -/
theorem Explained.lost (explained : Explained tables past s) {t : SessionTurn}
    (other : ¬ Leaves t) (timeoutDebugMenus : Bool)
    : Explained tables (past ++ [t]) { s with timeoutDebugMenus }.lost := by
  have ends := @Explained.ends _ _ _ explained t (fun h => other h.2) timeoutDebugMenus
  unfold Session.lost
  cases phase : s.phase with
  | listening | password | typing | damaged =>
      dsimp only
      rwa [explained.activeTableEntry_eq_none (by simp [phase])]
  | menus => exact ends

/-- An idle session goes on. -/
theorem Explained.inactive (explained : Explained tables past s) {t : SessionTurn}
    (inactive : t.event = .inactive)
    : Explained tables (past ++ [t]) s := by
  have other : ¬ Leaves t := not_leaves (by rw [inactive]; rfl)
  exact {
    password := fun phase => (explained.password phase).goes_on (.inl inactive)
    menus := fun phase => (explained.menus phase).goes_on (.inr inactive)
    menu := fun entry active => by
      obtain ⟨phase, member, inMenu⟩ := explained.menu entry active
      exact ⟨phase, member, inMenu.goes_on ⟨.inr inactive, other⟩⟩
    last := fun some_ => (explained.last some_).goes_on fun h => other h.2
  }

/-- A line in a menu. -/
theorem Explained.menuLine (explained : Explained tables past s) {entry : TableEntry}
    (active : s.activeTableEntry = some entry) {t : SessionTurn}
    {inputString : List UInt8} {items : Nat → MenuItem} {stored : Option Bool}
    (types : Types inputString t)
    (taken : s.menuLine entry inputString items stored = some (next, output))
    : Explained tables (past ++ [t]) next := by
  obtain ⟨phase, member, inMenu⟩ := explained.menu entry active
  have loggedIn : LoggedIn (past ++ [t]) :=
    (explained.menus phase).goes_on (.inl ⟨inputString, types⟩)
  obtain ⟨d, run, same⟩ := Option.map_eq_some_iff.mp taken
  obtain ⟨rfl, -⟩ := Prod.mk.inj same
  rcases debugMenuLine_cases run with ⟨leaves, rfl⟩ | ⟨stays, -, last⟩
  · rw [leaves]
    exact {
      password := by simp
      menus := fun _ => loggedIn
      menu := fun _ active => (Option.some_ne_none _ active.symm).elim
      last := fun some_ => absurd rfl some_
    }
  have goes : ¬ Leaves t := by
    rintro ⟨text, line, leaves⟩
    obtain rfl := Option.some.inj (types.symm.trans line)
    exact Bool.false_ne_true (stays.symm.trans leaves)
  have typed (some_ : d.lastCommand ≠ []) : Typed tables d.lastCommand (past ++ [t]) := by
    rcases last with same | same
    · rw [same] at some_ ⊢
      exact (explained.last some_).goes_on fun h => goes h.2
    · exact since_now ⟨⟨entry, member, inMenu⟩, same ▸ types⟩
  rw [stays, Bool.or_false]
  cases d.intact with
  | false =>
      exact ⟨by simp, Phase.noConfusion,
        fun _ active => (Option.some_ne_none _ active.symm).elim, typed⟩
  | true =>
      cases d.activeTableEntry with
      | true =>
          refine ⟨by simp, fun _ => loggedIn, fun other active => ?_, typed⟩
          obtain rfl := Option.some.inj active
          exact ⟨rfl, member, inMenu.goes_on ⟨.inl ⟨inputString, types⟩, goes⟩⟩
      | false =>
          exact ⟨by simp, Phase.noConfusion,
            fun _ active => (Option.some_ne_none _ active.symm).elim, typed⟩

/-- A line in the main menu. -/
theorem Explained.mainMenuLine (explained : Explained tables past s) (phase : s.phase = .menus)
    (noMenu : s.activeTableEntry = none) {t : SessionTurn} (before : t.before = s)
    {inputString : List UInt8} (types : Types inputString t)
    : Explained tables (past ++ [t]) (s.mainMenuLine tables inputString) := by
  have keeps : ¬ (t.before.activeTableEntry.isSome = true ∧ Leaves t) := by
    rw [before, noMenu]
    exact fun h => Bool.false_ne_true h.1
  have loggedIn : LoggedIn (past ++ [t]) :=
    (explained.menus phase).goes_on (.inl ⟨inputString, types⟩)
  unfold Session.mainMenuLine
  by_cases leaves : leavesMenu inputString = true
  · rw [if_pos leaves, noMenu]
    exact explained.ends keeps
  rw [if_neg leaves]
  cases found : tables.find? (·.subSystemName = inputString) with
  | none =>
      exact {
        password := by simp [phase]
        menus := fun _ => loggedIn
        menu := fun _ active => by rw [noMenu] at active; cases active
        last := fun some_ => (explained.last some_).goes_on keeps
      }
  | some entry =>
      have named : entry.subSystemName = inputString := by
        simpa using List.find?_some found
      refine ⟨by simp [phase], fun _ => loggedIn, fun other active => ?_, fun some_ => ?_⟩
      · obtain rfl := Option.some.inj active
        exact ⟨phase, List.mem_of_find?_eq_some found,
          since_now ⟨explained.menus phase, named ▸ types⟩⟩
      · exact (explained.last some_).goes_on keeps

/-- A line that is compared with the password. -/
theorem Explained.passwordLine (explained : Explained tables past s) (phase : s.phase = .typing)
    {t : SessionTurn} (before : t.before = s) {inputString : List UInt8}
    (types : Types inputString t)
    : Explained tables (past ++ [t])
        { s with phase := if inputString = debugPassword then .menus else .listening } := by
  have noMenu := explained.activeTableEntry_eq_none (by simp [phase])
  have keeps : ¬ (t.before.activeTableEntry.isSome = true ∧ Leaves t) := by
    rw [before, noMenu]
    exact fun h => Bool.false_ne_true h.1
  rw [noMenu]
  by_cases right : inputString = debugPassword
  · rw [if_pos right]
    exact {
      password := by simp
      menus := fun _ => since_now ⟨explained.password (.inr phase), right ▸ types⟩
      menu := fun _ active => (Option.some_ne_none _ active.symm).elim
      last := fun some_ => (explained.last some_).goes_on keeps
    }
  · rw [if_neg right]
    exact explained.ends keeps

/-- Every step explains the variables anew, by cases on its event. -/
theorem Explained.step (explained : Explained tables past s)
    (taken : s.step tables event = some (next, output))
    : Explained tables (past ++ [⟨s, event, output, next⟩]) next := by
  have noMenu := explained.activeTableEntry_eq_none
  cases event with
  | accept accepted =>
      obtain ⟨phase, taken⟩ := Option.ite_none_right_eq_some.mp taken
      obtain ⟨rfl, rfl⟩ := Prod.mk.inj (Option.some.inj taken)
      rw [noMenu (by simp [phase])]
      cases accepted with
      | false => exact explained.ends fun h => not_leaves rfl h.2
      | true =>
          exact {
            password := fun _ => since_now rfl
            menus := Phase.noConfusion
            menu := fun _ active => (Option.some_ne_none _ active.symm).elim
            last := fun some_ => (explained.last some_).goes_on fun h => not_leaves rfl h.2
          }
  | noPassword =>
      obtain ⟨phase, taken⟩ := Option.ite_none_right_eq_some.mp taken
      obtain ⟨rfl, rfl⟩ := Prod.mk.inj (Option.some.inj taken)
      rw [noMenu (by simp [phase])]
      exact explained.ends fun h => not_leaves rfl h.2
  | typed =>
      obtain ⟨phase, taken⟩ := Option.ite_none_right_eq_some.mp taken
      obtain ⟨rfl, rfl⟩ := Prod.mk.inj (Option.some.inj taken)
      rw [noMenu (by simp [phase])]
      exact {
        password := fun _ => (explained.password (.inl phase)).goes_on (.inr rfl)
        menus := Phase.noConfusion
        menu := fun _ active => (Option.some_ne_none _ active.symm).elim
        last := fun some_ => (explained.last some_).goes_on fun h => not_leaves rfl h.2
      }
  | line inputString items stored =>
      cases phase : s.phase with
      | listening | password | damaged => simp [Session.step, phase] at taken
      | typing =>
          simp only [Session.step, phase] at taken
          obtain ⟨rfl, rfl⟩ := Prod.mk.inj (Option.some.inj taken)
          exact explained.passwordLine phase rfl rfl
      | menus =>
          cases active : s.activeTableEntry with
          | some entry =>
              simp only [Session.step, phase, active] at taken
              exact explained.menuLine active rfl taken
          | none =>
              simp only [Session.step, phase, active] at taken
              obtain ⟨rfl, rfl⟩ := Prod.mk.inj (Option.some.inj taken)
              exact explained.mainMenuLine phase active rfl rfl
  | inactive =>
      obtain ⟨-, taken⟩ := Option.ite_none_left_eq_some.mp taken
      split_ifs at taken
      · obtain ⟨rfl, rfl⟩ := Prod.mk.inj (Option.some.inj taken)
        exact explained.lost (not_leaves rfl) false
      · obtain ⟨rfl, rfl⟩ := Prod.mk.inj (Option.some.inj taken)
        exact explained.inactive rfl
  | hangup =>
      obtain ⟨-, taken⟩ := Option.ite_none_left_eq_some.mp taken
      obtain ⟨rfl, rfl⟩ := Prod.mk.inj (Option.some.inj taken)
      exact explained.lost (not_leaves rfl) false
  | noMemory =>
      obtain ⟨-, taken⟩ := Option.ite_none_left_eq_some.mp taken
      obtain ⟨rfl, rfl⟩ := Prod.mk.inj (Option.some.inj taken)
      exact explained.lost (not_leaves rfl) s.timeoutDebugMenus

/-- Entries are run by a line in a menu only. -/
theorem line_of_mem_output (taken : s.step tables event = some (next, output)) {item : MenuItem}
    (ran : item ∈ output)
    : ∃ text items stored entry, event = .line text items stored ∧ s.phase = .menus
      ∧ s.activeTableEntry = some entry
      ∧ s.menuLine entry text items stored = some (next, output) := by
  have something : output ≠ [] := List.ne_nil_of_mem ran
  cases event with
  | line text items stored =>
      cases phase : s.phase with
      | listening | password | damaged => simp [Session.step, phase] at taken
      | typing =>
          simp only [Session.step, phase, Option.some.injEq, Prod.mk.injEq] at taken
          exact absurd taken.2.symm something
      | menus =>
          cases active : s.activeTableEntry with
          | some entry =>
              simp only [Session.step, phase, active] at taken
              exact ⟨text, items, stored, entry, rfl, rfl, rfl, taken⟩
          | none =>
              simp only [Session.step, phase, active, Option.some.injEq, Prod.mk.injEq] at taken
              exact absurd taken.2.symm something
  | accept | noPassword | typed | inactive | hangup | noMemory =>
      simp only [Session.step] at taken
      split_ifs at taken
      all_goals
        simp only [Option.some.injEq, Prod.mk.injEq] at taken
        exact absurd taken.2.symm something

/-- A command is run only in a session that began with the password, in a menu that was asked
for and not left since, and under a name that was typed: in this line, or in a menu before it,
be it in another session, if no menu was left by a q since then.
-/
theorem commands_authorised {tables : List TableEntry} {finish : Session}
    {transitions past later : List SessionTurn} {t : SessionTurn}
    (run : Run (Session.step tables) .start transitions finish)
    (parts : transitions = past ++ t :: later) {item : MenuItem} (ran : item ∈ t.output)
    : ∃ text name, Types text t ∧ item.commandName = some name
      ∧ (∃ entry ∈ tables, InMenu entry past ∧ some name ∈ entry.commandNames)
      ∧ (name = text ∨ Typed tables name past) := by
  have keep : ∀ past state event next output, Explained tables past state →
      Session.step tables state event = some (next, output) →
      Explained tables (past ++ [⟨state, event, output, next⟩]) next :=
    fun _ _ _ _ _ explained taken => explained.step taken
  obtain ⟨explained, taken⟩ := related_of_run keep run (explained_start tables) parts
  obtain ⟨text, items, stored, entry, line, phase, active, menuLine⟩ :=
    line_of_mem_output taken ran
  obtain ⟨-, member, inMenu⟩ := explained.menu entry active
  obtain ⟨d, went, same⟩ := Option.map_eq_some_iff.mp menuLine
  have ran : item ∈ d.runs := (Prod.mk.inj same).2 ▸ ran
  have typed : Types text t := by rw [Types, line]; rfl
  rcases debugMenuLine_cases went with ⟨-, rfl⟩ | ⟨-, entries, -⟩
  · exact absurd ran List.not_mem_nil
  obtain ⟨inside, selects⟩ := entries item ran
  have listed := TableEntry.commandName_of_mem_theMenu inside
  rcases selects with now | last
  · rw [now] at listed
    exact ⟨text, text, typed, now, ⟨entry, member, inMenu, listed⟩, .inl rfl⟩
  · rw [last] at listed
    have some_ : t.before.lastCommand ≠ [] := fun empty => entry.named (empty ▸ listed)
    exact ⟨text, t.before.lastCommand, typed, last,
      ⟨entry, member, inMenu, listed⟩, .inr (explained.last some_)⟩

end SessionTurn

/-- Two of the commands of the menu for the battery. -/
def fuelTable : TableEntry where
  subSystemName := ascii "fuel"
  commandNames := [none, some (ascii "percent"), some (ascii "power")]
  named := by decide +kernel

/-- A command in one session, and an empty line in the same menu of the next one. -/
def repeatedInNextSession : List SessionEvent :=
  let text (line : List UInt8) : SessionEvent :=
    .line line (fun _ => ⟨none, reconnSuccess, [], true⟩) none
  [
    .accept true, .typed, text debugPassword, text (ascii "fuel"), text (ascii "power"), .hangup,
    .accept true, .typed, text debugPassword, text (ascii "fuel"), text []
  ]

/-- The command that the empty line runs was typed in the session before. -/
theorem commands_authorised_repeated
    : ∃ past t,
        (replay (Session.step [fuelTable]) .start repeatedInNextSession).1 = past ++ [t]
        ∧ SessionTurn.Types [] t
        ∧ SessionTurn.Typed [fuelTable] (ascii "power") past := by
  have run : Run (Session.step [fuelTable]) .start _ _ :=
    replay_run Session.start repeatedInNextSession
  have some_ : (replay (Session.step [fuelTable]) .start repeatedInNextSession).1 ≠ [] := by
    intro empty
    have length := congrArg List.length empty
    revert length
    decide +kernel
  obtain ⟨ran, empty⟩
      : ⟨some (ascii "power"), reconnSuccess, [], true⟩ ∈ (List.getLast _ some_).output
        ∧ SessionTurn.Types [] (List.getLast _ some_) := by
    decide +kernel +revert
  have parts := (List.dropLast_append_getLast some_).symm
  obtain ⟨text, name, types, named, -, typed⟩ :=
    SessionTurn.commands_authorised run parts ran
  obtain rfl := Option.some.inj (empty.symm.trans types)
  obtain rfl := Option.some.inj named
  refine ⟨_, _, parts, empty, typed.resolve_left ?_⟩
  decide +kernel

-----------------------------------------------------------------------------------------
-- Inactivity
-----------------------------------------------------------------------------------------

namespace SessionTurn

variable {tables : List TableEntry} {past : List SessionTurn} {s next : Session}
  {event : SessionEvent} {output : List MenuItem}

theorem timeoutDebugMenus_lost (s : Session)
    : s.lost.timeoutDebugMenus = s.timeoutDebugMenus := by
  unfold Session.lost
  cases s.phase <;> rfl

/-- Without a line only the end of getInput stores something. -/
theorem stores_of_noLine {t : SessionTurn} (noLine : t.event.inputString = none) {value : Bool}
    (stores : Stores value t)
    : value = false ∧ (t.event = .inactive ∨ t.event = .hangup) := by
  rcases stores with ends | ⟨-, -, -, leaves⟩ | ⟨text, items, line, -⟩
  · exact ends
  · exact absurd leaves (not_leaves noLine)
  · rw [line] at noLine
    cases noLine

/-- A line stores something as it leaves the main menu, or by the commands that it runs. -/
theorem stores_of_line {t : SessionTurn} {text : List UInt8} {items : Nat → MenuItem}
    {stored : Option Bool} (line : t.event = .line text items stored) {value : Bool}
    : Stores value t
      ↔ (value = true ∧ t.before.phase = .menus ∧ t.before.activeTableEntry = none
          ∧ leavesMenu text = true)
        ∨ stored = some value ∧ t.output ≠ [] := by
  have typed : t.event.inputString = some text := by rw [line]; rfl
  simp [Stores, Leaves, Types, line, SessionEvent.inputString]

/-- The value of timeoutDebugMenus after a line is the one that it stores, or the one before. -/
theorem timeoutDebugMenus_line {text : List UInt8} {items : Nat → MenuItem}
    {stored : Option Bool}
    (taken : s.step tables (.line text items stored) = some (next, output))
    : next.timeoutDebugMenus = false
      ↔ Stores false ⟨s, .line text items stored, output, next⟩
        ∨ ¬ Stores true ⟨s, .line text items stored, output, next⟩
          ∧ s.timeoutDebugMenus = false := by
  have line : (⟨s, .line text items stored, output, next⟩ : SessionTurn).event
    = .line text items stored := rfl
  rw [stores_of_line line, stores_of_line line]
  cases phase : s.phase with
  | listening | password | damaged => simp [Session.step, phase] at taken
  | typing =>
      simp only [Session.step, phase, Option.some.injEq, Prod.mk.injEq] at taken
      obtain ⟨rfl, rfl⟩ := taken
      simp
  | menus =>
      cases active : s.activeTableEntry with
      | some entry =>
          simp only [Session.step, phase, active] at taken
          obtain ⟨d, -, same⟩ := Option.map_eq_some_iff.mp taken
          obtain ⟨rfl, rfl⟩ := Prod.mk.inj same
          by_cases none_ : d.runs = []
          · simp [none_]
          · cases stored with
            | none => simp [none_]
            | some value => cases value <;> simp [none_]
      | none =>
          simp only [Session.step, phase, active, Option.some.injEq, Prod.mk.injEq] at taken
          obtain ⟨rfl, rfl⟩ := taken
          unfold Session.mainMenuLine
          by_cases leaves : leavesMenu text = true
          · simp [leaves]
          · rw [if_neg leaves]
            split <;> simp [leaves]

/-- The value of timeoutDebugMenus is the one stored last, by cases on the event of the step. -/
theorem timeoutDebugMenus_step (taken : s.step tables event = some (next, output))
    : next.timeoutDebugMenus = false
      ↔ Stores false ⟨s, event, output, next⟩
        ∨ ¬ Stores true ⟨s, event, output, next⟩ ∧ s.timeoutDebugMenus = false := by
  have kept (same : next.timeoutDebugMenus = s.timeoutDebugMenus)
      (neither : ∀ value, ¬ Stores value ⟨s, event, output, next⟩)
      : next.timeoutDebugMenus = false
        ↔ Stores false ⟨s, event, output, next⟩
          ∨ ¬ Stores true ⟨s, event, output, next⟩ ∧ s.timeoutDebugMenus = false := by
    simp [same, neither]
  cases event with
  | line text items stored => exact timeoutDebugMenus_line taken
  | accept | noPassword | typed | noMemory =>
      refine kept ?_ fun value stores => ?_
      · simp only [Session.step] at taken
        split_ifs at taken
        all_goals
          obtain ⟨rfl, -⟩ := Prod.mk.inj (Option.some.inj taken)
          simp [timeoutDebugMenus_lost]
      · simpa using (stores_of_noLine rfl stores).2
  | inactive =>
      obtain ⟨-, taken⟩ := Option.ite_none_left_eq_some.mp taken
      refine iff_of_true ?_ (.inl (.inl ⟨rfl, .inl rfl⟩))
      split_ifs at taken with timeout
      · obtain ⟨rfl, -⟩ := Prod.mk.inj (Option.some.inj taken)
        exact timeoutDebugMenus_lost _
      · obtain ⟨rfl, -⟩ := Prod.mk.inj (Option.some.inj taken)
        simpa using timeout
  | hangup =>
      obtain ⟨-, taken⟩ := Option.ite_none_left_eq_some.mp taken
      obtain ⟨rfl, -⟩ := Prod.mk.inj (Option.some.inj taken)
      exact iff_of_true (timeoutDebugMenus_lost _) (.inl (.inl ⟨rfl, .inr rfl⟩))

/-- If getInput waits for a character in vain, it ends the connection exactly unless it has ended
one before, for that reason or because the connection was gone, or a command has switched this
off, and nobody has left the main menu by a q or switched it on since.
-/
theorem inactivity_ends_iff {tables : List TableEntry} {finish : Session}
    {transitions past later : List SessionTurn} {t : SessionTurn}
    (run : Run (Session.step tables) .start transitions finish)
    (parts : transitions = past ++ t :: later) (inactive : t.event = .inactive)
    : t.after.phase = .listening
      ↔ ¬ SwitchedOff past := by
  have keep : ∀ past (state : Session) event (next : Session) output,
      (state.timeoutDebugMenus = false ↔ SwitchedOff past) →
      Session.step tables state event = some (next, output) →
      (next.timeoutDebugMenus = false
        ↔ SwitchedOff (past ++ [⟨state, event, output, next⟩])) := by
    intro past state event next output related taken
    rw [timeoutDebugMenus_step taken, related, SwitchedOff, since_concat_iff]
  have initially : Session.start.timeoutDebugMenus = false ↔ SwitchedOff [] :=
    iff_of_false Bool.noConfusion not_since_nil
  obtain ⟨related, taken⟩ := related_of_run keep run initially parts
  rw [← related]
  rw [inactive] at taken
  obtain ⟨serving, taken⟩ := Option.ite_none_left_eq_some.mp taken
  split_ifs at taken with timeout
  · obtain ⟨ended, -⟩ := Prod.mk.inj (Option.some.inj taken)
    refine iff_of_true ?_ (by simp [timeout])
    rw [← ended]
    unfold Session.lost
    cases t.before.phase <;> rfl
  · obtain ⟨same, -⟩ := Prod.mk.inj (Option.some.inj taken)
    rw [← same]
    refine iff_of_false (fun listening => serving ?_) (by simpa using timeout)
    rw [listening]
    rfl

end SessionTurn

/-- A password that nobody types to its end, after a connection that has ended by itself. -/
def idleAfterHangup : List SessionEvent :=
  [.accept true, .typed, .hangup, .accept true, .typed, .inactive]

/-- The connection is not ended. -/
theorem inactivity_ends_afterHangup
    : ∃ past t,
        (replay (Session.step [fuelTable]) .start idleAfterHangup).1 = past ++ [t]
        ∧ t.after.phase = .typing ∧ SessionTurn.SwitchedOff past := by
  have run : Run (Session.step [fuelTable]) .start _ _ :=
    replay_run Session.start idleAfterHangup
  have some_ : (replay (Session.step [fuelTable]) .start idleAfterHangup).1 ≠ [] :=
    List.cons_ne_nil _ _
  have parts := (List.dropLast_append_getLast some_).symm
  have phase : (List.getLast _ some_).after.phase = .typing := rfl
  have ends := SessionTurn.inactivity_ends_iff run parts rfl
  rw [phase] at ends
  exact ⟨_, _, parts, phase, by_contra fun on => Phase.noConfusion (ends.mpr on)⟩

end Reconn.Debug
