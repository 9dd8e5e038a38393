import Mathlib.Data.Vector.Defs
import Reconn.Client.Effects
import Reconn.Library.Lines
import Reconn.Library.Terminated

/-! The configuration file of hostapd, by wifiUpdateHostapdConfFile of wifi.c. A line that starts
with a token is to get a new value, and the other lines are to stay as they are.
-/

namespace Reconn.Wifi

open Lines
open Client (
  ReconnErrCode reconnSuccess reconnFailure wifiSsidToken wifiPasswdToken wifiSsidMaxLength
  wifiPasswdMaxLength ascii cString)

/-- WIFI_CONF_FILE -/
def wifiConfFile : List UInt8 := ascii "/etc/hostapd.conf"
/-- WIFI_CONF_FILE_NEW -/
def wifiConfFileNew : List UInt8 := ascii "/etc/hostapd.new"

/-- What getline() is given for the size of theFileString. It gives back more after a line that
does not fit with its NUL.
-/
def lineSize : Nat := 90

def newline : UInt8 := 10

/-- The settings that a client changes. -/
inductive Setting where
  /-- WIFI_CHANGE_SSID_REQ -/
  | ssid
  /-- WIFI_CHANGE_PASSWORD_REQ -/
  | passwd
  deriving DecidableEq, Repr

namespace Setting

def token : Setting → List UInt8
  | ssid => ascii wifiSsidToken
  | passwd => ascii wifiPasswdToken

/-- Whether the request accepts a payload of this length. -/
def accepts : Setting → Nat → Bool
  | ssid, length => length ≤ wifiSsidMaxLength
  | passwd, length => 8 ≤ length && length ≤ wifiPasswdMaxLength

end Setting

/-- strcat() of a string to the one in a buffer; none if it leaves the buffer. -/
def strcat (buffer string : List UInt8) : Option (List UInt8) :=
  let held := cString buffer
  if held.length + string.length < buffer.length then
    some (held ++ string ++ 0 :: buffer.drop (held.length + string.length + 1))
  else none

/-- strcat() of several strings in turn. -/
def strcats : List UInt8 → List (List UInt8) → Option (List UInt8)
  | buffer, [] => some buffer
  | buffer, string :: more => (strcat buffer string).bind fun buffer => strcats buffer more

/-- The loop of wifiUpdateHostapdConfFile: what it writes for these lines, where theNewString
holds these bytes; none if it leaves a buffer. After a line that does not fit in theFileString,
memset() leaves theNewString, which has not grown.
-/
def updateLines (token theNewValue : List UInt8)
    : List UInt8 → List (List UInt8) → Option (List UInt8)
  | _, [] => some []
  | theNewString, theFileString :: more =>
      let written :=
        if token <+: theFileString then
          (strcats theNewString [token, theNewValue, [newline]]).map cString
        else some (cString theFileString)
      written.bind fun written =>
        if theFileString.length < lineSize then
          (updateLines token theNewValue (List.replicate (lineSize + 1) 0) more).map
            (written ++ ·)
        else none

/-- What the calls of wifiUpdateHostapdConfFile return; of malloc(), the bytes that it finds in
the heap.
-/
structure UpdateOutcomes where
  /-- fopen() of WIFI_CONF_FILE_NEW -/
  newOpens : Bool
  /-- fopen() of WIFI_CONF_FILE -/
  confOpens : Bool
  /-- malloc() of theFileString, which getline() writes before it is read -/
  theFileString : Bool
  theNewString : Option (List.Vector UInt8 (lineSize + 1))
  theCommand
    : Option (List.Vector UInt8 (wifiConfFile.length + wifiConfFileNew.length + 5))

/-- wifiUpdateHostapdConfFile, for what hostapd's file holds, with what it holds afterwards;
none if a store goes to NULL or leaves its buffer. A command that fits in theCommand is the mv of
the new file.
-/
def wifiUpdateHostapdConfFile (token theNewValue conf : List UInt8) (env : UpdateOutcomes)
    : Option (List UInt8 × ReconnErrCode) :=
  if env.newOpens = false ∨ env.confOpens = false ∨ env.theFileString = false then
    some (conf, reconnFailure)
  else
    match env.theNewString with
    | none => some (conf, reconnFailure)
    | some theNewString =>
        -- the first use of theCommand is a memset() or strcat(), without a test for NULL
        env.theCommand.bind fun theCommand =>
          let found := lines newline conf
          (updateLines token theNewValue theNewString.toList found).bind fun written =>
            let theCommand :=
              if found = [] then theCommand.toList
              else List.replicate (wifiConfFile.length + wifiConfFileNew.length + 5) 0
            (strcats theCommand [ascii "mv ", wifiConfFileNew, ascii " ", wifiConfFile]).map
              fun _ => (written, reconnSuccess)

/-- The outcomes of calls that succeed, for what the heap held. -/
def UpdateOutcomes.onHeap (theNewString : List.Vector UInt8 (lineSize + 1))
    (theCommand : List.Vector UInt8 (wifiConfFile.length + wifiConfFileNew.length + 5))
    : UpdateOutcomes :=
  ⟨true, true, true, some theNewString, some theCommand⟩

/-- A line as it is to be: a token line has the new value. -/
def replaced (token theNewValue line : List UInt8) : List UInt8 :=
  if token <+: line then token ++ theNewValue ++ [newline] else line

/-- What is written for the lines of a file. Each is written as a string, up to its first NUL. -/
def rewritten (token theNewValue conf : List UInt8) : List UInt8 :=
  ((lines newline conf).map (replaced token theNewValue)).flatMap cString

/-- Whatever the heap held, an update succeeds and leaves a file that meets the condition. -/
def Setting.Updates (setting : Setting) (value conf : List UInt8)
    (meets : List UInt8 → Prop)
    : Prop :=
  ∀ theNewString theCommand, ∃ written,
    wifiUpdateHostapdConfFile setting.token value conf (.onHeap theNewString theCommand)
        = some (written, reconnSuccess)
      ∧ meets written

/-- The file has a line, none of its lines is as long as getline()'s buffer, and the first one
is no token line.
-/
structure Setting.Fits (setting : Setting) (conf : List UInt8) : Prop where
  some : conf ≠ []
  short : ∀ line ∈ lines newline conf, line.length < lineSize
  first : ∀ line ∈ (lines newline conf).head?, ¬ setting.token <+: line

-----------------------------------------------------------------------------------------
-- Strings
-----------------------------------------------------------------------------------------

section Strings

variable {buffer string bytes : List UInt8}

theorem cString_starts (bytes : List UInt8) : cString bytes <+: bytes :=
  Terminated.upTo_starts 0 bytes

theorem not_mem_cString (bytes : List UInt8) : 0 ∉ cString bytes :=
  Terminated.not_mem_upTo 0 bytes

/-- A string is a list of bytes without a NUL. -/
theorem cString_eq_self_iff : cString bytes = bytes ↔ 0 ∉ bytes := Terminated.upTo_eq_self_iff

theorem cString_terminated (terminated : 0 ∉ string) (rest : List UInt8)
    : cString (string ++ 0 :: rest) = string :=
  Terminated.upTo_append terminated rest

/-- The string in bytes that are zero after it. -/
theorem cString_padded (terminated : 0 ∉ string) (count : Nat)
    : cString (string ++ List.replicate count 0) = string :=
  Terminated.upTo_padded terminated count

/-- A cleared buffer holds the empty string. -/
theorem cString_cleared (size : Nat) : cString (List.replicate size 0) = [] :=
  cString_padded List.not_mem_nil size

/-- A string that fits is appended. -/
theorem strcat_fits (terminated : 0 ∉ string)
    (fits : (cString buffer).length + string.length < buffer.length)
    : ∃ next, strcat buffer string = some next ∧ cString next = cString buffer ++ string
      ∧ next.length = buffer.length := by
  refine ⟨_, if_pos fits, cString_terminated ?_ _, ?_⟩
  · exact fun member =>
      (List.mem_append.mp member).elim (not_mem_cString buffer) terminated
  · rw [List.length_append, List.length_append, List.length_cons, List.length_drop]
    omega

/-- What several strings make up in a buffer, by induction on them. -/
theorem strcats_eq {strings : List (List UInt8)} (terminated : ∀ string ∈ strings, 0 ∉ string)
    (some_ : strings ≠ [])
    : (strcats buffer strings).map cString
      = if (cString buffer).length + strings.flatten.length < buffer.length then
          some (cString buffer ++ strings.flatten)
        else none := by
  induction strings generalizing buffer with
  | nil => exact absurd rfl some_
  | cons string more ih =>
      obtain ⟨here, later⟩ := List.forall_mem_cons.mp terminated
      rw [List.flatten_cons, List.length_append, strcats]
      by_cases fits : (cString buffer).length + string.length < buffer.length
      · obtain ⟨next, joined, holds, size⟩ := strcat_fits here fits
        rw [joined, Option.bind_some]
        by_cases last : more = []
        · subst last
          rw [List.flatten_nil, List.length_nil, List.append_nil, Nat.add_zero, if_pos fits,
            ← holds]
          rfl
        · rw [ih later last, holds, size, List.length_append, List.append_assoc,
            Nat.add_assoc]
      · rw [strcat, if_neg fits, Option.bind_none, if_neg (by omega)]
        rfl

end Strings

-----------------------------------------------------------------------------------------
-- The loop over the lines
-----------------------------------------------------------------------------------------

section Loop

variable {token value conf buffer line : List UInt8} {found : List (List UInt8)}

theorem newLine_strings (plain : 0 ∉ token) (terminated : 0 ∉ value)
    : ∀ string ∈ [token, value, [newline]], 0 ∉ string := by
  simp only [List.forall_mem_cons]
  exact ⟨plain, terminated, by decide, List.forall_mem_nil _⟩

/-- A new line is a string. -/
theorem not_mem_newLine (plain : 0 ∉ token) (terminated : 0 ∉ value)
    : 0 ∉ token ++ value ++ [newline] := by
  simp only [List.mem_append, List.mem_singleton, not_or]
  exact ⟨⟨plain, terminated⟩, by decide⟩

/-- A cleared buffer takes the new line. -/
theorem strcats_cleared (plain : 0 ∉ token) (terminated : 0 ∉ value)
    (fits : token.length + value.length < lineSize)
    : (strcats (List.replicate (lineSize + 1) 0) [token, value, [newline]]).map cString
      = some (token ++ value ++ [newline]) := by
  have size
      : ([] : List UInt8).length + [token, value, [newline]].flatten.length
        < (List.replicate (lineSize + 1) (0 : UInt8)).length := by
    simp only [List.flatten_cons, List.flatten_nil, List.length_append, List.length_replicate,
      List.length_nil, List.length_singleton]
    omega
  rw [strcats_eq (newLine_strings plain terminated) (List.cons_ne_nil _ _), cString_cleared,
    if_pos size]
  simp only [List.flatten_cons, List.flatten_nil, List.nil_append, List.append_nil,
    List.append_assoc]

/-- With theNewString cleared the loop writes every line, by induction on the lines, unless one
does not fit.
-/
theorem updateLines_cleared (plain : 0 ∉ token) (terminated : 0 ∉ value)
    (fits : token.length + value.length < lineSize) (found : List (List UInt8))
    : updateLines token value (List.replicate (lineSize + 1) 0) found
      = if ∀ line ∈ found, line.length < lineSize then
          some ((found.map (replaced token value)).flatMap cString)
        else none := by
  induction found with
  | nil => exact (if_pos (List.forall_mem_nil _)).symm
  | cons line more ih =>
      have written
          : (if token <+: line then
                (strcats (List.replicate (lineSize + 1) 0) [token, value, [newline]]).map
                  cString
              else some (cString line))
            = some (cString (replaced token value line)) := by
        unfold replaced
        split_ifs
        · have string := not_mem_newLine plain terminated
          rw [strcats_cleared plain terminated fits, cString_eq_self_iff.mpr string]
        · rfl
      have all
          : (∀ other ∈ line :: more, other.length < lineSize)
            ↔ line.length < lineSize ∧ ∀ other ∈ more, other.length < lineSize :=
        List.forall_mem_cons
      rw [updateLines, written, Option.bind_some, ih]
      by_cases short : line.length < lineSize
      · rw [if_pos short]
        by_cases others : ∀ other ∈ more, other.length < lineSize
        · rw [if_pos others, if_pos (all.mpr ⟨short, others⟩)]
          rfl
        · rw [if_neg others, if_neg fun both => others (all.mp both).2]
          rfl
      · rw [if_neg short, if_neg fun both => short (all.mp both).1]

/-- Unless the first line is a token line, theNewString is cleared before it is used. -/
theorem updateLines_first (first : ∀ line ∈ found.head?, ¬ token <+: line)
    (buffer next : List UInt8)
    : updateLines token value buffer found = updateLines token value next found := by
  cases found with
  | nil => rfl
  | cons line more =>
      have other : ¬ token <+: line := first line rfl
      rw [updateLines, updateLines, if_neg other, if_neg other]

/-- A buffer without a NUL takes no string. -/
theorem strcats_unterminated {strings : List (List UInt8)}
    (terminated : ∀ string ∈ strings, 0 ∉ string) (some_ : strings ≠ [])
    (unterminated : 0 ∉ buffer)
    : strcats buffer strings = none := by
  refine Option.map_eq_none_iff.mp ((strcats_eq terminated some_).trans (if_neg ?_))
  rw [cString_eq_self_iff.mpr unterminated]
  omega

/-- A token line that stands first does not fit behind a heap without a NUL. -/
theorem updateLines_unterminated (plain : 0 ∉ token) (terminated : 0 ∉ value)
    (unterminated : 0 ∉ buffer) (isToken : token <+: line) (more : List (List UInt8))
    : updateLines token value buffer (line :: more) = none := by
  have strings := newLine_strings plain terminated
  rw [updateLines, if_pos isToken,
    strcats_unterminated strings (List.cons_ne_nil _ _) unterminated]
  rfl

end Loop

-----------------------------------------------------------------------------------------
-- The update
-----------------------------------------------------------------------------------------

/-- The strings that make up the command. -/
def moveCommand : List (List UInt8) := [ascii "mv ", wifiConfFileNew, ascii " ", wifiConfFile]

theorem moveCommand_terminated : ∀ string ∈ moveCommand, 0 ∉ string := by decide

theorem wifiUpdateHostapdConfFile_onHeap (token value conf : List UInt8)
    (theNewString : List.Vector UInt8 (lineSize + 1))
    (theCommand : List.Vector UInt8 (wifiConfFile.length + wifiConfFileNew.length + 5))
    : wifiUpdateHostapdConfFile token value conf (.onHeap theNewString theCommand)
      = (updateLines token value theNewString.toList (lines newline conf)).bind fun written =>
          (strcats
              (if lines newline conf = [] then theCommand.toList
              else List.replicate (wifiConfFile.length + wifiConfFileNew.length + 5) 0)
              moveCommand).map
            fun _ => (written, reconnSuccess) :=
  rfl

theorem lines_eq_nil_iff {conf : List UInt8} : lines newline conf = [] ↔ conf = [] := by
  refine ⟨fun none => ?_, fun none => ?_⟩
  · rw [← flatten_lines newline conf, none]
    rfl
  · rw [none]
    rfl

namespace Setting

variable {setting : Setting} {value conf : List UInt8} {meets : List UInt8 → Prop}

theorem token_terminated (setting : Setting) : 0 ∉ setting.token := by
  cases setting <;> decide

theorem newline_not_mem_token (setting : Setting) : newline ∉ setting.token := by
  cases setting <;> decide

theorem token_length (setting : Setting) : setting.token.length ≤ 15 := by
  cases setting <;> decide

/-- A line as it is to be is a string exactly if it is a token line or was one. -/
theorem replaced_terminated_iff (terminated : 0 ∉ value) {line : List UInt8}
    : 0 ∉ replaced setting.token value line ↔ (¬ setting.token <+: line → 0 ∉ line) := by
  unfold replaced
  split_ifs with isToken
  · have string := not_mem_newLine setting.token_terminated terminated
    exact iff_of_true string fun other => absurd isToken other
  · exact ⟨fun string _ => string, fun strings => strings isToken⟩

/-- A length that is accepted is at most that of a password. -/
theorem length_le_of_accepts {length : Nat} (accepted : setting.accepts length = true)
    : length ≤ wifiPasswdMaxLength := by
  cases setting with
  | ssid => exact le_trans (of_decide_eq_true accepted) (by decide)
  | passwd => exact of_decide_eq_true (Bool.and_eq_true_iff.mp accepted).2

/-- The line of a value of the greatest length is shorter than the buffer. -/
theorem room (setting : Setting) (short : value.length ≤ wifiPasswdMaxLength)
    : setting.token.length + value.length < lineSize := by
  have longest := setting.token_length
  have size : 15 + wifiPasswdMaxLength < lineSize := by decide
  omega

/-- A file whose lines fit and whose first line is no token line is rewritten. -/
theorem Fits.updates (fits : setting.Fits conf) (short : value.length ≤ wifiPasswdMaxLength)
    (terminated : 0 ∉ value) (meets_ : meets (rewritten setting.token value conf))
    : setting.Updates value conf meets := by
  intro theNewString theCommand
  have found : lines newline conf ≠ [] := fun none => fits.some (lines_eq_nil_iff.mp none)
  refine ⟨_, ?_, meets_⟩
  rw [wifiUpdateHostapdConfFile_onHeap, updateLines_first fits.first _ (List.replicate _ 0),
    updateLines_cleared setting.token_terminated terminated (setting.room short),
    if_pos fits.short, if_neg found]
  rfl

/-- An update that succeeds whatever the heap held needs such a file. Witness: a heap without a
NUL, which takes no string.
-/
theorem Updates.fits (updates : setting.Updates value conf meets)
    (short : value.length ≤ wifiPasswdMaxLength) (terminated : 0 ∉ value)
    : setting.Fits conf := by
  have full (size : Nat) : 0 ∉ (List.Vector.replicate size (65 : UInt8)).toList := fun member =>
    absurd (List.eq_of_mem_replicate member) (by decide)
  obtain ⟨_, updated, -⟩ := updates (List.Vector.replicate _ 65) (List.Vector.replicate _ 65)
  rw [wifiUpdateHostapdConfFile_onHeap] at updated
  obtain ⟨written, wrote, updated⟩ := Option.bind_eq_some_iff.mp updated
  obtain ⟨command, moved, -⟩ := Option.map_eq_some_iff.mp updated
  have first : ∀ line ∈ (lines newline conf).head?, ¬ setting.token <+: line := by
    intro line member isToken
    obtain ⟨more, found⟩ := List.head?_eq_some_iff.mp member
    rw [found, updateLines_unterminated setting.token_terminated terminated (full _) isToken]
      at wrote
    cases wrote
  refine ⟨fun none => ?_, ?_, first⟩
  · rw [if_pos (lines_eq_nil_iff.mpr none),
      strcats_unterminated moveCommand_terminated (List.cons_ne_nil _ _) (full _)] at moved
    cases moved
  · rw [updateLines_first first _ (List.replicate _ 0),
      updateLines_cleared setting.token_terminated terminated (setting.room short)] at wrote
    split_ifs at wrote with fits
    exact fits

/-- What an update needs of the file, and what it then leaves. -/
theorem updates_iff (short : value.length ≤ wifiPasswdMaxLength) (terminated : 0 ∉ value)
    : setting.Updates value conf meets
      ↔ setting.Fits conf ∧ meets (rewritten setting.token value conf) := by
  refine ⟨fun updates => ?_, fun ⟨fits, meets_⟩ => fits.updates short terminated meets_⟩
  have fits := updates.fits short terminated
  refine ⟨fits, ?_⟩
  have heap : setting.Updates value conf (· = rewritten setting.token value conf) :=
    fits.updates short terminated rfl
  obtain ⟨written, updated, meets_⟩ :=
    updates (List.Vector.replicate _ 0) (List.Vector.replicate _ 0)
  obtain ⟨same, updated', rfl⟩ := heap (List.Vector.replicate _ 0) (List.Vector.replicate _ 0)
  obtain rfl : written = rewritten setting.token value conf :=
    congrArg Prod.fst (Option.some.inj (updated.symm.trans updated'))
  exact meets_

end Setting

end Reconn.Wifi
