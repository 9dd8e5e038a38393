import Reconn.Wifi.HostapdConf

/-! A new value is read back from hostapd's configuration file, by wifiGetSSIDorPASSWD of wifi.c.
It takes the first line that starts with the token, which need not be one that was replaced.
-/

namespace Reconn.Wifi

open Lines
open Client (
  ReconnErrCode reconnSuccess reconnFailure reconnInvalidParameter ascii cString)

/-- wifiGetSSIDorPASSWD, for what hostapd's file holds, whether it can be opened, and the bytes
at theSSID, which may be NULL; none if strncpy() leaves them. Of an empty string it copies
without an end, since its length less 1 wraps around.
-/
def wifiGetSsidOrPasswd (token conf : List UInt8) (confOpens : Bool)
    : Option (List UInt8) → Option (List UInt8 × ReconnErrCode)
  | none => some ([], reconnInvalidParameter)
  | some theSsid =>
      if confOpens = false then some (theSsid, reconnFailure)
      else
        match (lines newline conf).find? (token <+: ·) with
        | none => some (theSsid, reconnSuccess)
        | some theFileString =>
            let theSsidOrPasswd := cString (theFileString.drop token.length)
            if theSsidOrPasswd ≠ [] ∧ theSsidOrPasswd.length - 1 ≤ theSsid.length then
              some
                (theSsidOrPasswd.dropLast ++ theSsid.drop (theSsidOrPasswd.length - 1),
                  reconnSuccess)
            else none

/-- The first line of a rewritten file that starts with the token. -/
inductive Found where
  /-- a replaced line, after what stands before it without a newline -/
  | value (before : List UInt8)
  /-- a line that no value is in, if there is one -/
  | other (line : Option (List UInt8))
  deriving DecidableEq

/-- Where the reading finds the token in a rewritten file, for the part of a line that is before
these lines. A line with a NUL loses its newline, and goes on with the next one.
-/
def found (token : List UInt8) : List UInt8 → List (List UInt8) → Found
  | before, [] => .other (if token <+: before then some before else none)
  | before, line :: more =>
      if token <+: line then
        if before = [] ∨ token <+: before then .value before else found token [] more
      else if newline ∈ cString line then
        if token <+: before ++ cString line then .other (some (before ++ cString line))
        else found token [] more
      else found token (before ++ cString line) more

/-- The line that is found for a value. -/
def Found.line (token value : List UInt8) : Found → Option (List UInt8)
  | .value before => some (before ++ token ++ value ++ [newline])
  | .other line => line

namespace Setting

/-- The reading into zeroed bytes that have room for the string gives this value. -/
def Reads (setting : Setting) (value conf : List UInt8) : Prop :=
  ∀ size, value.length < size →
    wifiGetSsidOrPasswd setting.token conf true (some (List.replicate size 0))
      = some (value ++ List.replicate (size - value.length) 0, reconnSuccess)

/-- Whatever the heap held, each value that is accepted and is a single line is read back after
an update.
-/
def ReadsBack (setting : Setting) (conf : List UInt8) : Prop :=
  ∀ value : List UInt8, setting.accepts value.length = true → 0 ∉ value → newline ∉ value
    → setting.Updates value conf (setting.Reads value)

end Setting

-----------------------------------------------------------------------------------------
-- The line that is found
-----------------------------------------------------------------------------------------

section Finding

variable {setting : Setting} {before line rest value : List UInt8}

/-- A token ends with a "=", and has no other. -/
theorem Setting.token_eq (setting : Setting) : ∃ key, setting.token = key ++ [61] ∧ 61 ∉ key := by
  cases setting with
  | ssid => exact ⟨ascii "ssid", by decide, by decide⟩
  | passwd => exact ⟨ascii "wpa_passphrase", by decide, by decide⟩

/-- A token that something stands before does not start the line. The "=" at the end of the one
would be inside the other.
-/
theorem not_prefix_pasted (some : before ≠ []) (other : ¬ setting.token <+: before)
    : ¬ setting.token <+: before ++ (setting.token ++ rest) := by
  intro pasted
  rcases Nat.le_total setting.token.length before.length with shorter | longer
  · exact other (List.prefix_of_prefix_length_le pasted (List.prefix_append _ _) shorter)
  · obtain ⟨tail, whole⟩ := List.prefix_of_prefix_length_le (List.prefix_append _ _) pasted longer
    obtain ⟨key, token, apart⟩ := setting.token_eq
    rw [← whole, List.prefix_append_right_inj, whole, token, List.append_assoc] at pasted
    rcases List.eq_nil_or_concat tail with rfl | ⟨init, last, rfl⟩
    · rw [List.append_nil] at whole
      exact other (whole ▸ List.prefix_rfl)
    · rw [List.concat_eq_append] at whole pasted
      rw [token, ← List.append_assoc] at whole
      obtain ⟨keys, ends⟩ := List.append_inj' whole rfl
      rw [ends] at pasted
      have positive : 0 < before.length := List.length_pos_iff.mpr some
      have inner : (init ++ [61]).length ≤ key.length := by
        rw [← keys, List.length_append, List.length_append, List.length_singleton]
        omega
      have inside := List.prefix_of_prefix_length_le pasted (List.prefix_append _ _) inner
      exact apart (inside.subset (List.mem_append_right _ List.mem_cons_self))

/-- A written line holds a newline only at its end. -/
theorem cString_of_newline (inner : newline ∉ line.dropLast) (ends : newline ∈ cString line)
    : ∃ plain, newline ∉ plain ∧ cString line = plain ++ [newline] := by
  have some : cString line ≠ [] := List.ne_nil_of_mem ends
  have split := List.dropLast_append_getLast some
  have plain : newline ∉ (cString line).dropLast := by
    intro inside
    obtain ⟨rest, whole⟩ := cString_starts line
    rw [← whole] at inner
    by_cases last : rest = []
    · rw [last, List.append_nil] at inner
      exact inner inside
    · rw [List.dropLast_append_of_ne_nil last] at inner
      exact inner (List.mem_append_left _ ends)
  refine ⟨(cString line).dropLast, plain, ?_⟩
  rw [← split] at ends
  rcases List.mem_append.mp ends with inside | last
  · exact absurd inside plain
  · rw [← List.mem_singleton.mp last] at split
    exact split.symm

theorem find_terminated (token : List UInt8) (plain : newline ∉ line) (rest : List UInt8)
    : (lines newline (line ++ newline :: rest)).find? (token <+: ·)
      = if token <+: line ++ [newline] then some (line ++ [newline])
        else (lines newline rest).find? (token <+: ·) := by
  rw [lines_terminated plain]
  split_ifs with isToken
  · exact List.find?_cons_of_pos (decide_eq_true isToken)
  · exact List.find?_cons_of_neg (fun starts => isToken (of_decide_eq_true starts))

/-- The line that is found in a rewritten file, by induction on the lines that are left. -/
theorem find_rewritten (terminated : 0 ∉ value) (single : newline ∉ value)
    {cut : List (List UInt8)} (isCut : ∀ line ∈ cut, newline ∉ line.dropLast)
    (begun : newline ∉ before)
    : (lines newline
            (before ++ (cut.map (replaced setting.token value)).flatMap cString)).find?
          (setting.token <+: ·)
      = (found setting.token before cut).line setting.token value := by
  induction cut generalizing before with
  | nil =>
      rw [List.map_nil, List.flatMap_nil, List.append_nil, found, Found.line]
      by_cases some : before = []
      · have longer : setting.token ≠ [] := by cases setting <;> decide
        rw [some, if_neg fun starts => longer (List.prefix_nil.mp starts)]
        rfl
      · rw [lines_unterminated some begun, List.find?_singleton]
        simp only [decide_eq_true_eq]
  | cons line more ih =>
      obtain ⟨here, later⟩ := List.forall_mem_cons.mp isCut
      rw [List.map_cons, List.flatMap_cons, found]
      by_cases isToken : setting.token <+: line
      · have string : 0 ∉ replaced setting.token value line :=
          (Setting.replaced_terminated_iff terminated).mpr fun other => absurd isToken other
        have plain : newline ∉ before ++ setting.token ++ value := by
          simp only [List.mem_append, not_or]
          exact ⟨⟨begun, setting.newline_not_mem_token⟩, single⟩
        have text (rest : List UInt8)
            : before ++ (setting.token ++ value ++ [newline] ++ rest)
              = before ++ setting.token ++ value ++ newline :: rest := by
          simp only [List.append_assoc, List.singleton_append]
        rw [if_pos isToken, cString_eq_self_iff.mpr string, replaced, if_pos isToken, text,
          find_terminated _ plain]
        by_cases starts : before = [] ∨ setting.token <+: before
        · have first : setting.token <+: before ++ setting.token ++ value ++ [newline] := by
            simp only [List.append_assoc]
            rcases starts with none | already
            · rw [none]
              exact List.prefix_append _ _
            · exact List.prefix_append_of_prefix already
          rw [if_pos starts, if_pos first]
          rfl
        · obtain ⟨some, other⟩ := not_or.mp starts
          have first : ¬ setting.token <+: before ++ setting.token ++ value ++ [newline] := by
            simp only [List.append_assoc]
            exact not_prefix_pasted some other
          rw [if_neg starts, if_neg first]
          exact ih later List.not_mem_nil
      · have written : cString (replaced setting.token value line) = cString line := by
          rw [replaced, if_neg isToken]
        rw [if_neg isToken, written]
        by_cases ends : newline ∈ cString line
        · obtain ⟨plain, without, whole⟩ := cString_of_newline here ends
          have start : newline ∉ before ++ plain := fun inside =>
            (List.mem_append.mp inside).elim begun without
          have text (rest : List UInt8)
              : before ++ (plain ++ [newline] ++ rest) = before ++ plain ++ newline :: rest := by
            simp only [List.append_assoc, List.singleton_append]
          rw [if_pos ends, whole, text, find_terminated _ start, List.append_assoc]
          split_ifs
          · rfl
          · exact ih later List.not_mem_nil
        · rw [if_neg ends, ← List.append_assoc]
          refine ih later fun inside => ?_
          exact (List.mem_append.mp inside).elim begun ends

end Finding

-----------------------------------------------------------------------------------------
-- What is read
-----------------------------------------------------------------------------------------

section Reading

variable {setting : Setting} {conf line rest value : List UInt8}

theorem not_mem_rewritten (token value conf : List UInt8) : 0 ∉ rewritten token value conf := by
  intro member
  obtain ⟨line, -, inside⟩ := List.mem_flatMap.mp member
  exact not_mem_cString line inside

/-- The line that is found is read as what stands between its token and its last character. -/
theorem wifiGetSsidOrPasswd_found
    (first : (lines newline conf).find? (setting.token <+: ·) = some (setting.token ++ rest))
    (string : 0 ∉ rest) (size : Nat)
    : wifiGetSsidOrPasswd setting.token conf true (some (List.replicate size 0))
      = if rest ≠ [] ∧ rest.length - 1 ≤ size then
          some (rest.dropLast ++ List.replicate (size - (rest.length - 1)) 0, reconnSuccess)
        else none := by
  have opens : ¬ true = false := by decide
  rw [wifiGetSsidOrPasswd, if_neg opens, first]
  simp only [List.drop_left, cString_eq_self_iff.mpr string, List.length_replicate,
    List.drop_replicate]

/-- A value is read exactly if it is all but the last character after the token. -/
theorem reads_iff
    (first : (lines newline conf).find? (setting.token <+: ·) = some (setting.token ++ rest))
    (string : 0 ∉ rest) (terminated : 0 ∉ value)
    : setting.Reads value conf ↔ ∃ last, rest = value ++ [last] := by
  have reading := wifiGetSsidOrPasswd_found first string
  refine ⟨fun reads => ?_, ?_⟩
  · have read := reads (value.length + 1) (Nat.lt_succ_self _)
    rw [reading] at read
    split_ifs at read with fits
    have bytes := congrArg (cString ∘ Prod.fst) (Option.some.inj read)
    have start : 0 ∉ rest.dropLast := fun inside => string (List.dropLast_subset _ inside)
    dsimp only [Function.comp_apply] at bytes
    rw [cString_padded start, cString_padded terminated] at bytes
    rw [← bytes]
    exact ⟨rest.getLast fits.1, (List.dropLast_append_getLast fits.1).symm⟩
  · rintro ⟨last, rfl⟩ size room
    have length : (value ++ [last]).length - 1 = value.length := by
      rw [List.length_append, List.length_singleton, Nat.add_sub_cancel]
    rw [reading, length, List.dropLast_concat]
    exact if_pos ⟨List.append_ne_nil_of_right_ne_nil _ (List.cons_ne_nil _ _), room.le⟩

end Reading

namespace Setting

variable {setting : Setting} {conf value : List UInt8}

/-- The line that is found after an update. -/
theorem find_updated (setting : Setting) (terminated : 0 ∉ value) (single : newline ∉ value)
    (conf : List UInt8)
    : (lines newline (rewritten setting.token value conf)).find? (setting.token <+: ·)
      = (found setting.token [] (lines newline conf)).line setting.token value :=
  find_rewritten terminated single
    (fun _ member => (cut_lines newline conf).not_mem_dropLast member) List.not_mem_nil

/-- Where the reading finds a line with the value in it and reads the value, nothing stands
before the token.
-/
theorem before_of_reads {before : List UInt8} (terminated : 0 ∉ value)
    (first : (lines newline (rewritten setting.token value conf)).find? (setting.token <+: ·)
      = some (before ++ setting.token ++ value ++ [newline]))
    (reads : setting.Reads value (rewritten setting.token value conf))
    : before = [] := by
  have starts := List.find?_some first
  obtain ⟨rest, whole⟩ := of_decide_eq_true starts
  have string : 0 ∉ before ++ setting.token ++ value ++ [newline] := fun inside =>
    not_mem_rewritten _ _ _ (mem_of_mem_lines (List.mem_of_find?_eq_some first) inside)
  have length := congrArg List.length whole
  rw [← whole] at first string
  have string' : 0 ∉ rest := fun inside => string (List.mem_append_right _ inside)
  obtain ⟨last, rfl⟩ := (reads_iff first string' terminated).mp reads
  simp only [List.length_append, List.length_singleton] at length
  exact List.eq_nil_of_length_eq_zero (by omega)

/-- Two values that are read from the same line are the same. -/
theorem eq_of_reads {other after : List UInt8} (terminated : 0 ∉ value) (terminated' : 0 ∉ other)
    (same : (lines newline conf).find? (setting.token <+: ·)
      = (lines newline after).find? (setting.token <+: ·))
    (reads : setting.Reads value conf) (reads' : setting.Reads other after)
    : value = other := by
  have longer : value.length < max value.length other.length + 1 := by omega
  have longer' : other.length < max value.length other.length + 1 := by omega
  have read := reads _ longer
  unfold wifiGetSsidOrPasswd at read
  rw [same] at read
  have bytes := congrArg (cString ∘ Prod.fst)
    (Option.some.inj (read.symm.trans (reads' _ longer')))
  dsimp only [Function.comp_apply] at bytes
  rwa [cString_padded terminated, cString_padded terminated'] at bytes

/-- Eight times one character is a value that is accepted, and so it is read back. -/
theorem ReadsBack.repeated (back : setting.ReadsBack conf) {c : UInt8} (string : c ≠ 0)
    (single : c ≠ newline)
    : 0 ∉ List.replicate 8 c ∧ newline ∉ List.replicate 8 c ∧ setting.Fits conf
      ∧ setting.Reads (List.replicate 8 c)
        (rewritten setting.token (List.replicate 8 c) conf) := by
  have accepted : setting.accepts (List.replicate 8 c).length = true := by
    rw [List.length_replicate]
    cases setting <;> decide
  have terminated : 0 ∉ List.replicate 8 c := fun inside =>
    string (List.eq_of_mem_replicate inside).symm
  have plain : newline ∉ List.replicate 8 c := fun inside =>
    single (List.eq_of_mem_replicate inside).symm
  refine ⟨terminated, plain, (updates_iff ?_ terminated).mp (back _ accepted terminated plain)⟩
  exact length_le_of_accepts accepted

/-- Each value is read back exactly if the file can be rewritten, and the first line to start
with the token is then one of its own token lines.
-/
theorem readsBack_iff (setting : Setting) (conf : List UInt8)
    : setting.ReadsBack conf
      ↔ setting.Fits conf ∧ found setting.token [] (lines newline conf) = .value [] := by
  refine ⟨fun back => ?_, ?_⟩
  · have a : (97 : UInt8) ≠ 0 ∧ (97 : UInt8) ≠ newline := by decide
    have b : (98 : UInt8) ≠ 0 ∧ (98 : UInt8) ≠ newline := by decide
    obtain ⟨terminated, single, fits, reads⟩ := back.repeated a.1 a.2
    obtain ⟨terminated', single', -, reads'⟩ := back.repeated b.1 b.2
    refine ⟨fits, ?_⟩
    have first := setting.find_updated terminated single conf
    have second := setting.find_updated terminated' single' conf
    cases whole : found setting.token [] (lines newline conf) with
    | value before =>
        rw [whole] at first
        rw [before_of_reads terminated first reads]
    | other line =>
        rw [whole] at first second
        have same := eq_of_reads terminated terminated' (first.trans second.symm) reads reads'
        exact absurd same (by decide)
  · rintro ⟨fits, whole⟩ value accepted terminated single
    refine (updates_iff (length_le_of_accepts accepted) terminated).mpr ⟨fits, ?_⟩
    have first := setting.find_updated terminated single conf
    rw [whole, Found.line, List.nil_append, List.append_assoc] at first
    have string : 0 ∉ value ++ [newline] := fun inside =>
      (List.mem_append.mp inside).elim terminated (by decide)
    exact (reads_iff first string terminated).mpr ⟨newline, rfl⟩

end Setting

example
    : found Setting.ssid.token [] (lines newline (ascii "channel=6\nssid=a\n")) = .value [] := by
  decide +kernel

/-- Where the first line is the token's, its new value comes after what the heap held. -/
theorem readsBack_not
    : ¬ ∀ (setting : Setting) (conf : List UInt8),
        (∃ line ∈ lines newline conf, setting.token <+: line) → setting.ReadsBack conf := by
  intro always
  have hasToken
      : ∃ line ∈ lines newline (ascii "ssid=a\n"), Setting.ssid.token <+: line :=
    ⟨ascii "ssid=a\n", by decide, by decide⟩
  have back := always .ssid (ascii "ssid=a\n") hasToken (ascii "b") (by decide) (by decide)
    (by decide)
  obtain ⟨written, updated, reads⟩ :=
    back (.cons 65 (List.Vector.replicate lineSize 0)) (List.Vector.replicate _ 0)
  have wrote
      : wifiUpdateHostapdConfFile Setting.ssid.token (ascii "b") (ascii "ssid=a\n")
            (.onHeap (.cons 65 (List.Vector.replicate lineSize 0)) (List.Vector.replicate _ 0))
          = some (ascii "Assid=b\n", reconnSuccess) := by
    decide +kernel
  obtain rfl : ascii "Assid=b\n" = written :=
    congrArg Prod.fst (Option.some.inj (wrote.symm.trans updated))
  exact absurd (reads 2 (by decide)) (by decide +kernel)

end Reconn.Wifi
