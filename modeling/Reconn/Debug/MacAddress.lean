import Mathlib.Data.Finset.Card
import Mathlib.Data.Finset.Range
import Reconn.Debug.SerialNumber

/-! The MAC addresses that are typed at macSet of systemMenu.c: it counts the colons and the
letters and digits of a line, and does not look where they stand.
-/

namespace Reconn.Debug

open DecimalText (isDigit)
open RemoteMonitor (isAlpha)
open Client (reconnMacaddrLen ascii)

/-- isalnum() in the C locale. -/
def isAlnum (c : UInt8) : Bool := isAlpha c || isDigit c

/-- isxdigit() -/
def isHexDigit (c : UInt8) : Bool :=
  isDigit c || (65 ≤ c && c ≤ 70) || (97 ≤ c && c ≤ 102)

def colon : UInt8 := 58

/-- What macSet waits for. -/
inductive MacSet where
  | choosing
  | entering (setWiFi : Bool)
  | done
  deriving DecidableEq, Repr

/-- What happens after macSet has asked for a line. -/
structure MacAttempt where
  /-- what getInput returns -/
  responsePtr : Option TypedLine
  /-- the memory of the line, by the index of the character; used behind its NUL -/
  behind : Nat → UInt8
  /-- fopen() of RJ45_MAC_ADDRRESS_FILE_NAME -/
  fileOpens : Bool
  /-- what fwrite() returns -/
  bytesWritten : Nat

/-- What macSet does to program the address. -/
inductive MacAction where
  | system (theCommand : List UInt8)
  /-- fopen() for writing, and what is in the file then -/
  | writeFile (bytes : Option (List UInt8))
  deriving DecidableEq, Repr

/-- The memory of a line. -/
def memory (behind : Nat → UInt8) (text : List UInt8) (i : Nat) : UInt8 :=
  if i = text.length then 0 else (text[i]?).getD (behind i)

/-- How many of the first RECONN_MACADDR_LEN bytes of a memory are of a kind. -/
def countMac (kind : UInt8 → Bool) (bytes : Nat → UInt8) : Nat :=
  (List.range reconnMacaddrLen).countP fun i => kind (bytes i)

/-- What the checks make of a line. -/
inductive MacCheck where
  | rejected
  | quits
  | programs
  deriving DecidableEq, Repr

/-- The checks of a line: its length, its first character, and the numbers of its colons and of
its letters and digits.
-/
def macCheck (bytes : Nat → UInt8) (length : Nat) : MacCheck :=
  if reconnMacaddrLen < length then .rejected
  else if bytes 0 = 81 ∨ bytes 0 = 113 then .quits
  else if countMac (· = colon) bytes ≠ 5 ∨ countMac isAlnum bytes ≠ 12 then .rejected
  else .programs

def macWriteWifiCommandString : List UInt8 :=
  ascii "calibrator set nvs_mac /lib/firmware/ti-connectivity/wl1271-nvs.bin "

/-- Programs the address of the line into the WiFi hardware or the one of the RJ-45 socket. -/
def programMac (setWiFi : Bool) (a : MacAttempt) (line : List UInt8) : List MacAction :=
  if setWiFi then
    [
      .system (macWriteWifiCommandString ++ line),
      .system (ascii "ifconfig wlan0 down hw ether " ++ line),
      .system (ascii "ifconfig wlan0 up")
    ]
  else if a.fileOpens then
    let bytes := (List.range reconnMacaddrLen).map (memory a.behind line)
    .writeFile (some (bytes.take a.bytesWritten))
      :: (if a.bytesWritten ≠ reconnMacaddrLen then []
        else [
          .system (ascii "ifconfig usb0 down hw ether " ++ line),
          .system (ascii "ifconfig usb0 up")
        ])
  else [.writeFile none]

namespace MacSet

/-- A turn of one of the loops. A line that could not be read ends the first loop, but not the
second.
-/
def turn (s : MacSet) (a : MacAttempt) : Option (MacSet × List MacAction) :=
  match s with
  | .choosing =>
      match a.responsePtr with
      | none => some (.done, [])
      | some line =>
          if line.1 = ascii "1" then some (.entering true, [])
          else if line.1 = ascii "2" then some (.entering false, [])
          else if line.1 = ascii "q" then some (.done, [])
          else some (.choosing, [])
  | .entering setWiFi =>
      match a.responsePtr with
      | none => some (.entering setWiFi, [])
      | some line =>
          match macCheck (memory a.behind line.1) line.1.length with
          | .rejected => some (.entering setWiFi, [])
          | .quits => some (.done, [])
          | .programs => some (.done, programMac setWiFi a line.1)
  | .done => none

end MacSet

/-- aa:bb:cc:dd:ee:ff, six pairs of hexadecimal digits with colons between them. -/
def MacForm (line : List UInt8) : Prop :=
  ∃ pairs : List (UInt8 × UInt8), pairs.length = 6
    ∧ (∀ pair ∈ pairs, isHexDigit pair.1 = true ∧ isHexDigit pair.2 = true)
    ∧ line = [colon].intercalate (pairs.map fun pair => [pair.1, pair.2])

/-- The places of the colons. -/
def ColonPlace (i : Nat) : Prop := i % 3 = 2

instance (i : Nat) : Decidable (ColonPlace i) := inferInstanceAs (Decidable (_ = _))

/-- The line consists of five colons and twelve letters and digits, and does not begin with
a q.
-/
structure Composed (line : List UInt8) : Prop where
  whole : line.length = reconnMacaddrLen
  stays : ¬ (charAt line 0 = 81 ∨ charAt line 0 = 113)
  colons : line.countP (· = colon) = 5
  alnums : line.countP isAlnum = 12

/-- The line has the characters of an address in number, but at a place of a digit one that is
no hexadecimal digit.
-/
def Scrambled (line : List UInt8) : Prop :=
  Composed line
    ∧ ∃ i < reconnMacaddrLen, ¬ ColonPlace i ∧ isHexDigit (charAt line i) = false

/-- The turn goes on to program the address. -/
def Programs (turn : Option (MacSet × List MacAction)) : Prop :=
  ∃ next actions, turn = some (next, actions) ∧ actions ≠ []

-----------------------------------------------------------------------------------------
-- Counting
-----------------------------------------------------------------------------------------

section Counting

variable {ι : Type*} {indices : Finset ι} {P Q : ι → Prop} [DecidablePred P] [DecidablePred Q]

/-- Two kinds that nothing is both of cover all indices if their numbers add up to all. -/
theorem forall_or_of_card [DecidableEq ι] (apart : ∀ i ∈ indices, P i → ¬ Q i)
    (total : (indices.filter P).card + (indices.filter Q).card = indices.card)
    : ∀ i ∈ indices, P i ∨ Q i := by
  rw [← Finset.card_union_of_disjoint (Finset.disjoint_filter.mpr apart),
    ← Finset.filter_or] at total
  exact Finset.card_filter_eq_iff.mp total

/-- A kind that is found at certain places only is at all of them if there are as many. -/
theorem iff_of_card_le (within : ∀ i ∈ indices, P i → Q i)
    (enough : (indices.filter Q).card ≤ (indices.filter P).card)
    : ∀ i ∈ indices, P i ↔ Q i := by
  have subset : indices.filter P ⊆ indices.filter Q := by
    intro i member
    obtain ⟨inside, holds⟩ := Finset.mem_filter.mp member
    exact Finset.mem_filter.mpr ⟨inside, within i inside holds⟩
  have same := Finset.eq_of_subset_of_card_le subset enough
  exact Finset.filter_inj'.mp same

theorem countMac_eq_card (kind : UInt8 → Bool) (bytes : Nat → UInt8)
    : countMac kind bytes
      = ((Finset.range reconnMacaddrLen).filter fun i => kind (bytes i) = true).card := by
  change _ = ((List.range reconnMacaddrLen).filter fun i => kind (bytes i) = true).length
  rw [countMac, List.countP_eq_length_filter]
  simp only [Bool.decide_eq_true]

end Counting

-----------------------------------------------------------------------------------------
-- What a line comes to
-----------------------------------------------------------------------------------------

section Lines

variable {line : List UInt8} {behind : Nat → UInt8}

/-- The line as its characters. -/
theorem map_charAt (line : List UInt8) : (List.range line.length).map (charAt line) = line := by
  refine List.ext_getElem (by simp) fun i _ inside => ?_
  simp [charAt, List.getElem?_eq_getElem inside]

theorem memory_eq_charAt {i : Nat} (inside : i < line.length)
    : memory behind line i = charAt line i := by
  rw [memory, if_neg inside.ne, charAt, List.getElem?_eq_getElem inside]
  rfl

/-- What the loop counts in a line of the right length. -/
theorem countMac_charAt (kind : UInt8 → Bool) (whole : line.length = reconnMacaddrLen)
    : countMac kind (charAt line) = line.countP kind := by
  calc countMac kind (charAt line)
      = ((List.range line.length).map (charAt line)).countP kind := by
        rw [whole, List.countP_map]
        rfl
    _ = line.countP kind := by rw [map_charAt]

/-- The loop does not look behind a line of the right length. -/
theorem countMac_memory (kind : UInt8 → Bool) (whole : line.length = reconnMacaddrLen)
    : countMac kind (memory behind line) = line.countP kind := by
  rw [← countMac_charAt kind whole]
  refine List.countP_congr fun i inside => ?_
  rw [memory_eq_charAt (whole ▸ List.mem_range.mp inside)]

theorem not_isAlnum_colon : isAlnum colon = false := by decide

theorem not_isHexDigit_colon : isHexDigit colon = false := by decide

/-- A hexadecimal digit is a letter or a digit. -/
theorem isAlnum_of_isHexDigit {c : UInt8} (hex : isHexDigit c = true) : isAlnum c = true := by
  simp only [isHexDigit, isAlnum, isAlpha, isDigit, Bool.or_eq_true, Bool.and_eq_true,
    decide_eq_true_eq, UInt8.le_iff_toNat_le] at hex ⊢
  simp only [UInt8.reduceToNat] at hex ⊢
  omega

/-- A line with the right numbers is as long as an address: its NUL is not counted. -/
theorem length_of_counted
    (colons : countMac (· = colon) (memory behind line) = 5)
    (alnums : countMac isAlnum (memory behind line) = 12)
    : reconnMacaddrLen ≤ line.length := by
  by_contra short
  rw [countMac_eq_card] at colons alnums
  have covered := forall_or_of_card
    (P := fun i => decide (memory behind line i = colon) = true)
    (Q := fun i => isAlnum (memory behind line i) = true)
    (fun i _ isColon => by simp_all [not_isAlnum_colon])
    (by rw [colons, alnums, Finset.card_range]; rfl)
    line.length (Finset.mem_range.mpr (not_le.mp short))
  have nul : memory behind line line.length = 0 := if_pos rfl
  rw [nul] at covered
  exact absurd covered (by decide)

/-- The form of an address, place by place. -/
theorem macForm_iff_places
    : MacForm line
      ↔ line.length = reconnMacaddrLen
        ∧ (∀ i < reconnMacaddrLen, ColonPlace i → charAt line i = colon)
        ∧ ∀ i < reconnMacaddrLen, ¬ ColonPlace i → isHexDigit (charAt line i) = true := by
  constructor
  · rintro ⟨pairs, six, digits, rfl⟩
    match pairs, six, digits with
    | [p0, p1, p2, p3, p4, p5], _, digits =>
        simp only [List.forall_mem_cons] at digits
        obtain ⟨h0, h1, h2, h3, h4, h5, -⟩ := digits
        refine ⟨rfl, ?_, ?_⟩
        · intro i inside place
          unfold reconnMacaddrLen at inside
          interval_cases i <;> first | rfl | exact absurd place (by decide)
        · intro i inside place
          unfold reconnMacaddrLen at inside
          interval_cases i <;>
            first | exact absurd rfl place | simp [charAt, h0, h1, h2, h3, h4, h5]
  · rintro ⟨whole, colons, digits⟩
    match line, whole with
    | [a, a', c2, b, b', c5, c, c', c8, d, d', c11, e, e', c14, f, f'], _ =>
        obtain rfl : c2 = colon := colons 2 (by decide) rfl
        obtain rfl : c5 = colon := colons 5 (by decide) rfl
        obtain rfl : c8 = colon := colons 8 (by decide) rfl
        obtain rfl : c11 = colon := colons 11 (by decide) rfl
        obtain rfl : c14 = colon := colons 14 (by decide) rfl
        refine ⟨[(a, a'), (b, b'), (c, c'), (d, d'), (e, e'), (f, f')], rfl, ?_, rfl⟩
        simp only [List.forall_mem_cons]
        exact ⟨
          ⟨digits 0 (by decide) (by decide), digits 1 (by decide) (by decide)⟩,
          ⟨digits 3 (by decide) (by decide), digits 4 (by decide) (by decide)⟩,
          ⟨digits 6 (by decide) (by decide), digits 7 (by decide) (by decide)⟩,
          ⟨digits 9 (by decide) (by decide), digits 10 (by decide) (by decide)⟩,
          ⟨digits 12 (by decide) (by decide), digits 13 (by decide) (by decide)⟩,
          ⟨digits 15 (by decide) (by decide), digits 16 (by decide) (by decide)⟩,
          List.forall_mem_nil _
        ⟩

/-- The checks let through what is composed like an address, whatever is in the memory behind
the line.
-/
theorem macCheck_eq_programs_iff
    : macCheck (memory behind line) line.length = .programs ↔ Composed line := by
  have checks
      : macCheck (memory behind line) line.length = .programs
        ↔ line.length ≤ reconnMacaddrLen
          ∧ ¬ (memory behind line 0 = 81 ∨ memory behind line 0 = 113)
          ∧ countMac (· = colon) (memory behind line) = 5
          ∧ countMac isAlnum (memory behind line) = 12 := by
    unfold macCheck
    split_ifs with long quits other
    · exact iff_of_false (by simp) fun h => long.not_ge h.1
    · exact iff_of_false (by simp) fun h => h.2.1 quits
    · exact iff_of_false (by simp) fun h => other.elim (· h.2.2.1) (· h.2.2.2)
    · rw [not_or, not_not, not_not] at other
      exact iff_of_true rfl ⟨not_lt.mp long, quits, other⟩
  rw [checks]
  constructor
  · rintro ⟨short, stays, colons, alnums⟩
    have whole := short.antisymm (length_of_counted colons alnums)
    rw [countMac_memory _ whole] at colons alnums
    rw [memory_eq_charAt (whole ▸ by decide)] at stays
    exact ⟨whole, stays, colons, alnums⟩
  · rintro ⟨whole, stays, colons, alnums⟩
    rw [countMac_memory _ whole, countMac_memory _ whole,
      memory_eq_charAt (whole ▸ by decide)]
    exact ⟨whole.le, stays, colons, alnums⟩

/-- Of the lines that are composed like an address, the addresses are those with hexadecimal
digits at the places of digits: the colons can only be at the other places then.
-/
theorem Composed.macForm_iff (composed : Composed line)
    : MacForm line
      ↔ ∀ i < reconnMacaddrLen, ¬ ColonPlace i → isHexDigit (charAt line i) = true := by
  rw [macForm_iff_places, and_iff_right composed.whole]
  refine ⟨And.right, fun digits => ⟨?_, digits⟩⟩
  have counted := composed.colons
  rw [← countMac_charAt _ composed.whole, countMac_eq_card] at counted
  have within : ∀ i ∈ Finset.range reconnMacaddrLen,
      decide (charAt line i = colon) = true → ColonPlace i := by
    intro i inside isColon
    by_contra place
    have digit := digits i (Finset.mem_range.mp inside) place
    rw [of_decide_eq_true isColon, not_isHexDigit_colon] at digit
    exact Bool.noConfusion digit
  have placed := iff_of_card_le within (by rw [counted]; decide)
  intro i inside place
  exact of_decide_eq_true ((placed i (Finset.mem_range.mpr inside)).mpr place)

/-- An address is composed like one. -/
theorem MacForm.composed (form : MacForm line) : Composed line := by
  obtain ⟨whole, colons, digits⟩ := macForm_iff_places.mp form
  have isColon (i : Nat) (inside : i ∈ Finset.range reconnMacaddrLen)
      : decide (charAt line i = colon) = true ↔ ColonPlace i := by
    rw [decide_eq_true_iff]
    refine ⟨fun same => ?_, colons i (Finset.mem_range.mp inside)⟩
    by_contra place
    have digit := digits i (Finset.mem_range.mp inside) place
    rw [same, not_isHexDigit_colon] at digit
    exact Bool.noConfusion digit
  have alnum (i : Nat) (inside : i ∈ Finset.range reconnMacaddrLen)
      : isAlnum (charAt line i) = true ↔ ¬ ColonPlace i := by
    have bound := Finset.mem_range.mp inside
    refine ⟨fun some place => ?_, fun place => isAlnum_of_isHexDigit (digits i bound place)⟩
    rw [colons i bound place, not_isAlnum_colon] at some
    exact Bool.noConfusion some
  refine ⟨whole, ?_, ?_, ?_⟩
  · have first := digits 0 (by decide) (by decide)
    rintro (q | q) <;> exact absurd (q ▸ first) (by decide)
  · rw [← countMac_charAt _ whole, countMac_eq_card, Finset.filter_congr isColon]
    rfl
  · rw [← countMac_charAt _ whole, countMac_eq_card, Finset.filter_congr alnum]
    rfl

end Lines

/-- Programming an address comes to some action. -/
theorem programMac_ne_nil (setWiFi : Bool) (a : MacAttempt) (line : List UInt8)
    : programMac setWiFi a line ≠ [] := by
  unfold programMac
  split_ifs <;> exact List.cons_ne_nil _ _

/-- The second loop goes on to program what its checks let through. -/
theorem programs_iff_composed {setWiFi : Bool} {line : TypedLine} {a : MacAttempt}
    (typed : a.responsePtr = some line)
    : Programs ((MacSet.entering setWiFi).turn a) ↔ Composed line.1 := by
  rw [← @macCheck_eq_programs_iff line.1 a.behind]
  unfold Programs MacSet.turn
  rw [typed]
  cases check : macCheck (memory a.behind line.1) line.1.length with
  | rejected | quits => simp [check]
  | programs =>
      simp only [check]
      exact iff_of_true ⟨_, _, rfl, programMac_ne_nil _ _ _⟩ trivial

/-- A line that is typed is programmed exactly if it is an address, exactly if it is not one
that is only composed like an address.
-/
theorem macSet_programs_iff (setWiFi : Bool) (line : TypedLine) (behind : Nat → UInt8)
    (fileOpens : Bool) (bytesWritten : Nat)
    : (Programs ((MacSet.entering setWiFi).turn ⟨some line, behind, fileOpens, bytesWritten⟩)
        ↔ MacForm line.1)
      ↔ ¬ Scrambled line.1 := by
  rw [programs_iff_composed rfl]
  constructor
  · rintro same ⟨composed, i, inside, place, other⟩
    have digit := composed.macForm_iff.mp (same.mp composed) i inside place
    rw [other] at digit
    exact Bool.noConfusion digit
  · refine fun straight => ⟨fun composed => composed.macForm_iff.mpr ?_, MacForm.composed⟩
    intro i inside place
    by_contra other
    exact straight ⟨composed, i, inside, place, Bool.eq_false_of_not_eq_true other⟩

/-- Twelve letters that are no hexadecimal digits, at the places of digits. -/
def letters : TypedLine := ⟨ascii "zz:zz:zz:zz:zz:zz", by decide +kernel⟩

/-- A line is programmed that has no hexadecimal digit. -/
theorem macSet_programs_letters
    : ¬ ∀ (setWiFi : Bool) (a : MacAttempt) (line : TypedLine), a.responsePtr = some line
        → (Programs ((MacSet.entering setWiFi).turn a) ↔ MacForm line.1) := by
  intro right
  have composed : Composed letters.1 :=
    ⟨by decide +kernel, by decide +kernel, by decide +kernel, by decide +kernel⟩
  have form := (right true ⟨some letters, fun _ => 0, true, 17⟩ letters rfl).mp
    ((programs_iff_composed rfl).mpr composed)
  exact absurd (composed.macForm_iff.mp form 0 (by decide) (by decide)) (by decide +kernel)

end Reconn.Debug
