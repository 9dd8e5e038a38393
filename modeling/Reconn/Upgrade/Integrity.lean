import Reconn.Upgrade.RoundTrip

/-! What extractBundle's success says about the bundle file, and whether the strings it builds
fit their arrays, for a file with any content.
-/

namespace Reconn.Upgrade

open Client (reconnSuccess ascii)

/-- A record as extractBundle.c describes it: the header matches its checksum and announces
the payload, and the payload is what the payload checksum was taken of.
-/
structure WellFormed (md5sum : List UInt8 → List UInt8)
    (decompress : List UInt8 → Option (List UInt8)) (header : UpgradeBundle)
    (payload : List UInt8)
    : Prop where
  headerChecksum : header.headerChecksum = md5sum header.headerData
  payloadLength : header.payloadSize = payload.length
  payloadChecksum : ∃ data, decompress payload = some data
    ∧ md5sum data = header.payloadChecksum

/-- The file is a sequence of complete records. -/
def ValidFile (md5sum : List UInt8 → List UInt8)
    (decompress : List UInt8 → Option (List UInt8)) (content : List UInt8)
    : Prop :=
  ∃ records : List (UpgradeBundle × List UInt8),
    content = (records.flatMap fun record => record.1.bytes ++ record.2)
    ∧ ∀ record ∈ records, WellFormed md5sum decompress record.1 record.2

/-- The records into which the loop divides a file, whatever comes of its turns. -/
def records (bundle : UpgradeBundle) (content : List UInt8) : List Record :=
  (turns (fun _ => .usual) 0 bundle content).map Prod.fst

/-- gunzip succeeds in a turn only if it can decompress the payload. -/
def GunzipTold (decompress : List UInt8 → Option (List UInt8)) (turn : Turn) : Prop :=
  turn.2.gunzip = true → (decompress turn.1.payload).isSome = true

/-- For this file extractBundle returns success only if it is valid, whatever comes of the
calls that it makes.
-/
def OnlyValid (md5sum : List UInt8 → List UInt8) (decompress : List UInt8 → Option (List UInt8))
    (content : List UInt8)
    : Prop :=
  ∀ env, (∀ turn ∈ turns env 0 .zero content, GunzipTold decompress turn)
    → (extractBundle md5sum env (some content)).retCode = some reconnSuccess
    → ValidFile md5sum decompress content

/-- What is looked at of a record: the checksum of its header, its name, of which gunzip's
command is built, and whether its payload can be decompressed.
-/
structure Inspected (md5sum : List UInt8 → List UInt8)
    (decompress : List UInt8 → Option (List UInt8)) (record : Record)
    : Prop where
  headerMatches : record.bundle.headerMatches md5sum = true
  fits : record.bundle.gunzipCommand.length < commandSize
  decompresses : (decompress record.payload).isSome = true

/-- What nothing looks at: the file ends inside the header or the payload, the announced length
is no length, or the payload is not what its checksum was taken of.
-/
inductive Unnoticed (md5sum : List UInt8 → List UInt8)
    (decompress : List UInt8 → Option (List UInt8)) (record : Record)
    : Prop where
  | headerEnds (ends : record.headerRead < bundleSize)
  | payloadEnds (ends : record.payload.length < record.bundle.payloadSize)
  | noLength (length : record.bundle.payloadSize ≤ 0)
  | otherPayload (data : List UInt8) (decompressed : decompress record.payload = some data)
      (other : md5sum data ≠ record.bundle.payloadChecksum)

/-- A file that is damaged in a way nothing looks at, and in no other. -/
def DamagedUnnoticed (md5sum : List UInt8 → List UInt8)
    (decompress : List UInt8 → Option (List UInt8)) (content : List UInt8)
    : Prop :=
  (∀ record ∈ records .zero content, Inspected md5sum decompress record)
    ∧ ∃ record ∈ records .zero content, Unnoticed md5sum decompress record

section Checksums

variable {md5sum : List UInt8 → List UInt8} {decompress : List UInt8 → Option (List UInt8)}

/-- strncmp() finds no difference between bytes and a text of their length exactly if they
are the same.
-/
theorem eq_of_strncmpEqual {n : Nat} {bytes text : List UInt8} (length : bytes.length = n)
    (length' : text.length = n) (terminated : 0 ∉ text)
    (equal : strncmpEqual n bytes text = true)
    : bytes = text := by
  induction n generalizing bytes text with
  | zero => rw [List.length_eq_zero_iff.mp length, List.length_eq_zero_iff.mp length']
  | succ n ih =>
      cases bytes with
      | nil => cases length
      | cons a as =>
          cases text with
          | nil => cases length'
          | cons b bs =>
              simp only [strncmpEqual, Bool.and_eq_true, Bool.or_eq_true,
                decide_eq_true_eq] at equal
              obtain ⟨rfl, ends⟩ := equal
              rw [List.mem_cons, not_or] at terminated
              have rest := ih (Nat.succ.inj length) (Nat.succ.inj length') terminated.2
                (ends.resolve_left (Ne.symm terminated.1))
              rw [rest]

/-- No hexadecimal digit is a NUL. -/
theorem PrintsMd5.terminated (md5 : PrintsMd5 md5sum) (data : List UInt8)
    : 0 ∉ md5sum data := fun member =>
  absurd ((md5 data).2 0 member) (by decide)

theorem headerMatches_iff (md5 : PrintsMd5 md5sum) (header : UpgradeBundle)
    : header.headerMatches md5sum = true
      ↔ header.headerChecksum = md5sum header.headerData := by
  have whole : (md5sum header.headerData).take md5sumSize = md5sum header.headerData :=
    List.take_of_length_le (Nat.le_of_eq (md5 _).1)
  have length : header.headerChecksum.length = md5sumSize := by
    rw [UpgradeBundle.headerChecksum, UpgradeBundle.field, List.length_take,
      List.length_drop, header.size]
    decide
  rw [UpgradeBundle.headerMatches, whole]
  constructor
  · exact eq_of_strncmpEqual length (md5 _).1 (md5.terminated _)
  · intro same
    rw [same]
    exact strncmpEqual_self _ _

-----------------------------------------------------------------------------------------
-- Success and a valid file
-----------------------------------------------------------------------------------------

/-- The turns for a valid file are its records, by induction on the records. -/
theorem turns_of_records (empty : decompress [] = none) (env : Nat → Outcomes) (turn : Nat)
    (before : UpgradeBundle) {records : List (UpgradeBundle × List UInt8)}
    (wellFormed : ∀ record ∈ records, WellFormed md5sum decompress record.1 record.2)
    : ∀ t ∈ turns env turn before
        (records.flatMap fun record => record.1.bytes ++ record.2),
      t.1.headerRead = bundleSize
        ∧ WellFormed md5sum decompress t.1.bundle t.1.payload := by
  induction records generalizing turn before with
  | nil => simp [turns_nil]
  | cons record rest ih =>
      obtain ⟨first, others⟩ := List.forall_mem_cons.mp wellFormed
      have some : record.2 ≠ [] := by
        intro none
        obtain ⟨data, decompressed, -⟩ := first.payloadChecksum
        rw [none, empty] at decompressed
        cases decompressed
      rw [List.flatMap_cons, List.append_assoc, turns_of_ne_nil _ _ _ (by simp [some]),
        nextRecord_complete _ _ some first.payloadLength, List.forall_mem_cons]
      exact ⟨⟨rfl, first⟩, ih (turn + 1) record.1 others⟩

/-- A turn whose header is whole and whose payload is as long as announced takes these bytes
off the file.
-/
theorem nextRecord_split {before : UpgradeBundle} {content : List UInt8}
    (headerRead : (nextRecord before content).headerRead = bundleSize)
    : content = (nextRecord before content).bundle.bytes
        ++ (nextRecord before content).payload ++ (nextRecord before content).rest := by
  have whole : (content.take bundleSize).length = bundleSize := headerRead
  have header : before.fread content = ⟨content.take bundleSize, whole⟩ := by
    rw [← UpgradeBundle.fread_whole before ⟨content.take bundleSize, whole⟩
      (content.drop bundleSize)]
    simp only [List.take_append_drop]
  simp only [nextRecord, header, copyPayload_eq, List.append_assoc, List.take_append_drop]

/-- A file is valid exactly if every turn for it is complete and its header matches. -/
theorem validFile_iff (empty : decompress [] = none) (env : Nat → Outcomes) (turn : Nat)
    (before : UpgradeBundle) (content : List UInt8)
    : ValidFile md5sum decompress content
      ↔ ∀ t ∈ turns env turn before content,
          t.1.headerRead = bundleSize
            ∧ WellFormed md5sum decompress t.1.bundle t.1.payload := by
  constructor
  · rintro ⟨records, rfl, wellFormed⟩
    exact turns_of_records empty env turn before wellFormed
  · intro complete
    fun_induction turns env turn before content with
    | case1 => exact ⟨[], rfl, by simp⟩
    | case2 turn before content more record ih =>
        obtain ⟨⟨headerRead, first⟩, others⟩ := List.forall_mem_cons.mp complete
        obtain ⟨records, rest, wellFormed⟩ := ih others
        refine ⟨(record.bundle, record.payload) :: records, ?_,
          List.forall_mem_cons.mpr ⟨first, wellFormed⟩⟩
        rw [List.flatMap_cons, ← rest]
        exact nextRecord_split headerRead

/-- The records do not depend on what comes of the turns. -/
theorem map_turns (env : Nat → Outcomes) (turn turn' : Nat) (bundle : UpgradeBundle)
    (content : List UInt8)
    : (turns env turn bundle content).map Prod.fst
      = (turns (fun _ => .usual) turn' bundle content).map Prod.fst := by
  fun_induction turns env turn bundle content generalizing turn' with
  | case1 turn bundle => rw [turns_nil]
  | case2 turn bundle content more record ih =>
      rw [turns_of_ne_nil _ _ _ more, List.map_cons, List.map_cons, ih (turn' + 1)]

theorem forall_turns_iff {P : Record → Prop} (env : Nat → Outcomes) (bundle : UpgradeBundle)
    (content : List UInt8)
    : (∀ turn ∈ turns env 0 bundle content, P turn.1)
      ↔ ∀ record ∈ records bundle content, P record := by
  rw [records, ← map_turns env 0 0, List.forall_mem_map]

/-- A turn is for the next record of some rest of the file. -/
theorem exists_nextRecord (env : Nat → Outcomes) (turn : Nat) (bundle : UpgradeBundle)
    (content : List UInt8)
    : ∀ t ∈ turns env turn bundle content,
        ∃ before left n, t = (nextRecord before left, env n) := by
  fun_induction turns env turn bundle content with
  | case1 => simp
  | case2 turn bundle content more record ih =>
      exact List.forall_mem_cons.mpr ⟨⟨bundle, content, turn, rfl⟩, ih⟩

theorem nextRecord_lengths (before : UpgradeBundle) (content : List UInt8)
    : (nextRecord before content).headerRead ≤ bundleSize
      ∧ (nextRecord before content).payload.length
        ≤ max 1 (nextRecord before content).bundle.payloadSize.toNat := by
  refine ⟨List.length_take_le .., ?_⟩
  simp only [nextRecord, copyPayload_eq, sub_zero]
  exact List.length_take_le ..

/-- A record that passes what is looked at is well formed exactly if there is nothing unnoticed
about it.
-/
theorem wellFormed_iff_noticed (md5 : PrintsMd5 md5sum) (empty : decompress [] = none)
    {before : UpgradeBundle} {content : List UInt8}
    (inspected : Inspected md5sum decompress (nextRecord before content))
    : ((nextRecord before content).headerRead = bundleSize
        ∧ WellFormed md5sum decompress (nextRecord before content).bundle
          (nextRecord before content).payload)
      ↔ ¬ Unnoticed md5sum decompress (nextRecord before content) := by
  obtain ⟨header, payload⟩ := nextRecord_lengths before content
  generalize nextRecord before content = record at inspected header payload ⊢
  obtain ⟨data, decompressed⟩ := Option.isSome_iff_exists.mp inspected.decompresses
  have positive : 0 < record.payload.length := by
    refine List.length_pos_iff.mpr fun none => ?_
    rw [none, empty] at decompressed
    cases decompressed
  constructor
  · rintro ⟨whole, wellFormed⟩ unnoticed
    have length := wellFormed.payloadLength
    cases unnoticed with
    | headerEnds ends => omega
    | payloadEnds ends => omega
    | noLength length => omega
    | otherPayload other decompressed' differs =>
        obtain ⟨data', same, sum⟩ := wellFormed.payloadChecksum
        obtain rfl := Option.some.inj (same.symm.trans decompressed')
        exact differs sum
  · intro noticed
    have headerWhole : ¬ record.headerRead < bundleSize := fun ends => noticed (.headerEnds ends)
    have payloadWhole : ¬ (record.payload.length : Int) < record.bundle.payloadSize :=
      fun ends => noticed (.payloadEnds ends)
    have length : ¬ record.bundle.payloadSize ≤ 0 := fun length => noticed (.noLength length)
    refine ⟨by omega, (headerMatches_iff md5 _).mp inspected.headerMatches, by omega, data,
      decompressed, ?_⟩
    by_contra other
    exact noticed (.otherPayload data decompressed other)

end Checksums

/-- A bundle of one file has one turn, with the header that addReconnService has written. -/
theorem turns_single {md5sum : List UInt8 → List UInt8} (md5 : PrintsMd5 md5sum)
    (env : Nat → Outcomes) (file : ServiceFile) (name : file.fileName.length < fileNameSize)
    (some : file.content ≠ []) (size : file.content.length ≤ 9999999)
    : ∃ header bundle, reconnBundle md5sum [file] = Option.some bundle
        ∧ turns env 0 .zero bundle = [(⟨header, bundleSize, file.content, []⟩, env 0)]
        ∧ header.headerMatches md5sum = true
        ∧ cString header.fileName = file.fileName
        ∧ header.payloadSize = file.content.length
        ∧ header.payloadChecksum = md5sum file.original := by
  obtain ⟨header, added, same, called, announced, sum⟩ :=
    addReconnService_spec md5 file name size
  refine ⟨header, header.bytes ++ (file.content ++ []), ?_, ?_, same, called, announced, sum⟩
  · simp [reconnBundle, added]
  · rw [turns_of_ne_nil _ _ _ (by simp [some]),
      nextRecord_complete _ _ some announced, turns_nil]

/-- gunzip, as far as it is known here. -/
def gunzipEmpty (bytes : List UInt8) : Option (List UInt8) :=
  if bytes = emptyGz then some [] else none

/-- The file "a" with the content "x", in place of whose compressed bytes those of an empty
file are in the bundle.
-/
def corruptService : ServiceFile := { emptyService with original := ascii "x" }

def corruptServiceMd5 : List UInt8 → List UInt8 :=
  tableMd5 [
    ([], emptyMd5),
    (ascii "x", ascii "9dd4e461268c8034f5c8564e155c67a6"),
    (
      emptyHeaderData (ascii "9dd4e461268c8034f5c8564e155c67a6") (ascii "a.gz"),
      ascii "721df2a09310a48c96354b9adf47aa4a"
    )
  ]

theorem corruptServiceMd5_prints : PrintsMd5 corruptServiceMd5 :=
  tableMd5_prints (by decide +kernel)

/-- Every turn that the loop comes to has a property. -/
def UntilRejected (md5sum : List UInt8 → List UInt8) (P : Turn → Prop) : List Turn → Prop
  | [] => True
  | turn :: rest => P turn ∧ (Accepted md5sum turn → UntilRejected md5sum P rest)

/-- The name in a header that passes is short enough for the strings that are built of it:
for gunzip's command, or for the path alone if the file cannot be opened.
-/
def NameFits (md5sum : List UInt8 → List UInt8) (turn : Turn) : Prop :=
  HeaderPasses md5sum turn
    → (cString turn.1.bundle.fileName).length ≤ if turn.2.fileOpens then 34 else 44

/-- The strings fit their arrays, with their terminating NUL. -/
def StringsFit (extraction : Extraction) : Prop :=
  ∀ string ∈ extraction.strings, string.2.length + 1 ≤ string.1

section Strings

variable {md5sum : List UInt8 → List UInt8}

theorem extractRecord_stringsFit_iff (turn : Turn)
    : StringsFit (extractRecord md5sum turn.2 turn.1) ↔ NameFits md5sum turn := by
  obtain ⟨record, env⟩ := turn
  by_cases passes : HeaderPasses md5sum (record, env)
  · have lengths := gunzipCommand_length record.bundle
    have sizes : fileNameSize = 50 ∧ commandSize = 50 := ⟨rfl, rfl⟩
    have touch : touchCommand.length = 29 := by decide
    rw [StringsFit, extractRecord_of_headerPasses passes, NameFits]
    simp only [passes, true_implies]
    split_ifs with path opens <;>
      simp only [List.forall_mem_cons] <;> grind
  · refine iff_of_true ?_ fun headerPasses => absurd headerPasses passes
    rw [StringsFit, (extractRecord_of_not_headerPasses passes).2]
    exact List.forall_mem_nil _

/-- All strings fit exactly if every name that the loop comes to does, by induction on the
turns.
-/
theorem extractAll_stringsFit_iff (turns : List Turn)
    : StringsFit (extractAll md5sum turns)
      ↔ UntilRejected md5sum (NameFits md5sum) turns := by
  induction turns with
  | nil => exact iff_of_true (List.forall_mem_nil _) trivial
  | cons turn rest ih =>
      rw [UntilRejected, ← extractRecord_stringsFit_iff, extractAll]
      split_ifs with success
      · have accepted := extractRecord_success_iff.mp success
        simp only [accepted, true_implies, ← ih]
        simp only [StringsFit, Extraction.andThen, List.forall_mem_append]
      · have rejected : ¬ Accepted md5sum turn := fun accepted =>
          success (extractRecord_success_iff.mpr accepted)
        simp only [rejected, false_implies, and_true]

/-- The strings that extractBundle builds fit their arrays if and only if every header that it
comes to and that matches its checksum has a name of at most 34 characters, or of at most 44
if no file of that name can be opened.
-/
theorem strings_fit_iff (env : Nat → Outcomes) (content : List UInt8)
    : StringsFit (extractBundle md5sum env (some content))
      ↔ UntilRejected md5sum (NameFits md5sum) (turns env 0 .zero content) := by
  rw [extractBundle, extractLoop_eq]
  exact extractAll_stringsFit_iff _

end Strings

/-- The empty file under a name of 35 characters. -/
def longService : ServiceFile :=
  ⟨List.replicate 32 110 ++ ascii ".gz", by decide, [], emptyGz⟩

def longServiceMd5 : List UInt8 → List UInt8 :=
  tableMd5 [
    ([], emptyMd5),
    (
      emptyHeaderData emptyMd5 (List.replicate 32 110 ++ ascii ".gz"),
      ascii "79f27a7e542b6eaa548a0583b9dd3eff"
    )
  ]

theorem longServiceMd5_prints : PrintsMd5 longServiceMd5 := tableMd5_prints (by decide +kernel)

/-- With a name of 35 characters, which createBundle accepts, gunzip's command is one byte too
long.
-/
theorem longService_overruns
    : ∃ bundle, reconnBundle longServiceMd5 [longService] = some bundle
        ∧ ¬ StringsFit (extractBundle longServiceMd5 (fun _ => .usual) (some bundle)) := by
  obtain ⟨header, bundle, written, turns, same, called, -, -⟩ :=
    turns_single longServiceMd5_prints (fun _ => .usual) longService (by decide) (by decide)
      (by decide)
  refine ⟨bundle, written, ?_⟩
  rw [extractBundle, extractLoop_eq, turns, extractAll_stringsFit_iff, UntilRejected]
  rintro ⟨fits, -⟩
  have short : longService.fileName.length ≤ 34 := by
    rw [← called]
    exact fits ⟨rfl, rfl, rfl, same⟩
  exact absurd short (by decide)

end Reconn.Upgrade
