import Reconn.Upgrade.Bundle

/-! The turns of extractBundle's loop: how it splits the bundle file, which turns succeed,
and what follows for the whole file.
-/

namespace Reconn.Upgrade

open Client (reconnSuccess reconnFailure ascii)

namespace UpgradeBundle

variable {bundle stored : UpgradeBundle} {offset : Nat} {data : List UInt8}

theorem store_bytes (store : bundle.store offset data = some stored)
    : offset + data.length ≤ bundleSize
      ∧ stored.bytes
        = bundle.bytes.take offset ++ (data ++ bundle.bytes.drop (offset + data.length)) := by
  unfold UpgradeBundle.store at store
  split_ifs at store with fits
  obtain rfl := Option.some.inj store
  exact ⟨fits, List.append_assoc ..⟩

/-- A field after bytes have been stored somewhere else. -/
theorem field_store_apart (store : bundle.store offset data = some stored) {start size : Nat}
    (apart : start + size ≤ offset ∨ offset + data.length ≤ start)
    : stored.field start size = bundle.field start size := by
  obtain ⟨fits, bytes⟩ := store_bytes store
  have first : (bundle.bytes.take offset).length = offset := by
    rw [List.length_take, bundle.size]
    omega
  apply List.ext_getElem?
  intro index
  simp only [field, List.getElem?_take, List.getElem?_drop]
  split_ifs with inside
  · rw [bytes]
    rcases apart with before | after
    · rw [List.getElem?_append_left (by omega), List.getElem?_take_of_lt (by omega)]
    · have place : offset + data.length + (start + index - offset - data.length)
          = start + index := by omega
      rw [List.getElem?_append_right (by omega), first,
        List.getElem?_append_right (by omega), List.getElem?_drop, place]
  · rfl

/-- The bytes that have been stored. -/
theorem field_store (store : bundle.store offset data = some stored)
    : stored.field offset data.length = data := by
  obtain ⟨fits, bytes⟩ := store_bytes store
  have first : (bundle.bytes.take offset).length = offset := by
    rw [List.length_take, bundle.size]
    omega
  rw [field, bytes, List.drop_left' first, List.take_left]

theorem store_eq_some (bundle : UpgradeBundle) (offset : Nat) (data : List UInt8)
    (fits : offset + data.length ≤ bundleSize)
    : ∃ stored, bundle.store offset data = some stored := by
  simp only [store, dif_pos fits]
  exact ⟨_, rfl⟩

/-- A field is two fields, one behind the other. -/
theorem field_add (bundle : UpgradeBundle) (offset first second : Nat)
    : bundle.field offset (first + second)
      = bundle.field offset first ++ bundle.field (offset + first) second := by
  rw [field, field, field, List.take_add, List.drop_drop]

/-- A field whose first bytes are known goes on behind them. -/
theorem field_of_prefix {bundle : UpgradeBundle} {offset size : Nat} {text : List UInt8}
    (fits : text.length ≤ size) (stored : bundle.field offset text.length = text)
    : ∃ rest, bundle.field offset size = text ++ rest := by
  have split := bundle.field_add offset text.length (size - text.length)
  rw [Nat.add_sub_cancel' fits, stored] at split
  exact ⟨_, split⟩

/-- A whole header in the file takes the place of whatever the bundle held. -/
theorem fread_whole (bundle header : UpgradeBundle) (rest : List UInt8)
    : bundle.fread (header.bytes ++ rest) = header := by
  have whole : (header.bytes ++ rest).take bundleSize = header.bytes :=
    List.take_left' header.size
  apply UpgradeBundle.ext
  calc (bundle.fread (header.bytes ++ rest)).bytes
    _ = (header.bytes ++ rest).take bundleSize
        ++ bundle.bytes.drop ((header.bytes ++ rest).take bundleSize).length := rfl
    _ = header.bytes := by
      rw [whole, header.size, List.drop_of_length_le (Nat.le_of_eq bundle.size),
        List.append_nil]

end UpgradeBundle

/-- The loop copies as many bytes as are still wanted, but at least one, if they are there.
-/
theorem copyPayload_eq (length : Int) (content : List UInt8) (read : Int)
    : copyPayload length content read
      = (
          content.take (max 1 (length - read).toNat),
          content.drop (max 1 (length - read).toNat)
        ) := by
  induction content generalizing read with
  | nil => simp [copyPayload]
  | cons byte rest ih =>
      simp only [copyPayload]
      split_ifs with more
      · have wanted : max 1 (length - read).toNat
            = max 1 (length - (read + 1)).toNat + 1 := by omega
        rw [ih, wanted, List.take_succ_cons, List.drop_succ_cons]
      · have wanted : max 1 (length - read).toNat = 1 := by omega
        rw [wanted]
        rfl

/-- A complete record is read as it is. -/
theorem nextRecord_complete (bundle header : UpgradeBundle) {payload : List UInt8}
    (some : payload ≠ []) (size : header.payloadSize = payload.length) (rest : List UInt8)
    : nextRecord bundle (header.bytes ++ (payload ++ rest))
      = ⟨header, bundleSize, payload, rest⟩ := by
  have positive := List.length_pos_iff.mpr some
  have wanted : max 1 ((payload.length : Int) - 0).toNat = payload.length := by omega
  have first : (header.bytes ++ (payload ++ rest)).take bundleSize = header.bytes :=
    List.take_left' header.size
  have others : (header.bytes ++ (payload ++ rest)).drop bundleSize = payload ++ rest :=
    List.drop_left' header.size
  simp only [nextRecord, UpgradeBundle.fread_whole, size, first, others, copyPayload_eq,
    wanted, List.take_left, List.drop_left, header.size]

-----------------------------------------------------------------------------------------
-- Which turns succeed
-----------------------------------------------------------------------------------------

/-- A turn of the loop with the outcomes of its system calls. -/
abbrev Turn := Record × Outcomes

/-- The turns that the loop has for the file if none of them fails. -/
def turns (env : Nat → Outcomes) (turn : Nat) (bundle : UpgradeBundle) (content : List UInt8)
    : List Turn :=
  if more : content = [] then []
  else
    let record := nextRecord bundle content
    (record, env turn) :: turns env (turn + 1) record.bundle record.rest
termination_by content.length
decreasing_by exact nextRecord_rest_lt bundle more

theorem turns_nil (env : Nat → Outcomes) (turn : Nat) (bundle : UpgradeBundle)
    : turns env turn bundle [] = [] := by
  rw [turns, dif_pos rfl]

theorem turns_of_ne_nil (env : Nat → Outcomes) (turn : Nat) (bundle : UpgradeBundle)
    {content : List UInt8} (more : content ≠ [])
    : turns env turn bundle content
      = (nextRecord bundle content, env turn)
        :: turns env (turn + 1) (nextRecord bundle content).bundle
          (nextRecord bundle content).rest := by
  rw [turns, dif_neg more]

/-- The loop reaches the header checksum, and it is the one in the header. -/
def HeaderPasses (md5sum : List UInt8 → List UInt8) (turn : Turn) : Prop :=
  turn.2.headerDataOpens = true ∧ turn.2.headerSumOpens = true
    ∧ turn.2.headerSumReads = true ∧ turn.1.bundle.headerMatches md5sum = true

instance (md5sum : List UInt8 → List UInt8) (turn : Turn)
    : Decidable (HeaderPasses md5sum turn) :=
  inferInstanceAs (Decidable (_ ∧ _))

/-- The loop goes on after a turn: the header passes, its name fits, the file opens, and
gunzip and touch succeed.
-/
structure Accepted (md5sum : List UInt8 → List UInt8) (turn : Turn) : Prop where
  headerPasses : HeaderPasses md5sum turn
  fits : turn.1.bundle.gunzipCommand.length < commandSize
  fileOpens : turn.2.fileOpens = true
  gunzip : turn.2.gunzip = true
  touch : turn.2.touch = true

/-- gunzip's command is longer than the path in it. -/
theorem gunzipCommand_length (bundle : UpgradeBundle)
    : bundle.gunzipCommand.length = (cString bundle.fileName).length + 15
      ∧ bundle.path.length = (cString bundle.fileName).length + 5 := by
  have prefixes : (ascii "gunzip -f ").length = 10 ∧ (ascii "/tmp/").length = 5 := by decide
  rw [UpgradeBundle.gunzipCommand, UpgradeBundle.path, List.length_append,
    List.length_append, prefixes.1, prefixes.2]
  omega

/-- A turn that passes the header check goes by the strings it builds. -/
theorem extractRecord_of_headerPasses {md5sum : List UInt8 → List UInt8} {env : Outcomes}
    {record : Record} (passes : HeaderPasses md5sum (record, env))
    : extractRecord md5sum env record
      = let path := (fileNameSize, record.bundle.path)
        let file := (record.bundle.path, record.payload)
        let gunzip := (commandSize, record.bundle.gunzipCommand)
        if fileNameSize ≤ record.bundle.path.length then ⟨none, [], [path]⟩
        else if env.fileOpens = false then ⟨some reconnFailure, [], [path]⟩
        else if commandSize ≤ record.bundle.gunzipCommand.length then
          ⟨none, [file], [path, gunzip]⟩
        else if env.gunzip = false then ⟨some reconnFailure, [file], [path, gunzip]⟩
        else
          ⟨
            some (if env.touch then reconnSuccess else reconnFailure),
            [file],
            [path, gunzip, (commandSize, touchCommand)]
          ⟩ := by
  obtain ⟨data, sum, reads, same⟩ := passes
  simp only at data sum reads same
  simp only [extractRecord, data, sum, reads, same, Bool.true_eq_false, if_false]

/-- A turn that fails before or at the header check builds no string and no file. -/
theorem extractRecord_of_not_headerPasses {md5sum : List UInt8 → List UInt8}
    {env : Outcomes} {record : Record} (fails : ¬ HeaderPasses md5sum (record, env))
    : (extractRecord md5sum env record).retCode ≠ some reconnSuccess
      ∧ (extractRecord md5sum env record).strings = [] := by
  have failure : some reconnFailure ≠ some reconnSuccess := by decide
  have badChecksum : some reconnUpgradeBadChecksum ≠ some reconnSuccess := by decide
  by_cases data : env.headerDataOpens = false
  · rw [extractRecord, if_pos data]
    exact ⟨failure, rfl⟩
  by_cases sum : env.headerSumOpens = false
  · rw [extractRecord, if_neg data, if_pos sum]
    exact ⟨failure, rfl⟩
  by_cases reads : env.headerSumReads = false
  · rw [extractRecord, if_neg data, if_neg sum, if_pos reads]
    exact ⟨failure, rfl⟩
  by_cases differs : record.bundle.headerMatches md5sum = false
  · rw [extractRecord, if_neg data, if_neg sum, if_neg reads, if_pos differs]
    exact ⟨badChecksum, rfl⟩
  exact absurd ⟨Bool.eq_true_of_not_eq_false data, Bool.eq_true_of_not_eq_false sum,
    Bool.eq_true_of_not_eq_false reads, Bool.eq_true_of_not_eq_false differs⟩ fails

/-- The turns that succeed are those that the loop goes on after. -/
theorem extractRecord_success_iff {md5sum : List UInt8 → List UInt8} {env : Outcomes}
    {record : Record}
    : (extractRecord md5sum env record).retCode = some reconnSuccess
      ↔ Accepted md5sum (record, env) := by
  have failure : some reconnFailure ≠ some reconnSuccess := by decide
  have lengths := gunzipCommand_length record.bundle
  have sizes : fileNameSize = 50 ∧ commandSize = 50 := ⟨rfl, rfl⟩
  by_cases passes : HeaderPasses md5sum (record, env)
  · rw [extractRecord_of_headerPasses passes]
    simp only
    constructor
    · intro success
      split_ifs at success with path opens command gunzip touch
      · exact absurd success failure
      · exact absurd success failure
      · exact ⟨passes, Nat.lt_of_not_le command, Bool.eq_true_of_not_eq_false opens,
          Bool.eq_true_of_not_eq_false gunzip, touch⟩
      · exact absurd success failure
    · rintro ⟨-, fits, opens, gunzip, touch⟩
      simp only at fits opens gunzip touch
      rw [if_neg (by omega), if_neg (by simp [opens]), if_neg (by omega),
        if_neg (by simp [gunzip]), if_pos touch]
  · exact iff_of_false (extractRecord_of_not_headerPasses passes).1
      fun accepted => passes accepted.headerPasses

/-- The loop, turn after turn. -/
def extractAll (md5sum : List UInt8 → List UInt8) : List Turn → Extraction
  | [] => ⟨some reconnSuccess, [], []⟩
  | turn :: rest =>
      let extracted := extractRecord md5sum turn.2 turn.1
      if extracted.retCode = some reconnSuccess then
        extracted.andThen (extractAll md5sum rest)
      else extracted

/-- The loop of extractBundle takes its turns one after the other. -/
theorem extractLoop_eq (md5sum : List UInt8 → List UInt8) (env : Nat → Outcomes)
    (turn : Nat) (bundle : UpgradeBundle) (content : List UInt8)
    : extractLoop md5sum env turn bundle content
      = extractAll md5sum (turns env turn bundle content) := by
  fun_induction turns env turn bundle content with
  | case1 turn bundle => rw [extractLoop, dif_pos rfl, extractAll]
  | case2 turn bundle content more record ih =>
      rw [extractLoop, dif_neg more, extractAll, ← ih]

/-- The whole file is accepted exactly if every turn for it is, by induction on the turns. -/
theorem extractAll_success_iff {md5sum : List UInt8 → List UInt8} {turns : List Turn}
    : (extractAll md5sum turns).retCode = some reconnSuccess
      ↔ ∀ turn ∈ turns, Accepted md5sum turn := by
  induction turns with
  | nil => exact iff_of_true rfl (by simp)
  | cons turn rest ih =>
      rw [List.forall_mem_cons, ← ih, ← extractRecord_success_iff, extractAll]
      split_ifs with success
      · exact (and_iff_right success).symm
      · exact iff_of_false success fun both => success both.1

end Reconn.Upgrade
