import Reconn.Library.Terminated
import Reconn.Upgrade.Turns

/-! What extractBundle makes of a bundle that addReconnService has written: every file in
order, with the bytes that were bundled.
-/

namespace Reconn.Upgrade

open Client (reconnSuccess ascii)

/-- A digit as md5sum prints it. -/
def isHex (c : UInt8) : Bool := DecimalText.isDigit c || (97 ≤ c && c ≤ 102)

/-- A checksum is a function of the data and is printed as 32 hexadecimal digits. -/
def PrintsMd5 (md5sum : List UInt8 → List UInt8) : Prop :=
  ∀ data, (md5sum data).length = md5sumSize ∧ ∀ c ∈ md5sum data, isHex c = true

/-- The outcomes of a turn whose system calls all succeed. -/
def Outcomes.usual : Outcomes := ⟨true, true, true, true, true, true⟩

theorem strncmpEqual_self (n : Nat) (bytes : List UInt8) : strncmpEqual n bytes bytes := by
  induction n generalizing bytes with
  | zero => rfl
  | succ n ih =>
      cases bytes with
      | nil => rfl
      | cons byte rest => simp [strncmpEqual, ih]

/-- The string of an array that holds a terminated string. -/
theorem cString_terminated {name : List UInt8} (terminated : 0 ∉ name) (rest : List UInt8)
    : cString (name ++ 0 :: rest) = name :=
  Terminated.upTo_append terminated rest

/-- What addReconnService appends is a header that matches its checksum and describes the
file, and then the file.
-/
theorem addReconnService_spec {md5sum : List UInt8 → List UInt8} (md5 : PrintsMd5 md5sum)
    (file : ServiceFile) (name : file.fileName.length < fileNameSize)
    (size : file.content.length ≤ 9999999)
    : ∃ header : UpgradeBundle,
        addReconnService md5sum file = some (header.bytes ++ file.content)
        ∧ header.headerMatches md5sum = true
        ∧ cString header.fileName = file.fileName
        ∧ header.payloadSize = file.content.length
        ∧ header.payloadChecksum = md5sum file.original := by
  have whole (data : List UInt8) : (md5sum data).take md5sumSize = md5sum data :=
    List.take_of_length_le (Nat.le_of_eq (md5 data).1)
  have printed : sprintfD file.content.length = DecimalText.text file.content.length := by
    rw [sprintfD, Nat.mod_eq_of_lt (by omega), if_pos (by omega)]
  have digits : (DecimalText.text file.content.length).length ≤ 7 :=
    DecimalText.length_text_le (by omega) (by omega)
  have bundleSize : Upgrade.bundleSize = 132 := rfl
  have md5sumSize : Upgrade.md5sumSize = 32 := rfl
  have fileNameSize : Upgrade.fileNameSize = 50 := rfl
  obtain ⟨b₁, s₁⟩ := UpgradeBundle.zero.store_eq_some 8
    [UInt8.ofNat Upgrade.bundleSize, 0] (by decide)
  obtain ⟨b₂, s₂⟩ := b₁.store_eq_some 0 (majorLevel ++ [0]) (by decide)
  obtain ⟨b₃, s₃⟩ := b₂.store_eq_some 2 (minorLevel ++ [0]) (by decide)
  obtain ⟨b₄, s₄⟩ := b₃.store_eq_some 4 (patchLevel ++ [0]) (by decide)
  obtain ⟨b₅, s₅⟩ := b₄.store_eq_some 50 (md5sum file.original)
    (by rw [(md5 _).1]; decide)
  obtain ⟨b₆, s₆⟩ := b₅.store_eq_some 42 (DecimalText.text file.content.length ++ [0])
    (by rw [List.length_append, List.length_singleton]; omega)
  obtain ⟨b₇, s₇⟩ := b₆.store_eq_some 82 (file.fileName ++ [0])
    (by rw [List.length_append, List.length_singleton]; omega)
  obtain ⟨header, s₈⟩ := b₇.store_eq_some 10 (md5sum b₇.headerData)
    (by rw [(md5 _).1]; decide)
  have kept {start size : Nat} (apart : start + size ≤ 10 ∨ 42 ≤ start)
      : header.field start size = b₇.field start size :=
    UpgradeBundle.field_store_apart s₈ (by rw [(md5 _).1, md5sumSize]; omega)
  refine ⟨header, ?_, ?_, ?_, ?_, ?_⟩
  · simp only [addReconnService, Option.bind_eq_bind, whole, printed, s₁, s₂, s₃, s₄, s₅, s₆,
      s₇, s₈, Option.bind_some, Option.pure_def]
  · have checksum : header.headerChecksum = md5sum b₇.headerData := by
      rw [UpgradeBundle.headerChecksum, ← (md5 b₇.headerData).1]
      exact UpgradeBundle.field_store s₈
    have data : header.headerData = b₇.headerData := by
      simp only [UpgradeBundle.headerData, UpgradeBundle.headerVersion,
        UpgradeBundle.headerLength, UpgradeBundle.payloadLength,
        UpgradeBundle.payloadChecksum, UpgradeBundle.fileName]
      rw [kept (.inl (by decide)), kept (.inl (by decide)), kept (.inr (by decide)),
        kept (.inr (by decide)), kept (.inr (by decide))]
    rw [UpgradeBundle.headerMatches, checksum, data, whole]
    exact strncmpEqual_self _ _
  · have fits : (file.fileName ++ [0]).length ≤ Upgrade.fileNameSize := by
      rw [List.length_append, List.length_singleton]
      omega
    obtain ⟨rest, field⟩ := UpgradeBundle.field_of_prefix fits (UpgradeBundle.field_store s₇)
    rw [List.append_assoc, List.singleton_append] at field
    rw [UpgradeBundle.fileName, kept (.inr (by decide)), field]
    exact cString_terminated file.terminated _
  · have before : 42 + (DecimalText.text file.content.length ++ [0]).length ≤ 50 := by
      rw [List.length_append, List.length_singleton]
      omega
    have fits : (DecimalText.text file.content.length ++ [0]).length ≤ 90 := by omega
    have stored : header.field 42 (DecimalText.text file.content.length ++ [0]).length
        = DecimalText.text file.content.length ++ [0] := by
      rw [kept (.inr (by decide)), UpgradeBundle.field_store_apart s₇ (.inl (by omega)),
        UpgradeBundle.field_store s₆]
    obtain ⟨rest, field⟩ := UpgradeBundle.field_of_prefix fits stored
    rw [List.append_assoc, List.singleton_append] at field
    have all : header.bytes.drop 42 = header.field 42 90 := by
      rw [UpgradeBundle.field, List.take_of_length_le]
      rw [List.length_drop, header.size]
      decide
    rw [UpgradeBundle.payloadSize, all, field]
    exact atoi_text (by omega) (by simp [DecimalText.isDigit])
  · have stored := UpgradeBundle.field_store s₅
    rw [(md5 _).1] at stored
    have before : 42 + (DecimalText.text file.content.length ++ [0]).length ≤ 50 := by
      rw [List.length_append, List.length_singleton]
      omega
    rw [UpgradeBundle.payloadChecksum, kept (.inr (by decide)),
      UpgradeBundle.field_store_apart s₇ (.inl (by decide)),
      UpgradeBundle.field_store_apart s₆ (.inr before), stored]

/-- Turns that all succeed create their files in order, by induction on the turns. -/
theorem extractAll_files {md5sum : List UInt8 → List UInt8} {turns : List Turn}
    (accepted : ∀ turn ∈ turns, Accepted md5sum turn)
    : (extractAll md5sum turns).files
      = turns.map fun turn => (turn.1.bundle.path, turn.1.payload) := by
  induction turns with
  | nil => rfl
  | cons turn rest ih =>
      obtain ⟨first, others⟩ := List.forall_mem_cons.mp accepted
      have success := extractRecord_success_iff.mpr first
      have lengths := gunzipCommand_length turn.1.bundle
      have sizes : fileNameSize = 50 ∧ commandSize = 50 := ⟨rfl, rfl⟩
      have fits := first.fits
      have file : (extractRecord md5sum turn.2 turn.1).files
          = [(turn.1.bundle.path, turn.1.payload)] := by
        rw [extractRecord_of_headerPasses first.headerPasses]
        simp only
        rw [if_neg (by omega), if_neg (by simp [first.fileOpens]), if_neg (by omega),
          if_neg (by simp [first.gunzip])]
      rw [extractAll, if_pos success, Extraction.andThen, file, ih others]
      rfl

/-- A header that matches its checksum and has a short name is accepted if nothing fails. -/
theorem accepted_usual {md5sum : List UInt8 → List UInt8} {record : Record}
    (same : record.bundle.headerMatches md5sum = true)
    (name : (cString record.bundle.fileName).length ≤ 34)
    : Accepted md5sum (record, .usual) := by
  refine ⟨⟨rfl, rfl, rfl, same⟩, ?_, rfl, rfl, rfl⟩
  have length := (gunzipCommand_length record.bundle).1
  have size : commandSize = 50 := rfl
  simp only
  omega

/-- The loop has a turn for every file in the bundle, by induction on the files. -/
theorem turns_reconnBundle {md5sum : List UInt8 → List UInt8} (md5 : PrintsMd5 md5sum)
    {env : Nat → Outcomes} (usual : ∀ turn, env turn = .usual) {files : List ServiceFile}
    (names : ∀ file ∈ files, file.fileName.length ≤ 34)
    (contents : ∀ file ∈ files, file.content ≠ [] ∧ file.content.length ≤ 9999999)
    (turn : Nat) (before : UpgradeBundle)
    : ∃ bundle, reconnBundle md5sum files = some bundle
        ∧ (∀ t ∈ turns env turn before bundle, Accepted md5sum t)
        ∧ ((turns env turn before bundle).map fun t => (t.1.bundle.path, t.1.payload))
          = files.map fun file => (ascii "/tmp/" ++ file.fileName, file.content) := by
  induction files generalizing turn before with
  | nil => exact ⟨[], rfl, by simp [turns_nil], by simp [turns_nil]⟩
  | cons file rest ih =>
      obtain ⟨name, names⟩ := List.forall_mem_cons.mp names
      obtain ⟨⟨some, size⟩, contents⟩ := List.forall_mem_cons.mp contents
      have room : fileNameSize = 50 := rfl
      obtain ⟨header, added, same, called, announced, -⟩ :=
        addReconnService_spec md5 file (by omega) size
      obtain ⟨later, written, accepted, extracted⟩ := ih names contents (turn + 1) header
      have read := nextRecord_complete before header some announced later
      have more : header.bytes ++ (file.content ++ later) ≠ [] := by simp [some]
      refine ⟨header.bytes ++ (file.content ++ later), ?_, ?_, ?_⟩
      · simp only [reconnBundle, added, written, Option.bind_eq_bind, Option.bind_some,
          Option.pure_def, List.append_assoc]
      · rw [turns_of_ne_nil _ _ _ more, read, usual]
        exact List.forall_mem_cons.mpr
          ⟨accepted_usual same (by rw [called]; exact name), accepted⟩
      · rw [turns_of_ne_nil _ _ _ more, read, List.map_cons, extracted]
        simp only [UpgradeBundle.path, called, List.map_cons]

/-- Extracting a bundle that addReconnService has written creates every file in order, with
the bytes that were bundled, and succeeds.
Witness: each header is read whole and announces its own payload, so that the next turn
begins at the next header.
-/
theorem extract_reconnBundle {md5sum : List UInt8 → List UInt8} (md5 : PrintsMd5 md5sum)
    {env : Nat → Outcomes} (usual : ∀ turn, env turn = .usual) {files : List ServiceFile}
    (names : ∀ file ∈ files, file.fileName.length ≤ 34)
    (contents : ∀ file ∈ files, file.content ≠ [] ∧ file.content.length ≤ 9999999)
    : ∃ bundle, reconnBundle md5sum files = some bundle
        ∧ (extractBundle md5sum env (some bundle)).retCode = some reconnSuccess
        ∧ (extractBundle md5sum env (some bundle)).files
          = files.map fun file => (ascii "/tmp/" ++ file.fileName, file.content) := by
  obtain ⟨bundle, written, accepted, extracted⟩ :=
    turns_reconnBundle md5 usual names contents 0 .zero
  refine ⟨bundle, written, ?_, ?_⟩
  · rw [extractBundle, extractLoop_eq]
    exact extractAll_success_iff.mpr accepted
  · rw [extractBundle, extractLoop_eq, extractAll_files accepted, extracted]

/-- A checksum function that is known for some data only. -/
def tableMd5 (table : List (List UInt8 × List UInt8)) (data : List UInt8) : List UInt8 :=
  ((table.find? fun entry => entry.1 = data).map (·.2)).getD
    (List.replicate md5sumSize 48)

theorem tableMd5_prints {table : List (List UInt8 × List UInt8)}
    (entries : ∀ entry ∈ table,
      entry.2.length = md5sumSize ∧ ∀ c ∈ entry.2, isHex c = true)
    : PrintsMd5 (tableMd5 table) := by
  intro data
  unfold tableMd5
  cases found : table.find? fun entry => entry.1 = data with
  | none => exact ⟨List.length_replicate, by decide +kernel⟩
  | some entry => exact entries entry (List.mem_of_find?_eq_some found)

/-- What gzip makes of an empty file. -/
def emptyGz : List UInt8 :=
  [0x1f, 0x8b, 8, 0, 0, 0, 0, 0, 0, 3, 3, 0, 0, 0, 0, 0, 0, 0, 0, 0]

/-- The header data of a file of this name with a payload of this length, of two digits, for
the version 01.01.03.
-/
def serviceHeaderData (length payloadChecksum fileName : List UInt8) : List UInt8 :=
  ascii "010103" ++ [0, 0, 132, 0] ++ length ++ List.replicate 6 0 ++ payloadChecksum
    ++ fileName ++ List.replicate (fileNameSize - fileName.length) 0

/-- The same of a file that is empty. -/
def emptyHeaderData (payloadChecksum fileName : List UInt8) : List UInt8 :=
  serviceHeaderData (ascii "20") payloadChecksum fileName

def emptyMd5 : List UInt8 := ascii "d41d8cd98f00b204e9800998ecf8427e"

/-- The file "a", which is empty. -/
def emptyService : ServiceFile := ⟨ascii "a.gz", by decide, [], emptyGz⟩

def emptyServiceMd5 : List UInt8 → List UInt8 :=
  tableMd5 [
    ([], emptyMd5),
    (emptyHeaderData emptyMd5 (ascii "a.gz"), ascii "50e3bb6533552dea15fe2447614dae06")
  ]

theorem emptyServiceMd5_prints : PrintsMd5 emptyServiceMd5 :=
  tableMd5_prints (by decide +kernel)

/-- The file "conf" with the content "on". -/
def confService : ServiceFile where
  fileName := ascii "conf.gz"
  terminated := by decide
  original := ascii "on"
  content := [0x1f, 0x8b, 8, 0, 0, 0, 0, 0, 0, 3, 203, 207, 3, 0, 200, 41, 182, 9, 2, 0, 0, 0]

/-- The file "reconn-service" with the content "service". -/
def reconnService : ServiceFile where
  fileName := ascii "reconn-service.gz"
  terminated := by decide
  original := ascii "service"
  content := [
    0x1f, 0x8b, 8, 0, 0, 0, 0, 0, 0, 3, 43, 78, 45, 42, 203, 76, 78, 5, 0, 210, 154, 157, 225,
    7, 0, 0, 0
  ]

def twoServicesMd5 : List UInt8 → List UInt8 :=
  let confMd5 := ascii "ed2b5c0139cec8ad2873829dc1117d50"
  let serviceMd5 := ascii "aaabf0d39951f3e6c3e8a7911df524c2"
  tableMd5 [
    (ascii "on", confMd5),
    (ascii "service", serviceMd5),
    (
      serviceHeaderData (ascii "22") confMd5 (ascii "conf.gz"),
      ascii "151ea3c6b1dcfed0f0fd0bb9d9314798"
    ),
    (
      serviceHeaderData (ascii "27") serviceMd5 (ascii "reconn-service.gz"),
      ascii "c9f27f4adbc98ae7eeb551c662f9d8ad"
    )
  ]

theorem twoServicesMd5_prints : PrintsMd5 twoServicesMd5 := tableMd5_prints (by decide +kernel)

/-- A bundle of two files. -/
theorem extract_twoServices
    : ∃ bundle, reconnBundle twoServicesMd5 [reconnService, confService] = some bundle
        ∧ (extractBundle twoServicesMd5 (fun _ => .usual) (some bundle)).retCode
          = some reconnSuccess
        ∧ (extractBundle twoServicesMd5 (fun _ => .usual) (some bundle)).files
          = [
            (ascii "/tmp/reconn-service.gz", reconnService.content),
            (ascii "/tmp/conf.gz", confService.content)
          ] :=
  extract_reconnBundle twoServicesMd5_prints (fun _ => rfl)
    (by decide : ∀ file ∈ [reconnService, confService], file.fileName.length ≤ 34) (by decide)

end Reconn.Upgrade
