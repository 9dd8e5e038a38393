import Reconn.Client.Equipment
import Reconn.Library.DecimalText

/-! The upgrade bundle of upgrade.h: the header in front of each file, what addReconnService
of createBundle.c appends for a file, and how extractBundle.c reads the bundle.
-/

namespace Reconn.Upgrade

open Client (ReconnErrCode reconnSuccess reconnFailure ascii)

def headerVersionSize : Nat := 8
def headerLengthSize : Nat := 2
def payloadLengthSize : Nat := 8
def md5sumSize : Nat := 32
def fileNameSize : Nat := 50
def commandSize : Nat := 50

/-- sizeof(UPGRADEBUNDLE) -/
def bundleSize : Nat := 132

def reconnUpgradeFileNotFound : ReconnErrCode := 8
def reconnUpgradeBadChecksum : ReconnErrCode := 9

-- majorLevel, minorLevel and patchLevel of version.h
def majorLevel : List UInt8 := ascii "01"
def minorLevel : List UInt8 := ascii "01"
def patchLevel : List UInt8 := ascii "03"

/-- A UPGRADEBUNDLE in memory, whose fields are arrays of bytes one behind the other. -/
@[ext]
structure UpgradeBundle where
  bytes : List UInt8
  size : bytes.length = bundleSize

namespace UpgradeBundle

/-- The bytes from an offset on. -/
def field (bundle : UpgradeBundle) (offset size : Nat) : List UInt8 :=
  (bundle.bytes.drop offset).take size

def headerVersion (bundle : UpgradeBundle) : List UInt8 := bundle.field 0 headerVersionSize
def headerLength (bundle : UpgradeBundle) : List UInt8 := bundle.field 8 headerLengthSize
def headerChecksum (bundle : UpgradeBundle) : List UInt8 := bundle.field 10 md5sumSize
def payloadLength (bundle : UpgradeBundle) : List UInt8 := bundle.field 42 payloadLengthSize
def payloadChecksum (bundle : UpgradeBundle) : List UInt8 := bundle.field 50 md5sumSize
def fileName (bundle : UpgradeBundle) : List UInt8 := bundle.field 82 fileNameSize

/-- What the header checksum is taken of. -/
def headerData (bundle : UpgradeBundle) : List UInt8 :=
  bundle.headerVersion ++ bundle.headerLength ++ bundle.payloadLength
    ++ bundle.payloadChecksum ++ bundle.fileName

/-- The bundle after its memset. -/
def zero : UpgradeBundle := ⟨List.replicate bundleSize 0, List.length_replicate⟩

/-- Writes bytes from an offset on; none if they do not fit the bundle. -/
def store (bundle : UpgradeBundle) (offset : Nat) (data : List UInt8)
    : Option UpgradeBundle :=
  if fits : offset + data.length ≤ bundleSize then
    some ⟨
      bundle.bytes.take offset ++ data ++ bundle.bytes.drop (offset + data.length),
      by
        have size := bundle.size
        simp only [List.length_append, List.length_take, List.length_drop]
        omega
    ⟩
  else none

/-- fread() into the bundle: a short read leaves the bytes behind it. -/
def fread (bundle : UpgradeBundle) (content : List UInt8) : UpgradeBundle :=
  ⟨
    content.take bundleSize ++ bundle.bytes.drop (content.take bundleSize).length,
    by
      have size := bundle.size
      simp only [List.length_append, List.length_take, List.length_drop]
      omega
  ⟩

end UpgradeBundle

-----------------------------------------------------------------------------------------
-- Writing a bundle
-----------------------------------------------------------------------------------------

/-- sprintf("%d") of an unsigned int, up to its terminating NUL. -/
def sprintfD (size : Nat) : List UInt8 :=
  let word := size % 2 ^ 32
  if word < 2 ^ 31 then DecimalText.text word
  else ascii "-" ++ DecimalText.text (2 ^ 32 - word)

/-- A file that createBundle adds to the bundle: its name with the suffix of gzip, its bytes
before gzip and after it.
-/
structure ServiceFile where
  fileName : List UInt8
  terminated : 0 ∉ fileName
  original : List UInt8
  content : List UInt8

/-- What addReconnService appends to the bundle, where the sum file holds the checksum of
the original; none if a string does not fit the header.
-/
def addReconnService (md5sum : List UInt8 → List UInt8) (file : ServiceFile)
    : Option (List UInt8) := do
  let bundle ← UpgradeBundle.zero.store 8 [UInt8.ofNat bundleSize, 0]
  let bundle ← bundle.store 0 (majorLevel ++ [0])
  let bundle ← bundle.store 2 (minorLevel ++ [0])
  let bundle ← bundle.store 4 (patchLevel ++ [0])
  let bundle ← bundle.store 50 ((md5sum file.original).take md5sumSize)
  let bundle ← bundle.store 42 (sprintfD file.content.length ++ [0])
  let bundle ← bundle.store 82 (file.fileName ++ [0])
  let bundle ← bundle.store 10 ((md5sum bundle.headerData).take md5sumSize)
  return bundle.bytes ++ file.content

/-- The bundle after addReconnService has been called for these files. -/
def reconnBundle (md5sum : List UInt8 → List UInt8) : List ServiceFile → Option (List UInt8)
  | [] => some []
  | file :: rest => do
      let record ← addReconnService md5sum file
      let later ← reconnBundle md5sum rest
      return record ++ later

-----------------------------------------------------------------------------------------
-- Reading a bundle
-----------------------------------------------------------------------------------------

/-- isspace() -/
def isSpace (c : UInt8) : Bool := c = 32 || (9 ≤ c && c ≤ 13)

/-- atoi(), which keeps to the range of an int. -/
def atoi (text : List UInt8) : Int :=
  let text := text.dropWhile isSpace
  let number : Int :=
    match text with
    | 45 :: rest => -(DecimalText.value rest : Int)
    | 43 :: rest => DecimalText.value rest
    | text => DecimalText.value text
  max (-2 ^ 31) (min (2 ^ 31 - 1) number)

/-- A digit is no blank and no sign. -/
theorem plain_of_isDigit {c : UInt8} (digit : DecimalText.isDigit c = true)
    : isSpace c = false ∧ c ≠ 45 ∧ c ≠ 43 := by
  simp only [DecimalText.isDigit, Bool.and_eq_true, decide_eq_true_eq,
    UInt8.le_iff_toNat_le] at digit
  have low : (48 : UInt8).toNat = 48 := rfl
  refine ⟨?_, ?_, ?_⟩
  · have other : c ≠ 32 := by
      rintro rfl
      exact absurd digit.1 (by decide)
    have above : ¬ c ≤ 13 := by
      rw [UInt8.le_iff_toNat_le]
      have high : (13 : UInt8).toNat = 13 := rfl
      omega
    simp [isSpace, other, above]
  · rintro rfl
    exact absurd digit.1 (by decide)
  · rintro rfl
    exact absurd digit.1 (by decide)

/-- A length that was printed in decimal is read back, if it is an int. -/
theorem atoi_text {n : Nat} (small : n < 2 ^ 31) {rest : List UInt8}
    (stops : ∀ c ∈ rest.head?, DecimalText.isDigit c = false)
    : atoi (DecimalText.text n ++ rest) = n := by
  obtain ⟨c, digits, text, digit⟩ := DecimalText.exists_text_eq_cons n
  have number : DecimalText.value (c :: (digits ++ rest)) = n := by
    rw [← List.cons_append, ← text]
    exact DecimalText.value_text_append n stops
  have plain := plain_of_isDigit digit
  have start : (c :: (digits ++ rest)).dropWhile isSpace = c :: (digits ++ rest) := by
    simp [plain.1]
  rw [text, List.cons_append, atoi, start]
  split
  · rename_i same
    exact absurd (List.cons.inj same).1 plain.2.1
  · rename_i same
    exact absurd (List.cons.inj same).1 plain.2.2
  · rw [number]
    omega

/-- strncmp() finds no difference. -/
def strncmpEqual : Nat → List UInt8 → List UInt8 → Bool
  | 0, _, _ => true
  | _ + 1, [], [] => true
  | _ + 1, [], _ :: _ => false
  | _ + 1, _ :: _, [] => false
  | n + 1, a :: as, b :: bs => a = b && (a = 0 || strncmpEqual n as bs)

/-- The string that an array begins with. -/
def cString (array : List UInt8) : List UInt8 := array.takeWhile (· ≠ 0)

/-- The loop that copies a payload from the bundle to its file, with what it copies and what
it leaves in the bundle. It reads before it looks at the length.
-/
def copyPayload (payloadLength : Int) : List UInt8 → Int → List UInt8 × List UInt8
  | [], _ => ([], [])
  | byte :: rest, read =>
      if read + 1 < payloadLength then
        let copied := copyPayload payloadLength rest (read + 1)
        (byte :: copied.1, copied.2)
      else ([byte], rest)

namespace UpgradeBundle

/-- atoi() of payloadLength. A text without a NUL runs on into the fields behind it. -/
def payloadSize (bundle : UpgradeBundle) : Int := atoi (bundle.bytes.drop 42)

/-- strcat() of "/tmp/" and fileName -/
def path (bundle : UpgradeBundle) : List UInt8 := ascii "/tmp/" ++ cString bundle.fileName

def gunzipCommand (bundle : UpgradeBundle) : List UInt8 := ascii "gunzip -f " ++ bundle.path

/-- The checksum of the header is the one in it. -/
def headerMatches (md5sum : List UInt8 → List UInt8) (bundle : UpgradeBundle) : Bool :=
  strncmpEqual md5sumSize bundle.headerChecksum
    ((md5sum bundle.headerData).take md5sumSize)

end UpgradeBundle

def touchCommand : List UInt8 := ascii "touch /tmp/upgrade_inprogress"

/-- A turn of extractBundle's loop: the bundle after its fread(), how many bytes that read,
the payload behind it, and what is left of the file.
-/
structure Record where
  bundle : UpgradeBundle
  headerRead : Nat
  payload : List UInt8
  rest : List UInt8

/-- The next turn on what is left of the file, with the bundle that the last one has left. -/
def nextRecord (bundle : UpgradeBundle) (content : List UInt8) : Record :=
  let bundle := bundle.fread content
  let payload := copyPayload bundle.payloadSize (content.drop bundleSize) 0
  ⟨bundle, (content.take bundleSize).length, payload.1, payload.2⟩

/-- Whether the files of a turn open, the checksum can be read, and gunzip and touch succeed.
-/
structure Outcomes where
  headerDataOpens : Bool
  headerSumOpens : Bool
  headerSumReads : Bool
  fileOpens : Bool
  gunzip : Bool
  touch : Bool

/-- What extractBundle does: its return code, the files it creates, and the strings it builds
with the size of the array for each. The code is none if a string did not fit.
-/
structure Extraction where
  retCode : Option ReconnErrCode
  files : List (List UInt8 × List UInt8)
  strings : List (Nat × List UInt8)

/-- One turn of extractBundle's loop. -/
def extractRecord (md5sum : List UInt8 → List UInt8) (env : Outcomes) (record : Record)
    : Extraction :=
  if env.headerDataOpens = false then ⟨some reconnFailure, [], []⟩
  else if env.headerSumOpens = false then ⟨some reconnFailure, [], []⟩
  else if env.headerSumReads = false then ⟨some reconnFailure, [], []⟩
  else if record.bundle.headerMatches md5sum = false then ⟨some reconnUpgradeBadChecksum, [], []⟩
  else
    let path := (fileNameSize, record.bundle.path)
    if fileNameSize ≤ record.bundle.path.length then ⟨none, [], [path]⟩
    else if env.fileOpens = false then ⟨some reconnFailure, [], [path]⟩
    else
      let file := (record.bundle.path, record.payload)
      let gunzip := (commandSize, record.bundle.gunzipCommand)
      if commandSize ≤ record.bundle.gunzipCommand.length then
        ⟨none, [file], [path, gunzip]⟩
      else if env.gunzip = false then ⟨some reconnFailure, [file], [path, gunzip]⟩
      else
        ⟨
          some (if env.touch then reconnSuccess else reconnFailure),
          [file],
          [path, gunzip, (commandSize, touchCommand)]
        ⟩

/-- What follows a turn that was successful. -/
def Extraction.andThen (first later : Extraction) : Extraction :=
  ⟨later.retCode, first.files ++ later.files, first.strings ++ later.strings⟩

/-- A turn takes at least one byte off the file. -/
theorem nextRecord_rest_lt (bundle : UpgradeBundle) {content : List UInt8}
    (more : content ≠ [])
    : (nextRecord bundle content).rest.length < content.length := by
  have copied (content : List UInt8) (length read : Int)
      : (copyPayload length content read).2.length ≤ content.length := by
    induction content generalizing read with
    | nil => exact Nat.le_refl _
    | cons byte rest ih =>
        simp only [copyPayload]
        split_ifs
        · exact Nat.le_succ_of_le (ih _)
        · exact Nat.le_succ _
  have left := copied (content.drop bundleSize) (bundle.fread content).payloadSize 0
  have some := List.length_pos_iff.mpr more
  have size : bundleSize = 132 := rfl
  simp only [nextRecord]
  rw [List.length_drop] at left
  omega

/-- The loop of extractBundle. -/
def extractLoop (md5sum : List UInt8 → List UInt8) (env : Nat → Outcomes) (turn : Nat)
    (bundle : UpgradeBundle) (content : List UInt8)
    : Extraction :=
  if more : content = [] then ⟨some reconnSuccess, [], []⟩
  else
    let record := nextRecord bundle content
    let extracted := extractRecord md5sum (env turn) record
    if extracted.retCode = some reconnSuccess then
      extracted.andThen (extractLoop md5sum env (turn + 1) record.bundle record.rest)
    else extracted
termination_by content.length
decreasing_by exact nextRecord_rest_lt bundle more

/-- extractBundle, on the content of the bundle file if it opens. -/
def extractBundle (md5sum : List UInt8 → List UInt8) (env : Nat → Outcomes)
    (content : Option (List UInt8))
    : Extraction :=
  match content with
  | none => ⟨some reconnUpgradeFileNotFound, [], []⟩
  | some content => extractLoop md5sum env 0 .zero content

end Reconn.Upgrade
