import Reconn.Library.Terminated
import Reconn.Upgrade.Bundle

/-! The host name and the port of the web server, as WEB_SERVICE_IP_AND_PORT of clientApp.c
takes them from the payload of a packet.
-/

namespace Reconn.Client

open DecimalText (isDigit)
open Upgrade (isSpace atoi atoi_text plain_of_isDigit)

def hostnameLen : Nat := 255

/-- atol(), where a long is an int. -/
def atol (text : List UInt8) : Int := atoi text

/-- The sign and the digits that a text begins with. -/
def signedDigits : List UInt8 → List UInt8
  | [] => []
  | c :: rest =>
      if c = 45 ∨ c = 43 then c :: rest.takeWhile isDigit else (c :: rest).takeWhile isDigit

/-- What atol() reads of a text before it stops at the byte behind: blanks, a sign and
digits.
-/
def numeral : List UInt8 → List UInt8
  | [] => []
  | c :: rest => if isSpace c then c :: numeral rest else signedDigits (c :: rest)

/-- What the command makes of the payload. -/
structure WebServerAddress where
  /-- the number of bytes that strcpy() writes from the start of theWebServerHostName on -/
  hostWrites : Nat
  /-- the number of bytes from the start of dataPayload up to the last one that is read -/
  payloadReads : Nat
  /-- the host name and portNum; none if strcpy() has overwritten the fields behind the array -/
  stored : Option (List UInt8 × UInt16)
  deriving DecidableEq, Repr

/-- WEB_SERVICE_IP_AND_PORT up to the port, on dataPayload and the memory behind it, while the
prints of RM_DEBUG are off, as they are from the program's start.
-/
def webServerAddress (dataPayload behind : List UInt8) : WebServerAddress :=
  let memory := dataPayload ++ behind
  let host := cString memory
  let copied := host.length + 1
  if hostnameLen + 1 < copied then ⟨copied, copied, none⟩
  else
    let port := memory.drop copied
    {
      hostWrites := copied
      payloadReads := copied + (numeral port).length + 1
      stored := some (host, UInt16.ofInt (atol port))
    }

/-- A payload of at most RECONN_PAYLOAD_SIZE bytes. -/
abbrev WebPayload := {payload : List UInt8 // payload.length ≤ reconnPayloadSize}

/-- The dataPayload of a packet with a payload; the rest of it was cleared. -/
def dataPayload (payload : WebPayload) : List UInt8 :=
  payload.1 ++ List.replicate (reconnPayloadSize - payload.1.length) 0

/-- The copy of the host name stays in theWebServerHostName, reading the port stays in
dataPayload, and a host name and a port below 65536 are stored as they were sent.
-/
structure Parsed (payload : WebPayload) (address : WebServerAddress) : Prop where
  hostInside : address.hostWrites ≤ hostnameLen + 1
  portInside : address.payloadReads ≤ reconnPayloadSize
  exact : ∀ (host : List UInt8) (port : Nat), 0 ∉ host → port < 65536
    → payload.1 = host ++ 0 :: DecimalText.text port
    → address.stored = some (host, UInt16.ofNat port)

/-- The host name ends within its array, and the number behind it before the end of the
payload.
-/
structure EndsInside (payload : WebPayload) : Prop where
  host : (cString (dataPayload payload)).length ≤ hostnameLen
  port :
    numeral ((dataPayload payload).drop ((cString (dataPayload payload)).length + 1))
      ≠ (dataPayload payload).drop ((cString (dataPayload payload)).length + 1)

-----------------------------------------------------------------------------------------
-- Numbers in a text
-----------------------------------------------------------------------------------------

section Numerals

variable {text rest : List UInt8}

theorem takeWhile_append_of_ne (stops : text.takeWhile isDigit ≠ text)
    : (text ++ rest).takeWhile isDigit = text.takeWhile isDigit := by
  rw [List.takeWhile_append, if_neg]
  exact fun whole => stops ((List.takeWhile_prefix _).eq_of_length whole)

/-- A number that ends in a text is read alike whatever follows, by induction on the text. -/
theorem numeral_append_of_ne (stops : numeral text ≠ text)
    : numeral (text ++ rest) = numeral text := by
  induction text with
  | nil => exact absurd rfl stops
  | cons c text ih =>
      rw [List.cons_append, numeral, numeral]
      rw [numeral] at stops
      by_cases blank : isSpace c = true
      · rw [if_pos blank] at stops ⊢
        rw [if_pos blank, ih fun same => stops (congrArg (c :: ·) same)]
      · rw [if_neg blank] at stops ⊢
        rw [if_neg blank, signedDigits, signedDigits]
        rw [signedDigits] at stops
        by_cases sign : c = 45 ∨ c = 43
        · rw [if_pos sign] at stops ⊢
          rw [if_pos sign, takeWhile_append_of_ne fun same => stops (congrArg (c :: ·) same)]
        · rw [if_neg sign] at stops ⊢
          rw [if_neg sign, ← List.cons_append, takeWhile_append_of_ne stops]

theorem takeWhile_append_of_eq (whole : text.takeWhile isDigit = text) (rest : List UInt8)
    : text <+: (text ++ rest).takeWhile isDigit := by
  rw [List.takeWhile_append, if_pos (congrArg List.length whole)]
  exact List.prefix_append _ _

/-- A text that is all read is read again with what follows it, by induction on the text. -/
theorem starts_numeral_append (whole : numeral text = text) (rest : List UInt8)
    : text <+: numeral (text ++ rest) := by
  induction text with
  | nil => exact List.nil_prefix
  | cons c text ih =>
      rw [List.cons_append, numeral]
      rw [numeral] at whole
      by_cases blank : isSpace c = true
      · rw [if_pos blank] at whole ⊢
        exact (List.prefix_cons_inj c).mpr (ih (List.cons.inj whole).2)
      · rw [if_neg blank, signedDigits] at whole ⊢
        by_cases sign : c = 45 ∨ c = 43
        · rw [if_pos sign] at whole ⊢
          exact (List.prefix_cons_inj c).mpr (takeWhile_append_of_eq (List.cons.inj whole).2 rest)
        · rw [if_neg sign] at whole ⊢
          exact takeWhile_append_of_eq whole rest

theorem signedDigits_starts (text : List UInt8) : signedDigits text <+: text := by
  cases text with
  | nil => exact List.nil_prefix
  | cons c text =>
      rw [signedDigits]
      split_ifs
      · exact (List.prefix_cons_inj c).mpr (List.takeWhile_prefix _)
      · exact List.takeWhile_prefix _

/-- What is read of a text is where it starts, by induction on the text. -/
theorem numeral_starts (text : List UInt8) : numeral text <+: text := by
  induction text with
  | nil => exact List.nil_prefix
  | cons c text ih =>
      rw [numeral]
      split_ifs
      · exact (List.prefix_cons_inj c).mpr ih
      · exact signedDigits_starts _

/-- No NUL is read as part of a number, by induction on the text. -/
theorem not_mem_numeral (text : List UInt8) : 0 ∉ numeral text := by
  have digits (text : List UInt8) : 0 ∉ text.takeWhile isDigit := fun member =>
    absurd (List.mem_takeWhile_imp member) (by decide)
  induction text with
  | nil => exact List.not_mem_nil
  | cons c text ih =>
      rw [numeral, signedDigits]
      split_ifs with blank sign
      · refine List.not_mem_cons_of_ne_of_not_mem ?_ ih
        rintro rfl
        exact absurd blank (by decide)
      · refine List.not_mem_cons_of_ne_of_not_mem ?_ (digits text)
        rintro rfl
        exact absurd sign (by decide)
      · exact digits _

/-- Digits are all read. -/
theorem numeral_of_digits (digits : ∀ c ∈ text, isDigit c = true) : numeral text = text := by
  cases text with
  | nil => rfl
  | cons c text =>
      obtain ⟨noBlank, noMinus, noPlus⟩ := plain_of_isDigit (digits c List.mem_cons_self)
      rw [numeral, if_neg (by simp [noBlank]), signedDigits, if_neg (by simp [noMinus, noPlus])]
      exact List.takeWhile_eq_self_iff.mpr digits

end Numerals

-----------------------------------------------------------------------------------------
-- What a payload comes to
-----------------------------------------------------------------------------------------

section Payloads

variable {payload : WebPayload}

theorem length_dataPayload (payload : WebPayload)
    : (dataPayload payload).length = reconnPayloadSize := by
  have bound := payload.2
  rw [dataPayload, List.length_append, List.length_replicate]
  omega

/-- A host name that is not in its array is not in the memory behind the payload either. -/
theorem cString_memory (short : (cString (dataPayload payload)).length ≤ hostnameLen)
    (behind : List UInt8)
    : cString (dataPayload payload ++ behind) = cString (dataPayload payload) := by
  refine Terminated.upTo_append_of_ne (fun whole => ?_) behind
  have all : cString (dataPayload payload) = dataPayload payload := whole
  rw [all, length_dataPayload] at short
  exact absurd short (by decide)

/-- What the command does where the host name ends within its array. -/
theorem webServerAddress_of_short
    (short : (cString (dataPayload payload)).length ≤ hostnameLen) (behind : List UInt8)
    : webServerAddress (dataPayload payload) behind
      = {
          hostWrites := (cString (dataPayload payload)).length + 1
          payloadReads :=
            (cString (dataPayload payload)).length + 1
              + (numeral
                  ((dataPayload payload).drop ((cString (dataPayload payload)).length + 1)
                    ++ behind)).length + 1
          stored :=
            some
              (
                cString (dataPayload payload),
                UInt16.ofInt
                  (atol
                    ((dataPayload payload).drop ((cString (dataPayload payload)).length + 1)
                      ++ behind))
              )
        } := by
  have inside : (cString (dataPayload payload)).length + 1 ≤ (dataPayload payload).length := by
    rw [length_dataPayload]
    exact (Nat.succ_le_succ short).trans (by decide)
  unfold webServerAddress
  dsimp only
  rw [cString_memory short, if_neg (by omega), List.drop_append_of_le_length inside]

/-- strcpy() writes as many bytes as it reads. -/
theorem hostWrites_eq (dataPayload behind : List UInt8)
    : (webServerAddress dataPayload behind).hostWrites
      = (cString (dataPayload ++ behind)).length + 1 := by
  unfold webServerAddress
  dsimp only
  split_ifs <;> rfl

/-- A host name and a port in front of the end of dataPayload are stored as they were sent. -/
theorem stored_of_endsInside (ends : EndsInside payload) (behind : List UInt8)
    {host : List UInt8} {port : Nat} (terminated : 0 ∉ host) (small : port < 65536)
    (sent : payload.1 = host ++ 0 :: DecimalText.text port)
    : (webServerAddress (dataPayload payload) behind).stored
      = some (host, UInt16.ofNat port) := by
  obtain ⟨short, stops⟩ := ends
  obtain ⟨count, zeros⟩ : ∃ count, reconnPayloadSize - payload.1.length = count := ⟨_, rfl⟩
  have whole
      : dataPayload payload
        = host ++ 0 :: (DecimalText.text port ++ List.replicate count 0) := by
    rw [dataPayload, zeros, sent, List.append_assoc, List.cons_append]
  have string : cString (dataPayload payload) = host := by
    rw [whole]
    exact Terminated.upTo_append terminated _
  have behindHost
      : (dataPayload payload).drop (host.length + 1)
        = DecimalText.text port ++ List.replicate count 0 := by
    rw [whole, List.drop_append, List.drop_of_length_le (by omega)]
    simp
  rw [webServerAddress_of_short short behind, string, behindHost, List.append_assoc]
  rw [string, behindHost] at stops
  have ended : ∀ c ∈ (List.replicate count 0 ++ behind).head?, isDigit c = false := by
    cases count with
    | zero =>
        rw [List.replicate_zero, List.append_nil] at stops
        exact absurd (numeral_of_digits fun c => DecimalText.isDigit_of_mem_text) stops
    | succ count =>
        intro c first
        obtain rfl := Option.some.inj first
        rfl
  have word : UInt16.ofInt (port : Int) = UInt16.ofNat port := by
    rw [UInt16.ofInt]
    exact congrArg UInt16.ofNat (by omega)
  rw [atol, atoi_text (by omega) ended, word]

/-- In a payload with fewer bytes than there is room for, a number always ends. -/
theorem endsInside_iff_of_room (room : payload.1.length < reconnPayloadSize)
    : EndsInside payload ↔ (cString (dataPayload payload)).length ≤ hostnameLen := by
  refine ⟨EndsInside.host, fun short => ⟨short, fun whole => ?_⟩⟩
  have size := length_dataPayload payload
  have last : (dataPayload payload)[reconnPayloadSize - 1]? = some 0 := by
    rw [dataPayload, List.getElem?_append_right (by omega), List.getElem?_replicate,
      if_pos (by omega)]
  have behindHost
      : 0 ∈ (dataPayload payload).drop ((cString (dataPayload payload)).length + 1) := by
    refine List.mem_iff_getElem?.mpr
      ⟨reconnPayloadSize - 1 - ((cString (dataPayload payload)).length + 1), ?_⟩
    rw [List.getElem?_drop, ← last]
    unfold hostnameLen at short
    unfold reconnPayloadSize
    exact congrArg ((dataPayload payload)[·]?) (by omega)
  rw [← whole] at behindHost
  exact not_mem_numeral _ behindHost

end Payloads

/-- A payload is taken apart as it should exactly if the host name ends within its array, and
the number behind it before the end of the payload.
-/
theorem webServerAddress_parsed_iff (payload : WebPayload) (behind : List UInt8)
    : Parsed payload (webServerAddress (dataPayload payload) behind) ↔ EndsInside payload := by
  have size := length_dataPayload payload
  constructor
  · rintro ⟨hostInside, portInside, -⟩
    have short : (cString (dataPayload payload)).length ≤ hostnameLen := by
      rw [hostWrites_eq] at hostInside
      exact (Terminated.length_upTo_le_append 0 _ behind).trans (Nat.le_of_succ_le_succ hostInside)
    refine ⟨short, fun whole => ?_⟩
    have read := (starts_numeral_append whole behind).length_le
    rw [webServerAddress_of_short short] at portInside
    dsimp only at portInside
    rw [List.length_drop, size] at read
    unfold hostnameLen at short
    unfold reconnPayloadSize at read portInside
    omega
  · intro ends
    refine ⟨?_, ?_, fun host port terminated small sent =>
      stored_of_endsInside ends behind terminated small sent⟩
    · rw [webServerAddress_of_short ends.host]
      exact Nat.succ_le_succ ends.host
    · have read := (numeral_starts _).length_le.lt_of_ne fun same =>
        ends.port ((numeral_starts _).eq_of_length same)
      rw [webServerAddress_of_short ends.host, numeral_append_of_ne ends.port]
      rw [List.length_drop, size] at read
      dsimp only
      omega

/-- A host name that is one byte too long for its array. -/
def longHost : WebPayload :=
  ⟨List.replicate 256 97, by
    rw [List.length_replicate]
    decide⟩

/-- A host name of 256 bytes is copied with its NUL out of the array. -/
theorem webServerAddress_overrun
    : ¬ ∀ (payload : WebPayload) (behind : List UInt8),
        Parsed payload (webServerAddress (dataPayload payload) behind) := by
  intro parsed
  have inside := (parsed longHost []).hostInside
  have string : cString (dataPayload longHost) = longHost.1 :=
    Terminated.upTo_padded
      (fun member => absurd (List.eq_of_mem_replicate member) (by decide)) _
  rw [hostWrites_eq, List.append_nil, string, longHost, List.length_replicate] at inside
  exact absurd inside (by decide)

end Reconn.Client
