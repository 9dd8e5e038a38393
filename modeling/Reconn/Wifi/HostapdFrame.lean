import Reconn.Wifi.HostapdConf

/-! What a client's new value does to the other lines of hostapd's configuration file. The value
is a string of the payload, of which only the length is checked.
-/

namespace Reconn.Wifi

open Lines
open Client (
  Packet cString ascii wifiSsidToken wifiPasswdToken wifiPasswdMaxLength
  reconnSuccess)

/-- What strncat() leaves of the payload in newSSID and newPasswd. -/
def newValue (p : Packet) : List UInt8 := cString (p.payload p.pktLength)

namespace Setting

/-- The request for a setting. -/
def request (setting : Setting) (c : Client.Context) (env : Client.Outcomes) (p : Packet)
    (s : Client.State)
    : Option (List Client.Action) :=
  match setting with
  | ssid => c.wifiChangeSsidReq env p s
  | passwd => c.wifiChangePasswordReq env p s

/-- Whatever the heap held, an update keeps the lines of the file, apart from its token lines,
of which each becomes one line with the new value.
-/
def FrameLaw (setting : Setting) (value conf : List UInt8) : Prop :=
  setting.Updates value conf fun written =>
    lines newline written = (lines newline conf).map (replaced setting.token value)

/-- The condition on the file and the value: the file can be rewritten, its other lines are
strings, and the value is a single line unless there is no line for it.
-/
structure Framed (setting : Setting) (value conf : List UInt8) : Prop where
  fits : setting.Fits conf
  strings : ∀ line ∈ lines newline conf, ¬ setting.token <+: line → 0 ∉ line
  single : newline ∉ value ∨ ∀ line ∈ lines newline conf, ¬ setting.token <+: line

end Setting

-----------------------------------------------------------------------------------------
-- Where a value comes from
-----------------------------------------------------------------------------------------

/-- A request that hands over a value has accepted its length. -/
theorem wifiChange_updates {c : Client.Context} {env : Client.Outcomes} {p : Packet}
    {s : Client.State} {text token : String} {accepted : Nat → Bool} {value : List UInt8}
    {actions : List Client.Action} (changed : c.wifiChange env p s text accepted = some actions)
    (member : .wifiUpdateHostapdConfFile token value ∈ actions)
    : token = text ∧ accepted p.pktLength = true ∧ value = newValue p := by
  have answers (errCode : Client.ReconnErrCode)
      : Client.Action.wifiUpdateHostapdConfFile token value ≠ c.respond p errCode := by
    unfold Client.Context.respond Client.sendReconnResponse
    split_ifs <;> exact Client.Action.noConfusion
  by_cases valid : accepted p.pktLength = true
  · rcases Client.State.mem_wifiChange changed member
      with ⟨disconnects, disconnected, slaves⟩ | update | ⟨errCode, answer⟩ | reload | reset
    · obtain ⟨fd, packet | closes⟩ :=
        Client.State.mem_disconnectAllClients disconnected slaves
      · cases packet
      · cases closes
    · injection update with token' value'
      exact ⟨token', valid, value'⟩
    · exact absurd answer (answers errCode)
    · cases reload
    · cases reset
  · rw [Client.Context.wifiChange, if_neg valid] at changed
    obtain rfl := Option.some.inj changed
    simp only [List.mem_cons, List.not_mem_nil, or_false] at member
    rcases member with answer | reset
    · exact absurd answer (answers _)
    · cases reset

namespace Setting

variable {setting : Setting} {p : Packet} {value conf : List UInt8}

/-- A value that a client's request hands over is one that the setting accepts. -/
theorem request_updates {c : Client.Context} {env : Client.Outcomes} {s : Client.State}
    {token : String} {actions : List Client.Action}
    (requested : setting.request c env p s = some actions)
    (member : .wifiUpdateHostapdConfFile token value ∈ actions)
    : ascii token = setting.token ∧ setting.accepts p.pktLength = true ∧ value = newValue p := by
  cases setting with
  | ssid =>
      have changed : c.wifiChange env p s wifiSsidToken ssid.accepts = some actions := requested
      obtain ⟨rfl, accepted, same⟩ := wifiChange_updates changed member
      exact ⟨rfl, accepted, same⟩
  | passwd =>
      have changed : c.wifiChange env p s wifiPasswdToken passwd.accepts = some actions :=
        requested
      obtain ⟨rfl, accepted, same⟩ := wifiChange_updates changed member
      exact ⟨rfl, accepted, same⟩

/-- A new value is a string that is not too long. -/
theorem newValue_short (accepted : setting.accepts p.pktLength = true)
    : (newValue p).length ≤ wifiPasswdMaxLength :=
  calc (newValue p).length ≤ (p.payload p.pktLength).length := (cString_starts _).length_le
    _ = p.pktLength := by rw [Packet.payload, List.length_map, List.length_range]
    _ ≤ wifiPasswdMaxLength := length_le_of_accepts accepted

end Setting

-----------------------------------------------------------------------------------------
-- The other lines
-----------------------------------------------------------------------------------------

theorem length_flatMap_cString_le (found : List (List UInt8))
    : (found.flatMap cString).length ≤ found.flatten.length := by
  induction found with
  | nil => exact le_rfl
  | cons line more ih =>
      rw [List.flatMap_cons, List.flatten_cons, List.length_append, List.length_append]
      exact Nat.add_le_add (cString_starts line).length_le ih

/-- Written as strings, lines lose nothing exactly if they are strings, by induction on them. -/
theorem flatMap_cString_eq_flatten_iff {found : List (List UInt8)}
    : found.flatMap cString = found.flatten ↔ ∀ line ∈ found, 0 ∉ line := by
  induction found with
  | nil => exact iff_of_true rfl (List.forall_mem_nil _)
  | cons line more ih =>
      rw [List.flatMap_cons, List.flatten_cons, List.forall_mem_cons, ← ih,
        ← cString_eq_self_iff]
      refine ⟨fun same => ?_, fun ⟨here, later⟩ => by rw [here, later]⟩
      have total := congrArg List.length same
      rw [List.length_append, List.length_append] at total
      have first : (cString line).length ≤ line.length := (cString_starts line).length_le
      have others := length_flatMap_cString_le more
      exact List.append_inj same (by omega)

namespace Setting

variable {setting : Setting} {value conf : List UInt8}

/-- What is written is cut into its lines as they are to be exactly if the other lines are
strings, and the value is a single line or is not used.
-/
theorem lines_rewritten_iff (terminated : 0 ∉ value)
    : lines newline (rewritten setting.token value conf)
          = (lines newline conf).map (replaced setting.token value)
      ↔ (∀ line ∈ lines newline conf, ¬ setting.token <+: line → 0 ∉ line)
        ∧ (newline ∉ value ∨ ∀ line ∈ lines newline conf, ¬ setting.token <+: line) := by
  have strings
      : (∀ line ∈ (lines newline conf).map (replaced setting.token value), 0 ∉ line)
        ↔ ∀ line ∈ lines newline conf, ¬ setting.token <+: line → 0 ∉ line := by
    rw [List.forall_mem_map]
    exact forall₂_congr fun _ _ => replaced_terminated_iff terminated
  rw [← strings, ← flatMap_cString_eq_flatten_iff]
  refine ⟨fun same => ⟨?_, ?_⟩, fun ⟨kept, single⟩ => ?_⟩
  · rw [← same, flatten_lines, same]
    rfl
  · by_contra both
    obtain ⟨inside, used⟩ := not_or.mp both
    push Not at inside used
    obtain ⟨line, member, isToken⟩ := used
    have written
        : setting.token ++ value ++ [newline]
          ∈ lines newline (rewritten setting.token value conf) := by
      rw [same]
      exact List.mem_map.mpr ⟨line, member, if_pos isToken⟩
    have apart := (cut_lines newline _).not_mem_dropLast written
    rw [List.dropLast_concat] at apart
    exact apart (List.mem_append_right _ inside)
  · rw [rewritten, kept]
    refine ((cut_lines newline conf).map fun line member => ?_).lines_flatten
    by_cases isToken : setting.token <+: line
    · refine .inr ⟨setting.token ++ value, fun inside => ?_, if_pos isToken⟩
      rcases List.mem_append.mp inside with key | new
      · exact setting.newline_not_mem_token key
      · rcases single with plain | unused
        · exact plain new
        · exact unused line member isToken
    · exact .inl (if_neg isToken)

/-- An update keeps the lines exactly under this condition. -/
theorem frameLaw_iff (setting : Setting) (conf : List UInt8) {p : Packet}
    (accepted : setting.accepts p.pktLength = true)
    : setting.FrameLaw (newValue p) conf ↔ setting.Framed (newValue p) conf := by
  have terminated : 0 ∉ newValue p := not_mem_cString _
  rw [FrameLaw, updates_iff (newValue_short accepted) terminated, lines_rewritten_iff terminated]
  exact ⟨fun ⟨fits, strings, single⟩ => ⟨fits, strings, single⟩,
    fun framed => ⟨framed.fits, framed.strings, framed.single⟩⟩

end Setting

/-- A WIFI_CHANGE_SSID_REQ with this payload. -/
def ssidPacket (payload : List UInt8) : Packet where
  messageId := (0x09, 0x03)
  dataLength := (0, UInt8.ofNat payload.length)
  dataPayload := fun i => payload.getD i 0

/-- A file with a setting before the name of the network. -/
def networkConf : List UInt8 := ascii "channel=6\nssid=a\n"

/-- The network gets a new name. -/
theorem frameLaw_renamed
    : Setting.ssid.FrameLaw (newValue (ssidPacket (ascii "net"))) networkConf := by
  have accepted : Setting.ssid.accepts (ssidPacket (ascii "net")).pktLength = true := by decide
  refine (Setting.frameLaw_iff .ssid networkConf accepted).mpr ⟨⟨?_, ?_, ?_⟩, ?_, .inl ?_⟩
  all_goals decide +kernel

/-- A name with a newline adds a setting. -/
theorem frameLaw_not
    : ¬ ∀ (setting : Setting) (conf : List UInt8) (p : Packet),
        setting.accepts p.pktLength = true → setting.FrameLaw (newValue p) conf := by
  intro always
  obtain ⟨written, updated, law⟩ :=
    always .ssid networkConf (ssidPacket (ascii "n\nauth=0")) (by decide +kernel)
      (List.Vector.replicate _ 0) (List.Vector.replicate _ 0)
  have wrote
      : wifiUpdateHostapdConfFile Setting.ssid.token
            (newValue (ssidPacket (ascii "n\nauth=0"))) networkConf
            (.onHeap (List.Vector.replicate _ 0) (List.Vector.replicate _ 0))
          = some (ascii "channel=6\nssid=n\nauth=0\n", reconnSuccess) := by
    decide +kernel
  obtain rfl : ascii "channel=6\nssid=n\nauth=0\n" = written :=
    congrArg Prod.fst (Option.some.inj (wrote.symm.trans updated))
  exact absurd law (by decide +kernel)

end Reconn.Wifi
