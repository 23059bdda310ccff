import Usbmuxd.Clients.Answers

/-!
# Two ways to ask for a connection

A client asks for a connection with a `MESSAGE_CONNECT` or with a property list, and both ways
end at `start_connect`. On either way the port is in network byte order. The property list has
it, and the device ID, as integers of 64 bits, which are cut to size; the port is then
converted with `ntohs`. The message has both in fields that fit them, and hands on the port as
it is.

So the two call `start_connect` with the same port only where the order of the bytes makes no
difference, and a value that does not fit is not refused (`Usbmuxd.Answers.connects_agree_iff`).

Nothing in the source says that the two ways should agree, but a client that changes from one to
the other asks for the same thing, and will expect the same device and the same port. What the
difference comes to depends on the port. A port whose two bytes are equal is taken for the same
by both, and any other is taken for its mirror image by one of them. Values that do not fit are
a second difference: the message cannot have them, and the property list has them cut.
-/

namespace Usbmuxd

namespace Answers

open Requests

/-- What `processData` makes of a property list with the `MessageType` `Connect`. Both values
are cut to the size of the parameter they are given to, and nobody looks at what has been cut
off. -/
def plistConnect (tag : ℕ) (fields : Fields) : Interpretation :=
  match fields.deviceID.bind Node.getUintVal, fields.portNumber.bind Node.getUintVal with
  | none, _ => .result tag resultBadDev
  | some _, none => .result tag resultBadDev
  -- `(uint32_t)tmpDeviceID` and `ntohs((uint16_t)tmpPortNumber)`
  | some deviceID, some portNumber => .connect (deviceID % 2 ^ 32) (ntohs portNumber)

/-- The bytes of a `usbmuxd_connect_request`. Every field is written in little endian, the port
too, so that `port` is the number which the daemon finds in the field. -/
def connectMessage (hdr : Header) (deviceId port reserved : ℕ) : List UInt8 :=
  Endian.toLe 4 hdr.length ++ Endian.toLe 4 hdr.version ++ Endian.toLe 4 hdr.message ++
    Endian.toLe 4 hdr.tag ++ Endian.toLe 4 deviceId ++ Endian.toLe 2 port ++
    Endian.toLe 2 reserved

/-- A property list that asks for a connection, with both numbers given as such. -/
structure Fields.Connects (fields : Fields) (deviceId port : ℕ) : Prop where
  deviceID : fields.deviceID = some (.uint deviceId)
  portNumber : fields.portNumber = some (.uint port)

/-- A message that asks for a connection. Of the bytes only the fields matter, and nothing is
said of `reserved`. -/
structure MessageConnects (mem : ℕ → UInt8) (deviceId port : ℕ) : Prop where
  supported : (header mem).Supported
  message : (header mem).message = messageConnect
  deviceId : field mem 16 4 = deviceId
  port : field mem 20 2 = port

/-- **The two ways agree** on a device and a port: what fits into the fields of a message is
taken for the same by both, and what does not fit is refused. -/
structure ConnectsAgree (deviceId port : ℕ) : Prop where
  /-- What fits is taken for the same by both. -/
  same : deviceId < 2 ^ 32 → port < 2 ^ 16 →
    ∀ mem tag fields, MessageConnects mem deviceId port → fields.Connects deviceId port →
      plistConnect tag fields = Requests.processData mem
  /-- What does not fit is refused. -/
  refused : 2 ^ 32 ≤ deviceId ∨ 2 ^ 16 ≤ port →
    ∀ tag fields, fields.Connects deviceId port →
      ∃ code, plistConnect tag fields = .result tag code

variable {w : World} {mem : ℕ → UInt8} {fields : Fields} {tag deviceId port : ℕ}

/-! ### What is called -/

/-- A property list that is taken for a connect request leads to `start_connect`, with these
values and no others. -/
theorem processPlist_of_connect (h : plistConnect tag fields = .connect deviceId port) :
    processPlist w tag fields .connect = connectionLoc w tag deviceId port := by
  rw [processPlist]
  rw [plistConnect] at h
  cases hdevice : fields.deviceID.bind Node.getUintVal with
  | none =>
    rw [hdevice] at h
    cases h
  | some deviceID =>
    cases hport : fields.portNumber.bind Node.getUintVal with
    | none =>
      rw [hdevice, hport] at h
      cases h
    | some portNumber =>
      rw [hdevice, hport] at h
      cases h
      rfl

/-- One that is not is answered with an error, and no connection is attempted. -/
theorem processPlist_of_result {tag' code : ℕ} (h : plistConnect tag fields = .result tag' code) :
    processPlist w tag fields .connect = sendResult tag' code := by
  rw [processPlist]
  rw [plistConnect] at h
  cases hdevice : fields.deviceID.bind Node.getUintVal with
  | none =>
    rw [hdevice] at h
    cases h
    rfl
  | some deviceID =>
    cases hport : fields.portNumber.bind Node.getUintVal with
    | none =>
      rw [hdevice, hport] at h
      cases h
      rfl
    | some portNumber =>
      rw [hdevice, hport] at h
      cases h

theorem Fields.Connects.plistConnect (h : fields.Connects deviceId port) :
    plistConnect tag fields = .connect (deviceId % 2 ^ 32) (ntohs port) := by
  rw [Answers.plistConnect, h.deviceID, h.portNumber]
  rfl

theorem MessageConnects.processData (h : MessageConnects mem deviceId port) :
    Requests.processData mem = .connect deviceId port := by
  rw [processData_connect h.supported h.message, h.deviceId, h.port]

/-! ### The two agree -/

/-- The order of the bytes makes no difference when they are the same. There are 256 such
ports. -/
theorem ntohs_eq_self_iff (h : port < 2 ^ 16) : ntohs port = port ↔ port % 256 = port / 256 := by
  rw [ntohs]
  omega

/-- A message that is received as it was made: reading the fields back gives what was put into
them. -/
theorem messageConnects_write {hdr : Header} (hv : hdr.Supported)
    (hm : hdr.message = messageConnect) (hdevice : deviceId < 2 ^ 32) (hport : port < 2 ^ 16)
    (mem : ℕ → UInt8) (reserved : ℕ) :
    MessageConnects (Memory.write mem 0 (connectMessage hdr deviceId port reserved))
      deviceId port := by
  have hread : ∀ before after width n, connectMessage hdr deviceId port reserved =
      before ++ Endian.toLe width n ++ after →
      field (Memory.write mem 0 (connectMessage hdr deviceId port reserved)) before.length width =
        n % 256 ^ width := by
    intro before after width n heq
    have hfield := Memory.read_write_field mem 0 before (Endian.toLe width n) after
    rw [Nat.zero_add, ← heq, Endian.length_toLe] at hfield
    rw [field, hfield, Endian.le_toLe]
  have hversion := hread (Endian.toLe 4 hdr.length) _ 4 hdr.version
    (by simp only [connectMessage, List.append_assoc]; rfl)
  have hmessage := hread (Endian.toLe 4 hdr.length ++ Endian.toLe 4 hdr.version) _ 4 hdr.message
    (by simp only [connectMessage, List.append_assoc]; rfl)
  have hdeviceId := hread (Endian.toLe 4 hdr.length ++ Endian.toLe 4 hdr.version ++
    Endian.toLe 4 hdr.message ++ Endian.toLe 4 hdr.tag) _ 4 deviceId
    (by simp only [connectMessage, List.append_assoc]; rfl)
  have hportnum := hread (Endian.toLe 4 hdr.length ++ Endian.toLe 4 hdr.version ++
    Endian.toLe 4 hdr.message ++ Endian.toLe 4 hdr.tag ++ Endian.toLe 4 deviceId) _ 2 port
    (by simp only [connectMessage, List.append_assoc]; rfl)
  simp only [List.length_append, Endian.length_toLe] at hversion hmessage hdeviceId hportnum
  refine ⟨?_, ?_, ?_, ?_⟩
  · rw [Header.Supported]
    change field _ 4 4 = 0 ∨ field _ 4 4 = 1
    rcases hv with hv | hv <;> rw [hversion, hv] <;> simp
  · change field _ 8 4 = messageConnect
    rw [hmessage, hm]
    rfl
  · rw [hdeviceId]
    omega
  · rw [hportnum]
    omega

/-- **The two ways agree** where everything fits and the bytes of the port are the same, and
nowhere else. -/
theorem connects_agree_iff (deviceId port : ℕ) :
    ConnectsAgree deviceId port ↔
      deviceId < 2 ^ 32 ∧ port < 2 ^ 16 ∧ port % 256 = port / 256 := by
  have hfields : ∃ fields : Fields, fields.Connects deviceId port :=
    ⟨⟨none, none, some (.uint deviceId), some (.uint port), none, none⟩, rfl, rfl⟩
  obtain ⟨fields, hconnects⟩ := hfields
  constructor
  · intro h
    by_cases hfit : 2 ^ 32 ≤ deviceId ∨ 2 ^ 16 ≤ port
    · obtain ⟨code, hcode⟩ := h.refused hfit 0 fields hconnects
      rw [hconnects.plistConnect] at hcode
      cases hcode
    · obtain ⟨hdevice, hport⟩ := not_or.mp hfit
      rw [Nat.not_le] at hdevice hport
      refine ⟨hdevice, hport, (ntohs_eq_self_iff hport).mp ?_⟩
      have hmessage : MessageConnects (Memory.write (fun _ => 0) 0
          (connectMessage ⟨24, 1, messageConnect, 0⟩ deviceId port 0)) deviceId port :=
        messageConnects_write (Or.inr rfl) rfl hdevice hport _ _
      have hsame := h.same hdevice hport _ 0 fields hmessage hconnects
      rw [hconnects.plistConnect, hmessage.processData] at hsame
      exact (Interpretation.connect.inj hsame).2
  · rintro ⟨hdevice, hport, hbytes⟩
    constructor
    · intro _ _ mem tag fields hmessage hconnects
      rw [hconnects.plistConnect, hmessage.processData, Nat.mod_eq_of_lt hdevice,
        (ntohs_eq_self_iff hport).mpr hbytes]
    · rintro (hle | hle)
      · exact absurd hdevice (Nat.not_lt.mpr hle)
      · exact absurd hport (Nat.not_lt.mpr hle)

/-- **Port 22 and port 5632**: a message and a property list with the same values. -/
theorem connects_disagree :
    Requests.processData connectBuffer = .connect 7 5632 ∧ ntohs 5632 = 22 ∧
      ¬ConnectsAgree 7 5632 := by
  refine ⟨by decide, by decide, ?_⟩
  intro h
  have hmessage : MessageConnects connectBuffer 7 5632 :=
    ⟨Or.inr (by decide), by decide, by decide, by decide⟩
  have hconnects : Fields.Connects
      ⟨none, none, some (.uint 7), some (.uint 5632), none, none⟩ 7 5632 := ⟨rfl, rfl⟩
  have hsame := h.same (by decide) (by decide) _ 0 _ hmessage hconnects
  rw [hconnects.plistConnect, hmessage.processData] at hsame
  exact absurd (Interpretation.connect.inj hsame).2 (by decide)

end Answers

end Usbmuxd
