import Usbmuxd.Clients.Framing
import Usbmuxd.Library.Memory

/-!
# Where a request is read from

`recv_data` hands `processData` a pointer to the beginning of `_recvbuffer`, once
there are as many bytes in it as the header says and no less than a header. What is
behind these bytes in the buffer was left there by earlier messages, and what is
behind the buffer belongs to someone else.

`processData` trusts the header to describe a message of its type. A property list
begins behind the header and has the rest of the length, and a connect request has the
device and the port behind the header.

## What goes wrong

The length in the header may be anything up to the number of received bytes. Below the
size of a header, the size of the property list wraps around; and a connect request
that ends before its port takes the rest from what was in the buffer before
(`Usbmuxd.Requests.from_own_bytes_iff`).
-/

namespace Usbmuxd

namespace Requests

open Client

/-! ### Messages -/

/-- `usbmuxd_header`, of which all four fields are read, in the byte order of the machine. -/
structure Header where
  /-- `length`, of the message with the header. -/
  length : ℕ
  /-- `version`. -/
  version : ℕ
  /-- `message`. -/
  message : ℕ
  /-- `tag`. -/
  tag : ℕ
  deriving DecidableEq

/-- `MESSAGE_CONNECT`. -/
def messageConnect : ℕ := 2

/-- `MESSAGE_LISTEN`. -/
def messageListen : ℕ := 3

/-- `MESSAGE_PLIST`. -/
def messagePlist : ℕ := 8

/-- `RESULT_BADCOMMAND`. -/
def resultBadCommand : ℕ := 1

/-- `RESULT_BADVERSION`. -/
def resultBadVersion : ℕ := 6

/-- The offset of the field behind `device_id` and `port` in a `usbmuxd_connect_request`. A
message that ends there has all that is read of it. -/
def offsetReserved : ℕ := sizeofHeader + 4 + 2

/-- What `processData` takes a message for, before anything is done about it. Two messages that
are taken for the same are treated alike from here on. -/
inductive Interpretation
  /-- An error: `send_result` with this code. -/
  | result (tag code : ℕ)
  /-- A property list, given as the bytes handed to `plist_from_xml`. -/
  | plist (payload : List UInt8)
  /-- `PLIST_CLIENT_LISTEN_LOC`. -/
  | listen
  /-- `PLIST_CLIENT_CONNECTION_LOC`. -/
  | connect (deviceId portnum : ℕ)
  deriving DecidableEq

/-! ### `Client::processData` -/

section Code

variable (mem : ℕ → UInt8)

/-- A field of the buffer. It is read wherever it is, inside the message or behind it, since
nobody asks how long the message is. -/
def field (offset width : ℕ) : ℕ := Endian.le (Memory.read mem offset width)

/-- `*hdr`, the first sixteen bytes of the buffer. -/
def header : Header where
  length := field mem 0 4
  version := field mem 4 4
  message := field mem 8 4
  tag := field mem 12 4

/-- `payload_size = hdr->length - sizeof(struct usbmuxd_header)`, a `uint32_t`. For a length
below that of a header the result is just under 2³². -/
def payloadSize (length : ℕ) : ℕ := (length + 2 ^ 32 - sizeofHeader) % 2 ^ 32

/-- `Client::processData`, up to what it does with the message. The buffer and what
follows it are given by their bytes. -/
def processData : Interpretation :=
  let hdr := header mem
  if hdr.version ≠ 0 ∧ hdr.version ≠ 1 then .result hdr.tag resultBadVersion
  else if hdr.message = messagePlist then
    .plist (Memory.read mem sizeofHeader (payloadSize hdr.length))
  else if hdr.message = messageListen then .listen
  else if hdr.message = messageConnect then .connect (field mem 16 4) (field mem 20 2)
  else .result hdr.tag resultBadCommand

end Code

/-! ### Being read from one's own bytes -/

/-- The received bytes are at the beginning of the buffer. What is behind them is left open, and
with it all that earlier messages have left there. -/
def Holds (mem : ℕ → UInt8) (buf : List UInt8) : Prop := Memory.read mem 0 buf.length = buf

/-- **A message is interpreted from its own bytes**: the property list is what follows
the header in as many received bytes as the length says, a connect request is long
enough for its fields, and nothing behind the message has a part in it. -/
structure FromOwnBytes (buf : List UInt8) (mem : ℕ → UInt8) : Prop where
  /-- The message has been received. -/
  received : (header mem).length ≤ buf.length
  /-- The size of the property list does not wrap around. -/
  no_underflow : ∀ payload, processData mem = .plist payload →
    sizeofHeader + payload.length = (header mem).length
  /-- The property list lies inside the message. -/
  plist_inside : ∀ payload, processData mem = .plist payload →
    payload = (buf.take (header mem).length).drop sizeofHeader
  /-- The fields of a connect request are there. -/
  connect_inside : ∀ deviceId portnum, processData mem = .connect deviceId portnum →
    offsetReserved ≤ (header mem).length
  /-- Other bytes behind the message make no difference. -/
  nothing_else : ∀ mem' : ℕ → UInt8,
    (∀ i < max sizeofHeader (header mem).length, mem' i = mem i) →
      processData mem' = processData mem

/-- The version is one that `processData` goes on with. A message of any other version is
answered by its header alone. -/
def Header.Supported (hdr : Header) : Prop := hdr.version = 0 ∨ hdr.version = 1

/-- **The length suits the type**: a property list has a header in front of it, and a
connect request has its fields. -/
structure Header.Suits (hdr : Header) : Prop where
  /-- Of a property list. -/
  plist : hdr.message = messagePlist → sizeofHeader ≤ hdr.length
  /-- Of a connect request. -/
  connect : hdr.message = messageConnect → offsetReserved ≤ hdr.length

/-! ### What is read -/

section Reading

variable {mem mem' : ℕ → UInt8} {buf bytes : List UInt8} {offset width length : ℕ}

theorem field_congr (h : ∀ i < offset + width, mem' i = mem i) :
    field mem' offset width = field mem offset width := by
  have hread : Memory.read mem' offset width = Memory.read mem offset width :=
    Memory.read_congr fun i hi => h _ (Nat.add_lt_add_left hi offset)
  rw [field, field, hread]

/-- The header is in the first `sizeof(usbmuxd_header)` bytes, so that what is behind these has
no part in it. -/
theorem header_congr (h : ∀ i < sizeofHeader, mem' i = mem i) : header mem' = header mem := by
  have hfield : ∀ offset ≤ 12, field mem' offset 4 = field mem offset 4 := by
    intro offset hle
    refine field_congr fun i hi => h i ?_
    rw [sizeofHeader]
    omega
  rw [header, header, hfield 0 (by decide), hfield 4 (by decide), hfield 8 (by decide),
    hfield 12 (by decide)]

/-- The length in a header fits into 32 bits, whatever the bytes are. -/
theorem header_length_lt (mem : ℕ → UInt8) : (header mem).length < 2 ^ 32 := by
  have hlen : (Memory.read mem 0 4).length = 4 := Memory.length_read mem 0 4
  have hdigits : ∀ n ∈ (Memory.read mem 0 4).map UInt8.toNat, n < 256 := by
    simpa using fun b _ => b.toNat_lt
  have hlt := Nat.ofDigits_lt_base_pow_length (by decide) hdigits
  rw [List.length_map, hlen] at hlt
  exact hlt

/-- What is read from the received bytes is a slice of them, as long as it ends where they do or
before. -/
theorem Holds.read (h : Holds mem buf) (hle : offset + width ≤ buf.length) :
    Memory.read mem offset width = (buf.take (offset + width)).drop offset := by
  obtain ⟨rest, hrest⟩ := Nat.exists_eq_add_of_le hle
  have hbuf : Memory.read mem 0 offset ++ Memory.read mem offset width ++
      Memory.read mem (offset + width) rest = buf := by
    rw [Holds, hrest, Memory.read_add, Memory.read_add, Nat.zero_add, Nat.zero_add] at h
    exact h
  rw [← hbuf, List.take_left' (by simp), List.drop_left' (by simp)]

theorem Holds.header_length (h : Holds mem buf) (hle : sizeofHeader ≤ buf.length) :
    (header mem).length = hdrLength buf := by
  have hfour : 0 + 4 ≤ buf.length := Nat.le_trans (by decide) hle
  rw [header, hdrLength, field, h.read hfour, List.drop_zero]

/-- The size of a property list that has a header does not wrap around, and the list ends where
the message does. -/
theorem payloadSize_of_le (hlt : length < 2 ^ 32) (h : sizeofHeader ≤ length) :
    sizeofHeader + payloadSize length = length := by
  rw [payloadSize]
  rw [sizeofHeader] at h ⊢
  omega

end Reading

/-! ### What a message is taken for -/

section Interpreting

variable {mem : ℕ → UInt8} {buf : List UInt8} {sock sock' : Socket}

theorem processData_plist (hv : (header mem).Supported)
    (hm : (header mem).message = messagePlist) : processData mem =
      .plist (Memory.read mem sizeofHeader (payloadSize (header mem).length)) := by
  have hsupported : ¬((header mem).version ≠ 0 ∧ (header mem).version ≠ 1) :=
    fun hne => hv.elim hne.1 hne.2
  rw [processData, if_neg hsupported, if_pos hm]

theorem processData_connect (hv : (header mem).Supported)
    (hm : (header mem).message = messageConnect) :
    processData mem = .connect (field mem 16 4) (field mem 20 2) := by
  have hsupported : ¬((header mem).version ≠ 0 ∧ (header mem).version ≠ 1) :=
    fun hne => hv.elim hne.1 hne.2
  rw [processData, if_neg hsupported, hm, if_neg (by decide), if_neg (by decide), if_pos rfl]

/-- **How a message is taken**: for a property list or a connect request, if its header
says so, and otherwise for something its header alone decides. -/
theorem processData_cases (mem : ℕ → UInt8) :
    (header mem).Supported ∧ (header mem).message = messagePlist ∨
    (header mem).Supported ∧ (header mem).message = messageConnect ∨
    ((∀ payload, processData mem ≠ .plist payload) ∧
      (∀ deviceId portnum, processData mem ≠ .connect deviceId portnum) ∧
      ∀ mem', header mem' = header mem → processData mem' = processData mem) := by
  by_cases hv : (header mem).Supported
  swap
  · have hne : (header mem).version ≠ 0 ∧ (header mem).version ≠ 1 := not_or.mp hv
    have hbad : ∀ mem', header mem' = header mem →
        processData mem' = .result (header mem).tag resultBadVersion := by
      intro mem' hh
      rw [processData, hh, if_pos hne]
    refine .inr (.inr ⟨?_, ?_, fun mem' hh => (hbad mem' hh).trans (hbad mem rfl).symm⟩)
    · rw [hbad mem rfl]
      nofun
    · rw [hbad mem rfl]
      nofun
  by_cases hplist : (header mem).message = messagePlist
  · exact .inl ⟨hv, hplist⟩
  by_cases hconnect : (header mem).message = messageConnect
  · exact .inr (.inl ⟨hv, hconnect⟩)
  have hsupported : ¬((header mem).version ≠ 0 ∧ (header mem).version ≠ 1) :=
    fun hne => hv.elim hne.1 hne.2
  have hother : ∀ mem', header mem' = header mem → processData mem' =
      if (header mem).message = messageListen then .listen
      else .result (header mem).tag resultBadCommand := by
    intro mem' hh
    rw [processData, hh, if_neg hsupported, if_neg hplist, if_neg hconnect]
  refine .inr (.inr ⟨?_, ?_, fun mem' hh => (hother mem' hh).trans (hother mem rfl).symm⟩)
  · rw [hother mem rfl]
    split
    · nofun
    · nofun
  · rw [hother mem rfl]
    split
    · nofun
    · nofun

/-- `recv_data` hands on a header at least, and as many bytes as it says. This is all that
`processData` may rely on. -/
theorem gather_received (h : gather sock = some (.ok (buf, sock'))) :
    sizeofHeader ≤ buf.length ∧ hdrLength buf ≤ buf.length := by
  obtain ⟨hdone, -, ps, ⟨rfl, hheader, -⟩, -⟩ := gather_ok h
  refine ⟨Nat.le_trans hheader ?_, hdone⟩
  have hsplit : flat ps = flat (ps.take 2) ++ flat (ps.drop 2) := by
    rw [← flat_append, List.take_append_drop]
  rw [hsplit, List.length_append]
  exact Nat.le_add_right _ _

/-- A property list that has a header in front of it is the rest of the message. It is the same
then in any other buffer that holds the message. -/
theorem FromOwnBytes.plist (hmem : Holds mem buf) (hreceived : (header mem).length ≤ buf.length)
    (hv : (header mem).Supported) (hm : (header mem).message = messagePlist)
    (hle : sizeofHeader ≤ (header mem).length) : FromOwnBytes buf mem := by
  have hread := processData_plist hv hm
  have hsize := payloadSize_of_le (header_length_lt mem) hle
  refine ⟨hreceived, ?_, ?_, ?_, ?_⟩
  · rintro payload hp
    obtain rfl := Interpretation.plist.inj (hread.symm.trans hp)
    rw [Memory.length_read, hsize]
  · rintro payload hp
    obtain rfl := Interpretation.plist.inj (hread.symm.trans hp)
    rw [hmem.read (by omega), hsize]
  · intro deviceId portnum hc
    exact nomatch hread.symm.trans hc
  · intro mem' hagree
    have hh : header mem' = header mem :=
      header_congr fun i hi => hagree i (lt_max_of_lt_left hi)
    rw [hread, processData_plist (hh ▸ hv) (hh ▸ hm), hh]
    refine congrArg _ (Memory.read_congr fun i hi => hagree _ (lt_max_of_lt_right ?_))
    omega

/-- A connect request whose fields are inside the message. What the buffer holds behind them is
not read. -/
theorem FromOwnBytes.connect (hreceived : (header mem).length ≤ buf.length)
    (hv : (header mem).Supported) (hm : (header mem).message = messageConnect)
    (hle : offsetReserved ≤ (header mem).length) : FromOwnBytes buf mem := by
  have hread := processData_connect hv hm
  refine ⟨hreceived, ?_, ?_, fun _ _ _ => hle, ?_⟩
  · intro payload hp
    exact nomatch hread.symm.trans hp
  · intro payload hp
    exact nomatch hread.symm.trans hp
  · intro mem' hagree
    have hh : header mem' = header mem :=
      header_congr fun i hi => hagree i (lt_max_of_lt_left hi)
    rw [hread, processData_connect (hh ▸ hv) (hh ▸ hm)]
    rw [offsetReserved, sizeofHeader] at hle
    rw [field_congr fun i hi => hagree i (lt_max_of_lt_right (by omega)),
      field_congr fun i hi => hagree i (lt_max_of_lt_right (by omega))]

/-- **When a request is interpreted from its own bytes.** Whatever `recv_data` hands to
`processData`, in a buffer with whatever else in it, the request is interpreted from its
own bytes if and only if its version is not supported or its length suits its type. -/
theorem from_own_bytes_iff (h : gather sock = some (.ok (buf, sock'))) (hmem : Holds mem buf) :
    FromOwnBytes buf mem ↔ ((header mem).Supported → (header mem).Suits) := by
  obtain ⟨hheader, hdone⟩ := gather_received h
  have hreceived : (header mem).length ≤ buf.length := by
    rw [hmem.header_length hheader]
    exact hdone
  constructor
  · intro hown hv
    refine ⟨fun hm => ?_, fun hm => hown.connect_inside _ _ (processData_connect hv hm)⟩
    have hsize := hown.no_underflow _ (processData_plist hv hm)
    rw [← hsize]
    exact Nat.le_add_right _ _
  · intro hsuits
    rcases processData_cases mem with ⟨hv, hm⟩ | ⟨hv, hm⟩ | ⟨hplist, hconnect, hsame⟩
    · exact .plist hmem hreceived hv hm ((hsuits hv).plist hm)
    · exact .connect hreceived hv hm ((hsuits hv).connect hm)
    · -- nothing behind the header is looked at
      refine ⟨hreceived, fun payload hp => absurd hp (hplist payload),
        fun payload hp => absurd hp (hplist payload),
        fun deviceId portnum hc => absurd hc (hconnect deviceId portnum), ?_⟩
      intro mem' hagree
      exact hsame mem' (header_congr fun i hi => hagree i (lt_max_of_lt_left hi))

/-- A connect request, for port 22 of device 7. -/
def connectRequest : Request where
  bytes := [24, 0, 0, 0, 1, 0, 0, 0, 2, 0, 0, 0, 1, 0, 0, 0, 7, 0, 0, 0, 0, 22, 0, 0]
  hdrLength_eq := by decide
  le_length := by decide
  length_le := by decide

/-- A buffer in which a request has been received, with zeros behind it. -/
def connectBuffer : ℕ → UInt8 := Memory.write (fun _ => 0) 0 connectRequest.bytes

/-- A connect request that has its fields is interpreted from its own bytes: its length is 24,
and its port ends at 22. -/
theorem from_own_bytes_iff_connect : FromOwnBytes connectRequest.bytes connectBuffer := by
  have hgather : gather ⟨[⟨connectRequest.bytes, by decide⟩], true⟩ =
      some (.ok (connectRequest.bytes, ⟨[], true⟩)) := by decide
  have hholds : Holds connectBuffer connectRequest.bytes := Memory.read_write _ 0 _
  exact (from_own_bytes_iff hgather hholds).mpr fun _ => ⟨by decide, by decide⟩

/-- The header of a connect request, with no fields behind it. As its length says so,
`recv_data` does not wait for any. -/
def bareConnect : List UInt8 := [16, 0, 0, 0, 1, 0, 0, 0, 2, 0, 0, 0, 1, 0, 0, 0]

/-- The header of a property list, which gives less than its own size. `recv_data` has received
enough of it at once. -/
def shortPlist : List UInt8 := [8, 0, 0, 0, 1, 0, 0, 0, 8, 0, 0, 0, 1, 0, 0, 0]

/-- **Requests that are read from elsewhere**: after a connect request, one without its
fields is taken for a request for the same device and port; and a property list whose
length is 8 has a size of nearly 4 GiB. -/
theorem reads_earlier_message :
    gather ⟨[⟨bareConnect, by decide⟩], true⟩ = some (.ok (bareConnect, ⟨[], true⟩)) ∧
    processData (Memory.write connectBuffer 0 bareConnect) = processData connectBuffer ∧
    ¬ FromOwnBytes bareConnect (Memory.write connectBuffer 0 bareConnect) ∧
    gather ⟨[⟨shortPlist, by decide⟩], true⟩ = some (.ok (shortPlist, ⟨[], true⟩)) ∧
    payloadSize (header (Memory.write connectBuffer 0 shortPlist)).length = 2 ^ 32 - 8 ∧
    ¬ FromOwnBytes shortPlist (Memory.write connectBuffer 0 shortPlist) := by
  refine ⟨by decide, by decide, ?_, by decide, by decide, ?_⟩
  · intro hown
    exact absurd (hown.connect_inside 7 (22 * 256) (by decide)) (by decide)
  · intro hown
    have hsize := hown.no_underflow _ (processData_plist (.inr (by decide)) (by decide))
    rw [Memory.length_read] at hsize
    exact absurd hsize (by decide)

end Interpreting

end Requests

end Usbmuxd
