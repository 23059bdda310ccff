import Usbmuxd.Devices.ReceiveGate
import Usbmuxd.Library.Endian
import Usbmuxd.Library.Memory

/-!
# Mux packets, byte by byte

What goes over the bulk endpoints is built by `USBDevice::send_packet` and taken
apart by `USBDevice::device_data_input`. Both compute the size of the mux header
from the negotiated version, and the offsets of what follows from that, each for
itself.

A packet is received into a transfer buffer of which only the first `length` bytes
are new. Here the buffer is a memory (`Memory.read`), so that what the code reads
past the packet is whatever the memory holds there. What `device_data_input` hands
on it hands on as pointers into the buffer; a `Usbmuxd.Dispatch` of regions
(`Usbmuxd.Slice`) says where they point, and the same dispatch of byte lists what
is found there.

A packet that is not next in line waits inside the function
(`Usbmuxd.passGate`). The lock is released meanwhile, so that a call sees the
device as it is each time it wakes: `Usbmuxd.deviceDataInput` takes the list of
these sights.
-/

namespace Usbmuxd

/-! ### The device's part of the protocol state -/

/-- `mux_device`. The gathered bytes of a split packet are the first `pktlen` of
`pktbuf`, so that `pktlen` is the length of the list. -/
structure MuxDevice where
  /-- `version`. -/
  version : ℕ
  /-- What is in `pktbuf`. -/
  pktbuf : List UInt8
  /-- `tx_seq`. -/
  txSeq : BitVec 16
  /-- `rx_seq`. -/
  rxSeq : BitVec 16
  deriving DecidableEq

/-- `_muxdev{}`, as the constructor of `USBDevice` leaves it. The version is not known yet. -/
def MuxDevice.new : MuxDevice := ⟨0, [], 0, 0⟩

/-- `pktlen`, how much of a split packet has been gathered. -/
def MuxDevice.pktlen (dev : MuxDevice) : ℕ := dev.pktbuf.length

/-- A `tcphdr`, as the bytes it has on the wire, of which there are twenty. -/
structure RawTcpHdr where
  /-- The bytes of the structure. -/
  bytes : List UInt8
  /-- Its size. -/
  length_eq : bytes.length = sizeofTcphdr
  deriving DecidableEq

/-! ### Sending -/

/-- What `send_packet` throws before it has done anything, so that nothing has been counted
either. -/
inductive SendError
  /-- `assure(buflen>length)`. -/
  | sanityCheck
  /-- “Tried to send packet larger than USB MTU”. -/
  | largerThanMtu
  deriving DecidableEq

/-- `buflen`, a `size_t`: the length of the frame, with all headers. -/
def buflen (version length : ℕ) (header : Option RawTcpHdr) : ℕ :=
  (muxHeaderSize version + length + if header.isSome then sizeofTcphdr else 0) % 2 ^ 64

/-- The mux header that `send_packet` writes, in network byte order. The numbers of the packets
are only in that of version 2. -/
def muxHeader (dev : MuxDevice) (proto : MuxProtocol) (length : ℕ) : List UInt8 :=
  Endian.toBe 4 proto.number ++ Endian.toBe 4 length ++
    if 2 ≤ dev.version then
      Endian.toBe 4 0xfeedface ++ Endian.toBe 2 dev.txSeq.toNat ++ Endian.toBe 2 dev.rxSeq.toNat
    else []

/-- `USBDevice::usb_send`, the submissions succeeding: the transfer, and one of
length zero behind it if its length is a multiple of the packet size. -/
def usbSend (wMaxPacketSize : ℕ) (buf : List UInt8) : List (List UInt8) :=
  buf :: if buf.length % wMaxPacketSize = 0 ∧ wMaxPacketSize ≤ buf.length then [[]] else []

/-- `USBDevice::send_packet`: the transfers it submits, or what it throws, and the
device after it. -/
def sendPacket (wMaxPacketSize : ℕ) (dev : MuxDevice) (proto : MuxProtocol) (data : List UInt8)
    (header : Option RawTcpHdr) : Except SendError (List (List UInt8)) × MuxDevice :=
  let buflen := buflen dev.version data.length header
  if ¬data.length < buflen then (.error .sanityCheck, dev)
  else if ¬buflen ≤ usbMtu then (.error .largerThanMtu, dev)
  else
    -- a setup packet starts the numbering anew, before its header is written
    let dev := if 2 ≤ dev.version ∧ proto = .setup then { dev with txSeq := 0, rxSeq := 0xffff }
      else dev
    let buf := muxHeader dev proto buflen ++ (header.elim [] RawTcpHdr.bytes ++ data)
    (.ok (usbSend wMaxPacketSize buf),
      if 2 ≤ dev.version then { dev with txSeq := dev.txSeq + 1 } else dev)

/-! ### Receiving -/

/-- A region of a buffer, as a pointer and a length, which need not lie inside what has been
received. -/
structure Slice where
  /-- The offset of the pointer. -/
  offset : ℕ
  /-- The number of bytes. -/
  length : ℕ
  deriving DecidableEq

/-- What is in a region, whoever has put it there. -/
def Slice.bytes (buffer : ℕ → UInt8) (s : Slice) : List UInt8 :=
  Memory.read buffer s.offset s.length

/-- What `device_data_input` calls with the packet, and with which regions of it. Nothing is
said of what is done with them. -/
inductive Dispatch (α : Type)
  /-- `device_version_input`. -/
  | version (vh : α)
  /-- `device_control_input`. -/
  | control (payload : α)
  /-- `TCP::handle_input`, or `TCP::send_RST` when there is no connection. -/
  | tcp (header payload : α)
  /-- “Incoming packet for device has unknown protocol”. -/
  | unknown (protocol : ℕ)
  deriving DecidableEq

/-- The same call with the regions seen otherwise, as the bytes in them, for example. -/
def Dispatch.map {α β : Type} (f : α → β) : Dispatch α → Dispatch β
  | .version vh => .version (f vh)
  | .control payload => .control (f payload)
  | .tcp header payload => .tcp (f header) (f payload)
  | .unknown protocol => .unknown protocol

/-- What `device_data_input` throws before it dispatches. The receiver catches it, and gives the
device up. -/
inductive DataError
  /-- “Too much data received from USB”. -/
  | tooMuchData
  /-- “Incoming packet size mismatch”. -/
  | sizeMismatch
  /-- “Mux v1 doesn't support broken up transfers!”. -/
  | v1BrokenUp
  /-- “Incoming split packet is too large”. -/
  | splitTooLarge
  /-- “Incoming version packet is too small”. -/
  | versionTooSmall
  /-- “Incoming TCP packet is too small”. -/
  | tcpTooSmall
  deriving DecidableEq

/-- How a call of `device_data_input` comes out. A call that waits may be woken later. -/
inductive Outcome (α : Type)
  /-- There is no data. -/
  | ignored
  /-- It throws. -/
  | rejected (e : DataError)
  /-- It is still waiting for the packets before its own. -/
  | waits
  /-- “Discarding duplicated MUX packet”. -/
  | discarded
  /-- The packet is kept as part of a split one. -/
  | buffered
  /-- It hands the packet on. -/
  | passed (d : Dispatch α)
  deriving DecidableEq

/-- The same outcome with the regions seen otherwise. -/
def Outcome.map {α β : Type} (f : α → β) : Outcome α → Outcome β
  | .ignored => .ignored
  | .rejected e => .rejected e
  | .waits => .waits
  | .discarded => .discarded
  | .buffered => .buffered
  | .passed d => .passed (d.map f)

/-- What a call sees of the device while it holds `_usbLck`. Between two of its sights other
receivers may have been at work. -/
structure Sight where
  /-- `_muxdev`. -/
  dev : MuxDevice
  /-- `_rx_xfers.size()`. -/
  rxXfers : ℕ
  deriving DecidableEq

/-- `ntohl(mhdr->protocol)`, the first four bytes of the buffer. -/
def mhdrProtocol (buffer : ℕ → UInt8) : ℕ := Endian.be (Memory.read buffer 0 4)

/-- `ntohl(mhdr->length)`, which counts the header too. -/
def mhdrLength (buffer : ℕ → UInt8) : ℕ := Endian.be (Memory.read buffer 4 4)

/-- `ntohs(mhdr->v2.tx_seq)`. In a version 1 packet these bytes belong to the payload. -/
def mhdrTxSeq (buffer : ℕ → UInt8) : BitVec 16 := .ofNat 16 (Endian.be (Memory.read buffer 12 2))

/-- The `switch` at the end of `device_data_input`. A control payload is taken to
begin behind the union `mux_header`, whatever the version; the lengths are
`uint32_t`. -/
def dispatchPacket (version : ℕ) (buffer : ℕ → UInt8) (length : ℕ) : Outcome Slice :=
  let muxHeaderSize := muxHeaderSize version
  if mhdrProtocol buffer = MuxProtocol.version.number then
    if ¬muxHeaderSize + sizeofMuxVersionHeader ≤ length then .rejected .versionTooSmall
    else .passed (.version ⟨muxHeaderSize, sizeofMuxVersionHeader⟩)
  else if mhdrProtocol buffer = MuxProtocol.control.number then
    -- `mhdr+1` is past the whole union, which has the size of the version 2 header
    .passed (.control ⟨sizeofMuxHeader, (length + 2 ^ 32 - muxHeaderSize) % 2 ^ 32⟩)
  else if mhdrProtocol buffer = MuxProtocol.tcp.number then
    if ¬muxHeaderSize + sizeofTcphdr ≤ length then .rejected .tcpTooSmall
    else .passed (.tcp ⟨muxHeaderSize, sizeofTcphdr⟩
      ⟨muxHeaderSize + sizeofTcphdr, (length + 2 ^ 32 - sizeofTcphdr - muxHeaderSize) % 2 ^ 32⟩)
  else .passed (.unknown (mhdrProtocol buffer))

/-- The part of `device_data_input` that handles broken up transfers, and what
follows it. `mhdr` goes on pointing into the transfer when `buffer` does not. -/
def handleSplit (version : ℕ) (dev : MuxDevice) (buffer : ℕ → UInt8) (length : ℕ) :
    Outcome Slice × MuxDevice :=
  if dev.pktlen ≠ 0 then
    if dev.version < 2 then (.rejected .v1BrokenUp, dev)
    else if ¬length + dev.pktlen ≤ devMru then (.rejected .splitTooLarge, dev)
    -- the last part, which is what is dispatched, with the length of all parts
    else if length < usbMru ∨ mhdrLength buffer = length + dev.pktlen then
      (dispatchPacket version buffer (length + dev.pktlen), { dev with pktbuf := [] })
    else (.buffered, { dev with pktbuf := dev.pktbuf ++ Memory.read buffer 0 length })
  else if length = usbMru ∧ length < mhdrLength buffer then
    (.buffered, { dev with pktbuf := Memory.read buffer 0 length })
  else (dispatchPacket version buffer length, dev)

/-- The gate, with the sights of the device each time the call wakes: what it comes
to, and the device then. A sleeper with no sight left is still asleep. -/
def passGate (txseq : BitVec 16) (visit : BitVec 16 → BitVec 16 → ℕ → GateOutcome) (sight : Sight) :
    List Sight → GateOutcome × MuxDevice
  | [] => (visit sight.dev.rxSeq txseq sight.rxXfers, sight.dev)
  | woken :: wakes =>
    match visit sight.dev.rxSeq txseq sight.rxXfers with
    | .sleep => passGate txseq waitLoop woken wakes
    | outcome => (outcome, sight.dev)

/-- `USBDevice::device_data_input` up to the calls it makes with the packet, and the
device when the lock is released. -/
def deviceDataInput (sight : Sight) (wakes : List Sight) (buffer : ℕ → UInt8) (length : ℕ) :
    Outcome Slice × MuxDevice :=
  let version := sight.dev.version
  if length = 0 then (.ignored, sight.dev)
  else if ¬(length ≤ usbMru ∧ length ≤ devMru) then (.rejected .tooMuchData, sight.dev)
  else if mhdrLength buffer ≠ length then (.rejected .sizeMismatch, sight.dev)
  else if 2 ≤ version then
    -- only version 2 packets are numbered
    match passGate (mhdrTxSeq buffer) firstVisit sight wakes with
    | (.sleep, dev) => (.waits, dev)
    | (.discard, dev) => (.discarded, dev)
    | (.accept, dev) => handleSplit version { dev with rxSeq := mhdrTxSeq buffer } buffer length
  else handleSplit version sight.dev buffer length

/-! ### Packets are never split

The length in the mux header has been compared with that of the transfer before the
code for broken up transfers looks at it. -/

section Split

variable {version length : ℕ} {dev : MuxDevice} {buffer : ℕ → UInt8} {txseq : BitVec 16}
  {visit : BitVec 16 → BitVec 16 → ℕ → GateOutcome} {sight : Sight} {wakes : List Sight}

/-- **A packet that is as long as its header says is dispatched as it is.** -/
theorem handleSplit_eq (hpkt : dev.pktbuf = []) (hlen : mhdrLength buffer = length) :
    handleSplit version dev buffer length = (dispatchPacket version buffer length, dev) := by
  have hpktlen : dev.pktlen = 0 := by rw [MuxDevice.pktlen, hpkt, List.length_nil]
  rw [handleSplit, if_neg (not_not.mpr hpktlen), if_neg]
  rw [hlen]
  exact fun hsplit => Nat.lt_irrefl _ hsplit.2

/-- The gate leaves the device as the call has seen it last, since it only changes the
number. -/
theorem passGate_mem : (passGate txseq visit sight wakes).2 ∈ (sight :: wakes).map Sight.dev := by
  induction wakes generalizing visit sight with
  | nil => exact List.mem_singleton.mpr rfl
  | cons woken wakes ih =>
    rw [passGate]
    split
    · exact List.mem_cons_of_mem _ ih
    · exact List.mem_cons_self

/-- **No packet is kept for later**: where no call sees a part of a split packet, none
leaves one. -/
theorem deviceDataInput_pktbuf (h : ∀ s ∈ sight :: wakes, s.dev.pktbuf = []) :
    (deviceDataInput sight wakes buffer length).2.pktbuf = [] := by
  have hsight := h sight List.mem_cons_self
  rw [deviceDataInput]
  split
  · exact hsight
  split
  · exact hsight
  split
  · exact hsight
  rename_i hlen
  rw [not_not] at hlen
  split
  · -- past the gate, the device is as one of the sights has shown it
    have hgate := @passGate_mem (mhdrTxSeq buffer) firstVisit sight wakes
    obtain ⟨s, hs, hdev⟩ := List.mem_map.mp hgate
    have hpkt := hdev ▸ h s hs
    split <;> rename_i hout <;> rw [hout] at hpkt
    · exact hpkt
    · exact hpkt
    · rw [handleSplit_eq (by exact hpkt) hlen]
      exact hpkt
  · rw [handleSplit_eq hsight hlen]
    exact hsight

end Split

/-- **The states of a device.** They are made by the constructor, by the packets sent
and received, and by `device_version_input`, which stores the version. -/
inductive MuxDevice.Reached : MuxDevice → Prop
  /-- A device that has just been found. -/
  | new : Reached .new
  /-- A packet is sent. -/
  | sent {dev : MuxDevice} (wMaxPacketSize : ℕ) (proto : MuxProtocol) (data : List UInt8)
    (header : Option RawTcpHdr) :
    Reached dev → Reached (sendPacket wMaxPacketSize dev proto data header).2
  /-- A packet is received, by a call that sees the device in the given states. -/
  | received {sight : Sight} {wakes : List Sight} (buffer : ℕ → UInt8) (length : ℕ) :
    (∀ s ∈ sight :: wakes, Reached s.dev) →
      Reached (deviceDataInput sight wakes buffer length).2
  /-- The version is negotiated. -/
  | negotiated {dev : MuxDevice} (major : ℕ) : Reached dev → Reached { dev with version := major }

theorem sendPacket_pktbuf (wMaxPacketSize : ℕ) (dev : MuxDevice) (proto : MuxProtocol)
    (data : List UInt8) (header : Option RawTcpHdr) :
    (sendPacket wMaxPacketSize dev proto data header).2.pktbuf = dev.pktbuf := by
  simp only [sendPacket]
  split
  · rfl
  split
  · rfl
  split <;> split <;> rfl

/-- **No device ever holds a part of a split packet**, as no packet that is not complete gets so
far. -/
theorem MuxDevice.Reached.pktbuf {dev : MuxDevice} (h : dev.Reached) : dev.pktbuf = [] := by
  induction h with
  | new => rfl
  | sent wMaxPacketSize proto data header _ ih => rw [sendPacket_pktbuf, ih]
  | received buffer length _ ih => exact deviceDataInput_pktbuf ih
  | negotiated major _ ih => exact ih

end Usbmuxd
