import Usbmuxd.Devices.Received

/-!
# Packets that do not fit into one transfer

A transfer brings at most `USB_MRU` bytes, and a packet may have up to `DEV_MRU`. Such a
packet comes in two transfers, of which only the first begins with a mux header, and
`device_data_input` has a section that handles broken up transfers: the first one is
copied to `pktbuf`, the second is appended to it, and the whole is dispatched
(`Usbmuxd.handleSplit`).

That section is never entered with a part of a packet. The length in the mux header is
the length of the packet, and it has been compared with the length of the transfer
before: the first transfer is refused for the mismatch
(`Usbmuxd.SplitPacket.first_rejected`). So no packet is ever put together
(`Usbmuxd.split_packet_not_reassembled`), whatever is in it, whatever the device and
whatever the gate does with the second transfer.

Nothing is assumed of the device or of the second transfer. The packet may be for any protocol,
the version may be known or not, and the buffer behind the first transfer may have anything in
it. The test that fails comes before anything else that is done with the header, and it is the
same test that protects the daemon from a header which claims too much. So it cannot be left
out; the comparison would have to allow for a transfer that is full.
-/

namespace Usbmuxd

/-- The length in the mux header of a packet, as the device has written it. -/
def lengthField (packet : List UInt8) : ℕ := Endian.be ((packet.drop 4).take 4)

/-- **A packet that is broken up**: its mux header has its length, which is more than a
transfer has room for and not more than `pktbuf` has. -/
structure SplitPacket where
  /-- The header and what follows it. -/
  bytes : List UInt8
  lengthField_eq : lengthField bytes = bytes.length
  long : usbMru < bytes.length
  fits : bytes.length ≤ devMru

/-- What a call of `device_data_input` finds besides the bytes of its transfer: what the
buffer held before, the number of transfers, and the device each time it wakes. -/
structure CallSite where
  /-- The old contents of the buffer. -/
  stale : ℕ → UInt8
  /-- `_rx_xfers.size()`. -/
  rxXfers : ℕ
  /-- The sights of the device. -/
  wakes : List Sight

/-- A call of `device_data_input` with a transfer of the given bytes: its outcome with
what it hands on, and the device after it. -/
def CallSite.receive (site : CallSite) (dev : MuxDevice) (bytes : List UInt8) :
    Outcome (List UInt8) × MuxDevice :=
  effect ⟨dev, site.rxXfers⟩ site.wakes (received site.stale bytes) bytes.length

namespace SplitPacket

variable (p : SplitPacket)

/-- The first transfer, which is full. It has the header, and with it the length of the whole
packet. -/
def first : List UInt8 := p.bytes.take usbMru

/-- The second transfer, which has no header of its own. -/
def last : List UInt8 := p.bytes.drop usbMru

/-- What is to be dispatched: the packet as if it had come in one piece. -/
def whole (version : ℕ) : Outcome (List UInt8) :=
  (dispatchPacket version (received (fun _ => 0) p.bytes) p.bytes.length).map
    (Slice.bytes (received (fun _ => 0) p.bytes))

/-- **The packet is put together** by two calls: the first keeps its transfer and
dispatches nothing, the second dispatches the packet and leaves nothing behind. -/
structure Reassembled (dev : MuxDevice) (site₁ site₂ : CallSite) : Prop where
  kept : (site₁.receive dev p.first).1 = .buffered
  pktbuf : (site₁.receive dev p.first).2.pktbuf = p.first
  dispatched :
    (site₂.receive (site₁.receive dev p.first).2 p.last).1 = p.whole dev.version
  left : (site₂.receive (site₁.receive dev p.first).2 p.last).2.pktlen = 0

variable {p}

/-- The two transfers are what a transfer has room for. So the device may have sent them. -/
theorem length_transfers : p.first.length = usbMru ∧ p.last.length ≤ usbMru := by
  have hlong := p.long
  have hfits := p.fits
  have hroom : devMru ≤ usbMru + usbMru := by decide
  rw [first, last, List.length_take, List.length_drop]
  omega

/-- The length in the buffer of a transfer is that in the header of what it brings. -/
theorem mhdrLength_eq_lengthField (stale : ℕ → UInt8) {bytes : List UInt8}
    (h : 8 ≤ bytes.length) : mhdrLength (received stale bytes) = lengthField bytes := by
  have hcut : bytes.take 4 ++ (bytes.drop 4).take 4 ++ bytes.drop 8 = bytes := by
    rw [List.append_assoc, ← List.drop_drop (i := 4) (j := 4), List.take_append_drop,
      List.take_append_drop]
  have hread := @read_received stale (bytes.take 4) ((bytes.drop 4).take 4) (bytes.drop 8)
  rw [hcut, List.length_take, List.length_take, List.length_drop, min_eq_left (by omega),
    min_eq_left (by omega)] at hread
  exact congrArg Endian.be hread

/-- The first transfer has the length field of the packet, which is not its own length. -/
theorem lengthField_first (p : SplitPacket) : lengthField p.first = p.bytes.length := by
  have hlong := p.long
  refine Eq.trans ?_ p.lengthField_eq
  rw [lengthField, lengthField, first, List.drop_take, List.take_take]
  rfl

/-- **The first transfer is refused**, in every state of the device, and before it is looked at
what kind of packet it is. -/
theorem first_rejected (p : SplitPacket) (dev : MuxDevice) (site : CallSite) :
    site.receive dev p.first = (.rejected .sizeMismatch, dev) := by
  have hlen := (length_transfers (p := p)).1
  have hne : mhdrLength (received site.stale p.first) ≠ p.first.length := by
    rw [mhdrLength_eq_lengthField site.stale (by rw [hlen]; decide), lengthField_first, hlen]
    exact p.long.ne'
  have hcall : deviceDataInput ⟨dev, site.rxXfers⟩ site.wakes (received site.stale p.first)
      p.first.length = (.rejected .sizeMismatch, dev) :=
    deviceDataInput_mismatch (by rw [hlen]; decide) hlen.le hne
  rw [CallSite.receive, effect, hcall]
  rfl

end SplitPacket

/-- **No packet that is broken up is put together**, whatever its protocol and payload and
whatever the device: the first transfer is refused for its length, nothing is kept, and
nothing is dispatched. -/
theorem split_packet_not_reassembled (p : SplitPacket) (dev : MuxDevice) (site₁ site₂ : CallSite) :
    ¬p.Reassembled dev site₁ site₂ := by
  intro h
  have hkept := h.kept
  rw [p.first_rejected dev site₁] at hkept
  cases hkept

/-! ### One byte too long -/

/-- The bytes of a TCP packet of `USB_MRU + 1` bytes, with the right number in its length
field. -/
def oneByteTooMany : List UInt8 :=
  muxHeader ⟨2, [], 0, 0⟩ .tcp (usbMru + 1) ++ List.replicate (usbMru - 15) 0

theorem length_oneByteTooMany : oneByteTooMany.length = usbMru + 1 := by
  rw [oneByteTooMany, List.length_append, List.length_replicate, length_muxHeader (le_refl 2)]
  decide

/-- A packet that is one byte too long for a transfer, and so comes in two. -/
def oneByteTooLong : SplitPacket where
  bytes := oneByteTooMany
  lengthField_eq := by
    have h8 : 8 ≤ oneByteTooMany.length := by
      rw [length_oneByteTooMany]
      decide
    rw [length_oneByteTooMany, ← SplitPacket.mhdrLength_eq_lengthField (fun _ => 0) h8]
    exact mhdrLength_received (le_refl 2) (by decide)
  long := by
    rw [length_oneByteTooMany]
    decide
  fits := by
    rw [length_oneByteTooMany]
    decide

/-- **A packet of one byte more than a transfer takes** is not put together by a device
that expects it next. -/
theorem one_byte_too_long_rejected :
    ¬oneByteTooLong.Reassembled ⟨2, [], 0, 0xffff⟩ ⟨fun _ => 0, numRxLoops, []⟩
      ⟨fun _ => 0, numRxLoops, []⟩ := by
  intro h
  have hkept := h.kept
  rw [oneByteTooLong.first_rejected] at hkept
  cases hkept

end Usbmuxd
