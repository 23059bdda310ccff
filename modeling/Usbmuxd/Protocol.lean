import Mathlib.Data.List.Basic

/-!
# What the two protocols have in common

The daemon stands between two protocols, and this file holds what the models of
both sides refer to.

Towards a device there are the constants of `USBDeviceManager.hpp`, `USBDevice.hpp`
and `TCP.hpp` that bound what goes over the bulk endpoints. A frame is a mux header,
for a TCP segment a `tcphdr`, and a payload; `Usbmuxd.frameLength_le_usbMtu` is the
arithmetic behind `TCP_MTU`: a segment of at most `TCP_MTU` bytes makes a frame that
`USBDevice::send_packet` accepts, whatever the version of the header. That is why
`TCP::send_data` need not ask which version the device talks.

Towards a client, and in the files of the configuration, there are property lists in
their textual form. Nothing that is proved here depends on what such a text looks
like, only the runs that are traced byte by byte do: they should write what
`plist_to_xml` writes (`Usbmuxd.plistText`), since what a cut-off packet is taken for
depends on the length of the one that follows it.
-/

namespace Usbmuxd

/-- `USB_MTU`, the length of the longest frame `send_packet` accepts. -/
def usbMtu : ℕ := 3 * 16384

/-- `USB_MRU`, the length of a receive transfer. -/
def usbMru : ℕ := usbMtu

/-- `DEV_MRU`, the length of the buffer in which split packets are gathered. -/
def devMru : ℕ := 65535

/-- `NUM_RX_LOOPS`, the number of transfers `usb_get_serial_callback` submits. -/
def numRxLoops : ℕ := 3

/-- `sizeof(tcphdr)`. -/
def sizeofTcphdr : ℕ := 20

/-- `sizeof(mux_version_header)`. -/
def sizeofMuxVersionHeader : ℕ := 12

/-- `sizeof(mux_header_v1)`. -/
def sizeofMuxHeaderV1 : ℕ := 8

/-- `sizeof(mux_header_v2)`. -/
def sizeofMuxHeaderV2 : ℕ := 16

/-- `sizeof(mux_header)`, a union of the two. -/
def sizeofMuxHeader : ℕ := max sizeofMuxHeaderV1 sizeofMuxHeaderV2

/-- `mux_header_size`, as `send_packet` and `device_data_input` compute it. -/
def muxHeaderSize (version : ℕ) : ℕ :=
  if version < 2 then sizeofMuxHeaderV1 else sizeofMuxHeaderV2

/-- `mux_protocol`. -/
inductive MuxProtocol
  /-- `MUX_PROTO_VERSION`. -/
  | version
  /-- `MUX_PROTO_CONTROL`. -/
  | control
  /-- `MUX_PROTO_SETUP`. -/
  | setup
  /-- `MUX_PROTO_TCP`. -/
  | tcp
  deriving DecidableEq

/-- The number of a protocol in a mux header; that of TCP is `IPPROTO_TCP`. -/
def MuxProtocol.number : MuxProtocol → ℕ
  | .version => 0
  | .control => 1
  | .setup => 2
  | .tcp => 6

/-- `TCP::TCP_MTU`. -/
def tcpMtu : ℕ := (usbMtu - sizeofTcphdr - sizeofMuxHeader) &&& 0xff00

/-- `TCP::bufsize`. -/
def tcpBufsize : ℕ := 0x80000

/-- The bytes of a text that has no characters but those of ASCII. -/
def ascii (text : List Char) : List UInt8 := text.map fun c => UInt8.ofNat c.toNat

/-- The system identifier of the document type of property lists, a URL. -/
def plistSystemId : List UInt8 :=
  [104, 116, 116, 112, 58, 47, 47, 119, 119, 119, 46, 97, 112, 112, 108, 101, 46, 99, 111, 109,
    47, 68, 84, 68, 115, 47, 80, 114, 111, 112, 101, 114, 116, 121, 76, 105, 115, 116, 45, 49,
    46, 48, 46, 100, 116, 100]

/-- **The text that `plist_to_xml` makes of a list**, given the text of its root: two lines that
are always the same, and the root between the tags of a `plist` element. -/
def plistText (root : List UInt8) : List UInt8 :=
  ascii "<?xml version=\"1.0\" encoding=\"UTF-8\"?>\n".toList ++
    ascii "<!DOCTYPE plist PUBLIC \"-//Apple//DTD PLIST 1.0//EN\" \"".toList ++ plistSystemId ++
    ascii "\">\n<plist version=\"1.0\">\n".toList ++ root ++ ascii "</plist>\n".toList

/-- `buflen` of `send_packet` for a TCP segment with a payload of `length` bytes. -/
def frameLength (version length : ℕ) : ℕ := muxHeaderSize version + length + sizeofTcphdr

@[simp] theorem length_ascii (text : List Char) : (ascii text).length = text.length :=
  List.length_map ..

/-- What `plist_to_xml` adds to the text of the root. -/
theorem length_plistText (root : List UInt8) : (plistText root).length = 173 + root.length := by
  have hbefore : (ascii "<?xml version=\"1.0\" encoding=\"UTF-8\"?>\n".toList ++
    ascii "<!DOCTYPE plist PUBLIC \"-//Apple//DTD PLIST 1.0//EN\" \"".toList ++ plistSystemId ++
    ascii "\">\n<plist version=\"1.0\">\n".toList).length = 164 := by decide +kernel
  have hbehind : (ascii "</plist>\n".toList).length = 9 := by decide +kernel
  rw [plistText, List.length_append, List.length_append, hbefore, hbehind]
  omega

theorem tcpMtu_pos : 0 < tcpMtu := by decide

/-- **A segment of at most `TCP_MTU` bytes fits into a frame.** -/
theorem frameLength_le_usbMtu (version : ℕ) {length : ℕ} (h : length ≤ tcpMtu) :
    frameLength version length ≤ usbMtu := by
  have hsize : muxHeaderSize version ≤ sizeofMuxHeader := by
    unfold muxHeaderSize
    split <;> decide
  have hmax : sizeofMuxHeader + tcpMtu + sizeofTcphdr ≤ usbMtu := by decide
  unfold frameLength
  omega

end Usbmuxd
