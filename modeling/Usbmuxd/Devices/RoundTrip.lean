import Usbmuxd.Devices.Packets

/-!
# Mux frames round-trip

What `USBDevice::send_packet` writes, `USBDevice::device_data_input` of a peer of
the same version takes apart again. The two sides share nothing but the wire: the
sender numbers its frames from the setup packet on, and the peer expects the number
after the one it has seen last. The invariant that couples them is
`Usbmuxd.InStep`: the peer expects the number the sender will use next. A frame that
is accepted for sending moves both on by one, modulo `2 ^ 16`, and a call that is
refused moves neither.

The main result is `Usbmuxd.frames_round_trip`.

The peer is the same code, running on the other side. This is a choice, since there is no other
code to be read; what a real device does with a frame is not said, but a device that follows the
format as this code does finds in the frames what has been put into them. Two things that might
break the coupling are looked at with care: the setup packet, which starts the numbers anew on
both sides, and the empty transfers that end a frame, which are received as transfers of length
zero and ignored.
-/

namespace Usbmuxd

/-! ### The fields of a frame -/

section Frame

variable {dev : MuxDevice} {proto : MuxProtocol} {stale : ℕ → UInt8} {rest : List UInt8} {n : ℕ}

/-- The buffer of a transfer after `bytes` have been received into it. Behind them it has what
was in it before. -/
def received (stale : ℕ → UInt8) (bytes : List UInt8) : ℕ → UInt8 := Memory.write stale 0 bytes

/-- A field of what has been received, wherever it is in it. -/
theorem read_received (before field after : List UInt8) :
    Memory.read (received stale (before ++ field ++ after)) before.length field.length = field := by
  rw [← Nat.zero_add before.length]
  exact Memory.read_write_field ..

/-- A frame of a version 2 device, cut at its fields, so that each can be read back. -/
theorem frame_eq (hv : 2 ≤ dev.version) :
    muxHeader dev proto n ++ rest = Endian.toBe 4 proto.number ++ (Endian.toBe 4 n ++
      (Endian.toBe 4 0xfeedface ++ (Endian.toBe 2 dev.txSeq.toNat ++
        (Endian.toBe 2 dev.rxSeq.toNat ++ rest)))) := by
  simp only [muxHeader, if_pos hv, List.append_assoc]

theorem length_muxHeader (hv : 2 ≤ dev.version) : (muxHeader dev proto n).length = 16 := by
  simp [muxHeader, if_pos hv]

theorem mhdrProtocol_received (hv : 2 ≤ dev.version) :
    mhdrProtocol (received stale (muxHeader dev proto n ++ rest)) = proto.number := by
  have hfield := @read_received stale [] (Endian.toBe 4 proto.number)
  rw [Endian.length_toBe] at hfield
  rw [mhdrProtocol, frame_eq hv]
  exact (congrArg Endian.be (hfield _)).trans (Endian.be_toBe_of_lt (by cases proto <;> decide))

theorem mhdrLength_received (hv : 2 ≤ dev.version) (hn : n < 2 ^ 32) :
    mhdrLength (received stale (muxHeader dev proto n ++ rest)) = n := by
  have hfield := @read_received stale (Endian.toBe 4 proto.number) (Endian.toBe 4 n)
  rw [Endian.length_toBe, Endian.length_toBe] at hfield
  rw [mhdrLength, frame_eq hv, ← List.append_assoc, hfield, Endian.be_toBe_of_lt hn]

theorem mhdrTxSeq_received (hv : 2 ≤ dev.version) :
    mhdrTxSeq (received stale (muxHeader dev proto n ++ rest)) = dev.txSeq := by
  have hfield := @read_received stale
    (Endian.toBe 4 proto.number ++ (Endian.toBe 4 n ++ Endian.toBe 4 0xfeedface))
    (Endian.toBe 2 dev.txSeq.toNat)
  simp only [List.length_append, Endian.length_toBe, List.append_assoc] at hfield
  rw [mhdrTxSeq, frame_eq hv, hfield, Endian.be_toBe_of_lt dev.txSeq.isLt, BitVec.ofNat_toNat,
    BitVec.setWidth_eq]

end Frame

/-! ### One frame -/

section One

variable {dev peer : MuxDevice} {proto : MuxProtocol} {stale : ℕ → UInt8}
  {rest : List UInt8} {n rxXfers : ℕ} {wakes : List Sight}

/-- **The peer expects the number the sender will use next**, and holds no part of
a split packet. -/
structure InStep (dev peer : MuxDevice) : Prop where
  /-- The sender speaks version 2. -/
  version : 2 ≤ dev.version
  /-- The peer speaks version 2. -/
  peer_version : 2 ≤ peer.version
  /-- The numbers. -/
  next : peer.rxSeq + 1 = dev.txSeq
  /-- `pktlen` is 0. -/
  pktbuf : peer.pktbuf = []

/-- A packet that is next in line goes through the gate at once. -/
theorem passGate_next {rxSeq txseq : BitVec 16} (h : rxSeq + 1 = txseq) (hs : peer.rxSeq = rxSeq) :
    passGate txseq firstVisit ⟨peer, rxXfers⟩ wakes = (.accept, peer) := by
  have hvisit : firstVisit peer.rxSeq txseq rxXfers = .accept := by
    rw [firstVisit, hs, if_neg (not_not.mpr h), afterWait, if_neg (not_not.mpr h)]
  cases wakes with
  | nil => rw [passGate, hvisit]
  | cons woken wakes => rw [passGate, hvisit]

/-- **What the peer makes of a frame**: it is dispatched as it is, and its number is
the last one seen. -/
theorem deviceDataInput_frame (h : InStep dev peer) (hn : n = 16 + rest.length) (hle : n ≤ usbMtu) :
    deviceDataInput ⟨peer, rxXfers⟩ wakes (received stale (muxHeader dev proto n ++ rest)) n =
      (dispatchPacket peer.version (received stale (muxHeader dev proto n ++ rest)) n,
        { peer with rxSeq := dev.txSeq }) := by
  have husb : n ≤ usbMru ∧ n ≤ devMru := ⟨hle, Nat.le_trans hle (by decide)⟩
  have hlength : mhdrLength (received stale (muxHeader dev proto n ++ rest)) = n :=
    mhdrLength_received h.version (Nat.lt_of_le_of_lt hle (by decide))
  rw [deviceDataInput, if_neg (by omega), if_neg (not_not.mpr husb), if_neg (not_not.mpr hlength),
    if_pos h.peer_version, mhdrTxSeq_received h.version, passGate_next h.next rfl]
  exact handleSplit_eq h.pktbuf hlength

/-- A transfer of length zero is ignored. It only says that the frame before it has come to its
end. -/
theorem deviceDataInput_zero (sight : Sight) (wakes : List Sight) (buffer : ℕ → UInt8) :
    deviceDataInput sight wakes buffer 0 = (.ignored, sight.dev) := rfl

/-- The setup packet is handed to nobody, since `device_data_input` expects none. -/
theorem dispatchPacket_setup (hv : 2 ≤ dev.version) (version : ℕ) :
    dispatchPacket version (received stale (muxHeader dev .setup n ++ rest)) n =
      .passed (.unknown 2) := by
  rw [dispatchPacket, mhdrProtocol_received hv]
  rfl

/-- **A TCP frame is handed on with the header and the payload it was made of.** -/
theorem dispatchPacket_tcp (hv : 2 ≤ dev.version) {version : ℕ} (hpeer : 2 ≤ version)
    (header : RawTcpHdr) (data : List UInt8) (hn : n = 36 + data.length) (hle : n ≤ usbMtu) :
    (dispatchPacket version (received stale (muxHeader dev .tcp n ++ (header.bytes ++ data))) n).map
        (Slice.bytes (received stale (muxHeader dev .tcp n ++ (header.bytes ++ data)))) =
      .passed (.tcp header.bytes data) := by
  have hsize : muxHeaderSize version = 16 := if_neg (Nat.not_lt.mpr hpeer)
  have hlt : n < 2 ^ 32 := Nat.lt_of_le_of_lt hle (by decide)
  have hpayload : (n + 2 ^ 32 - sizeofTcphdr - 16) % 2 ^ 32 = data.length := by
    rw [sizeofTcphdr]
    omega
  have hheader := @read_received stale (muxHeader dev .tcp n) header.bytes data
  have hdata := @read_received stale (muxHeader dev .tcp n ++ header.bytes) data []
  rw [length_muxHeader hv, header.length_eq, List.append_assoc] at hheader
  rw [List.length_append, length_muxHeader hv, header.length_eq, List.append_nil,
    List.append_assoc] at hdata
  rw [dispatchPacket, mhdrProtocol_received hv]
  simp only [hsize, hpayload]
  rw [if_neg (by decide), if_neg (by decide), if_pos trivial,
    if_neg (by rw [sizeofTcphdr]; omega)]
  simp only [Outcome.map, Dispatch.map, Slice.bytes, hheader, hdata]

end One

/-! ### Streams of frames -/

/-- A call of `send_packet`, for whatever protocol, with or without a TCP header. -/
structure PacketCall where
  /-- `proto`. -/
  proto : MuxProtocol
  /-- `data` and `length`. -/
  data : List UInt8
  /-- `header`, which may be `NULL`. -/
  header : Option RawTcpHdr

/-- The call for a TCP segment, with the header as it is on the wire. -/
structure TcpCall where
  /-- `header`. -/
  header : RawTcpHdr
  /-- `data` and `length`. -/
  data : List UInt8

/-- The call for a segment, among those of other kinds. -/
def TcpCall.call (s : TcpCall) : PacketCall := ⟨.tcp, s.data, some s.header⟩

/-- The call of `device_version_input`, which comes before all segments. -/
def setupCall (data : List UInt8) : PacketCall := ⟨.setup, data, none⟩

/-- The frame of a segment passes the `USB_MTU` check. Connections cut their payloads so that
this is the case. -/
def TcpCall.Fits (s : TcpCall) : Prop := frameLength 2 s.data.length ≤ usbMtu

instance (s : TcpCall) : Decidable s.Fits := inferInstanceAs (Decidable (_ ≤ _))

/-- Several calls of `send_packet`: the transfers submitted, and the device after
them. A call that throws submits nothing. -/
def sendAll (wMaxPacketSize : ℕ) (dev : MuxDevice) : List PacketCall → List (List UInt8) × MuxDevice
  | [] => ([], dev)
  | call :: calls =>
    let sent := sendPacket wMaxPacketSize dev call.proto call.data call.header
    let later := sendAll wMaxPacketSize sent.2 calls
    ((match sent.1 with
      | .ok transfers => transfers
      | .error _ => []) ++ later.1, later.2)

/-- A transfer as it arrives: its bytes, what the buffer held before, and
`_rx_xfers.size()` at that time. -/
structure Arrival where
  /-- The bytes received. -/
  bytes : List UInt8
  /-- What the buffer held before. -/
  stale : ℕ → UInt8
  /-- `_rx_xfers.size()`. -/
  rxXfers : ℕ

/-- Several calls of `device_data_input`, one after the other: what each comes to,
and the device after them. -/
def receiveAll (peer : MuxDevice) : List Arrival → List (Outcome (List UInt8)) × MuxDevice
  | [] => ([], peer)
  | a :: arrivals =>
    let buffer := received a.stale a.bytes
    let r := deviceDataInput ⟨peer, a.rxXfers⟩ [] buffer a.bytes.length
    let later := receiveAll r.2 arrivals
    (r.1.map (Slice.bytes buffer) :: later.1, later.2)

/-- What is handed to the TCP dispatch, as headers and payloads, in the order of the packets. -/
def handed (outcomes : List (Outcome (List UInt8))) : List (List UInt8 × List UInt8) :=
  outcomes.filterMap fun
    | .passed (.tcp header payload) => some (header, payload)
    | _ => none

/-- **Nothing goes wrong with a packet**: it is dispatched, or has no data. -/
def Outcome.Smooth {α : Type} : Outcome α → Prop
  | .ignored => True
  | .passed _ => True
  | _ => False

section Stream

variable {dev peer peer' : MuxDevice} {w : ℕ} {proto : MuxProtocol} {data frame : List UInt8}
  {header : Option RawTcpHdr} {arrivals : List Arrival}

/-- **A call that is refused changes nothing**: the number is not used up, so that the far end
does not wait for it. -/
theorem sendPacket_refused (hv : 2 ≤ dev.version) (s : TcpCall) (h : ¬s.Fits) :
    ∃ e, sendPacket w dev .tcp s.data (some s.header) = (.error e, dev) := by
  have hsize : muxHeaderSize dev.version = 16 := if_neg (Nat.not_lt.mpr hv)
  have hlong : usbMtu < 16 + s.data.length + 20 := by
    simpa [TcpCall.Fits, frameLength, muxHeaderSize, sizeofMuxHeaderV2, sizeofTcphdr] using h
  simp only [sendPacket]
  split
  · exact ⟨_, rfl⟩
  rename_i hsanity
  rw [not_not] at hsanity
  -- the sum has not wrapped, or it would not be greater than the payload alone
  have hbuflen : usbMtu < buflen dev.version s.data.length (some s.header) := by
    rw [buflen, hsize] at hsanity ⊢
    simp only [Option.isSome_some, if_true, sizeofTcphdr] at hsanity ⊢
    omega
  rw [if_pos (Nat.not_le.mpr hbuflen)]
  exact ⟨_, rfl⟩

/-- What a call that is not refused submits: one frame, and an empty transfer if it needs
one. -/
theorem sendPacket_ok {n : ℕ} (hv : 2 ≤ dev.version) (hproto : proto ≠ .setup)
    (hn : n = 16 + (header.elim [] RawTcpHdr.bytes ++ data).length) (hle : n ≤ usbMtu) :
    sendPacket w dev proto data header =
      (.ok (usbSend w (muxHeader dev proto n ++ (header.elim [] RawTcpHdr.bytes ++ data))),
        { dev with txSeq := dev.txSeq + 1 }) := by
  have hsize : muxHeaderSize dev.version = 16 := if_neg (Nat.not_lt.mpr hv)
  have hlt : n < 2 ^ 64 := Nat.lt_of_le_of_lt hle (by decide)
  have hbuflen : buflen dev.version data.length header = n := by
    rw [buflen, hsize]
    cases header with
    | none =>
      simp only [Option.elim_none, List.nil_append, Option.isSome_none, Bool.false_eq_true,
        if_false] at hn ⊢
      omega
    | some header =>
      simp only [Option.elim_some, List.length_append, header.length_eq, Option.isSome_some,
        if_true] at hn ⊢
      omega
  have hshort : data.length < n := by
    rw [List.length_append] at hn
    omega
  simp only [sendPacket, hbuflen]
  rw [if_neg (not_not.mpr hshort), if_neg (not_not.mpr hle), if_neg (fun h => hproto h.2),
    if_pos hv]

/-- The setup packet starts the numbering anew, before its own header is written. -/
theorem sendPacket_setup {n : ℕ} (hv : 2 ≤ dev.version) (hn : n = 16 + data.length)
    (hle : n ≤ usbMtu) :
    sendPacket w dev .setup data none =
      (.ok (usbSend w (muxHeader { dev with txSeq := 0, rxSeq := 0xffff } .setup n ++ data)),
        { dev with txSeq := 1, rxSeq := 0xffff }) := by
  have hsize : muxHeaderSize dev.version = 16 := if_neg (Nat.not_lt.mpr hv)
  have hlt : n < 2 ^ 64 := Nat.lt_of_le_of_lt hle (by decide)
  have hbuflen : buflen dev.version data.length none = n := by
    rw [buflen, hsize]
    simp only [Option.isSome_none, Bool.false_eq_true, if_false]
    omega
  have hshort : data.length < n := by omega
  simp only [sendPacket, hbuflen]
  rw [if_neg (not_not.mpr hshort), if_neg (not_not.mpr hle), if_pos ⟨hv, trivial⟩, if_pos hv]
  rfl

theorem receiveAll_append (as bs : List Arrival) :
    receiveAll peer (as ++ bs) =
      ((receiveAll peer as).1 ++ (receiveAll (receiveAll peer as).2 bs).1,
        (receiveAll (receiveAll peer as).2 bs).2) := by
  induction as generalizing peer with
  | nil => rfl
  | cons a as ih =>
    simp only [List.cons_append, receiveAll]
    rw [ih]

/-- **The transfers of one frame**: behind the frame there is at most one that is
ignored. -/
theorem receiveAll_usbSend {o : Outcome (List UInt8)}
    (h : arrivals.map Arrival.bytes = usbSend w frame)
    (hframe : ∀ stale rxXfers, ∃ s, deviceDataInput ⟨peer, rxXfers⟩ [] (received stale frame)
      frame.length = (s, peer') ∧ s.map (Slice.bytes (received stale frame)) = o) :
    ∃ zs, receiveAll peer arrivals = (o :: zs, peer') ∧ ∀ z ∈ zs, z = .ignored := by
  rw [usbSend] at h
  obtain ⟨a, as, rfl, rfl, has⟩ := List.map_eq_cons_iff.mp h
  obtain ⟨s, hs, ho⟩ := hframe a.stale a.rxXfers
  split at has
  · -- the transfer of length zero behind the frame
    obtain ⟨z, zs, rfl, hz, hzs⟩ := List.map_eq_cons_iff.mp has
    obtain rfl := List.map_eq_nil_iff.mp hzs
    refine ⟨[.ignored], ?_, by simp⟩
    simp only [receiveAll, hs, ho, hz, List.length_nil, deviceDataInput_zero]
    rfl
  · obtain rfl := List.map_eq_nil_iff.mp has
    refine ⟨[], ?_, by simp⟩
    simp only [receiveAll, hs, ho]

/-- **A frame in front of others.** If it is handed on, and the others go smoothly, all
of them do, and what is handed on comes first. -/
theorem receiveAll_frame {d : Dispatch (List UInt8)} {transfers : List (List UInt8)}
    (h : arrivals.map Arrival.bytes = usbSend w frame ++ transfers)
    (hframe : ∀ stale rxXfers, ∃ s, deviceDataInput ⟨peer, rxXfers⟩ [] (received stale frame)
      frame.length = (s, peer') ∧ s.map (Slice.bytes (received stale frame)) = .passed d)
    {later : List (List UInt8 × List UInt8)}
    (hlater : ∀ bs : List Arrival, bs.map Arrival.bytes = transfers →
      (∀ o ∈ (receiveAll peer' bs).1, o.Smooth) ∧ handed (receiveAll peer' bs).1 = later) :
    (∀ o ∈ (receiveAll peer arrivals).1, o.Smooth) ∧
      handed (receiveAll peer arrivals).1 = handed [.passed d] ++ later := by
  obtain ⟨as, bs, rfl, has, hbs⟩ := List.map_eq_append_iff.mp h
  obtain ⟨zs, hrecv, hzs⟩ := receiveAll_usbSend has hframe
  obtain ⟨hsmooth, hhanded⟩ := hlater bs hbs
  have hnone : handed zs = [] := List.filterMap_eq_nil_iff.mpr fun z hz => by rw [hzs z hz]
  rw [receiveAll_append, hrecv]
  constructor
  · intro o ho
    simp only [List.cons_append, List.mem_cons, List.mem_append] at ho
    rcases ho with rfl | hz | ho
    · exact trivial
    · rw [hzs o hz]
      exact trivial
    · exact hsmooth o ho
  · have happend : ∀ xs ys, handed (xs ++ ys) = handed xs ++ handed ys :=
      fun xs ys => List.filterMap_append
    rw [← hhanded, ← List.singleton_append, happend, happend, hnone, List.append_nil]

/-- The segments that follow the setup packet. They are numbered from there on, past the point
where the numbers wrap. -/
theorem receiveAll_segments (h : InStep dev peer) (segments : List TcpCall)
    (harr : arrivals.map Arrival.bytes = (sendAll w dev (segments.map TcpCall.call)).1) :
    (∀ o ∈ (receiveAll peer arrivals).1, o.Smooth) ∧
      handed (receiveAll peer arrivals).1 =
        (segments.filter (·.Fits)).map fun s => (s.header.bytes, s.data) := by
  induction segments generalizing dev peer arrivals with
  | nil =>
    obtain rfl : arrivals = [] := List.map_eq_nil_iff.mp harr
    exact ⟨by simp [receiveAll], rfl⟩
  | cons s segments ih =>
    by_cases hfits : s.Fits
    · -- accepted: both sides move on by one
      have hle : 36 + s.data.length ≤ usbMtu := by
        have hframe : 16 + s.data.length + 20 ≤ usbMtu := hfits
        omega
      have hrest : 36 + s.data.length = 16 + (s.header.bytes ++ s.data).length := by
        rw [List.length_append, s.header.length_eq, sizeofTcphdr]
        omega
      have hsent : sendPacket w dev .tcp s.data (some s.header) = _ :=
        sendPacket_ok h.version (by decide) hrest hle
      have hlength : (muxHeader dev .tcp (36 + s.data.length) ++
          (s.header.bytes ++ s.data)).length = 36 + s.data.length := by
        rw [List.length_append, length_muxHeader h.version, ← hrest]
      have hstep : InStep { dev with txSeq := dev.txSeq + 1 } { peer with rxSeq := dev.txSeq } :=
        ⟨h.version, h.peer_version, rfl, h.pktbuf⟩
      simp only [List.map_cons, sendAll, TcpCall.call, hsent] at harr
      rw [List.filter_cons_of_pos (by simpa using hfits), List.map_cons]
      refine receiveAll_frame (d := .tcp s.header.bytes s.data) harr ?_
        fun bs hbs => ih hstep hbs
      intro stale rxXfers
      rw [Option.elim_some, hlength, deviceDataInput_frame h hrest hle]
      exact ⟨_, rfl, dispatchPacket_tcp h.version h.peer_version s.header s.data rfl hle⟩
    · -- refused: neither side moves
      obtain ⟨e, hrefused⟩ := @sendPacket_refused dev w h.version s hfits
      simp only [List.map_cons, sendAll, TcpCall.call, hrefused, List.nil_append] at harr
      rw [List.filter_cons_of_neg (by simpa using hfits)]
      exact ih h harr

/-- **Mux frames round-trip over whole streams.** A version 2 device sends a setup
packet and then any segments, and the transfers it submits are fed, in that order, to
a version 2 peer that has seen nothing: every one of them is dispatched, or empty, and
the TCP dispatch gets the headers and payloads of exactly the segments that passed the
`USB_MTU` check, in order. A call that does not pass it submits nothing and leaves the
device as it is. -/
theorem frames_round_trip (hdev : 2 ≤ dev.version) (hpeer : 2 ≤ peer.version)
    (hrx : peer.rxSeq = 0xffff) (hpkt : peer.pktlen = 0)
    (hsetup : muxHeaderSize 2 + data.length ≤ usbMtu) (segments : List TcpCall)
    (harr : arrivals.map Arrival.bytes =
      (sendAll w dev (setupCall data :: segments.map TcpCall.call)).1) :
    ((∀ o ∈ (receiveAll peer arrivals).1, o.Smooth) ∧
      handed (receiveAll peer arrivals).1 =
        (segments.filter (·.Fits)).map fun s => (s.header.bytes, s.data)) ∧
      ∀ (dev' : MuxDevice) (s : TcpCall), 2 ≤ dev'.version → ¬s.Fits →
        ∃ e, sendPacket w dev' .tcp s.data (some s.header) = (.error e, dev') := by
  refine ⟨?_, fun dev' s hv hfits => sendPacket_refused hv s hfits⟩
  have hbuf : peer.pktbuf = [] := List.length_eq_zero_iff.mp hpkt
  have hle : 16 + data.length ≤ usbMtu := hsetup
  have hfirst : InStep { dev with txSeq := 0, rxSeq := 0xffff } peer :=
    ⟨hdev, hpeer, by rw [hrx]; rfl, hbuf⟩
  have hlater : InStep { dev with txSeq := 1, rxSeq := 0xffff } { peer with rxSeq := 0 } :=
    ⟨hdev, hpeer, rfl, hbuf⟩
  simp only [sendAll, setupCall, sendPacket_setup hdev rfl hle] at harr
  refine receiveAll_frame (d := .unknown 2) harr ?_
    fun bs hbs => receiveAll_segments hlater segments hbs
  intro stale rxXfers
  rw [List.length_append, length_muxHeader hfirst.version, deviceDataInput_frame hfirst rfl hle]
  exact ⟨_, rfl, by rw [dispatchPacket_setup hfirst.version]; rfl⟩

/-- Two segments, and between them one that does not fit into a frame. -/
def threeSegments : List TcpCall :=
  [⟨⟨List.replicate 20 1, rfl⟩, [3]⟩, ⟨⟨List.replicate 20 1, rfl⟩, List.replicate usbMtu 0⟩,
    ⟨⟨List.replicate 20 2, rfl⟩, []⟩]

/-- The sender has sent nine packets before, and the buffers are not clean. -/
theorem frames_round_trip_refused :
    handed (receiveAll ⟨2, [], 5, 0xffff⟩ ((sendAll 512 ⟨2, [], 9, 9⟩
      (setupCall [7] :: threeSegments.map TcpCall.call)).1.map
        fun bytes => ⟨bytes, fun _ => 0xab, 3⟩)).1 =
      [(List.replicate 20 1, [3]), (List.replicate 20 2, [])] := by
  refine ((@frames_round_trip ⟨2, [], 9, 9⟩ ⟨2, [], 5, 0xffff⟩ 512 [7] _ (by decide) (by decide)
    rfl rfl (by decide) threeSegments ?_).1.2).trans ?_
  · rw [List.map_map]
    exact List.map_id _
  · have hlong : ¬TcpCall.Fits ⟨⟨List.replicate 20 1, rfl⟩, List.replicate usbMtu 0⟩ := by
      rw [TcpCall.Fits, List.length_replicate]
      decide
    rw [threeSegments, List.filter_cons_of_pos (by decide),
      List.filter_cons_of_neg (by rw [decide_eq_true_eq]; exact hlong),
      List.filter_cons_of_pos (by decide), List.filter_nil]
    rfl

end Stream

end Usbmuxd
