import Usbmuxd.Devices.Boundaries
import Usbmuxd.Devices.Reaper
import Usbmuxd.Devices.RoundTrip
import Usbmuxd.Tcp.Outgoing

/-!
# From the clients to the far end of the bus

All connections of a device send through the same endpoint. Whoever has a segment calls
`USBDevice::send_packet`, which numbers the frame and submits it under `_usbLck`; the
segments of the connections come into one order there, whatever order their threads run
in. The bus cuts the transfers into packets. At the far end the packets are put together
to frames again, the frames pass the gate of a device that speaks the same version, and
what is dispatched is told apart by the ports in the TCP headers.

The connections are not the only ones who send. When `device_data_input` gets a segment for a
port without a connection, it answers with an RST of its own (`TCP::send_RST`), made from the
header of that segment, with the unknown port as its source.

This file puts the pieces together. A `Usbmuxd.Bus` is the connections of a device with
the endpoint they send through, and `Usbmuxd.Bus.Delivers` is the invariant of the
endpoint: the far end gets the segments as they were handed over, and it is in step. With
what each connection does with the bytes of its client
(`Usbmuxd.Tcp.Carries`) this makes the way from the clients' sockets to the far end of
the bus: for each connection that has its port to itself, what is dispatched for that port
is a prefix of what its client wrote, and all of it when the client loop has nothing in
hand (`Usbmuxd.Bus.clients_reach_peer`).

Two things are taken for granted. Every transfer is submitted, for one that is not uses up a
number of the sequence and the far end waits for it; and what the connections receive fits into
their buffers (`Usbmuxd.Tcp.Fits`).
-/

namespace Usbmuxd

open Interleaving ShortPackets Tcp

/-! ### TCP headers on the wire -/

/-- A `tcphdr` in network byte order; `th_x2`, the checksum and the urgent pointer are
zero. -/
def TcpHdr.raw (hdr : TcpHdr) : RawTcpHdr where
  bytes := Endian.toBe 2 hdr.thSport.toNat ++ (Endian.toBe 2 hdr.thDport.toNat ++
    (Endian.toBe 4 hdr.thSeq.toNat ++ (Endian.toBe 4 hdr.thAck.toNat ++
      (Endian.toBe 1 (16 * hdr.thOff) ++ (Endian.toBe 1 hdr.thFlags.toNat ++
        (Endian.toBe 2 hdr.thWin.toNat ++ [0, 0, 0, 0]))))))
  length_eq := rfl

/-- The field of a header that starts at byte `o` and has `n` bytes. -/
def headerField (bytes : List UInt8) (o n : ℕ) : ℕ := Endian.be ((bytes.drop o).take n)

/-- A `tcphdr` as it is read from its bytes, each field at its offset and in network byte
order. -/
def TcpHdr.ofBytes (bytes : List UInt8) : TcpHdr where
  thSport := .ofNat 16 (headerField bytes 0 2)
  thDport := .ofNat 16 (headerField bytes 2 2)
  thSeq := .ofNat 32 (headerField bytes 4 4)
  thAck := .ofNat 32 (headerField bytes 8 4)
  thOff := headerField bytes 12 1 / 16
  thFlags := .ofNat 8 (headerField bytes 13 1)
  thWin := .ofNat 16 (headerField bytes 14 2)

/-- A field that holds a bit vector is read back, if it is as wide as the vector. -/
theorem ofNat_be_toBe {v n : ℕ} (h : 2 ^ v = 256 ^ n) (x : BitVec v) :
    BitVec.ofNat v (Endian.be (Endian.toBe n x.toNat)) = x := by
  rw [Endian.be_toBe_of_lt (h ▸ x.isLt), BitVec.ofNat_toNat, BitVec.setWidth_eq]

/-- **A header is read back as it was written**, if its data offset fits into four
bits. -/
theorem TcpHdr.ofBytes_raw (hdr : TcpHdr) (hoff : hdr.thOff < 16) :
    ofBytes hdr.raw.bytes = hdr := by
  have hdoff : headerField hdr.raw.bytes 12 1 = 16 * hdr.thOff :=
    @Endian.be_toBe_of_lt 1 _ (by omega)
  have hsport : BitVec.ofNat 16 (headerField hdr.raw.bytes 0 2) = hdr.thSport :=
    ofNat_be_toBe (n := 2) rfl hdr.thSport
  have hdport : BitVec.ofNat 16 (headerField hdr.raw.bytes 2 2) = hdr.thDport :=
    ofNat_be_toBe (n := 2) rfl hdr.thDport
  have hseq : BitVec.ofNat 32 (headerField hdr.raw.bytes 4 4) = hdr.thSeq :=
    ofNat_be_toBe (n := 4) rfl hdr.thSeq
  have hack : BitVec.ofNat 32 (headerField hdr.raw.bytes 8 4) = hdr.thAck :=
    ofNat_be_toBe (n := 4) rfl hdr.thAck
  have hflags : BitVec.ofNat 8 (headerField hdr.raw.bytes 13 1) = hdr.thFlags :=
    ofNat_be_toBe (n := 1) rfl hdr.thFlags
  have hwin : BitVec.ofNat 16 (headerField hdr.raw.bytes 14 2) = hdr.thWin :=
    ofNat_be_toBe (n := 2) rfl hdr.thWin
  rw [ofBytes, hsport, hdport, hseq, hack, hdoff, hflags, hwin,
    Nat.mul_div_cancel_left _ (by omega)]

/-! ### The endpoint -/

/-- A call of `send_packet` with a TCP header, by a connection or by nobody. -/
structure SendPacketCall where
  /-- The connection that calls, or nobody when `TCP::send_RST` does. -/
  owner : Option ℕ
  /-- The header. -/
  hdr : TcpHdr
  /-- The payload. -/
  payload : List UInt8

/-- The connections of a device and the endpoint they send through. What has been submitted is
kept, as the device will receive it in this order. -/
structure Bus where
  /-- The connections. -/
  host : Conns
  /-- `_muxdev`. -/
  dev : MuxDevice
  /-- The transfers submitted to the endpoint. -/
  submitted : List (List UInt8)
  /-- The calls of `send_packet`, in their order. -/
  calls : List SendPacketCall
  /-- The segments `device_data_input` has found no connection for, and has still to answer. -/
  unknown : List TcpHdr

/-- `TCP::send_RST`, in answer to a segment with the header `hdr`. The ports change places, and
the positions come from the segment. -/
def TcpHdr.rst (hdr : TcpHdr) : TcpHdr where
  thSport := hdr.thDport
  thDport := hdr.thSport
  thSeq := hdr.thAck
  thAck := hdr.thSeq
  thOff := sizeofTcphdr / 4
  thFlags := thRst
  thWin := hdr.thWin

/-- A connection calls `send_packet`, and it is written down which one. -/
def SendPacketCall.callBy (o : ℕ) (seg : WireSegment) : SendPacketCall :=
  ⟨some o, seg.hdr, seg.payload⟩

namespace Bus

/-- What happens on the bus. What is received changes `rx_seq`, which goes into the headers that
are sent. -/
inductive Label
  /-- A step on the connections. -/
  | host (l : Conns.Label)
  /-- `device_data_input` accepts a packet, the last one it has seen from now on. -/
  | received (rxSeq : BitVec 16)
  /-- `device_data_input` answers one of the segments it has found no connection for. -/
  | sendRst (i : ℕ)

/-- `send_packet` is called, and what it submits is added to what has been submitted before. -/
def submit (wMaxPacketSize : ℕ) (b : Bus) (call : SendPacketCall) : Bus :=
  let sent := sendPacket wMaxPacketSize b.dev .tcp call.payload (some call.hdr.raw)
  { b with
    dev := sent.2
    submitted := b.submitted ++
      match sent.1 with
      | .ok transfers => transfers
      | .error _ => []
    calls := b.calls ++ [call] }

/-- The segments that a step on the connections hands to `send_packet`. They can be found by
comparing what the connection has sent before and after. -/
def handedOver (d d' : Conns) : Conns.Label → List SendPacketCall
  | .tcp o _ => ((d'.obj o).core.wire.drop (d.obj o).core.wire.length).map (.callBy o)
  | _ => []

/-- The segments for which `device_data_input` finds no connection, and which it answers with an
RST. -/
def notFound (d : Conns) : Conns.Label → List TcpHdr
  | .dispatch s => if (d.conns.lookup s.hdr.thDport).isSome then [] else [s.hdr]
  | _ => []

/-- One step. What the connections send goes to the endpoint before anything else happens. -/
def step (wMaxPacketSize : ℕ) (b : Bus) : Label → Option Bus
  | .host l => (b.host.step l).map fun host =>
      (handedOver b.host host l).foldl (submit wMaxPacketSize)
        { b with host := host, unknown := b.unknown ++ notFound b.host l }
  | .received rxSeq => some { b with dev := { b.dev with rxSeq := rxSeq } }
  | .sendRst i =>
      b.unknown[i]?.map fun hdr =>
        submit wMaxPacketSize { b with unknown := b.unknown.eraseIdx i } ⟨none, hdr.rst, []⟩

/-- **What the connections receive fits into their buffers.** It is the condition of the single
connections, put on the bus. -/
def Fits (b : Bus) : Label → Prop
  | .host (.tcp o l) => (b.host.obj o).Fits l
  | _ => True

instance (b : Bus) (l : Label) : Decidable (b.Fits l) :=
  match l with
  | .host (.tcp o l) => inferInstanceAs (Decidable ((b.host.obj o).Fits l))
  | .host .startConnect | .host (.makeConn _ _) | .host (.dispatch _) | .host .reap
  | .host .deconstruct | .received _ | .sendRst _ => isTrue trivial

/-- The version has been negotiated, and the setup packet is sent: there are no
connections yet. -/
def start (wMaxPacketSize : ℕ) (dev : MuxDevice) : Bus :=
  let sent := sendAll wMaxPacketSize dev [setupCall [7]]
  ⟨.init, sent.2, sent.1, [], []⟩

end Bus

/-- The bus as a machine. -/
def busMachine (wMaxPacketSize : ℕ) : Machine Bus Bus.Label := ⟨Bus.step wMaxPacketSize⟩

/-! ### What a step on the connections hands over -/

/-- A step that no thread of the connection makes sends nothing, as there is nobody to call
`send_packet`. -/
theorem Tcp.wire_of_not_ofThread {c c' : Tcp} {l : Tcp.Label} (h : c.step l = some c')
    (hl : Conns.ofThread l = false) : c'.core.wire = c.core.wire := by
  cases l with
  | input l =>
    cases l with
    | call s => exact inputStep_call h ▸ rfl
    | _ => cases hl
  | deconstruct => rcases deconstructStep_eq h with ⟨-, rfl⟩ | ⟨-, -, rfl⟩ <;> rfl
  | _ => cases hl

namespace Bus

variable {d d' : Conns} {l : Conns.Label} {o : ℕ}

/-- **What a connection has sent after a step**: what it had sent, and what the step
hands over for it. A number that is not in use yet stands for a connection that has sent
nothing. -/
theorem wire_step (h : d.step l = some d') (hnew : d.made ≤ o → (d.obj o).core.wire = []) :
    (d'.obj o).core.wire.map (.callBy o) = (d.obj o).core.wire.map (.callBy o) ++
      (handedOver d d' l).filter (·.owner = some o) := by
  by_cases hl : ∃ l', l = .tcp o l'
  · -- the step of this connection: what is new is behind what was there
    obtain ⟨l', rfl⟩ := hl
    obtain ⟨-, -, c', hs, rfl⟩ := Conns.step_tcp h
    have hobj : (d.observe o (d.obj o) c' l').obj o = c' := Conns.setObj_self ..
    obtain ⟨news, hnews⟩ := wire_prefix hs
    have hall : (news.map (SendPacketCall.callBy o)).filter (·.owner = some o) =
        news.map (.callBy o) := by
      rw [List.filter_eq_self]
      rintro call hcall
      obtain ⟨seg, -, rfl⟩ := List.mem_map.mp hcall
      exact decide_eq_true rfl
    rw [handedOver, hobj, ← hnews, List.drop_left, hall, List.map_append]
  · have hnone : (handedOver d d' l).filter (·.owner = some o) = [] := by
      rw [List.filter_eq_nil_iff]
      rintro call hcall
      cases l with
      | tcp o' l' =>
        obtain ⟨seg, -, rfl⟩ := List.mem_map.mp hcall
        rw [decide_eq_true_eq]
        intro howner
        cases howner
        exact hl ⟨l', rfl⟩
      | _ => cases hcall
    rw [hnone, List.append_nil]
    rcases Conns.step_obj h o with heq | ⟨l', hs, hthread, -⟩ | ⟨rfl, -, port, dport, seq, heq⟩
    · rw [heq]
    · rw [Tcp.wire_of_not_ofThread hs
        (Bool.eq_false_iff.mpr fun hof => hl ⟨l', hthread hof⟩)]
    · rw [heq, hnew Nat.le.refl]
      rfl

/-- What is handed over is from a connection that has been made, and is among what this
connection has sent. -/
theorem owner_of_handedOver (h : d.step l = some d') {call : SendPacketCall}
    (hcall : call ∈ handedOver d d' l) :
    ∃ o < d.made, ∃ seg ∈ (d'.obj o).core.wire, call = .callBy o seg := by
  cases l with
  | tcp o l' =>
    obtain ⟨hlt, -⟩ := Conns.step_tcp h
    obtain ⟨seg, hseg, rfl⟩ := List.mem_map.mp hcall
    exact ⟨o, hlt, seg, List.mem_of_mem_drop hseg, rfl⟩
  | _ => cases hcall

/-- A step that no thread of the connection makes receives nothing, and so it fits. -/
theorem fits_of_not_ofThread {c : Tcp} {l : Tcp.Label} (hl : Conns.ofThread l = false) :
    c.Fits l := by
  cases l with
  | loop l => cases hl
  | _ => exact Nat.zero_le _

/-! ### The far end -/

/-- The segments among what is dispatched, with their headers, as the far end finds them. -/
def peerSegments (outcomes : List (Outcome (List UInt8))) : List (TcpHdr × List UInt8) :=
  (handed outcomes).map fun p => (TcpHdr.ofBytes p.1, p.2)

theorem peerSegments_append (xs ys : List (Outcome (List UInt8))) :
    peerSegments (xs ++ ys) = peerSegments xs ++ peerSegments ys := by
  rw [peerSegments, handed, List.filterMap_append, List.map_append]
  rfl

/-- **The far end gets what is handed over**: the transfers are those of frames, and of
the frames each is dispatched, in order, and both ends stay in step. -/
structure Delivers (w : ℕ) (peer : MuxDevice) (b : Bus) : Prop where
  version : 2 ≤ b.dev.version
  frames : ∃ frames : List (List UInt8), b.submitted = frames.flatMap (terminate w) ∧
    (∀ frame ∈ frames, frame ≠ []) ∧
    ∀ arrivals : List Arrival, arrivals.map Arrival.bytes = frames →
      (∀ o ∈ (receiveAll peer arrivals).1, o.Smooth) ∧
      peerSegments (receiveAll peer arrivals).1 =
        b.calls.map (fun call => (call.hdr, call.payload)) ∧
      InStep b.dev (receiveAll peer arrivals).2

variable {w : ℕ} {peer : MuxDevice} {b b' : Bus}

/-- A segment that fits into a frame, with a header that can be read back. -/
def Sound (seg : SendPacketCall) : Prop := seg.payload.length ≤ tcpMtu ∧ seg.hdr.thOff < 16

/-- The frame of a segment, with the numbers that the endpoint has at that moment. -/
def segFrame (dev : MuxDevice) (seg : SendPacketCall) : List UInt8 :=
  muxHeader dev .tcp (36 + seg.payload.length) ++ (seg.hdr.raw.bytes ++ seg.payload)

section Frame

variable {dev : MuxDevice} {seg : SendPacketCall}

theorem length_rest (seg : SendPacketCall) :
    36 + seg.payload.length = 16 + (seg.hdr.raw.bytes ++ seg.payload).length := by
  rw [List.length_append, seg.hdr.raw.length_eq, sizeofTcphdr]
  omega

theorem length_segFrame (hv : 2 ≤ dev.version) :
    (segFrame dev seg).length = 36 + seg.payload.length := by
  rw [segFrame, List.length_append, length_muxHeader hv, ← length_rest]

theorem Sound.le_usbMtu (h : Sound seg) : 36 + seg.payload.length ≤ usbMtu := by
  have hframe : 16 + seg.payload.length + 20 ≤ usbMtu := frameLength_le_usbMtu 2 h.1
  omega

/-- `send_packet` accepts the segment, and counts its number up; otherwise the device is as
before. -/
theorem submit_eq (b : Bus) (hv : 2 ≤ b.dev.version) (hseg : Sound seg) :
    b.submit w seg =
      { b with
        dev := { b.dev with txSeq := b.dev.txSeq + 1 }
        submitted := b.submitted ++ terminate w (segFrame b.dev seg)
        calls := b.calls ++ [seg] } := by
  have hsent : sendPacket w b.dev .tcp seg.payload (some seg.hdr.raw) = _ :=
    sendPacket_ok hv (by decide) (length_rest seg) hseg.le_usbMtu
  simp only [submit, hsent]
  rfl

/-- **What the far end makes of the frame of a segment.** -/
theorem receiveAll_segFrame {far : MuxDevice} (h : InStep dev far) (hseg : Sound seg)
    {a : Arrival} (ha : a.bytes = segFrame dev seg) :
    receiveAll far [a] =
      ([.passed (.tcp seg.hdr.raw.bytes seg.payload)], { far with rxSeq := dev.txSeq }) := by
  have hle := hseg.le_usbMtu
  have htcp := @dispatchPacket_tcp dev a.stale _ h.version far.version h.peer_version seg.hdr.raw
    seg.payload rfl hle
  simp only [receiveAll, ha, length_segFrame h.version]
  rw [segFrame, deviceDataInput_frame h (length_rest seg) hle]
  simp only [htcp]

end Frame

/-- **A segment more** is delivered with the others, behind all that have been submitted
before. -/
theorem Delivers.submit (h : b.Delivers w peer) {seg : SendPacketCall} (hseg : Sound seg) :
    (b.submit w seg).Delivers w peer := by
  obtain ⟨frames, hsub, hne, hfar⟩ := h.frames
  rw [submit_eq b h.version hseg]
  refine ⟨h.version, frames ++ [segFrame b.dev seg], ?_, ?_, ?_⟩
  · rw [List.flatMap_append, List.flatMap_singleton, hsub]
  · rintro frame hframe
    rcases List.mem_append.mp hframe with hframe | hframe
    · exact hne frame hframe
    · rw [List.mem_singleton.mp hframe, ← List.length_pos_iff, length_segFrame h.version]
      omega
  · rintro arrivals harr
    obtain ⟨before, last, rfl, hbefore, hlast⟩ := List.map_eq_append_iff.mp harr
    obtain ⟨a, rfl, ha⟩ := List.map_eq_singleton_iff.mp hlast
    obtain ⟨hsmooth, hsegs, hstep⟩ := hfar before hbefore
    -- the far end has seen the frames before, and this one is next
    rw [receiveAll_append, receiveAll_segFrame hstep hseg ha]
    refine ⟨?_, ?_, hstep.version, hstep.peer_version, rfl, hstep.pktbuf⟩
    · rintro o ho
      rcases List.mem_append.mp ho with ho | ho
      · exact hsmooth o ho
      · exact List.mem_singleton.mp ho ▸ trivial
    · have hhdr : TcpHdr.ofBytes seg.hdr.raw.bytes = seg.hdr := seg.hdr.ofBytes_raw hseg.2
      rw [peerSegments_append, hsegs, List.map_append, List.map_singleton]
      exact congrArg (fun hdr => _ ++ [(hdr, seg.payload)]) hhdr

/-- Several segments, by induction on their number. A step hands over one at most, but this is
not needed here. -/
theorem Delivers.submitAll (h : b.Delivers w peer) {calls : List SendPacketCall}
    (hcalls : ∀ call ∈ calls, Sound call) :
    (calls.foldl (Bus.submit w) b).Delivers w peer := by
  induction calls generalizing b with
  | nil => exact h
  | cons call calls ih =>
    exact ih (h.submit (hcalls call List.mem_cons_self))
      fun other hother => hcalls other (List.mem_cons_of_mem _ hother)

/-- What calls of `send_packet` leave alone, and what they are recorded as. The connections do
not notice them. -/
theorem foldl_submit (b : Bus) (calls : List SendPacketCall) :
    (calls.foldl (submit w) b).host = b.host ∧
      (calls.foldl (submit w) b).calls = b.calls ++ calls := by
  induction calls generalizing b with
  | nil => exact ⟨rfl, (List.append_nil _).symm⟩
  | cons call calls ih =>
    obtain ⟨hhost, hcalls⟩ := ih (b.submit w call)
    refine ⟨hhost, hcalls.trans ?_⟩
    rw [submit, List.append_assoc, List.singleton_append]

/-- The frame of the setup packet, which starts the numbering anew on both sides. -/
def setupFrame (dev : MuxDevice) : List UInt8 :=
  muxHeader { dev with txSeq := 0, rxSeq := 0xffff } .setup 17 ++ [7]

theorem length_setupFrame {dev : MuxDevice} (hv : 2 ≤ dev.version) :
    (setupFrame dev).length = 17 := by
  have hlength : (muxHeader { dev with txSeq := 0, rxSeq := 0xffff } .setup 17).length = 16 :=
    length_muxHeader hv
  rw [setupFrame, List.length_append, hlength, List.length_singleton]

theorem start_eq {dev : MuxDevice} (hv : 2 ≤ dev.version) :
    start w dev = ⟨.init, { dev with txSeq := 1, rxSeq := 0xffff }, terminate w (setupFrame dev),
      [], []⟩ := by
  have hsent : sendPacket w dev .setup [7] none = _ :=
    sendPacket_setup (n := 17) hv rfl (by decide)
  simp only [start, sendAll, setupCall, hsent, List.append_nil]
  rfl

/-- **After the setup packet both ends are in step**, whatever has been sent before. -/
theorem delivers_start {dev : MuxDevice} (hv : 2 ≤ dev.version) (hpeer : 2 ≤ peer.version)
    (hrx : peer.rxSeq = 0xffff) (hpkt : peer.pktlen = 0) : (start w dev).Delivers w peer := by
  have hbuf : peer.pktbuf = [] := List.length_eq_zero_iff.mp hpkt
  have hfirst : InStep { dev with txSeq := 0, rxSeq := 0xffff } peer :=
    ⟨hv, hpeer, by rw [hrx]; rfl, hbuf⟩
  rw [start_eq hv]
  refine ⟨hv, [setupFrame dev], (List.flatMap_singleton ..).symm, ?_, ?_⟩
  · rintro frame hframe
    rw [List.mem_singleton.mp hframe, ← List.length_pos_iff, length_setupFrame hv]
    decide
  · rintro arrivals harr
    obtain ⟨a, rfl, ha⟩ := List.map_eq_singleton_iff.mp harr
    have hdata : deviceDataInput ⟨peer, a.rxXfers⟩ [] (received a.stale (setupFrame dev)) 17 = _ :=
      deviceDataInput_frame hfirst rfl (by decide)
    have hone : receiveAll peer [a] = ([.passed (.unknown 2)], { peer with rxSeq := 0 }) := by
      simp only [receiveAll, ha, length_setupFrame hv, hdata]
      rw [dispatchPacket_setup hfirst.version]
      rfl
    rw [hone]
    refine ⟨?_, rfl, hv, hpeer, rfl, hbuf⟩
    rintro o ho
    exact List.mem_singleton.mp ho ▸ trivial

/-! ### The whole way -/

/-- **What holds on the bus**: each connection carries the bytes of its client, what it has
sent is what has been handed over for it, an RST for an unknown port has no payload, and the far
end gets what is handed over. -/
structure Carries (w : ℕ) (peer : MuxDevice) (b : Bus) : Prop where
  conns : ∀ o, (b.host.obj o).Carries ∧ (b.host.obj o).Stamped
  owners : ∀ call ∈ b.calls, ∀ o, call.owner = some o → o < b.host.made
  rsts : ∀ call ∈ b.calls, call.owner = none → call.payload = []
  wires : ∀ o, b.calls.filter (·.owner = some o) = (b.host.obj o).core.wire.map (.callBy o)
  delivers : b.Delivers w peer

namespace Carries

/-- A number that is not in use yet has sent nothing. -/
theorem wire_eq_nil (h : b.Carries w peer) {o : ℕ} (ho : b.host.made ≤ o) :
    (b.host.obj o).core.wire = [] := by
  rw [← List.map_eq_nil_iff, ← h.wires o, List.filter_eq_nil_iff]
  rintro call hcall
  rw [decide_eq_true_eq]
  exact fun howner => absurd ho (h.owners call hcall o howner).not_ge

/-- A step on the connections carries on what holds of each of them. -/
theorem conns_step (h : b.Carries w peer) {d' : Conns} {l : Conns.Label}
    (hfits : b.Fits (.host l)) (hs : b.host.step l = some d') (o : ℕ) :
    (d'.obj o).Carries ∧ (d'.obj o).Stamped := by
  obtain ⟨hcarries, hstamped⟩ := h.conns o
  rcases Conns.step_obj hs o with heq | ⟨l', hs', hthread, -⟩ | ⟨-, -, port, dport, seq, heq⟩
  · exact heq ▸ ⟨hcarries, hstamped⟩
  · have hfits' : (b.host.obj o).Fits l' := by
      cases hof : Conns.ofThread l' with
      | false => exact fits_of_not_ofThread hof
      | true =>
        rw [hthread hof] at hfits
        exact hfits
    exact ⟨hcarries.step hfits' hs', hstamped.step hs'⟩
  · exact heq ▸ ⟨Or.inl (opening_new ..), fun _ hseg => absurd hseg List.not_mem_nil⟩

/-- **A step on the connections**, with all that is handed over by it. -/
theorem host (h : b.Carries w peer) {d' : Conns} {l : Conns.Label} (hfits : b.Fits (.host l))
    (hs : b.host.step l = some d') :
    ((handedOver b.host d' l).foldl (submit w)
      { b with host := d', unknown := b.unknown ++ notFound b.host l }).Carries w peer := by
  have hconns := h.conns_step hfits hs
  obtain ⟨hhost, hcalls⟩ := foldl_submit (w := w)
    { b with host := d', unknown := b.unknown ++ notFound b.host l } (handedOver b.host d' l)
  have hmade := (Conns.step_books hs).made
  refine ⟨?_, ?_, ?_, ?_, ?_⟩
  · rw [hhost]
    exact hconns
  · rw [hhost, hcalls]
    rintro call hcall o howner
    rcases List.mem_append.mp hcall with hcall | hcall
    · exact (h.owners call hcall o howner).trans_le hmade
    · obtain ⟨o', hlt, seg, -, rfl⟩ := owner_of_handedOver hs hcall
      cases howner
      exact hlt.trans_le hmade
  · rw [hcalls]
    rintro call hcall hnone
    rcases List.mem_append.mp hcall with hcall | hcall
    · exact h.rsts call hcall hnone
    · obtain ⟨o', -, seg, -, rfl⟩ := owner_of_handedOver hs hcall
      cases hnone
  · rw [hhost, hcalls]
    rintro o
    rw [List.filter_append, wire_step hs h.wire_eq_nil]
    exact congrArg (· ++ _) (h.wires o)
  · refine Delivers.submitAll ?_ ?_
    · exact ⟨h.delivers.version, h.delivers.frames⟩
    · rintro call hcall
      obtain ⟨o, -, seg, hmem, rfl⟩ := owner_of_handedOver hs hcall
      obtain ⟨hcarries, hstamped⟩ := hconns o
      refine ⟨hcarries.length_le hmem, ?_⟩
      rw [SendPacketCall.callBy, (hstamped _ hmem).thOff]
      decide

/-- **An RST for an unknown port**, which belongs to no connection, but goes the same way. -/
theorem sendRst (h : b.Carries w peer) (hdr : TcpHdr) (unknown : List TcpHdr) :
    (submit w { b with unknown := unknown } ⟨none, hdr.rst, []⟩).Carries w peer where
  conns := h.conns
  owners call hcall o howner := by
    rcases List.mem_append.mp hcall with hcall | hcall
    · exact h.owners call hcall o howner
    · cases List.mem_singleton.mp hcall
      cases howner
  rsts call hcall hnone := by
    rcases List.mem_append.mp hcall with hcall | hcall
    · exact h.rsts call hcall hnone
    · cases List.mem_singleton.mp hcall
      rfl
  wires o := by
    simp only [submit, List.filter_append]
    rw [h.wires o]
    exact List.append_nil _
  delivers := by
    have hdelivers : Delivers w peer { b with unknown := unknown } :=
      ⟨h.delivers.version, h.delivers.frames⟩
    exact hdelivers.submit ⟨Nat.zero_le _, (by decide : sizeofTcphdr / 4 < 16)⟩

/-- **Every step of the bus.** -/
theorem step (h : b.Carries w peer) {l : Label} (hfits : b.Fits l) (hs : b.step w l = some b') :
    b'.Carries w peer := by
  cases l with
  | host l =>
    obtain ⟨d', hd, rfl⟩ := Option.map_eq_some_iff.mp hs
    exact h.host hfits hd
  | received rxSeq =>
    -- the number a frame says has been received is not looked at
    cases hs
    obtain ⟨frames, hsub, hne, hfar⟩ := h.delivers.frames
    refine ⟨h.conns, h.owners, h.rsts, h.wires, h.delivers.version, frames, hsub, hne, ?_⟩
    rintro arrivals harr
    obtain ⟨hsmooth, hsegs, hstep⟩ := hfar arrivals harr
    exact ⟨hsmooth, hsegs, hstep.version, hstep.peer_version, hstep.next, hstep.pktbuf⟩
  | sendRst i =>
    obtain ⟨hdr, -, rfl⟩ := Option.map_eq_some_iff.mp hs
    exact h.sendRst hdr _

theorem start {dev : MuxDevice} (hv : 2 ≤ dev.version) (hpeer : 2 ≤ peer.version)
    (hrx : peer.rxSeq = 0xffff) (hpkt : peer.pktlen = 0) : (start w dev).Carries w peer := by
  have hdelivers := delivers_start (w := w) hv hpeer hrx hpkt
  rw [start_eq hv] at hdelivers ⊢
  exact ⟨fun _ => ⟨Or.inl (opening_new ..), fun _ hseg => absurd hseg List.not_mem_nil⟩,
    fun _ hcall => absurd hcall List.not_mem_nil, fun _ hcall => absurd hcall List.not_mem_nil,
    fun _ => rfl, hdelivers⟩

end Carries

/-- What is dispatched for a source port, put together from all segments with this port. -/
def payloadsFrom (port : BitVec 16) (segments : List (TcpHdr × List UInt8)) : List UInt8 :=
  ((segments.filter (·.1.thSport = port)).map Prod.snd).flatten

/-- No other connection has had the port of this one. Otherwise the far end could not tell them
apart by their ports. -/
def OwnPort (d : Conns) (o : ℕ) : Prop :=
  ∀ o' < d.made, (d.obj o').core.sPort = (d.obj o).core.sPort → o' = o

instance (d : Conns) (o : ℕ) : Decidable (OwnPort d o) :=
  inferInstanceAs (Decidable (∀ _ < _, _))

/-- Two choices from a list come to the same if they differ in empty pieces only. -/
theorem flatten_filter_congr {α β : Type} {f : α → List β} {p q : α → Bool} {l : List α}
    (h : ∀ x ∈ l, p x = q x ∨ f x = []) :
    ((l.filter p).map f).flatten = ((l.filter q).map f).flatten := by
  induction l with
  | nil => rfl
  | cons x l ih =>
    have hrest := ih fun y hy => h y (List.mem_cons_of_mem x hy)
    rw [List.filter_cons, List.filter_cons]
    rcases h x List.mem_cons_self with hsame | hempty
    · rw [hsame]
      split
      · rw [List.map_cons, List.map_cons, List.flatten_cons, List.flatten_cons, hrest]
      · exact hrest
    · split <;> split <;> simp only [List.map_cons, List.flatten_cons, hempty, List.nil_append,
        hrest]

/-- **What is dispatched for a port is what the connection on it has sent**: an RST that has the
port as its source has no payload. -/
theorem Carries.payloadsFrom_eq (h : b.Carries w peer) {o : ℕ} (hown : OwnPort b.host o) :
    payloadsFrom (b.host.obj o).core.sPort
        (b.calls.map fun call => (call.hdr, call.payload)) =
      sentBytes (b.host.obj o).core.wire := by
  have howner : ∀ call ∈ b.calls,
      decide (call.hdr.thSport = (b.host.obj o).core.sPort) = decide (call.owner = some o) ∨
        call.payload = [] := by
    rintro call hcall
    cases hcaller : call.owner with
    | none => exact Or.inr (h.rsts call hcall hcaller)
    | some o' =>
      have hmem : call ∈ (b.host.obj o').core.wire.map (.callBy o') := by
        rw [← h.wires o']
        exact List.mem_filter.mpr ⟨hcall, decide_eq_true hcaller⟩
      obtain ⟨seg, hseg, rfl⟩ := List.mem_map.mp hmem
      refine Or.inl (decide_eq_decide.mpr ?_)
      rw [SendPacketCall.callBy, ((h.conns o').2 _ hseg).thSport, Option.some_inj]
      constructor
      · exact hown o' (h.owners _ hcall o' hcaller)
      · rintro rfl
        rfl
  have hcalls := flatten_filter_congr howner
  rw [h.wires o, List.map_map] at hcalls
  rw [payloadsFrom, List.filter_map, List.map_map]
  exact hcalls

/-- **The bytes of the clients reach the far end of the bus**, in every run of the
connections of a device after the setup packet, as long as what is received fits into their
buffers. The packets on the bus make whole frames, and each frame is dispatched. For every
connection that has its port to itself, what is dispatched for the port is a prefix of what its
client wrote, and all of it when the client loop has nothing in hand. -/
theorem clients_reach_peer (hw : 1 ≤ w) {dev : MuxDevice} (hv : 2 ≤ dev.version)
    (hpeer : 2 ≤ peer.version) (hrx : peer.rxSeq = 0xffff) (hpkt : peer.pktlen = 0)
    (h : (busMachine w).Reaches Fits (start w dev) b) :
    (messages w [] (b.submitted.flatMap (cut w))).2 = [] ∧
    ∀ arrivals : List Arrival,
      arrivals.map Arrival.bytes = (messages w [] (b.submitted.flatMap (cut w))).1 →
        (∀ out ∈ (receiveAll peer arrivals).1, out.Smooth) ∧
        ∀ o, OwnPort b.host o →
          payloadsFrom (b.host.obj o).core.sPort (peerSegments (receiveAll peer arrivals).1) <+:
              (b.host.obj o).received ∧
            ((b.host.obj o).loop.EmptyHanded →
              payloadsFrom (b.host.obj o).core.sPort
                  (peerSegments (receiveAll peer arrivals).1) = (b.host.obj o).received) := by
  have hcarries : b.Carries w peer := h.invariant (I := Carries w peer)
    (.start hv hpeer hrx hpkt) fun _ _ _ hi hfits hs => hi.step hfits hs
  obtain ⟨frames, hsub, hne, hfar⟩ := hcarries.delivers.frames
  rw [hsub, messages_flatMap hw hne]
  refine ⟨rfl, fun arrivals harr => ?_⟩
  obtain ⟨hsmooth, hsegs, -⟩ := hfar arrivals harr
  refine ⟨hsmooth, fun o hown => ?_⟩
  rw [hsegs, hcarries.payloadsFrom_eq hown]
  have hconn := (hcarries.conns o).1
  exact ⟨hconn.sent_prefix, hconn.sent_eq⟩

/-- The handshake of connection `o`, which has been given `port`, up to the start of its
client loop. -/
def connected (o : ℕ) (port : BitVec 16) : List Label :=
  ([.tcp o (.connect true), .tcp o (.connect true),
    .dispatch ⟨⟨62078, port, 0, 8, 5, thSyn ||| thAck, 512⟩, [], Nat.zero_le _⟩,
    .tcp o (.input (.lockStx 0 false)), .tcp o (.connect true), .tcp o (.connect true),
    .tcp o (.connect true), .tcp o (.connect true), .tcp o (.connect true),
    .tcp o (.connect true)] : List Conns.Label).map Label.host

/-- The client of connection `o` writes something, and it is sent at once, as the window is
open. -/
def wrote (o : ℕ) (bytes : List UInt8) : List Label :=
  ([.loopEvent, .poll (.revents pollin), .recv (.data bytes), .sendData] : List LoopLabel).map
    fun l => .host (.tcp o (.loop l))

/-- A segment for a port that no connection has, as it may come when the connection has been
closed. -/
def lateSegment : Segment := ⟨⟨62078, 9, 4, 8, 5, thAck, 512⟩, [], Nat.zero_le _⟩

/-- Two connections to the same port, whose clients take turns; in between a segment comes for a
third port and is answered. -/
theorem clients_reach_peer_turns :
    ∃ b : Bus, ∀ arrivals : List Arrival,
      arrivals.map Arrival.bytes = (messages 512 [] (b.submitted.flatMap (cut 512))).1 →
        payloadsFrom 1 (peerSegments (receiveAll ⟨2, [], 0, 0xffff⟩ arrivals).1) = [3, 5] ∧
        payloadsFrom 2 (peerSegments (receiveAll ⟨2, [], 0, 0xffff⟩ arrivals).1) = [4] := by
  obtain ⟨b, hr, hp⟩ := (busMachine 512).exists_reaches_of_runOk Fits
    (start 512 ⟨2, [], 9, 9⟩)
    ([.host .startConnect, .host (.makeConn 62078 7), .host .startConnect,
      .host (.makeConn 62078 7)] ++ connected 0 1 ++ connected 1 2 ++ wrote 0 [3] ++
      [.host (.dispatch lateSegment)] ++ wrote 1 [4] ++ [.received 5, .sendRst 0] ++
      wrote 0 [5])
    (fun b => ((b.host.obj 0).core.sPort = 1 ∧ (b.host.obj 0).received = [3, 5] ∧
        (b.host.obj 0).loop = .start ∧ OwnPort b.host 0) ∧
      (b.host.obj 1).core.sPort = 2 ∧ (b.host.obj 1).received = [4] ∧
        (b.host.obj 1).loop = .start ∧ OwnPort b.host 1) (by decide)
  obtain ⟨⟨hport₀, hrecv₀, hloop₀, hown₀⟩, hport₁, hrecv₁, hloop₁, hown₁⟩ := of_decide_eq_true hp
  refine ⟨b, fun arrivals harr => ?_⟩
  obtain ⟨-, hall⟩ := (@clients_reach_peer 512 ⟨2, [], 0, 0xffff⟩ b (by decide) ⟨2, [], 9, 9⟩
    (by decide) (by decide) rfl rfl hr).2 arrivals harr
  have h₀ := (hall 0 hown₀).2 (by rw [hloop₀]; trivial)
  have h₁ := (hall 1 hown₁).2 (by rw [hloop₁]; trivial)
  rw [hport₀, hrecv₀] at h₀
  rw [hport₁, hrecv₁] at h₁
  exact ⟨h₀, h₁⟩

end Bus

end Usbmuxd
