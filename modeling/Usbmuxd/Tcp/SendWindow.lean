import Usbmuxd.Tcp.Steps

/-!
# From the client to the device

The client loop receives from the client's socket into a ring buffer and hands what
it has received to `send_data`, a segment at a time, each no longer than what the
device still has room for. The device moves the window and its acknowledgement while
this goes on, so each attempt looks at them again under `_lockStx`.

The invariant is what the buffer is for (`Usbmuxd.Tcp.Sends.place`): what has been
received is what has been sent, followed by what `loopEvent` still has to send, read
from the buffer. From it, and from the two tests of `send_data`, follows what the
device sees (`Usbmuxd.device_stream_intact`): the payloads are a prefix of the
client's bytes, each segment says where its payload starts, is not empty, fits into a
frame, and fits into the window.

The buffer is an allocation of `TCP::bufsize` bytes, and what is behind it belongs to
others, who may write there at any time (`Usbmuxd.DataStream`). A byte that is received
behind the end of the buffer need not be the one that is sent
(`Usbmuxd.device_stream_overrun`), so what is received has to fit
(`Usbmuxd.Tcp.Fits`). The first `recv` of a call of `loopEvent` never writes behind the
end; the later ones, when the client is gone, may do so (`Usbmuxd.Tcp.Ring`).
-/

namespace Usbmuxd

open Interleaving

/-! ### The bytes in flight -/

/-- The segment has the header of the connection with this port. By it the device knows to which
connection a segment belongs. -/
structure WireSegment.From (seg : WireSegment) (sPort : BitVec 16) : Prop where
  thSport : seg.hdr.thSport = sPort
  thOff : seg.hdr.thOff = sizeofTcphdr / 4

/-- The macro `unacked` is the distance from `seqAcked` to `seq`, on either side of
the wrap. -/
theorem TCPSenderState.unacked_eq (stx : TCPSenderState) :
    stx.unacked = (stx.seq - stx.seqAcked).toNat := by
  unfold unacked
  split
  · rfl
  · have hq := stx.seq.isLt
    have ha := stx.seqAcked.isLt
    rw [BitVec.toNat_sub]
    congr 1
    omega

namespace Tcp

/-- The payload bytes of the segments, in the order in which they have been sent. -/
def sentBytes (wire : List WireSegment) : List UInt8 := (wire.map WireSegment.payload).flatten

theorem sentBytes_append (wire : List WireSegment) (seg : WireSegment) :
    sentBytes (wire ++ [seg]) = sentBytes wire ++ seg.payload := by
  simp [sentBytes]

/-- **A data segment as the device expects it**, when `before` has been sent: it says
where its payload starts, is neither empty nor too long for a frame, and fits into
the window the sender knew of. -/
structure WellSent (seq0 : BitVec 32) (before : List WireSegment) (seg : WireSegment) : Prop where
  thSeq : seg.hdr.thSeq = seq0 + BitVec.ofNat 32 (sentBytes before).length
  length_pos : 1 ≤ seg.payload.length
  length_le : seg.payload.length ≤ tcpMtu
  frame_le : ∀ version, frameLength version seg.payload.length ≤ usbMtu
  window : (seg.builtFrom.seq - seg.builtFrom.seqAcked).toNat + seg.payload.length ≤
    seg.builtFrom.inWin.toNat

/-- Every data segment was well sent. -/
def AllWellSent (seq0 : BitVec 32) (wire : List WireSegment) : Prop :=
  ∀ k seg, wire[k]? = some seg → seg.payload ≠ [] → WellSent seq0 (wire.take k) seg

variable {seq0 : BitVec 32}

theorem AllWellSent.append {wire : List WireSegment} {seg : WireSegment}
    (h : AllWellSent seq0 wire) (hseg : seg.payload ≠ [] → WellSent seq0 wire seg) :
    AllWellSent seq0 (wire ++ [seg]) := by
  intro k t hk hne
  rcases Nat.lt_or_ge k wire.length with hlt | hge
  · rw [List.getElem?_append_left hlt] at hk
    rw [List.take_append_of_le_length hlt.le]
    exact h k t hk hne
  · have hlt := (List.getElem?_eq_some_iff.mp hk).1
    rw [List.length_append, List.length_singleton] at hlt
    obtain rfl : k = wire.length := by omega
    obtain rfl : seg = t := by simpa using hk
    rw [List.take_left]
    exact hseg hne

/-! ### The segments of a step -/

section Adds

variable {c c' : Tcp} {i : ℕ} {s : Segment} {members : Bool}

/-- At most one segment is sent, and only `send_data` sends a payload. Nothing that has been
sent before is changed. -/
def Core.Adds (payload : Prop) (o o' : Core) : Prop :=
  o'.wire = o.wire ∨
    ∃ seg, o'.wire = o.wire ++ [seg] ∧ seg.From o.sPort ∧ (seg.payload = [] ∨ payload)

namespace Core

variable {o o' : Core} {payload : Prop}

/-- A segment without payload, which adds nothing to the bytes that have been sent. -/
theorem adds_empty {seg : WireSegment} (h : o'.wire = o.wire ++ [seg])
    (hfrom : seg.From o.sPort) (hseg : seg.payload = []) : o.Adds payload o' :=
  Or.inr ⟨seg, h, hfrom, Or.inl hseg⟩

theorem adds_sendAckNolock : o.Adds payload o.sendAckNolock := by
  unfold sendAckNolock
  split
  · exact adds_empty rfl ⟨rfl, rfl⟩ rfl
  · exact Or.inl rfl

theorem adds_countSegment : o.Adds payload (o.countSegment s members) := by
  unfold countSegment
  dsimp only
  split
  · exact @adds_sendAckNolock { o with stx := { o.stx with
      inWin := s.window, seqAcked := s.hdr.thAck, ack := o.stx.ack + s.payloadLen } } payload
  · exact Or.inl rfl

theorem adds_acceptSynAck : o.Adds payload (o.acceptSynAck s) :=
  @adds_sendAckNolock { o with stx := { o.stx with
    seq := o.stx.seq + 1, ack := s.hdr.thSeq + 1, inWin := s.window
    pktForwarded := s.hdr.thSeq + 1 } } payload

end Core

variable {payload : Prop}

theorem adds_ackGate : c.core.Adds payload (c.ackGate i s members).core := by
  rcases ackGate_cases c i s members with ⟨-, heq⟩ | ⟨-, heq⟩ <;> rw [heq]
  · exact Or.inl rfl
  · exact Core.adds_countSegment

theorem adds_firstHalf : c.core.Adds payload (c.firstHalf i s members).core := by
  unfold firstHalf
  split
  · split_ifs
    · exact Core.adds_acceptSynAck
    · exact Or.inl rfl
    · exact Or.inl rfl
  · split_ifs
    · exact adds_ackGate
    · exact Or.inl rfl
    · exact Or.inl rfl
  · exact Or.inl rfl
  · exact Or.inl rfl

theorem adds_input {l : InputLabel} (h : c.inputStep l = some c') :
    c.core.Adds payload c'.core := by
  cases l with
  | call s => exact inputStep_call h ▸ Or.inl rfl
  | lockStx i members =>
    obtain ⟨s, -, ⟨-, rfl⟩ | ⟨-, rfl⟩⟩ := inputStep_lockStx h
    · exact adds_firstHalf
    · exact adds_ackGate
  | ackWake i => obtain ⟨w, -, -, ⟨-, rfl⟩ | ⟨-, rfl⟩⟩ := inputStep_ackWake h <;> exact Or.inl rfl
  | lockClientSend i =>
    obtain ⟨s, -, -, -, rfl⟩ := inputStep_lockClientSend h
    rcases forwardGate_cases c i s with ⟨-, heq⟩ | ⟨-, heq⟩ <;> rw [heq] <;> exact Or.inl rfl
  | fwdWake i => obtain ⟨w, -, -, ⟨-, rfl⟩ | ⟨-, rfl⟩⟩ := inputStep_fwdWake h <;> exact Or.inl rfl
  | fwdTest i => obtain ⟨-, ⟨-, rfl⟩ | ⟨-, rfl⟩⟩ := inputStep_fwdTest h <;> exact Or.inl rfl
  | send i r =>
    obtain ⟨s, -, -, rfl⟩ := inputStep_send h
    unfold forwardPayload
    dsimp only
    split <;> exact Or.inl rfl

/-- **A step sends at most one segment**, with the header of this connection, and none
with a payload unless it is a step of `send_data`. -/
theorem step_wire {l : Label} (h : c.step l = some c') :
    c.core.Adds (l = .loop .sendData) c'.core := by
  cases l with
  | input l => exact adds_input h
  | loop l =>
    cases loopStep_move h with
    | sendFast | sendSlow => exact Or.inr ⟨_, rfl, ⟨rfl, rfl⟩, Or.inr rfl⟩
    | recvEnd => exact Core.adds_empty rfl ⟨rfl, rfl⟩ rfl
    | _ => exact Or.inl rfl
  | connect ok =>
    cases connectStep_move h with
    | syn => exact Core.adds_empty rfl ⟨rfl, rfl⟩ rfl
    | _ => exact Or.inl rfl
  | deconstruct => rcases deconstructStep_eq h with ⟨-, rfl⟩ | ⟨-, -, rfl⟩ <;> exact Or.inl rfl
  | notify l =>
    obtain ⟨wl, out, rfl⟩ := notifyStep_eq h
    exact Or.inl rfl

end Adds

/-! ### Steps that send no data -/

/-- No data is sent and the sequence number stays, as after the handshake with
everything but `send_data`. -/
structure Core.NoData (o o' : Core) : Prop where
  seq : o'.stx.seq = o.stx.seq
  wire : o'.wire = o.wire ∨ ∃ seg, seg.payload = [] ∧ o'.wire = o.wire ++ [seg]
  connState : o'.connState = o.connState ∨ o'.connState = .connDying

namespace Core

variable {o : Core}

theorem NoData.rfl : o.NoData o := ⟨Eq.refl _, Or.inl (Eq.refl _), Or.inl (Eq.refl _)⟩

theorem noData_kill : o.NoData o.kill := ⟨rfl, Or.inl rfl, Or.inl rfl⟩

theorem noData_sendFin : o.NoData o.sendFin := ⟨rfl, Or.inr ⟨_, rfl, rfl⟩, Or.inl rfl⟩

theorem noData_deconstruct : o.NoData o.deconstruct := ⟨rfl, Or.inl rfl, Or.inr rfl⟩

theorem noData_countSegment (s : Segment) (members : Bool) :
    o.NoData (o.countSegment s members) := by
  unfold countSegment sendAckNolock
  dsimp only
  split_ifs
  · exact ⟨rfl, Or.inr ⟨_, rfl, rfl⟩, Or.inl rfl⟩
  · exact ⟨rfl, Or.inl rfl, Or.inl rfl⟩
  · exact ⟨rfl, Or.inl rfl, Or.inl rfl⟩

end Core

variable {c c' : Tcp} {i : ℕ} {s : Segment} {members : Bool}

theorem noData_ackGate : c.core.NoData (c.ackGate i s members).core := by
  unfold ackGate
  split
  · exact .rfl
  · exact Core.noData_countSegment s members

theorem noData_firstHalf (hc : c.core.connState ≠ .connConnecting) :
    c.core.NoData (c.firstHalf i s members).core := by
  unfold firstHalf
  split
  · next h => exact absurd h hc
  · split_ifs
    · exact noData_ackGate
    · exact Core.noData_kill
    · exact .rfl
  · exact .rfl
  · exact .rfl

/-- After the handshake a receiver sends no data, but only acknowledgements. -/
theorem inputStep_noData {l : InputLabel} (hc : c.core.connState ≠ .connConnecting)
    (h : c.inputStep l = some c') : c.core.NoData c'.core := by
  cases l with
  | call s => exact inputStep_call h ▸ .rfl
  | lockStx i members =>
    obtain ⟨s, -, ⟨-, rfl⟩ | ⟨-, rfl⟩⟩ := inputStep_lockStx h
    · exact noData_firstHalf hc
    · exact noData_ackGate
  | ackWake i =>
    obtain ⟨w, -, -, ⟨-, rfl⟩ | ⟨-, rfl⟩⟩ := inputStep_ackWake h <;> exact .rfl
  | lockClientSend i =>
    obtain ⟨s, -, -, -, rfl⟩ := inputStep_lockClientSend h
    unfold forwardGate
    split <;> exact .rfl
  | fwdWake i =>
    obtain ⟨w, -, -, ⟨-, rfl⟩ | ⟨-, rfl⟩⟩ := inputStep_fwdWake h <;> exact .rfl
  | fwdTest i =>
    obtain ⟨-, ⟨-, rfl⟩ | ⟨-, rfl⟩⟩ := inputStep_fwdTest h <;> exact .rfl
  | send i r =>
    obtain ⟨s, -, -, rfl⟩ := inputStep_send h
    unfold forwardPayload
    dsimp only
    split <;> exact ⟨rfl, Or.inl rfl, Or.inl rfl⟩

/-! ### The invariant -/

/-- What has been received and how much of it has been sent, by where the client loop
is. What is still to be sent is inside the buffer. -/
def LoopPc.Place (sent received : List UInt8) (buf : ℕ → UInt8) : LoopPc → Prop
  | .sending call _ =>
      received = sent ++ Memory.read buf call.bufstart call.cnt ∧ 0 < call.cnt ∧
        call.bufstart + call.cnt ≤ tcpBufsize
  | .threw => sent <+: received
  | _ => received = sent

theorem LoopPc.Place.sent_prefix {sent received : List UInt8} {buf : ℕ → UInt8} {pc : LoopPc}
    (h : pc.Place sent received buf) : sent <+: received := by
  cases pc with
  | sending call pc => exact h.1 ▸ List.prefix_append _ _
  | threw => exact h
  | off => exact h ▸ List.prefix_rfl
  | start => exact h ▸ List.prefix_rfl
  | polling => exact h ▸ List.prefix_rfl
  | receiving => exact h ▸ List.prefix_rfl
  | finished => exact h ▸ List.prefix_rfl

/-- The offset behind the last byte that a step writes to `_payloadBuf`: what `recv` returns is
written from `bufstart` on, and no other step writes there. -/
def writesUpTo (c : Tcp) : Label → ℕ
  | .loop (.recv (.data bytes)) =>
      match c.loop with
      | .receiving bufstart _ _ => bufstart + bytes.length
      | _ => 0
  | _ => 0

/-- **The bytes fit**: what is received is written to the buffer, and not behind its end. For the
first `recv` of a call of `loopEvent` this is so, since the room ends with the buffer; the later
ones, when the client is gone, are given the same room at a later offset. -/
def Fits (c : Tcp) (l : Label) : Prop := c.writesUpTo l ≤ tcpBufsize

instance (c : Tcp) (l : Label) : Decidable (c.Fits l) :=
  inferInstanceAs (Decidable (c.writesUpTo l ≤ tcpBufsize))

/-- **What has been received has been sent, or is still to be sent from the buffer.** -/
structure Sends (seq0 : BitVec 32) (c : Tcp) : Prop where
  connState : c.core.connState ≠ .connConnecting
  connectPc : c.connectPc = .returned
  seq : c.core.stx.seq = seq0 + BitVec.ofNat 32 (sentBytes c.core.wire).length
  wire : AllWellSent seq0 c.core.wire
  place : c.loop.Place (sentBytes c.core.wire) c.received c.payloadBuf

/-- A connection in `CONN_CONNECTED` whose client loop has just been started. Nothing of the
client has been read yet. -/
structure LoopStarted (c : Tcp) : Prop where
  connState : c.core.connState = .connConnected
  connectPc : c.connectPc = .returned
  loop : c.loop = .start
  received : c.received = []
  wire : ∀ seg ∈ c.core.wire, seg.payload = []

namespace Sends

theorem of_loopStarted (h : c.LoopStarted) : c.Sends c.core.stx.seq := by
  have hsent : sentBytes c.core.wire = [] := by
    rw [sentBytes, List.flatten_eq_nil_iff]
    intro p hp
    obtain ⟨seg, hseg, rfl⟩ := List.mem_map.mp hp
    exact h.wire seg hseg
  refine ⟨by simp [h.connState], h.connectPc, ?_, ?_, ?_⟩
  · rw [hsent, List.length_nil]
    exact (BitVec.add_zero _).symm
  · intro k seg hk hne
    exact absurd (h.wire seg (List.mem_of_getElem? hk)) hne
  · rw [h.loop, hsent]
    exact h.received

/-- Steps that send no data, when the client loop stays where its place is kept. -/
theorem noData (h : c.Sends seq0) (hcore : c.core.NoData c'.core)
    (hpc : c'.connectPc = c.connectPc)
    (hplace : c'.loop.Place (sentBytes c.core.wire) c'.received c'.payloadBuf) :
    c'.Sends seq0 := by
  obtain ⟨hseq, hwire, hconn⟩ := hcore
  have hsent : sentBytes c'.core.wire = sentBytes c.core.wire := by
    rcases hwire with he | ⟨seg, hseg, he⟩
    · rw [he]
    · rw [he, sentBytes_append, hseg, List.append_nil]
  refine ⟨?_, hpc.trans h.connectPc, ?_, ?_, hsent.symm ▸ hplace⟩
  · rcases hconn with he | he
    · exact he ▸ h.connState
    · simp [he]
  · rw [hseq, hsent]
    exact h.seq
  · rcases hwire with he | ⟨seg, hseg, he⟩
    · exact he ▸ h.wire
    · exact he ▸ h.wire.append fun hne => absurd hseg hne

/-- **A segment is sent**: `n` of the bytes `loopEvent` has in hand, no more than
`TCP_MTU` and no more than the window leaves room for. -/
theorem transmit (h : c.Sends seq0) {call : SendCall} {pc : SendPc}
    (hloop : c.loop = .sending call pc) {n : ℕ} (hpos : 0 < n) (hle : n ≤ call.buflen)
    (hwin : c.core.stx.unacked + n ≤ c.core.stx.inWin.toNat) :
    (c.transmit call n).Sends seq0 := by
  have hmtu : n ≤ tcpMtu := hle.trans (min_le_right _ _)
  have hcnt : n ≤ call.cnt := hle.trans (min_le_left _ _)
  have hmin : min n tcpMtu = n := min_eq_left hmtu
  have hplace := h.place
  rw [hloop] at hplace
  obtain ⟨hrecv, -, hend⟩ := hplace
  rw [Tcp.transmit]
  dsimp only
  rw [hmin]
  refine ⟨h.connState, h.connectPc, ?_, ?_, ?_⟩
  · dsimp only [Core.sendPacket]
    rw [sentBytes_append, List.length_append, Memory.length_read, h.seq, BitVec.ofNat_add,
      BitVec.add_assoc]
  · refine h.wire.append fun _ => ⟨h.seq, ?_, ?_, fun version => ?_, ?_⟩ <;>
      dsimp only <;> rw [Memory.length_read]
    · exact hpos
    · exact hmtu
    · exact frameLength_le_usbMtu version hmtu
    · rw [← TCPSenderState.unacked_eq]
      exact hwin
  · dsimp only [Core.sendPacket]
    rw [sentBytes_append]
    -- what is in hand is what is sent now and what is left
    have hsplit : Memory.read c.payloadBuf call.bufstart call.cnt =
        Memory.read c.payloadBuf call.bufstart n ++
          Memory.read c.payloadBuf (call.bufstart + n) (call.cnt - n) := by
      rw [← Memory.read_add, Nat.add_sub_cancel' hcnt]
    have hall : c.received = sentBytes c.core.wire ++ Memory.read c.payloadBuf call.bufstart n ++
        Memory.read c.payloadBuf (call.bufstart + n) (call.cnt - n) := by
      rw [hrecv, hsplit, List.append_assoc]
    -- `send_data` is called again for what is left
    unfold SendCall.sent
    split_ifs with hrest hclose
    · refine ⟨hall, hrest, ?_⟩
      dsimp only
      omega
    · have hzero : call.cnt - n = 0 := by omega
      rw [hzero, Memory.read_zero, List.append_nil] at hall
      exact hall
    · have hzero : call.cnt - n = 0 := by omega
      rw [hzero, Memory.read_zero, List.append_nil] at hall
      exact hall

/-- A step of the client loop, which is the only thread that reads from the client and the only
one that sends its bytes. -/
theorem loop_step (h : c.Sends seq0) {l : LoopLabel} (hfits : c.Fits (.loop l))
    (hs : c.loopStep l = some c') : c'.Sends seq0 := by
  have hplace := h.place
  cases loopStep_move hs with
  | start hloop | pollNothing hloop | pollIn _ hloop | recvNothing hloop | sendLater hloop
  | sendSleep hloop | wake hloop =>
    rw [hloop] at hplace
    exact h.noData .rfl rfl hplace
  | pollFailed hloop =>
    rw [hloop] at hplace
    exact h.noData .rfl rfl (hplace ▸ List.prefix_rfl)
  | pollOther hloop | recvFailed hloop =>
    rw [hloop] at hplace
    exact h.noData Core.noData_kill rfl (hplace ▸ List.prefix_rfl)
  | recvEnd hloop =>
    rw [hloop] at hplace
    exact h.noData Core.noData_sendFin rfl hplace
  | @recvData b _ _ bytes hloop hne =>
    rw [hloop] at hplace
    -- the bytes are written to the ring buffer and are what is in hand
    rw [Fits, writesUpTo, hloop] at hfits
    refine h.noData .rfl rfl ⟨?_, List.length_pos_of_ne_nil hne, hfits⟩
    rw [← show c.received = sentBytes c.core.wire from hplace]
    exact congrArg _ (Memory.read_write c.payloadBuf b bytes).symm
  | sendFast hloop hfit =>
    rw [hloop] at hplace
    exact h.transmit hloop (lt_min hplace.2.1 tcpMtu_pos) le_rfl hfit
  | @sendSlow call hloop hrem =>
    rw [hloop] at hplace
    have hdef : c.rembytes = (c.core.stx.inWin.toNat : ℤ) - c.core.stx.unacked := rfl
    -- the second `send_data` cuts the data down to the window
    have hpos : 0 < call.buflen := lt_min hplace.2.1 tcpMtu_pos
    refine h.transmit hloop ?_ ?_ ?_ <;> split <;> omega
  | wakeGone hloop =>
    rw [hloop] at hplace
    exact h.noData .rfl rfl hplace.sent_prefix

/-- **One step keeps the invariant**, if what it receives fits. -/
theorem step (h : c.Sends seq0) {l : Label} (hfits : c.Fits l) (hs : c.step l = some c') :
    c'.Sends seq0 := by
  cases l with
  | input l =>
    obtain ⟨-, -, -, hloop, hbuf, hrecv, hpc, -⟩ := inputStep_keeps hs
    refine h.noData (inputStep_noData h.connState hs) hpc ?_
    rw [hloop, hbuf, hrecv]
    exact h.place
  | loop l => exact h.loop_step hfits hs
  | connect ok =>
    -- `connect` has returned
    cases connectStep_move hs with
    | _ hpc => exact absurd (hpc.symm.trans h.connectPc) nofun
  | deconstruct =>
    rcases deconstructStep_eq hs with ⟨-, rfl⟩ | ⟨-, -, rfl⟩
    · exact h.noData Core.noData_deconstruct rfl h.place
    · exact h.noData .rfl rfl h.place
  | notify l =>
    obtain ⟨wl, out, rfl⟩ := notifyStep_eq hs
    exact h.noData .rfl rfl h.place

/-- **What `send_data` sends is not empty**: its segment is the only one a step may send, and it
has a payload. -/
theorem payload_of_sendData (h : c.Sends seq0) (hs : c.loopStep .sendData = some c') :
    c'.core.wire = c.core.wire ∨
      ∃ seg, c'.core.wire = c.core.wire ++ [seg] ∧ seg.payload ≠ [] := by
  have hplace := h.place
  -- what is sent has at least one byte
  have htransmit : ∀ (call : SendCall) (n : ℕ), 0 < n →
      ∃ seg, (c.transmit call n).core.wire = c.core.wire ++ [seg] ∧ seg.payload ≠ [] := by
    intro call n hpos
    refine ⟨_, rfl, List.length_pos_iff.mp ?_⟩
    dsimp only
    rw [Memory.length_read]
    exact lt_min hpos tcpMtu_pos
  cases loopStep_move hs with
  | sendLater | sendSleep => exact Or.inl rfl
  | sendFast hloop =>
    rw [hloop] at hplace
    exact Or.inr (htransmit _ _ (lt_min hplace.2.1 tcpMtu_pos))
  | @sendSlow call hloop hrem =>
    rw [hloop] at hplace
    have hpos : 0 < call.buflen := lt_min hplace.2.1 tcpMtu_pos
    refine Or.inr (htransmit _ _ ?_)
    split <;> omega

end Sends

end Tcp

/-! ### The buffer and the memory behind it -/

open Tcp

/-- A connection in the memory of the daemon, with an account of what `send_data` sends. -/
structure DataStream where
  /-- The connection. -/
  conn : Tcp
  /-- The places of the segments of `send_data` among those handed to `send_packet`. -/
  data : List ℕ

namespace DataStream

/-- What happens to the connection and its buffer. The second kind of label is what other
threads may do to memory that is not the connection's. -/
inductive Label
  /-- A thread of the connection makes a step. -/
  | conn (l : Tcp.Label)
  /-- `_payloadBuf` is an allocation of `TCP::bufsize` bytes. What is behind it belongs to others,
  who write there whenever they want. -/
  | others (offset : ℕ) (byte : UInt8)

/-- A connection that has sent no data, with nothing in the account. -/
def new (c : Tcp) : DataStream := ⟨c, []⟩

variable (s : DataStream)

/-- What a step of the connection adds to the account: the places of what `send_data` has sent. -/
def account (conn : Tcp) : Tcp.Label → DataStream
  | .loop .sendData =>
      ⟨conn, s.data ++ List.range' s.conn.core.wire.length
        (conn.core.wire.length - s.conn.core.wire.length)⟩
  | _ => ⟨conn, s.data⟩

/-- One step. -/
def step : Label → Option DataStream
  | .conn l => (s.conn.step l).map fun conn => s.account conn l
  | .others offset byte =>
      if tcpBufsize ≤ offset then
        some { s with conn := { s.conn with
          payloadBuf := Function.update s.conn.payloadBuf offset byte } }
      else none

/-- **What `recv` returns fits into the buffer.** It is a condition on the steps: the code
computes the room once, for the first `recv` of a round, and lets those that follow have as much
again. -/
def Fits : Label → Prop
  | .conn l => s.conn.Fits l
  | .others _ _ => True

instance (l : Label) : Decidable (s.Fits l) :=
  match l with
  | .conn l => inferInstanceAs (Decidable (s.conn.Fits l))
  | .others _ _ => isTrue trivial

/-- **The account is right**: the segments of `send_data` are those with a payload. -/
def Accounted (wire : List WireSegment) (data : List ℕ) : Prop :=
  (∀ k ∈ data, k < wire.length) ∧ ∀ k seg, wire[k]? = some seg → (k ∈ data ↔ seg.payload ≠ [])

variable {s} {s' : DataStream} {c' : Tcp} {seq0 : BitVec 32}

/-- A segment is added, which is one of `send_data` if it has a payload. -/
theorem Accounted.append {wire : List WireSegment} {data data' : List ℕ} {seg : WireSegment}
    (h : Accounted wire data) (hdata : ∀ k, k ∈ data' ↔ k ∈ data ∨ k = wire.length ∧
      seg.payload ≠ []) : Accounted (wire ++ [seg]) data' := by
  constructor
  · intro k hk
    rw [List.length_append, List.length_singleton]
    rcases (hdata k).mp hk with hold | ⟨rfl, -⟩
    · exact (h.1 k hold).trans (Nat.lt_succ_self _)
    · exact Nat.lt_succ_self _
  · intro k t hk
    rw [hdata]
    rcases Nat.lt_or_ge k wire.length with hlt | hge
    · rw [List.getElem?_append_left hlt] at hk
      rw [h.2 k t hk, or_iff_left fun hnew => hlt.ne hnew.1]
    · have hlt := (List.getElem?_eq_some_iff.mp hk).1
      rw [List.length_append, List.length_singleton] at hlt
      obtain rfl : k = wire.length := by omega
      obtain rfl : seg = t := by simpa using hk
      rw [or_iff_right fun hold => lt_irrefl _ (h.1 _ hold), and_iff_right rfl]

/-- **Every step of the connection is entered into the account.** -/
theorem Accounted.step (h : Accounted s.conn.core.wire s.data) (hsends : s.conn.Sends seq0)
    {l : Tcp.Label} (hs : s.conn.step l = some c') :
    Accounted c'.core.wire (s.account c' l).data := by
  by_cases hl : l = .loop .sendData
  · subst hl
    rcases hsends.payload_of_sendData hs with hwire | ⟨seg, hwire, hseg⟩
    · rw [account, hwire, Nat.sub_self, List.range'_zero, List.append_nil]
      exact h
    · rw [account, hwire, List.length_append, List.length_singleton, Nat.add_sub_cancel_left]
      refine h.append fun k => ?_
      rw [List.mem_append, List.range'_one, List.mem_singleton, and_iff_left hseg]
  · have hdata : (s.account c' l).data = s.data := by
      unfold account
      split
      · exact absurd rfl hl
      · rfl
    rw [hdata]
    rcases step_wire hs with hwire | ⟨seg, hwire, -, hseg⟩
    · rwa [hwire]
    · rw [hwire]
      refine h.append fun k => (or_iff_left fun hnew => hnew.2 (hseg.resolve_right hl)).symm

end DataStream

/-- A connection with its account, as a machine, which may start with any connection whose
client loop has just been started. -/
def dataStreamMachine : Machine DataStream DataStream.Label := ⟨DataStream.step⟩

/-! ### What the device gets -/

/-- **The device's stream is intact**: the payloads handed to `send_packet` are a
prefix of the client's bytes, every segment of `send_data` was well sent, and nothing else
has a payload. -/
structure DeviceStreamIntact (seq0 : BitVec 32) (s : DataStream) : Prop where
  sent_prefix : sentBytes s.conn.core.wire <+: s.conn.received
  wellSent : ∀ k ∈ s.data, ∃ seg, s.conn.core.wire[k]? = some seg ∧
    WellSent seq0 (s.conn.core.wire.take k) seg
  empty : ∀ k seg, s.conn.core.wire[k]? = some seg → k ∉ s.data → seg.payload = []

namespace DataStream

variable {s s' : DataStream} {seq0 : BitVec 32}

/-- **What others write behind the buffer** is not what is still to be sent. -/
theorem sends_others (h : s.conn.Sends seq0) {offset : ℕ} (hbehind : tcpBufsize ≤ offset)
    (byte : UInt8) : Tcp.Sends seq0 { s.conn with
      payloadBuf := Function.update s.conn.payloadBuf offset byte } := by
  refine h.noData .rfl rfl ?_
  have hplace := h.place
  generalize s.conn.loop = pc at hplace
  cases pc with
  | sending call pc =>
    obtain ⟨hrecv, hpos, hend⟩ := hplace
    refine ⟨?_, hpos, hend⟩
    have hother : ∀ i < call.cnt, call.bufstart + i ≠ offset := by
      intro i hi
      omega
    rw [Memory.read_update hother]
    exact hrecv
  | off | start | polling | receiving | finished | threw => exact hplace

/-- **One step keeps the invariant**, if what it receives fits. -/
theorem sends_step (hsends : s.conn.Sends seq0) (hacc : Accounted s.conn.core.wire s.data)
    {l : Label} (hfits : s.Fits l) (hs : s.step l = some s') :
    s'.conn.Sends seq0 ∧ Accounted s'.conn.core.wire s'.data := by
  cases l with
  | conn l =>
    obtain ⟨c', hc, rfl⟩ := Option.map_eq_some_iff.mp hs
    have hconn : (s.account c' l).conn = c' := by
      unfold account
      split <;> rfl
    rw [hconn]
    exact ⟨hsends.step hfits hc, hacc.step hsends hc⟩
  | others offset byte =>
    obtain ⟨hbehind, hs⟩ := Option.ite_none_right_eq_some.mp hs
    cases hs
    exact ⟨sends_others hsends hbehind byte, hacc⟩

end DataStream

/-- **The device gets a prefix of the client's bytes, inside its window**, in every
state of every run on a connection whose client loop has been started, as long as what is
received fits into the buffer. -/
theorem device_stream_intact {c₀ : Tcp} (h₀ : c₀.LoopStarted) {s : DataStream}
    (h : dataStreamMachine.Reaches DataStream.Fits (.new c₀) s) :
    DeviceStreamIntact c₀.core.stx.seq s := by
  have hinv := h.invariant (I := fun s => s.conn.Sends c₀.core.stx.seq ∧
    DataStream.Accounted s.conn.core.wire s.data) ?_
    fun _ _ _ hi hfits hs => DataStream.sends_step hi.1 hi.2 hfits hs
  · obtain ⟨hsends, hbound, hacc⟩ := hinv
    refine ⟨hsends.place.sent_prefix, fun k hk => ?_, fun k seg hseg hk => ?_⟩
    · have hseg := List.getElem?_eq_getElem (hbound k hk)
      exact ⟨_, hseg, hsends.wire k _ hseg ((hacc k _ hseg).mp hk)⟩
    · by_contra hne
      exact hk ((hacc k seg hseg).mpr hne)
  · refine ⟨.of_loopStarted h₀, fun k hk => absurd hk List.not_mem_nil, fun k seg hseg => ?_⟩
    exact iff_of_false List.not_mem_nil fun hne =>
      hne (h₀.wire seg (List.mem_of_getElem? hseg))

theorem Tcp.established_loopStarted (seq S0 : BitVec 32) : (established seq S0).LoopStarted where
  connState := rfl
  connectPc := rfl
  loop := rfl
  received := rfl
  wire := fun _ h => absurd h List.not_mem_nil

/-- Two reads across the wrap of the sequence numbers, which is where the ring buffer
wraps as well; somebody writes behind the buffer in between. -/
theorem device_stream_intact_wrap :
    ∃ s, (s.conn.core.wire.map fun seg => (seg.hdr.thSeq, seg.payload)) =
        [(0xffffffff, [7]), (0, [8, 9])] ∧ s.data = [0, 1] ∧
      DeviceStreamIntact 0xffffffff s := by
  obtain ⟨s, hr, hp⟩ := dataStreamMachine.exists_reaches_of_runOk DataStream.Fits
    (.new (established 0xffffffff 0))
    ([.conn (.loop .loopEvent), .conn (.loop (.poll (.revents pollin))),
      .conn (.loop (.recv (.data [7]))), .others 0x80000 5, .conn (.loop .sendData),
      .conn (.loop .loopEvent), .conn (.loop (.poll (.revents pollin))),
      .conn (.loop (.recv (.data [8, 9]))), .conn (.loop .sendData)])
    (fun s => (s.conn.core.wire.map fun seg => (seg.hdr.thSeq, seg.payload)) =
      [(0xffffffff, [7]), (0, [8, 9])] ∧ s.data = [0, 1]) (by decide)
  obtain ⟨hwire, hdata⟩ := of_decide_eq_true hp
  exact ⟨s, hwire, hdata, device_stream_intact (established_loopStarted _ _) hr⟩

/-- **The device gets what the client has not written.** The client has gone and left two bytes,
and the first is received into the last byte of the buffer. The second `recv` of the call writes
behind it, where somebody else writes as well before `send_data` reads it. -/
theorem device_stream_overrun :
    ∃ s, dataStreamMachine.Reachable (.new (established 0x7ffff 0)) s ∧
      s.conn.received = [7, 8] ∧ sentBytes s.conn.core.wire = [7, 9] ∧
      ¬DeviceStreamIntact 0x7ffff s := by
  obtain ⟨s, hr, hp⟩ := dataStreamMachine.exists_reaches_of_runOk (fun _ _ => True)
    (.new (established 0x7ffff 0))
    [.conn (.loop .loopEvent), .conn (.loop (.poll (.revents (pollin ||| pollhup)))),
      .conn (.loop (.recv (.data [7]))), .conn (.loop .sendData),
      .conn (.loop (.recv (.data [8]))), .others 0x80000 9, .conn (.loop .sendData)]
    (fun s => s.conn.received = [7, 8] ∧ sentBytes s.conn.core.wire = [7, 9]) (by decide)
  obtain ⟨hreceived, hsent⟩ := of_decide_eq_true hp
  refine ⟨s, hr, hreceived, hsent, fun hintact => ?_⟩
  have hprefix := hintact.sent_prefix
  rw [hreceived, hsent] at hprefix
  exact absurd hprefix (by decide)

end Usbmuxd
