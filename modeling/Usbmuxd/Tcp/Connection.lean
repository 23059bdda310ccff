import Usbmuxd.Library.Chunks
import Usbmuxd.Library.Interleaving
import Usbmuxd.Library.Memory
import Usbmuxd.Protocol

/-!
# A TCP connection through the mux

The class `TCP` carries one connection between a client of the daemon and a port
of the device. This file is its state and its code, as a machine whose steps are
those of the threads that meet in it:

* the **receivers**, which call `TCP::handle_input` with a segment each, in the
  order in which they left the receive gate of the device, and then overtake each
  other freely;
* the **client loop**, the thread that runs `TCP::loopEvent` and in it
  `TCP::send_data`;
* the thread inside **`TCP::connect`**, which hands the client's socket over;
* the **reaper**, which calls `TCP::deconstruct`;
* other threads that send **notifications** to the client while it still has its
  socket.

## What a step is

A section locked by `_lockStx` is one step: everything it touches is touched under
that lock only, except for reads of `_connState`, each of which is a step of its
own. Sections under `_lockClientSend` contain a `send` that can block, so that lock
has a holder in the state (`Usbmuxd.Tcp.lockClientSend`) and the section is cut
at the test of `_connState` and at the `send`. A wait on an event is the pair of
`getNextEvent`, inside the locked section, and of the step that leaves
`waitForEvent`; what is read between the two, `_connState`, is read in the second.

Whatever is decided outside this program is in the label of the step: what `poll`
and `recv` return, how much a `send` accepts, and whether `_canSendEvent` has
members at the moment it is asked. Submissions to the device succeed.

Fields of a `tcphdr` stand here in host byte order.
-/

namespace Usbmuxd

open Interleaving

/-! ### Segments -/

/-- `TH_SYN`. -/
def thSyn : BitVec 8 := 0x02

/-- `TH_RST`. -/
def thRst : BitVec 8 := 0x04

/-- `TH_ACK`. -/
def thAck : BitVec 8 := 0x10

/-- `struct tcphdr`, as far as it is written or read. The fields have been swapped to the order
of the host. -/
structure TcpHdr where
  thSport : BitVec 16
  thDport : BitVec 16
  thSeq : BitVec 32
  thAck : BitVec 32
  thOff : ℕ
  thFlags : BitVec 8
  thWin : BitVec 16
  deriving DecidableEq

/-- A segment as `device_data_input` hands it to `TCP::handle_input`: what is left
of a packet of at most `DEV_MRU` bytes. -/
structure Segment where
  hdr : TcpHdr
  payload : List UInt8
  fits : payload.length ≤ devMru

namespace Segment

/-- `payload_len`, which has 32 bits like the positions to which it is added. -/
def payloadLen (s : Segment) : BitVec 32 := BitVec.ofNat 32 s.payload.length

/-- `ntohs(tcp_header->th_win) << 8`. The field is in units of 256 bytes. -/
def window (s : Segment) : BitVec 32 := s.hdr.thWin.setWidth 32 <<< 8

theorem payloadLen_eq_zero_iff (s : Segment) : s.payloadLen = 0 ↔ s.payload = [] := by
  have hlt : s.payload.length < 2 ^ 32 := lt_of_le_of_lt s.fits (by decide)
  rw [← BitVec.toNat_inj, payloadLen, BitVec.toNat_ofNat, Nat.mod_eq_of_lt hlt]
  exact List.length_eq_zero_iff

end Segment

/-! ### The object -/

/-- `TCP::mux_conn_state`. A connection that is being torn down has a state of its own, by which
everybody is told to stop. -/
inductive MuxConnState
  /-- SYN. -/
  | connConnecting
  /-- SYN/SYNACK/ACK -> active. -/
  | connConnected
  /-- RST received during SYN. -/
  | connRefused
  /-- RST received. -/
  | connDying
  deriving DecidableEq

/-- `TCP::TCPSenderState`, which has the positions of both directions and the window of the
device. -/
structure TCPSenderState where
  seq : BitVec 32
  seqAcked : BitVec 32
  ack : BitVec 32
  acked : BitVec 32
  inWin : BitVec 32
  win : BitVec 32
  pktForwarded : BitVec 32
  deriving DecidableEq

/-- The macro `unacked`, a `uint64_t`. The positions wrap, and so it adds 2³² where the position
that is sent has wrapped and the one that is acknowledged has not. -/
def TCPSenderState.unacked (stx : TCPSenderState) : ℕ :=
  if stx.seqAcked ≤ stx.seq then (stx.seq - stx.seqAcked).toNat
  else (0x100000000 + stx.seq.toNat - stx.seqAcked.toNat) % 2 ^ 32

/-- A segment handed to `USBDevice::send_packet`, with the sender state it was
built from. -/
structure WireSegment where
  hdr : TcpHdr
  payload : List UInt8
  builtFrom : TCPSenderState
  deriving DecidableEq

namespace Tcp

/-- What is read and written under `_lockStx`. Every section under this lock is one step. -/
structure Core where
  /-- `_connState`. -/
  connState : MuxConnState
  /-- `_stx`. -/
  stx : TCPSenderState
  /-- `_sPort`. -/
  sPort : BitVec 16
  /-- `_dPort`. -/
  dPort : BitVec 16
  /-- `_canSendEvent`. -/
  canSendEvent : EventCount
  /-- `_connStateDidChange`. -/
  connStateDidChange : EventCount
  /-- The segments handed to `send_packet` so far. -/
  wire : List WireSegment
  /-- How often `TCP::kill` has been called, each time posting a reap request. -/
  kills : ℕ

namespace Core

variable (o : Core)

/-- The header every sending function builds, with its own flags. All the rest is taken from the
state of the connection. -/
def tcpHeader (flags : BitVec 8) : TcpHdr where
  thSport := o.sPort
  thDport := o.dPort
  thSeq := o.stx.seq
  thAck := o.stx.ack
  thOff := sizeofTcphdr / 4
  thFlags := flags
  thWin := (o.stx.win >>> 8).setWidth 16

/-- `_dev->send_packet(USBDevice::MUX_PROTO_TCP, payload, len, &tcp_header)`. What becomes of
the segment afterwards is the device's matter. -/
def sendPacket (flags : BitVec 8) (payload : List UInt8) : List WireSegment :=
  o.wire ++ [⟨o.tcpHeader flags, payload, o.stx⟩]

/-- `TCP::send_tcp`. Its header announces `_stx.ack` to the device, and `_stx.acked` says so
from then on. -/
def sendTcp (flags : BitVec 8) : Core :=
  { o with stx := { o.stx with acked := o.stx.ack }, wire := o.sendPacket flags [] }

/-- `TCP::send_ack_nolock`, for a caller that has `_lockStx` already. -/
def sendAckNolock : Core :=
  if o.stx.acked ≠ o.stx.ack then
    { o with stx := { o.stx with acked := o.stx.ack }, wire := o.sendPacket thAck [] }
  else o

/-- `TCP::send_fin`, which sends an RST. There is no FIN in this protocol. -/
def sendFin : Core := { o with wire := o.sendPacket thRst [] }

/-- `TCP::kill`, which asks the reaper to delete the connection. It is counted how often this is
done. -/
def kill : Core := { o with kills := o.kills + 1 }

/-! #### The first half of `TCP::handle_input`, one branch at a time -/

/-- The SYN/ACK of the handshake: the connection stands, and this is acknowledged. -/
def acceptSynAck (s : Segment) : Core :=
  let o' := { o with stx := { o.stx with
    seq := o.stx.seq + 1
    ack := s.hdr.thSeq + 1
    inWin := s.window
    pktForwarded := s.hdr.thSeq + 1 } }.sendAckNolock
  { o' with
    connState := .connConnected
    connStateDidChange := o'.connStateDidChange.advance }

/-- “Connection refused by device”, which ends the connection before it has begun. -/
def refuse : Core :=
  { o with
    connState := .connRefused
    connStateDidChange := o.connStateDidChange.advance }.kill

/-- The segment that is next in line is counted: the window and the
acknowledgement are taken over, and the payload is acknowledged unless someone
waits to send. -/
def countSegment (s : Segment) (members : Bool) : Core :=
  let o' := { o with stx := { o.stx with
    inWin := s.window
    seqAcked := s.hdr.thAck
    ack := o.stx.ack + s.payloadLen } }
  let o' := if s.payloadLen ≠ 0 ∧ members = false then o'.sendAckNolock else o'
  { o' with canSendEvent := o'.canSendEvent.advance }

/-- `TCP::deconstruct` under `_lockStx`. -/
def deconstruct : Core :=
  { o with
    connState := .connDying
    connStateDidChange := o.connStateDidChange.advance
    canSendEvent := o.canSendEvent.advance }

end Core

/-! ### The threads -/

/-- Where a call of `TCP::handle_input` is. Each segment is handled by the thread that has
received it, so that there may be several calls at the same time. -/
inductive HandlerPc
  /-- There is no such call yet. -/
  | absent
  /-- Before `_lockStx` is taken. -/
  | entered
  /-- In `waitForEvent` on `_canSendEvent`. -/
  | ackAsleep (w : ℕ)
  /-- Awake and past the test of `_connState`, before `_lockStx` is taken again. -/
  | ackAwake
  /-- Before `_lockClientSend` is taken. -/
  | forward
  /-- In `waitForEvent` on `_canClientSendEvent`. -/
  | fwdAsleep (w : ℕ)
  /-- Awake and past the test of `_connState`, before `_lockClientSend` is taken
  again. -/
  | fwdAwake
  /-- Holding `_lockClientSend`, its turn come, before `_connState` is tested. -/
  | fwdTurn
  /-- Holding `_lockClientSend`, before the `send`. -/
  | sending
  /-- Returned. -/
  | returned
  /-- Thrown out of `handle_input`, upon which the receiver kills the device. -/
  | threw
  deriving DecidableEq

/-- The locals of `TCP::loopEvent` while it sends what it received. What the client has written
may be more than one segment. -/
structure SendCall where
  bufstart : ℕ
  cnt : ℕ
  maxRcv : ℕ
  remoteDidClose : Bool
  deriving DecidableEq

/-- Where a call of `TCP::send_data` is. The fast path looks at the window once, and the slow
path waits for it. -/
inductive SendPc
  /-- Before the locked section of the fast path. -/
  | fast
  /-- Before the locked section of the slow path. -/
  | slow
  /-- In `waitForEvent` on `_canSendEvent`. -/
  | asleep (w : ℕ)
  deriving DecidableEq

/-- Where the client loop is. There is one such loop for a connection, and so one caller of
`send_data`. -/
inductive LoopPc
  /-- Not started. -/
  | off
  /-- About to run `TCP::loopEvent`. -/
  | start
  /-- Before `poll`. -/
  | polling (bufstart maxRcv : ℕ)
  /-- Before `recv`. -/
  | receiving (bufstart maxRcv : ℕ) (remoteDidClose : Bool)
  /-- In `send_data`. -/
  | sending (call : SendCall) (pc : SendPc)
  /-- `loopEvent` has returned `false`. -/
  | finished
  /-- `loopEvent` has thrown. -/
  | threw
  deriving DecidableEq

/-- Where `TCP::connect` is. It runs in the thread of the client, which has asked for the
connection. -/
inductive ConnectPc
  /-- At its start. -/
  | start
  /-- Before the SYN, with the number of the next signal taken. -/
  | syn (w : ℕ)
  /-- In `waitForEvent` on `_connStateDidChange`. -/
  | waiting (w : ℕ)
  /-- Before `send_result`. -/
  | result
  /-- In `send_result`, the header of the answer written. -/
  | resultBody
  /-- Before `_pfd.fd = _cli->_fd`. -/
  | install
  /-- Before `_cli->_fd = -1`. -/
  | disown
  /-- Before `startLoop`. -/
  | startLoop
  /-- Returned. -/
  | returned
  /-- Thrown. -/
  | threw
  deriving DecidableEq

/-- Where `TCP::deconstruct` is. It has one section under each of two locks, and between them
all other threads go on. -/
inductive TeardownPc
  /-- Not called. -/
  | off
  /-- Past its section under `_lockStx`. -/
  | stxDone
  /-- Past its section under `_lockClientSend`. -/
  | done
  deriving DecidableEq

/-- A mux packet for the client. After the result the client expects no more of them, but the
bytes of the device. -/
inductive MuxPacket
  /-- The answer `RESULT_OK` to the Connect request. -/
  | resultOk
  /-- A notification of the muxer. -/
  | notification (n : ℕ)
  deriving DecidableEq

/-- What has been written to the client's socket with one `send`. Between two of them somebody
else may write, unless a lock keeps him from it. -/
inductive ClientWrite
  /-- The header of a mux packet. -/
  | header (p : MuxPacket)
  /-- The rest of a mux packet. -/
  | body (p : MuxPacket)
  /-- Payload of the device. -/
  | payload (bytes : List UInt8)
  deriving DecidableEq

end Tcp

open Tcp

/-- A connection with the threads that work on it. The calls of `handle_input` are numbered in
the order in which they are made. -/
structure Tcp where
  /-- What `_lockStx` guards. -/
  core : Core
  /-- `_canClientSendEvent`. -/
  canClientSendEvent : EventCount
  /-- The call of `handle_input` that holds `_lockClientSend`. -/
  lockClientSend : Option ℕ
  /-- `_pfd.fd` is the client's socket, rather than `-1`. -/
  pfdFd : Bool
  /-- `_cli->_fd` is the client's socket, rather than `-1`. -/
  cliFd : Bool
  /-- The packet being written by the holder of the client's `_wlock`. -/
  wlock : Option MuxPacket
  /-- What has been written to the client's socket. -/
  clientOut : List ClientWrite
  /-- Some `send` to the client has not accepted its whole payload. -/
  clientDied : Bool
  /-- The segments `handle_input` has been called with. -/
  segs : List Segment
  /-- Where each of these calls is. -/
  handler : ℕ → HandlerPc
  /-- Where the client loop is. -/
  loop : LoopPc
  /-- The memory from `_payloadBuf` on. The buffer are its first `tcpBufsize` bytes; what is
  behind them is not the connection's. -/
  payloadBuf : ℕ → UInt8
  /-- What `recv` has returned so far. -/
  received : List UInt8
  /-- Where `connect` is. -/
  connectPc : ConnectPc
  /-- Where `deconstruct` is. -/
  teardown : TeardownPc

namespace Tcp

/-- The constructor `TCP::TCP`, with the initial sequence number that `random`
returned. -/
def new (sPort dPort : BitVec 16) (seq : BitVec 32) : Tcp where
  core :=
    { connState := .connConnecting
      stx :=
        { seq := seq, seqAcked := seq, ack := 0, acked := 0, inWin := 0, win := 0x80000,
          pktForwarded := 0 }
      sPort := sPort
      dPort := dPort
      canSendEvent := ⟨0⟩
      connStateDidChange := ⟨0⟩
      wire := []
      kills := 0 }
  canClientSendEvent := ⟨0⟩
  lockClientSend := none
  pfdFd := false
  cliFd := true
  wlock := none
  clientOut := []
  clientDied := false
  segs := []
  handler := fun _ => .absent
  loop := .off
  payloadBuf := fun _ => 0
  received := []
  connectPc := .start
  teardown := .off

/-- What the handshake and the hand-over make of a new connection, when the sender
has got to `seq` and the stream of the device starts at `S0`. -/
def established (seq S0 : BitVec 32) : Tcp :=
  { new 1 62078 seq with
    core :=
      { (new 1 62078 seq).core with
        connState := .connConnected
        stx :=
          { seq := seq, seqAcked := seq, ack := S0, acked := S0, inWin := 0x20000, win := 0x80000,
            pktForwarded := S0 } }
    pfdFd := true
    cliFd := false
    loop := .start
    connectPc := .returned }

/-! ### `TCP::handle_input` -/

/-- What a `send` to the client returns. The client may be slow, so that less is accepted than
there is. -/
inductive SendResult
  /-- The number of bytes accepted. -/
  | accepted (n : ℕ)
  /-- `-1`. -/
  | failed
  deriving DecidableEq

/-- How many bytes of a payload a `send` accepts. If it fails, it is none. -/
def SendResult.count (payload : List UInt8) : SendResult → ℕ
  | .accepted n => min n payload.length
  | .failed => 0

/-- The steps of a receiver. Each of them is a section under one of the locks, or what happens
between two of these. -/
inductive InputLabel
  /-- `handle_input` is called. -/
  | call (s : Segment)
  /-- Call `i` takes `_lockStx`; `members` is what `_canSendEvent.members()` says. -/
  | lockStx (i : ℕ) (members : Bool)
  /-- Call `i` leaves `waitForEvent` on `_canSendEvent` and tests `_connState`. -/
  | ackWake (i : ℕ)
  /-- Call `i` takes `_lockClientSend`. -/
  | lockClientSend (i : ℕ)
  /-- Call `i` leaves `waitForEvent` on `_canClientSendEvent` and tests
  `_connState`. -/
  | fwdWake (i : ℕ)
  /-- Call `i` tests `_connState` before its `send`. -/
  | fwdTest (i : ℕ)
  /-- Call `i` sends its payload. -/
  | send (i : ℕ) (r : SendResult)

variable (c : Tcp)

/-- Call `i` of `handle_input` goes on to `pc`, and all the others stay where they are. -/
def moveHandler (i : ℕ) (pc : HandlerPc) : Tcp :=
  { c with handler := Function.update c.handler i pc }

/-- `handle_input` is called with `s`, which gets the next number. -/
def enter (s : Segment) : Tcp :=
  { c.moveHandler c.segs.length .entered with segs := c.segs ++ [s] }

/-- Where a call goes from its first half. Without payload it has nothing more to do. -/
def secondHalf (s : Segment) : HandlerPc := if s.payloadLen ≠ 0 then .forward else .returned

/-- The `while` loop on `_stx.ack` and what follows it, by a holder of `_lockStx`. -/
def ackGate (i : ℕ) (s : Segment) (members : Bool) : Tcp :=
  if c.core.stx.ack ≠ s.hdr.thSeq then
    c.moveHandler i (.ackAsleep c.core.canSendEvent.next)
  else
    { c.moveHandler i (secondHalf s) with core := c.core.countSegment s members }

/-- The first half of `handle_input`, by a call that takes `_lockStx` for the first
time. -/
def firstHalf (i : ℕ) (s : Segment) (members : Bool) : Tcp :=
  match c.core.connState with
  | .connConnecting =>
      if s.hdr.thFlags = thSyn ||| thAck then
        { c.moveHandler i (secondHalf s) with core := c.core.acceptSynAck s }
      else if s.hdr.thFlags &&& thRst ≠ 0 then
        { c.moveHandler i (secondHalf s) with core := c.core.refuse }
      else c.moveHandler i .threw
  | .connConnected =>
      if s.hdr.thFlags = thAck then c.ackGate i s members
      else if s.hdr.thFlags = thRst then
        { c.moveHandler i .returned with core := c.core.kill }
      else c.moveHandler i (secondHalf s)
  | .connRefused => c.moveHandler i .returned
  | .connDying => c.moveHandler i .returned

/-- The `while` loop on `_stx.pktForwarded`, by a call that has just taken
`_lockClientSend`. -/
def forwardGate (i : ℕ) (s : Segment) : Tcp :=
  if s.hdr.thSeq ≠ c.core.stx.pktForwarded then
    c.moveHandler i (.fwdAsleep c.canClientSendEvent.next)
  else { c.moveHandler i .fwdTurn with lockClientSend := some i }

/-- The `send` to the client and what follows it, with `accepted` bytes accepted. -/
def forwardPayload (i : ℕ) (s : Segment) (accepted : ℕ) : Tcp :=
  let core := if accepted ≠ s.payload.length then c.core.kill else c.core
  { c.moveHandler i .returned with
    core := { core with stx := { core.stx with
      pktForwarded := core.stx.pktForwarded + s.payloadLen } }
    canClientSendEvent := c.canClientSendEvent.advance
    lockClientSend := none
    clientOut := c.clientOut ++ [.payload (s.payload.take accepted)]
    clientDied := c.clientDied || accepted ≠ s.payload.length }

/-- One step of a receiver. It is `none` where the call is not at that place, or has to wait for
a lock. -/
def inputStep : InputLabel → Option Tcp
  | .call s => some (c.enter s)
  | .lockStx i members =>
      match c.segs[i]?, c.handler i with
      | some s, .entered => some (c.firstHalf i s members)
      | some s, .ackAwake => some (c.ackGate i s members)
      | _, _ => none
  | .ackWake i =>
      match c.handler i with
      | .ackAsleep w =>
          if c.core.canSendEvent.Reached w then
            if c.core.connState ≠ .connConnected then some (c.moveHandler i .returned)
            else some (c.moveHandler i .ackAwake)
          else none
      | _ => none
  | .lockClientSend i =>
      match c.segs[i]?, c.handler i, c.lockClientSend with
      | some s, .forward, none => some (c.forwardGate i s)
      | some s, .fwdAwake, none => some (c.forwardGate i s)
      | _, _, _ => none
  | .fwdWake i =>
      match c.handler i with
      | .fwdAsleep w =>
          if c.canClientSendEvent.Reached w then
            if c.core.connState ≠ .connConnected then some (c.moveHandler i .returned)
            else some (c.moveHandler i .fwdAwake)
          else none
      | _ => none
  | .fwdTest i =>
      match c.handler i with
      | .fwdTurn =>
          if c.core.connState ≠ .connConnected then
            some { c.moveHandler i .returned with lockClientSend := none }
          else some (c.moveHandler i .sending)
      | _ => none
  | .send i r =>
      match c.segs[i]?, c.handler i with
      | some s, .sending =>
          -- a `send` to the descriptor `-1` fails
          some (c.forwardPayload i s (if c.pfdFd then r.count s.payload else 0))
      | _, _ => none

/-! ### `TCP::loopEvent` and `TCP::send_data` -/

/-- `POLLIN`. -/
def pollin : BitVec 16 := 0x01

/-- `POLLHUP`. -/
def pollhup : BitVec 16 := 0x10

/-- What `poll` returns, which is called without a timeout. -/
inductive PollResult
  /-- `_pfd.revents`. -/
  | revents (r : BitVec 16)
  /-- `-1`. -/
  | failed

/-- What `recv` returns, which is called without waiting. -/
inductive RecvResult
  /-- The bytes received; none at the end of the stream. -/
  | data (bytes : List UInt8)
  /-- `-1`. -/
  | failed

/-- The steps of the client loop. What the client does is in the labels. -/
inductive LoopLabel
  /-- `loopEvent` is called and reads the positions in the ring buffer. -/
  | loopEvent
  /-- `poll` returns. -/
  | poll (r : PollResult)
  /-- `recv` returns. -/
  | recv (r : RecvResult)
  /-- `send_data` takes `_lockStx`. -/
  | sendData
  /-- `send_data` leaves `waitForEvent` on `_canSendEvent` and tests `_connState`. -/
  | sendWake

/-- `lseq`, the offset at which `loopEvent` receives. -/
def lseq : ℕ := (c.core.stx.seq.toNat + tcpBufsize) % tcpBufsize

/-- `lseqAck`, the offset of what the device has acknowledged, up to which the buffer may be
filled. -/
def lseqAck : ℕ := (c.core.stx.seqAcked.toNat + tcpBufsize) % tcpBufsize

/-- `maxRCV`, the room from `lseq` on up to the end of the buffer, or up to what has not been
acknowledged. -/
def maxRCV : ℕ := if c.lseqAck ≤ c.lseq then tcpBufsize - c.lseq else c.lseqAck - c.lseq

/-- What `loopEvent` does with the result of `poll`. A client that has closed its end may have
left bytes to be read. -/
def afterPoll (bufstart maxRcv : ℕ) : PollResult → Tcp
  | .failed => { c with loop := .threw }
  | .revents r =>
      if r &&& ~~~(pollin ||| pollhup) ≠ 0 then
        { c with loop := .threw, core := c.core.kill }
      else if r &&& pollin = 0 then { c with loop := .start }
      else { c with loop := .receiving bufstart maxRcv (r &&& pollhup ≠ 0) }

/-- What `loopEvent` does with the result of `recv`. The end of the stream closes the connection
only if `poll` has said that the client is gone. -/
def afterRecv (bufstart maxRcv : ℕ) (remoteDidClose : Bool) : RecvResult → Tcp
  | .failed => { c with loop := .threw, core := c.core.kill }
  | .data [] =>
      if remoteDidClose then { c with loop := .finished, core := c.core.sendFin }
      else { c with loop := .start }
  | .data bytes =>
      { c with
        loop := .sending ⟨bufstart, bytes.length, maxRcv, remoteDidClose⟩ .fast
        payloadBuf := Memory.write c.payloadBuf bufstart bytes
        received := c.received ++ bytes }

/-- `doSend`, the `buflen` of `send_data`: what is left, but not more than a segment can
have. -/
def SendCall.buflen (call : SendCall) : ℕ := min call.cnt tcpMtu

/-- `loopEvent` after `send_data` has sent `didSend` bytes. It goes on with the rest, and then
reads again or returns. -/
def SendCall.sent (call : SendCall) (didSend : ℕ) : LoopPc :=
  if 0 < call.cnt - didSend then
    .sending { call with bufstart := call.bufstart + didSend, cnt := call.cnt - didSend } .fast
  else if call.remoteDidClose then .receiving (call.bufstart + didSend) call.maxRcv true
  else .start

/-- `send_data` from `cnt_label` on, with `len` bytes to send. -/
def transmit (call : SendCall) (len : ℕ) : Tcp :=
  let len := min len tcpMtu
  { c with
    loop := call.sent len
    core := { c.core with
      stx := { c.core.stx with
        acked := c.core.stx.ack
        seq := c.core.stx.seq + BitVec.ofNat 32 len }
      wire := c.core.sendPacket thAck (Memory.read c.payloadBuf call.bufstart len) } }

/-- `rembytes`, an `int64_t`. It is negative if the device has made its window smaller than what
is on its way. -/
def rembytes : ℤ := (c.core.stx.inWin.toNat : ℤ) - c.core.stx.unacked

/-- The locked section of the fast path. If everything fits into the window, it is sent at
once. -/
def sendFast (call : SendCall) : Tcp :=
  if c.core.stx.unacked + call.buflen > c.core.stx.inWin.toNat then
    { c with loop := .sending call .slow }
  else c.transmit call call.buflen

/-- The locked section of the slow path. It sends as much as fits, and sleeps if that is
nothing. -/
def sendSlow (call : SendCall) : Tcp :=
  if c.rembytes ≤ 0 then
    { c with loop := .sending call (.asleep c.core.canSendEvent.next) }
  else
    c.transmit call (if c.rembytes > call.buflen then call.buflen else c.rembytes.toNat)

/-- One step of the client loop. The result of `poll` and `recv` is given by the label. -/
def loopStep : LoopLabel → Option Tcp
  | .loopEvent =>
      match c.loop with
      | .start => some { c with loop := .polling c.lseq c.maxRCV }
      | _ => none
  | .poll r =>
      match c.loop with
      | .polling bufstart maxRcv =>
          if c.pfdFd then some (c.afterPoll bufstart maxRcv r)
          else some { c with loop := .threw }
      | _ => none
  | .recv r =>
      match c.loop with
      | .receiving bufstart maxRcv remoteDidClose =>
          match r with
          | .data bytes =>
              if bytes.length ≤ maxRcv then
                some (c.afterRecv bufstart maxRcv remoteDidClose (.data bytes))
              else none
          | .failed => some (c.afterRecv bufstart maxRcv remoteDidClose .failed)
      | _ => none
  | .sendData =>
      match c.loop with
      | .sending call .fast => some (c.sendFast call)
      | .sending call .slow => some (c.sendSlow call)
      | _ => none
  | .sendWake =>
      match c.loop with
      | .sending call (.asleep w) =>
          if c.core.canSendEvent.Reached w then
            if c.core.connState = .connConnected then
              some { c with loop := .sending call .fast }
            else some { c with loop := .threw }
          else none
      | _ => none

/-! ### `TCP::connect`, `TCP::deconstruct` and the notifications -/

/-- One step of `TCP::connect`; `ok` is whether a write to the client succeeds. -/
def connectStep (ok : Bool) : Option Tcp :=
  match c.connectPc with
  | .start => some { c with connectPc := .syn c.core.connStateDidChange.next }
  | .syn w => some { c with connectPc := .waiting w, core := c.core.sendTcp thSyn }
  | .waiting w =>
      if c.core.connStateDidChange.Reached w then
        if c.core.connState = .connConnected then some { c with connectPc := .result }
        else some { c with connectPc := .threw }
      else none
  | .result =>
      if c.wlock = none then
        if ok then
          some { c with
            connectPc := .resultBody
            wlock := some .resultOk
            clientOut := c.clientOut ++ [.header .resultOk] }
        else some { c with connectPc := .threw }
      else none
  | .resultBody =>
      if ok then
        some { c with
          connectPc := .install
          wlock := none
          clientOut := c.clientOut ++ [.body .resultOk] }
      else some { c with connectPc := .threw, wlock := none }
  | .install => some { c with connectPc := .disown, pfdFd := c.cliFd }
  | .disown => some { c with connectPc := .startLoop, cliFd := false }
  | .startLoop => some { c with connectPc := .returned, loop := .start }
  | .returned => none
  | .threw => none

/-- `TCP::deconstruct`, one locked section at a time. Between two of them the other threads go
on. -/
def deconstructStep : Option Tcp :=
  match c.teardown with
  | .off => some { c with teardown := .stxDone, core := c.core.deconstruct }
  | .stxDone =>
      if c.lockClientSend = none then
        some { c with teardown := .done, canClientSendEvent := c.canClientSendEvent.advance }
      else none
  | .done => none

/-- The steps of the threads that send notifications to the client. They know nothing of the
connection. -/
inductive NotifyLabel
  /-- `Client::writeData` takes `_wlock` and sends the header of notification `n`. -/
  | header (n : ℕ)
  /-- It sends the rest of the notification and releases `_wlock`. -/
  | body

/-- One step of a thread that sends a notification. A `send` to the descriptor `-1`
fails, upon which `writeData` throws. -/
def notifyStep : NotifyLabel → Option Tcp
  | .header n =>
      if c.wlock = none then
        if c.cliFd then
          some { c with
            wlock := some (.notification n)
            clientOut := c.clientOut ++ [.header (.notification n)] }
        else some c
      else none
  | .body =>
      match c.wlock with
      | some (.notification n) =>
          if c.cliFd then
            some { c with
              wlock := none
              clientOut := c.clientOut ++ [.body (.notification n)] }
          else some { c with wlock := none }
      | _ => none

/-! ### The machine -/

/-- A step on a connection: which thread moves. -/
inductive Label
  | input (l : InputLabel)
  | loop (l : LoopLabel)
  | connect (ok : Bool)
  | deconstruct
  | notify (l : NotifyLabel)

/-- One step on a connection. The threads do not wait for each other but at the locks. -/
def step : Label → Option Tcp
  | .input l => c.inputStep l
  | .loop l => c.loopStep l
  | .connect ok => c.connectStep ok
  | .deconstruct => c.deconstructStep
  | .notify l => c.notifyStep l

end Tcp

/-- A connection as a machine, which starts when the constructor has returned. -/
def tcpMachine : Machine Tcp Tcp.Label := ⟨Tcp.step⟩

end Usbmuxd
