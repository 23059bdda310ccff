import Usbmuxd.Tcp.Connection

/-!
# What a step on a connection does

The step functions of a connection branch a lot, and each property of a connection
minds only a few of the fields. This file says once what each step can do, so that
the invariants of the other files are derived from the statements here and not from
the step functions.

* **The client loop, `connect` and the notifications** have one case for each way on
  (`Usbmuxd.Tcp.LoopMove`, `Usbmuxd.Tcp.ConnectMove`, `Usbmuxd.Tcp.NotifyMove`).
* **They** touch few fields. What they leave alone under
  `_lockStx` is `Usbmuxd.Tcp.Core.KeepsGates`; which fields of the connection they
  replace is said by an equation
  (`Usbmuxd.Tcp.loopStep_eq`, `Usbmuxd.Tcp.connectStep_eq`,
  `Usbmuxd.Tcp.notifyStep_eq`).
* **The receivers** have one statement per label: where the call was, and what the
  step makes of the connection.
* **The first half of `handle_input`** is read off in each state of the connection.

An invariant of the connection is then shown in two moves. For a step of which it is said that
it leaves the fields in question alone, there is nothing to do but to say so, with a lemma about
what the invariant depends on; and the few steps that are left are taken one by one, each with
the equation that says what it makes of the connection. When a step function changes, it is this
file that has to change first, and the invariants that do not mind the change stay as they are.
-/

namespace Usbmuxd

open Interleaving

namespace Tcp

/-! ### What is left alone under `_lockStx` -/

/-- What only `handle_input` and `deconstruct` change: the state of the connection,
the two positions in the stream of the device, and the two events under
`_lockStx`. -/
structure Core.KeepsGates (o o' : Core) : Prop where
  connState : o'.connState = o.connState
  ack : o'.stx.ack = o.stx.ack
  pktForwarded : o'.stx.pktForwarded = o.stx.pktForwarded
  canSendEvent : o'.canSendEvent = o.canSendEvent
  connStateDidChange : o'.connStateDidChange = o.connStateDidChange

namespace Core

variable {o : Core}

theorem KeepsGates.rfl : o.KeepsGates o := ⟨Eq.refl _, Eq.refl _, Eq.refl _, Eq.refl _, Eq.refl _⟩

theorem keepsGates_sendAckNolock : o.KeepsGates o.sendAckNolock := by
  unfold sendAckNolock
  split
  · exact ⟨rfl, rfl, rfl, rfl, rfl⟩
  · exact .rfl

theorem keepsGates_kill : o.KeepsGates o.kill := ⟨rfl, rfl, rfl, rfl, rfl⟩

theorem keepsGates_sendFin : o.KeepsGates o.sendFin := ⟨rfl, rfl, rfl, rfl, rfl⟩

/-! ### Counting a segment -/

variable (o) (s : Segment) (members : Bool)

/-- Counting a segment changes neither the state of the connection nor the position
up to which payload has been forwarded, and moves the acknowledgement past the
segment. -/
theorem countSegment_spec :
    (o.countSegment s members).connState = o.connState ∧
    (o.countSegment s members).stx.ack = o.stx.ack + s.payloadLen ∧
    (o.countSegment s members).stx.pktForwarded = o.stx.pktForwarded ∧
    (o.countSegment s members).canSendEvent = o.canSendEvent.advance := by
  unfold countSegment
  dsimp only
  split
  · have h := keepsGates_sendAckNolock (o := { o with stx := { o.stx with
      inWin := s.window, seqAcked := s.hdr.thAck, ack := o.stx.ack + s.payloadLen } })
    exact ⟨h.connState, h.ack, h.pktForwarded, congrArg EventCount.advance h.canSendEvent⟩
  · exact ⟨rfl, rfl, rfl, rfl⟩

@[simp] theorem countSegment_kills : (o.countSegment s members).kills = o.kills := by
  unfold countSegment sendAckNolock
  dsimp only
  split_ifs <;> rfl

@[simp] theorem countSegment_connState : (o.countSegment s members).connState = o.connState :=
  (o.countSegment_spec s members).1

@[simp] theorem countSegment_ack :
    (o.countSegment s members).stx.ack = o.stx.ack + s.payloadLen :=
  (o.countSegment_spec s members).2.1

@[simp] theorem countSegment_pktForwarded :
    (o.countSegment s members).stx.pktForwarded = o.stx.pktForwarded :=
  (o.countSegment_spec s members).2.2.1

@[simp] theorem countSegment_canSendEvent :
    (o.countSegment s members).canSendEvent = o.canSendEvent.advance :=
  (o.countSegment_spec s members).2.2.2

end Core

variable {c c' : Tcp} {i : ℕ} {s : Segment} {members : Bool}

/-! ### The client loop -/

/-- **What a step of the client loop does**, with one case for each way through
`loopEvent` and `send_data`. -/
inductive LoopMove (c : Tcp) : LoopLabel → Tcp → Prop
  /-- `loopEvent` reads the positions in the ring buffer. -/
  | start : c.loop = .start → LoopMove c .loopEvent { c with loop := .polling c.lseq c.maxRCV }
  /-- `poll` fails, or the descriptor is `-1`. -/
  | pollFailed {b m : ℕ} {r : PollResult} : c.loop = .polling b m →
    c.pfdFd = false ∨ r = .failed → LoopMove c (.poll r) { c with loop := .threw }
  /-- `poll` reports something else than data and the end of the stream. -/
  | pollOther {b m : ℕ} {r : BitVec 16} : c.loop = .polling b m → c.pfdFd = true →
    r &&& ~~~(pollin ||| pollhup) ≠ 0 →
      LoopMove c (.poll (.revents r)) { c with loop := .threw, core := c.core.kill }
  /-- There is nothing to read. -/
  | pollNothing {b m : ℕ} {r : BitVec 16} : c.loop = .polling b m →
    r &&& ~~~(pollin ||| pollhup) = 0 → LoopMove c (.poll (.revents r)) { c with loop := .start }
  /-- There is something to read. -/
  | pollIn {b m : ℕ} {r : BitVec 16} (remoteDidClose : Bool) : c.loop = .polling b m →
    r &&& ~~~(pollin ||| pollhup) = 0 →
      LoopMove c (.poll (.revents r)) { c with loop := .receiving b m remoteDidClose }
  /-- `recv` fails. -/
  | recvFailed {b m : ℕ} {remoteDidClose : Bool} : c.loop = .receiving b m remoteDidClose →
    LoopMove c (.recv .failed) { c with loop := .threw, core := c.core.kill }
  /-- The end of the stream, which `poll` has reported. -/
  | recvEnd {b m : ℕ} : c.loop = .receiving b m true →
    LoopMove c (.recv (.data [])) { c with loop := .finished, core := c.core.sendFin }
  /-- No data, and no end of the stream reported. -/
  | recvNothing {b m : ℕ} : c.loop = .receiving b m false →
    LoopMove c (.recv (.data [])) { c with loop := .start }
  /-- Data. -/
  | recvData {b m : ℕ} {remoteDidClose : Bool} {bytes : List UInt8} :
    c.loop = .receiving b m remoteDidClose → bytes ≠ [] →
      LoopMove c (.recv (.data bytes))
        { c with
          loop := .sending ⟨b, bytes.length, m, remoteDidClose⟩ .fast
          payloadBuf := Memory.write c.payloadBuf b bytes
          received := c.received ++ bytes }
  /-- The data does not fit into the window. -/
  | sendLater {call : SendCall} : c.loop = .sending call .fast →
    LoopMove c .sendData { c with loop := .sending call .slow }
  /-- The data fits into the window. -/
  | sendFast {call : SendCall} : c.loop = .sending call .fast →
    c.core.stx.unacked + call.buflen ≤ c.core.stx.inWin.toNat →
      LoopMove c .sendData (c.transmit call call.buflen)
  /-- The window is closed. -/
  | sendSleep {call : SendCall} : c.loop = .sending call .slow → c.rembytes ≤ 0 →
    LoopMove c .sendData { c with loop := .sending call (.asleep c.core.canSendEvent.next) }
  /-- The window is open. -/
  | sendSlow {call : SendCall} : c.loop = .sending call .slow → 0 < c.rembytes →
    LoopMove c .sendData
      (c.transmit call (if c.rembytes > call.buflen then call.buflen else c.rembytes.toNat))
  /-- A signal has come. -/
  | wake {call : SendCall} {w : ℕ} : c.loop = .sending call (.asleep w) →
    LoopMove c .sendWake { c with loop := .sending call .fast }
  /-- A signal has come, and the connection is gone. -/
  | wakeGone {call : SendCall} {w : ℕ} : c.loop = .sending call (.asleep w) →
    c.core.connState ≠ .connConnected → LoopMove c .sendWake { c with loop := .threw }

/-- The ways on from `poll`: it fails, it says something that ends the connection, or there may
be something to read. -/
theorem afterPoll_move {b m : ℕ} (hloop : c.loop = .polling b m) (hfd : c.pfdFd = true)
    (r : PollResult) : c.LoopMove (.poll r) (c.afterPoll b m r) := by
  cases r with
  | failed => exact .pollFailed hloop (Or.inr rfl)
  | revents r =>
    rw [afterPoll]
    split_ifs with hother hin
    · exact .pollOther hloop hfd hother
    · exact .pollNothing hloop (not_not.mp hother)
    · exact .pollIn _ hloop (not_not.mp hother)

/-- The ways on from `recv`: it fails, the stream is at its end, or something has been
received. -/
theorem afterRecv_move {b m : ℕ} {remoteDidClose : Bool}
    (hloop : c.loop = .receiving b m remoteDidClose) (r : RecvResult) :
    c.LoopMove (.recv r) (c.afterRecv b m remoteDidClose r) := by
  cases r with
  | failed => exact .recvFailed hloop
  | data bytes =>
    cases bytes with
    | nil =>
      cases remoteDidClose with
      | true => exact .recvEnd hloop
      | false => exact .recvNothing hloop
    | cons b bytes => exact .recvData hloop (List.cons_ne_nil b bytes)

/-- **Every step of the client loop is one of these.** No later proof looks at the definition of
a step again. -/
theorem loopStep_move {l : LoopLabel} (h : c.loopStep l = some c') : c.LoopMove l c' := by
  cases l with
  | loopEvent =>
    simp only [loopStep] at h
    split at h <;> cases h
    next hloop => exact .start hloop
  | poll r =>
    simp only [loopStep] at h
    split at h
    · next hloop =>
      split_ifs at h with hfd <;> cases h
      · exact afterPoll_move hloop hfd r
      · exact .pollFailed hloop (Or.inl (by simpa using hfd))
    · cases h
  | recv r =>
    simp only [loopStep] at h
    split at h
    · next hloop =>
      split at h
      · split_ifs at h
        cases h
        exact afterRecv_move hloop _
      · cases h
        exact afterRecv_move hloop _
    · cases h
  | sendData =>
    simp only [loopStep] at h
    split at h
    · next call hloop =>
      cases h
      unfold sendFast
      split
      · exact .sendLater hloop
      · next hfit => exact .sendFast hloop (not_lt.mp hfit)
    · next call hloop =>
      cases h
      unfold sendSlow
      split
      · next hrem => exact .sendSleep hloop hrem
      · next hrem => exact .sendSlow hloop (not_le.mp hrem)
    · cases h
  | sendWake =>
    simp only [loopStep] at h
    split at h
    · next hloop =>
      split_ifs at h with hw hconn <;> cases h
      · exact .wake hloop
      · exact .wakeGone hloop hconn
    · cases h

/-- **The client loop** replaces its own place, its buffer and what it has received,
and under `_lockStx` it leaves the gates of the receivers alone. -/
theorem loopStep_eq {l : LoopLabel} (h : c.loopStep l = some c') :
    ∃ core loop buf rcv,
      c' = { c with core := core, loop := loop, payloadBuf := buf, received := rcv } ∧
      c.core.KeepsGates core := by
  cases loopStep_move h with
  | pollOther | recvFailed => exact ⟨_, _, _, _, rfl, Core.keepsGates_kill⟩
  | recvEnd => exact ⟨_, _, _, _, rfl, Core.keepsGates_sendFin⟩
  | sendFast | sendSlow => exact ⟨_, _, _, _, rfl, ⟨rfl, rfl, rfl, rfl, rfl⟩⟩
  | _ => exact ⟨_, _, _, _, rfl, .rfl⟩

/-! ### `connect`, `deconstruct` and the notifications -/

/-- **What a step of `connect` does**, with one case for each way on. -/
inductive ConnectMove (c : Tcp) : Bool → Tcp → Prop
  /-- The change of the state is to be waited for. -/
  | start {ok : Bool} : c.connectPc = .start →
    ConnectMove c ok { c with connectPc := .syn c.core.connStateDidChange.next }
  /-- The SYN is sent. -/
  | syn {ok : Bool} {w : ℕ} : c.connectPc = .syn w →
    ConnectMove c ok { c with connectPc := .waiting w, core := c.core.sendTcp thSyn }
  /-- The state has changed, and the connection stands. -/
  | connected {ok : Bool} {w : ℕ} : c.connectPc = .waiting w →
    c.core.connStateDidChange.Reached w → c.core.connState = .connConnected →
      ConnectMove c ok { c with connectPc := .result }
  /-- The state has changed, and the connection does not stand. -/
  | notConnected {ok : Bool} {w : ℕ} : c.connectPc = .waiting w →
    c.core.connStateDidChange.Reached w → c.core.connState ≠ .connConnected →
      ConnectMove c ok { c with connectPc := .threw }
  /-- The header of the result is written. -/
  | result : c.connectPc = .result → c.wlock = none →
    ConnectMove c true
      { c with
        connectPc := .resultBody
        wlock := some .resultOk
        clientOut := c.clientOut ++ [.header .resultOk] }
  /-- The header of the result cannot be written. -/
  | resultFails : c.connectPc = .result → c.wlock = none →
    ConnectMove c false { c with connectPc := .threw }
  /-- The body of the result is written. -/
  | resultBody : c.connectPc = .resultBody →
    ConnectMove c true
      { c with
        connectPc := .install
        wlock := none
        clientOut := c.clientOut ++ [.body .resultOk] }
  /-- The body of the result cannot be written. -/
  | resultBodyFails : c.connectPc = .resultBody →
    ConnectMove c false { c with connectPc := .threw, wlock := none }
  /-- The descriptor is copied from the client. -/
  | install {ok : Bool} : c.connectPc = .install →
    ConnectMove c ok { c with connectPc := .disown, pfdFd := c.cliFd }
  /-- The client gives up its descriptor. -/
  | disown {ok : Bool} : c.connectPc = .disown →
    ConnectMove c ok { c with connectPc := .startLoop, cliFd := false }
  /-- The client loop is started. -/
  | startLoop {ok : Bool} : c.connectPc = .startLoop →
    ConnectMove c ok { c with connectPc := .returned, loop := .start }

/-- **Every step of `connect` is one of these**, with what has to be true for it. -/
theorem connectStep_move {ok : Bool} (h : c.connectStep ok = some c') : c.ConnectMove ok c' := by
  unfold connectStep at h
  split at h
  · next hpc =>
    cases h
    exact .start hpc
  · next w hpc =>
    cases h
    exact .syn hpc
  · next w hpc =>
    split_ifs at h with hw hconn <;> cases h
    · exact .connected hpc hw hconn
    · exact .notConnected hpc hw hconn
  · next hpc =>
    split_ifs at h with hl hok <;> cases h
    · subst hok
      exact .result hpc hl
    · obtain rfl := Bool.eq_false_iff.mpr hok
      exact .resultFails hpc hl
  · next hpc =>
    split_ifs at h with hok <;> cases h
    · subst hok
      exact .resultBody hpc
    · obtain rfl := Bool.eq_false_iff.mpr hok
      exact .resultBodyFails hpc
  · next hpc =>
    cases h
    exact .install hpc
  · next hpc =>
    cases h
    exact .disown hpc
  · next hpc =>
    cases h
    exact .startLoop hpc
  · cases h
  · cases h

/-- **`connect`** replaces what belongs to the hand-over, and under `_lockStx` it
leaves the gates of the receivers alone. -/
theorem connectStep_eq {ok : Bool} (h : c.connectStep ok = some c') :
    ∃ core pc loop fd cfd wl out,
      c' = { c with
        core := core, connectPc := pc, loop := loop, pfdFd := fd, cliFd := cfd, wlock := wl
        clientOut := out } ∧
      c.core.KeepsGates core := by
  cases connectStep_move h with
  | syn => exact ⟨_, _, _, _, _, _, _, rfl, ⟨rfl, rfl, rfl, rfl, rfl⟩⟩
  | _ => exact ⟨_, _, _, _, _, _, _, rfl, .rfl⟩

/-- `connect` does not call `kill`. Where it ends with an exception, somebody else has to ask
for the connection to be deleted. -/
theorem connectStep_kills {ok : Bool} (h : c.connectStep ok = some c') :
    c'.core.kills = c.core.kills := by
  cases connectStep_move h <;> rfl

/-- `connect` leaves the client loop alone until it starts it, which is the last thing it
does. -/
theorem connectStep_loop {ok : Bool} (h : c.connectStep ok = some c') :
    c'.loop = c.loop ∨ c.connectPc = .startLoop ∧ c'.loop = .start := by
  cases connectStep_move h with
  | startLoop hpc => exact Or.inr ⟨hpc, rfl⟩
  | _ => exact Or.inl rfl

/-- **What a step of a notification does**, with one case for each way on. -/
inductive NotifyMove (c : Tcp) : NotifyLabel → Tcp → Prop
  /-- The header is written. -/
  | header {n : ℕ} : c.wlock = none → c.cliFd = true →
    NotifyMove c (.header n)
      { c with
        wlock := some (.notification n)
        clientOut := c.clientOut ++ [.header (.notification n)] }
  /-- The client has given up its descriptor, and the header cannot be written. -/
  | headerFails {n : ℕ} : c.wlock = none → c.cliFd = false → NotifyMove c (.header n) c
  /-- The body is written. -/
  | body {n : ℕ} : c.wlock = some (.notification n) → c.cliFd = true →
    NotifyMove c .body
      { c with
        wlock := none
        clientOut := c.clientOut ++ [.body (.notification n)] }
  /-- The body cannot be written. -/
  | bodyFails {n : ℕ} : c.wlock = some (.notification n) → c.cliFd = false →
    NotifyMove c .body { c with wlock := none }

/-- **Every step of a notification is one of these**: the header under the lock, and then the
rest. -/
theorem notifyStep_move {l : NotifyLabel} (h : c.notifyStep l = some c') : c.NotifyMove l c' := by
  unfold notifyStep at h
  split at h
  · split_ifs at h with hl hfd <;> cases h
    · exact .header hl hfd
    · exact .headerFails hl (Bool.eq_false_iff.mpr hfd)
  · split at h
    · next hl =>
      split_ifs at h with hfd <;> cases h
      · exact .body hl hfd
      · exact .bodyFails hl (Bool.eq_false_iff.mpr hfd)
    · cases h

/-- **A notification** takes or releases `_wlock` and writes to the client. It touches nothing
else of the connection. -/
theorem notifyStep_eq {l : NotifyLabel} (h : c.notifyStep l = some c') :
    ∃ wl out, c' = { c with wlock := wl, clientOut := out } := by
  cases notifyStep_move h <;> exact ⟨_, _, rfl⟩

theorem deconstructStep_eq (h : c.deconstructStep = some c') :
    (c.teardown = .off ∧ c' = { c with teardown := .stxDone, core := c.core.deconstruct }) ∨
    (c.teardown = .stxDone ∧ c.lockClientSend = none ∧
      c' = { c with
        teardown := .done
        canClientSendEvent := c.canClientSendEvent.advance }) := by
  unfold deconstructStep at h
  split at h
  · next ht => exact Or.inl ⟨ht, (Option.some.inj h).symm⟩
  · next ht =>
    split_ifs at h with hl
    exact Or.inr ⟨ht, hl, (Option.some.inj h).symm⟩
  · cases h

/-! ### The receivers -/

theorem lt_of_getElem? (hs : c.segs[i]? = some s) : i < c.segs.length :=
  (List.getElem?_eq_some_iff.mp hs).1

@[simp] theorem moveHandler_handler (pc : HandlerPc) (j : ℕ) :
    (c.moveHandler i pc).handler j = if j = i then pc else c.handler j :=
  Function.update_apply ..

@[simp] theorem enter_handler (j : ℕ) :
    (c.enter s).handler j = if j = c.segs.length then .entered else c.handler j :=
  Function.update_apply ..

@[simp] theorem enter_segs : (c.enter s).segs = c.segs ++ [s] := rfl

@[simp] theorem enter_core : (c.enter s).core = c.core := rfl

theorem inputStep_call (h : c.inputStep (.call s) = some c') : c' = c.enter s :=
  (Option.some.inj h).symm

theorem inputStep_lockStx (h : c.inputStep (.lockStx i members) = some c') :
    ∃ s, c.segs[i]? = some s ∧
      (c.handler i = .entered ∧ c' = c.firstHalf i s members ∨
        c.handler i = .ackAwake ∧ c' = c.ackGate i s members) := by
  simp only [inputStep] at h
  split at h
  · next s hs hpc => exact ⟨s, hs, Or.inl ⟨hpc, (Option.some.inj h).symm⟩⟩
  · next s hs hpc => exact ⟨s, hs, Or.inr ⟨hpc, (Option.some.inj h).symm⟩⟩
  · cases h

theorem inputStep_ackWake (h : c.inputStep (.ackWake i) = some c') :
    ∃ w, c.handler i = .ackAsleep w ∧ c.core.canSendEvent.Reached w ∧
      (c.core.connState ≠ .connConnected ∧ c' = c.moveHandler i .returned ∨
        c.core.connState = .connConnected ∧ c' = c.moveHandler i .ackAwake) := by
  simp only [inputStep] at h
  split at h
  · next w hpc =>
    split_ifs at h with hr hc
    · exact ⟨w, hpc, hr, Or.inl ⟨hc, (Option.some.inj h).symm⟩⟩
    · exact ⟨w, hpc, hr, Or.inr ⟨not_not.mp hc, (Option.some.inj h).symm⟩⟩
  · cases h

theorem inputStep_lockClientSend (h : c.inputStep (.lockClientSend i) = some c') :
    ∃ s, c.segs[i]? = some s ∧ (c.handler i = .forward ∨ c.handler i = .fwdAwake) ∧
      c.lockClientSend = none ∧ c' = c.forwardGate i s := by
  simp only [inputStep] at h
  split at h
  · next s hs hpc hl => exact ⟨s, hs, Or.inl hpc, hl, (Option.some.inj h).symm⟩
  · next s hs hpc hl => exact ⟨s, hs, Or.inr hpc, hl, (Option.some.inj h).symm⟩
  · cases h

theorem inputStep_fwdWake (h : c.inputStep (.fwdWake i) = some c') :
    ∃ w, c.handler i = .fwdAsleep w ∧ c.canClientSendEvent.Reached w ∧
      (c.core.connState ≠ .connConnected ∧ c' = c.moveHandler i .returned ∨
        c.core.connState = .connConnected ∧ c' = c.moveHandler i .fwdAwake) := by
  simp only [inputStep] at h
  split at h
  · next w hpc =>
    split_ifs at h with hr hc
    · exact ⟨w, hpc, hr, Or.inl ⟨hc, (Option.some.inj h).symm⟩⟩
    · exact ⟨w, hpc, hr, Or.inr ⟨not_not.mp hc, (Option.some.inj h).symm⟩⟩
  · cases h

theorem inputStep_fwdTest (h : c.inputStep (.fwdTest i) = some c') :
    c.handler i = .fwdTurn ∧
      (c.core.connState ≠ .connConnected ∧
          c' = { c.moveHandler i .returned with lockClientSend := none } ∨
        c.core.connState = .connConnected ∧ c' = c.moveHandler i .sending) := by
  simp only [inputStep] at h
  split at h
  · next hpc =>
    split_ifs at h with hc
    · exact ⟨hpc, Or.inl ⟨hc, (Option.some.inj h).symm⟩⟩
    · exact ⟨hpc, Or.inr ⟨not_not.mp hc, (Option.some.inj h).symm⟩⟩
  · cases h

/-- What a `send` of a payload to the client accepts: nothing before the descriptor
has been installed. -/
def acceptedBy (c : Tcp) (s : Segment) (r : SendResult) : ℕ :=
  if c.pfdFd then r.count s.payload else 0

theorem acceptedBy_le (s : Segment) (r : SendResult) : c.acceptedBy s r ≤ s.payload.length := by
  unfold acceptedBy
  cases r with
  | accepted n =>
    split
    · exact min_le_right _ _
    · exact Nat.zero_le _
  | failed => split <;> exact Nat.zero_le _

theorem acceptedBy_eq_zero {r : SendResult} (h : r.count s.payload = 0) :
    c.acceptedBy s r = 0 := by
  unfold acceptedBy
  split
  · exact h
  · rfl

theorem inputStep_send {r : SendResult} (h : c.inputStep (.send i r) = some c') :
    ∃ s, c.segs[i]? = some s ∧ c.handler i = .sending ∧
      c' = c.forwardPayload i s (c.acceptedBy s r) := by
  simp only [inputStep] at h
  split at h
  · next s hs hpc => exact ⟨s, hs, hpc, (Option.some.inj h).symm⟩
  · cases h

/-- Forwarding a payload moves the position up to which payload has been forwarded,
whatever the client accepted. -/
theorem forwardPayload_core (k : ℕ) :
    (c.forwardPayload i s k).core.connState = c.core.connState ∧
    (c.forwardPayload i s k).core.stx.pktForwarded = c.core.stx.pktForwarded + s.payloadLen ∧
    (c.forwardPayload i s k).core.stx.ack = c.core.stx.ack ∧
    (c.forwardPayload i s k).core.canSendEvent = c.core.canSendEvent ∧
    (c.forwardPayload i s k).core.connStateDidChange = c.core.connStateDidChange := by
  unfold forwardPayload
  dsimp only
  split <;> exact ⟨rfl, rfl, rfl, rfl, rfl⟩

/-! ### The first half of `handle_input` -/

theorem firstHalf_of_connected (hc : c.core.connState = .connConnected)
    (hf : s.hdr.thFlags = thAck) : c.firstHalf i s members = c.ackGate i s members := by
  simp only [firstHalf, hc, hf, if_true]

theorem firstHalf_of_dying (hc : c.core.connState = .connDying) :
    c.firstHalf i s members = c.moveHandler i .returned := by
  simp only [firstHalf, hc]

/-- The two ends of the first `while` loop: the call goes to sleep until its turn comes, or it
counts its segment. -/
theorem ackGate_cases (c : Tcp) (i : ℕ) (s : Segment) (members : Bool) :
    (c.core.stx.ack ≠ s.hdr.thSeq ∧
      c.ackGate i s members = c.moveHandler i (.ackAsleep c.core.canSendEvent.next)) ∨
    (c.core.stx.ack = s.hdr.thSeq ∧ c.ackGate i s members =
      { c.moveHandler i (secondHalf s) with core := c.core.countSegment s members }) := by
  unfold ackGate
  split
  · next h => exact Or.inl ⟨h, rfl⟩
  · next h => exact Or.inr ⟨not_not.mp h, rfl⟩

/-- The two ends of the second `while` loop, which is about the order in which payloads are
written. -/
theorem forwardGate_cases (c : Tcp) (i : ℕ) (s : Segment) :
    (c.core.stx.pktForwarded ≠ s.hdr.thSeq ∧
      c.forwardGate i s = c.moveHandler i (.fwdAsleep c.canClientSendEvent.next)) ∨
    (c.core.stx.pktForwarded = s.hdr.thSeq ∧
      c.forwardGate i s = { c.moveHandler i .fwdTurn with lockClientSend := some i }) := by
  unfold forwardGate
  split
  · next h => exact Or.inl ⟨h.symm, rfl⟩
  · next h => exact Or.inr ⟨(not_not.mp h).symm, rfl⟩

/-! ### Where a step takes a call -/

/-- The call does not wait for a signal. It may still have to wait for a lock. -/
def HandlerPc.Awake : HandlerPc → Prop
  | .ackAsleep _ | .fwdAsleep _ => False
  | _ => True

theorem secondHalf_eq (s : Segment) :
    (s.payload = [] ∧ secondHalf s = .returned) ∨ (s.payload ≠ [] ∧ secondHalf s = .forward) := by
  unfold secondHalf
  split
  · next h => exact Or.inr ⟨fun he => h (s.payloadLen_eq_zero_iff.mpr he), rfl⟩
  · next h => exact Or.inl ⟨s.payloadLen_eq_zero_iff.mp (not_not.mp h), rfl⟩

theorem secondHalf_ne_absent (s : Segment) : secondHalf s ≠ .absent := by
  rcases secondHalf_eq s with ⟨-, h⟩ | ⟨-, h⟩ <;> simp [h]

theorem secondHalf_ne_threw (s : Segment) : secondHalf s ≠ .threw := by
  rcases secondHalf_eq s with ⟨-, h⟩ | ⟨-, h⟩ <;> simp [h]

theorem secondHalf_awake (s : Segment) : (secondHalf s).Awake := by
  rcases secondHalf_eq s with ⟨-, h⟩ | ⟨-, h⟩ <;> rw [h] <;> trivial

/-- **The first half of `handle_input`** either ends at the gate, or stays awake and
signals none of those who wait to send. -/
theorem firstHalf_cases (c : Tcp) (i : ℕ) (s : Segment) (members : Bool) :
    (c.core.connState = .connConnected ∧ s.hdr.thFlags = thAck ∧
      c.firstHalf i s members = c.ackGate i s members) ∨
    ∃ core pc, c.firstHalf i s members = { c.moveHandler i pc with core := core } ∧
      pc.Awake ∧ pc ≠ .absent ∧ core.canSendEvent = c.core.canSendEvent ∧
      (core.connState = c.core.connState ∨ c.core.connState = .connConnecting) := by
  have hsecond := And.intro (secondHalf_awake s) (secondHalf_ne_absent s)
  unfold firstHalf
  split
  · next hc =>
    right
    split_ifs
    · refine ⟨_, _, rfl, hsecond.1, hsecond.2, ?_, Or.inr hc⟩
      exact Core.keepsGates_sendAckNolock.canSendEvent
    · exact ⟨_, _, rfl, hsecond.1, hsecond.2, rfl, Or.inr hc⟩
    · exact ⟨_, _, rfl, trivial, by simp, rfl, Or.inr hc⟩
  · next hc =>
    split_ifs with hack hrst
    · exact Or.inl ⟨hc, hack, rfl⟩
    · exact Or.inr ⟨_, _, rfl, trivial, by simp, rfl, Or.inl rfl⟩
    · exact Or.inr ⟨_, _, rfl, hsecond.1, hsecond.2, rfl, Or.inl rfl⟩
  · exact Or.inr ⟨_, _, rfl, trivial, by simp, rfl, Or.inl rfl⟩
  · exact Or.inr ⟨_, _, rfl, trivial, by simp, rfl, Or.inl rfl⟩

/-- The step to `c'` takes call `i`, which is being executed, to `pc`, and no other
call anywhere. -/
structure Moves (c : Tcp) (i : ℕ) (pc : HandlerPc) (c' : Tcp) : Prop where
  lt_length : i < c.segs.length
  ne_absent : c.handler i ≠ .absent
  ne_returned : c.handler i ≠ .returned
  to_ne_absent : pc ≠ .absent
  segs : c'.segs = c.segs
  handler : c'.handler = (c.moveHandler i pc).handler

namespace Moves

variable {pc p : HandlerPc}

/-- A call that has been made, and has not returned, goes to `pc`. -/
theorem of_pc (hi : i < c.segs.length) (hpc : c.handler i = p)
    (hp : p ≠ .absent ∧ p ≠ .returned) (hto : pc ≠ .absent)
    (hc : c'.segs = c.segs ∧ c'.handler = (c.moveHandler i pc).handler) : c.Moves i pc c' :=
  ⟨hi, hpc ▸ hp.1, hpc ▸ hp.2, hto, hc.1, hc.2⟩

theorem handler_apply (h : c.Moves i pc c') (j : ℕ) :
    c'.handler j = if j = i then pc else c.handler j := by
  rw [h.handler]
  exact moveHandler_handler pc j

theorem handler_of_ne (h : c.Moves i pc c') {j : ℕ} (hj : j ≠ i) : c'.handler j = c.handler j := by
  rw [h.handler_apply, if_neg hj]

theorem returned_iff (h : c.Moves i pc c') (hpc : pc = .returned) (j : ℕ) :
    c'.handler j = .returned ↔ c.handler j = .returned ∨ j = i := by
  rw [h.handler_apply]
  split
  · next hj => simp [hj, hpc]
  · next hj => simp [hj]

theorem returned_iff_of_ne (h : c.Moves i pc c') (hpc : pc ≠ .returned) (j : ℕ) :
    c'.handler j = .returned ↔ c.handler j = .returned := by
  rw [h.handler_apply]
  split
  · next hj => exact iff_of_false hpc (hj ▸ h.ne_returned)
  · exact Iff.rfl

end Moves

theorem ackGate_moves (hi : i < c.segs.length) (ha : c.handler i ≠ .absent)
    (hr : c.handler i ≠ .returned) : ∃ pc, c.Moves i pc (c.ackGate i s members) := by
  rcases ackGate_cases c i s members with ⟨-, heq⟩ | ⟨-, heq⟩
  · rw [heq]
    exact ⟨.ackAsleep _, hi, ha, hr, by simp, rfl, rfl⟩
  · rw [heq]
    exact ⟨_, hi, ha, hr, secondHalf_ne_absent s, rfl, rfl⟩

theorem firstHalf_moves (hi : i < c.segs.length) (ha : c.handler i ≠ .absent)
    (hr : c.handler i ≠ .returned) : ∃ pc, c.Moves i pc (c.firstHalf i s members) := by
  rcases firstHalf_cases c i s members with
    ⟨-, -, heq⟩ | ⟨core, pc, heq, -, hne, -⟩
  · exact heq ▸ ackGate_moves hi ha hr
  · rw [heq]
    exact ⟨pc, hi, ha, hr, hne, rfl, rfl⟩

/-- What no receiver touches: the descriptors and the locks of the hand-over, the
client loop, and how far `connect` and `deconstruct` are. -/
structure KeepsOthers (c c' : Tcp) : Prop where
  pfdFd : c'.pfdFd = c.pfdFd
  cliFd : c'.cliFd = c.cliFd
  wlock : c'.wlock = c.wlock
  loop : c'.loop = c.loop
  payloadBuf : c'.payloadBuf = c.payloadBuf
  received : c'.received = c.received
  connectPc : c'.connectPc = c.connectPc
  teardown : c'.teardown = c.teardown

theorem ackGate_keeps (c : Tcp) (i : ℕ) (s : Segment) (members : Bool) :
    c.KeepsOthers (c.ackGate i s members) := by
  rcases ackGate_cases c i s members with ⟨-, heq⟩ | ⟨-, heq⟩
  · exact heq ▸ ⟨rfl, rfl, rfl, rfl, rfl, rfl, rfl, rfl⟩
  · exact heq ▸ ⟨rfl, rfl, rfl, rfl, rfl, rfl, rfl, rfl⟩

theorem firstHalf_keeps (c : Tcp) (i : ℕ) (s : Segment) (members : Bool) :
    c.KeepsOthers (c.firstHalf i s members) := by
  rcases firstHalf_cases c i s members with
    ⟨-, -, heq⟩ | ⟨core, pc, heq, -⟩
  · exact heq ▸ ackGate_keeps ..
  · exact heq ▸ ⟨rfl, rfl, rfl, rfl, rfl, rfl, rfl, rfl⟩

/-- **A receiver** leaves the hand-over, the client loop and the teardown alone. So these can be
dealt with apart from each other. -/
theorem inputStep_keeps {l : InputLabel} (h : c.inputStep l = some c') : c.KeepsOthers c' := by
  cases l with
  | call s => exact inputStep_call h ▸ ⟨rfl, rfl, rfl, rfl, rfl, rfl, rfl, rfl⟩
  | lockStx i members =>
    obtain ⟨s, -, ⟨-, rfl⟩ | ⟨-, rfl⟩⟩ := inputStep_lockStx h
    · exact firstHalf_keeps ..
    · exact ackGate_keeps ..
  | ackWake i =>
    obtain ⟨w, -, -, ⟨-, rfl⟩ | ⟨-, rfl⟩⟩ := inputStep_ackWake h <;>
      exact ⟨rfl, rfl, rfl, rfl, rfl, rfl, rfl, rfl⟩
  | lockClientSend i =>
    obtain ⟨s, -, -, -, rfl⟩ := inputStep_lockClientSend h
    rcases forwardGate_cases c i s with ⟨-, heq⟩ | ⟨-, heq⟩ <;>
      exact heq ▸ ⟨rfl, rfl, rfl, rfl, rfl, rfl, rfl, rfl⟩
  | fwdWake i =>
    obtain ⟨w, -, -, ⟨-, rfl⟩ | ⟨-, rfl⟩⟩ := inputStep_fwdWake h <;>
      exact ⟨rfl, rfl, rfl, rfl, rfl, rfl, rfl, rfl⟩
  | fwdTest i =>
    obtain ⟨-, ⟨-, rfl⟩ | ⟨-, rfl⟩⟩ := inputStep_fwdTest h <;>
      exact ⟨rfl, rfl, rfl, rfl, rfl, rfl, rfl, rfl⟩
  | send i r =>
    obtain ⟨s, -, -, rfl⟩ := inputStep_send h
    exact ⟨rfl, rfl, rfl, rfl, rfl, rfl, rfl, rfl⟩

/-- A receiver is either inside a call that has been made and has not returned, or it
makes the next one. -/
theorem inputStep_moves (hpresent : ∀ j, c.segs.length ≤ j → c.handler j = .absent)
    {l : InputLabel} (h : c.inputStep l = some c') :
    (∃ s, l = .call s ∧ c' = c.enter s) ∨ ∃ i pc, c.Moves i pc c' := by
  have hlt : ∀ {j}, c.handler j ≠ .absent → j < c.segs.length := fun {j} hj =>
    Nat.lt_of_not_le fun hle => hj (hpresent j hle)
  cases l with
  | call s => exact Or.inl ⟨s, rfl, inputStep_call h⟩
  | lockStx i members =>
    obtain ⟨s, hs, ⟨hpc, rfl⟩ | ⟨hpc, rfl⟩⟩ := inputStep_lockStx h
    · exact Or.inr ⟨i, firstHalf_moves (lt_of_getElem? hs) (by simp [hpc]) (by simp [hpc])⟩
    · exact Or.inr ⟨i, ackGate_moves (lt_of_getElem? hs) (by simp [hpc]) (by simp [hpc])⟩
  | ackWake i =>
    obtain ⟨w, hpc, -, ⟨-, rfl⟩ | ⟨-, rfl⟩⟩ := inputStep_ackWake h
    · exact Or.inr ⟨i, _, .of_pc (hlt (by simp [hpc])) hpc (by simp) (by simp) ⟨rfl, rfl⟩⟩
    · exact Or.inr ⟨i, _, .of_pc (hlt (by simp [hpc])) hpc (by simp) (by simp) ⟨rfl, rfl⟩⟩
  | lockClientSend i =>
    obtain ⟨s, hs, hpc, -, rfl⟩ := inputStep_lockClientSend h
    have hne : c.handler i ≠ .absent ∧ c.handler i ≠ .returned := by
      rcases hpc with hpc | hpc <;> simp [hpc]
    rcases forwardGate_cases c i s with ⟨-, heq⟩ | ⟨-, heq⟩
    · rw [heq]
      exact Or.inr ⟨i, .fwdAsleep _, lt_of_getElem? hs, hne.1, hne.2, by simp, rfl, rfl⟩
    · rw [heq]
      exact Or.inr ⟨i, .fwdTurn, lt_of_getElem? hs, hne.1, hne.2, by simp, rfl, rfl⟩
  | fwdWake i =>
    obtain ⟨w, hpc, -, ⟨-, rfl⟩ | ⟨-, rfl⟩⟩ := inputStep_fwdWake h
    · exact Or.inr ⟨i, _, .of_pc (hlt (by simp [hpc])) hpc (by simp) (by simp) ⟨rfl, rfl⟩⟩
    · exact Or.inr ⟨i, _, .of_pc (hlt (by simp [hpc])) hpc (by simp) (by simp) ⟨rfl, rfl⟩⟩
  | fwdTest i =>
    obtain ⟨hpc, ⟨-, rfl⟩ | ⟨-, rfl⟩⟩ := inputStep_fwdTest h
    · exact Or.inr ⟨i, _, .of_pc (hlt (by simp [hpc])) hpc (by simp) (by simp) ⟨rfl, rfl⟩⟩
    · exact Or.inr ⟨i, _, .of_pc (hlt (by simp [hpc])) hpc (by simp) (by simp) ⟨rfl, rfl⟩⟩
  | send i r =>
    obtain ⟨s, hs, hpc, rfl⟩ := inputStep_send h
    exact Or.inr ⟨i, _, .of_pc (lt_of_getElem? hs) hpc (by simp) (by simp) ⟨rfl, rfl⟩⟩

/-- **What any step does to the calls**: it makes one more, moves one, or leaves them
alone. -/
theorem step_moves (hpresent : ∀ j, c.segs.length ≤ j → c.handler j = .absent) {l : Label}
    (h : c.step l = some c') :
    (∃ s, l = .input (.call s) ∧ c' = c.enter s) ∨
    (∃ i pc, c.Moves i pc c') ∨ c'.segs = c.segs ∧ c'.handler = c.handler := by
  cases l with
  | input l =>
    rcases inputStep_moves hpresent h with ⟨s, rfl, heq⟩ | hm
    · exact Or.inl ⟨s, rfl, heq⟩
    · exact Or.inr (Or.inl hm)
  | loop l =>
    obtain ⟨core, loop, buf, rcv, rfl, -⟩ := loopStep_eq h
    exact Or.inr (Or.inr ⟨rfl, rfl⟩)
  | connect ok =>
    obtain ⟨core, pc, loop, fd, cfd, wl, out, rfl, -⟩ := connectStep_eq h
    exact Or.inr (Or.inr ⟨rfl, rfl⟩)
  | deconstruct =>
    rcases deconstructStep_eq h with ⟨-, rfl⟩ | ⟨-, -, rfl⟩
    · exact Or.inr (Or.inr ⟨rfl, rfl⟩)
    · exact Or.inr (Or.inr ⟨rfl, rfl⟩)
  | notify l =>
    obtain ⟨wl, out, rfl⟩ := notifyStep_eq h
    exact Or.inr (Or.inr ⟨rfl, rfl⟩)

/-! ### Where a call of `handle_input` is -/

/-- The call has been made and has not taken `_stx.ack` past its segment yet. -/
def HandlerPc.InFirstHalf : HandlerPc → Prop
  | .entered | .ackAsleep _ | .ackAwake => True
  | _ => False

instance (pc : HandlerPc) : Decidable pc.InFirstHalf := by
  cases pc <;> unfold HandlerPc.InFirstHalf <;> infer_instance

/-- The call has a payload to forward and has taken `_stx.ack` past it. -/
def HandlerPc.InSecondHalf : HandlerPc → Prop
  | .forward | .fwdAsleep _ | .fwdAwake | .fwdTurn | .sending => True
  | _ => False

/-- The call holds `_lockClientSend`, from the moment when its turn has come up to the end of
its `send`. -/
def HandlerPc.HoldsClientSend : HandlerPc → Prop
  | .fwdTurn | .sending => True
  | _ => False

instance (pc : HandlerPc) : Decidable pc.HoldsClientSend := by
  cases pc <;> unfold HandlerPc.HoldsClientSend <;> infer_instance

end Tcp

end Usbmuxd
