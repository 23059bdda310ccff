import Usbmuxd.Tcp.Steps

/-!
# What the locked sections do to the window

`_stx` has three kinds of writers once the handshake is over. A receiver that counts its
segment takes over the window and the acknowledgement of the device, and says so on
`_canSendEvent`; `send_data` sends a segment, which also acknowledges what has been
received; and `connect` sends its SYN. `send_data` is also who reads the window, and goes
to sleep on `_canSendEvent` when it is closed.

`Usbmuxd.Tcp.WindowStep` says of each step of a connection which of these it is. All
other steps leave the window alone (`Usbmuxd.Tcp.Aside`).

The three results that rest on this are about senders that wait too long, acknowledgements that
are not sent, and windows that are out of date. Each of them has an invariant of its own, but
the same steps can break them, and a step that is none of these cannot; so the case analysis
over the whole connection is made once, here, and each of the three proofs has five cases.
-/

namespace Usbmuxd

open Interleaving

namespace Tcp

/-! ### The sender -/

/-- **A sender can transmit**: it is in `send_data`, and if it sleeps it has been signalled.
Being awake is enough, since it tests the window before it goes to sleep again. -/
def CanTransmit (c : Tcp) : Prop :=
  match c.loop with
  | .sending _ (.asleep w) => c.core.canSendEvent.Reached w
  | .sending _ _ => True
  | _ => False

instance (c : Tcp) : Decidable c.CanTransmit := by
  unfold CanTransmit
  split <;> infer_instance

/-- The client loop is in `send_data`, awake or asleep. It has bytes of the client that have not
been sent yet. -/
def LoopPc.inSendData : LoopPc → Bool
  | .sending _ _ => true
  | _ => false

variable {c c' : Tcp} {i : ℕ} {s : Segment} {members : Bool} {l : Label}

theorem not_canTransmit (h : c.loop.inSendData = false) : ¬c.CanTransmit := by
  unfold CanTransmit
  cases hloop : c.loop with
  | sending call pc =>
    rw [hloop] at h
    cases h
  | _ => exact id

theorem canTransmit_of_signalled (h : c.loop.inSendData = true)
    (hw : ∀ call w, c.loop = .sending call (.asleep w) → c.core.canSendEvent.Reached w) :
    c.CanTransmit := by
  unfold CanTransmit
  cases hloop : c.loop with
  | sending call pc =>
    cases pc with
    | asleep w => exact hw call w hloop
    | fast | slow => trivial
  | _ =>
    rw [hloop] at h
    cases h

/-! ### Counting a segment -/

namespace Core

variable (o : Core) (s : Segment) (members : Bool)

@[simp] theorem countSegment_seqAcked :
    (o.countSegment s members).stx.seqAcked = s.hdr.thAck := by
  unfold countSegment sendAckNolock
  dsimp only
  split_ifs <;> rfl

@[simp] theorem countSegment_inWin : (o.countSegment s members).stx.inWin = s.window := by
  unfold countSegment sendAckNolock
  dsimp only
  split_ifs <;> rfl

end Core

/-! ### What has been announced -/

/-- `_stx.acked` has been announced to the device in some segment, unless it is `a₀` still.
The field is written whenever a segment is sent, and nowhere else, so it says what the
device knows. -/
def Core.Announced (a₀ : BitVec 32) (o : Core) : Prop :=
  o.stx.acked = a₀ ∨ ∃ seg ∈ o.wire, seg.hdr.thAck = o.stx.acked

namespace Core

variable {a₀ : BitVec 32} {o o' : Core}

theorem Announced.of_same (h : o.Announced a₀) (hacked : o'.stx.acked = o.stx.acked)
    (hwire : ∀ seg ∈ o.wire, seg ∈ o'.wire) : o'.Announced a₀ := by
  rw [Announced, hacked]
  exact h.imp_right fun ⟨seg, hseg, hack⟩ => ⟨seg, hwire seg hseg, hack⟩

/-- Every segment that is sent announces `_stx.ack`. -/
theorem announced_of_sent (flags : BitVec 8) (payload : List UInt8)
    (hacked : o'.stx.acked = o.stx.ack) (hwire : o'.wire = o.sendPacket flags payload) :
    o'.Announced a₀ := by
  refine Or.inr ⟨⟨o.tcpHeader flags, payload, o.stx⟩, ?_, hacked.symm⟩
  rw [hwire]
  exact List.mem_append_right _ (List.mem_singleton_self _)

theorem Announced.countSegment (h : o.Announced a₀) (s : Segment) (members : Bool) :
    (o.countSegment s members).Announced a₀ := by
  unfold Core.countSegment sendAckNolock
  dsimp only
  split_ifs
  · exact announced_of_sent _ _ rfl rfl
  · exact h.of_same rfl fun _ hseg => hseg
  · exact h.of_same rfl fun _ hseg => hseg

end Core

/-! ### Steps aside -/

/-- **A step that leaves the window alone.** It may send a segment all the same, but one that
acknowledges what has been received. -/
structure Aside (c c' : Tcp) : Prop where
  connState : c'.core.connState = c.core.connState
  seq : c'.core.stx.seq = c.core.stx.seq
  seqAcked : c'.core.stx.seqAcked = c.core.stx.seqAcked
  inWin : c'.core.stx.inWin = c.core.stx.inWin
  ack : c'.core.stx.ack = c.core.stx.ack
  canSendEvent : c'.core.canSendEvent = c.core.canSendEvent
  /-- What has been received may be acknowledged. -/
  acked : c'.core.stx.acked = c.core.stx.acked ∨ c'.core.stx.acked = c.core.stx.ack
  announced : ∀ a₀, c.core.Announced a₀ → c'.core.Announced a₀
  /-- No sender goes to sleep. -/
  asleep : ∀ call w, c'.loop = .sending call (.asleep w) → c.loop = .sending call (.asleep w)
  /-- A sender that can transmit still can, unless the connection is over. -/
  canTransmit : c.CanTransmit → c'.CanTransmit ∨ c.core.connState ≠ .connConnected ∨
    c.connectPc = .startLoop

namespace Aside

/-- Steps that leave both `_stx` and the client loop alone: most of what receivers and `connect`
do. -/
theorem of_same (hconn : c'.core.connState = c.core.connState)
    (hstx : c'.core.stx = c.core.stx) (hwire : ∀ seg ∈ c.core.wire, seg ∈ c'.core.wire)
    (hev : c'.core.canSendEvent = c.core.canSendEvent) (hloop : c'.loop = c.loop) :
    c.Aside c' where
  connState := hconn
  seq := by rw [hstx]
  seqAcked := by rw [hstx]
  inWin := by rw [hstx]
  ack := by rw [hstx]
  canSendEvent := hev
  acked := Or.inl (by rw [hstx])
  announced := fun _ h => h.of_same (by rw [hstx]) hwire
  asleep := fun _ _ h => hloop ▸ h
  canTransmit := fun h => Or.inl (by rwa [CanTransmit, hloop, hev])

/-- Steps of the client loop outside `send_data`. -/
theorem of_loop (hconn : c'.core.connState = c.core.connState)
    (hstx : c'.core.stx = c.core.stx) (hwire : ∀ seg ∈ c.core.wire, seg ∈ c'.core.wire)
    (hev : c'.core.canSendEvent = c.core.canSendEvent)
    (hloop : c.loop.inSendData = false) (hawake : ∀ call w, c'.loop ≠ .sending call (.asleep w)) :
    c.Aside c' where
  connState := hconn
  seq := by rw [hstx]
  seqAcked := by rw [hstx]
  inWin := by rw [hstx]
  ack := by rw [hstx]
  canSendEvent := hev
  acked := Or.inl (by rw [hstx])
  announced := fun _ h => h.of_same (by rw [hstx]) hwire
  asleep := fun call w h => absurd h (hawake call w)
  canTransmit := fun h => absurd h (not_canTransmit hloop)

/-- A sender that goes on in `send_data`. -/
theorem of_sending {call : SendCall} {pc : SendPc} (hpc : ∀ w, pc ≠ .asleep w) :
    c.Aside { c with loop := .sending call pc } where
  connState := rfl
  seq := rfl
  seqAcked := rfl
  inWin := rfl
  ack := rfl
  canSendEvent := rfl
  acked := Or.inl rfl
  announced := fun _ h => h
  asleep := by
    intro call' w h
    cases h
    exact absurd rfl (hpc w)
  canTransmit := fun _ => Or.inl <| by
    cases pc with
    | asleep w => exact absurd rfl (hpc w)
    | _ => trivial

end Aside

/-! ### The steps -/

/-- **What a step does to the window.** One constructor for each way to read or write it, with
what is known of the state before it, and one for everybody else. -/
inductive WindowStep (c : Tcp) : Label → Tcp → Prop
  /-- Call `i` counts its segment. -/
  | count {i : ℕ} {s : Segment} (members : Bool) (hs : c.segs[i]? = some s)
      (hpc : (c.handler i).InFirstHalf) (hack : c.core.stx.ack = s.hdr.thSeq) :
      WindowStep c (.input (.lockStx i members))
        { c.moveHandler i (secondHalf s) with core := c.core.countSegment s members }
  /-- `send_data` sends a segment. -/
  | transmit {call : SendCall} {pc : SendPc} (len : ℕ) (hloop : c.loop = .sending call pc) :
      WindowStep c (.loop .sendData) (c.transmit call len)
  /-- `send_data` finds the window closed. -/
  | sleep {call : SendCall} (hloop : c.loop = .sending call .slow) (hrem : c.rembytes ≤ 0) :
      WindowStep c (.loop .sendData)
        { c with loop := .sending call (.asleep c.core.canSendEvent.next) }
  /-- `deconstruct` signals the end of the connection. -/
  | deconstruct :
      WindowStep c .deconstruct { c with teardown := .stxDone, core := c.core.deconstruct }
  | aside {l : Label} {c' : Tcp} (h : c.Aside c') : WindowStep c l c'

theorem transmit_awake (call : SendCall) (len : ℕ) (call' : SendCall) (w : ℕ) :
    (c.transmit call len).loop ≠ .sending call' (.asleep w) := by
  unfold transmit SendCall.sent
  dsimp only
  split_ifs <;> intro h <;> cases h

/-! ### Which step is which -/

theorem windowStep_ackGate (hs : c.segs[i]? = some s) (hpc : (c.handler i).InFirstHalf) :
    c.WindowStep (.input (.lockStx i members)) (c.ackGate i s members) := by
  rcases ackGate_cases c i s members with ⟨-, heq⟩ | ⟨hack, heq⟩
  · rw [heq]
    exact .aside (.of_same rfl rfl (fun _ hseg => hseg) rfl rfl)
  · rw [heq]
    exact .count members hs hpc hack

theorem windowStep_firstHalf (hc : c.core.connState ≠ .connConnecting)
    (hs : c.segs[i]? = some s) (hpc : (c.handler i).InFirstHalf) :
    c.WindowStep (.input (.lockStx i members)) (c.firstHalf i s members) := by
  unfold firstHalf
  split
  · next h => exact absurd h hc
  · split_ifs
    · exact windowStep_ackGate hs hpc
    · exact .aside (.of_same rfl rfl (fun _ hseg => hseg) rfl rfl)
    · exact .aside (.of_same rfl rfl (fun _ hseg => hseg) rfl rfl)
  · exact .aside (.of_same rfl rfl (fun _ hseg => hseg) rfl rfl)
  · exact .aside (.of_same rfl rfl (fun _ hseg => hseg) rfl rfl)

/-- A receiver counts its segment under `_lockStx`, at its first visit or when it has been
woken, and does nothing to the window otherwise. -/
theorem windowStep_input {l : InputLabel} (hc : c.core.connState ≠ .connConnecting)
    (h : c.inputStep l = some c') : c.WindowStep (.input l) c' := by
  cases l with
  | call s =>
    obtain rfl := inputStep_call h
    exact .aside (.of_same rfl rfl (fun _ hseg => hseg) rfl rfl)
  | lockStx i members =>
    obtain ⟨s, hs, ⟨hpc, rfl⟩ | ⟨hpc, rfl⟩⟩ := inputStep_lockStx h
    · exact windowStep_firstHalf hc hs (hpc ▸ trivial)
    · exact windowStep_ackGate hs (hpc ▸ trivial)
  | ackWake i =>
    obtain ⟨w, -, -, ⟨-, rfl⟩ | ⟨-, rfl⟩⟩ := inputStep_ackWake h <;>
      exact .aside (.of_same rfl rfl (fun _ hseg => hseg) rfl rfl)
  | lockClientSend i =>
    obtain ⟨s, -, -, -, rfl⟩ := inputStep_lockClientSend h
    rcases forwardGate_cases c i s with ⟨-, heq⟩ | ⟨-, heq⟩ <;>
      exact heq ▸ .aside (.of_same rfl rfl (fun _ hseg => hseg) rfl rfl)
  | fwdWake i =>
    obtain ⟨w, -, -, ⟨-, rfl⟩ | ⟨-, rfl⟩⟩ := inputStep_fwdWake h <;>
      exact .aside (.of_same rfl rfl (fun _ hseg => hseg) rfl rfl)
  | fwdTest i =>
    obtain ⟨-, ⟨-, rfl⟩ | ⟨-, rfl⟩⟩ := inputStep_fwdTest h <;>
      exact .aside (.of_same rfl rfl (fun _ hseg => hseg) rfl rfl)
  | send i r =>
    obtain ⟨s, -, -, rfl⟩ := inputStep_send h
    unfold forwardPayload
    dsimp only
    split <;> exact .aside ⟨rfl, rfl, rfl, rfl, rfl, rfl, Or.inl rfl, fun _ h => h,
      fun _ _ hloop => hloop, Or.inl⟩

/-- The client loop outside `send_data`, and on its way out of `waitForEvent`, leaves the window
alone; in the locked sections of `send_data` it sends, or goes to sleep. -/
theorem windowStep_loop {l : LoopLabel} (h : c.loopStep l = some c') :
    c.WindowStep (.loop l) c' := by
  cases loopStep_move h with
  | sendFast hloop | sendSlow hloop => exact .transmit _ hloop
  | sendSleep hloop hrem => exact .sleep hloop hrem
  | sendLater | wake => exact .aside (.of_sending nofun)
  | wakeGone hloop hconn =>
    exact .aside ⟨rfl, rfl, rfl, rfl, rfl, rfl, Or.inl rfl, fun _ h => h,
      fun _ _ heq => (by cases heq), fun _ => Or.inr (Or.inl hconn)⟩
  | recvEnd hloop =>
    -- the FIN is one more segment
    exact .aside (.of_loop rfl rfl (fun _ hseg => List.mem_append_left _ hseg) rfl
      (by rw [hloop]; rfl) nofun)
  | recvData hloop =>
    exact .aside (.of_loop rfl rfl (fun _ hseg => hseg) rfl (by rw [hloop]; rfl)
      fun _ _ heq => by cases heq)
  | start hloop | pollFailed hloop | pollOther hloop | pollNothing hloop | pollIn _ hloop
  | recvFailed hloop | recvNothing hloop =>
    exact .aside (.of_loop rfl rfl (fun _ hseg => hseg) rfl (by rw [hloop]; rfl) nofun)

/-- `connect` sends its SYN before the handshake only, so that after it the SYN is no case. -/
theorem windowStep_connect {ok : Bool} (h : c.connectStep ok = some c') :
    c.WindowStep (.connect ok) c' := by
  cases connectStep_move h with
  | syn =>
    exact .aside ⟨rfl, rfl, rfl, rfl, rfl, rfl, Or.inr rfl,
      fun _ _ => Core.announced_of_sent _ _ rfl rfl, fun _ _ heq => heq, Or.inl⟩
  | startLoop hpc =>
    exact .aside ⟨rfl, rfl, rfl, rfl, rfl, rfl, Or.inl rfl, fun _ h => h,
      fun _ _ heq => (by cases heq), fun _ => Or.inr (Or.inr hpc)⟩
  | _ => exact .aside (.of_same rfl rfl (fun _ hseg => hseg) rfl rfl)

/-- **What any step does to the window**, after the handshake. This is the only place where all
steps of a connection are gone through. -/
theorem step_window (hc : c.core.connState ≠ .connConnecting) (h : c.step l = some c') :
    c.WindowStep l c' := by
  cases l with
  | input l => exact windowStep_input hc h
  | loop l => exact windowStep_loop h
  | connect ok => exact windowStep_connect h
  | deconstruct =>
    rcases deconstructStep_eq h with ⟨-, rfl⟩ | ⟨-, -, rfl⟩
    · exact .deconstruct
    · exact .aside (.of_same rfl rfl (fun _ hseg => hseg) rfl rfl)
  | notify l =>
    obtain ⟨wl, out, rfl⟩ := notifyStep_eq h
    exact .aside (.of_same rfl rfl (fun _ hseg => hseg) rfl rfl)

end Tcp

end Usbmuxd
