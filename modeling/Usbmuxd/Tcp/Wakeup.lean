import Usbmuxd.Tcp.Ending
import Usbmuxd.Tcp.SendWindow
import Usbmuxd.Tcp.Window

/-!
# No wake-up is lost

When `send_data` finds the window closed it takes the number of the next signal of
`_canSendEvent` while it still holds `_lockStx`, and then releases the lock and waits. The
window moves only when a receiver counts a segment, and that receiver gives the signal
before it releases the lock. So the sender has a ticket that is due as soon as the window
is open (`Usbmuxd.Tcp.SenderTicket`).

The handshake moves the window too, and gives no signal, but then there is no sender
yet.

The invariant is about the moment between testing the window and going to sleep. The sender
tests under `_lockStx`, and takes its ticket before it gives the lock back; so the window cannot
have been opened in between, and whoever opens it afterwards gives a signal that the ticket
waits for, whether the sender sleeps by then or not.
-/

namespace Usbmuxd

open Interleaving

namespace Tcp

/-- The device has room for more: what has been sent and not acknowledged is less than the
window. This is what a sender tests, and sleeps on. -/
def WindowOpen (stx : TCPSenderState) : Prop := stx.unacked < stx.inWin.toNat

/-- **A sleeping sender has a ticket**, due as soon as the window is open. -/
structure SenderTicket (c : Tcp) : Prop where
  /-- During the handshake there is no sender. -/
  handshake : c.core.connState = .connConnecting → c.loop = .off ∧ ¬c.connectPc.Established
  ticket : ∀ call w, c.loop = .sending call (.asleep w) →
    c.core.canSendEvent.Ticket (WindowOpen c.core.stx) w

variable {c c' : Tcp} {l : Label}

/-- `connect` does not start the client loop during the handshake, and so nobody sends data. -/
theorem connectStep_handshake {ok : Bool} (hc : c.core.connState = .connConnecting)
    (hpc : ¬c.connectPc.Established) (h : c.connectStep ok = some c') :
    c'.loop = c.loop ∧ ¬c'.connectPc.Established := by
  cases connectStep_move h with
  | start | syn | notConnected => exact ⟨rfl, id⟩
  | connected _ _ hconn => exact absurd (hc.symm.trans hconn) nofun
  | result heq | resultFails heq | resultBody heq | resultBodyFails heq | install heq
  | disown heq | startLoop heq =>
    rw [heq] at hpc
    exact absurd trivial hpc

namespace SenderTicket

theorem new (sPort dPort : BitVec 16) (seq : BitVec 32) :
    (Tcp.new sPort dPort seq).SenderTicket where
  handshake := fun _ => ⟨rfl, id⟩
  ticket := fun _ _ h => by cases h

/-- During the handshake nobody waits for the window, and there is no ticket to be honoured. -/
theorem step_handshake (h : c.SenderTicket) (hc : c.core.connState = .connConnecting)
    (hs : c.step l = some c') : c'.loop = .off ∧ ¬c'.connectPc.Established := by
  obtain ⟨hoff, hpc⟩ := h.handshake hc
  cases l with
  | input l =>
    have hk := inputStep_keeps hs
    rw [hk.loop, hk.connectPc]
    exact ⟨hoff, hpc⟩
  | loop l =>
    simp only [Tcp.step, loopStep, hoff] at hs
    cases l <;> cases hs
  | connect ok =>
    obtain ⟨hloop, hpc'⟩ := connectStep_handshake hc hpc hs
    exact ⟨hloop.trans hoff, hpc'⟩
  | deconstruct =>
    rcases deconstructStep_eq hs with ⟨-, rfl⟩ | ⟨-, -, rfl⟩ <;> exact ⟨hoff, hpc⟩
  | notify l =>
    obtain ⟨wl, out, rfl⟩ := notifyStep_eq hs
    exact ⟨hoff, hpc⟩

/-- **One step keeps the invariant**, whatever thread makes it. The steps that open the window
are those that give a signal. -/
theorem step (h : c.SenderTicket) (hs : c.step l = some c') : c'.SenderTicket := by
  by_cases hc : c.core.connState = .connConnecting
  · obtain ⟨hoff, hpc⟩ := h.step_handshake hc hs
    refine ⟨fun _ => ⟨hoff, hpc⟩, ?_⟩
    intro call w hloop
    rw [hoff] at hloop
    cases hloop
  · refine ⟨fun hc' => absurd ((step_evolves hs).connecting hc').1 hc, ?_⟩
    intro call w hloop
    cases step_window hc hs with
    | count members _ _ _ =>
      -- whoever moves the window signals the sender
      rw [Core.countSegment_canSendEvent]
      exact (h.ticket call w hloop).advance
    | transmit len _ => exact absurd hloop (transmit_awake _ _ _ _)
    | sleep hslow hrem =>
      cases hloop
      have hdef : c.rembytes = (c.core.stx.inWin.toNat : ℤ) - c.core.stx.unacked := rfl
      refine EventCount.ticket_next ?_
      intro hopen
      change c.core.stx.unacked < c.core.stx.inWin.toNat at hopen
      omega
    | deconstruct => exact (h.ticket call w hloop).advance
    | aside ha =>
      have hold := h.ticket call w (ha.asleep call w hloop)
      rw [ha.canSendEvent]
      refine hold.imp ?_
      intro hopen
      simpa only [WindowOpen, TCPSenderState.unacked_eq, ha.seq, ha.seqAcked, ha.inWin] using hopen

end SenderTicket

end Tcp

/-! ### No sender sleeps while it could send -/

open Tcp

/-- **No lost wake-up**: a sender that sleeps in `send_data` until a signal that has not
been given has a closed window. -/
def Tcp.NoLostWakeup (c : Tcp) : Prop :=
  ∀ call w, c.loop = .sending call (.asleep w) → ¬c.core.canSendEvent.Reached w →
    c.core.stx.inWin.toNat ≤ (c.core.stx.seq - c.core.stx.seqAcked).toNat

/-- **No wake-up is lost**, in every state of every run of a connection. -/
theorem no_lost_wakeup {sPort dPort : BitVec 16} {seq : BitVec 32} {c : Tcp}
    (h : tcpMachine.Reachable (Tcp.new sPort dPort seq) c) : c.NoLostWakeup := by
  have hticket := h.invariant (I := SenderTicket) (.new ..) fun _ _ _ hi _ hs => hi.step hs
  intro call w hloop hasleep
  rw [← TCPSenderState.unacked_eq]
  by_contra hopen
  exact hasleep ((hticket.ticket call w hloop).reached (Nat.lt_of_not_le hopen))

/-- The answer of a device that has no room: it accepts the connection, and nothing may be sent
for now. -/
def Tcp.synAckNoRoom : Segment where
  hdr :=
    { thSport := 62078
      thDport := 1
      thSeq := 0
      thAck := 8
      thOff := sizeofTcphdr / 4
      thFlags := thSyn ||| thAck
      thWin := 0 }
  payload := []
  fits := Nat.zero_le _

/-- The handshake with it, up to the start of the client loop, which will find the window
closed. -/
def Tcp.handshakeNoRoom : List Label :=
  [.connect true, .connect true, .input (.call synAckNoRoom), .input (.lockStx 0 false)] ++
    List.replicate 6 (.connect true)

/-- A sender waits for a device that has no room. No wakeup has been lost, as there was none. -/
theorem no_lost_wakeup_no_room :
    ∃ c : Tcp, (c.loop.inSendData = true ∧ ¬c.CanTransmit) ∧ c.NoLostWakeup := by
  obtain ⟨c, hr, hp⟩ := tcpMachine.exists_reaches_of_runOk (fun _ _ => True)
    (Tcp.new 1 62078 7)
    (handshakeNoRoom ++ [.loop .loopEvent, .loop (.poll (.revents pollin)),
      .loop (.recv (.data [1])), .loop .sendData, .loop .sendData])
    (fun c => c.loop.inSendData = true ∧ ¬c.CanTransmit) (by decide)
  exact ⟨c, of_decide_eq_true hp, no_lost_wakeup hr⟩

end Usbmuxd
