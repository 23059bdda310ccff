import Usbmuxd.Tcp.Steps

/-!
# Where the client's bytes are received

`TCP::loopEvent` receives into a buffer of `TCP::bufsize` bytes that it uses as a
ring: the offset is the position of the sender in the stream, and the room is
measured once, from the two positions of the sender, before `poll`. This file asks
whether every `recv` is given a region inside the buffer.

* **The first `recv` of a call always is**: the room ends at the end of the buffer,
  or at the oldest byte that has not been acknowledged.
* **The later ones need not be.** When `poll` has reported that the client is gone,
  the call goes on receiving until nothing is left, the offset moves by what has been
  sent, and the room stays what it was. The region is inside the buffer exactly as
  long as what the call has received fits between the end of the room and the end of
  the buffer (`Usbmuxd.recv_inside_iff`), which is nothing at all when the room ends
  there (`Usbmuxd.recv_past_the_end`).

The machine is the one of the connection, with every other thread in it; each call of
`loopEvent` is accompanied by the state in which it read the two positions and by
the number of bytes it has received (`Usbmuxd.Ring`).
-/

namespace Usbmuxd

open Interleaving

namespace Tcp

/-! ### The positions in the ring buffer -/

theorem tcpBufsize_pos : 0 < tcpBufsize := by decide

theorem lseq_lt (c : Tcp) : c.lseq < tcpBufsize := Nat.mod_lt _ tcpBufsize_pos

theorem lseqAck_lt (c : Tcp) : c.lseqAck < tcpBufsize := Nat.mod_lt _ tcpBufsize_pos

/-- The `recv` that comes next is given a region inside `_payloadBuf`, so that nothing can be
written behind the buffer by it. -/
def RecvInside (c : Tcp) : Prop :=
  match c.loop with
  | .receiving bufstart maxRcv _ => bufstart + maxRcv ≤ tcpBufsize
  | _ => True

instance (c : Tcp) : Decidable c.RecvInside :=
  match h : c.loop with
  | .receiving bufstart maxRcv _ =>
      decidable_of_iff (bufstart + maxRcv ≤ tcpBufsize) (by rw [RecvInside, h])
  | .off | .start | .polling _ _ | .sending _ _ | .finished | .threw =>
      isTrue (by rw [RecvInside, h]; trivial)

/-- How much a call of `loopEvent` can receive before its room is no longer inside the
buffer, when it reads the positions in `c`: the part of the buffer behind the room. -/
def slack (c : Tcp) : ℕ := if c.lseqAck ≤ c.lseq then 0 else tcpBufsize - c.lseqAck

/-- The room, moved on by `got` bytes, is inside the buffer as long as these fit into
what is behind it. -/
theorem inside_iff (c : Tcp) (got : ℕ) :
    c.lseq + got + c.maxRCV ≤ tcpBufsize ↔ got ≤ c.slack := by
  have hseq := c.lseq_lt
  have hack := c.lseqAck_lt
  unfold maxRCV slack
  split_ifs <;> omega

end Tcp

open Tcp

/-! ### A call of `loopEvent` and what it has received -/

/-- A connection, with an account of the last call of `loopEvent`: what the connection was like
when it began, and how much has been received since. -/
structure Ring where
  /-- The connection. -/
  conn : Tcp
  /-- The connection as it was when the call read the two positions. -/
  begun : Tcp
  /-- The number of bytes the call has received. -/
  got : ℕ

namespace Ring

/-- A connection none of whose calls of `loopEvent` has begun, and so nothing has been
received. -/
def new (c : Tcp) : Ring := ⟨c, c, 0⟩

/-- What a step adds to the account. It begins anew with each call of `loopEvent`. -/
def account (r : Ring) (conn : Tcp) : Label → Ring
  | .loop .loopEvent => ⟨conn, r.conn, 0⟩
  | .loop (.recv (.data bytes)) => ⟨conn, r.begun, r.got + bytes.length⟩
  | _ => ⟨conn, r.begun, r.got⟩

@[simp] theorem account_conn (r : Ring) (conn : Tcp) (l : Label) :
    (r.account conn l).conn = conn := by
  unfold account
  split <;> rfl

/-- One step on the connection, entered into the account. The account has no influence on what
the connection does. -/
def step (r : Ring) (l : Label) : Option Ring := (r.conn.step l).map fun conn => r.account conn l

theorem step_spec {r r' : Ring} {l : Label} (h : r.step l = some r') :
    ∃ conn, r.conn.step l = some conn ∧ r' = r.account conn l := by
  obtain ⟨conn, hs, rfl⟩ := Option.map_eq_some_iff.mp h
  exact ⟨conn, hs, rfl⟩

/-- What the call has received fits behind its room, or there is no call that receives. -/
def GotFits (r : Ring) : Prop :=
  match r.conn.loop with
  | .receiving _ _ _ => r.got ≤ r.begun.slack
  | _ => True

/-- **Where a call receives and sends**, by where the client loop is: `b` and `m` are the
position and the room it began with, and `got` is what it has received. -/
def Placed (b m got : ℕ) : LoopPc → Prop
  | .polling bufstart maxRcv => bufstart = b ∧ maxRcv = m ∧ got = 0
  | .receiving bufstart maxRcv remoteDidClose =>
      bufstart = b + got ∧ maxRcv = m ∧ (remoteDidClose = false → got = 0)
  | .sending call _ => call.bufstart + call.cnt = b + got ∧ call.maxRcv = m
  | _ => True

/-- The invariant: the call is where its account says, as long as the connection is in it. -/
def OnTrack (r : Ring) : Prop := Placed r.begun.lseq r.begun.maxRCV r.got r.conn.loop

variable {r r' : Ring}

/-- Sending moves the position by what there is less to send, so that the end of what has been
received stays where it is. -/
theorem placed_sent {b m got n : ℕ} {call : SendCall} {pc : SendPc}
    (h : Placed b m got (.sending call pc)) (hn : n ≤ call.cnt) :
    Placed b m got (call.sent n) := by
  obtain ⟨hpos, hmax⟩ := h
  unfold SendCall.sent
  split_ifs with hrest hclose
  · refine ⟨?_, hmax⟩
    dsimp only
    omega
  · refine ⟨?_, hmax, nofun⟩
    omega
  · trivial

/-- `send_data` sends no more than it is given, and so the position does not move past what has
been received. -/
theorem placed_transmit {b m got n : ℕ} {c : Tcp} {call : SendCall} {pc : SendPc}
    (h : Placed b m got (.sending call pc)) (hn : n ≤ call.buflen) :
    Placed b m got (c.transmit call n).loop := by
  have hcnt : n ≤ call.cnt := hn.trans (min_le_left _ _)
  exact placed_sent h ((min_le_left _ _).trans hcnt)

/-- A step of the client loop. All other threads leave the call alone. -/
theorem OnTrack.loop_step (h : r.OnTrack) {l : LoopLabel} {conn : Tcp}
    (hs : r.conn.loopStep l = some conn) : (r.account conn (.loop l)).OnTrack := by
  unfold OnTrack at h
  cases loopStep_move hs with
  | start hloop => exact ⟨rfl, rfl, rfl⟩
  | pollIn hup hloop =>
    rw [hloop] at h
    obtain ⟨hb, hm, hgot⟩ := h
    exact ⟨by dsimp only [account]; omega, hm, fun _ => hgot⟩
  | recvData hloop hne =>
    rw [hloop] at h
    obtain ⟨hb, hm, -⟩ := h
    refine ⟨?_, hm⟩
    dsimp only [account]
    omega
  | sendLater hloop | sendSleep hloop | wake hloop =>
    rw [hloop] at h
    exact h
  | sendFast hloop hfit =>
    rw [hloop] at h
    exact placed_transmit h le_rfl
  | @sendSlow call hloop hrem =>
    rw [hloop] at h
    refine placed_transmit h ?_
    split <;> omega
  | pollFailed | pollOther | pollNothing | recvFailed | recvEnd | recvNothing | wakeGone =>
    trivial

/-- The steps of the other threads, which leave the client loop alone or start it. -/
theorem OnTrack.of_loop (h : r.OnTrack) {conn : Tcp} {l : Label}
    (hacc : r.account conn l = ⟨conn, r.begun, r.got⟩)
    (hloop : conn.loop = r.conn.loop ∨ conn.loop = .start) : (r.account conn l).OnTrack := by
  rw [hacc, OnTrack]
  rcases hloop with he | he
  · exact he ▸ h
  · rw [he]
    trivial

/-- **One step keeps the invariant.** -/
theorem OnTrack.step (h : r.OnTrack) {l : Label} (hs : r.step l = some r') : r'.OnTrack := by
  obtain ⟨conn, hconn, rfl⟩ := step_spec hs
  cases l with
  | input l => exact h.of_loop rfl (Or.inl (inputStep_keeps hconn).loop)
  | loop l => exact h.loop_step hconn
  | connect ok => exact h.of_loop rfl ((connectStep_loop hconn).imp_right And.right)
  | deconstruct =>
    refine h.of_loop rfl (Or.inl ?_)
    rcases deconstructStep_eq hconn with ⟨-, rfl⟩ | ⟨-, -, rfl⟩ <;> rfl
  | notify l =>
    obtain ⟨wl, out, rfl⟩ := notifyStep_eq hconn
    exact h.of_loop rfl (Or.inl rfl)

/-- The region of the next `recv` is inside the buffer as long as what has been received
fits behind the room. -/
theorem OnTrack.inside_iff (h : r.OnTrack) : r.conn.RecvInside ↔ r.GotFits := by
  unfold OnTrack at h
  unfold RecvInside GotFits
  split
  · next b m hup hloop =>
    rw [hloop] at h
    obtain ⟨hb, hm, -⟩ := h
    rw [hb, hm]
    exact r.begun.inside_iff r.got
  · exact Iff.rfl

end Ring

/-- A connection with the account of its calls of `loopEvent`, as a machine. -/
def ringMachine : Machine Ring Label := ⟨Ring.step⟩

/-- The client loop is not inside a call of `loopEvent`. This is where a run may begin. -/
def Tcp.OutsideLoopEvent (c : Tcp) : Prop := c.loop = .off ∨ c.loop = .start

theorem Ring.onTrack_of_reachable {c₀ : Tcp} {r : Ring} (h₀ : c₀.OutsideLoopEvent)
    (h : ringMachine.Reachable (.new c₀) r) : r.OnTrack := by
  refine h.invariant ?_ fun _ _ _ hi _ hs => hi.step hs
  unfold OnTrack
  rcases h₀ with he | he <;> (rw [show (new c₀).conn.loop = _ from he]; trivial)

/-- **As long as the client is there**, each call receives once, from inside the buffer. -/
theorem recv_inside_of_open {c₀ : Tcp} {r : Ring} (h₀ : c₀.OutsideLoopEvent)
    (h : ringMachine.Reachable (.new c₀) r) {bufstart maxRcv : ℕ}
    (hloop : r.conn.loop = .receiving bufstart maxRcv false) :
    r.got = 0 ∧ bufstart + maxRcv ≤ tcpBufsize := by
  have hplaced := Ring.onTrack_of_reachable h₀ h
  rw [Ring.OnTrack, hloop] at hplaced
  obtain ⟨hb, hm, hgot⟩ := hplaced
  have hfits : r.got ≤ r.begun.slack := by rw [hgot rfl]; exact Nat.zero_le _
  exact ⟨hgot rfl, by rw [hb, hm]; exact (r.begun.inside_iff r.got).mpr hfits⟩

/-- **A `recv` is given a region inside the ring buffer exactly as long as** what this
call of `loopEvent` has received before fits between the end of the room and the end
of the buffer, whatever the positions, the results of `poll`, `recv` and `send_data`,
and the other threads. -/
theorem recv_inside_iff {c₀ : Tcp} {r : Ring} (h₀ : c₀.OutsideLoopEvent)
    (h : ringMachine.Reachable (.new c₀) r) : r.conn.RecvInside ↔ r.GotFits :=
  (Ring.onTrack_of_reachable h₀ h).inside_iff

/-- A client that leaves one byte behind: the second `recv` of the call is given a region
that ends one byte past the buffer. -/
theorem recv_past_the_end :
    ∃ r, ringMachine.Reachable (.new (established 0 0)) r ∧ ¬r.conn.RecvInside := by
  obtain ⟨r, hr, hp⟩ := ringMachine.exists_reaches_of_runOk (fun _ _ => True)
    (.new (established 0 0))
    ([.loopEvent, .poll (.revents (pollin ||| pollhup)), .recv (.data [7]), .sendData].map
      Label.loop)
    (fun r => ¬r.conn.RecvInside) (by decide)
  exact ⟨r, hr, of_decide_eq_true hp⟩

/-- A client whose stream has wrapped around the end of the buffer, with two bytes
unacknowledged before it: the second `recv` is given a region that ends inside. -/
theorem recv_inside_iff_wrapped :
    ∃ r, ringMachine.Reachable (.new (established 0xfffffffe 0)) r ∧
      r.conn.loop = .receiving 1 0x7fffe true ∧ (r.conn.RecvInside ↔ r.GotFits) := by
  obtain ⟨r, hr, hp⟩ := ringMachine.exists_reaches_of_runOk (fun _ _ => True)
    (.new (established 0xfffffffe 0))
    ([.loopEvent, .poll (.revents pollin), .recv (.data ([7, 7])), .sendData,
      .loopEvent, .poll (.revents (pollin ||| pollhup)), .recv (.data [8]), .sendData].map
      Label.loop)
    (fun r => r.conn.loop = .receiving 1 0x7fffe true) (by decide +kernel)
  exact ⟨r, hr, of_decide_eq_true hp, recv_inside_iff (Or.inr rfl) hr⟩

end Usbmuxd
