import Usbmuxd.Tcp.AckGate
import Usbmuxd.Tcp.Window

/-!
# What has been received is acknowledged

`_stx.ack` is how far the device's stream has been counted, `_stx.acked` how far it has
been acknowledged. When a receiver counts a payload it acknowledges it at once, unless
somebody is a member of `_canSendEvent`: a sender that waits there is about to send a
segment, and every segment carries the acknowledgement.

Two things are wrong with that. The sender that is woken may find the window closed and
go back to sleep. And a member of `_canSendEvent` may as well be a receiver whose segment
is not next: if that segment has no payload, nothing is acknowledged when it is counted.

While payload is unacknowledged, somebody has to be about to do it
(`Usbmuxd.Tcp.Carried`): a sender that can transmit, or a receiver that has not counted its
segment. `Usbmuxd.Tcp.AckCarried` says of the steps that could leave it to nobody that
they do not, and then what has been received is acknowledged whenever nobody is at work
(`Usbmuxd.received_data_acknowledged`).
-/

namespace Usbmuxd

open Interleaving

namespace Tcp

/-! ### Connections that only get acknowledgements -/

/-- Segments are plain acknowledgements, and the connection is not torn down. A device sends
nothing else after the handshake unless it closes the connection. -/
def OnlyAcks : Label → Prop
  | .input (.call s) => s.hdr.thFlags = Usbmuxd.thAck
  | .deconstruct => False
  | _ => True

instance (l : Label) : Decidable (OnlyAcks l) :=
  match l with
  | .input (.call _) => inferInstanceAs (Decidable (_ = _))
  | .deconstruct => isFalse id
  | .input (.lockStx _ _) | .input (.ackWake _) | .input (.lockClientSend _)
  | .input (.fwdWake _) | .input (.fwdTest _) | .input (.send _ _) | .loop _ | .connect _
  | .notify _ => isTrue trivial

/-- **A connection in `CONN_CONNECTED` that has only got plain acknowledgements.** No reset can
end it, and no call is about anything else. -/
structure PlainAcks (c : Tcp) : Prop where
  connState : c.core.connState = .connConnected
  flags : ∀ s ∈ c.segs, s.hdr.thFlags = Usbmuxd.thAck
  absent : ∀ j, c.segs.length ≤ j → c.handler j = .absent

/-- The step counts the segment of call `j`: it finds the gate open, and moves the position past
the segment. -/
def Passes (c : Tcp) (l : Label) (j : ℕ) : Prop :=
  ∃ members s, l = .input (.lockStx j members) ∧ c.segs[j]? = some s ∧
    (c.handler j).InFirstHalf ∧ c.core.stx.ack = s.hdr.thSeq

/-- What a step that does not count the segment of a call does to that call. -/
structure Lingers (pc pc' : HandlerPc) : Prop where
  counted : pc'.Counted ↔ pc.Counted
  inFirstHalf : pc.InFirstHalf → pc'.InFirstHalf

variable {c c' : Tcp} {i j : ℕ} {s : Segment} {l : Label} {pc pc' : HandlerPc}

theorem Lingers.rfl : Lingers pc pc := ⟨Iff.rfl, id⟩

/-- Both in the first half, and so neither has counted its segment. -/
theorem lingers_first (h : ¬pc.Counted) (h' : pc'.InFirstHalf) (hnot : ¬pc'.Counted) :
    Lingers pc pc' :=
  ⟨iff_of_false hnot h, fun _ => h'⟩

theorem HandlerPc.Counted.not_inFirstHalf (h : pc.Counted) : ¬pc.InFirstHalf := by
  cases pc with
  | absent | entered | ackAsleep w | ackAwake | threw => exact h.elim
  | _ => exact id

/-- Both past it, and so both have. -/
theorem lingers_second (h : pc.Counted) (h' : pc'.Counted) : Lingers pc pc' :=
  ⟨iff_of_true h' h, fun hfirst => absurd hfirst h.not_inFirstHalf⟩

theorem counted_secondHalf (s : Segment) : (secondHalf s).Counted := by
  rcases secondHalf_eq s with ⟨-, h⟩ | ⟨-, h⟩ <;> rw [h] <;> trivial

namespace PlainAcks

theorem flags_of_getElem? (h : c.PlainAcks) (hs : c.segs[i]? = some s) :
    s.hdr.thFlags = Usbmuxd.thAck := h.flags s (List.mem_of_getElem? hs)

/-- A call at the gate. Whether it passes depends on the position alone, and no other call moves
meanwhile. -/
theorem handler_ackGate {members : Bool} (hs : c.segs[i]? = some s)
    (hpc : c.handler i = .entered ∨ c.handler i = .ackAwake) (j : ℕ) :
    c.Passes (.input (.lockStx i members)) j ∧ ((c.ackGate i s members).handler j).Counted ∨
      ¬c.Passes (.input (.lockStx i members)) j ∧
        Lingers (c.handler j) ((c.ackGate i s members).handler j) := by
  have hfirst : (c.handler i).InFirstHalf ∧ ¬(c.handler i).Counted := by
    rcases hpc with hpc | hpc <;> rw [hpc] <;> exact ⟨trivial, id⟩
  rcases eq_or_ne j i with rfl | hne
  · rcases ackGate_cases c j s members with ⟨hack, heq⟩ | ⟨hack, heq⟩
    · right
      -- it goes to sleep, and has not been counted
      rw [heq, moveHandler_handler, if_pos rfl]
      refine ⟨?_, lingers_first hfirst.2 trivial id⟩
      rintro ⟨members', s', -, hs', -, hack'⟩
      obtain rfl : s = s' := Option.some.inj (hs.symm.trans hs')
      exact hack hack'
    · left
      -- it is its turn
      refine ⟨⟨members, s, rfl, hs, hfirst.1, hack⟩, ?_⟩
      have hself : (c.ackGate j s members).handler j = secondHalf s := by
        rw [heq]
        exact Function.update_self ..
      exact hself ▸ counted_secondHalf s
  · right
    -- another call does not notice
    have hsame : (c.ackGate i s members).handler j = c.handler j := by
      rcases ackGate_cases c i s members with ⟨-, heq⟩ | ⟨-, heq⟩ <;> rw [heq] <;>
        exact Function.update_of_ne hne ..
    rw [hsame]
    refine ⟨?_, .rfl⟩
    rintro ⟨members', s', heq, -⟩
    cases heq
    exact hne rfl

/-- **A call stays in its half of `handle_input`**, except when its segment is counted. -/
theorem handler_step (h : c.PlainAcks) (hs : c.step l = some c') (j : ℕ) :
    c.Passes l j ∧ (c'.handler j).Counted ∨
      ¬c.Passes l j ∧ Lingers (c.handler j) (c'.handler j) := by
  -- a call that moves within its half
  have hmove : ∀ {l i p}, (∀ j members, l ≠ .input (.lockStx j members)) →
      c'.handler = (c.moveHandler i p).handler → Lingers (c.handler i) p →
        ¬c.Passes l j ∧ Lingers (c.handler j) (c'.handler j) := by
    intro l i p hl hhandler hlingers
    refine ⟨fun ⟨members, _, heq, _⟩ => hl j members heq, ?_⟩
    rw [hhandler, moveHandler_handler]
    split
    · next hji => exact hji ▸ hlingers
    · exact .rfl
  have hstay : ∀ {l}, (∀ j members, l ≠ .input (.lockStx j members)) →
      c'.handler = c.handler → ¬c.Passes l j ∧ Lingers (c.handler j) (c'.handler j) := by
    intro l hl hhandler
    refine ⟨fun ⟨members, _, heq, _⟩ => hl j members heq, ?_⟩
    rw [hhandler]
    exact .rfl
  cases l with
  | loop l =>
    obtain ⟨core, loop, buf, rcv, rfl, -⟩ := loopStep_eq hs
    exact Or.inr (hstay nofun rfl)
  | connect ok =>
    obtain ⟨core, pc, loop, fd, cfd, wl, out, rfl, -⟩ := connectStep_eq hs
    exact Or.inr (hstay nofun rfl)
  | notify l =>
    obtain ⟨wl, out, rfl⟩ := notifyStep_eq hs
    exact Or.inr (hstay nofun rfl)
  | deconstruct =>
    rcases deconstructStep_eq hs with ⟨-, rfl⟩ | ⟨-, -, rfl⟩ <;> exact Or.inr (hstay nofun rfl)
  | input l =>
    cases l with
    | call s =>
      obtain rfl := inputStep_call hs
      refine Or.inr (hmove (i := c.segs.length) (p := .entered) nofun rfl ?_)
      rw [h.absent _ le_rfl]
      exact ⟨Iff.rfl, False.elim⟩
    | lockStx i members =>
      obtain ⟨s, hi, ⟨hpc, rfl⟩ | ⟨hpc, rfl⟩⟩ := inputStep_lockStx hs
      · rw [firstHalf_of_connected h.connState (h.flags_of_getElem? hi)]
        exact handler_ackGate hi (Or.inl hpc) j
      · exact handler_ackGate hi (Or.inr hpc) j
    | ackWake i =>
      obtain ⟨w, hpc, -, ⟨hc, rfl⟩ | ⟨-, rfl⟩⟩ := inputStep_ackWake hs
      · exact absurd h.connState hc
      · exact Or.inr (hmove nofun rfl (hpc ▸ lingers_first id trivial id))
    | lockClientSend i =>
      obtain ⟨s, hi, hpc, -, rfl⟩ := inputStep_lockClientSend hs
      have hcounted : (c.handler i).Counted := by
        rcases hpc with hpc | hpc <;> rw [hpc] <;> trivial
      rcases forwardGate_cases c i s with ⟨-, heq⟩ | ⟨-, heq⟩
      · refine Or.inr (hmove (p := .fwdAsleep c.canClientSendEvent.next) nofun ?_
          (lingers_second hcounted trivial))
        rw [heq]
      · refine Or.inr (hmove (p := .fwdTurn) nofun ?_ (lingers_second hcounted trivial))
        rw [heq]
    | fwdWake i =>
      obtain ⟨w, hpc, -, ⟨hc, rfl⟩ | ⟨-, rfl⟩⟩ := inputStep_fwdWake hs
      · exact absurd h.connState hc
      · exact Or.inr (hmove nofun rfl (lingers_second (hpc ▸ trivial) trivial))
    | fwdTest i =>
      obtain ⟨hpc, ⟨hc, rfl⟩ | ⟨-, rfl⟩⟩ := inputStep_fwdTest hs
      · exact absurd h.connState hc
      · exact Or.inr (hmove nofun rfl (lingers_second (hpc ▸ trivial) trivial))
    | send i r =>
      obtain ⟨s, hi, hpc, rfl⟩ := inputStep_send hs
      exact Or.inr (hmove nofun rfl (lingers_second (hpc ▸ trivial) trivial))

theorem step (h : c.PlainAcks) (hok : OnlyAcks l) (hs : c.step l = some c') : c'.PlainAcks where
  connState := by
    cases step_window (by simp [h.connState]) hs with
    | count members _ _ _ => exact (Core.countSegment_connState ..).trans h.connState
    | transmit | sleep => exact h.connState
    | deconstruct => exact hok.elim
    | aside ha => exact ha.connState.trans h.connState
  flags := by
    rcases step_moves h.absent hs with ⟨s, rfl, rfl⟩ | ⟨i, pc, hm⟩ | ⟨hsegs, -⟩
    · intro t ht
      rcases List.mem_append.mp ht with ht | ht
      · exact h.flags t ht
      · -- the new segment
        rw [List.mem_singleton.mp ht]
        exact hok
    · rw [hm.segs]
      exact h.flags
    · rw [hsegs]
      exact h.flags
  absent := by
    rcases step_moves h.absent hs with ⟨s, rfl, rfl⟩ | ⟨i, pc, hm⟩ | ⟨hsegs, hhandler⟩
    · intro j hj
      rw [enter_segs, List.length_append, List.length_singleton] at hj
      rw [enter_handler, if_neg (by omega)]
      exact h.absent j (by omega)
    · intro j hj
      rw [hm.segs] at hj
      have hlt := hm.lt_length
      rw [hm.handler_of_ne (by omega)]
      exact h.absent j hj
    · rw [hsegs, hhandler]
      exact h.absent

/-- **A step that counts a segment** is one in the first half of `handle_input`, and what it
makes of the connection can be computed. -/
theorem eq_of_passes (h : c.PlainAcks) (hpass : c.Passes l i) (hs : c.step l = some c') :
    ∃ members s, l = .input (.lockStx i members) ∧ c.segs[i]? = some s ∧
      c.core.stx.ack = s.hdr.thSeq ∧
      c' = { c.moveHandler i (secondHalf s) with core := c.core.countSegment s members } := by
  obtain ⟨members, s, rfl, hi, -, hack⟩ := hpass
  refine ⟨members, s, rfl, hi, hack, ?_⟩
  have hgate : c.ackGate i s members =
      { c.moveHandler i (secondHalf s) with core := c.core.countSegment s members } := by
    rcases ackGate_cases c i s members with ⟨hne, -⟩ | ⟨-, heq⟩
    · exact absurd hack hne
    · exact heq
  obtain ⟨t, ht, hc'⟩ := inputStep_lockStx hs
  obtain rfl : s = t := Option.some.inj (hi.symm.trans ht)
  rcases hc' with ⟨-, rfl⟩ | ⟨-, rfl⟩
  · rw [firstHalf_of_connected h.connState (h.flags_of_getElem? hi), hgate]
  · exact hgate

end PlainAcks

/-! ### Who acknowledges -/

/-- A call of `handle_input` other than `i` has not counted its segment. It has still to look
whether an acknowledgement is due. -/
def OtherUncounted (c : Tcp) (i : ℕ) : Prop :=
  ∃ j < c.segs.length, j ≠ i ∧ (c.handler j).InFirstHalf

/-- Some call has not counted its segment, and so is going to look whether somebody has to
acknowledge. -/
def Uncounted (c : Tcp) : Prop := ∃ j < c.segs.length, (c.handler j).InFirstHalf

instance (c : Tcp) (i : ℕ) : Decidable (c.OtherUncounted i) :=
  inferInstanceAs (Decidable (∃ j < _, _))

instance (c : Tcp) : Decidable c.Uncounted := inferInstanceAs (Decidable (∃ j < _, _))

/-- **Somebody is about to acknowledge**, or at least to count a segment. As long as this is so,
nothing has been forgotten. -/
def Carried (c : Tcp) : Prop := c.CanTransmit ∨ c.Uncounted

/-- **Unacknowledged payload is left to somebody**: a receiver that counts its segment and
does not acknowledge, although there is something to acknowledge, leaves it to a sender
in `send_data` or to a receiver that has not counted its segment, and so does a sender
that finds the window closed. -/
def AckCarried (c : Tcp) : Label → Prop
  | .input (.lockStx i members) => ∀ s ∈ c.segs[i]?, c.core.stx.ack = s.hdr.thSeq →
      s.payload = [] ∨ members = true → c.core.stx.acked ≠ c.core.stx.ack + s.payloadLen →
        c.loop.inSendData = true ∨ c.OtherUncounted i
  | .loop .sendData =>
      match c.loop with
      | .sending _ .slow => c.core.stx.acked ≠ c.core.stx.ack → 0 < c.rembytes ∨ c.Uncounted
      | _ => True
  | _ => True

instance (c : Tcp) (l : Label) : Decidable (AckCarried c l) :=
  match l with
  | .input (.lockStx i _) => inferInstanceAs (Decidable (∀ s ∈ c.segs[i]?, _))
  | .loop .sendData => by
      dsimp only [AckCarried]
      generalize c.loop = pc
      exact match pc with
        | .sending _ .slow =>
            inferInstanceAs (Decidable
              (c.core.stx.acked ≠ c.core.stx.ack → 0 < c.rembytes ∨ c.Uncounted))
        | .sending _ .fast | .sending _ (.asleep _) | .off | .start | .polling _ _
        | .receiving _ _ _ | .finished | .threw => isTrue trivial
  | .input (.call _) | .input (.ackWake _) | .input (.lockClientSend _) | .input (.fwdWake _)
  | .input (.fwdTest _) | .input (.send _ _) | .loop .loopEvent | .loop (.poll _)
  | .loop (.recv _) | .loop .sendWake | .connect _ | .deconstruct | .notify _ => isTrue trivial

/-- **What has not been acknowledged is carried**: if the device has not been told of the
position, somebody is about to tell it. -/
structure AcksCarried (a₀ : BitVec 32) (c : Tcp) : Prop where
  plainAcks : c.PlainAcks
  announced : c.core.Announced a₀
  /-- A sender has a ticket. -/
  ticket : ∀ call w, c.loop = .sending call (.asleep w) → w ≤ c.core.canSendEvent.next
  /-- `connect` starts the client loop once. -/
  started : c.connectPc = .returned ∨ c.connectPc = .threw ∨ c.loop = .off
  carried : c.core.stx.acked ≠ c.core.stx.ack → c.Carried

/-- A connection in `CONN_CONNECTED` on which nothing is left to acknowledge, before the
first segment, and before the first call of `send_data`. -/
structure Caught (c : Tcp) : Prop where
  connState : c.core.connState = .connConnected
  segs : c.segs = []
  handler : ∀ i, c.handler i = .absent
  acked : c.core.stx.acked = c.core.stx.ack
  loop : c.connectPc = .returned ∧ c.loop = .start ∨ c.loop = .off

theorem countSegment_acked (o : Core) (s : Segment) (members : Bool) :
    (o.countSegment s members).stx.acked = (o.countSegment s members).stx.ack ∨
      (s.payload = [] ∨ members = true) ∧ (o.countSegment s members).stx.acked = o.stx.acked := by
  unfold Core.countSegment Core.sendAckNolock
  dsimp only
  split_ifs with hpay hack
  · exact Or.inl rfl
  · exact Or.inl (not_not.mp hack)
  · refine Or.inr ⟨?_, rfl⟩
    rw [← s.payloadLen_eq_zero_iff, ← Bool.not_eq_false]
    exact Decidable.or_iff_not_not_and_not.mpr fun hn => hpay ⟨hn.1, not_not.mp hn.2⟩

namespace AcksCarried

variable {a₀ : BitVec 32}

theorem of_caught (h : c.Caught) : c.AcksCarried c.core.stx.acked where
  plainAcks := ⟨h.connState, by simp [h.segs], fun j _ => h.handler j⟩
  announced := Or.inl rfl
  ticket := by
    intro call w hloop
    rcases h.loop with ⟨-, hstart⟩ | hoff
    · rw [hstart] at hloop
      cases hloop
    · rw [hoff] at hloop
      cases hloop
  started := h.loop.imp And.left Or.inr
  carried := fun hne => absurd h.acked hne

theorem started_step (h : c.AcksCarried a₀) (hs : c.step l = some c') :
    c'.connectPc = .returned ∨ c'.connectPc = .threw ∨ c'.loop = .off := by
  have hkeep : c'.loop = c.loop → c'.connectPc = c.connectPc →
      c'.connectPc = .returned ∨ c'.connectPc = .threw ∨ c'.loop = .off := fun hloop hpc => by
    rw [hloop, hpc]
    exact h.started
  cases l with
  | input l =>
    have hk := inputStep_keeps hs
    exact hkeep hk.loop hk.connectPc
  | loop l =>
    rcases h.started with hpc | hpc | hoff
    · obtain ⟨core, loop, buf, rcv, rfl, -⟩ := loopStep_eq hs
      exact Or.inl hpc
    · obtain ⟨core, loop, buf, rcv, rfl, -⟩ := loopStep_eq hs
      exact Or.inr (Or.inl hpc)
    · -- a loop that has not been started makes no step
      simp only [Tcp.step, loopStep, hoff] at hs
      cases l <;> cases hs
  | connect ok =>
    cases connectStep_move hs with
    | startLoop => exact Or.inl rfl
    | _ heq =>
      rcases h.started with hpc | hpc | hoff
      · exact absurd (heq.symm.trans hpc) (by simp)
      · exact absurd (heq.symm.trans hpc) (by simp)
      · exact Or.inr (Or.inr hoff)
  | deconstruct =>
    rcases deconstructStep_eq hs with ⟨-, rfl⟩ | ⟨-, -, rfl⟩ <;> exact h.started
  | notify l =>
    obtain ⟨wl, out, rfl⟩ := notifyStep_eq hs
    exact h.started

/-- Calls that have not counted their segment are still there, if theirs is not the one
that is counted. -/
theorem uncounted_step (h : c.AcksCarried a₀) (hs : c.step l = some c') (hj : j < c.segs.length)
    (hfirst : (c.handler j).InFirstHalf) (hnot : ¬c.Passes l j) : c'.Uncounted := by
  have hlt : c.segs.length ≤ c'.segs.length := by
    rcases step_moves h.plainAcks.absent hs with ⟨s, rfl, rfl⟩ | ⟨i, pc, hm⟩ | ⟨hsegs, -⟩
    · simp
    · rw [hm.segs]
    · rw [hsegs]
  rcases h.plainAcks.handler_step hs j with ⟨hpass, -⟩ | ⟨-, hlingers⟩
  · exact absurd hpass hnot
  · exact ⟨j, by omega, hlingers.inFirstHalf hfirst⟩

/-- **One step keeps the invariant.** -/
theorem step (h : c.AcksCarried a₀) (hok : OnlyAcks l) (hcar : c.AckCarried l)
    (hs : c.step l = some c') : c'.AcksCarried a₀ := by
  refine ⟨h.plainAcks.step hok hs, ?_, ?_, h.started_step hs, ?_⟩
  · cases step_window (by simp [h.plainAcks.connState]) hs with
    | count members _ _ _ => exact h.announced.countSegment _ members
    | transmit len _ => exact Core.announced_of_sent _ _ rfl rfl
    | sleep _ _ => exact h.announced
    | deconstruct => exact hok.elim
    | aside ha => exact ha.announced a₀ h.announced
  · intro call w hloop
    cases step_window (by simp [h.plainAcks.connState]) hs with
    | count members _ _ _ =>
      rw [Core.countSegment_canSendEvent]
      exact EventCount.le_next_advance (h.ticket call w hloop)
    | transmit len _ => exact absurd hloop (transmit_awake _ _ _ _)
    | sleep _ _ =>
      cases hloop
      exact le_rfl
    | deconstruct => exact hok.elim
    | aside ha =>
      rw [ha.canSendEvent]
      exact h.ticket call w (ha.asleep call w hloop)
  · intro hne
    by_cases hpass : ∃ i, c.Passes l i
    · obtain ⟨i, hpass⟩ := hpass
      obtain ⟨members, s, rfl, hi, hack, rfl⟩ := h.plainAcks.eq_of_passes hpass hs
      rcases countSegment_acked c.core s members with heq | ⟨hwhy, heq⟩
      · exact absurd heq hne
      · rw [heq, Core.countSegment_ack] at hne
        rcases hcar s hi hack hwhy hne with hsend | ⟨j, hj, hji, hfirst⟩
        · left
          -- counting a segment signals the sender
          refine canTransmit_of_signalled hsend ?_
          intro call w hloop
          rw [Core.countSegment_canSendEvent]
          exact EventCount.reached_advance_of_le_next (h.ticket call w hloop)
        · refine Or.inr (h.uncounted_step hs hj hfirst ?_)
          rintro ⟨members', t, heq', -⟩
          cases heq'
          exact hji rfl
    · rw [not_exists] at hpass
      cases step_window (by simp [h.plainAcks.connState]) hs with
      | count members hi hpc hack => exact absurd ⟨members, _, rfl, hi, hpc, hack⟩ (hpass _)
      | transmit len _ => exact absurd rfl hne
      | sleep hloop hrem =>
        simp only [AckCarried, hloop] at hcar
        rcases hcar hne with hpos | ⟨j, hj, hfirst⟩
        · omega
        · exact Or.inr (h.uncounted_step hs hj hfirst (hpass j))
      | deconstruct => exact hok.elim
      | aside ha =>
        rcases ha.acked with hacked | hacked
        · rw [hacked, ha.ack] at hne
          rcases h.carried hne with hcan | ⟨j, hj, hfirst⟩
          · rcases ha.canTransmit hcan with hcan' | hconn | hpc
            · exact Or.inl hcan'
            · exact absurd h.plainAcks.connState hconn
            · -- the client loop has not been started, so there is no sender
              rcases h.started with hpc' | hpc' | hoff
              · rw [hpc] at hpc'
                cases hpc'
              · rw [hpc] at hpc'
                cases hpc'
              · exact absurd hcan (not_canTransmit (by rw [hoff]; rfl))
          · exact Or.inr (h.uncounted_step hs hj hfirst (hpass j))
        · rw [hacked, ha.ack] at hne
          exact absurd rfl hne

end AcksCarried

/-- The call is being executed: it has been made, and it has neither returned nor thrown. -/
def HandlerPc.Executing : HandlerPc → Prop
  | .absent | .returned | .threw => False
  | _ => True

instance (pc : HandlerPc) : Decidable pc.Executing :=
  match pc with
  | .absent | .returned | .threw => isFalse id
  | .entered | .ackAsleep _ | .ackAwake | .forward | .fwdAsleep _ | .fwdAwake | .fwdTurn
  | .sending => isTrue trivial

theorem HandlerPc.InFirstHalf.executing {pc : HandlerPc} (h : pc.InFirstHalf) :
    pc.Executing := by
  cases pc with
  | absent | returned | threw => exact h
  | _ => trivial

end Tcp

/-! ### Received data is acknowledged -/

open Tcp

/-- **Received data is acknowledged**: when no call of `handle_input` is being executed
and no sender can transmit, all that has been counted is acknowledged, and has been
announced to the device in some segment, unless it is what was acknowledged at the
start, `a₀`. -/
def Tcp.ReceivedAcknowledged (a₀ : BitVec 32) (c : Tcp) : Prop :=
  (∀ i < c.segs.length, ¬(c.handler i).Executing) → ¬c.CanTransmit →
    c.core.stx.acked = c.core.stx.ack ∧
      (c.core.stx.ack = a₀ ∨ ∃ seg ∈ c.core.wire, seg.hdr.thAck = c.core.stx.ack)

/-- **What has been received is acknowledged**, in every state of every run on a
connection that stays `CONN_CONNECTED` and gets plain acknowledgements only, in which
unacknowledged payload is always left to somebody. -/
theorem received_data_acknowledged {c₀ c : Tcp} (h₀ : c₀.Caught)
    (h : tcpMachine.Reaches (fun c l => OnlyAcks l ∧ c.AckCarried l) c₀ c) :
    c.ReceivedAcknowledged c₀.core.stx.acked := by
  have hinv := h.invariant (I := AcksCarried c₀.core.stx.acked) (.of_caught h₀)
    fun _ _ _ hi hok hs => hi.step hok.1 hok.2 hs
  intro hquiet hcan
  have hacked : c.core.stx.acked = c.core.stx.ack := by
    by_contra hne
    rcases hinv.carried hne with hsend | ⟨j, hj, hfirst⟩
    · exact hcan hsend
    · exact hquiet j hj hfirst.executing
  have hann := hinv.announced
  rw [Core.Announced, hacked] at hann
  exact ⟨hacked, hann⟩

theorem Tcp.established_caught (seq S0 : BitVec 32) : (established seq S0).Caught where
  connState := rfl
  segs := rfl
  handler := fun _ => rfl
  acked := rfl
  loop := Or.inl ⟨rfl, rfl⟩

/-- A segment of the stream from `0` on, with its acknowledgement and its window. -/
def Tcp.segmentWith (n : ℕ) (payload : List UInt8) (thAck : BitVec 32) (thWin : BitVec 16) :
    Segment :=
  { segmentAt 0 n payload with
    hdr := { (segmentAt 0 n payload).hdr with thAck := thAck, thWin := thWin } }

/-- The client sends a byte while the window is closed, and the client loop waits. -/
def Tcp.waitForWindow : List Label :=
  [.input (.call (segmentWith 0 [] 0 0)), .input (.lockStx 0 false),
    .loop .loopEvent, .loop (.poll (.revents pollin)), .loop (.recv (.data [1])),
    .loop .sendData, .loop .sendData]

/-- A payload arrives meanwhile, in a segment with the window `thWin`, and its call comes to its
end. -/
def Tcp.payloadArrives (thWin : BitVec 16) : List Label :=
  [.input (.call (segmentWith 0 [9] 0 thWin)), .input (.lockStx 1 true),
    .input (.lockClientSend 1), .input (.fwdTest 1), .input (.send 1 (.accepted 1))]

/-- A payload that opens the window is acknowledged by the sender that waits for it. -/
theorem received_data_acknowledged_by_sender :
    ∃ c : Tcp, ((∀ i < c.segs.length, ¬(c.handler i).Executing) ∧ ¬c.CanTransmit ∧
      c.core.stx.ack = 1) ∧ c.ReceivedAcknowledged 0 := by
  obtain ⟨c, hr, hp⟩ := tcpMachine.exists_reaches_of_runOk
    (fun c l => OnlyAcks l ∧ c.AckCarried l) (established 0 0)
    (waitForWindow ++ payloadArrives 1 ++ [.loop .sendWake, .loop .sendData])
    (fun c => (∀ i < c.segs.length, ¬(c.handler i).Executing) ∧ ¬c.CanTransmit ∧
      c.core.stx.ack = 1) (by decide)
  exact ⟨c, of_decide_eq_true hp, received_data_acknowledged (established_caught 0 0) hr⟩

/-- **A payload is not acknowledged**: it is left to the sender that waits for the window,
but the window stays closed, and the sender goes back to sleep. -/
theorem payload_not_acknowledged :
    ∃ c, tcpMachine.Reaches (fun c l => c.InStream 0 l ∧ NotTornDown l) (established 0 0) c ∧
      ¬c.ReceivedAcknowledged 0 := by
  obtain ⟨c, hr, hp⟩ := tcpMachine.exists_reaches_of_runOk
    (fun c l => c.InStream 0 l ∧ NotTornDown l) (established 0 0)
    (waitForWindow ++ payloadArrives 0 ++ [.loop .sendWake, .loop .sendData, .loop .sendData])
    (fun c => (∀ i < c.segs.length, ¬(c.handler i).Executing) ∧ ¬c.CanTransmit ∧
      c.core.stx.acked ≠ c.core.stx.ack) (by decide)
  obtain ⟨hquiet, hcan, hne⟩ := of_decide_eq_true hp
  exact ⟨c, hr, fun hall => hne (hall hquiet hcan).1⟩

end Usbmuxd
