import Usbmuxd.Tcp.Stream

/-!
# The acknowledgement gate

The first half of `handle_input` counts the segments in the order of the stream: a
call waits until `_stx.ack` is the `th_seq` of its segment, moves it past the
segment and wakes the others. The receivers overtake each other on the way there,
so the gate is what restores the order.

It does so for segments with payload. A pure acknowledgement has no payload and
starts where the segment after it starts, so either of the two finds the gate open.
If the later one goes first, `_stx.ack` is past the earlier one when that one looks
at it, and will not come back: the call waits for good
(`Usbmuxd.ack_left_behind`). If no segment with payload overtakes a pure
acknowledgement at the gate (`Usbmuxd.Tcp.NoAckLeftBehind`), nobody waits for a
number that has gone by, and everybody gets through (`Usbmuxd.no_segment_left_behind`).

The invariant counts: the position of the gate is the sum of the payloads of all calls that have
counted their segments, and a call that has not counted its own starts at this position or
behind it (`Usbmuxd.Tcp.Counts`). As positions wrap, this can be said only as long as the calls
under way are close together, which is a matter of how many receivers there are. That nobody
waits for good follows at the end: among the calls that have not counted their segments the
first one finds the gate open.
-/

namespace Usbmuxd

open Interleaving Chunks

namespace Tcp

/-! ### The invariant -/

/-- The call has taken `_stx.ack` past its segment. The calls that have not are those that may
still find the gate closed. -/
def HandlerPc.Counted : HandlerPc → Prop
  | .forward | .fwdAsleep _ | .fwdAwake | .fwdTurn | .sending | .returned => True
  | _ => False

instance (pc : HandlerPc) : Decidable pc.Counted :=
  match pc with
  | .forward | .fwdAsleep _ | .fwdAwake | .fwdTurn | .sending | .returned => isTrue trivial
  | .absent | .entered | .ackAsleep _ | .ackAwake | .threw => isFalse id

theorem HandlerPc.InSecondHalf.counted {pc : HandlerPc} (h : pc.InSecondHalf) : pc.Counted := by
  cases pc <;> trivial

/-- A connection in `CONN_CONNECTED`, before the first segment of a stream that starts
at `S0`. -/
structure Listening (S0 : BitVec 32) (c : Tcp) : Prop where
  connState : c.core.connState = .connConnected
  ack : c.core.stx.ack = S0
  segs : c.segs = []
  handler : ∀ i, c.handler i = .absent

/-- **The segments are counted in order up to position `A`**, and whoever sleeps while
its segment starts there has been signalled. -/
structure Counts (S0 : BitVec 32) (A : ℕ) (c : Tcp) : Prop where
  connState : c.core.connState = .connConnected
  ack : c.core.stx.ack = S0 + BitVec.ofNat 32 A
  inLine : InLine c.payloads (fun _ => True) (fun i => (c.handler i).Counted) A
  sleeper : ∀ i w, c.handler i = .ackAsleep w →
    c.core.canSendEvent.Ticket (c.startOf i = A) w

variable {c c' : Tcp} {i A : ℕ} {s : Segment} {S0 : BitVec 32} {pc : HandlerPc}

namespace Counts

theorem of_listening (h : c.Listening S0) : c.Counts S0 0 where
  connState := h.connState
  ack := h.ack.trans (BitVec.add_zero S0).symm
  inLine := by
    rw [payloads, h.segs]
    exact (InLine.nil _).congr fun i => by simp [h.handler i, HandlerPc.Counted]
  sleeper := by
    intro i w hi
    rw [h.handler i] at hi
    cases hi

/-- Steps outside the first half of `handle_input` change nothing here, since neither the
position nor the gate is touched by them. -/
theorem keep (h : c.Counts S0 A) (hsegs : c'.segs = c.segs)
    (hcounted : ∀ j, (c'.handler j).Counted ↔ (c.handler j).Counted)
    (hsleep : ∀ j w, c'.handler j = .ackAsleep w → c.handler j = .ackAsleep w)
    (hcore : c'.core.connState = c.core.connState ∧ c'.core.stx.ack = c.core.stx.ack ∧
      c'.core.canSendEvent = c.core.canSendEvent) : c'.Counts S0 A := by
  have hp : c'.payloads = c.payloads := by rw [payloads, payloads, hsegs]
  obtain ⟨hconn, hack, hev⟩ := hcore
  refine ⟨hconn.trans h.connState, hack.trans h.ack, ?_, ?_⟩
  · rw [hp]
    exact h.inLine.congr fun j => (hcounted j).symm
  · intro j w hj
    rw [startOf, hp, hev]
    exact h.sleeper j w (hsleep j w hj)

/-- A call that goes on in the same half of `handle_input`, and so on the same side of the
gate. -/
theorem move (h : c.Counts S0 A) (hm : c.Moves i pc c')
    (hcounted : pc.Counted ↔ (c.handler i).Counted) (hsleep : ∀ w, pc ≠ .ackAsleep w)
    (hcore : c'.core.connState = c.core.connState ∧ c'.core.stx.ack = c.core.stx.ack ∧
      c'.core.canSendEvent = c.core.canSendEvent) : c'.Counts S0 A := by
  refine h.keep hm.segs ?_ ?_ hcore
  · intro j
    rw [hm.handler_apply]
    split
    · next hji => exact hji ▸ hcounted
    · exact Iff.rfl
  · intro j w hj
    rw [hm.handler_apply] at hj
    split at hj
    · exact absurd hj (hsleep w)
    · exact hj

theorem enter (h : c.Counts S0 A) (hst : c.Streamed 0 S0) : (c.enter s).Counts S0 A := by
  have habs := (hst.absent c.segs.length).mpr le_rfl
  refine ⟨h.connState, h.ack, ?_, ?_⟩
  · rw [payloads_enter]
    refine (h.inLine.append s.payload).congr ?_
    intro j
    rw [enter_handler]
    split
    · next hj => simp [hj, habs, HandlerPc.Counted]
    · exact Iff.rfl
  · intro j w hj
    rw [enter_handler] at hj
    split at hj
    · cases hj
    · rw [startOf_enter (hst.lt_length (by simp [hj])).le]
      exact h.sleeper j w hj

/-- The gate opens to a call that has not been counted exactly at its position. -/
theorem gate_iff (h : c.Counts S0 A) (hst : c.Streamed 0 S0) (hs : c.segs[i]? = some s)
    (hpc : ¬(c.handler i).Counted) : c.core.stx.ack = s.hdr.thSeq ↔ A = c.startOf i := by
  rw [h.ack]
  exact hst.gate_iff h.inLine (Nat.zero_le i) hs hpc trivial (fun d hd => absurd trivial hd)
    fun j hj => hj ▸ trivial

/-- **A call counts its segment**, or goes to sleep knowing that its turn has not
come. -/
theorem ackGate (h : c.Counts S0 A) (hst : c.Streamed 0 S0) (hs : c.segs[i]? = some s)
    (hpc : c.handler i = .entered ∨ c.handler i = .ackAwake) (members : Bool)
    (hok : s.payload ≠ [] → c.core.stx.ack = s.hdr.thSeq → ∀ j < i, chunk c.payloads j = [] →
      (c.handler j).Counted) : ∃ A', (c.ackGate i s members).Counts S0 A' := by
  have hi := lt_of_getElem? hs
  have hne : c.handler i ≠ .absent ∧ c.handler i ≠ .returned ∧ ¬(c.handler i).Counted := by
    rcases hpc with hpc | hpc <;> simp [hpc, HandlerPc.Counted]
  have hgate := h.gate_iff hst hs hne.2.2
  rcases ackGate_cases c i s members with
    ⟨hack, heq⟩ | ⟨hack, heq⟩
  · have hm : c.Moves i (.ackAsleep c.core.canSendEvent.next) (c.ackGate i s members) :=
      heq ▸ ⟨hi, hne.1, hne.2.1, by simp, rfl, rfl⟩
    rw [heq] at hm ⊢
    refine ⟨A, h.connState, h.ack, ?_, ?_⟩
    · refine h.inLine.congr ?_
      intro j
      rw [hm.handler_apply]
      split
      · next hji => exact hji ▸ iff_of_false hne.2.2 id
      · exact Iff.rfl
    · intro j w hj
      rw [hm.handler_apply] at hj
      split at hj
      · next hji =>
        obtain rfl := HandlerPc.ackAsleep.inj hj
        exact EventCount.ticket_next fun hstart => hack (hgate.mpr (hji ▸ hstart).symm)
      · exact h.sleeper j w hj
  · obtain rfl := hgate.mp hack
    have hm : c.Moves i (secondHalf s) (c.ackGate i s members) :=
      heq ▸ ⟨hi, hne.1, hne.2.1, secondHalf_ne_absent s, rfl, rfl⟩
    have hcounted : (secondHalf s).Counted := by
      rcases secondHalf_eq s with ⟨-, hsec⟩ | ⟨-, hsec⟩ <;> rw [hsec] <;> trivial
    have hchunk : chunk c.payloads i = s.payload := chunk_payloads hs
    rw [heq] at hm ⊢
    refine ⟨c.startOf i + s.payload.length, ?_, ?_, ?_, ?_⟩
    · rw [← h.connState]
      exact Core.countSegment_connState ..
    · refine (Core.countSegment_ack ..).trans ?_
      rw [h.ack, Segment.payloadLen, BitVec.ofNat_add, BitVec.add_assoc]
    · have hpass := h.inLine.pass (length_payloads.symm ▸ hi) fun j hj hnot _ hdata hempty =>
        hnot (hok (hchunk ▸ hdata) hack j hj hempty)
      rw [hchunk] at hpass
      refine hpass.congr ?_
      intro j
      rw [hm.handler_apply]
      split
      · next hji => simp [hji, hcounted]
      · next hji => simp [hji]
    · intro j w hj
      rw [hm.handler_apply] at hj
      split at hj
      · rw [hj] at hcounted
        exact hcounted.elim
      · -- counting signals everybody who has gone to sleep so far
        change (c.core.countSegment s members).canSendEvent.Ticket _ w
        rw [Core.countSegment_canSendEvent]
        exact (h.sleeper j w hj).advance

end Counts

/-! ### One step -/

/-- The connection is not torn down. What becomes of calls in a connection that is, is another
question. -/
def NotTornDown : Label → Prop
  | .deconstruct => False
  | _ => True

instance (l : Label) : Decidable (NotTornDown l) :=
  match l with
  | .deconstruct => isFalse id
  | .input _ | .loop _ | .connect _ | .notify _ => isTrue trivial

/-- **A segment with payload passes the gate only when every earlier pure
acknowledgement has.** -/
def NoAckLeftBehind (c : Tcp) : Label → Prop
  | .input (.lockStx i _) => ∀ s ∈ c.segs[i]?, s.payload ≠ [] → c.core.stx.ack = s.hdr.thSeq →
      ∀ j < i, chunk c.payloads j = [] → (c.handler j).Counted
  | _ => True

instance (c : Tcp) (l : Label) : Decidable (NoAckLeftBehind c l) :=
  match l with
  | .input (.lockStx i _) => inferInstanceAs (Decidable (∀ s ∈ c.segs[i]?, _))
  | .input (.call _) | .input (.ackWake _) | .input (.lockClientSend _) | .input (.fwdWake _)
  | .input (.fwdTest _) | .input (.send _ _) | .loop _ | .connect _ | .deconstruct
  | .notify _ => isTrue trivial

/-- **One step keeps the invariant.** The position it is about may move on, which is why the
step gives a new one. -/
theorem Counts.step (h : c.Counts S0 A) (hst : c.Streamed 0 S0) {l : Label}
    (hconn : NotTornDown l) (hok : NoAckLeftBehind c l) (hs : c.step l = some c') :
    ∃ A', c'.Counts S0 A' := by
  cases l with
  | loop l =>
    obtain ⟨core, loop, buf, rcv, rfl, hk⟩ := loopStep_eq hs
    exact ⟨A, h.keep rfl (fun _ => Iff.rfl) (fun _ _ => id)
      ⟨hk.connState, hk.ack, hk.canSendEvent⟩⟩
  | connect ok =>
    obtain ⟨core, pc, loop, fd, cfd, wl, out, rfl, hk⟩ := connectStep_eq hs
    exact ⟨A, h.keep rfl (fun _ => Iff.rfl) (fun _ _ => id)
      ⟨hk.connState, hk.ack, hk.canSendEvent⟩⟩
  | notify l =>
    obtain ⟨wl, out, rfl⟩ := notifyStep_eq hs
    exact ⟨A, h.keep rfl (fun _ => Iff.rfl) (fun _ _ => id) ⟨rfl, rfl, rfl⟩⟩
  | deconstruct => exact hconn.elim
  | input l =>
    cases l with
    | call s => exact inputStep_call hs ▸ ⟨A, h.enter hst⟩
    | lockStx i members =>
      obtain ⟨s, hi, ⟨hpc, rfl⟩ | ⟨hpc, rfl⟩⟩ := inputStep_lockStx hs
      · rw [firstHalf_of_connected h.connState (hst.header i s (Nat.zero_le i) hi).1]
        exact h.ackGate hst hi (Or.inl hpc) members (hok s hi)
      · exact h.ackGate hst hi (Or.inr hpc) members (hok s hi)
    | ackWake i =>
      obtain ⟨w, hpc, -, ⟨hc, rfl⟩ | ⟨-, rfl⟩⟩ := inputStep_ackWake hs
      · -- the connection stands, so nobody is woken up to leave
        exact absurd h.connState hc
      · have hm : c.Moves i .ackAwake (c.moveHandler i .ackAwake) :=
          hst.moves hpc (by simp) (by simp) ⟨rfl, rfl⟩
        exact ⟨A, h.move hm (by simp [hpc, HandlerPc.Counted]) (by simp) ⟨rfl, rfl, rfl⟩⟩
    | lockClientSend i =>
      obtain ⟨s, hi, hpc, -, rfl⟩ := inputStep_lockClientSend hs
      -- a call in the second half has been counted, and stays so
      have hlt := lt_of_getElem? hi
      have hne : c.handler i ≠ .absent ∧ c.handler i ≠ .returned ∧ (c.handler i).Counted := by
        rcases hpc with hpc | hpc <;> simp [hpc, HandlerPc.Counted]
      rcases forwardGate_cases c i s with ⟨-, heq⟩ | ⟨-, heq⟩
      · have hm : c.Moves i (.fwdAsleep c.canClientSendEvent.next) (c.forwardGate i s) :=
          heq ▸ ⟨hlt, hne.1, hne.2.1, by simp, rfl, rfl⟩
        rw [heq] at hm ⊢
        exact ⟨A, h.move hm (iff_of_true trivial hne.2.2) (by simp) ⟨rfl, rfl, rfl⟩⟩
      · have hm : c.Moves i .fwdTurn (c.forwardGate i s) :=
          heq ▸ ⟨hlt, hne.1, hne.2.1, by simp, rfl, rfl⟩
        rw [heq] at hm ⊢
        exact ⟨A, h.move hm (iff_of_true trivial hne.2.2) (by simp) ⟨rfl, rfl, rfl⟩⟩
    | fwdWake i =>
      obtain ⟨w, hpc, -, ⟨hc, rfl⟩ | ⟨-, rfl⟩⟩ := inputStep_fwdWake hs
      · exact absurd h.connState hc
      · have hm : c.Moves i .fwdAwake (c.moveHandler i .fwdAwake) :=
          hst.moves hpc (by simp) (by simp) ⟨rfl, rfl⟩
        exact ⟨A, h.move hm (by simp [hpc, HandlerPc.Counted]) (by simp) ⟨rfl, rfl, rfl⟩⟩
    | fwdTest i =>
      obtain ⟨hpc, ⟨hc, rfl⟩ | ⟨-, rfl⟩⟩ := inputStep_fwdTest hs
      · exact absurd h.connState hc
      · have hm : c.Moves i .sending (c.moveHandler i .sending) :=
          hst.moves hpc (by simp) (by simp) ⟨rfl, rfl⟩
        exact ⟨A, h.move hm (by simp [hpc, HandlerPc.Counted]) (by simp) ⟨rfl, rfl, rfl⟩⟩
    | send i r =>
      obtain ⟨s, hi, hpc, rfl⟩ := inputStep_send hs
      have hm : c.Moves i .returned (c.forwardPayload i s (c.acceptedBy s r)) :=
        hst.moves hpc (by simp) (by simp) ⟨rfl, rfl⟩
      obtain ⟨hst', -, hack, hev, -⟩ := c.forwardPayload_core (i := i) (s := s) (c.acceptedBy s r)
      exact ⟨A, h.move hm (by simp [hpc, HandlerPc.Counted]) (by simp) ⟨hst', hack, hev⟩⟩

end Tcp

/-! ### Nobody is left behind -/

open Tcp

/-- **No segment is left behind**: a call that sleeps in the first half of
`handle_input` waits for a number ahead of `_stx.ack`; once all earlier segments have
been counted it has been signalled; and when all calls have counted theirs,
`_stx.ack` is at the end of the stream. -/
structure NoSegmentLeftBehind (S0 : BitVec 32) (c : Tcp) : Prop where
  ahead : ∀ i w s, c.handler i = .ackAsleep w → ¬c.core.canSendEvent.Reached w →
    c.segs[i]? = some s → SerialNumber.Ahead c.core.stx.ack s.hdr.thSeq
  woken : ∀ i w, c.handler i = .ackAsleep w → (∀ j < i, (c.handler j).Counted) →
    c.core.canSendEvent.Reached w
  all_counted : (∀ i < c.segs.length, (c.handler i).Counted) →
    c.core.stx.ack = S0 + BitVec.ofNat 32 c.stream.length

theorem Tcp.Counts.noSegmentLeftBehind {S0 : BitVec 32} {A : ℕ} {c : Tcp} (h : c.Counts S0 A)
    (hst : c.Streamed 0 S0) : NoSegmentLeftBehind S0 c where
  ahead := by
    intro i w s hi hasleep hs
    have hnot : ¬(c.handler i).Counted := by simp [hi, HandlerPc.Counted]
    -- a sleeper's segment begins further on, and not as far as half the numbers
    have hge : A ≤ c.startOf i := h.inLine.ahead i hnot trivial
    have hne : c.startOf i ≠ A := fun he => hasleep ((h.sleeper i w hi).reached he)
    have hfar : c.startOf i ≤ A + pending c.payloads c.busy i :=
      h.inLine.offset_le (fun j _ hj => by
        rw [busy, decide_eq_true_eq]
        rintro he
        exact hj (he ▸ trivial)) fun d hd => absurd trivial hd
    have hpend : pending c.payloads c.busy i ≤ c.outstanding := pending_mono (lt_of_getElem? hs).le
    have hroom := hst.room
    rw [h.ack, (hst.header i s (Nat.zero_le i) hs).2]
    exact SerialNumber.ahead_of_lt S0 (by omega) (by omega)
  woken := by
    intro i w hi hall
    have hnot : ¬(c.handler i).Counted := by simp [hi, HandlerPc.Counted]
    -- once all before it are counted, its segment begins where `_stx.ack` is
    have hge : A ≤ c.startOf i := h.inLine.ahead i hnot trivial
    have hle : c.startOf i ≤ A + pending c.payloads (fun _ => false) i :=
      h.inLine.offset_le (fun j hj hn => absurd (hall j hj) hn) fun d hd => absurd trivial hd
    rw [pending_false] at hle
    exact (h.sleeper i w hi).reached (by omega)
  all_counted := by
    intro hall
    have heq := h.inLine.eq_length (fun j hj => hall j (length_payloads ▸ hj))
      fun d hd => absurd trivial hd
    rw [h.ack, heq, stream]

theorem Tcp.established_listening (seq S0 : BitVec 32) : (established seq S0).Listening S0 where
  connState := rfl
  ack := rfl
  segs := rfl
  handler := fun _ => rfl

end Usbmuxd
