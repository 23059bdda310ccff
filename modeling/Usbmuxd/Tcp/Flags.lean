import Usbmuxd.Tcp.Stream

/-!
# What the flags of a segment decide

`TCP::handle_input` counts a segment in its first half and forwards the payload in its
second. Only the first half looks at the flags: `TH_ACK` and nothing else is counted,
`TH_RST` and nothing else ends the connection and the call, and anything else is worth a
warning. The second half forwards whatever payload is left to it.

The two positions in the stream of the device, `_stx.ack` and `_stx.pktForwarded`, are
to move together, since each gates the segments of its half: once they differ, no later
segment passes both. This file follows one call of `handle_input` that finds its turn
come in both halves and whose client accepts everything (`Usbmuxd.Tcp.OfCall`), from its
start to its end, and says for which segments the positions still agree
(`Usbmuxd.segment_agrees_iff`).

That flags are compared with `=` and not tested bit by bit is what everything here comes from. A
segment with `TH_ACK` and one more flag carries an acknowledgement, but is not counted as one;
its payload is forwarded all the same. After this the two positions differ by the length of the
payload, and no later segment can be next in both halves. The flags are chosen by the device,
and a push flag on a segment with payload is nothing out of the ordinary.
-/

namespace Usbmuxd

open Interleaving

/-- The payload of the segment is left to the second half: there is some, and the flags
have not ended the call. -/
def Segment.IsForwarded (s : Segment) : Prop := s.payload ≠ [] ∧ s.hdr.thFlags ≠ thRst

instance (s : Segment) : Decidable s.IsForwarded := inferInstanceAs (Decidable (_ ∧ _))

/-- **The segments that keep the two positions together**: nothing but an acknowledgement,
nothing but a reset, or nothing at all to forward and no reset among the flags. -/
def Segment.WellFlagged (s : Segment) : Prop :=
  s.hdr.thFlags = thAck ∨ s.hdr.thFlags = thRst ∨ s.payload = [] ∧ s.hdr.thFlags &&& thRst = 0

namespace Tcp

/-! ### One call -/

/-- The connection when a segment comes that is next in line in both halves. -/
structure NextInLine (c : Tcp) (s : Segment) : Prop where
  connState : c.core.connState = .connConnected
  agree : c.core.stx.ack = c.core.stx.pktForwarded
  thSeq : s.hdr.thSeq = c.core.stx.ack

/-- The steps of call `i` of `handle_input`, made with `s`: the client accepts all of the
payload. -/
def OfCall (i : ℕ) (s : Segment) (c : Tcp) : Label → Prop
  | .input (.lockStx j _) | .input (.ackWake j) | .input (.lockClientSend j)
  | .input (.fwdWake j) | .input (.fwdTest j) => j = i
  | .input (.send j r) => j = i ∧ c.acceptedBy s r = s.payload.length
  | _ => False

instance (i : ℕ) (s : Segment) (c : Tcp) (l : Label) : Decidable (OfCall i s c l) :=
  match l with
  | .input (.lockStx j _) | .input (.ackWake j) | .input (.lockClientSend j)
  | .input (.fwdWake j) | .input (.fwdTest j) => inferInstanceAs (Decidable (j = i))
  | .input (.send _ _) => inferInstanceAs (Decidable (_ ∧ _))
  | .input (.call _) | .loop _ | .connect _ | .deconstruct | .notify _ => isFalse id

/-- **What a call has done** to the connection since `c`: whether it has counted the
segment, forwarded its payload, and asked for the connection to be torn down. -/
structure Did (c : Tcp) (s : Segment) (counted forwarded reset : Bool) (c' : Tcp) : Prop where
  ack : c'.core.stx.ack = if counted then c.core.stx.ack + s.payloadLen else c.core.stx.ack
  pktForwarded : c'.core.stx.pktForwarded =
    if forwarded then c.core.stx.pktForwarded + s.payloadLen else c.core.stx.pktForwarded
  clientOut : c'.clientOut =
    if forwarded then c.clientOut ++ [.payload s.payload] else c.clientOut
  kills : c'.core.kills = if reset then c.core.kills + 1 else c.core.kills

/-- What the call has done by the time it gets to `pc`. It never waits. -/
def DoneAt (c : Tcp) (s : Segment) (c' : Tcp) : HandlerPc → Prop
  | .entered => c.Did s false false false c'
  | .forward | .fwdTurn | .sending =>
      s.IsForwarded ∧ c.Did s (s.hdr.thFlags = thAck) false false c'
  | .returned => c.Did s (s.hdr.thFlags = thAck) s.IsForwarded (s.hdr.thFlags = thRst) c'
  | _ => False

/-- The invariant of the call that was made with `s` in `c`: what the call has done so far, by
the place where it is. -/
structure Progress (c : Tcp) (s : Segment) (c' : Tcp) : Prop where
  segs : c'.segs = c.segs ++ [s]
  connState : c'.core.connState = .connConnected
  done : c.DoneAt s c' (c'.handler c.segs.length)

variable {c c' c'' : Tcp} {s : Segment} {members : Bool} {r : SendResult}

/-- **The first half**, in `CONN_CONNECTED` and with a segment that is next in line. -/
theorem firstHalf_nextInLine {i : ℕ} (hconn : c'.core.connState = .connConnected)
    (hack : c'.core.stx.ack = s.hdr.thSeq) :
    c'.firstHalf i s members =
      if s.hdr.thFlags = thAck then
        { c'.moveHandler i (secondHalf s) with core := c'.core.countSegment s members }
      else if s.hdr.thFlags = thRst then
        { c'.moveHandler i .returned with core := c'.core.kill }
      else c'.moveHandler i (secondHalf s) := by
  simp only [firstHalf, hconn, ackGate, hack, ne_eq, not_true_eq_false, if_false]

/-- The call has been made, and has done nothing yet. -/
theorem NextInLine.progress_enter (h : c.NextInLine s) : c.Progress s (c.enter s) where
  segs := rfl
  connState := h.connState
  done := by
    rw [enter_handler, if_pos rfl]
    exact ⟨rfl, rfl, rfl, rfl⟩

namespace Progress

/-- The call has been made with `s`, and this does not change while it is executed. -/
theorem getElem?_segs (h : c.Progress s c') : c'.segs[c.segs.length]? = some s := by
  rw [h.segs, List.getElem?_append_right le_rfl, Nat.sub_self]
  rfl

/-- A step that takes the call to `pc`. -/
theorem goes (h : c.Progress s c') {pc : HandlerPc} (hsegs : c''.segs = c'.segs)
    (hhandler : c''.handler = (c'.moveHandler c.segs.length pc).handler)
    (hconn : c''.core.connState = c'.core.connState) (hdone : c.DoneAt s c'' pc) :
    c.Progress s c'' where
  segs := hsegs.trans h.segs
  connState := hconn.trans h.connState
  done := by
    rw [hhandler, moveHandler_handler, if_pos rfl]
    exact hdone

/-- The first half leaves the payload to the second, unless the call ends with it. -/
theorem doneAt_secondHalf (hrst : s.hdr.thFlags ≠ thRst)
    (hd : c.Did s (s.hdr.thFlags = thAck) false false c'') : c.DoneAt s c'' (secondHalf s) := by
  rcases secondHalf_eq s with ⟨hnil, he⟩ | ⟨hne, he⟩ <;> rw [he]
  · have hnot : ¬s.IsForwarded := fun hf => hf.1 hnil
    rw [DoneAt, decide_eq_false hnot, decide_eq_false hrst]
    exact hd
  · exact ⟨⟨hne, hrst⟩, hd⟩

/-- The first half keeps the invariant. It is here that the flags are looked at. -/
theorem firstHalf (h : c.Progress s c') (hin : c.NextInLine s)
    (hpc : c'.handler c.segs.length = .entered) :
    c.Progress s (c'.firstHalf c.segs.length s members) := by
  have hd := h.done
  rw [hpc] at hd
  obtain ⟨hack, hpkt, hout, hkills⟩ : c.Did s false false false c' := hd
  rw [firstHalf_nextInLine h.connState (hack.trans hin.thSeq.symm)]
  split_ifs with hflags hrst
  · -- the segment is counted
    refine h.goes rfl rfl (Core.countSegment_connState ..) (doneAt_secondHalf ?_ ?_)
    · rw [hflags]
      decide
    · rw [decide_eq_true hflags]
      refine ⟨?_, ?_, hout, ?_⟩
      · exact (Core.countSegment_ack ..).trans (congrArg (· + s.payloadLen) hack)
      · exact (Core.countSegment_pktForwarded ..).trans hpkt
      · exact (Core.countSegment_kills ..).trans hkills
  · -- the connection is reset
    have hnot : ¬s.IsForwarded := fun hf => hf.2 hrst
    refine h.goes rfl rfl rfl ?_
    rw [DoneAt, decide_eq_false hflags, decide_eq_false hnot, decide_eq_true hrst]
    exact ⟨hack, hpkt, hout, congrArg (· + 1) hkills⟩
  · -- the flags are unexpected, and nothing else happens
    refine h.goes rfl rfl rfl (doneAt_secondHalf hrst ?_)
    rw [decide_eq_false hflags]
    exact ⟨hack, hpkt, hout, hkills⟩

/-- **The `send`**, of which the client accepts everything. With this the payload has been
forwarded. -/
theorem send (h : c.Progress s c') (hpc : c'.handler c.segs.length = .sending) :
    c.Progress s (c'.forwardPayload c.segs.length s s.payload.length) := by
  have hd := h.done
  rw [hpc] at hd
  obtain ⟨hf, hack, hpkt, hout, hkills⟩ :
    s.IsForwarded ∧ c.Did s (s.hdr.thFlags = thAck) false false c' := hd
  obtain ⟨hconn, hpkt', hack', -⟩ := c'.forwardPayload_core (i := c.segs.length) (s := s)
    s.payload.length
  refine h.goes rfl rfl hconn ?_
  rw [DoneAt, decide_eq_true hf, decide_eq_false hf.2]
  refine ⟨hack'.trans hack, hpkt'.trans (congrArg (· + s.payloadLen) hpkt), ?_, ?_⟩
  · change c'.clientOut ++ [.payload (s.payload.take s.payload.length)] = _
    rw [hout, List.take_length]
    rfl
  · refine Eq.trans ?_ hkills
    simp only [forwardPayload, ne_eq, not_true_eq_false, if_false]

/-- **One step of the call keeps the invariant**, while all other threads stand still. -/
theorem step (h : c.Progress s c') (hin : c.NextInLine s) {l : Label}
    (hok : OfCall c.segs.length s c' l) (hs : c'.step l = some c'') : c.Progress s c'' := by
  have hd := h.done
  cases l with
  | input l =>
    cases l with
    | call s' => exact hok.elim
    | lockStx j members =>
      obtain rfl : j = c.segs.length := hok
      obtain ⟨s', hs', ⟨hpc, rfl⟩ | ⟨hpc, -⟩⟩ := inputStep_lockStx hs
      · cases hs'.symm.trans h.getElem?_segs
        exact h.firstHalf hin hpc
      · rw [hpc] at hd
        exact hd.elim
    | ackWake j =>
      obtain rfl : j = c.segs.length := hok
      obtain ⟨w, hpc, -⟩ := inputStep_ackWake hs
      rw [hpc] at hd
      exact hd.elim
    | lockClientSend j =>
      obtain rfl : j = c.segs.length := hok
      obtain ⟨s', hs', hpc | hpc, -, rfl⟩ := inputStep_lockClientSend hs
      · cases hs'.symm.trans h.getElem?_segs
        rw [hpc] at hd
        rcases forwardGate_cases c' c.segs.length s with ⟨hne, -⟩ | ⟨-, heq⟩
        · exact absurd (hd.2.pktForwarded.trans (hin.agree.symm.trans hin.thSeq.symm)) hne
        · rw [heq]
          exact h.goes rfl rfl rfl ⟨hd.1, hd.2.ack, hd.2.pktForwarded, hd.2.clientOut, hd.2.kills⟩
      · rw [hpc] at hd
        exact hd.elim
    | fwdWake j =>
      obtain rfl : j = c.segs.length := hok
      obtain ⟨w, hpc, -⟩ := inputStep_fwdWake hs
      rw [hpc] at hd
      exact hd.elim
    | fwdTest j =>
      obtain rfl : j = c.segs.length := hok
      obtain ⟨hpc, ⟨hne, -⟩ | ⟨-, rfl⟩⟩ := inputStep_fwdTest hs
      · exact absurd h.connState hne
      · rw [hpc] at hd
        exact h.goes rfl rfl rfl ⟨hd.1, hd.2.ack, hd.2.pktForwarded, hd.2.clientOut, hd.2.kills⟩
    | send j r =>
      obtain ⟨rfl, hall⟩ : j = c.segs.length ∧ c'.acceptedBy s r = s.payload.length := hok
      obtain ⟨s', hs', hpc, rfl⟩ := inputStep_send hs
      cases hs'.symm.trans h.getElem?_segs
      rw [hall]
      exact h.send hpc
  | loop l => exact hok.elim
  | connect ok => exact hok.elim
  | deconstruct => exact hok.elim
  | notify l => exact hok.elim

/-- What a call has done that has returned: exactly what its flags and its payload ask for. -/
theorem did_of_returned (h : c.Progress s c') (hret : c'.handler c.segs.length = .returned) :
    c.Did s (s.hdr.thFlags = thAck) s.IsForwarded (s.hdr.thFlags = thRst) c' := by
  have hd := h.done
  rw [hret] at hd
  exact hd

end Progress

/-- The call makes progress in every run of its own steps, as it never has to wait for its
turn. -/
theorem NextInLine.progress (hin : c.NextInLine s)
    (hr : tcpMachine.Reaches (OfCall c.segs.length s) (c.enter s) c') : c.Progress s c' :=
  hr.invariant hin.progress_enter fun _ _ _ hi hok hs => hi.step hin hok hs

/-! ### The call returns -/

section Returns

variable {i : ℕ}

theorem lockStx_of_entered (members : Bool) (hs : c.segs[i]? = some s)
    (hpc : c.handler i = .entered) :
    c.step (.input (.lockStx i members)) = some (c.firstHalf i s members) := by
  simp only [Tcp.step, inputStep, hs, hpc]

theorem lockClientSend_of_forward (hs : c.segs[i]? = some s) (hpc : c.handler i = .forward)
    (hlock : c.lockClientSend = none) :
    c.step (.input (.lockClientSend i)) = some (c.forwardGate i s) := by
  simp only [Tcp.step, inputStep, hs, hpc, hlock]

theorem fwdTest_of_turn (hpc : c.handler i = .fwdTurn) (hc : c.core.connState = .connConnected) :
    c.step (.input (.fwdTest i)) = some (c.moveHandler i .sending) := by
  simp only [Tcp.step, inputStep, hpc, hc, ne_eq, not_true_eq_false, if_false]

theorem send_of_sending (hs : c.segs[i]? = some s) (hpc : c.handler i = .sending) :
    c.step (.input (.send i r)) = some (c.forwardPayload i s (c.acceptedBy s r)) := by
  simp only [Tcp.step, inputStep, hs, hpc, acceptedBy]

/-- The first half ends before the second, or the call is over after it. -/
theorem firstHalf_stops (members : Bool) (hconn : c.core.connState = .connConnected)
    (hack : c.core.stx.ack = s.hdr.thSeq) :
    ∃ core pc, c.firstHalf i s members = { c.moveHandler i pc with core := core } ∧
      (pc = .returned ∨ pc = .forward) := by
  have hsecond : secondHalf s = .returned ∨ secondHalf s = .forward :=
    (secondHalf_eq s).imp And.right And.right
  rw [firstHalf_nextInLine hconn hack]
  split_ifs
  · exact ⟨_, _, rfl, hsecond⟩
  · exact ⟨_, _, rfl, Or.inl rfl⟩
  · exact ⟨_, _, rfl, hsecond⟩

/-- The second half returns, if the client accepts the bytes. -/
theorem Progress.exists_returned (h : c.Progress s c') (hin : c.NextInLine s)
    (hpc : c'.handler c.segs.length = .forward) (hfd : c'.pfdFd = true)
    (hlock : c'.lockClientSend = none) :
    ∃ c'', tcpMachine.Reaches (OfCall c.segs.length s) c' c'' ∧
      c''.handler c.segs.length = .returned := by
  have hd := h.done
  rw [hpc] at hd
  have hturn : c'.core.stx.pktForwarded = s.hdr.thSeq :=
    hd.2.pktForwarded.trans (hin.agree.symm.trans hin.thSeq.symm)
  -- its turn has come, the connection stands, and the client accepts everything
  have hgate : c'.forwardGate c.segs.length s =
      { c'.moveHandler c.segs.length .fwdTurn with lockClientSend := some c.segs.length } :=
    (forwardGate_cases c' c.segs.length s).elim (fun hne => absurd hturn hne.1) And.right
  obtain ⟨c₁, hc₁⟩ : ∃ c₁ : Tcp, c₁ = { c'.moveHandler c.segs.length .fwdTurn with
    lockClientSend := some c.segs.length } := ⟨_, rfl⟩
  have h₁ := lockClientSend_of_forward h.getElem?_segs hpc hlock
  rw [hgate, ← hc₁] at h₁
  have hr₁ : tcpMachine.Reaches (OfCall c.segs.length s) c' c₁ :=
    .tail (.input (.lockClientSend _)) .refl (show _ = _ from rfl) h₁
  have h₂ := fwdTest_of_turn (i := c.segs.length) (c := c₁)
    (by rw [hc₁]; exact Function.update_self ..) (by rw [hc₁]; exact h.connState)
  have hr₂ : tcpMachine.Reaches (OfCall c.segs.length s) c'
      (c₁.moveHandler c.segs.length .sending) :=
    .tail (.input (.fwdTest _)) hr₁ (show _ = _ from rfl) h₂
  have h₃ := send_of_sending (i := c.segs.length) (c := c₁.moveHandler c.segs.length .sending)
    (r := .accepted s.payload.length) (by rw [hc₁]; exact h.getElem?_segs)
    (Function.update_self ..)
  refine ⟨_, .tail (.input (.send _ _)) hr₂ ⟨rfl, ?_⟩ h₃, Function.update_self ..⟩
  rw [hc₁]
  exact (if_pos hfd).trans (min_self _)

/-- **The call returns**, if it is alone: the client's socket is there, and nobody holds
`_lockClientSend`. -/
theorem NextInLine.exists_returned (hin : c.NextInLine s) (hfd : c.pfdFd = true)
    (hlock : c.lockClientSend = none) :
    ∃ c', tcpMachine.Reaches (OfCall c.segs.length s) (c.enter s) c' ∧
      c'.handler c.segs.length = .returned := by
  have hentered : (c.enter s).handler c.segs.length = .entered := by
    rw [enter_handler, if_pos rfl]
  have h₁ := lockStx_of_entered false hin.progress_enter.getElem?_segs hentered
  have hfirst : tcpMachine.Reaches (OfCall c.segs.length s) (c.enter s) _ :=
    Machine.Reaches.refl.tail (Label.input (.lockStx _ false)) rfl h₁
  have hprogress := hin.progress hfirst
  obtain ⟨core, pc, heq, hpc⟩ :=
    firstHalf_stops (i := c.segs.length) (c := c.enter s) false hin.connState
      hin.thSeq.symm
  rw [heq] at hfirst hprogress
  rcases hpc with rfl | rfl
  · exact ⟨_, hfirst, Function.update_self ..⟩
  · obtain ⟨c', hr, hret⟩ := hprogress.exists_returned hin (Function.update_self ..) hfd hlock
    exact ⟨c', hfirst.trans hr, hret⟩

end Returns

end Tcp

/-! ### The two positions -/

open Tcp

section Agree

variable {c c' : Tcp} {s : Segment}

/-- **A segment is handled well** between `c` and `c'`: the two positions agree, its
payload has been forwarded exactly when it has been counted, and a reset among its flags
forwards nothing and asks for the connection to be torn down. -/
structure SegmentAgrees (c : Tcp) (s : Segment) (c' : Tcp) : Prop where
  agree : c'.core.stx.ack = c'.core.stx.pktForwarded
  together : s.payload ≠ [] → (c'.clientOut = c.clientOut ++ [.payload s.payload] ↔
    c'.core.stx.ack = c.core.stx.ack + s.payloadLen)
  reset : s.hdr.thFlags &&& thRst ≠ 0 →
    c'.clientOut = c.clientOut ∧ c.core.kills < c'.core.kills

/-- A position moves exactly when there is a payload. The payloads are too short to go all the
way round. -/
theorem Segment.add_payloadLen_eq_iff (s : Segment) (x : BitVec 32) :
    x + s.payloadLen = x ↔ s.payload = [] := by
  rw [← s.payloadLen_eq_zero_iff]
  exact ⟨fun he => (BitVec.add_right_inj x).mp (he.trans (BitVec.add_zero x).symm),
    fun he => he ▸ BitVec.add_zero x⟩

/-- What the call has done decides whether the segment is handled well, so that only the flags
and the payload matter. -/
theorem Tcp.Did.segmentAgrees_iff (hin : c.NextInLine s)
    (h : c.Did s (s.hdr.thFlags = thAck) s.IsForwarded (s.hdr.thFlags = thRst) c') :
    SegmentAgrees c s c' ↔ s.WellFlagged := by
  obtain ⟨hack, hpkt, hout, hkills⟩ := h
  simp only [decide_eq_true_eq] at hack hpkt hout hkills
  have hmoved := s.add_payloadLen_eq_iff c.core.stx.ack
  constructor
  · intro hag
    by_contra hbad
    obtain ⟨hnack, hnrst, hrest⟩ : s.hdr.thFlags ≠ thAck ∧ s.hdr.thFlags ≠ thRst ∧
        ¬(s.payload = [] ∧ s.hdr.thFlags &&& thRst = 0) := by
      simpa only [Segment.WellFlagged, not_or] using hbad
    rw [if_neg hnack] at hack
    rw [if_neg hnrst] at hkills
    by_cases hnil : s.payload = []
    · -- a reset among other flags is passed over
      have hreset := hag.reset fun he => hrest ⟨hnil, he⟩
      exact absurd hreset.2 (by omega)
    · -- a payload is forwarded and not counted
      rw [if_pos ⟨hnil, hnrst⟩, ← hin.agree] at hpkt
      exact hnil (hmoved.mp (hpkt.symm.trans (hag.agree.symm.trans hack)))
  · rintro (hflags | hflags | ⟨hnil, hbit⟩)
    · have hbit : s.hdr.thFlags &&& thRst = 0 := by rw [hflags]; rfl
      have hnrst : s.hdr.thFlags ≠ thRst := by rw [hflags]; decide
      rw [if_pos hflags] at hack
      by_cases hnil : s.payload = []
      · rw [if_neg fun hf => hf.1 hnil] at hpkt hout
        exact ⟨hack.trans ((hmoved.mpr hnil).trans (hin.agree.trans hpkt.symm)),
          fun hne => absurd hnil hne, fun hne => absurd hbit hne⟩
      · rw [if_pos ⟨hnil, hnrst⟩] at hpkt hout
        exact ⟨by rw [hack, hpkt, hin.agree], fun _ => iff_of_true hout hack,
          fun hne => absurd hbit hne⟩
    · have hnack : s.hdr.thFlags ≠ thAck := by rw [hflags]; decide
      rw [if_neg fun hf => hf.2 hflags] at hpkt hout
      rw [if_neg hnack] at hack
      rw [if_pos hflags] at hkills
      refine ⟨by rw [hack, hpkt, hin.agree], fun hne => iff_of_false ?_ ?_,
        fun _ => ⟨hout, by omega⟩⟩
      · rw [hout]
        simp
      · rw [hack]
        exact fun he => hne (hmoved.mp he.symm)
    · rw [if_neg fun hf => hf.1 hnil] at hpkt hout
      have hsame : c'.core.stx.ack = c.core.stx.ack := by
        rw [hack, hmoved.mpr hnil, ite_self]
      exact ⟨by rw [hsame, hpkt, hin.agree], fun hne => absurd hnil hne,
        fun hne => absurd hbit hne⟩

/-- **For which segments the bytes counted and the bytes forwarded agree.** A segment that
is next in line in both halves is handled to the end if the call is alone and has the
client's socket, and whenever the call returns, with everything accepted, the segment has
been handled well exactly if it is well flagged. -/
theorem segment_agrees_iff (hin : c.NextInLine s) :
    (c.pfdFd = true → c.lockClientSend = none →
      ∃ c', tcpMachine.Reaches (OfCall c.segs.length s) (c.enter s) c' ∧
        c'.handler c.segs.length = .returned) ∧
    ∀ c', tcpMachine.Reaches (OfCall c.segs.length s) (c.enter s) c' →
      c'.handler c.segs.length = .returned → (SegmentAgrees c s c' ↔ s.WellFlagged) :=
  ⟨hin.exists_returned, fun _ hr hret =>
    ((hin.progress hr).did_of_returned hret).segmentAgrees_iff hin⟩

end Agree

/-- The same segment with other flags, and everything else as it is. -/
def Segment.withFlags (s : Segment) (flags : BitVec 8) : Segment :=
  { s with hdr := { s.hdr with thFlags := flags } }

theorem nextInLine_established (payload : List UInt8) (flags : BitVec 8) :
    (established 0 0).NextInLine ((segmentAt 0 0 payload).withFlags flags) where
  connState := rfl
  agree := rfl
  thSeq := rfl

/-- One byte with an acknowledgement, on a fresh connection. It is forwarded, and it is
counted. -/
theorem segment_agrees_iff_ack :
    ∃ c', c'.clientOut = [.payload [7]] ∧
      SegmentAgrees (established 0 0) ((segmentAt 0 0 [7]).withFlags thAck) c' := by
  obtain ⟨c', hr, hp⟩ := tcpMachine.exists_reaches_of_runOk
    (OfCall 0 ((segmentAt 0 0 [7]).withFlags thAck))
    ((established 0 0).enter ((segmentAt 0 0 [7]).withFlags thAck))
    ([.lockStx 0 false, .lockClientSend 0, .fwdTest 0, .send 0 (.accepted 1)].map Label.input)
    (fun c' => c'.handler 0 = .returned ∧ c'.clientOut = [.payload [7]]) (by decide)
  obtain ⟨hret, hout⟩ := of_decide_eq_true hp
  exact ⟨c', hout, ((segment_agrees_iff (nextInLine_established [7] thAck)).2 c' hr hret).mpr
    (Or.inl rfl)⟩

/-- **A byte that is forwarded and not counted**: the segment has `TH_PUSH` set besides
`TH_ACK`. -/
theorem push_not_counted :
    ∃ c', (established 0 0).NextInLine ((segmentAt 0 0 [7]).withFlags 0x18) ∧
      tcpMachine.Reaches (OfCall 0 ((segmentAt 0 0 [7]).withFlags 0x18))
        ((established 0 0).enter ((segmentAt 0 0 [7]).withFlags 0x18)) c' ∧
      c'.handler 0 = .returned ∧
      ¬SegmentAgrees (established 0 0) ((segmentAt 0 0 [7]).withFlags 0x18) c' := by
  obtain ⟨c', hr, hp⟩ := tcpMachine.exists_reaches_of_runOk
    (OfCall 0 ((segmentAt 0 0 [7]).withFlags 0x18))
    ((established 0 0).enter ((segmentAt 0 0 [7]).withFlags 0x18))
    ([.lockStx 0 false, .lockClientSend 0, .fwdTest 0, .send 0 (.accepted 1)].map Label.input)
    (fun c' => c'.handler 0 = .returned ∧ c'.core.stx.ack ≠ c'.core.stx.pktForwarded) (by decide)
  obtain ⟨hret, hne⟩ := of_decide_eq_true hp
  exact ⟨c', nextInLine_established [7] 0x18, hr, hret, fun h => hne h.agree⟩

end Usbmuxd
