import Usbmuxd.Tcp.Stream

/-!
# From the device to the client

The second half of `handle_input` forwards payload to the client. Its gate,
`_stx.pktForwarded`, is a position in the stream of the device, and the calls pass
it in order (`Usbmuxd.Tcp.Forwards.inLine`): a call with payload that has returned
lies below the position, the others start at or above it, and the one that holds
`_lockClientSend` starts at it. So what has been written to the client is the
stream up to the position, as long as every `send` takes what it is given.

When one does not, the call asks for the connection to be torn down, and moves the
position all the same. Until the reaper gets to it, the next call finds its turn
come and the connection still `CONN_CONNECTED`, and sends. The rest of a payload is
then missing from the middle of what the client gets
(`Usbmuxd.client_stream_has_gap`), unless the socket refuses everything from then
on (`Usbmuxd.Tcp.NothingAfterLoss`), under which condition the client gets a prefix
of the stream whatever the interleaving (`Usbmuxd.client_stream_intact`).
-/

namespace Usbmuxd

open Interleaving Chunks

namespace Tcp

/-! ### A connection that has been handed over -/

/-- The client's descriptor is installed, and `Client` is out of the way. From here on the
connection alone writes to the client. -/
structure Installed (c : Tcp) : Prop where
  pfdFd : c.pfdFd = true
  cliFd : c.cliFd = false
  wlock : c.wlock = none
  connectPc : c.connectPc = .startLoop ∨ c.connectPc = .returned

/-- A connection in `CONN_CONNECTED` with its client's descriptor installed, before
the first segment of a stream that starts at `S0`. -/
structure HandedOver (S0 : BitVec 32) (c : Tcp) : Prop extends Installed c where
  connState : c.core.connState = .connConnected
  pktForwarded : c.core.stx.pktForwarded = S0
  segs : c.segs = []
  handler : ∀ i, c.handler i = .absent
  clientDied : c.clientDied = false

/-- What the forwarding of payload is about: the calls, the position up to which it has come,
the output, and the lock. A step that keeps these cannot break it. -/
structure KeepsForwarding (c c' : Tcp) : Prop where
  segs : c'.segs = c.segs
  handler : c'.handler = c.handler
  lockClientSend : c'.lockClientSend = c.lockClientSend
  clientOut : c'.clientOut = c.clientOut
  clientDied : c'.clientDied = c.clientDied
  pktForwarded : c'.core.stx.pktForwarded = c.core.stx.pktForwarded
  connState : c'.core.connState = c.core.connState ∨ c'.core.connState = .connDying

variable {c c' : Tcp} {i B : ℕ} {s : Segment} {S0 : BitVec 32} {out₀ : List ClientWrite}
  {pc : HandlerPc} {k : ℕ}

namespace Installed

theorem input_step (h : c.Installed) {l : InputLabel} (hs : c.inputStep l = some c') :
    c'.Installed := by
  obtain ⟨hfd, hcli, hw, -, -, -, hpc, -⟩ := inputStep_keeps hs
  exact ⟨hfd.trans h.pfdFd, hcli.trans h.cliFd, hw.trans h.wlock, hpc.symm ▸ h.connectPc⟩

/-- Once the descriptor has been handed over, only receivers forward payload. All other threads
keep out of it. -/
theorem other_step (h : c.Installed) {l : Label} (hl : ∀ l', l ≠ .input l')
    (hs : c.step l = some c') : c'.Installed ∧ c.KeepsForwarding c' := by
  cases l with
  | input l => exact absurd rfl (hl l)
  | loop l =>
    obtain ⟨core, loop, buf, rcv, rfl, hk⟩ := loopStep_eq hs
    exact ⟨⟨h.pfdFd, h.cliFd, h.wlock, h.connectPc⟩,
      ⟨rfl, rfl, rfl, rfl, rfl, hk.pktForwarded, Or.inl hk.connState⟩⟩
  | connect ok =>
    have hpc := h.connectPc
    cases connectStep_move hs with
    | startLoop =>
      exact ⟨⟨h.pfdFd, h.cliFd, h.wlock, Or.inr rfl⟩, ⟨rfl, rfl, rfl, rfl, rfl, rfl, Or.inl rfl⟩⟩
    | _ heq =>
      rw [heq] at hpc
      exact absurd hpc (by simp)
  | deconstruct =>
    rcases deconstructStep_eq hs with ⟨-, rfl⟩ | ⟨-, -, rfl⟩
    · exact ⟨⟨h.pfdFd, h.cliFd, h.wlock, h.connectPc⟩,
        ⟨rfl, rfl, rfl, rfl, rfl, rfl, Or.inr rfl⟩⟩
    · exact ⟨⟨h.pfdFd, h.cliFd, h.wlock, h.connectPc⟩, ⟨rfl, rfl, rfl, rfl, rfl, rfl, Or.inl rfl⟩⟩
  | notify l =>
    -- the lock is free, and the client has given up its descriptor
    cases notifyStep_move hs with
    | headerFails => exact ⟨h, ⟨rfl, rfl, rfl, rfl, rfl, rfl, Or.inl rfl⟩⟩
    | header _ hfd => exact absurd (hfd.symm.trans h.cliFd) Bool.noConfusion
    | body hlock | bodyFails hlock =>
      exact absurd (h.wlock.symm.trans hlock) (Option.some_ne_none _).symm

end Installed

/-! ### The invariant -/

/-- **Payload is forwarded in order up to position `B`.** Which calls have forwarded theirs and
which have not follows from where they start in the stream. -/
structure Forwards (out₀ : List ClientWrite) (S0 : BitVec 32) (B : ℕ) (c : Tcp) : Prop where
  connState : c.core.connState = .connConnected ∨ c.core.connState = .connDying
  pktForwarded : c.core.stx.pktForwarded = S0 + BitVec.ofNat 32 B
  le_length : B ≤ c.stream.length
  inLine : c.core.connState = .connConnected →
    InLine c.payloads (· ≠ []) (fun i => c.handler i = .returned) B
  data : ∀ i, (c.handler i).InSecondHalf → chunk c.payloads i ≠ []
  holder : ∀ i, (c.handler i).HoldsClientSend → c.lockClientSend = some i
  turn : c.core.connState = .connConnected → ∀ i, (c.handler i).HoldsClientSend → c.startOf i = B
  sending : ∀ i, c.handler i = .sending → c.startOf i = B
  written : ∃ ps : List (List UInt8), c.clientOut = out₀ ++ ps.map .payload ∧
    ps.flatten <+: c.stream.take B ∧ (c.clientDied = false → ps.flatten = c.stream.take B)

namespace Forwards

theorem of_handedOver (h : c.HandedOver S0) : c.Forwards c.clientOut S0 0 where
  connState := Or.inl h.connState
  pktForwarded := h.pktForwarded.trans (BitVec.add_zero S0).symm
  le_length := Nat.zero_le _
  inLine := by
    intro _
    rw [payloads, h.segs]
    exact (InLine.nil _).congr fun i => by simp [h.handler i]
  data := by
    intro i hi
    rw [h.handler i] at hi
    exact hi.elim
  holder := by
    intro i hi
    rw [h.handler i] at hi
    exact hi.elim
  turn := by
    intro _ i hi
    rw [h.handler i] at hi
    exact hi.elim
  sending := by
    intro i hi
    rw [h.handler i] at hi
    cases hi
  written := ⟨[], by simp, by simp, fun _ => by simp⟩

/-- What does not touch the forwarding of payload does not break it. -/
theorem keep (h : c.Forwards out₀ S0 B) (hk : c.KeepsForwarding c') : c'.Forwards out₀ S0 B := by
  have hp : c'.payloads = c.payloads := by rw [payloads, payloads, hk.segs]
  have hconn : c'.core.connState = .connConnected → c.core.connState = .connConnected := fun hc =>
    hk.connState.elim (fun he => he ▸ hc) fun he => absurd (he.symm.trans hc) (by simp)
  refine ⟨?_, hk.pktForwarded.trans h.pktForwarded, ?_, ?_, ?_, ?_, ?_, ?_, ?_⟩
  · rcases hk.connState with he | he
    · exact he.symm ▸ h.connState
    · exact Or.inr he
  · simpa only [stream, hp] using h.le_length
  · intro hc
    simpa only [hp, hk.handler] using h.inLine (hconn hc)
  · simpa only [hp, hk.handler] using h.data
  · simpa only [hk.handler, hk.lockClientSend] using h.holder
  · intro hc
    simpa only [startOf, hp, hk.handler] using h.turn (hconn hc)
  · simpa only [startOf, hp, hk.handler] using h.sending
  · simpa only [stream, hp, hk.clientOut, hk.clientDied] using h.written

/-- One more call. Its segment comes behind all that are there. -/
theorem enter (h : c.Forwards out₀ S0 B) (hst : c.Streamed k S0) :
    (c.enter s).Forwards out₀ S0 B := by
  have habs := (hst.absent c.segs.length).mpr le_rfl
  -- what the new call is not doing, the old ones are doing as before
  have hold : ∀ {P : HandlerPc → Prop}, ¬P .entered → ¬P .absent → ∀ j,
      P ((c.enter s).handler j) → P (c.handler j) ∧ j < c.segs.length := fun {P} hP hP' j hj => by
    rw [enter_handler] at hj
    split at hj
    · exact absurd hj hP
    · exact ⟨hj, hst.lt_length fun he => hP' (he ▸ hj)⟩
  refine ⟨h.connState, h.pktForwarded, ?_, ?_, ?_, ?_, ?_, ?_, ?_⟩
  · rw [stream_enter, List.length_append]
    exact Nat.le_add_right_of_le h.le_length
  · intro hc
    rw [payloads_enter]
    refine ((h.inLine hc).append s.payload).congr ?_
    intro i
    rw [enter_handler]
    split
    · next hi => simp [hi, habs]
    · exact Iff.rfl
  · intro i hi
    obtain ⟨hi, hlt⟩ := hold (P := HandlerPc.InSecondHalf) id id i hi
    rw [chunk_payloads_enter hlt]
    exact h.data i hi
  · intro i hi
    exact h.holder i (hold (P := HandlerPc.HoldsClientSend) id id i hi).1
  · intro hc i hi
    obtain ⟨hi, hlt⟩ := hold (P := HandlerPc.HoldsClientSend) id id i hi
    rw [startOf_enter hlt.le]
    exact h.turn hc i hi
  · intro i hi
    obtain ⟨hi, hlt⟩ := hold (P := (· = .sending)) (by simp) (by simp) i hi
    rw [startOf_enter hlt.le]
    exact h.sending i hi
  · rw [stream_enter, List.take_append_of_le_length h.le_length]
    exact h.written

/-- **A call goes on** without forwarding anything. Only where it is changes, and who has the
lock. -/
theorem move (h : c.Forwards out₀ S0 B) (hm : c.Moves i pc c')
    (hcore : c'.core.connState = c.core.connState ∧
      c'.core.stx.pktForwarded = c.core.stx.pktForwarded)
    (hout : c'.clientOut = c.clientOut ∧ c'.clientDied = c.clientDied)
    (hholder : ∀ j, (c'.handler j).HoldsClientSend → c'.lockClientSend = some j)
    (hret : c.core.connState = .connConnected → pc = .returned → chunk c.payloads i = [])
    (hdata : pc.InSecondHalf → chunk c.payloads i ≠ [])
    (hturn : c.core.connState = .connConnected ∨ pc = .sending → pc.HoldsClientSend →
      c.startOf i = B) : c'.Forwards out₀ S0 B := by
  have hp : c'.payloads = c.payloads := by rw [payloads, payloads, hm.segs]
  obtain ⟨hconn, hpkt⟩ := hcore
  obtain ⟨hout, hdied⟩ := hout
  refine ⟨hconn ▸ h.connState, hpkt ▸ h.pktForwarded, ?_, ?_, ?_, hholder, ?_, ?_, ?_⟩
  · simpa only [stream, hp] using h.le_length
  · intro hc
    rw [hconn] at hc
    rw [hp]
    by_cases hpc : pc = .returned
    · -- a call that returns without a turn has nothing to forward
      have hskip := (h.inLine hc).skip (length_payloads.symm ▸ hm.lt_length)
        (not_not.mpr (hret hc hpc))
      exact hskip.congr fun j => (hm.returned_iff hpc j).symm
    · exact (h.inLine hc).congr fun j => (hm.returned_iff_of_ne hpc j).symm
  · intro j hj
    rw [hp]
    rw [hm.handler_apply] at hj
    split at hj
    · next he => exact he ▸ hdata hj
    · exact h.data j hj
  · intro hc j hj
    rw [startOf, hp]
    rw [hm.handler_apply] at hj
    split at hj
    · next he => exact he ▸ hturn (Or.inl (hconn ▸ hc)) hj
    · exact h.turn (hconn ▸ hc) j hj
  · intro j hj
    rw [startOf, hp]
    rw [hm.handler_apply] at hj
    split at hj
    · next he => exact he ▸ hturn (Or.inr hj) (hj ▸ trivial)
    · exact h.sending j hj
  · simpa only [stream, hp, hout, hdied] using h.written

/-- Going on outside `_lockClientSend`, a call does not change who has the lock. -/
theorem holder_of_not (h : c.Forwards out₀ S0 B) (hm : c.Moves i pc c')
    (hlock : c'.lockClientSend = c.lockClientSend) (hpc : ¬pc.HoldsClientSend) :
    ∀ j, (c'.handler j).HoldsClientSend → c'.lockClientSend = some j := by
  intro j hj
  rw [hm.handler_apply] at hj
  split at hj
  · exact absurd hj hpc
  · exact hlock.trans (h.holder j hj)

/-- **A call forwards its payload**, `n` bytes of which are accepted. If these are not all, the
position moves on all the same, and the rest is lost; so no other call may write then. -/
theorem send (h : c.Forwards out₀ S0 B) (hs : c.segs[i]? = some s)
    (hpc : c.handler i = .sending) {n : ℕ} (hn : n ≤ s.payload.length)
    (hok : c.clientDied = false ∨ n = 0) :
    Forwards out₀ S0 (B + s.payload.length) (c.forwardPayload i s n) := by
  have hi := lt_of_getElem? hs
  have hB : c.startOf i = B := h.sending i hpc
  have hchunk : chunk c.payloads i = s.payload := chunk_payloads hs
  have hm : c.Moves i .returned (c.forwardPayload i s n) :=
    .of_pc hi hpc (by simp) (by simp) ⟨rfl, rfl⟩
  have hlen : i < c.payloads.length := length_payloads.symm ▸ hi
  have hnobody : ∀ j, ¬((c.forwardPayload i s n).handler j).HoldsClientSend := by
    intro j hj
    rw [hm.handler_apply] at hj
    split at hj
    · exact hj
    · next hne =>
      have hlock := (h.holder i (hpc ▸ trivial)).symm.trans (h.holder j hj)
      exact hne (Option.some.inj hlock).symm
  -- what the client has been given goes on where the stream does
  have htake : c.stream.take (B + n) = c.stream.take B ++ s.payload.take n := by
    rw [← hB, ← hchunk]
    exact take_offset_add (hchunk ▸ hn)
  have hsub : c.stream.take B <+: c.stream.take (B + s.payload.length) :=
    List.take_prefix_take_left (Nat.le_add_right _ _)
  obtain ⟨hconn, hpkt, -⟩ := c.forwardPayload_core (i := i) (s := s) n
  refine ⟨hconn ▸ h.connState, ?_, ?_, ?_, ?_,
    fun j hj => absurd hj (hnobody j), fun _ j hj => absurd hj (hnobody j),
    fun j hj => absurd (hj ▸ trivial) (hnobody j), ?_⟩
  · rw [hpkt, h.pktForwarded, Segment.payloadLen, BitVec.ofNat_add, BitVec.add_assoc]
  · rw [← hB, startOf, ← hchunk, ← offset_succ]
    exact (offset_mono hlen).trans (offset_length _).le
  · intro hc
    have hline := h.inLine (hconn ▸ hc)
    rw [← hB] at hline
    have hpass := hline.pass hlen fun j _ _ hj _ => hj
    rw [hchunk] at hpass
    rw [← hB]
    exact hpass.congr fun j => (hm.returned_iff rfl j).symm
  · intro j hj
    rw [hm.handler_apply] at hj
    split at hj
    · exact hj.elim
    · exact h.data j hj
  · obtain ⟨ps, hout, hpre, hall⟩ := h.written
    refine ⟨ps ++ [s.payload.take n], ?_, ?_, ?_⟩
    · -- one more piece has been written
      change c.clientOut ++ _ = _
      rw [hout, List.map_append, List.append_assoc]
      rfl
    · rw [List.flatten_append, List.flatten_singleton]
      rcases hok with hdied | rfl
      · rw [hall hdied, ← htake]
        exact List.take_prefix_take_left (Nat.add_le_add_left hn B)
      · rw [List.take_zero, List.append_nil]
        exact hpre.trans hsub
    · intro hd
      change (c.clientDied || decide (n ≠ s.payload.length)) = false at hd
      rw [Bool.or_eq_false_iff, decide_eq_false_iff_not, not_not] at hd
      obtain ⟨hdied, rfl⟩ := hd
      rw [List.flatten_append, List.flatten_singleton, hall hdied]
      exact htake.symm

end Forwards

/-! ### One step -/

/-- **Once a `send` to the client has failed or come up short, no later one accepts a
byte.** -/
def NothingAfterLoss (c : Tcp) : Label → Prop
  | .input (.send i r) =>
      c.clientDied = false ∨ ∀ s ∈ c.segs[i]?, r.count s.payload = 0
  | _ => True

instance (c : Tcp) (l : Label) : Decidable (NothingAfterLoss c l) :=
  match l with
  | .input (.send _ _) => inferInstanceAs (Decidable (_ ∨ _))
  | .input (.call _) | .input (.lockStx _ _) | .input (.ackWake _) | .input (.lockClientSend _)
  | .input (.fwdWake _) | .input (.fwdTest _) | .loop _ | .connect _ | .deconstruct
  | .notify _ => isTrue trivial

namespace Forwards

/-- The end of the first half: a call without payload returns, the others go on to
forward theirs. -/
theorem ackGate (h : c.Forwards out₀ S0 B) (hs : c.segs[i]? = some s)
    (hpc : c.handler i = .entered ∨ c.handler i = .ackAwake) (members : Bool) :
    (c.ackGate i s members).Forwards out₀ S0 B := by
  have hi := lt_of_getElem? hs
  have hne : c.handler i ≠ .absent ∧ c.handler i ≠ .returned := by
    rcases hpc with hpc | hpc <;> simp [hpc]
  rcases ackGate_cases c i s members with ⟨-, heq⟩ | ⟨-, heq⟩
  · have hm : c.Moves i (.ackAsleep c.core.canSendEvent.next) (c.ackGate i s members) :=
      heq ▸ ⟨hi, hne.1, hne.2, by simp, rfl, rfl⟩
    rw [heq] at hm ⊢
    exact h.move hm ⟨rfl, rfl⟩ ⟨rfl, rfl⟩ (h.holder_of_not hm rfl id) (fun _ he => by cases he)
      (fun he => he.elim) (fun _ he => he.elim)
  · have hm : c.Moves i (secondHalf s) (c.ackGate i s members) :=
      heq ▸ ⟨hi, hne.1, hne.2, secondHalf_ne_absent s, rfl, rfl⟩
    rw [heq] at hm ⊢
    rcases secondHalf_eq s with ⟨hp, hsec⟩ | ⟨hp, hsec⟩
    · rw [hsec] at hm ⊢
      exact h.move hm ⟨by simp, by simp⟩ ⟨rfl, rfl⟩ (h.holder_of_not hm rfl id)
        (fun _ _ => (chunk_payloads hs).trans hp) (fun he => he.elim) (fun _ he => he.elim)
    · rw [hsec] at hm ⊢
      exact h.move hm ⟨by simp, by simp⟩ ⟨rfl, rfl⟩ (h.holder_of_not hm rfl id)
        (fun _ he => by cases he) (fun _ => chunk_payloads hs ▸ hp) (fun _ he => he.elim)

/-- A call that finds the connection torn down returns, without its payload having been
forwarded. -/
theorem giveUp (h : c.Forwards out₀ S0 B) (hm : c.Moves i .returned c')
    (hconn : c.core.connState ≠ .connConnected) (hcore : c'.core = c.core)
    (hout : c'.clientOut = c.clientOut ∧ c'.clientDied = c.clientDied)
    (hlock : c'.lockClientSend = c.lockClientSend ∨ (c.handler i).HoldsClientSend) :
    c'.Forwards out₀ S0 B := by
  refine h.move hm ⟨hcore ▸ rfl, hcore ▸ rfl⟩ hout ?_ (fun hc => absurd hc hconn)
    (fun he => he.elim) (fun _ he => he.elim)
  intro j hj
  rcases hlock with hlock | hholds
  · exact h.holder_of_not hm hlock id j hj
  · -- nobody else holds the lock
    rw [hm.handler_apply] at hj
    split at hj
    · exact hj.elim
    · next hne =>
      exact absurd (Option.some.inj ((h.holder i hholds).symm.trans (h.holder j hj))).symm hne

/-- A step of a receiver that is not a `send`. It may take the lock or give it back, or go to
sleep. -/
theorem quiet_step (h : c.Forwards out₀ S0 B) (hst : c.Streamed k S0)
    (hfirst : ∀ i < k, c.handler i = .returned) {l : InputLabel} (hl : ∀ i r, l ≠ .send i r)
    (hs : c.inputStep l = some c') : c'.Forwards out₀ S0 B := by
  have hge : ∀ {i}, c.handler i ≠ .returned → k ≤ i := fun {i} hi =>
    Nat.le_of_not_lt fun hlt => hi (hfirst i hlt)
  cases l with
  | call s => exact inputStep_call hs ▸ h.enter hst
  | lockStx i members =>
    obtain ⟨s, hi, ⟨hpc, rfl⟩ | ⟨hpc, rfl⟩⟩ := inputStep_lockStx hs
    · rcases h.connState with hc | hc
      · -- the first `k` segments belong to the handshake; the others are plain
        rw [firstHalf_of_connected hc (hst.header i s (hge (by simp [hpc])) hi).1]
        exact h.ackGate hi (Or.inl hpc) members
      · rw [firstHalf_of_dying hc]
        exact h.giveUp (hst.moves hpc (by simp) (by simp) ⟨rfl, rfl⟩) (by simp [hc]) rfl ⟨rfl, rfl⟩
          (Or.inl rfl)
    · exact h.ackGate hi (Or.inr hpc) members
  | ackWake i =>
    obtain ⟨w, hpc, -, ⟨hc, rfl⟩ | ⟨-, rfl⟩⟩ := inputStep_ackWake hs
    · exact h.giveUp (hst.moves hpc (by simp) (by simp) ⟨rfl, rfl⟩) hc rfl ⟨rfl, rfl⟩ (Or.inl rfl)
    · have hm : c.Moves i .ackAwake (c.moveHandler i .ackAwake) :=
        hst.moves hpc (by simp) (by simp) ⟨rfl, rfl⟩
      exact h.move hm ⟨rfl, rfl⟩ ⟨rfl, rfl⟩ (h.holder_of_not hm rfl id)
        (fun _ he => by cases he) (fun he => he.elim) (fun _ he => he.elim)
  | lockClientSend i =>
    obtain ⟨s, hi, hpc, hlock, rfl⟩ := inputStep_lockClientSend hs
    have hlt := lt_of_getElem? hi
    have hne : c.handler i ≠ .absent ∧ c.handler i ≠ .returned ∧ (c.handler i).InSecondHalf := by
      rcases hpc with hpc | hpc <;> simp [hpc, HandlerPc.InSecondHalf]
    have hdata := h.data i hne.2.2
    rcases forwardGate_cases c i s with ⟨-, heq⟩ | ⟨hturn, heq⟩
    · have hm : c.Moves i (.fwdAsleep c.canClientSendEvent.next) (c.forwardGate i s) :=
        heq ▸ ⟨hlt, hne.1, hne.2.1, by simp, rfl, rfl⟩
      rw [heq] at hm ⊢
      exact h.move hm ⟨rfl, rfl⟩ ⟨rfl, rfl⟩ (h.holder_of_not hm rfl id) (fun _ he => by cases he)
        (fun _ => hdata) (fun _ he => he.elim)
    · have hm : c.Moves i .fwdTurn (c.forwardGate i s) :=
        heq ▸ ⟨hlt, hne.1, hne.2.1, by simp, rfl, rfl⟩
      rw [heq] at hm ⊢
      refine h.move hm ⟨rfl, rfl⟩ ⟨rfl, rfl⟩ (fun j hj => ?_) (fun _ he => by cases he)
        (fun _ => hdata) (fun hc _ => ?_)
      · rw [hm.handler_apply] at hj
        split at hj
        · next hji => exact congrArg some hji.symm
        · have hcon := (h.holder j hj).symm.trans hlock
          cases hcon
      · -- the gate lets the segment through whose payload is next
        have hconn := hc.resolve_right (by simp)
        exact ((hst.gate_iff (h.inLine hconn) (hge hne.2.1) hi hne.2.1 hdata (fun d => not_not.mp)
          fun _ => id).mp (h.pktForwarded.symm.trans hturn)).symm
  | fwdWake i =>
    obtain ⟨w, hpc, -, ⟨hc, rfl⟩ | ⟨-, rfl⟩⟩ := inputStep_fwdWake hs
    · exact h.giveUp (hst.moves hpc (by simp) (by simp) ⟨rfl, rfl⟩) hc rfl ⟨rfl, rfl⟩ (Or.inl rfl)
    · have hm : c.Moves i .fwdAwake (c.moveHandler i .fwdAwake) :=
        hst.moves hpc (by simp) (by simp) ⟨rfl, rfl⟩
      exact h.move hm ⟨rfl, rfl⟩ ⟨rfl, rfl⟩ (h.holder_of_not hm rfl id)
        (fun _ he => by cases he) (fun _ => h.data i (hpc ▸ trivial)) (fun _ he => he.elim)
  | fwdTest i =>
    obtain ⟨hpc, ⟨hc, rfl⟩ | ⟨hc, rfl⟩⟩ := inputStep_fwdTest hs
    · exact h.giveUp (hst.moves hpc (by simp) (by simp) ⟨rfl, rfl⟩) hc rfl ⟨rfl, rfl⟩
        (Or.inr (hpc ▸ trivial))
    · have hm : c.Moves i .sending (c.moveHandler i .sending) :=
        hst.moves hpc (by simp) (by simp) ⟨rfl, rfl⟩
      refine h.move hm ⟨rfl, rfl⟩ ⟨rfl, rfl⟩ ?_ (fun _ he => by cases he)
        (fun _ => h.data i (hpc ▸ trivial)) fun _ _ => h.turn hc i (hpc ▸ trivial)
      intro j hj
      rw [hm.handler_apply] at hj
      split at hj
      · next hji => exact hji ▸ h.holder i (hpc ▸ trivial)
      · exact h.holder j hj
  | send i r => exact absurd rfl (hl i r)

/-- A step of a receiver, after which the position is where it was, or further on. -/
theorem input_step (h : c.Forwards out₀ S0 B) (hst : c.Streamed k S0)
    (hfirst : ∀ i < k, c.handler i = .returned) {l : InputLabel}
    (hok : NothingAfterLoss c (.input l)) (hs : c.inputStep l = some c') :
    ∃ B', c'.Forwards out₀ S0 B' := by
  by_cases hl : ∃ i r, l = .send i r
  · obtain ⟨i, r, rfl⟩ := hl
    obtain ⟨s, hi, hpc, rfl⟩ := inputStep_send hs
    refine ⟨_, h.send hi hpc (acceptedBy_le s r) ?_⟩
    rcases hok with hdied | hnone
    · exact Or.inl hdied
    · exact Or.inr (acceptedBy_eq_zero (hnone s hi))
  · exact ⟨B, h.quiet_step hst hfirst (fun i r he => hl ⟨i, r, he⟩) hs⟩

end Forwards

/-- The invariant of a handed-over connection: the segments make up a stream, and payload is
forwarded in the order of this stream. -/
structure Forwarding (out₀ : List ClientWrite) (S0 : BitVec 32) (c : Tcp) : Prop where
  installed : c.Installed
  streamed : c.Streamed 0 S0
  forwards : ∃ B, c.Forwards out₀ S0 B

/-- **One step keeps the invariant**, whichever thread makes it, under the two conditions on the
order of the calls and on what follows a loss. -/
theorem Forwarding.step (h : c.Forwarding out₀ S0) {l : Label}
    (hok : InStream S0 c l ∧ NothingAfterLoss c l) (hs : c.step l = some c') :
    c'.Forwarding out₀ S0 := by
  obtain ⟨B, hB⟩ := h.forwards
  have hst := h.streamed.step_inStream hok.1 hs
  by_cases hl : ∃ l', l = .input l'
  · obtain ⟨l', rfl⟩ := hl
    have hforwards := hB.input_step h.streamed (fun i hi => absurd hi (Nat.not_lt_zero i)) hok.2 hs
    exact ⟨h.installed.input_step hs, hst, hforwards⟩
  · obtain ⟨hinst, hk⟩ := h.installed.other_step (fun l' he => hl ⟨l', he⟩) hs
    exact ⟨hinst, hst, B, hB.keep hk⟩

end Tcp

/-! ### What the client gets -/

open Tcp

/-- **The client's stream is intact**: what has been written to its socket since
`c₀` is payload of the device, and it is a prefix of the stream the segments
carry. -/
def ClientStreamIntact (c₀ c : Tcp) : Prop :=
  ∃ ps : List (List UInt8), c.clientOut = c₀.clientOut ++ ps.map .payload ∧
    ps.flatten <+: c.stream

/-- **The client gets a prefix of the stream of the device**, in every state of every
run on a handed-over connection in which nothing is accepted after a loss. -/
theorem client_stream_intact {S0 : BitVec 32} {c₀ c : Tcp} (h₀ : c₀.HandedOver S0)
    (h : tcpMachine.Reaches (fun c l => c.InStream S0 l ∧ c.NothingAfterLoss l) c₀ c) :
    ClientStreamIntact c₀ c := by
  obtain ⟨-, -, B, hB⟩ := h.invariant (I := Forwarding c₀.clientOut S0)
    ⟨h₀.toInstalled, .of_no_calls h₀.segs h₀.handler, 0, .of_handedOver h₀⟩
    fun _ _ _ hi hok hs => hi.step hok hs
  obtain ⟨ps, hout, hpre, -⟩ := hB.written
  exact ⟨ps, hout, hpre.trans (List.take_prefix B _)⟩

theorem Tcp.established_handedOver (seq S0 : BitVec 32) : (established seq S0).HandedOver S0 where
  pfdFd := rfl
  cliFd := rfl
  wlock := rfl
  connectPc := Or.inr rfl
  connState := rfl
  pktForwarded := rfl
  segs := rfl
  handler := fun _ => rfl
  clientDied := rfl

/-- Two segments across the wrap of the sequence numbers: the second overtakes the
first at both gates, and its `send` comes up short. -/
theorem client_stream_intact_overtaking :
    ∃ c, c.clientOut = [.payload [1], .payload [2]] ∧ c.stream = [1, 2, 3] ∧
      ClientStreamIntact (established 0 0xffffffff) c := by
  obtain ⟨c, hr, hp⟩ := tcpMachine.exists_reaches_of_runOk
    (fun c l => c.InStream 0xffffffff l ∧ c.NothingAfterLoss l) (established 0 0xffffffff)
    ([.call (segmentAt 0xffffffff 0 [1]), .call (segmentAt 0xffffffff 1 [2, 3]),
      .lockStx 1 false, .lockStx 0 false, .lockClientSend 0, .fwdTest 0, .ackWake 1,
      .lockStx 1 false, .send 0 (.accepted 1), .lockClientSend 1, .fwdTest 1,
      .send 1 (.accepted 1)].map Label.input)
    (fun c => c.clientOut = [.payload [1], .payload [2]] ∧ c.stream = [1, 2, 3]) (by decide)
  obtain ⟨hout, hstream⟩ := of_decide_eq_true hp
  exact ⟨c, hout, hstream, client_stream_intact (established_handedOver _ _) hr⟩

/-- **The client's stream has a gap**: the first `send` fails, the connection is still
`CONN_CONNECTED` when the second call finds its turn come, and the second `send`
succeeds. -/
theorem client_stream_has_gap :
    ∃ c, tcpMachine.Reaches (fun c l => c.InStream 0 l) (established 0 0) c ∧
      ¬ClientStreamIntact (established 0 0) c := by
  obtain ⟨c, hr, hp⟩ := tcpMachine.exists_reaches_of_runOk
    (fun c l => c.InStream 0 l) (established 0 0)
    ([.call (segmentAt 0 0 [1]), .call (segmentAt 0 1 [2]), .lockStx 0 false,
      .lockStx 1 false, .lockClientSend 0, .fwdTest 0, .send 0 .failed, .lockClientSend 1,
      .fwdTest 1, .send 1 (.accepted 1)].map Label.input)
    (fun c => c.clientOut = [.payload [], .payload [2]] ∧ c.stream = [1, 2]) (by decide)
  obtain ⟨hout, hstream⟩ := of_decide_eq_true hp
  refine ⟨c, hr, ?_⟩
  rintro ⟨ps, hps, hpre⟩
  have hinj : Function.Injective ClientWrite.payload := fun _ _ h => ClientWrite.payload.inj h
  obtain rfl : ps = [[], [2]] := hinj.list_map (hps.symm.trans hout)
  rw [hstream] at hpre
  exact absurd hpre (by decide)

end Usbmuxd
