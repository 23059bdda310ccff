import Usbmuxd.Tcp.Stream

/-!
# Teardown wakes everyone

`TCP::deconstruct` puts the connection into `CONN_DYING` and signals both events, so
that whoever sleeps on the connection wakes up, looks at the state and leaves. It is
called once, so a thread that goes to sleep after its signals sleeps for good.

The three wait loops look at the state when they wake up. What lies between that
look and the next `getNextEvent` is not covered by it:

* a receiver that woke up while the connection was alive takes `_lockStx` again and,
  if its segment is still not next, waits again;
* `send_data` does not look at the state before it waits for the first time;
* nor does a receiver before it waits for its turn to forward.

If no thread does any of this after the signals (`Usbmuxd.Tcp.NoLateWait`), then the
teardown wakes everyone (`Usbmuxd.teardown_wakes_everyone`); the first of the three is
enough to hang a receiver (`Usbmuxd.teardown_leaves_receiver_asleep`).
-/

namespace Usbmuxd

open Interleaving

namespace Tcp

/-! ### The invariant -/

/-- A connection on which nobody sleeps and which is not being torn down. -/
structure Undisturbed (c : Tcp) : Prop where
  teardown : c.teardown = .off
  handler : ∀ i, c.handler i = .absent
  loop : ∀ call pc, c.loop ≠ .sending call pc

/-- **Whoever sleeps has a ticket**, and once the signals of the teardown have been
given, the tickets have been called. -/
structure Tickets (c : Tcp) : Prop where
  dying : c.teardown ≠ .off → c.core.connState = .connDying
  receiver : ∀ i w, c.handler i = .ackAsleep w → c.core.canSendEvent.Ticket (c.teardown ≠ .off) w
  sender : ∀ call w, c.loop = .sending call (.asleep w) →
    c.core.canSendEvent.Ticket (c.teardown ≠ .off) w
  forwarder : ∀ i w, c.handler i = .fwdAsleep w →
    c.canClientSendEvent.Ticket (c.teardown = .done) w

variable {c c' : Tcp} {i : ℕ} {s : Segment} {members : Bool} {pc : HandlerPc}

namespace Tickets

theorem of_undisturbed (h : c.Undisturbed) : c.Tickets where
  dying := fun hne => absurd h.teardown hne
  receiver := by
    intro i w hi
    rw [h.handler i] at hi
    cases hi
  sender := fun call w hi => absurd hi (h.loop call _)
  forwarder := by
    intro i w hi
    rw [h.handler i] at hi
    cases hi

/-- **A receiver goes on.** If it goes to sleep, it takes the next ticket, and the
signal in question has not been the last. -/
theorem move (h : c.Tickets) (hk : c.KeepsOthers c')
    (hh : c'.handler = (c.moveHandler i pc).handler)
    (hdying : c.teardown ≠ .off → c'.core.connState = c.core.connState)
    (hev : c'.core.canSendEvent = c.core.canSendEvent ∨
      c'.core.canSendEvent = c.core.canSendEvent.advance)
    (hcev : c'.canClientSendEvent = c.canClientSendEvent ∨
      c'.canClientSendEvent = c.canClientSendEvent.advance)
    (hack : ∀ w, pc = .ackAsleep w → c'.core.canSendEvent.Ticket (c.teardown ≠ .off) w)
    (hfwd : ∀ w, pc = .fwdAsleep w → c'.canClientSendEvent.Ticket (c.teardown = .done) w) :
    c'.Tickets := by
  -- a ticket is good for every later state of its event
  have hold : ∀ {due w}, c.core.canSendEvent.Ticket due w → c'.core.canSendEvent.Ticket due w := by
    intro due w hw
    rcases hev with he | he
    · exact he ▸ hw
    · exact he ▸ hw.advance
  refine ⟨?_, ?_, ?_, ?_⟩
  · intro hne
    rw [hk.teardown] at hne
    exact (hdying hne).trans (h.dying hne)
  · intro j w hj
    rw [hk.teardown]
    rw [hh, moveHandler_handler] at hj
    split at hj
    · exact hack w hj
    · exact hold (h.receiver j w hj)
  · intro call w hj
    rw [hk.teardown]
    rw [hk.loop] at hj
    exact hold (h.sender call w hj)
  · intro j w hj
    rw [hk.teardown]
    rw [hh, moveHandler_handler] at hj
    split at hj
    · exact hfwd w hj
    · rcases hcev with he | he
      · exact he ▸ h.forwarder j w hj
      · exact he ▸ (h.forwarder j w hj).advance

/-- A receiver goes on awake, and signals nobody. Then no ticket is lost, as none is added. -/
theorem moveAwake (h : c.Tickets) (hk : c.KeepsOthers c')
    (hh : c'.handler = (c.moveHandler i pc).handler) (hpc : pc.Awake)
    (hdying : c.teardown ≠ .off → c'.core.connState = c.core.connState)
    (hev : c'.core.canSendEvent = c.core.canSendEvent)
    (hcev : c'.canClientSendEvent = c.canClientSendEvent) : c'.Tickets :=
  h.move hk hh hdying (Or.inl hev) (Or.inl hcev) (fun _ hw => by subst hw; exact hpc.elim)
    fun _ hw => by subst hw; exact hpc.elim

theorem ackGate (h : c.Tickets)
    (hok : c.teardown = .off ∨ c.core.stx.ack = s.hdr.thSeq) : (c.ackGate i s members).Tickets := by
  have hk := ackGate_keeps c i s members
  rcases ackGate_cases c i s members with ⟨hne, heq⟩ | ⟨-, heq⟩
  · have hoff := hok.resolve_right hne
    rw [heq] at hk ⊢
    refine h.move hk rfl (fun _ => rfl) (Or.inl rfl) (Or.inl rfl) ?_ fun w hw => by cases hw
    intro w hw
    obtain rfl := HandlerPc.ackAsleep.inj hw
    exact EventCount.ticket_next (not_not.mpr hoff)
  · have hsec := secondHalf_awake s
    rw [heq] at hk ⊢
    refine h.move hk rfl (fun _ => by simp) (Or.inr (by simp)) (Or.inl rfl) (fun w hw => ?_)
      fun w hw => ?_
    · rw [hw] at hsec
      exact hsec.elim
    · rw [hw] at hsec
      exact hsec.elim

theorem firstHalf (h : c.Tickets) : (c.firstHalf i s members).Tickets := by
  have hk := firstHalf_keeps c i s members
  -- a connection that is not in `CONN_DYING` is not being torn down
  have hoff : c.core.connState ≠ .connDying → c.teardown = .off := fun hne =>
    not_not.mp fun hcon => hne (h.dying hcon)
  rcases firstHalf_cases c i s members with
    ⟨hc, -, heq⟩ | ⟨core, pc, heq, hpc, -, hev, hconn⟩
  · rw [heq]
    exact h.ackGate (Or.inl (hoff (by simp [hc])))
  · rw [heq] at hk ⊢
    exact h.moveAwake hk rfl hpc
      (fun hne => hconn.resolve_right fun hc => hne (hoff (by simp [hc]))) hev rfl

end Tickets

/-! ### One step -/

/-- The client loop is before the locked section of the slow path of `send_data`. -/
def LoopPc.inSlowPath : LoopPc → Bool
  | .sending _ .slow => true
  | _ => false

/-- **Nobody starts a wait on a connection that has been torn down**: after the
signal of `_canSendEvent`, a receiver that was awake finds its segment next, and
`send_data` finds room in the window; after the signal of `_canClientSendEvent`, a
receiver finds its turn to forward come. -/
def NoLateWait (c : Tcp) : Label → Prop
  | .input (.lockStx i _) => c.teardown = .off ∨ c.handler i ≠ .ackAwake ∨
      ∀ s ∈ c.segs[i]?, c.core.stx.ack = s.hdr.thSeq
  | .input (.lockClientSend i) => c.teardown ≠ .done ∨
      ∀ s ∈ c.segs[i]?, c.core.stx.pktForwarded = s.hdr.thSeq
  | .loop .sendData => c.teardown = .off ∨ c.loop.inSlowPath = false ∨ 0 < c.rembytes
  | _ => True

instance (c : Tcp) (l : Label) : Decidable (NoLateWait c l) :=
  match l with
  | .input (.lockStx _ _) | .input (.lockClientSend _) | .loop .sendData =>
      inferInstanceAs (Decidable (_ ∨ _))
  | .input (.call _) | .input (.ackWake _) | .input (.fwdWake _) | .input (.fwdTest _)
  | .input (.send _ _) | .loop .loopEvent | .loop (.poll _) | .loop (.recv _)
  | .loop .sendWake | .connect _ | .deconstruct | .notify _ => isTrue trivial

namespace Tickets

/-- A step of a receiver, which may go to sleep only before the teardown, or has to be woken by
it. -/
theorem input_step (h : c.Tickets) {l : InputLabel} (hok : NoLateWait c (.input l))
    (hs : c.inputStep l = some c') : c'.Tickets := by
  have hk := inputStep_keeps hs
  cases l with
  | call s =>
    obtain rfl := inputStep_call hs
    exact h.moveAwake hk rfl trivial (fun _ => rfl) rfl rfl
  | lockStx i members =>
    obtain ⟨s, hi, ⟨hpc, rfl⟩ | ⟨hpc, rfl⟩⟩ := inputStep_lockStx hs
    · exact h.firstHalf
    · refine h.ackGate (hok.imp_right ?_)
      intro hor
      exact hor.resolve_left (not_not.mpr hpc) s hi
  | ackWake i =>
    obtain ⟨w, -, -, ⟨-, rfl⟩ | ⟨-, rfl⟩⟩ := inputStep_ackWake hs
    · -- a call that is woken up is awake, whether it stays or leaves
      exact h.moveAwake hk rfl trivial (fun _ => rfl) rfl rfl
    · exact h.moveAwake hk rfl trivial (fun _ => rfl) rfl rfl
  | lockClientSend i =>
    obtain ⟨s, hi, -, -, rfl⟩ := inputStep_lockClientSend hs
    rcases forwardGate_cases c i s with ⟨hne, heq⟩ | ⟨-, heq⟩
    · -- it goes to sleep, which is not too late for the last signal
      have hnot : c.teardown ≠ .done := hok.resolve_right fun hall => hne (hall s hi)
      rw [heq] at hk ⊢
      refine h.move hk rfl (fun _ => rfl) (Or.inl rfl) (Or.inl rfl) (fun w hw => by cases hw)
        fun w hw => ?_
      obtain rfl := HandlerPc.fwdAsleep.inj hw
      exact EventCount.ticket_next hnot
    · rw [heq] at hk ⊢
      exact h.moveAwake hk rfl trivial (fun _ => rfl) rfl rfl
  | fwdWake i =>
    obtain ⟨w, -, -, ⟨-, rfl⟩ | ⟨-, rfl⟩⟩ := inputStep_fwdWake hs
    · exact h.moveAwake hk rfl trivial (fun _ => rfl) rfl rfl
    · exact h.moveAwake hk rfl trivial (fun _ => rfl) rfl rfl
  | fwdTest i =>
    obtain ⟨-, ⟨-, rfl⟩ | ⟨-, rfl⟩⟩ := inputStep_fwdTest hs
    · exact h.moveAwake hk rfl trivial (fun _ => rfl) rfl rfl
    · exact h.moveAwake hk rfl trivial (fun _ => rfl) rfl rfl
  | send i r =>
    obtain ⟨s, -, -, rfl⟩ := inputStep_send hs
    obtain ⟨hconn, -, -, hev, -⟩ := c.forwardPayload_core (i := i) (s := s) (c.acceptedBy s r)
    exact h.move hk rfl (fun _ => hconn) (Or.inl hev) (Or.inr rfl) (fun w hw => by cases hw)
      fun w hw => by cases hw

/-- Steps that are not a receiver's and leave the events alone keep all tickets as they are. -/
theorem keep (h : c.Tickets) (hh : c'.handler = c.handler) (htd : c'.teardown = c.teardown)
    (hcore : c.core.KeepsGates c'.core) (hcev : c'.canClientSendEvent = c.canClientSendEvent)
    (hsend : ∀ call w, c'.loop = .sending call (.asleep w) →
      c.core.canSendEvent.Ticket (c.teardown ≠ .off) w) : c'.Tickets := by
  refine ⟨?_, ?_, ?_, ?_⟩
  · rw [htd, hcore.connState]
    exact h.dying
  · rw [hh, htd, hcore.canSendEvent]
    exact h.receiver
  · rw [htd, hcore.canSendEvent]
    exact hsend
  · rw [hh, htd, hcev]
    exact h.forwarder

theorem sent_ne_asleep (call call' : SendCall) (n w : ℕ) :
    call.sent n ≠ .sending call' (.asleep w) := by
  unfold SendCall.sent
  split_ifs <;> simp

/-- The client loop goes to sleep in one place only, in the slow path of `send_data`. -/
theorem asleep_of_loopStep {l : LoopLabel} (hs : c.loopStep l = some c') {call : SendCall} {w : ℕ}
    (hloop : c'.loop = .sending call (.asleep w)) :
    l = .sendData ∧ c.loop = .sending call .slow ∧ c.rembytes ≤ 0 ∧
      w = c.core.canSendEvent.next := by
  cases loopStep_move hs with
  | sendSleep hslow hrem =>
    cases hloop
    exact ⟨rfl, hslow, hrem, rfl⟩
  | sendFast | sendSlow => exact absurd hloop (sent_ne_asleep _ _ _ _)
  | _ => cases hloop

/-- A step of the client loop, which sleeps on the same event as the receivers do. -/
theorem loop_step (h : c.Tickets) {l : LoopLabel} (hok : NoLateWait c (.loop l))
    (hs : c.loopStep l = some c') : c'.Tickets := by
  obtain ⟨core, loop, buf, rcv, heq, hcore⟩ := loopStep_eq hs
  subst heq
  refine h.keep rfl rfl hcore rfl ?_
  intro call w hw
  obtain ⟨rfl, hloop, hrem, rfl⟩ := asleep_of_loopStep hs hw
  refine EventCount.ticket_next (not_not.mpr (hok.resolve_right ?_))
  rw [hloop]
  exact fun hor => hor.elim (by simp [LoopPc.inSlowPath]) fun hpos => absurd hrem (not_le.mpr hpos)

/-- **One step keeps the invariant**: those who sleep when the teardown begins have tickets that
its signals honour. -/
theorem step (h : c.Tickets) {l : Label} (hok : NoLateWait c l) (hs : c.step l = some c') :
    c'.Tickets := by
  cases l with
  | input l => exact h.input_step hok hs
  | loop l => exact h.loop_step hok hs
  | connect ok =>
    have hloop := connectStep_loop hs
    obtain ⟨core, pc, loop, fd, cfd, wl, out, rfl, hcore⟩ := connectStep_eq hs
    refine h.keep rfl rfl hcore rfl ?_
    intro call w hw
    rcases hloop with he | ⟨-, he⟩
    · exact h.sender call w (he.symm.trans hw)
    · exact absurd (he.symm.trans hw) (by simp)
  | deconstruct =>
    rcases deconstructStep_eq hs with ⟨hoff, rfl⟩ | ⟨hdone, -, rfl⟩
    · -- the signal of `_canSendEvent`
      refine ⟨fun _ => rfl, fun i w hi => (h.receiver i w hi).advance,
        fun call w hw => (h.sender call w hw).advance, ?_⟩
      intro i w hi
      exact (h.forwarder i w hi).imp fun he => by cases he
    · -- the signal of `_canClientSendEvent`
      refine ⟨fun _ => h.dying (by simp [hdone]), ?_, ?_,
        fun i w hi => (h.forwarder i w hi).advance⟩
      · intro i w hi
        exact (h.receiver i w hi).imp fun _ => by simp [hdone]
      · intro call w hw
        exact (h.sender call w hw).imp fun _ => by simp [hdone]
  | notify l =>
    obtain ⟨wl, out, rfl⟩ := notifyStep_eq hs
    exact h.keep rfl rfl .rfl rfl h.sender

end Tickets

end Tcp

/-! ### Nobody is left asleep -/

open Tcp

/-- **Everyone is awake**: no thread sleeps on the connection for a signal that has not
been given. -/
structure EveryoneAwake (c : Tcp) : Prop where
  receiver : ∀ i w, c.handler i = .ackAsleep w → c.core.canSendEvent.Reached w
  sender : ∀ call w, c.loop = .sending call (.asleep w) → c.core.canSendEvent.Reached w
  forwarder : ∀ i w, c.handler i = .fwdAsleep w → c.canClientSendEvent.Reached w

/-- **The teardown wakes everyone**: in every run in which nobody starts a wait on a
connection that has been torn down, once `deconstruct` has returned nobody is asleep. -/
theorem teardown_wakes_everyone {c₀ c : Tcp} (h₀ : c₀.Undisturbed)
    (h : tcpMachine.Reaches NoLateWait c₀ c) (hdone : c.teardown = .done) : EveryoneAwake c := by
  have htickets := h.invariant (I := Tickets) (.of_undisturbed h₀) fun _ _ _ hi hok hs =>
    hi.step hok hs
  have hne : c.teardown ≠ .off := by simp [hdone]
  exact ⟨fun i w hi => (htickets.receiver i w hi).reached hne,
    fun call w hw => (htickets.sender call w hw).reached hne,
    fun i w hi => (htickets.forwarder i w hi).reached hdone⟩

theorem Tcp.established_undisturbed (seq S0 : BitVec 32) : (established seq S0).Undisturbed where
  teardown := rfl
  handler := fun _ => rfl
  loop := fun _ _ h => by cases h

/-- The run has a sleeper: a segment arrives before the one it follows, and its receiver is asleep
when the connection is torn down. The sender and the forwarder are not, so what is said of them
is said of nobody here. -/
theorem teardown_wakes_everyone_asleep :
    ∃ c, c.handler 0 = .ackAsleep 1 ∧ c.teardown = .done ∧ EveryoneAwake c := by
  obtain ⟨c, hr, hp⟩ := tcpMachine.exists_reaches_of_runOk NoLateWait (established 0 0)
    [.input (.call (segmentAt 0 1 [2])), .input (.lockStx 0 false), .deconstruct, .deconstruct]
    (fun c => c.handler 0 = .ackAsleep 1 ∧ c.teardown = .done) (by decide)
  obtain ⟨hasleep, hdone⟩ := of_decide_eq_true hp
  exact ⟨c, hasleep, hdone, teardown_wakes_everyone (established_undisturbed _ _) hr hdone⟩

/-- **The teardown leaves a receiver asleep**: the third segment waits, the first one is
counted and wakes it, the connection is torn down before it has taken `_lockStx`
again, and its segment is still not next. -/
theorem teardown_leaves_receiver_asleep :
    ∃ c, tcpMachine.Reachable (established 0 0) c ∧ c.teardown = .done ∧ ¬EveryoneAwake c := by
  obtain ⟨c, hr, hp⟩ := tcpMachine.exists_reaches_of_runOk (fun _ _ => True) (established 0 0)
    [.input (.call (segmentAt 0 0 [1])), .input (.call (segmentAt 0 1 [2])),
      .input (.call (segmentAt 0 2 [3])), .input (.lockStx 2 false), .input (.lockStx 0 false),
      .input (.ackWake 2), .deconstruct, .deconstruct, .input (.lockStx 2 false)]
    (fun c => c.handler 2 = .ackAsleep 3 ∧ c.core.canSendEvent = ⟨2⟩ ∧ c.teardown = .done)
    (by decide)
  obtain ⟨hasleep, hev, hdone⟩ := of_decide_eq_true hp
  refine ⟨c, hr, hdone, ?_⟩
  intro hall
  have hreached := hall.receiver 2 3 hasleep
  rw [hev] at hreached
  exact absurd hreached (by decide)

end Usbmuxd
