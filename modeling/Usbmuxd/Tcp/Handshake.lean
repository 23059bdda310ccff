import Usbmuxd.Tcp.Ending

/-!
# The first segment of a connection

As long as a connection is being made, `handle_input` expects the device's answer to
the SYN, and throws at anything else; whoever called it then kills the device. So it
matters which segment takes `_lockStx` first. The invariant
`Usbmuxd.Tcp.Handshaken` says that nothing has gone wrong: the first segment handed to
the connection is the answer, and until it has been dealt with no other call of
`handle_input` has been past the lock. It is kept by every step unless a later call
overtakes the first on the way to the lock (`Usbmuxd.Tcp.InTurn`).

Two receivers may have segments of the same connection, and which of them comes to the lock
first is decided by the scheduler. After the handshake this does not matter, as a receiver whose
segment is not next goes to sleep until it is. During the handshake there is no such gate: the
state of the connection is looked at once, and whoever is first is taken to have the answer.
That the device sends nothing before its answer is no help, since the second segment may follow
immediately.
-/

namespace Usbmuxd

open Interleaving

/-- The segment answers a SYN: it accepts the connection, or refuses it. `handle_input` throws
on anything else while the connection is being made. -/
def Segment.IsAnswer (s : Segment) : Prop :=
  s.hdr.thFlags = thSyn ||| thAck ∨ s.hdr.thFlags &&& thRst ≠ 0

instance (s : Segment) : Decidable s.IsAnswer := inferInstanceAs (Decidable (_ ∨ _))

namespace Tcp

variable {c c' : Tcp} {i : ℕ} {s : Segment} {members : Bool}

/-- While the connection is being made, the first call of `handle_input` is the first
to take `_lockStx`. -/
def InTurn (c : Tcp) : Label → Prop
  | .input (.lockStx i _) => c.core.connState = .connConnecting → i = 0
  | _ => True

instance (c : Tcp) (l : Label) : Decidable (c.InTurn l) :=
  match l with
  | .input (.lockStx i _) =>
      inferInstanceAs (Decidable (c.core.connState = .connConnecting → i = 0))
  | .input (.call _) | .input (.ackWake _) | .input (.lockClientSend _) | .input (.fwdWake _)
  | .input (.fwdTest _) | .input (.send _ _) | .loop _ | .connect _ | .deconstruct
  | .notify _ => isTrue trivial

/-- **Nothing has gone wrong with the handshake**: no call of `handle_input` has thrown so far,
and none is about to. -/
structure Handshaken (c : Tcp) : Prop where
  /-- There are no calls but those with a segment. -/
  present : ∀ j, c.segs.length ≤ j → c.handler j = .absent
  /-- The first segment is the answer to the SYN. -/
  answer : ∀ s, c.segs[0]? = some s → s.IsAnswer
  /-- Until it has been dealt with, no call has been past `_lockStx`. -/
  waiting : c.core.connState = .connConnecting →
    ∀ j, c.handler j = .entered ∨ c.handler j = .absent
  /-- No call has thrown. -/
  calm : ∀ j, c.handler j ≠ .threw

namespace Handshaken

theorem new (sPort dPort : BitVec 16) (seq : BitVec 32) : (Tcp.new sPort dPort seq).Handshaken where
  present := fun _ _ => rfl
  answer := fun _ h => nomatch h
  waiting := fun _ _ => .inr rfl
  calm := fun _ => nofun

/-- Steps of threads other than the receivers, which can only end the handshake by giving the
connection up. -/
theorem of_same (hc : c.Handshaken) (hsegs : c'.segs = c.segs) (hhandler : c'.handler = c.handler)
    (hstate : c'.core.connState = .connConnecting → c.core.connState = .connConnecting) :
    c'.Handshaken where
  present := by
    rw [hsegs, hhandler]
    exact hc.present
  answer := by
    rw [hsegs]
    exact hc.answer
  waiting := by
    intro h
    rw [hhandler]
    exact hc.waiting (hstate h)
  calm := by
    rw [hhandler]
    exact hc.calm

/-- A call moves on, and the connection is not being made any more. -/
theorem of_moves (hc : c.Handshaken) {pc : HandlerPc} (hm : c.Moves i pc c') (hpc : pc ≠ .threw)
    (hstate : c'.core.connState ≠ .connConnecting) : c'.Handshaken where
  present := by
    intro j hj
    rw [hm.segs] at hj
    rw [hm.handler_of_ne (Nat.ne_of_gt (Nat.lt_of_lt_of_le hm.lt_length hj))]
    exact hc.present j hj
  answer := by
    rw [hm.segs]
    exact hc.answer
  waiting := fun h => absurd h hstate
  calm := by
    intro j
    rw [hm.handler_apply]
    split
    · exact hpc
    · exact hc.calm j

/-- Another segment is handed to the connection. Only the first has to be an answer, as the
handshake is over when it has been dealt with. -/
theorem enter (hc : c.Handshaken) (hs : c.segs = [] → s.IsAnswer) : (c.enter s).Handshaken where
  present := by
    intro j hj
    rw [enter_segs, List.length_append, List.length_singleton] at hj
    rw [enter_handler, if_neg (by omega)]
    exact hc.present j (by omega)
  answer := by
    intro s' hs'
    rw [enter_segs] at hs'
    cases hsegs : c.segs with
    | nil =>
      rw [hsegs] at hs'
      -- the first segment is the one that is handed over
      obtain rfl : s = s' := by simpa using hs'
      exact hs hsegs
    | cons s₀ rest =>
      rw [hsegs] at hs'
      exact hc.answer s' (by rw [hsegs]; exact hs')
  waiting := by
    intro h j
    rw [enter_handler]
    split
    · exact .inl rfl
    · exact hc.waiting h j
  calm := by
    intro j
    rw [enter_handler]
    split
    · nofun
    · exact hc.calm j

/-- **The first half of `handle_input` does not throw** when the answer is the first to
get there. -/
theorem firstHalf (hc : c.Handshaken) (hs : c.segs[i]? = some s) (hpc : c.handler i = .entered)
    (hturn : c.core.connState = .connConnecting → i = 0) :
    (c.firstHalf i s members).Handshaken := by
  have hi : i < c.segs.length := lt_of_getElem? hs
  have hmoves : ∀ {core : Core} {pc : HandlerPc}, pc ≠ .absent →
      c.Moves i pc { c.moveHandler i pc with core := core } := fun hne =>
    .of_pc hi hpc (by simp) hne ⟨rfl, rfl⟩
  have hstays : ∀ {pc : HandlerPc}, pc ≠ .absent → c.Moves i pc (c.moveHandler i pc) := fun hne =>
    .of_pc hi hpc (by simp) hne ⟨rfl, rfl⟩
  have hsecond := secondHalf_ne_threw s
  cases hstate : c.core.connState with
  | connConnecting =>
    obtain rfl := hturn hstate
    -- the first segment is a SYN|ACK or a RST, and either is expected
    rcases hc.answer s hs with hflags | hflags
    · simp only [Tcp.firstHalf, hstate, hflags, if_true]
      exact hc.of_moves (hmoves (secondHalf_ne_absent s)) hsecond (by simp [Core.acceptSynAck])
    · simp only [Tcp.firstHalf, hstate]
      split
      · exact hc.of_moves (hmoves (secondHalf_ne_absent s)) hsecond (by simp [Core.acceptSynAck])
      · exact hc.of_moves (hmoves (secondHalf_ne_absent s)) hsecond
          (by simp [Core.refuse, Core.kill])
  | connConnected =>
    have hne : c.core.connState ≠ .connConnecting := by simp [hstate]
    rcases firstHalf_cases c i s members with ⟨-, -, heq⟩ | ⟨core, pc, heq, -, hne', -, hcore⟩
    · rw [heq]
      rcases ackGate_cases c i s members with ⟨-, heq'⟩ | ⟨-, heq'⟩
      · rw [heq']
        exact hc.of_moves (hstays (by simp)) (by simp) hne
      · rw [heq']
        refine hc.of_moves (hmoves (secondHalf_ne_absent s)) hsecond ?_
        simpa using hne
    · -- with the connection up, `handle_input` does not throw
      have hcalm : pc ≠ .threw := by
        rintro rfl
        have hself : (c.firstHalf i s members).handler i = .threw := by rw [heq]; simp
        simp only [Tcp.firstHalf, hstate] at hself
        rcases secondHalf_eq s with ⟨-, h⟩ | ⟨-, h⟩ <;>
          rcases ackGate_cases c i s members with ⟨-, heq'⟩ | ⟨-, heq'⟩ <;>
            split_ifs at hself <;> simp [heq', h] at hself
      rw [heq]
      refine hc.of_moves (hmoves hne') hcalm ?_
      rcases hcore with hcore | hcore
      · rw [hcore]
        exact hne
      · exact absurd hcore hne
  | connRefused =>
    simp only [Tcp.firstHalf, hstate]
    exact hc.of_moves (hstays (by simp)) (by simp) (by simp [moveHandler, hstate])
  | connDying =>
    simp only [Tcp.firstHalf, hstate]
    exact hc.of_moves (hstays (by simp)) (by simp) (by simp [moveHandler, hstate])

/-- A call that is past `_lockStx` shows that the answer has been dealt with. -/
theorem not_connecting (hc : c.Handshaken) (h : c.handler i ≠ .entered)
    (h' : c.handler i ≠ .absent) : c.core.connState ≠ .connConnecting :=
  fun hstate => (hc.waiting hstate i).elim h h'

/-- A call past its first half moves on, and leaves the state of the connection alone. -/
theorem of_past (hc : c.Handshaken) (i : ℕ) (pc : HandlerPc)
    (hpast : c.handler i ≠ .absent ∧ c.handler i ≠ .entered ∧ c.handler i ≠ .returned)
    (hpc : pc ≠ .absent ∧ pc ≠ .threw) (hsegs : c'.segs = c.segs)
    (hhandler : c'.handler = (c.moveHandler i pc).handler)
    (hstate : c'.core.connState = c.core.connState) : c'.Handshaken := by
  obtain ⟨habsent, hentered, hreturned⟩ := hpast
  have hi : i < c.segs.length := Nat.lt_of_not_le fun hle => habsent (hc.present i hle)
  refine hc.of_moves ⟨hi, habsent, hreturned, hpc.1, hsegs, hhandler⟩ hpc.2 ?_
  rw [hstate]
  exact hc.not_connecting hentered habsent

/-- The receivers, each of which deals with one segment at a time. -/
theorem input {l : InputLabel} (hc : c.Handshaken) (hturn : c.InTurn (.input l))
    (hanswer : ∀ s, l = .call s → c.segs = [] → s.IsAnswer) (h : c.inputStep l = some c') :
    c'.Handshaken := by
  cases l with
  | call s =>
    rw [inputStep_call h]
    exact hc.enter (hanswer s rfl)
  | lockStx i members =>
    obtain ⟨s, hs, ⟨hpc, rfl⟩ | ⟨hpc, rfl⟩⟩ := inputStep_lockStx h
    · -- only here can a call throw, and only during the handshake
      exact hc.firstHalf hs hpc hturn
    · rcases ackGate_cases c i s members with ⟨-, heq⟩ | ⟨-, heq⟩ <;> rw [heq]
      · exact hc.of_past i (.ackAsleep _) (by simp [hpc]) (by simp) rfl rfl rfl
      · exact hc.of_past i _ (by simp [hpc]) ⟨secondHalf_ne_absent s, secondHalf_ne_threw s⟩
          rfl rfl (by simp)
  | ackWake i =>
    obtain ⟨w, hpc, -, ⟨-, rfl⟩ | ⟨-, rfl⟩⟩ := inputStep_ackWake h
    · exact hc.of_past i .returned (by simp [hpc]) (by simp) rfl rfl rfl
    · exact hc.of_past i .ackAwake (by simp [hpc]) (by simp) rfl rfl rfl
  | lockClientSend i =>
    obtain ⟨s, -, hpc, -, rfl⟩ := inputStep_lockClientSend h
    have hpast : c.handler i ≠ .absent ∧ c.handler i ≠ .entered ∧ c.handler i ≠ .returned := by
      rcases hpc with hpc | hpc <;> simp [hpc]
    rcases forwardGate_cases c i s with ⟨-, heq⟩ | ⟨-, heq⟩ <;> rw [heq]
    · exact hc.of_past i (.fwdAsleep _) hpast (by simp) rfl rfl rfl
    · exact hc.of_past i .fwdTurn hpast (by simp) rfl rfl rfl
  | fwdWake i =>
    obtain ⟨w, hpc, -, ⟨-, rfl⟩ | ⟨-, rfl⟩⟩ := inputStep_fwdWake h
    · exact hc.of_past i .returned (by simp [hpc]) (by simp) rfl rfl rfl
    · exact hc.of_past i .fwdAwake (by simp [hpc]) (by simp) rfl rfl rfl
  | fwdTest i =>
    obtain ⟨hpc, ⟨-, rfl⟩ | ⟨-, rfl⟩⟩ := inputStep_fwdTest h
    · exact hc.of_past i .returned (by simp [hpc]) (by simp) rfl rfl rfl
    · exact hc.of_past i .sending (by simp [hpc]) (by simp) rfl rfl rfl
  | send i r =>
    obtain ⟨s, -, hpc, rfl⟩ := inputStep_send h
    exact hc.of_past i .returned (by simp [hpc]) (by simp) rfl rfl (forwardPayload_core _).1

/-- **No call throws**, as long as none overtakes the first. Overtaking is possible, since each
segment is handled by the thread that has received it. -/
theorem step {l : Label} (hc : c.Handshaken) (hturn : c.InTurn l)
    (hanswer : ∀ s, l = .input (.call s) → c.segs = [] → s.IsAnswer) (h : c.step l = some c') :
    c'.Handshaken := by
  have hstate := fun hc' => ((step_evolves h).connecting hc').1
  cases l with
  | input l => exact hc.input hturn (fun s hl => hanswer s (congrArg Label.input hl)) h
  | loop l =>
    obtain ⟨core, loop, buf, rcv, rfl, -⟩ := loopStep_eq h
    exact hc.of_same rfl rfl hstate
  | connect ok =>
    obtain ⟨core, pc, loop, fd, cfd, wl, out, rfl, -⟩ := connectStep_eq h
    exact hc.of_same rfl rfl hstate
  | deconstruct =>
    rcases deconstructStep_eq h with ⟨-, rfl⟩ | ⟨-, -, rfl⟩
    · exact hc.of_same rfl rfl hstate
    · exact hc.of_same rfl rfl hstate
  | notify l =>
    obtain ⟨wl, out, rfl⟩ := notifyStep_eq h
    exact hc.of_same rfl rfl hstate

end Handshaken

end Tcp

end Usbmuxd
