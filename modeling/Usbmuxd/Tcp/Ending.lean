import Usbmuxd.Tcp.Steps

/-!
# How a connection ends

A connection that is over is taken out of its device on request, and the request is
`TCP::kill`. This file says when `kill` is called (`Usbmuxd.Tcp.CallsKill`,
`Usbmuxd.Tcp.step_counted`), and in what states the threads of a connection can leave it
behind.

`connect` ends by starting the client loop, or by throwing; the client loop ends with
`loopEvent` returning `false`, or throwing. A connection is *accounted for*
(`Usbmuxd.Tcp.Accounted`) when, once no thread is left to do so, `kill` has been called
or the connection is being torn down already. Three of the ways out forget to call it
(`Usbmuxd.Tcp.NoSilentEnd`): the end of the client's stream, a failing `poll`, and a
failing answer to the client.

Four kinds of threads work on a connection, and of each it is known where it can be. The
receivers may call `kill`, but their end is not the end of the connection; the client loop and
`connect` follow one another; and the teardown comes from outside. What is counted is how often
`kill` has been called, and every step changes this number by one or not at all
(`Usbmuxd.Tcp.step_counted`), so that a call cannot be taken back or be forgotten.
-/

namespace Usbmuxd

open Interleaving

namespace Tcp

/-! ### Calls of `TCP::kill` -/

/-- The first half of `handle_input` calls `TCP::kill`: the device refuses the
connection, or resets it. -/
def Core.Resets (o : Core) (s : Segment) : Prop :=
  match o.connState with
  | .connConnecting => s.hdr.thFlags ≠ thSyn ||| Usbmuxd.thAck ∧ s.hdr.thFlags &&& thRst ≠ 0
  | .connConnected => s.hdr.thFlags ≠ Usbmuxd.thAck ∧ s.hdr.thFlags = thRst
  | .connRefused | .connDying => False

instance (o : Core) (s : Segment) : Decidable (o.Resets s) := by
  unfold Core.Resets
  split <;> infer_instance

/-- The step calls `TCP::kill`. There are several places in the source where it is called, on
the side of the device and on that of the client. -/
def CallsKill (c : Tcp) : Label → Prop
  | .input (.lockStx i _) => c.handler i = .entered ∧ ∃ s ∈ c.segs[i]?, c.core.Resets s
  | .input (.send i r) => ∃ s ∈ c.segs[i]?, c.acceptedBy s r ≠ s.payload.length
  | .loop (.poll (.revents r)) => c.pfdFd = true ∧ r &&& ~~~(pollin ||| pollhup) ≠ 0
  | .loop (.recv .failed) => True
  | _ => False

instance (c : Tcp) (l : Label) : Decidable (c.CallsKill l) := by
  unfold CallsKill
  split <;> infer_instance

namespace Core

variable (o : Core) (s : Segment)

/-- The same connection, with as many calls of `kill`. Most steps are of this kind. -/
structure KeepsKills (o o' : Core) : Prop where
  kills : o'.kills = o.kills
  sPort : o'.sPort = o.sPort

variable {o} in
theorem KeepsKills.rfl : o.KeepsKills o := ⟨Eq.refl _, Eq.refl _⟩

theorem keepsKills_countSegment (members : Bool) : o.KeepsKills (o.countSegment s members) := by
  unfold countSegment sendAckNolock
  dsimp only
  split_ifs <;> exact ⟨rfl, rfl⟩

theorem keepsKills_acceptSynAck : o.KeepsKills (o.acceptSynAck s) := by
  unfold acceptSynAck sendAckNolock
  dsimp only
  split_ifs <;> exact ⟨rfl, rfl⟩

end Core

variable {c c' : Tcp} {i : ℕ} {s : Segment} {members : Bool}

/-- What a step does to the calls of `kill`: it makes one more when it says so. -/
structure Counted (c : Tcp) (calls : Prop) (c' : Tcp) : Prop where
  called : calls → c'.core.kills = c.core.kills + 1
  not_called : ¬calls → c'.core.kills = c.core.kills
  sPort : c'.core.sPort = c.core.sPort

theorem Core.KeepsKills.counted {calls : Prop} (h : c.core.KeepsKills c'.core) (hnot : ¬calls) :
    c.Counted calls c' :=
  ⟨fun hc => absurd hc hnot, fun _ => h.kills, h.sPort⟩

theorem firstHalf_counted (c : Tcp) (i : ℕ) (s : Segment) (members : Bool) :
    c.Counted (c.core.Resets s) (c.firstHalf i s members) := by
  cases hc : c.core.connState with
  | connConnecting =>
    simp only [Core.Resets, firstHalf, hc]
    split_ifs with h₁ h₂
    · -- the SYN|ACK
      exact Core.KeepsKills.counted (Core.keepsKills_acceptSynAck ..) fun h => h.1 h₁
    · exact ⟨fun _ => rfl, fun h => absurd ⟨h₁, h₂⟩ h, rfl⟩
    · exact Core.KeepsKills.counted .rfl fun h => h₂ h.2
  | connConnected =>
    simp only [Core.Resets, firstHalf, hc]
    split_ifs with h₁ h₂
    · rcases ackGate_cases c i s members with
        ⟨-, heq⟩ | ⟨-, heq⟩
      · rw [heq]
        exact Core.KeepsKills.counted .rfl fun h => h.1 h₁
      · rw [heq]
        exact Core.KeepsKills.counted (Core.keepsKills_countSegment ..) fun h => h.1 h₁
    · exact ⟨fun _ => rfl, fun h => absurd ⟨h₁, h₂⟩ h, rfl⟩
    · exact Core.KeepsKills.counted .rfl fun h => h₂ h.2
  | connRefused =>
    simp only [Core.Resets, firstHalf, hc]
    exact Core.KeepsKills.counted .rfl id
  | connDying =>
    simp only [Core.Resets, firstHalf, hc]
    exact Core.KeepsKills.counted .rfl id

/-- A receiver: it calls `kill` when the device resets the connection, and when the client
cannot be given what has been received. -/
theorem inputStep_counted {l : InputLabel} (hs : c.inputStep l = some c') :
    c.Counted (c.CallsKill (.input l)) c' := by
  cases l with
  | call s => exact inputStep_call hs ▸ Core.KeepsKills.counted .rfl id
  | lockStx i members =>
    obtain ⟨s, hi, ⟨hpc, rfl⟩ | ⟨hpc, rfl⟩⟩ := inputStep_lockStx hs
    · obtain ⟨hcalled, hnot, hport⟩ :=
        firstHalf_counted c i s members
      -- a RST calls `kill`, whoever sends it
      refine ⟨fun ⟨_, t, ht, hr⟩ => hcalled ?_, fun h => hnot fun hr => h ⟨hpc, s, hi, hr⟩, hport⟩
      obtain rfl : s = t := Option.some.inj (hi.symm.trans ht)
      exact hr
    · have hnot : ¬c.CallsKill (.input (.lockStx i members)) := by
        intro h
        rw [h.1] at hpc
        cases hpc
      rcases ackGate_cases c i s members with
        ⟨-, heq⟩ | ⟨-, heq⟩
      · exact heq ▸ Core.KeepsKills.counted .rfl hnot
      · exact heq ▸ Core.KeepsKills.counted (Core.keepsKills_countSegment ..) hnot
  | ackWake i =>
    obtain ⟨w, -, -, ⟨-, rfl⟩ | ⟨-, rfl⟩⟩ := inputStep_ackWake hs <;>
      exact Core.KeepsKills.counted .rfl id
  | lockClientSend i =>
    obtain ⟨s, -, -, -, rfl⟩ := inputStep_lockClientSend hs
    rcases forwardGate_cases c i s with ⟨-, heq⟩ | ⟨-, heq⟩ <;>
      exact heq ▸ Core.KeepsKills.counted .rfl id
  | fwdWake i =>
    obtain ⟨w, -, -, ⟨-, rfl⟩ | ⟨-, rfl⟩⟩ := inputStep_fwdWake hs <;>
      exact Core.KeepsKills.counted .rfl id
  | fwdTest i =>
    obtain ⟨-, ⟨-, rfl⟩ | ⟨-, rfl⟩⟩ := inputStep_fwdTest hs <;>
      exact Core.KeepsKills.counted .rfl id
  | send i r =>
    obtain ⟨s, hi, -, rfl⟩ := inputStep_send hs
    refine ⟨?_, ?_, ?_⟩
    · -- the client has taken less than the payload, and `kill` is called
      rintro ⟨t, ht, hne⟩
      obtain rfl : s = t := Option.some.inj (hi.symm.trans ht)
      simp only [forwardPayload, hne, ne_eq, not_false_eq_true, if_true, Core.kill]
    · intro h
      have heq : c.acceptedBy s r = s.payload.length := by
        by_contra hne
        exact h ⟨s, hi, hne⟩
      simp only [forwardPayload, heq, ne_eq, not_true_eq_false, if_false]
    · unfold forwardPayload
      dsimp only
      split <;> rfl

/-- The client loop: it calls `kill` when it ends, but not on all of its ways out. -/
theorem loopStep_counted {l : LoopLabel} (hs : c.loopStep l = some c') :
    c.Counted (c.CallsKill (.loop l)) c' := by
  cases loopStep_move hs with
  | @pollFailed _ _ r _ hwhy =>
    cases r with
    | failed => exact Core.KeepsKills.counted .rfl id
    | revents r =>
      have hfd : c.pfdFd = false := hwhy.resolve_right (by simp)
      exact Core.KeepsKills.counted .rfl fun h => absurd (h.1.symm.trans hfd) (by simp)
  | pollOther hloop hfd hother => exact ⟨fun _ => rfl, fun h => absurd ⟨hfd, hother⟩ h, rfl⟩
  | pollNothing hloop hnone => exact Core.KeepsKills.counted .rfl fun h => h.2 hnone
  | pollIn remoteDidClose hloop hnone => exact Core.KeepsKills.counted .rfl fun h => h.2 hnone
  | recvFailed hloop => exact ⟨fun _ => rfl, fun h => absurd trivial h, rfl⟩
  | recvData hloop hne => exact Core.KeepsKills.counted .rfl id
  | _ => exact Core.KeepsKills.counted ⟨rfl, rfl⟩ id

/-- **`kill` is called by the steps that say so**, once each, and no step changes the
port. -/
theorem step_counted {l : Label} (hs : c.step l = some c') : c.Counted (c.CallsKill l) c' := by
  cases l with
  | input l => exact inputStep_counted hs
  | loop l => exact loopStep_counted hs
  | connect ok =>
    cases connectStep_move hs <;> exact Core.KeepsKills.counted ⟨rfl, rfl⟩ id
  | deconstruct =>
    rcases deconstructStep_eq hs with ⟨-, rfl⟩ | ⟨-, -, rfl⟩ <;>
      exact Core.KeepsKills.counted ⟨rfl, rfl⟩ id
  | notify l =>
    obtain ⟨wl, out, rfl⟩ := notifyStep_eq hs
    exact Core.KeepsKills.counted .rfl id

theorem step_sPort {l : Label} (hs : c.step l = some c') : c'.core.sPort = c.core.sPort :=
  (step_counted hs).sPort

/-- A call of `kill` is never taken back. So it makes no sense to ask when it was made, only
whether. -/
theorem step_kills_mono {l : Label} (hs : c.step l = some c') : c.core.kills ≤ c'.core.kills := by
  by_cases h : c.CallsKill l
  · rw [(step_counted hs).called h]
    exact Nat.le_succ _
  · rw [(step_counted hs).not_called h]

/-! ### How the state of a connection changes -/

/-- How a step may change the state of a connection: `CONN_CONNECTED` leads to
`CONN_DYING` only, which is for good and takes a teardown, `CONN_REFUSED` comes with a
call of `kill`, and whoever leaves `CONN_CONNECTING` signals it. -/
structure Core.Evolves (torn : Prop) (o o' : Core) : Prop where
  connected : o.connState = .connConnected →
    o'.connState = .connConnected ∨ o'.connState = .connDying
  dying : o.connState = .connDying → o'.connState = .connDying
  torn : o'.connState = .connDying → o.connState = .connDying ∨ torn
  refused : o'.connState = .connRefused → o.connState = .connRefused ∨ 0 < o'.kills
  connecting : o'.connState = .connConnecting →
    o.connState = .connConnecting ∧ o'.connStateDidChange = o.connStateDidChange

theorem Core.KeepsGates.evolves {torn : Prop} {o o' : Core} (h : o.KeepsGates o') :
    o.Evolves torn o' where
  connected := fun hc => Or.inl (h.connState.trans hc)
  dying := fun hd => h.connState.trans hd
  torn := fun hd => Or.inl (h.connState.symm.trans hd)
  refused := fun hr => Or.inl (h.connState.symm.trans hr)
  connecting := fun hc => ⟨h.connState.symm.trans hc, h.connStateDidChange⟩

theorem Core.evolves_countSegment {torn : Prop} (o : Core) (s : Segment) (members : Bool) :
    o.Evolves torn (o.countSegment s members) := by
  have hevent : (o.countSegment s members).connStateDidChange = o.connStateDidChange := by
    unfold countSegment sendAckNolock
    dsimp only
    split_ifs <;> rfl
  exact ⟨fun h => Or.inl (by simpa using h), fun h => by simpa using h,
    fun h => Or.inl (by simpa using h), fun h => Or.inl (by simpa using h),
    fun h => ⟨by simpa using h, hevent⟩⟩

theorem evolves_ackGate {torn : Prop} : c.core.Evolves torn (c.ackGate i s members).core := by
  rcases ackGate_cases c i s members with ⟨-, heq⟩ | ⟨-, heq⟩
  · rw [heq]
    exact Core.KeepsGates.rfl.evolves
  · rw [heq]
    exact Core.evolves_countSegment ..

/-- The SYN|ACK, after which the connection stands, and no other answer can be given. -/
theorem Core.evolves_acceptSynAck {torn : Prop} {o : Core} (hc : o.connState = .connConnecting)
    (s : Segment) : o.Evolves torn (o.acceptSynAck s) := by
  have hstate : (o.acceptSynAck s).connState = .connConnected := rfl
  refine ⟨fun _ => Or.inl hstate, fun hd => absurd (hc.symm.trans hd) nofun, ?_, ?_, ?_⟩ <;>
    exact fun h => absurd (hstate.symm.trans h) nofun

/-- The refusal, which calls `kill`, so that a connection which has been refused is always
reported. -/
theorem Core.evolves_refuse {torn : Prop} {o : Core} (hc : o.connState = .connConnecting) :
    o.Evolves torn o.refuse := by
  have hstate : o.refuse.connState = .connRefused := rfl
  refine ⟨?_, ?_, fun hd => absurd (hstate.symm.trans hd) nofun, fun _ => Or.inr (Nat.succ_pos _),
    fun h => absurd (hstate.symm.trans h) nofun⟩ <;>
    exact fun h => absurd (hc.symm.trans h) nofun

/-- The first half of `handle_input`, in which the state of the connection may change. The
second half only hands bytes on. -/
theorem evolves_firstHalf {torn : Prop} : c.core.Evolves torn (c.firstHalf i s members).core := by
  cases hc : c.core.connState with
  | connConnecting =>
    simp only [firstHalf, hc]
    split_ifs
    · exact Core.evolves_acceptSynAck hc s
    · exact Core.evolves_refuse hc
    · exact Core.KeepsGates.rfl.evolves
  | connConnected =>
    simp only [firstHalf, hc]
    split_ifs
    · exact evolves_ackGate
    · exact Core.keepsGates_kill.evolves
    · exact Core.KeepsGates.rfl.evolves
  | connRefused =>
    simp only [firstHalf, hc]
    exact Core.KeepsGates.rfl.evolves
  | connDying =>
    simp only [firstHalf, hc]
    exact Core.KeepsGates.rfl.evolves

theorem inputStep_evolves {torn : Prop} {l : InputLabel} (hs : c.inputStep l = some c') :
    c.core.Evolves torn c'.core := by
  cases l with
  | call s => exact inputStep_call hs ▸ Core.KeepsGates.rfl.evolves
  | lockStx i members =>
    obtain ⟨s, -, ⟨-, rfl⟩ | ⟨-, rfl⟩⟩ := inputStep_lockStx hs
    · exact evolves_firstHalf
    · exact evolves_ackGate
  | ackWake i =>
    obtain ⟨w, -, -, ⟨-, rfl⟩ | ⟨-, rfl⟩⟩ := inputStep_ackWake hs <;>
      exact Core.KeepsGates.rfl.evolves
  | lockClientSend i =>
    obtain ⟨s, -, -, -, rfl⟩ := inputStep_lockClientSend hs
    rcases forwardGate_cases c i s with ⟨-, heq⟩ | ⟨-, heq⟩ <;>
      exact heq ▸ Core.KeepsGates.rfl.evolves
  | fwdWake i =>
    obtain ⟨w, -, -, ⟨-, rfl⟩ | ⟨-, rfl⟩⟩ := inputStep_fwdWake hs <;>
      exact Core.KeepsGates.rfl.evolves
  | fwdTest i =>
    obtain ⟨-, ⟨-, rfl⟩ | ⟨-, rfl⟩⟩ := inputStep_fwdTest hs <;>
      exact Core.KeepsGates.rfl.evolves
  | send i r =>
    obtain ⟨s, -, -, rfl⟩ := inputStep_send hs
    obtain ⟨hstate, -, -, -, hevent⟩ := c.forwardPayload_core (i := i) (s := s) (c.acceptedBy s r)
    exact ⟨fun h => Or.inl (hstate.trans h), fun h => hstate.trans h,
      fun h => Or.inl (hstate.symm.trans h), fun h => Or.inl (hstate.symm.trans h),
      fun h => ⟨hstate.symm.trans h, hevent⟩⟩

/-- **How a step changes the state of a connection**: from connecting to one of the two
outcomes, and to dying only by the teardown. -/
theorem step_evolves {l : Label} (hs : c.step l = some c') :
    c.core.Evolves (l = .deconstruct) c'.core := by
  cases l with
  | input l => exact inputStep_evolves hs
  | loop l =>
    obtain ⟨core, loop, buf, rcv, rfl, hk⟩ := loopStep_eq hs
    exact hk.evolves
  | connect ok =>
    obtain ⟨core, pc, loop, fd, cfd, wl, out, rfl, hk⟩ := connectStep_eq hs
    exact hk.evolves
  | deconstruct =>
    rcases deconstructStep_eq hs with ⟨-, rfl⟩ | ⟨-, -, rfl⟩
    · exact ⟨fun _ => Or.inr rfl, fun _ => rfl, fun _ => Or.inr rfl,
        fun h => absurd h (by simp [Core.deconstruct]),
        fun h => absurd h (by simp [Core.deconstruct])⟩
    · exact Core.KeepsGates.rfl.evolves
  | notify l =>
    obtain ⟨wl, out, rfl⟩ := notifyStep_eq hs
    exact Core.KeepsGates.rfl.evolves

/-! ### Connections that are over -/

/-- `kill` has been called, or the connection is being torn down. In either case the reaper has
been told of it. -/
def Reported (c : Tcp) : Prop := 0 < c.core.kills ∨ c.core.connState = .connDying

instance (c : Tcp) : Decidable c.Reported := inferInstanceAs (Decidable (_ ∨ _))

theorem Reported.step (h : c.Reported) {l : Label} (hs : c.step l = some c') : c'.Reported :=
  h.imp (fun hk => lt_of_lt_of_le hk (step_kills_mono hs)) (step_evolves hs).dying

/-- The client loop has been started and has not ended. As long as it runs, there is somebody
who will notice the end of the client. -/
def LoopPc.Running : LoopPc → Prop
  | .off | .finished | .threw => False
  | _ => True

/-- `connect` has neither returned nor thrown, and will do so on behalf of the connection. -/
def ConnectPc.InProgress : ConnectPc → Prop
  | .returned | .threw => False
  | _ => True

/-- `connect` has seen the handshake complete, so that the device knows of the connection. -/
def ConnectPc.Established : ConnectPc → Prop
  | .start | .syn _ | .waiting _ | .threw => False
  | _ => True

/-- Where the client's descriptor is: with the client, until `connect` moves it into the
connection. In between it is in both. -/
def DescriptorInPlace (c : Tcp) : Prop :=
  match c.connectPc with
  | .disown | .startLoop | .returned => c.pfdFd = true
  | .threw => True
  | _ => c.cliFd = true

/-- **A connection is accounted for**: if it is in none of the hands that might end it, its end
has been reported. -/
structure Accounted (c : Tcp) : Prop where
  refused : c.core.connState = .connRefused → 0 < c.core.kills
  event : c.core.connState = .connConnecting → c.core.connStateDidChange.issued = 0
  ticket : ∀ w, c.connectPc = .syn w ∨ c.connectPc = .waiting w → 1 ≤ w
  threw : c.connectPc = .threw → c.Reported
  established : c.connectPc.Established →
    c.core.connState = .connConnected ∨ c.core.connState = .connDying
  descriptor : c.DescriptorInPlace
  loop : c.connectPc = .returned ∧ (c.loop.Running ∨ c.Reported) ∨
    c.connectPc ≠ .returned ∧ c.loop = .off

/-- `recv` is about to be called on a descriptor whose other end has hung up. -/
def LoopPc.remoteClosed : LoopPc → Bool
  | .receiving _ _ remoteDidClose => remoteDidClose
  | _ => false

/-- **No way out is taken that does not call `kill`**, unless the end of the connection
is known already: the client's stream does not end after it has hung up, `poll` does
not fail, and neither does the answer to the client. -/
def NoSilentEnd (c : Tcp) : Label → Prop
  | .loop (.recv (.data [])) => c.Reported ∨ c.loop.remoteClosed = false
  | .loop (.poll .failed) => c.Reported
  | .connect ok => c.Reported ∨ ok = true ∨ c.connectPc ≠ .result ∧ c.connectPc ≠ .resultBody
  | _ => True

instance (c : Tcp) (l : Label) : Decidable (NoSilentEnd c l) := by
  unfold NoSilentEnd
  split <;> infer_instance

theorem sent_running (call : SendCall) (n : ℕ) : (call.sent n).Running := by
  unfold SendCall.sent
  split_ifs <;> trivial

namespace Accounted

/-- **A connection that is accounted for**, and in which nobody is at work, has been
reported. -/
theorem reported (h : c.Accounted) (hpc : ¬c.connectPc.InProgress) (hloop : ¬c.loop.Running) :
    c.Reported := by
  rcases h.loop with ⟨-, hrun | hrep⟩ | ⟨hne, -⟩
  · exact absurd hrun hloop
  · exact hrep
  · have hthrew : c.connectPc = .threw := by
      cases he : c.connectPc <;> simp_all [ConnectPc.InProgress]
    exact h.threw hthrew

theorem new (sPort dPort : BitVec 16) (seq : BitVec 32) : (new sPort dPort seq).Accounted where
  refused := fun h => by cases h
  event := fun _ => rfl
  ticket := fun w hw => by rcases hw with hw | hw <;> cases hw
  threw := fun h => by cases h
  established := fun h => h.elim
  descriptor := rfl
  loop := Or.inr ⟨by simp [Tcp.new], rfl⟩

/-- What the state of the connection carries over any step, whichever thread makes it. -/
theorem carry (h : c.Accounted) {l : Label} (hs : c.step l = some c') :
    (c'.core.connState = .connRefused → 0 < c'.core.kills) ∧
    (c'.core.connState = .connConnecting → c'.core.connStateDidChange.issued = 0) ∧
    (c.connectPc.Established →
      c'.core.connState = .connConnected ∨ c'.core.connState = .connDying) := by
  have hev := step_evolves hs
  refine ⟨?_, ?_, ?_⟩
  · intro hr
    rcases hev.refused hr with hr' | hpos
    · exact lt_of_lt_of_le (h.refused hr') (step_kills_mono hs)
    · exact hpos
  · intro hc
    obtain ⟨hc', he⟩ := hev.connecting hc
    rw [he]
    exact h.event hc'
  · intro he
    exact (h.established he).elim hev.connected fun hd => Or.inr (hev.dying hd)

/-- Steps that leave `connect` where it is. These need no look at the ways out of `connect`. -/
theorem keep (h : c.Accounted) {l : Label} (hs : c.step l = some c')
    (hpc : c'.connectPc = c.connectPc) (hpfd : c'.pfdFd = c.pfdFd) (hcli : c'.cliFd = c.cliFd)
    (hloop : c'.loop = c.loop ∨
      c.connectPc = .returned ∧ (c'.loop.Running ∨ c'.Reported)) : c'.Accounted := by
  obtain ⟨hrefused, hevent, hestablished⟩ := h.carry hs
  refine ⟨hrefused, hevent, ?_, ?_, ?_, ?_, ?_⟩
  · rw [hpc]
    exact h.ticket
  · intro ht
    exact (h.threw (hpc.symm.trans ht)).step hs
  · rw [hpc]
    exact hestablished
  · have hd := h.descriptor
    unfold DescriptorInPlace at hd ⊢
    rw [hpc, hpfd, hcli]
    exact hd
  · rw [hpc]
    rcases hloop with he | ⟨he, hor⟩
    · rw [he]
      exact h.loop.imp_left fun ⟨hret, hor⟩ => ⟨hret, hor.imp_right fun hr => hr.step hs⟩
    · exact Or.inl ⟨he, hor⟩

/-- The client loop goes on, or it ends and has been reported, if it does not take a silent way
out. -/
theorem running_or_reported (h : c.Accounted) (hret : c.connectPc = .returned) {l : LoopLabel}
    (hok : NoSilentEnd c (.loop l)) (hs : c.loopStep l = some c') :
    c'.loop.Running ∨ c'.Reported := by
  have hstep : c.step (.loop l) = some c' := hs
  cases loopStep_move hs with
  | pollFailed hloop hwhy =>
    -- `connect` has returned, and so the descriptor is in place
    have hfd : c.pfdFd = true := by
      have hd := h.descriptor
      rw [DescriptorInPlace, hret] at hd
      exact hd
    rcases hwhy with hoff | rfl
    · rw [hfd] at hoff
      cases hoff
    · exact Or.inr (hok.step hstep)
  | pollOther | recvFailed => exact Or.inr (Or.inl (Nat.succ_pos _))
  | recvEnd hloop =>
    have hrep : c.Reported := hok.resolve_right (by simp [hloop, LoopPc.remoteClosed])
    exact Or.inr (hrep.step hstep)
  | sendFast | sendSlow => exact Or.inl (sent_running _ _)
  | wakeGone hloop hc =>
    have hest := h.established (by rw [hret]; trivial)
    exact Or.inr (Or.inr (hest.resolve_left hc))
  | _ => exact Or.inl trivial

/-- The client loop runs on a connection that `connect` has returned from. So the two do not run
at the same time. -/
theorem returned_of_loopStep (h : c.Accounted) {l : LoopLabel} (hs : c.loopStep l = some c') :
    c.connectPc = .returned := by
  rcases h.loop with ⟨hret, -⟩ | ⟨-, hoff⟩
  · exact hret
  · cases l <;> simp [loopStep, hoff] at hs

/-- A step of `connect` that leaves `connStateDidChange` and the state alone, from one
place before the return to another. -/
theorem connect_goes (h : c.Accounted) {ok : Bool} (hs : c.connectStep ok = some c')
    (hpc : c'.connectPc ≠ .threw ∧ c'.connectPc ≠ .returned)
    (hticket : ∀ w, c'.connectPc = .syn w ∨ c'.connectPc = .waiting w → 1 ≤ w)
    (hest : c'.connectPc.Established → c.connectPc.Established ∨
      c.core.connState = .connConnected)
    (hd : c'.DescriptorInPlace) (hoff : c'.loop = .off) : c'.Accounted := by
  have hstep : c.step (.connect ok) = some c' := hs
  obtain ⟨hrefused, hevent, hestablished⟩ := h.carry hstep
  refine ⟨hrefused, hevent, hticket, fun ht => absurd ht hpc.1, ?_, hd, Or.inr ⟨hpc.2, hoff⟩⟩
  intro he
  rcases hest he with he' | hc
  · exact hestablished he'
  · exact (step_evolves hstep).connected hc

/-- A step at which `connect` throws, after having reported the end. -/
theorem connect_throws (h : c.Accounted) {ok : Bool} (hs : c.connectStep ok = some c')
    (hpc : c'.connectPc = .threw) (hrep : c'.Reported) (hoff : c'.loop = .off) :
    c'.Accounted := by
  have hstep : c.step (.connect ok) = some c' := hs
  obtain ⟨hrefused, hevent, -⟩ := h.carry hstep
  refine ⟨hrefused, hevent, ?_, fun _ => hrep, ?_, ?_, Or.inr ⟨by simp [hpc], hoff⟩⟩
  · rintro w (hw | hw) <;> simp [hpc] at hw
  · simp [hpc, ConnectPc.Established]
  · simp [DescriptorInPlace, hpc]

/-- A step of `connect`, if it does not take a silent way out either. -/
theorem connect_step (h : c.Accounted) {ok : Bool} (hok : NoSilentEnd c (.connect ok))
    (hs : c.connectStep ok = some c') : c'.Accounted := by
  have hstep : c.step (.connect ok) = some c' := hs
  have hd := h.descriptor
  -- `connect` has not returned, and the client loop has not been started
  have hoff {pc : ConnectPc} (hpc : c.connectPc = pc) (hne : pc ≠ .returned) : c.loop = .off :=
    h.loop.elim (fun hr => absurd (hpc.symm.trans hr.1) hne) And.right
  have hest {pc : ConnectPc} (hpc : c.connectPc = pc) (he : pc.Established) :
      c.connectPc.Established := hpc ▸ he
  cases connectStep_move hs with
  | start hpc =>
    refine h.connect_goes hs ⟨nofun, nofun⟩ ?_ False.elim ?_ (hoff hpc nofun)
    · rintro w (hw | hw) <;> cases hw
      exact Nat.succ_le_succ (Nat.zero_le _)
    · simpa [DescriptorInPlace, hpc] using hd
  | syn hpc =>
    refine h.connect_goes hs ⟨nofun, nofun⟩ ?_ False.elim ?_ (hoff hpc nofun)
    · rintro w' (hw | hw) <;> cases hw
      exact h.ticket _ (Or.inl hpc)
    · simpa [DescriptorInPlace, hpc] using hd
  | connected hpc hreached hc =>
    refine h.connect_goes hs ⟨nofun, nofun⟩ ?_ (fun _ => Or.inr hc) ?_ (hoff hpc nofun)
    · rintro w' (hw | hw) <;> cases hw
    · simpa [DescriptorInPlace, hpc] using hd
  | @notConnected _ w hpc hreached hc =>
    refine h.connect_throws hs rfl ?_ (hoff hpc nofun)
    -- the signal has been given, so the state is no longer `CONN_CONNECTING`
    have hleft : c.core.connState ≠ .connConnecting := by
      intro hconn
      have hw : 1 ≤ w := h.ticket w (Or.inr hpc)
      have he : c.core.connStateDidChange.issued = 0 := h.event hconn
      exact absurd (le_trans hw hreached) (by omega)
    cases hstate : c.core.connState with
    | connConnecting => exact absurd hstate hleft
    | connConnected => exact absurd hstate hc
    | connRefused => exact Or.inl (h.refused hstate)
    | connDying => exact Or.inr hstate
  | result hpc | resultBody hpc | install hpc | disown hpc =>
    refine h.connect_goes hs ⟨nofun, nofun⟩ ?_ (fun _ => Or.inl (hest hpc trivial)) ?_
      (hoff hpc nofun)
    · rintro w' (hw | hw) <;> cases hw
    · simpa [DescriptorInPlace, hpc] using hd
  | resultFails hpc =>
    refine h.connect_throws hs rfl ?_ (hoff hpc nofun)
    rcases hok with hrep | hok | ⟨hne, -⟩
    · exact hrep
    · cases hok
    · exact absurd hpc hne
  | resultBodyFails hpc =>
    refine h.connect_throws hs rfl ?_ (hoff hpc nofun)
    rcases hok with hrep | hok | ⟨-, hne⟩
    · exact hrep
    · cases hok
    · exact absurd hpc hne
  | startLoop hpc =>
    obtain ⟨hrefused, hevent, hestablished⟩ := h.carry hstep
    refine ⟨hrefused, hevent, ?_, nofun, fun _ => hestablished (hest hpc trivial), ?_,
      Or.inl ⟨rfl, Or.inl trivial⟩⟩
    · rintro w' (hw | hw) <;> cases hw
    · simpa [DescriptorInPlace, hpc] using hd

/-- **Every step keeps a connection accounted for**, unless it is one of the silent
ways out. -/
theorem step (h : c.Accounted) {l : Label} (hok : NoSilentEnd c l) (hs : c.step l = some c') :
    c'.Accounted := by
  cases l with
  | input l =>
    have hkeeps := inputStep_keeps hs
    exact h.keep hs hkeeps.connectPc hkeeps.pfdFd hkeeps.cliFd (Or.inl hkeeps.loop)
  | loop l =>
    have hret := h.returned_of_loopStep hs
    have hor := h.running_or_reported hret hok hs
    have hs' := hs
    obtain ⟨core, loop, buf, rcv, rfl, -⟩ := loopStep_eq hs'
    exact h.keep hs rfl rfl rfl (Or.inr ⟨hret, hor⟩)
  | connect ok => exact h.connect_step hok hs
  | deconstruct =>
    rcases deconstructStep_eq hs with ⟨-, rfl⟩ | ⟨-, -, rfl⟩ <;>
      exact h.keep hs rfl rfl rfl (Or.inl rfl)
  | notify l =>
    have hs' := hs
    obtain ⟨wl, out, rfl⟩ := notifyStep_eq hs'
    exact h.keep hs rfl rfl rfl (Or.inl rfl)

end Accounted

end Tcp

end Usbmuxd
