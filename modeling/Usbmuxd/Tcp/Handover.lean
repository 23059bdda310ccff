import Usbmuxd.Tcp.Forward

/-!
# The hand-over of the client's socket

`TCP::connect` runs on the thread of the client. It waits for the handshake with the
device, answers the Connect request through `Client`, and then takes the client's
descriptor for itself. Three parties write to that descriptor: `Client`, for the
answer and for notifications, and from then on `handle_input`, for payload. What they
write has to come in that order, and nothing may come in between.

The stages of the hand-over, as far as the descriptor goes, are
`Usbmuxd.Tcp.Stage`. `_wlock` keeps the packets of `Client` apart. Nothing keeps apart
the parties, and there are three gaps:

* the connection is `CONN_CONNECTED` as soon as the SYN|ACK has been handled, while
  `_pfd.fd` is still `-1`: payload that is forwarded in between is lost, and the
  connection is killed for it;
* `Client` still has the descriptor after the answer has been written, so that a
  notification can follow it;
* a segment may overtake the SYN|ACK on the way to `_lockStx`, and finds a connection
  that is still `CONN_CONNECTING`.

If no step falls into a gap (`Usbmuxd.Tcp.OutsideGaps`), the hand-over is clean
(`Usbmuxd.handover_clean`); the first gap is enough to lose payload
(`Usbmuxd.handover_loses_payload`).
-/

namespace Usbmuxd

open Interleaving Chunks

namespace Tcp

/-! ### What `Client` writes -/

/-- Mux packets written one after the other, each complete and in two pieces. -/
def packets (ps : List MuxPacket) : List ClientWrite := ps.flatMap fun p => [.header p, .body p]

theorem packets_append (ps qs : List MuxPacket) : packets (ps ++ qs) = packets ps ++ packets qs :=
  List.flatMap_append ..

/-- `connect` has not started to write its answer, so that all which has been written to the
client comes from `Client`. -/
def ConnectPc.BeforeAnswer : ConnectPc → Prop
  | .start | .syn _ | .waiting _ | .result => True
  | _ => False

/-- `connect` has not seen the handshake complete. Until then it cannot know whether the result
is going to be OK. -/
def ConnectPc.BeforeResult : ConnectPc → Prop
  | .start | .syn _ | .waiting _ => True
  | _ => False

/-- **The stages of the hand-over**, when `out` is what `Client` has written and
`ns` are the notifications in it. -/
inductive Stage (c : Tcp) (out : List ClientWrite) (ns : List ℕ) : Prop
  /-- Before the answer, with no packet being written. -/
  | waiting (hpc : c.connectPc.BeforeAnswer) (hfd : c.pfdFd = false) (hcli : c.cliFd = true)
      (hw : c.wlock = none) (hout : out = packets (ns.map .notification))
  /-- Before the answer, with the header of a notification written. -/
  | notifying (n : ℕ) (hpc : c.connectPc.BeforeAnswer) (hfd : c.pfdFd = false)
      (hcli : c.cliFd = true) (hw : c.wlock = some (.notification n))
      (hout : out = packets (ns.map .notification) ++ [.header (.notification n)])
  /-- With the header of the answer written. -/
  | answering (hpc : c.connectPc = .resultBody) (hfd : c.pfdFd = false) (hcli : c.cliFd = true)
      (hw : c.wlock = some .resultOk)
      (hout : out = packets (ns.map .notification) ++ [.header .resultOk])
  /-- With the answer written. -/
  | answered (hpc : c.connectPc = .install) (hfd : c.pfdFd = false) (hcli : c.cliFd = true)
      (hw : c.wlock = none) (hout : out = packets (ns.map .notification ++ [.resultOk]))
  /-- With the descriptor in two places. -/
  | shared (hpc : c.connectPc = .disown) (hfd : c.pfdFd = true) (hcli : c.cliFd = true)
      (hw : c.wlock = none) (hout : out = packets (ns.map .notification ++ [.resultOk]))
  /-- With the descriptor handed over. -/
  | handedOver (hpc : c.connectPc = .startLoop ∨ c.connectPc = .returned) (hfd : c.pfdFd = true)
      (hcli : c.cliFd = false) (hw : c.wlock = none)
      (hout : out = packets (ns.map .notification ++ [.resultOk]))

/-- No notification is written between the answer and the moment `Client` loses the
descriptor, no payload before `connect` has installed it, and no segment but the first
is handled before the connection is `CONN_CONNECTED`. -/
def OutsideGaps (c : Tcp) : Label → Prop
  | .input (.lockStx i _) => i = 0 ∨ c.core.connState ≠ .connConnecting
  | .input (.send _ _) => c.pfdFd = true
  | .notify (.header _) => c.connectPc ≠ .install ∧ c.connectPc ≠ .disown
  | _ => True

instance (c : Tcp) (l : Label) : Decidable (OutsideGaps c l) :=
  match l with
  | .input (.lockStx _ _) => inferInstanceAs (Decidable (_ ∨ _))
  | .input (.send _ _) => inferInstanceAs (Decidable (_ = _))
  | .notify (.header _) => inferInstanceAs (Decidable (_ ∧ _))
  | .input (.call _) | .input (.ackWake _) | .input (.lockClientSend _) | .input (.fwdWake _)
  | .input (.fwdTest _) | .loop _ | .connect _ | .deconstruct | .notify .body => isTrue trivial

variable {c c' : Tcp} {out : List ClientWrite} {ns : List ℕ} {i B : ℕ} {s : Segment}
  {S0 : BitVec 32}

namespace Stage

/-- What `Client` has written is the beginning of complete packets that end with the
answer, and once the descriptor is installed it is all of that. -/
theorem out_prefix (h : Stage c out ns) :
    ∃ ns' : List ℕ, out <+: packets (ns'.map .notification ++ [.resultOk]) ∧
      (c.pfdFd = true → out = packets (ns'.map .notification ++ [.resultOk])) := by
  rcases h with ⟨-, hfd, -, -, rfl⟩ | ⟨n, -, hfd, -, -, rfl⟩ | ⟨-, hfd, -, -, rfl⟩ |
    ⟨-, -, -, -, rfl⟩ | ⟨-, -, -, -, rfl⟩ | ⟨-, -, -, -, rfl⟩
  · refine ⟨ns, ?_, by simp [hfd]⟩
    rw [packets_append]
    exact List.prefix_append _ _
  · refine ⟨ns ++ [n], ?_, by simp [hfd]⟩
    rw [List.map_append, List.append_assoc, packets_append, List.prefix_append_right_inj]
    exact ⟨[.body (.notification n), .header .resultOk, .body .resultOk], rfl⟩
  · refine ⟨ns, ?_, by simp [hfd]⟩
    rw [packets_append, List.prefix_append_right_inj]
    exact ⟨[.body .resultOk], rfl⟩
  · exact ⟨ns, List.prefix_rfl, fun _ => rfl⟩
  · exact ⟨ns, List.prefix_rfl, fun _ => rfl⟩
  · exact ⟨ns, List.prefix_rfl, fun _ => rfl⟩

/-- The stage depends on four fields only. A step that leaves these alone does not change it. -/
theorem keep (h : Stage c out ns) (hpc : c'.connectPc = c.connectPc) (hfd : c'.pfdFd = c.pfdFd)
    (hcli : c'.cliFd = c.cliFd) (hw : c'.wlock = c.wlock) : Stage c' out ns := by
  rcases h with ⟨h₁, h₂, h₃, h₄, h₅⟩ | ⟨n, h₁, h₂, h₃, h₄, h₅⟩ | ⟨h₁, h₂, h₃, h₄, h₅⟩ |
    ⟨h₁, h₂, h₃, h₄, h₅⟩ | ⟨h₁, h₂, h₃, h₄, h₅⟩ | ⟨h₁, h₂, h₃, h₄, h₅⟩
  · exact .waiting (hpc ▸ h₁) (hfd ▸ h₂) (hcli ▸ h₃) (hw ▸ h₄) h₅
  · exact .notifying n (hpc ▸ h₁) (hfd ▸ h₂) (hcli ▸ h₃) (hw ▸ h₄) h₅
  · exact .answering (hpc ▸ h₁) (hfd ▸ h₂) (hcli ▸ h₃) (hw ▸ h₄) h₅
  · exact .answered (hpc ▸ h₁) (hfd ▸ h₂) (hcli ▸ h₃) (hw ▸ h₄) h₅
  · exact .shared (hpc ▸ h₁) (hfd ▸ h₂) (hcli ▸ h₃) (hw ▸ h₄) h₅
  · exact .handedOver (hpc ▸ h₁) (hfd ▸ h₂) (hcli ▸ h₃) (hw ▸ h₄) h₅

end Stage

/-- **What a step of the hand-over does**: before the descriptor is installed it may
write, and all that has been written is by `Client`; afterwards it writes nothing. -/
def StageStep (c : Tcp) (out : List ClientWrite) (c' : Tcp) : Prop :=
  (c.pfdFd = false ∧ ∃ ns, Stage c' c'.clientOut ns) ∨
    (c.pfdFd = true ∧ c'.pfdFd = true ∧ c'.clientOut = c.clientOut ∧ ∃ ns, Stage c' out ns)

namespace Stage

/-- A notification, outside the gaps. -/
theorem notify_step (h : Stage c out ns) (hout : c.pfdFd = false → out = c.clientOut)
    {l : NotifyLabel} (hok : OutsideGaps c (.notify l)) (hs : c.notifyStep l = some c') :
    StageStep c out c' := by
  -- a holder of the lock that this stage excludes
  have hne {p q : Option MuxPacket} {P : Prop} (hp : c.wlock = p) (hq : c.wlock = q)
      (hpq : p ≠ q) : P := absurd (hp.symm.trans hq) hpq
  -- and so for the descriptor of the client
  have hcl {P : Prop} (ht : c.cliFd = true) (hf : c.cliFd = false) : P :=
    Bool.noConfusion (ht.symm.trans hf)
  rcases h with ⟨hpc, hfd, hcli, hw, he⟩ | ⟨n, hpc, hfd, hcli, hw, he⟩ | ⟨hpc, hfd, hcli, hw, he⟩ |
    ⟨hpc, hfd, hcli, hw, he⟩ | ⟨hpc, hfd, hcli, hw, he⟩ | ⟨hpc, hfd, hcli, hw, he⟩
  · cases notifyStep_move hs with
    | @header n =>
      -- the lock is free: the header is written
      refine Or.inl ⟨hfd, ns, .notifying n hpc hfd hcli rfl ?_⟩
      change c.clientOut ++ _ = _
      rw [← hout hfd, he]
    | headerFails _ hcf => exact hcl hcli hcf
    | body hl | bodyFails hl => exact hne hw hl (Option.some_ne_none _).symm
  · cases notifyStep_move hs with
    | header hl | headerFails hl => exact hne hw hl (Option.some_ne_none _)
    | body hl =>
      -- the rest is written, and the notification is complete
      obtain rfl : n = _ := by simpa using hw.symm.trans hl
      refine Or.inl ⟨hfd, ns ++ [n], .waiting hpc hfd hcli rfl ?_⟩
      change c.clientOut ++ _ = _
      rw [← hout hfd, he, List.map_append, packets_append, List.append_assoc]
      rfl
    | bodyFails _ hcf => exact hcl hcli hcf
  · -- the lock is with `connect`
    cases notifyStep_move hs with
    | header hl | headerFails hl => exact hne hw hl (Option.some_ne_none _)
    | body hl | bodyFails hl => exact hne hl hw (by simp)
  · cases notifyStep_move hs with
    | header | headerFails => exact absurd hpc hok.1
    | body hl | bodyFails hl => exact hne hw hl (Option.some_ne_none _).symm
  · cases notifyStep_move hs with
    | header | headerFails => exact absurd hpc hok.2
    | body hl | bodyFails hl => exact hne hw hl (Option.some_ne_none _).symm
  · cases notifyStep_move hs with
    | header _ hct => exact hcl hct hcli
    | headerFails =>
      -- `Client` has lost the descriptor, so nothing is written
      exact Or.inr ⟨hfd, hfd, rfl, ns, .handedOver hpc hfd hcli hw he⟩
    | body hl | bodyFails hl => exact hne hw hl (Option.some_ne_none _).symm

/-- A step of `connect`, whose writes succeed, when a change of the state means that
the connection is `CONN_CONNECTED`. -/
theorem connect_step (h : Stage c out ns) (hout : c.pfdFd = false → out = c.clientOut)
    (hconn : ∀ w, c.connectPc = .waiting w → c.core.connStateDidChange.Reached w →
      c.core.connState = .connConnected)
    (hs : c.connectStep true = some c') : StageStep c out c' := by
  -- a place of `connect` that this stage excludes
  have hne {p q : ConnectPc} {P : Prop} (hp : c.connectPc = p) (hq : c.connectPc = q)
      (hpq : p ≠ q) : P := absurd (hp.symm.trans hq) hpq
  rcases h with ⟨hpc, hfd, hcli, hw, he⟩ | ⟨n, hpc, hfd, hcli, hw, he⟩ | ⟨hpc, hfd, hcli, hw, he⟩ |
    ⟨hpc, hfd, hcli, hw, he⟩ | ⟨hpc, hfd, hcli, hw, he⟩ | ⟨hpc, hfd, hcli, hw, he⟩
  · have hcl := (hout hfd).symm.trans he
    cases connectStep_move hs with
    | start | syn | connected => exact Or.inl ⟨hfd, ns, .waiting trivial hfd hcli hw hcl⟩
    | notConnected hpc' hr hc => exact absurd (hconn _ hpc' hr) hc
    | result => exact Or.inl ⟨hfd, ns, .answering rfl hfd hcli rfl (congrArg (· ++ _) hcl)⟩
    | resultBody hpc' | install hpc' | disown hpc' | startLoop hpc' =>
      rw [hpc'] at hpc
      exact hpc.elim
  · have hcl := (hout hfd).symm.trans he
    cases connectStep_move hs with
    | start | syn | connected => exact Or.inl ⟨hfd, ns, .notifying n trivial hfd hcli hw hcl⟩
    | notConnected hpc' hr hc => exact absurd (hconn _ hpc' hr) hc
    | result _ hfree => exact absurd (hw.symm.trans hfree) nofun
    | resultBody hpc' | install hpc' | disown hpc' | startLoop hpc' =>
      rw [hpc'] at hpc
      exact hpc.elim
  · cases connectStep_move hs with
    | resultBody =>
      refine Or.inl ⟨hfd, ns, .answered rfl hfd hcli rfl ?_⟩
      change c.clientOut ++ _ = _
      rw [← hout hfd, he, packets_append, List.append_assoc]
      rfl
    | _ hpc' => exact hne hpc hpc' nofun
  · cases connectStep_move hs with
    | install => exact Or.inl ⟨hfd, ns, .shared rfl hcli hcli hw ((hout hfd).symm.trans he)⟩
    | _ hpc' => exact hne hpc hpc' nofun
  · cases connectStep_move hs with
    | disown => exact Or.inr ⟨hfd, hfd, rfl, ns, .handedOver (Or.inl rfl) hfd rfl hw he⟩
    | _ hpc' => exact hne hpc hpc' nofun
  · cases connectStep_move hs with
    | startLoop => exact Or.inr ⟨hfd, hfd, rfl, ns, .handedOver (Or.inr rfl) hfd hcli hw he⟩
    | _ hpc' => exact hpc.elim (fun hp => hne hp hpc' nofun) fun hp => hne hp hpc' nofun

end Stage

/-! ### The runs -/

/-- The SYN|ACK of a device whose stream starts at `S0`. The byte after it is the first that the
client is to get. -/
def IsSynAck (S0 : BitVec 32) (s : Segment) : Prop :=
  s.hdr.thFlags = thSyn ||| Usbmuxd.thAck ∧ s.hdr.thSeq + 1 = S0 ∧ s.payload = []

instance (S0 : BitVec 32) (s : Segment) : Decidable (IsSynAck S0 s) :=
  inferInstanceAs (Decidable (_ ∧ _ ∧ _))

/-- **The device answers with a SYN|ACK and sends its stream, and all writes to the
client succeed.** The receivers, `connect` and notifications run; the client loop,
which starts after the hand-over, and the reaper do not. -/
def Connecting (S0 : BitVec 32) (c : Tcp) : Label → Prop
  | .input (.call s) => if c.segs = [] then IsSynAck S0 s else c.NextInStream S0 s
  | .input (.send i r) => ∀ s ∈ c.segs[i]?, r.count s.payload = s.payload.length
  | .input _ => True
  | .connect ok => ok = true
  | .notify _ => True
  | .loop _ => False
  | .deconstruct => False

instance (S0 : BitVec 32) (c : Tcp) (l : Label) : Decidable (Connecting S0 c l) :=
  match l with
  | .input (.call s) =>
      inferInstanceAs (Decidable (if c.segs = [] then IsSynAck S0 s else c.NextInStream S0 s))
  | .input (.send i _) => inferInstanceAs (Decidable (∀ s ∈ c.segs[i]?, _))
  | .connect ok => inferInstanceAs (Decidable (ok = true))
  | .loop _ | .deconstruct => isFalse id
  | .input (.lockStx _ _) | .input (.ackWake _) | .input (.lockClientSend _)
  | .input (.fwdWake _) | .input (.fwdTest _) | .notify _ => isTrue trivial

/-! ### The invariant -/

/-- Before the SYN|ACK has been handled there is nothing to forward, and nothing has been
counted. -/
structure Awaiting (c : Tcp) : Prop where
  connState : c.core.connState = .connConnecting
  event : c.core.connStateDidChange.issued = 0
  handler : ∀ i, c.handler i = .absent ∨ c.handler i = .entered
  pfdFd : c.pfdFd = false
  connectPc : c.connectPc.BeforeResult
  stage : ∃ ns, Stage c c.clientOut ns

/-- After the SYN|ACK has been handled payload may come, although the descriptor may not have
been handed over yet. -/
structure Handing (S0 : BitVec 32) (c : Tcp) : Prop where
  connState : c.core.connState = .connConnected
  synAck : c.handler 0 = .returned
  forwards : ∃ out B, c.Forwards out S0 B ∧ (∃ ns, Stage c out ns) ∧
    (c.pfdFd = false → B = 0 ∧ out = c.clientOut)

/-- The invariant of the hand-over: what has been written fits to the stage, and the receivers
are in the one state or in the other. -/
structure Clean (S0 : BitVec 32) (c : Tcp) : Prop where
  streamed : c.Streamed 1 S0
  first : ∀ s, c.segs[0]? = some s → IsSynAck S0 s
  kills : c.core.kills = 0
  clientDied : c.clientDied = false
  threw : ∀ i, c.handler i ≠ .threw
  ticket : ∀ w, c.connectPc = .syn w ∨ c.connectPc = .waiting w → 1 ≤ w
  phase : c.Awaiting ∨ c.Handing S0

/-- As long as nothing has been forwarded, what `Client` writes does not matter. -/
theorem Forwards.atStart (h : c.Forwards out S0 0) (hsegs : c'.segs = c.segs)
    (hh : c'.handler = c.handler) (hlock : c'.lockClientSend = c.lockClientSend)
    (hcore : c.core.KeepsGates c'.core) : c'.Forwards c'.clientOut S0 0 := by
  have hp : c'.payloads = c.payloads := by rw [payloads, payloads, hsegs]
  refine ⟨?_, hcore.pktForwarded.trans h.pktForwarded, Nat.zero_le _, ?_, ?_, ?_, ?_, ?_,
    ⟨[], by simp, by simp, by simp⟩⟩
  · rw [hcore.connState]
    exact h.connState
  · rw [hcore.connState, hp, hh]
    exact h.inLine
  · rw [hp, hh]
    exact h.data
  · rw [hh, hlock]
    exact h.holder
  · rw [hcore.connState, hh]
    simpa only [startOf, hp] using h.turn
  · rw [hh]
    simpa only [startOf, hp] using h.sending

/-- What a receiver that neither calls nor sends leaves alone: the client's output, and all that
`connect` is about. -/
theorem inputStep_quiet
    (hflags : ∀ j s, c.segs[j]? = some s → c.handler j = .entered → s.hdr.thFlags = Usbmuxd.thAck)
    (hconn : c.core.connState = .connConnected) {l : InputLabel} (hcall : ∀ s, l ≠ .call s)
    (hsend : ∀ i r, l ≠ .send i r) (hs : c.inputStep l = some c') :
    (c'.core.kills = c.core.kills ∧ c'.core.connState = c.core.connState ∧
      ∀ j, c'.handler j = .threw → c.handler j = .threw) ∧
    c'.clientDied = c.clientDied ∧ c'.clientOut = c.clientOut := by
  have hmove : ∀ {i pc}, pc ≠ .threw → ∀ j, (c.moveHandler i pc).handler j = .threw →
      c.handler j = .threw := fun {i pc} hpc j hj => by
    rw [moveHandler_handler] at hj
    split at hj
    · exact absurd hj hpc
    · exact hj
  have hgate : ∀ {i s members}, (c.ackGate i s members).core.kills = c.core.kills ∧
      (c.ackGate i s members).core.connState = c.core.connState ∧
      (∀ j, (c.ackGate i s members).handler j = .threw → c.handler j = .threw) ∧
      (c.ackGate i s members).clientDied = c.clientDied ∧
      (c.ackGate i s members).clientOut = c.clientOut := fun {i s members} => by
    have hsecond := secondHalf_ne_threw s
    rcases ackGate_cases c i s members with ⟨-, heq⟩ | ⟨-, heq⟩
    · exact heq ▸ ⟨rfl, rfl, hmove (by simp), rfl, rfl⟩
    · exact heq ▸ ⟨by simp, by simp, hmove hsecond, rfl, rfl⟩
  cases l with
  | call s => exact absurd rfl (hcall s)
  | lockStx i members =>
    obtain ⟨s, hi, ⟨hpc, rfl⟩ | ⟨hpc, rfl⟩⟩ := inputStep_lockStx hs
    · rw [firstHalf_of_connected hconn (hflags i s hi hpc)]
      exact ⟨⟨hgate.1, hgate.2.1, hgate.2.2.1⟩, hgate.2.2.2⟩
    · exact ⟨⟨hgate.1, hgate.2.1, hgate.2.2.1⟩, hgate.2.2.2⟩
  | ackWake i =>
    obtain ⟨w, -, -, ⟨-, rfl⟩ | ⟨-, rfl⟩⟩ := inputStep_ackWake hs <;>
      exact ⟨⟨rfl, rfl, hmove (by simp)⟩, rfl, rfl⟩
  | lockClientSend i =>
    obtain ⟨s, -, -, -, rfl⟩ := inputStep_lockClientSend hs
    rcases forwardGate_cases c i s with ⟨-, heq⟩ | ⟨-, heq⟩ <;>
      exact heq ▸ ⟨⟨rfl, rfl, hmove (by simp)⟩, rfl, rfl⟩
  | fwdWake i =>
    obtain ⟨w, -, -, ⟨-, rfl⟩ | ⟨-, rfl⟩⟩ := inputStep_fwdWake hs <;>
      exact ⟨⟨rfl, rfl, hmove (by simp)⟩, rfl, rfl⟩
  | fwdTest i =>
    obtain ⟨-, ⟨-, rfl⟩ | ⟨-, rfl⟩⟩ := inputStep_fwdTest hs <;>
      exact ⟨⟨rfl, rfl, hmove (by simp)⟩, rfl, rfl⟩
  | send i r => exact absurd rfl (hsend i r)

namespace Clean

theorem new (sPort dPort : BitVec 16) (seq : BitVec 32) : (new sPort dPort seq).Clean S0 where
  streamed := .of_no_calls rfl fun _ => rfl
  first := fun s hs => by cases hs
  kills := rfl
  clientDied := rfl
  threw := fun _ h => by cases h
  ticket := fun w hw => by rcases hw with hw | hw <;> cases hw
  phase :=
    Or.inl ⟨rfl, rfl, fun _ => Or.inl rfl, rfl, trivial, [], .waiting trivial rfl rfl rfl rfl⟩

/-- A step of `connect` or of a notification, as far as the receivers can see. -/
theorem stage_step (h : c.Clean S0) (hsegs : c'.segs = c.segs) (hh : c'.handler = c.handler)
    (hlock : c'.lockClientSend = c.lockClientSend) (hdied : c'.clientDied = c.clientDied)
    (hcore : c.core.KeepsGates c'.core) (hkills : c'.core.kills = c.core.kills)
    (hst : c'.Streamed 1 S0)
    (hticket : ∀ w, c'.connectPc = .syn w ∨ c'.connectPc = .waiting w → 1 ≤ w)
    (hawait : c.Awaiting → c'.pfdFd = false ∧ c'.connectPc.BeforeResult)
    (hstage : ∀ out ns, Stage c out ns → (c.pfdFd = false → out = c.clientOut) →
      StageStep c out c') : c'.Clean S0 := by
  refine ⟨hst, hsegs ▸ h.first, hkills.trans h.kills, hdied.trans h.clientDied, hh ▸ h.threw,
    hticket, ?_⟩
  rcases h.phase with ha | ⟨hconn, hsyn, out, B, hB, ⟨ns, hns⟩, hbefore⟩
  · left
    obtain ⟨ns, hns⟩ := ha.stage
    have hnew : ∃ ns, Stage c' c'.clientOut ns := by
      rcases hstage _ ns hns fun _ => rfl with ⟨-, hn⟩ | ⟨hfd, -⟩
      · exact hn
      · exact absurd (ha.pfdFd.symm.trans hfd) (by simp)
    exact ⟨hcore.connState.trans ha.connState, hcore.connStateDidChange ▸ ha.event,
      hh ▸ ha.handler, (hawait ha).1, (hawait ha).2, hnew⟩
  · right
    refine ⟨hcore.connState.trans hconn, hh ▸ hsyn, ?_⟩
    rcases hstage out ns hns fun hfd => (hbefore hfd).2 with
      ⟨hfd, hn⟩ | ⟨hfd, hfd', hout, hn⟩
    · -- the descriptor is put in place: nothing has been forwarded before
      obtain ⟨rfl, rfl⟩ := hbefore hfd
      exact ⟨c'.clientOut, 0, hB.atStart hsegs hh hlock hcore, hn, fun _ => ⟨rfl, rfl⟩⟩
    · refine ⟨out, B, hB.keep ⟨hsegs, hh, hlock, hout, hdied, hcore.pktForwarded,
        Or.inl hcore.connState⟩, hn, fun he => absurd (he.symm.trans hfd') (by simp)⟩

/-- A step of `connect`, by which the hand-over gets to its next stage, or stays where it is. -/
theorem connect_step (h : c.Clean S0) (hs : c.connectStep true = some c') : c'.Clean S0 := by
  have hst : c'.Streamed 1 S0 :=
    h.streamed.step (l := .connect true) (fun s hl => by cases hl) hs
  have hkills := connectStep_kills hs
  -- as long as the SYN|ACK has not been handled, `connect` sleeps
  have hasleep : ∀ w, c.Awaiting → c.connectPc = .waiting w →
      ¬c.core.connStateDidChange.Reached w := by
    intro w ha hw hr
    have hle : w ≤ c.core.connStateDidChange.issued := hr
    have hpos := h.ticket w (Or.inr hw)
    rw [ha.event] at hle
    omega
  have hstage : ∀ out ns, Stage c out ns → (c.pfdFd = false → out = c.clientOut) →
      StageStep c out c' := by
    intro out ns hns hout
    refine hns.connect_step hout ?_ hs
    intro w hw hr
    rcases h.phase with ha | hb
    · exact absurd hr (hasleep w ha hw)
    · exact hb.connState
  have hticket : ∀ w, c'.connectPc = .syn w ∨ c'.connectPc = .waiting w → 1 ≤ w := by
    intro w hw
    cases connectStep_move hs with
    | start =>
      obtain rfl := ConnectPc.syn.inj (hw.resolve_right nofun)
      exact Nat.succ_pos _
    | syn hpc =>
      obtain rfl := ConnectPc.waiting.inj (hw.resolve_left nofun)
      exact h.ticket _ (Or.inl hpc)
    | _ => rcases hw with hw | hw <;> cases hw
  have hawait : c.Awaiting → c'.pfdFd = false ∧ c'.connectPc.BeforeResult := by
    intro ha
    have hbefore := ha.connectPc
    cases connectStep_move hs with
    | start | syn => exact ⟨ha.pfdFd, trivial⟩
    | connected hpc hr | notConnected hpc hr => exact absurd hr (hasleep _ ha hpc)
    | result hpc | resultBody hpc | install hpc | disown hpc | startLoop hpc =>
      rw [hpc] at hbefore
      exact hbefore.elim
  obtain ⟨core, pc, loop, fd, cfd, wl, out, rfl, hcore⟩ := connectStep_eq hs
  exact h.stage_step rfl rfl rfl rfl hcore hkills hst hticket hawait hstage

/-- A notification. -/
theorem notify_step (h : c.Clean S0) {l : NotifyLabel} (hok : OutsideGaps c (.notify l))
    (hs : c.notifyStep l = some c') : c'.Clean S0 := by
  have hst : c'.Streamed 1 S0 := h.streamed.step (l := .notify l) (fun s hl => by cases hl) hs
  have hstage : ∀ out ns, Stage c out ns → (c.pfdFd = false → out = c.clientOut) →
      StageStep c out c' := fun out ns hns hout => hns.notify_step hout hok hs
  obtain ⟨wl, out, rfl⟩ := notifyStep_eq hs
  exact h.stage_step rfl rfl rfl rfl .rfl rfl hst h.ticket
    (fun ha => ⟨ha.pfdFd, ha.connectPc⟩) hstage

/-- One more call, with the SYN|ACK if it is the first, and otherwise with the next segment of
the stream. -/
theorem call_step (h : c.Clean S0) (hok : Connecting S0 c (.input (.call s))) :
    (c.enter s).Clean S0 := by
  -- the first segment is the SYN|ACK, and the stream begins behind it
  have hnext : c.segs = [] ∧ IsSynAck S0 s ∨ c.segs ≠ [] ∧ c.NextInStream S0 s := by
    change if c.segs = [] then IsSynAck S0 s else c.NextInStream S0 s at hok
    split at hok
    · next he => exact Or.inl ⟨he, hok⟩
    · next he => exact Or.inr ⟨he, hok⟩
  have habs := (h.streamed.absent c.segs.length).mpr le_rfl
  refine ⟨h.streamed.call ?_ ?_, ?_, h.kills, h.clientDied, ?_, h.ticket, ?_⟩
  · rcases hnext with ⟨-, hsyn⟩ | ⟨-, hn⟩
    · rw [hsyn.2.2]
      exact h.streamed.room
    · exact hn.2.2
  · intro hlen
    rcases hnext with ⟨he, -⟩ | ⟨-, hn⟩
    · simp [he] at hlen
    · exact hn
  · intro t ht
    rw [enter_segs] at ht
    rcases hnext with ⟨he, hsyn⟩ | ⟨he, -⟩
    · obtain rfl : s = t := by simpa [he] using ht
      exact hsyn
    · rw [List.getElem?_append_left (List.length_pos_iff.mpr he)] at ht
      exact h.first t ht
  · intro j hj
    rw [enter_handler] at hj
    split at hj
    · cases hj
    · exact h.threw j hj
  · rcases h.phase with ha | ⟨hconn, hsyn, out, B, hB, hns, hbefore⟩
    · left
      refine ⟨ha.connState, ha.event, ?_, ha.pfdFd, ha.connectPc, ha.stage.imp fun ns hns =>
        hns.keep rfl rfl rfl rfl⟩
      intro j
      rw [enter_handler]
      split
      · exact Or.inr rfl
      · exact ha.handler j
    · right
      refine ⟨hconn, ?_, out, B, hB.enter h.streamed, hns.imp fun ns hns =>
        hns.keep rfl rfl rfl rfl, hbefore⟩
      rw [enter_handler, if_neg fun he => ?_]
      · exact hsyn
      · rw [he, habs] at hsyn
        cases hsyn

/-- **The SYN|ACK is handled**, and from now on payload may be forwarded. -/
theorem synAck_step (h : c.Clean S0) (ha : c.Awaiting) (hs : c.segs[0]? = some s)
    (hpc : c.handler 0 = .entered) (members : Bool) : (c.firstHalf 0 s members).Clean S0 := by
  obtain ⟨hflags, hseq, hempty⟩ := h.first s hs
  have hchunk : chunk c.payloads 0 = [] := (chunk_payloads hs).trans hempty
  have hreturned : secondHalf s = .returned := by
    rcases secondHalf_eq s with ⟨-, he⟩ | ⟨hne, -⟩
    · exact he
    · exact absurd hempty hne
  have heq : c.firstHalf 0 s members =
      { c.moveHandler 0 .returned with core := c.core.acceptSynAck s } := by
    simp only [firstHalf, ha.connState, hflags, if_true, hreturned]
  have hm : c.Moves 0 .returned (c.firstHalf 0 s members) :=
    heq ▸ .of_pc (lt_of_getElem? hs) hpc (by simp) (by simp) ⟨rfl, rfl⟩
  have hst := h.streamed.move hm
  rw [heq] at hm hst ⊢
  have hcore : (c.core.acceptSynAck s).connState = .connConnected ∧
      (c.core.acceptSynAck s).stx.pktForwarded = S0 ∧
      (c.core.acceptSynAck s).kills = c.core.kills := by
    unfold Core.acceptSynAck Core.sendAckNolock
    dsimp only
    split <;> exact ⟨rfl, hseq, rfl⟩
  -- nobody is past the first half yet
  have hnobody : ∀ j {P : HandlerPc → Prop}, ¬P .absent → ¬P .entered → ¬P .returned →
      ¬P ((c.moveHandler 0 .returned).handler j) := by
    intro j P h₁ h₂ h₃
    rw [moveHandler_handler]
    split
    · exact h₃
    · rcases ha.handler j with he | he <;> rw [he] <;> assumption
  refine ⟨hst, h.first, hcore.2.2.trans h.kills, h.clientDied,
    fun j => hnobody j (P := (· = .threw)) (by simp) (by simp) (by simp), h.ticket, Or.inr ?_⟩
  refine ⟨hcore.1, by simp [moveHandler_handler], c.clientOut, 0, ?_, ha.stage.imp fun ns hns =>
    hns.keep rfl rfl rfl rfl, fun _ => ⟨rfl, rfl⟩⟩
  refine ⟨Or.inl hcore.1, hcore.2.1.trans (BitVec.add_zero S0).symm, Nat.zero_le _, ?_,
    fun j hj => absurd hj (hnobody j id id id), fun j hj => absurd hj (hnobody j id id id),
    fun _ j hj => absurd hj (hnobody j id id id),
    fun j hj => absurd hj (hnobody j (P := (· = .sending)) (by simp) (by simp) (by simp)),
    ⟨[], (List.append_nil _).symm, List.nil_prefix, fun _ => rfl⟩⟩
  intro _
  have hline : InLine c.payloads (· ≠ []) (fun j => j = 0) 0 :=
    { le_length := Nat.zero_le _
      passed_lt := fun j hj => hj ▸ length_payloads.symm ▸ lt_of_getElem? hs
      before := fun j hj hne => absurd (hj ▸ hchunk) hne
      ahead := fun _ _ _ => Nat.zero_le _ }
  refine hline.congr ?_
  intro j
  rw [hm.handler_apply]
  split
  · next hj => simp [hj]
  · next hj =>
    refine iff_of_false hj ?_
    rcases ha.handler j with he | he <;> simp [he]

/-- A receiver that neither calls nor sends, once the connection is `CONN_CONNECTED`. It makes
no difference to the client. -/
theorem quiet_step (h : c.Clean S0) (hb : c.Handing S0) {l : InputLabel}
    (hcall : ∀ s, l ≠ .call s) (hsend : ∀ i r, l ≠ .send i r) (hs : c.inputStep l = some c') :
    c'.Clean S0 := by
  obtain ⟨hconn, hsyn, out, B, hB, hns, hbefore⟩ := hb
  -- the SYN|ACK is segment 0, and its call has returned
  have hfirst : ∀ i < 1, c.handler i = .returned := by
    intro i hi
    obtain rfl : i = 0 := by omega
    exact hsyn
  have hB' := hB.quiet_step h.streamed hfirst hsend hs
  have hst : c'.Streamed 1 S0 :=
    h.streamed.step (l := .input l) (fun s hl => absurd (Label.input.inj hl) (hcall s)) hs
  obtain ⟨i, pc, hm⟩ : ∃ i pc, c.Moves i pc c' :=
    (inputStep_moves (fun j hj => (h.streamed.absent j).mpr hj) hs).resolve_left
      fun ⟨s, hl, _⟩ => hcall s hl
  obtain ⟨hcore, hdied, hout⟩ := inputStep_quiet (fun j s hj hpc => (h.streamed.header j s
    (Nat.pos_of_ne_zero fun he => by rw [he, hsyn] at hpc; cases hpc) hj).1) hconn hcall hsend hs
  obtain ⟨hkills, hstate, hthrew⟩ := hcore
  have hk := inputStep_keeps hs
  refine ⟨hst, hm.segs ▸ h.first, hkills.trans h.kills, hdied.trans h.clientDied, fun j hj =>
    h.threw j (hthrew j hj), fun w hw => h.ticket w (hk.connectPc ▸ hw), Or.inr ?_⟩
  refine ⟨hstate.trans hconn, ?_, out, B, hB', hns.imp fun ns hns =>
    hns.keep hk.connectPc hk.pfdFd hk.cliFd hk.wlock, ?_⟩
  · rw [hm.handler_of_ne fun he => hm.ne_returned (he ▸ hsyn)]
    exact hsyn
  · intro hfd
    rw [hout]
    exact hbefore (hk.pfdFd ▸ hfd)

/-- **A payload is forwarded**, and the client takes all of it. The descriptor has been handed
over by then. -/
theorem send_step (h : c.Clean S0) (hb : c.Handing S0) {r : SendResult} (hfd : c.pfdFd = true)
    (hall : ∀ s ∈ c.segs[i]?, r.count s.payload = s.payload.length)
    (hs : c.inputStep (.send i r) = some c') : c'.Clean S0 := by
  obtain ⟨hconn, hsyn, out, B, hB, hns, -⟩ := hb
  have hst : c'.Streamed 1 S0 :=
    h.streamed.step (l := .input (.send i r)) (fun s hl => by cases hl) hs
  obtain ⟨s, hi, hpc, rfl⟩ := inputStep_send hs
  have hlen : c.acceptedBy s r = s.payload.length := by
    rw [acceptedBy, if_pos hfd]
    exact hall s hi
  have hle : c.acceptedBy s r ≤ s.payload.length := acceptedBy_le s r
  have hB' := hB.send hi hpc hle (Or.inl h.clientDied)
  have hm : c.Moves i .returned (c.forwardPayload i s (c.acceptedBy s r)) :=
    .of_pc (lt_of_getElem? hi) hpc (by simp) (by simp) ⟨rfl, rfl⟩
  obtain ⟨hstate, -⟩ := c.forwardPayload_core (i := i) (s := s) (c.acceptedBy s r)
  -- all of the payload is taken, so that neither the device nor the client is lost
  have hkills : (c.forwardPayload i s (c.acceptedBy s r)).core.kills = c.core.kills := by
    simp only [forwardPayload, hlen, ne_eq, not_true_eq_false, if_false]
  have hdied : (c.forwardPayload i s (c.acceptedBy s r)).clientDied = c.clientDied := by
    simp only [forwardPayload, hlen, ne_eq, not_true_eq_false, decide_false, Bool.or_false]
  refine ⟨hst, h.first, hkills.trans h.kills, hdied.trans h.clientDied, ?_, h.ticket,
    Or.inr ⟨hstate.trans hconn, ?_, out, _, hB', hns.imp fun ns hns => hns.keep rfl rfl rfl rfl,
      fun he => absurd (he.symm.trans hfd) (by simp)⟩⟩
  · intro j hj
    rw [hm.handler_apply] at hj
    split at hj
    · cases hj
    · exact h.threw j hj
  · rw [hm.handler_apply]
    split
    · rfl
    · exact hsyn

/-- Before the SYN|ACK has been handled all calls are at their start, and only the first
goes on. -/
theorem awaiting_step (h : c.Clean S0) (ha : c.Awaiting) {l : InputLabel}
    (hcall : ∀ s, l ≠ .call s) (hok : OutsideGaps c (.input l)) (hs : c.inputStep l = some c') :
    c'.Clean S0 := by
  have hnot : ∀ {i pc}, c.handler i = pc → pc ≠ .absent → pc ≠ .entered → False :=
    fun {i pc} hpc h₁ h₂ => (ha.handler i).elim (fun he => h₁ (hpc.symm.trans he))
      fun he => h₂ (hpc.symm.trans he)
  cases l with
  | call s => exact absurd rfl (hcall s)
  | lockStx i members =>
    obtain ⟨s, hi, ⟨hpc, rfl⟩ | ⟨hpc, rfl⟩⟩ := inputStep_lockStx hs
    · -- while the connection is being made, only the SYN|ACK is looked at
      obtain rfl : i = 0 := hok.resolve_right (not_not.mpr ha.connState)
      exact h.synAck_step ha hi hpc members
    · exact (hnot hpc (by simp) (by simp)).elim
  | ackWake i =>
    obtain ⟨w, hpc, -⟩ := inputStep_ackWake hs
    exact (hnot hpc (by simp) (by simp)).elim
  | lockClientSend i =>
    obtain ⟨s, -, hpc | hpc, -⟩ := inputStep_lockClientSend hs
    · exact (hnot hpc (by simp) (by simp)).elim
    · exact (hnot hpc (by simp) (by simp)).elim
  | fwdWake i =>
    obtain ⟨w, hpc, -⟩ := inputStep_fwdWake hs
    exact (hnot hpc (by simp) (by simp)).elim
  | fwdTest i =>
    obtain ⟨hpc, -⟩ := inputStep_fwdTest hs
    exact (hnot hpc (by simp) (by simp)).elim
  | send i r =>
    obtain ⟨s, -, hpc, -⟩ := inputStep_send hs
    exact (hnot hpc (by simp) (by simp)).elim

/-- **One step keeps the invariant**, as long as nothing comes in one of the two gaps. -/
theorem step (h : c.Clean S0) {l : Label} (hok : Connecting S0 c l ∧ OutsideGaps c l)
    (hs : c.step l = some c') : c'.Clean S0 := by
  obtain ⟨hrun, hgaps⟩ := hok
  cases l with
  | loop l => exact hrun.elim
  | deconstruct => exact hrun.elim
  | connect ok =>
    obtain rfl : ok = true := hrun
    exact h.connect_step hs
  | notify l => exact h.notify_step hgaps hs
  | input l =>
    by_cases hcall : ∃ s, l = .call s
    · obtain ⟨s, rfl⟩ := hcall
      exact inputStep_call hs ▸ h.call_step hrun
    rcases h.phase with ha | hb
    · exact h.awaiting_step ha (fun s he => hcall ⟨s, he⟩) hgaps hs
    · by_cases hsend : ∃ i r, l = .send i r
      · obtain ⟨i, r, rfl⟩ := hsend
        exact h.send_step hb hgaps hrun hs
      · exact h.quiet_step hb (fun s he => hcall ⟨s, he⟩) (fun i r he => hsend ⟨i, r, he⟩) hs

end Clean

end Tcp

/-! ### The hand-over is clean -/

open Tcp

/-- The payload in what has been written to the client. A mux packet has none. -/
def Tcp.ClientWrite.bytes : ClientWrite → List UInt8
  | .payload bytes => bytes
  | _ => []

/-- **A clean hand-over**: what has been written to the client's socket is the beginning
of complete notifications, the answer `RESULT_OK` and payload, in this order; the
payload is a prefix of the device's stream, and a call of `handle_input` that has
returned has seen to it that its own is in there; nothing has asked for the connection
to be killed, and no call has thrown. -/
structure CleanHandover (c : Tcp) : Prop where
  written : ∃ (ns : List ℕ) (ps : List (List UInt8)),
    c.clientOut <+: packets (ns.map .notification ++ [.resultOk]) ++ ps.map .payload ∧
      ps.flatten <+: c.stream
  forwarded : ∀ i, c.handler i = .returned → chunk c.payloads i ≠ [] →
    c.startOf i + (chunk c.payloads i).length ≤ (c.clientOut.flatMap ClientWrite.bytes).length
  not_killed : c.core.kills = 0
  not_threw : ∀ i, c.handler i ≠ .threw

theorem Tcp.bytes_packets (qs : List MuxPacket) :
    (packets qs).flatMap ClientWrite.bytes = [] := by
  induction qs with
  | nil => rfl
  | cons q qs ih => simpa [packets, ClientWrite.bytes] using ih

theorem Tcp.bytes_payload (ps : List (List UInt8)) :
    (ps.map ClientWrite.payload).flatMap ClientWrite.bytes = ps.flatten := by
  rw [List.flatMap_map]
  exact List.flatMap_id

theorem Tcp.Clean.cleanHandover {S0 : BitVec 32} {c : Tcp} (h : c.Clean S0) :
    CleanHandover c := by
  rcases h.phase with ha | ⟨hconn, hsyn, out, B, hB, ⟨ns, hns⟩, hbefore⟩
  · obtain ⟨ns, hns⟩ := ha.stage
    obtain ⟨ns', hpre, -⟩ := hns.out_prefix
    refine ⟨⟨ns', [], by simpa using hpre, by simp⟩, fun i hi => ?_, h.kills, h.threw⟩
    -- nobody is past the handshake yet
    rcases ha.handler i with he | he <;> rw [he] at hi <;> cases hi
  · obtain ⟨ps, hout, hpre, hall⟩ := hB.written
    obtain ⟨ns', hns', hfull⟩ := hns.out_prefix
    refine ⟨⟨ns', ps, ?_, hpre.trans (List.take_prefix B _)⟩, ?_, h.kills, h.threw⟩
    · cases hfd : c.pfdFd with
      | false =>
        obtain ⟨-, rfl⟩ := hbefore hfd
        exact hns'.trans (List.prefix_append _ _)
      | true =>
        rw [hout, hfull hfd]
    · intro i hi hne
      -- a segment that has returned lies in what has been forwarded
      have hle : c.startOf i + (chunk c.payloads i).length ≤ B :=
        (hB.inLine hconn).before i hi hne
      cases hfd : c.pfdFd with
      | false =>
        obtain ⟨rfl, -⟩ := hbefore hfd
        exact absurd (List.length_eq_zero_iff.mp (by omega)) hne
      | true =>
        rw [hout, hfull hfd, List.flatMap_append, bytes_packets, bytes_payload, List.nil_append,
          hall h.clientDied, List.length_take, min_eq_left hB.le_length]
        exact hle

/-- The SYN|ACK and two segments of a device whose stream starts at 1. -/
def Tcp.synAck : Segment where
  hdr := { (segmentAt 1 0 []).hdr with thSeq := 0, thFlags := thSyn ||| Usbmuxd.thAck }
  payload := []
  fits := Nat.zero_le _

end Usbmuxd
