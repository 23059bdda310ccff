import Usbmuxd.Devices.Reaper

/-!
# Connections nobody works for

Every connection in `_conns` should have somebody who will see to its end: the thread
in `start_connect`, the client loop, or the reaper. A connection without is an *orphan*,
and it holds its port and the client's descriptor until the device goes away
(`Usbmuxd.Conns.NoOrphan`).

Three things are put together here. A connection that nobody works for has called
`kill`, or is being torn down (`Usbmuxd.Tcp.Accounted`), unless it took one of the
silent ways out. As long as it is registered, a connection that has called `kill` has a
request pending on its port, whoever posted it. And only the reaper tears a connection
down, which it does on a request for its port.

The two questions are kept apart: whether a connection comes to its end without anybody being
told, which is a question about one connection, and whether somebody who has been told will find
it, which is one about the device. The second has an answer without conditions. A request may be
served for another connection, if the port has been given out again in the meantime, but not
while the connection that has made it is registered. So all orphans come from the silent ways
out.
-/

namespace Usbmuxd

open Interleaving

namespace Conns

variable {d d' : Conns} {l : Label} {o : ℕ} {port : BitVec 16}

/-- No connection takes one of the silent ways out, whichever connection it is that makes the
step. -/
def NoSilentEnd (d : Conns) : Label → Prop
  | .tcp o l => Tcp.NoSilentEnd (d.obj o) l
  | _ => True

instance (d : Conns) (l : Label) : Decidable (d.NoSilentEnd l) :=
  match l with
  | .tcp o l => inferInstanceAs (Decidable (Tcp.NoSilentEnd (d.obj o) l))
  | .startConnect | .makeConn _ _ | .dispatch _ | .reap | .deconstruct => isTrue trivial

/-- Calls of `handle_input` and the teardown are no ways out: they belong to other threads. -/
theorem noSilentEnd_of_not_ofThread {c : Tcp} {l : Tcp.Label} (h : ofThread l = false) :
    Tcp.NoSilentEnd c l := by
  cases l with
  | input l => trivial
  | loop l => cases h
  | connect ok => cases h
  | deconstruct => trivial
  | notify l => trivial

/-- They do not call `kill` either. -/
theorem not_callsKill_of_not_ofThread {c : Tcp} {l : Tcp.Label} (h : ofThread l = false) :
    ¬c.CallsKill l := by
  cases l with
  | input l =>
    cases l with
    | call s => exact id
    | _ => cases h
  | loop l => cases h
  | connect ok => cases h
  | deconstruct => exact id
  | notify l => cases h

/-- **Every registered connection is cared for**: if it has come to its end, or is about to,
then there is a request for it or the reaper has it. -/
structure CaredFor (d : Conns) : Prop where
  coherent : d.Coherent
  accounted : ∀ o, (d.obj o).Accounted
  killed : ∀ port o, d.Registered port o → 0 < (d.obj o).core.kills → d.Pending port
  dying : ∀ port o, d.Registered port o → (d.obj o).core.connState = .connDying →
    d.reaper = .deconstructing port o

namespace CaredFor

theorem init : init.CaredFor where
  coherent := .init
  accounted := fun _ => .new ..
  killed := fun port o h => by simp [Registered, Conns.init] at h
  dying := fun port o h => by simp [Registered, Conns.init] at h

/-- The objects. Each of them makes its steps by itself, so that what holds of one connection
holds of all. -/
theorem accounted_step (hd : d.CaredFor) (hok : d.NoSilentEnd l) (h : d.step l = some d')
    (o : ℕ) : (d'.obj o).Accounted := by
  rcases step_obj h o with he | ⟨l', hs, hthread, -⟩ | ⟨-, -, port, dport, seq, hnew⟩
  · rw [he]
    exact hd.accounted o
  · refine (hd.accounted o).step ?_ hs
    cases hl' : ofThread l' with
    | true =>
      obtain rfl := hthread hl'
      exact hok
    | false => exact noSilentEnd_of_not_ofThread hl'
  · rw [hnew]
    exact .new ..

/-- A connection that has called `kill` has a request pending. -/
theorem killed_step (hd : d.CaredFor) (h : d.step l = some d') (hreg : d'.Registered port o)
    (hpos : 0 < (d'.obj o).core.kills) : d'.Pending port := by
  have hbooks := step_books h
  rcases hbooks.registered port o hreg with hreg₀ | ⟨-, -, -, dport, seq, -, hnew⟩
  · have hold : 0 < (d.obj o).core.kills → d'.Pending port := fun hpos =>
      hbooks.kept port o hreg₀ hreg (hd.killed port o hreg₀ hpos)
    rcases step_obj h o with he | ⟨l', hs, hthread, -⟩ | ⟨he, -⟩
    · exact hold (he ▸ hpos)
    · by_cases hk : (d.obj o).CallsKill l'
      · have hl' : ofThread l' = true := by
          by_contra hnot
          exact not_callsKill_of_not_ofThread (by simpa using hnot) hk
        have hp := hbooks.posted o l' (hthread hl') hk
        rwa [hd.coherent.port port o hreg₀] at hp
      · rw [(Tcp.step_counted hs).not_called hk] at hpos
        exact hold hpos
    · exact absurd he (hd.coherent.made port o hreg₀).ne
  · rw [hnew] at hpos
    exact absurd hpos (Nat.lt_irrefl 0)

/-- Only the reaper tears a connection down, and while it does so, no other request for that
port is served. -/
theorem dying_step (hd : d.CaredFor) (h : d.step l = some d') (hreg : d'.Registered port o)
    (hdying : (d'.obj o).core.connState = .connDying) : d'.reaper = .deconstructing port o := by
  have hbooks := step_books h
  -- the reaper is at it already, and has not let go of the connection
  have hold : d.reaper = .deconstructing port o → d'.reaper = .deconstructing port o := by
    intro hr
    rcases hbooks.stays port o hr with he | hnone
    · rw [he, hr]
    · exact absurd hreg (hnone o)
  rcases hbooks.registered port o hreg with hreg₀ | ⟨-, -, -, dport, seq, -, hnew⟩
  · rcases step_obj h o with he | ⟨l', hs, -, hdeconstruct, -⟩ | ⟨he, -⟩
    · exact hold (hd.dying port o hreg₀ (he ▸ hdying))
    · rcases (Tcp.step_evolves hs).torn hdying with hd₀ | hl'
      · exact hold (hd.dying port o hreg₀ hd₀)
      · obtain ⟨port', hr⟩ := hdeconstruct hl'
        have hreg' := hd.coherent.serving port' o hr
        have hport : port' = port :=
          (hd.coherent.port port' o hreg').symm.trans (hd.coherent.port port o hreg₀)
        exact hold (hport ▸ hr)
    · exact absurd he (hd.coherent.made port o hreg₀).ne
  · rw [hnew] at hdying
    cases hdying

theorem step (hd : d.CaredFor) (hok : d.NoSilentEnd l) (h : d.step l = some d') :
    d'.CaredFor where
  coherent := hd.coherent.step h
  accounted := hd.accounted_step hok h
  killed := fun _ _ => hd.killed_step h
  dying := fun _ _ => hd.dying_step h

/-- A connection that has been reported has a request pending. -/
theorem pending_of_reported (hd : d.CaredFor) (hreg : d.Registered port o)
    (hrep : (d.obj o).Reported) : d.Pending port := by
  rcases hrep with hpos | hdying
  · exact hd.killed port o hreg hpos
  · right
    rw [hd.dying port o hreg hdying, ReaperPc.port]

end CaredFor

end Conns

/-! ### No orphans -/

open Conns

/-- **No orphan**: for every connection in `_conns`, `connect` is in progress, or the
client loop runs, or a request for its port is pending, or the device has been
killed. -/
def Conns.NoOrphan (d : Conns) : Prop :=
  ∀ port o, d.Registered port o →
    (d.obj o).connectPc.InProgress ∨ (d.obj o).loop.Running ∨ d.Pending port ∨
      d.killPosted = true

/-- **There are no orphans**, in every run in which no connection takes one of the silent
ways out. -/
theorem no_orphan {d : Conns} (h : connsMachine.Reaches NoSilentEnd init d) : d.NoOrphan := by
  have hcared := h.invariant (I := CaredFor) .init fun _ _ _ hi hok hs => hi.step hok hs
  intro port o hreg
  by_cases hpc : (d.obj o).connectPc.InProgress
  · exact Or.inl hpc
  · by_cases hloop : (d.obj o).loop.Running
    · exact Or.inr (Or.inl hloop)
    · have hrep := (hcared.accounted o).reported hpc hloop
      exact Or.inr (Or.inr (Or.inl (hcared.pending_of_reported hreg hrep)))

/-- The steps that take a new connection to its client loop: the device answers the SYN, and the
client is told so. -/
def Conns.connected : List Label :=
  [.startConnect, .makeConn 62078 7, .tcp 0 (.connect true), .tcp 0 (.connect true),
    .dispatch (controlSegment (thSyn ||| thAck)), .tcp 0 (.input (.lockStx 0 false)),
    .tcp 0 (.connect true), .tcp 0 (.connect true), .tcp 0 (.connect true),
    .tcp 0 (.connect true), .tcp 0 (.connect true), .tcp 0 (.connect true),
    .tcp 0 (.loop .loopEvent)]

/-- A connection whose `recv` fails has a request pending, as the client loop calls `kill` on
this way out. -/
theorem no_orphan_recv_failed :
    ∃ d : Conns, (d.Registered 1 0 ∧ (d.obj 0).loop = .threw) ∧ d.NoOrphan := by
  obtain ⟨d, hr, hp⟩ := connsMachine.exists_reaches_of_runOk NoSilentEnd init
    (connected ++ [.tcp 0 (.loop (.poll (.revents Tcp.pollin))), .tcp 0 (.loop (.recv .failed))])
    (fun d => d.Registered 1 0 ∧ (d.obj 0).loop = .threw) (by decide)
  exact ⟨d, of_decide_eq_true hp, no_orphan hr⟩

/-- **A client that hangs up leaves an orphan**: the client loop reads the end of the
stream after `POLLHUP` and ends, and nobody asks for the connection to be torn
down. -/
theorem client_hangup_orphans :
    ∃ d, connsMachine.Reachable init d ∧ ¬d.NoOrphan := by
  obtain ⟨d, hr, hp⟩ := connsMachine.exists_reaches_of_runOk (fun _ _ => True) init
    (connected ++ [.tcp 0 (.loop (.poll (.revents (Tcp.pollin ||| Tcp.pollhup)))),
      .tcp 0 (.loop (.recv (.data [])))])
    (fun d => d.Registered 1 0 ∧ (d.obj 0).connectPc = .returned ∧
      (d.obj 0).loop = .finished ∧ ¬d.Pending 1 ∧ d.killPosted = false) (by decide)
  obtain ⟨hreg, hpc, hloop, hpending, hkill⟩ := of_decide_eq_true hp
  refine ⟨d, hr, ?_⟩
  intro hall
  rcases hall 1 0 hreg with hin | hrun | hp | hk
  · rw [hpc] at hin
    exact hin
  · rw [hloop] at hrun
    exact hrun
  · exact hpending hp
  · rw [hkill] at hk
    cases hk

end Usbmuxd
