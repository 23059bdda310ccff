import Mathlib.Data.Fintype.Basic
import Usbmuxd.Wifi.Calls

/-!
# The end of a wifi device

When a wifi device is to go, it is posted to the reaper of its manager, which calls
`deconstruct`: this stops the session, takes the device out of `_devices`, and asks for a
new discovery. What is left of the device goes with the last `shared_ptr` to it. There is
one in `_devices`, one for each post, one in the reaper, one in every thread that has looked
the device up, and one in the worker of a session while it makes an attempt. The worker
belongs to the session: `~WIFIDevice` stops the session that is there and joins the worker, as
`~WIFIConnectionSession` does.

The discovery calls `ensureSession` for a device that it has found in `_devices`, and
`reconnect_wifi_sessions_now` calls `requestSessionReconnectNow` for all of them, with
`_devicesGuard` taken for reading. Both make a session if there is none.

## What goes wrong

`deconstruct` does not say that the session is not wanted any more. A call that comes when
`stopSession` has taken the session makes another one, and a call that has got hold of the
session before may make its thread when `stop` has looked for one. Then there is a worker
when `deconstruct` has returned; and if its pointer is the last one, the worker destroys the
device and joins itself. So from the moment the session is taken no call must make one, and
when `stop` has looked for the thread none must be made (`Usbmuxd.WifiLifetime.Timely`).
-/

namespace Usbmuxd

open Interleaving WifiSession

open WifiCalls (Kind)

namespace WifiLifetime

/-- Where a call of `stopSession(true)` is. The session is taken out of `_session` under the
lock, and stopped when the lock has been given back. -/
inductive StopSessionPc
  /-- Before the session is taken out of `_session`. -/
  | take
  /-- In `stop` of this session. -/
  | stop (i : ℕ) (pc : StopPc)
  /-- Before its pointer to the session goes. -/
  | release (i : ℕ)
  /-- In `~WIFIConnectionSession`. -/
  | destroy (i : ℕ) (pc : StopPc)
  deriving DecidableEq

/-- The session it has a pointer to, so that it is not destroyed in the meantime. -/
def StopSessionPc.session : StopSessionPc → Option ℕ
  | take => none
  | stop i _ => some i
  | release i => some i
  | destroy _ _ => none

/-- Where a thread is in `ensureSession` or `requestSessionReconnectNow`. Unless it is idle,
it has a pointer to the device. -/
inductive CallerPc
  /-- Not in it. -/
  | idle
  /-- Before `_sessionLck` is taken. -/
  | entered (kind : Kind)
  /-- In `start` of this session. -/
  | starting (kind : Kind) (i : ℕ) (pc : StartPc)
  /-- Before `requestReconnectNow`. -/
  | requesting (i : ℕ)
  /-- Before its pointer to the session goes. -/
  | release (kind : Kind) (i : ℕ)
  /-- In `~WIFIConnectionSession`. -/
  | destroy (kind : Kind) (i : ℕ) (pc : StopPc)
  /-- Before its pointer to the device goes. -/
  | leaving (kind : Kind)
  deriving DecidableEq

/-- The session it has a pointer to, from the lock on up to its return. -/
def CallerPc.session : CallerPc → Option ℕ
  | idle => none
  | entered _ => none
  | starting _ i _ => some i
  | requesting i => some i
  | release _ i => some i
  | destroy _ _ _ => none
  | leaving _ => none

/-- The thread is in `reconnect_wifi_sessions_now`, and has `_devicesGuard`. Nobody can take a
device out of `_devices` then. -/
def CallerPc.reads : CallerPc → Bool
  | idle => false
  | entered kind => kind = .reconnect
  | starting kind _ _ => kind = .reconnect
  | requesting _ => true
  | release kind _ => kind = .reconnect
  | destroy kind _ _ => kind = .reconnect
  | leaving kind => kind = .reconnect

/-- The thread is about to look for the session of the device, and makes one if there is
none. -/
def CallerPc.looks : CallerPc → Bool
  | entered _ => true
  | _ => false

/-- The thread is about to make a worker, and does not ask again whether it should. -/
def CallerPc.spawns : CallerPc → Bool
  | starting _ _ .spawn => true
  | _ => false

/-- Where the reaper is. Unless it waits, it has a pointer to the device. -/
inductive ReaperPc
  /-- In `_reapDevices.wait()`. -/
  | waiting
  /-- In `stopSession(true)`, called by `deconstruct`. -/
  | stopSession (pc : StopSessionPc)
  /-- Before `_mux->delete_device`. -/
  | deleting
  /-- Before `request_device_rediscovery`. -/
  | rediscover
  /-- Behind `deconstruct`, before its pointer to the device goes. -/
  | leaving
  deriving DecidableEq

/-- The session it has a pointer to, in the second half of `stopSession`. -/
def ReaperPc.session : ReaperPc → Option ℕ
  | stopSession pc => pc.session
  | _ => none

/-- It has taken the session out of `_session`. A call that comes now finds none, and makes a
new one. -/
def ReaperPc.hasTaken : ReaperPc → Bool
  | waiting => false
  | stopSession .take => false
  | _ => true

/-- It has come back from `stop`, which has waited for the worker if there was one. -/
def ReaperPc.hasLooked : ReaperPc → Bool
  | waiting => false
  | stopSession .take => false
  | stopSession (.stop _ _) => false
  | _ => true

/-- A thread that may destroy the device, because it may have the last pointer to it. -/
inductive Thread (T : Type)
  /-- One that has looked it up. -/
  | caller (t : T)
  /-- The reaper. -/
  | reaper
  /-- The worker of this session. -/
  | worker (i : ℕ)
  deriving DecidableEq

end WifiLifetime

open WifiLifetime

/-- A wifi device with its sessions, and the threads that have to do with it. -/
structure WifiLifetime (T : Type) where
  /-- Whether the device is in `_devices`. -/
  attached : Bool
  /-- `_session`; the sessions are numbered as they are made. -/
  current : Option ℕ
  /-- How many sessions have been made. -/
  made : ℕ
  /-- The sessions. -/
  session : ℕ → WifiSession
  /-- Where the threads are that have looked the device up. -/
  caller : T → CallerPc
  /-- How many times the device is in `_reapDevices`. -/
  queued : ℕ
  /-- Where the reaper is. -/
  reaper : ReaperPc
  /-- Whether `deconstruct` has returned. -/
  returned : Bool
  /-- Which thread destroys the device, or has destroyed it. -/
  destroyed : Option (Thread T)
  /-- Where `~WIFIDevice` is, while it is in `stopSession(true)`. -/
  dtor : Option StopSessionPc

namespace WifiLifetime

/-- A step of a thread. Which thread it is decides who destroys what. -/
inductive Label (T : Type)
  /-- The device is looked up, and one of the functions is called. -/
  | call (t : T) (kind : Kind)
  /-- The call goes on. -/
  | caller (t : T)
  /-- `kill` is called. -/
  | kill
  /-- The reaper goes on. -/
  | reaper
  /-- The worker of a session goes on. What it calls succeeds or fails. -/
  | worker (i : ℕ) (ok : Bool) (beat : Beat)
  /-- `~WIFIDevice` goes on. -/
  | dtor

section Defs

variable {T : Type} [DecidableEq T] [Fintype T] (cfg : WifiConfig) (version : ℕ)
  (s : WifiLifetime T)

/-- A device that has just been added, without a session. -/
def init : WifiLifetime T where
  attached := true
  current := none
  made := 0
  session := fun _ => WifiSession.new
  caller := fun _ => .idle
  queued := 0
  reaper := .waiting
  returned := false
  destroyed := none
  dtor := none

/-- A thread goes on to another place, with the pointers that belong to it. -/
def go (t : T) (pc : CallerPc) : WifiLifetime T :=
  { s with caller := Function.update s.caller t pc }

/-- A session is changed, by a thread that has a pointer to it. -/
def setSession (i : ℕ) (session : WifiSession) : WifiLifetime T :=
  { s with session := Function.update s.session i session }

/-- **There is a pointer to the session**, in `_session` or with somebody who works with it. -/
def Shared (i : ℕ) : Prop :=
  s.current = some i ∨ (∃ t, (s.caller t).session = some i) ∨ s.reaper.session = some i ∨
    s.dtor.bind StopSessionPc.session = some i

instance (i : ℕ) : Decidable (s.Shared i) := inferInstanceAs (Decidable (_ ∨ _))

/-- **There is no pointer to the device**: not in `_devices`, not in the queue of the reaper,
and not with any thread. -/
def Unreferenced : Prop :=
  s.attached = false ∧ s.queued = 0 ∧ s.reaper = .waiting ∧ (∀ t, s.caller t = .idle) ∧
    ∀ i < s.made, (s.session i).worker.holdsDev = false

instance : Decidable s.Unreferenced := inferInstanceAs (Decidable (_ ∧ _))

/-- A thread has given up its pointer to the device, and destroys it if that was the last. -/
def settle (x : Thread T) : WifiLifetime T :=
  if s.destroyed = none ∧ s.Unreferenced then
    { s with destroyed := some x, dtor := some .take }
  else s

/-- `stopSession(true)`. When its pointer to the session goes, there may be other pointers to
it, and otherwise the session is destroyed. -/
def stopSessionStep (shared : ℕ → Bool) :
    StopSessionPc → Option (WifiLifetime T × Option StopSessionPc)
  | .take =>
    match s.current with
    | none => some (s, none)
    | some i => some ({ s with current := none }, some (.stop i .setStop))
  | .stop i pc => ((s.session i).stop pc).map fun (session, next) =>
    (s.setSession i session, some (match next with | some pc => .stop i pc | none => .release i))
  | .release i => some (s, if shared i then none else some (.destroy i .setStop))
  | .destroy i pc => ((s.session i).stop pc).map fun (session, next) =>
    (s.setSession i session, next.map (.destroy i))

/-- The reaper, which calls `deconstruct`: the session is stopped, and then the device is taken
out of `_devices`. -/
def reaperStep : Option (WifiLifetime T) :=
  match s.reaper with
  | .waiting =>
    if s.queued = 0 then none
    else some { s with queued := s.queued - 1, reaper := .stopSession .take }
  | .stopSession pc =>
    (s.stopSessionStep (fun i => decide ({ s with reaper := .deleting }.Shared i)) pc).map
      fun (s, next) => { s with reaper := next.elim .deleting .stopSession }
  -- the muxer takes `_devicesGuard` for writing
  | .deleting =>
    if ∀ t, (s.caller t).reads = false then some { s with attached := false, reaper := .rediscover }
    else none
  | .rediscover => some { s with reaper := .leaving, returned := true }
  | .leaving => some ({ s with reaper := .waiting }.settle .reaper)

/-- `~WIFIDevice`, which stops the session once more, if there is one. -/
def dtorStep : Option (WifiLifetime T) :=
  s.dtor.bind fun pc =>
    (s.stopSessionStep (fun i => decide ({ s with dtor := none }.Shared i)) pc).map
      fun (s, next) => { s with dtor := next }

/-- Where a call is when `start` goes on, or has returned. The pointer to the session is given
back at the end. -/
def afterStart (i : ℕ) : Kind → Option StartPc → CallerPc
  | kind, some pc => .starting kind i pc
  | .ensure, none => .release .ensure i
  | .reconnect, none => .requesting i

/-- `ensureSession` and `requestSessionReconnectNow`, one step of them. -/
def callerStep (t : T) : Option (WifiLifetime T) :=
  match s.caller t with
  | .idle => none
  | .entered kind =>
    match s.current with
    | some i => some (s.go t (.starting kind i .testJoinable))
    | none =>
      some { s.go t (.starting kind s.made .testJoinable) with
        current := some s.made
        made := s.made + 1 }
  | .starting kind i pc =>
    ((s.session i).start version pc).map fun (session, next) =>
      (s.go t (afterStart i kind next)).setSession i session
  | .requesting i =>
    some ((s.go t (.release .reconnect i)).setSession i
      { s.session i with reconnectRequested := true })
  | .release kind i =>
    let rest := s.go t (.leaving kind)
    some (if rest.Shared i then rest else s.go t (.destroy kind i .setStop))
  | .destroy kind i pc =>
    ((s.session i).stop pc).map fun (session, next) =>
      (s.go t (next.elim (.leaving kind) (.destroy kind i))).setSession i session
  | .leaving _ => some ((s.go t .idle).settle (.caller t))

/-- The worker of a session. It is held up while it destroys the device. -/
def workerStep (i : ℕ) (ok : Bool) (beat : Beat) : Option (WifiLifetime T) :=
  if i < s.made ∧ ¬(s.destroyed = some (.worker i) ∧ s.dtor.isSome = true) then
    ((s.session i).run cfg version ⟨s.destroyed.isNone, ok, beat⟩).map fun session =>
      let next : WifiLifetime T := { s.setSession i session with
        queued := if (s.session i).worker = .kill then s.queued + 1 else s.queued }
      if (s.session i).worker.holdsDev = true ∧ session.worker.holdsDev = false then
        next.settle (.worker i)
      else next
  else none

/-- One step, by a call, the reaper, a worker or whoever destroys the device. -/
def step : Label T → Option (WifiLifetime T)
  | .call t kind =>
    if s.attached = true ∧ s.caller t = .idle then some (s.go t (.entered kind)) else none
  | .caller t => s.callerStep version t
  | .kill => if s.destroyed = none then some { s with queued := s.queued + 1 } else none
  | .reaper => s.reaperStep
  | .worker i ok beat => s.workerStep cfg version i ok beat
  | .dtor => s.dtorStep

/-- `deconstruct` has taken the session out of `_session`, or has returned. -/
def taken : Bool := s.returned || s.reaper.hasTaken

/-- `deconstruct` has come back from `stop`, or has returned. -/
def looked : Bool := s.returned || s.reaper.hasLooked

/-- **The calls are in time**: none looks for a session when `deconstruct` has taken it, and
none makes a thread when `deconstruct` has looked for one. -/
def Timely : Label T → Prop
  | .caller t => ((s.caller t).looks = true → s.taken = false) ∧
      ((s.caller t).spawns = true → s.looked = false)
  | _ => True

instance : (l : Label T) → Decidable (s.Timely l)
  | .caller t => inferInstanceAs (Decidable (((s.caller t).looks = true → s.taken = false) ∧
      ((s.caller t).spawns = true → s.looked = false)))
  | .call _ _ => isTrue trivial
  | .kill => isTrue trivial
  | .reaper => isTrue trivial
  | .worker _ _ _ => isTrue trivial
  | .dtor => isTrue trivial

end Defs

/-- **The session has ended with the device**: when `deconstruct` has returned, the device has
no session and none of its workers runs, and no worker destroys the device. -/
structure Ended {T : Type} (s : WifiLifetime T) : Prop where
  /-- There is no session. -/
  none : s.returned = true → s.current = none
  /-- No worker runs. -/
  stopped : s.returned = true → ∀ i, (s.session i).worker.ended = true
  /-- The device is destroyed elsewhere. -/
  elsewhere : ∀ i, s.destroyed ≠ some (.worker i)

end WifiLifetime

/-- A wifi device, its sessions, and the threads that have to do with it. -/
def wifiLifetimeMachine (T : Type) [DecidableEq T] [Fintype T] (cfg : WifiConfig) (version : ℕ) :
    Machine (WifiLifetime T) (WifiLifetime.Label T) :=
  ⟨WifiLifetime.step cfg version⟩

namespace WifiLifetime

variable {T : Type} {s s' : WifiLifetime T} {t : T} {i : ℕ}

/-! ### The invariant -/

/-- **The invariant.** Until `deconstruct` takes the session there is one at most, which is
the one that it takes. -/
structure Inv (s : WifiLifetime T) : Prop where
  /-- A worker that runs can be joined. -/
  joins : ∀ i, Joins (s.session i)
  /-- A session that has not been made has no worker. -/
  fresh : ∀ i, s.made ≤ i → (s.session i).worker.ended = true
  /-- The session of the device has been made. -/
  bound : ∀ i, s.current = some i → i < s.made
  /-- So have those of the calls. -/
  calls : ∀ t kind i pc, s.caller t = .starting kind i pc → i < s.made
  /-- The only session is that of the device. -/
  own : s.taken = false → ∀ i < s.made, s.current = some i
  /-- When it is taken, the device has none. -/
  gone : s.taken = true → s.current = none
  /-- It is the one that `deconstruct` stops. -/
  stopping : ∀ i pc, s.reaper = .stopSession (.stop i pc) → ∀ j < s.made, j = i
  /-- When it is stopped, no worker runs. -/
  stopped : s.looked = true → ∀ i, (s.session i).worker.ended = true
  /-- The device leaves `_devices` after that. -/
  attached : s.attached = false → s.looked = true
  /-- `deconstruct` returns after that. -/
  left : s.reaper = .leaving → s.returned = true
  /-- The destructor finds no session. -/
  dtor : ∀ pc, s.dtor = some pc → pc = .take ∧ s.attached = false
  /-- It does not run on a worker. -/
  elsewhere : ∀ i, s.destroyed ≠ some (.worker i)

theorem inv_init : Inv (init : WifiLifetime T) where
  joins := fun _ => joins_new
  fresh := fun _ _ => rfl
  bound := fun _ h => by cases h
  calls := fun _ _ _ _ h => by cases h
  own := fun _ _ h => absurd h (Nat.not_lt_zero _)
  gone := fun h => by cases h
  stopping := fun _ _ h => by cases h
  stopped := fun h => by cases h
  attached := fun h => by cases h
  left := fun h => by cases h
  dtor := fun _ h => by cases h
  elsewhere := fun _ h => by cases h

theorem ReaperPc.hasTaken_of_hasLooked {pc : ReaperPc} (h : pc.hasLooked = true) :
    pc.hasTaken = true := by
  cases pc with
  | waiting => cases h
  | stopSession pc => cases pc <;> first | rfl | cases h
  | _ => rfl

/-- What has come back from `stop` has taken the session, as it does so first. -/
theorem taken_of_looked (h : s.looked = true) : s.taken = true := by
  rw [looked, Bool.or_eq_true] at h
  rw [taken, Bool.or_eq_true]
  exact h.imp_right ReaperPc.hasTaken_of_hasLooked

theorem looked_of_returned (h : s.returned = true) : s.looked = true := by
  rw [looked, h]
  rfl

theorem Inv.ended (h : Inv s) : Ended s where
  none := fun hret => h.gone (taken_of_looked (looked_of_returned hret))
  stopped := fun hret => h.stopped (looked_of_returned hret)
  elsewhere := h.elsewhere

/-- While the device has a session, `deconstruct` has not taken it. Nobody makes another one
afterwards, if the calls are in time. -/
theorem Inv.taken_eq_false (h : Inv s) (hcurrent : s.current = some i) : s.taken = false := by
  cases htaken : s.taken with
  | false => rfl
  | true => exact absurd (hcurrent.symm.trans (h.gone htaken)) (by simp)

/-- Before `deconstruct` has come back from `stop`, the device is in `_devices`. -/
theorem Inv.attached_eq_true (h : Inv s) (hlooked : s.looked = false) : s.attached = true := by
  cases hattached : s.attached with
  | true => rfl
  | false => exact absurd (hlooked.symm.trans (h.attached hattached)) (by simp)

/-! ### The steps -/

@[simp] theorem setSession_session_self (s : WifiLifetime T) (session : WifiSession) :
    (s.setSession i session).session i = session :=
  Function.update_self ..

theorem setSession_session_of_ne (s : WifiLifetime T) (session : WifiSession) {j : ℕ}
    (h : j ≠ i) : (s.setSession i session).session j = s.session j :=
  Function.update_of_ne h ..

/-- **A session is changed.** It keeps its worker, or nobody has looked for it. -/
theorem Inv.setSession (h : Inv s) {session : WifiSession} (hjoins : Joins session)
    (hworker : session.worker = (s.session i).worker ∨ i < s.made ∧ s.looked = false) :
    Inv (s.setSession i session) := by
  refine ⟨?_, ?_, h.bound, h.calls, h.own, h.gone, h.stopping, ?_, h.attached, h.left, h.dtor,
    h.elsewhere⟩
  · intro j
    rcases eq_or_ne j i with rfl | hne
    · rw [setSession_session_self]
      exact hjoins
    · rw [setSession_session_of_ne s session hne]
      exact h.joins j
  · intro j hj
    rcases eq_or_ne j i with rfl | hne
    · rw [setSession_session_self]
      rcases hworker with heq | ⟨hlt, -⟩
      · rw [heq]
        exact h.fresh j hj
      · exact absurd hlt (Nat.not_lt.mpr hj)
    · rw [setSession_session_of_ne s session hne]
      exact h.fresh j hj
  · intro hlooked j
    have hlooked : s.looked = true := hlooked
    rcases eq_or_ne j i with rfl | hne
    · rw [setSession_session_self]
      rcases hworker with heq | ⟨-, hnot⟩
      · rw [heq]
        exact h.stopped hlooked j
      · exact absurd (hnot.symm.trans hlooked) (by simp)
    · rw [setSession_session_of_ne s session hne]
      exact h.stopped hlooked j

/-- **A session is stopped**, which cannot make a worker, but only end one. -/
theorem Inv.stopCall (h : Inv s) {session : WifiSession} {pc : StopPc} {next : Option StopPc}
    (hs : (s.session i).stop pc = some (session, next)) : Inv (s.setSession i session) := by
  obtain ⟨hjoins, hworker, -⟩ := (h.joins i).stop hs
  exact h.setSession hjoins (.inl hworker)

/-- The device is posted, or taken from the queue. How often this happens makes no
difference. -/
theorem Inv.queue (h : Inv s) (n : ℕ) : Inv { s with queued := n } :=
  ⟨h.joins, h.fresh, h.bound, h.calls, h.own, h.gone, h.stopping, h.stopped, h.attached, h.left,
    h.dtor, h.elsewhere⟩

/-- `deconstruct` has come back from `stop`, when the reaper has; the device itself says no more
about it. -/
theorem looked_of_reaper (h : s.reaper.hasLooked = true) : s.looked = true := by
  rw [looked, h, Bool.or_true]

/-- **The reaper goes on**, and it is the same with the session as before. -/
theorem Inv.reaperAt (h : Inv s) {pc : ReaperPc} (htaken : pc.hasTaken = s.reaper.hasTaken)
    (hlooked : pc.hasLooked = s.reaper.hasLooked)
    (hstopping : ∀ i stopPc, pc = .stopSession (.stop i stopPc) → ∀ j < s.made, j = i)
    (hleft : pc = .leaving → s.returned = true) : Inv { s with reaper := pc } := by
  have ht : ({ s with reaper := pc } : WifiLifetime T).taken = s.taken := by
    rw [taken, taken, htaken]
  have hl : ({ s with reaper := pc } : WifiLifetime T).looked = s.looked := by
    rw [looked, looked, hlooked]
  exact ⟨h.joins, h.fresh, h.bound, h.calls, ht ▸ h.own, ht ▸ h.gone, hstopping, hl ▸ h.stopped,
    hl ▸ h.attached, hleft, h.dtor, h.elsewhere⟩

/-- **The reaper has come back from `stop`**, and goes on. There is no session, and no worker
that runs. -/
theorem Inv.reaperBehind (h : Inv s) {pc : ReaperPc} {attached returned : Bool}
    (hcurrent : s.current = none) (hended : ∀ i, (s.session i).worker.ended = true)
    (hlooked : returned = true ∨ pc.hasLooked = true)
    (hstopping : ∀ i stopPc, pc ≠ .stopSession (.stop i stopPc))
    (hleft : pc = .leaving → returned = true) (hattached : s.attached = false → attached = false) :
    Inv { s with attached := attached, reaper := pc, returned := returned } := by
  have hl : ({ s with attached := attached, reaper := pc, returned := returned } :
      WifiLifetime T).looked = true := by
    rw [looked, Bool.or_eq_true]
    exact hlooked
  have ht := taken_of_looked hl
  refine ⟨h.joins, h.fresh, h.bound, h.calls, ?_, fun _ => hcurrent, ?_, fun _ => hended,
    fun _ => hl, hleft, ?_, h.elsewhere⟩
  · exact fun hnot => absurd (ht.symm.trans hnot) (by simp)
  · exact fun i stopPc hpc => absurd hpc (hstopping i stopPc)
  · exact fun pc' hpc => ⟨(h.dtor pc' hpc).1, hattached (h.dtor pc' hpc).2⟩

/-- **`deconstruct` takes the session**, so that no thread that comes now can find it. -/
theorem Inv.reaperTakes (h : Inv s) (hcurrent : s.current = some i) :
    Inv { s with current := none, reaper := .stopSession (.stop i .setStop) } := by
  have hnot := h.taken_eq_false hcurrent
  have hreturned : s.returned = false := by
    rw [taken, Bool.or_eq_false_iff] at hnot
    exact hnot.1
  have hlooked : s.looked = false := Bool.eq_false_iff.mpr fun hlooked =>
    absurd (hnot.symm.trans (taken_of_looked hlooked)) (by simp)
  have hl : ({ s with current := none, reaper := .stopSession (.stop i .setStop) } :
      WifiLifetime T).looked = false := by
    rw [looked, hreturned]
    rfl
  have ht : ({ s with current := none, reaper := .stopSession (.stop i .setStop) } :
      WifiLifetime T).taken = true := by
    rw [taken, hreturned]
    rfl
  refine ⟨h.joins, h.fresh, by simp, h.calls, ?_, fun _ => rfl, ?_, ?_, ?_, by simp, h.dtor,
    h.elsewhere⟩
  · exact fun hfalse => absurd (ht.symm.trans hfalse) (by simp)
  · intro i' stopPc hpc j hj
    cases hpc
    exact Option.some.inj ((h.own hnot j hj).symm.trans hcurrent)
  · exact fun htrue => absurd (hl.symm.trans htrue) (by simp)
  · exact fun hfalse => absurd ((h.attached_eq_true hlooked).symm.trans hfalse) (by simp)

/-- **A step of `stopSession` in `deconstruct`**, in which the worker is waited for. -/
theorem Inv.stopSession (h : Inv s) {shared : ℕ → Bool} {pc : StopSessionPc} {next : WifiLifetime T}
    {pc' : Option StopSessionPc} (hreaper : s.reaper = .stopSession pc)
    (hs : s.stopSessionStep shared pc = some (next, pc')) :
    Inv { next with reaper := pc'.elim .deleting .stopSession } := by
  cases pc with
  | take =>
    simp only [stopSessionStep] at hs
    split at hs
    · -- there is no session, and there has been none, or it has been stopped before
      rename_i hnone
      cases hs
      have hended : ∀ i, (s.session i).worker.ended = true := by
        cases htaken : s.taken with
        | true =>
          have hreturned : s.returned = true := by
            rwa [taken, hreaper, ReaperPc.hasTaken, Bool.or_false] at htaken
          exact h.stopped (looked_of_returned hreturned)
        | false =>
          refine fun i => h.fresh i (Nat.not_lt.mp fun hlt => ?_)
          exact absurd ((h.own htaken i hlt).symm.trans hnone) (by simp)
      exact h.reaperBehind hnone hended (.inr rfl) (by simp) (by simp) id
    · rename_i i hcurrent
      cases hs
      exact h.reaperTakes hcurrent
  | stop i pc =>
    obtain ⟨⟨session, stopNext⟩, hstop, hs⟩ := Option.map_eq_some_iff.mp hs
    cases hs
    have hset := h.stopCall hstop
    cases stopNext with
    | some stopPc =>
      refine hset.reaperAt (by rw [show (s.setSession i session).reaper = _ from hreaper]; rfl)
        (by rw [show (s.setSession i session).reaper = _ from hreaper]; rfl) ?_ (by simp)
      rintro i' stopPc' hpc
      cases hpc
      exact h.stopping i pc hreaper
    | none =>
      -- the thread has been looked for
      have htaken : s.taken = true := by
        rw [taken, hreaper, Bool.or_eq_true]
        exact .inr rfl
      obtain ⟨-, hworker, hend⟩ := (h.joins i).stop hstop
      refine hset.reaperBehind (h.gone htaken) (fun j => ?_) (.inr rfl) (by simp) (by simp) id
      rcases eq_or_ne j i with rfl | hne
      · rw [setSession_session_self, hworker]
        exact hend rfl
      · rw [setSession_session_of_ne s session hne]
        exact h.fresh j (Nat.not_lt.mp fun hlt => hne (h.stopping i pc hreaper j hlt))
  | release i =>
    cases hs
    have hlooked : s.looked = true := looked_of_reaper (by rw [hreaper]; rfl)
    refine h.reaperBehind (h.gone (taken_of_looked hlooked)) (h.stopped hlooked) (.inr ?_) ?_ ?_ id
    all_goals split <;> simp [ReaperPc.hasLooked]
  | destroy i pc =>
    obtain ⟨⟨session, stopNext⟩, hstop, hs⟩ := Option.map_eq_some_iff.mp hs
    cases hs
    have hset := h.stopCall hstop
    have hlooked : (s.setSession i session).looked = true :=
      looked_of_reaper (by rw [show (s.setSession i session).reaper = _ from hreaper]; rfl)
    refine hset.reaperBehind (hset.gone (taken_of_looked hlooked)) (hset.stopped hlooked) (.inr ?_)
      ?_ ?_ id
    all_goals cases stopNext <;> simp [ReaperPc.hasLooked]

section Calls

variable [DecidableEq T]

@[simp] theorem go_caller_self (s : WifiLifetime T) (pc : CallerPc) : (s.go t pc).caller t = pc :=
  Function.update_self ..

theorem go_caller_of_ne (s : WifiLifetime T) (pc : CallerPc) {u : T} (h : u ≠ t) :
    (s.go t pc).caller u = s.caller u :=
  Function.update_of_ne h ..

/-- **A call goes on**, with a session that has been made. -/
theorem Inv.go (h : Inv s) {pc : CallerPc}
    (hcalls : ∀ kind i startPc, pc = .starting kind i startPc → i < s.made) :
    Inv (s.go t pc) := by
  refine ⟨h.joins, h.fresh, h.bound, ?_, h.own, h.gone, h.stopping, h.stopped, h.attached, h.left,
    h.dtor, h.elsewhere⟩
  intro u kind i startPc hu
  rcases eq_or_ne u t with rfl | hne
  · exact hcalls kind i startPc (by rwa [go_caller_self] at hu)
  · exact h.calls u kind i startPc (by rwa [go_caller_of_ne s pc hne] at hu)

/-- **A call makes the session**, as it has found none under the lock. -/
theorem Inv.make (h : Inv s) (hin : s.taken = false) (hnone : s.current = none) {kind : Kind} :
    Inv { s.go t (.starting kind s.made .testJoinable) with
      current := some s.made, made := s.made + 1 } := by
  -- there has been none
  have hmade : s.made = 0 := by
    by_contra hne
    exact absurd ((h.own hin 0 (Nat.pos_of_ne_zero hne)).symm.trans hnone) (by simp)
  refine ⟨h.joins, fun j hj => h.fresh j (Nat.le_of_succ_le hj), ?_, ?_, ?_, ?_, ?_, h.stopped,
    h.attached, h.left, h.dtor, h.elsewhere⟩
  · intro j hj
    obtain rfl := Option.some.inj hj
    exact Nat.lt_succ_self _
  · intro u kind' j startPc hu
    rcases eq_or_ne u t with rfl | hne
    · have hu : CallerPc.starting kind s.made .testJoinable = .starting kind' j startPc :=
        (go_caller_self s _).symm.trans hu
      cases hu
      exact Nat.lt_succ_self _
    · exact Nat.lt_succ_of_lt (h.calls u kind' j startPc (by rwa [← go_caller_of_ne s _ hne]))
  · intro _ j hj
    have hj : j < s.made + 1 := hj
    exact congrArg some (by omega)
  · exact fun htaken => absurd (hin.symm.trans htaken) (by simp)
  · intro j pc hreaper
    have htaken : s.taken = true := by
      rw [taken, show s.reaper = .stopSession (.stop j pc) from hreaper]
      simp [ReaperPc.hasTaken]
    exact absurd (hin.symm.trans htaken) (by simp)

end Calls

section Steps

variable [Fintype T]

/-- A device that is in `_devices` is not destroyed, since there is a pointer to it. -/
theorem Inv.settle_of_attached (h : Inv s) (x : Thread T) (hattached : s.attached = true) :
    Inv (s.settle x) := by
  rw [WifiLifetime.settle,
    if_neg fun hlast => absurd (hattached.symm.trans hlast.2.1) (by simp)]
  exact h

/-- **A pointer to the device goes**, on a thread that is no worker. -/
theorem Inv.settle (h : Inv s) {x : Thread T} (hx : ∀ i, x ≠ .worker i) : Inv (s.settle x) := by
  rw [WifiLifetime.settle]
  split
  · rename_i hlast
    refine ⟨h.joins, h.fresh, h.bound, h.calls, h.own, h.gone, h.stopping, h.stopped, h.attached,
      h.left, ?_, ?_⟩
    · intro pc hpc
      exact ⟨(Option.some.inj hpc).symm, hlast.2.1⟩
    · exact fun i hi => hx i (Option.some.inj hi)
  · exact h

/-- **A step of the reaper**, which also lets go of its pointer at the end. -/
theorem Inv.reaperStep (h : Inv s) (hs : s.reaperStep = some s') : Inv s' := by
  simp only [WifiLifetime.reaperStep] at hs
  have hbehind : s.looked = true → ∀ {pc : ReaperPc} {attached returned : Bool},
      (returned = true ∨ pc.hasLooked = true) →
      (∀ i stopPc, pc ≠ .stopSession (.stop i stopPc)) → (pc = .leaving → returned = true) →
      (s.attached = false → attached = false) →
        Inv { s with attached := attached, reaper := pc, returned := returned } := fun hlooked =>
    h.reaperBehind (h.gone (taken_of_looked hlooked)) (h.stopped hlooked)
  split at hs
  · rename_i hreaper
    obtain ⟨-, hs⟩ := Option.ite_none_left_eq_some.mp hs
    cases hs
    have hnext : Inv { s with reaper := .stopSession .take } :=
      h.reaperAt (by rw [hreaper]; rfl) (by rw [hreaper]; rfl) (by simp) (by simp)
    exact hnext.queue (s.queued - 1)
  · rename_i pc hreaper
    obtain ⟨⟨next, pc'⟩, hstop, rfl⟩ := Option.map_eq_some_iff.mp hs
    exact h.stopSession hreaper hstop
  · -- the device leaves `_devices`
    rename_i hreaper
    obtain ⟨-, hs⟩ := Option.ite_none_right_eq_some.mp hs
    cases hs
    have hlooked : s.looked = true := looked_of_reaper (by rw [hreaper]; rfl)
    exact hbehind hlooked (.inr rfl) (by simp) (by simp) fun _ => rfl
  · rename_i hreaper
    cases hs
    have hlooked : s.looked = true := looked_of_reaper (by rw [hreaper]; rfl)
    exact hbehind hlooked (.inl rfl) (by simp) (fun _ => rfl) id
  · rename_i hreaper
    cases hs
    have hreturned := h.left hreaper
    exact (hbehind (looked_of_returned hreturned) (.inl hreturned) (by simp) (by simp) id).settle
      (by simp)

/-- **A step of `~WIFIDevice`**: it finds no session, and so there is nothing to wait for. -/
theorem Inv.dtorStep (h : Inv s) (hs : s.dtorStep = some s') : Inv s' := by
  obtain ⟨pc, hpc, hs⟩ := Option.bind_eq_some_iff.mp hs
  obtain ⟨⟨next, pc'⟩, hstop, rfl⟩ := Option.map_eq_some_iff.mp hs
  obtain ⟨rfl, hattached⟩ := h.dtor pc hpc
  have hnone := h.gone (taken_of_looked (h.attached hattached))
  simp only [stopSessionStep, hnone] at hstop
  cases hstop
  exact ⟨h.joins, h.fresh, h.bound, h.calls, h.own, h.gone, h.stopping, h.stopped, h.attached,
    h.left, by simp, h.elsewhere⟩

variable [DecidableEq T] {cfg : WifiConfig} {version : ℕ} {l : Label T}

/-- **A step of a call**, if it is in time: it looks for the session before `deconstruct` has
taken it. -/
theorem Inv.callerStep (h : Inv s) (hok : s.Timely (.caller t))
    (hs : s.callerStep version t = some s') : Inv s' := by
  obtain ⟨htake, hspawn⟩ := hok
  simp only [WifiLifetime.callerStep] at hs
  split at hs
  · cases hs
  · rename_i kind ht
    have hin : s.taken = false := htake (by rw [ht]; rfl)
    split at hs
    · rename_i i hcurrent
      cases hs
      refine h.go fun kind' j startPc hpc => ?_
      cases hpc
      exact h.bound i hcurrent
    · rename_i hnone
      cases hs
      exact h.make hin hnone
  · -- a step of `start`
    rename_i kind i pc ht
    obtain ⟨⟨session, next⟩, hstart, rfl⟩ := Option.map_eq_some_iff.mp hs
    have hlt := h.calls t kind i pc ht
    have hgo : Inv (s.go t (afterStart i kind next)) := by
      refine h.go fun kind' j startPc hpc => ?_
      cases next with
      | none => cases kind <;> cases hpc
      | some pc' =>
        have hj : i = j := by
          cases kind <;> simp only [afterStart, CallerPc.starting.injEq] at hpc <;> exact hpc.2.1
        exact hj ▸ hlt
    refine hgo.setSession ((h.joins i).start hstart) ?_
    rcases start_worker hstart with ⟨hworker, -⟩ | ⟨rfl, -⟩
    · exact .inl hworker
    · exact .inr ⟨hlt, hspawn (by rw [ht]; rfl)⟩
  · rename_i i ht
    cases hs
    exact (h.go (by simp)).setSession (h.joins i) (.inl rfl)
  · cases hs
    split
    · exact h.go (by simp)
    · exact h.go (by simp)
  · rename_i kind i pc ht
    obtain ⟨⟨session, next⟩, hstop, rfl⟩ := Option.map_eq_some_iff.mp hs
    have hgo : Inv (s.go t (next.elim (.leaving kind) (.destroy kind i))) :=
      h.go (by cases next <;> simp)
    exact hgo.stopCall hstop
  · cases hs
    exact (h.go (by simp)).settle (by simp)

/-- **A step of a worker**: the device is in `_devices` still, so that it cannot have the last
pointer. -/
theorem Inv.workerStep (h : Inv s) {ok : Bool} {beat : Beat}
    (hs : s.workerStep cfg version i ok beat = some s') : Inv s' := by
  obtain ⟨⟨hlt, -⟩, hs⟩ := Option.ite_none_right_eq_some.mp hs
  obtain ⟨session, hrun, rfl⟩ := Option.map_eq_some_iff.mp hs
  have hlooked : s.looked = false := Bool.eq_false_iff.mpr fun hlooked =>
    absurd ((run_started hrun).1.symm.trans (h.stopped hlooked i)) (by simp)
  have hattached := h.attached_eq_true hlooked
  have hset := h.setSession ((h.joins i).run hrun) (.inr ⟨hlt, hlooked⟩)
  have hnext := hset.queue (if (s.session i).worker = .kill then s.queued + 1 else s.queued)
  dsimp only
  split
  · exact hnext.settle_of_attached (.worker i) hattached
  · exact hnext

/-- **Every step keeps the invariant**, if the calls are in time. Nothing is asked of the worker
or of the reaper. -/
theorem Inv.step (h : Inv s) (hok : s.Timely l) (hs : s.step cfg version l = some s') : Inv s' := by
  cases l with
  | call t kind =>
    obtain ⟨-, hs⟩ := Option.ite_none_right_eq_some.mp hs
    cases hs
    exact h.go (by simp)
  | caller t => exact h.callerStep hok hs
  | kill =>
    obtain ⟨-, hs⟩ := Option.ite_none_right_eq_some.mp hs
    cases hs
    exact h.queue (s.queued + 1)
  | reaper => exact h.reaperStep hs
  | worker i ok beat => exact h.workerStep hs
  | dtor => exact h.dtorStep hs

end Steps

/-! ### Runs -/

/-- A thread goes through its call, in `n` steps without a break. -/
def calls (kind : Kind) (n : ℕ) : List (Label Unit) :=
  .call () kind :: List.replicate n (.caller ())

/-- The reaper makes `n` steps, with nobody in between. -/
def reaps (n : ℕ) : List (Label Unit) := List.replicate n .reaper

/-- The worker of the first session makes `n` steps, and cannot connect. -/
def works (n : ℕ) : List (Label Unit) := List.replicate n (.worker 0 false .lost)

end WifiLifetime

end Usbmuxd
