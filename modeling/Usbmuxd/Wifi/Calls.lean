import Mathlib.Logic.Function.Basic
import Usbmuxd.Library.Interleaving
import Usbmuxd.Wifi.Session

/-!
# Who talks to a session

A `WIFIDevice` that is no pairing device has at most one session at a time, which is made
by the first who needs it. The discovery thread calls `ensureSession` when it has found the
device, and `updateDiscoveryInfo` when it has found it again; the threads of clients call
`requestSessionReconnectNow`. All of these take `_sessionLck` only to look at the device and
to copy the pointer to the session, and talk to the session afterwards.

This file puts these calls together with the worker, for a session that nobody stops. What
the calls need of each other is that only one of them at a time can have set `_started` and
not yet made the thread, and that there is no worker then
(`Usbmuxd.WifiCalls.Exclusive`, `Usbmuxd.WifiCalls.exclusive_of_reachable`).

The pointer to the session is copied under the lock and used without it. So the session may be
started by two threads, told of a discovery by a third, and asked to reconnect by a fourth, all
at the same time, and the only thing that keeps them in order are the atomic flags of the
session. The one that counts is `_started`, which is exchanged and not just set: of several
threads that find it false only one gets to make the worker.
-/

namespace Usbmuxd

open Interleaving WifiSession

namespace WifiCalls

/-- Whether a call is one of `ensureSession` or of `requestSessionReconnectNow`. They differ in
what they do when `start` has returned. -/
inductive Kind
  /-- `ensureSession`. -/
  | ensure
  /-- `requestSessionReconnectNow`. -/
  | reconnect
  deriving DecidableEq

/-- Where a thread is in such a call. Making a session, starting it and asking it to reconnect
are separate steps, with other threads in between. -/
inductive CallerPc
  /-- Not in it. -/
  | idle
  /-- Before `_sessionLck` is taken. -/
  | entered (kind : Kind)
  /-- In `start`. -/
  | starting (kind : Kind) (pc : StartPc)
  /-- Before `requestReconnectNow`. -/
  | requesting
  deriving DecidableEq

/-- The call has set `_started`, and has not made the thread yet. Of several calls only one can
be there. -/
def CallerPc.won : CallerPc → Bool
  | idle => false
  | entered _ => false
  | starting _ pc => pc.won
  | requesting => false

/-- Where `updateDiscoveryInfo` is. There is one thread that calls it, that of the manager. -/
inductive UpdatePc
  /-- Not in it. -/
  | idle
  /-- Behind `_sessionLck`, before `_pendingDiscoveryVersion` is set. -/
  | notify (version : ℕ) (changed : Bool)
  /-- Before `_reconnectRequested` is set. -/
  | request
  deriving DecidableEq

/-- It has yet to set `_pendingDiscoveryVersion`. Until then the session works with an older
version. -/
def UpdatePc.owes : UpdatePc → Bool
  | idle => false
  | notify _ _ => true
  | request => false

end WifiCalls

open WifiCalls

/-- A wifi device with its session, and the threads that talk to it. -/
structure WifiCalls (T : Type) where
  /-- `_discoveryVersion`. -/
  discoveryVersion : ℕ
  /-- Whether `_session` is there. -/
  created : Bool
  /-- `*_session`. -/
  session : WifiSession
  /-- Where `updateDiscoveryInfo` is; there is one caller at a time. -/
  updater : UpdatePc
  /-- Where the other threads are. -/
  caller : T → CallerPc

namespace WifiCalls

/-- A step of a thread. Whether the discovery has changed is given by the label. -/
inductive Label (T : Type)
  /-- `ensureSession` or `requestSessionReconnectNow` is called. -/
  | call (t : T) (kind : Kind)
  /-- The call goes on. -/
  | caller (t : T)
  /-- `updateDiscoveryInfo` is called, with what is `changed` or not, and takes
  `_sessionLck`. -/
  | update (changed : Bool)
  /-- `updateDiscoveryInfo` goes on. -/
  | updater
  /-- The worker goes on. -/
  | worker (chance : Chance)

variable {T : Type} [DecidableEq T] (cfg : WifiConfig) (s : WifiCalls T)

/-- A device that has just been found, with its first discovery, and without a session. -/
def init : WifiCalls T := ⟨1, false, WifiSession.new, .idle, fun _ => .idle⟩

/-- A thread goes on to another place, and the session stays as it is. -/
def go (t : T) (pc : CallerPc) : WifiCalls T := { s with caller := Function.update s.caller t pc }

/-- Where a call is when `start` goes on, or has returned. Only a reconnect has something left
to do then. -/
def afterStart : Kind → Option StartPc → CallerPc
  | kind, some pc => .starting kind pc
  | .ensure, none => .idle
  | .reconnect, none => .requesting

/-- `updateDiscoveryInfo` under `_sessionLck`: the version is counted up if anything has
changed, and the session is going to be told if there is one. -/
def updateStep (changed : Bool) : WifiCalls T :=
  let version := if changed then s.discoveryVersion + 1 else s.discoveryVersion
  { s with
    discoveryVersion := version
    updater := if s.created then .notify version changed else .idle }

/-- `WIFIConnectionSession::notifyDiscoveryUpdate`, which is called when the lock has been given
back. -/
def updaterStep : Option (WifiCalls T) :=
  match s.updater with
  | .idle => none
  | .notify version changed =>
    some { s with
      session := { s.session with pendingDiscoveryVersion := version }
      updater := if changed then .request else .idle }
  | .request =>
    some { s with session := { s.session with reconnectRequested := true }, updater := .idle }

/-- `ensureSession` and `requestSessionReconnectNow`, one step of them. -/
def callerStep (t : T) : Option (WifiCalls T) :=
  match s.caller t with
  | .idle => none
  -- the session is made if there is none
  | .entered kind => some { s.go t (.starting kind .testJoinable) with created := true }
  | .starting kind pc =>
    (s.session.start s.discoveryVersion pc).map fun (session, next) =>
      { s.go t (afterStart kind next) with session := session }
  | .requesting =>
    some { s.go t .idle with session := { s.session with reconnectRequested := true } }

/-- One step, by a call, by the thread of the manager or by the worker of the session. -/
def step : Label T → Option (WifiCalls T)
  | .call t kind =>
    match s.caller t with
    | .idle => some (s.go t (.entered kind))
    | _ => none
  | .caller t => s.callerStep t
  | .update changed => if s.updater = .idle then some (s.updateStep changed) else none
  | .updater => s.updaterStep
  | .worker chance =>
    (s.session.run cfg s.discoveryVersion chance).map fun session => { s with session := session }

/-! ### What a step does -/

variable {cfg s} {s' : WifiCalls T} {l : Label T} {t t' : T} {pc : CallerPc}

@[simp] theorem go_caller_self (s : WifiCalls T) (t : T) (pc : CallerPc) :
    (s.go t pc).caller t = pc :=
  Function.update_self ..

theorem go_caller_of_ne (s : WifiCalls T) (pc : CallerPc) (h : t' ≠ t) :
    (s.go t pc).caller t' = s.caller t' :=
  Function.update_of_ne h ..

/-- **The moves**: a call begins, makes the session, makes a step of `start`, or asks for a
reconnect; an update changes the device, and then tells the session; or the worker goes
on. -/
theorem step_cases (h : s.step cfg l = some s') :
    (∃ t kind, l = .call t kind ∧ s.caller t = .idle ∧ s' = s.go t (.entered kind)) ∨
    (∃ t kind, l = .caller t ∧ s.caller t = .entered kind ∧
      s' = { s.go t (.starting kind .testJoinable) with created := true }) ∨
    (∃ t kind pc session next, l = .caller t ∧ s.caller t = .starting kind pc ∧
      s.session.start s.discoveryVersion pc = some (session, next) ∧
      s' = { s.go t (afterStart kind next) with session := session }) ∨
    (∃ t, l = .caller t ∧ s.caller t = .requesting ∧
      s' = { s.go t .idle with session := { s.session with reconnectRequested := true } }) ∨
    (∃ changed, l = .update changed ∧ s.updater = .idle ∧ s' = s.updateStep changed) ∨
    (∃ version changed, l = .updater ∧ s.updater = .notify version changed ∧
      s' = { s with
        session := { s.session with pendingDiscoveryVersion := version }
        updater := if changed then .request else .idle }) ∨
    (l = .updater ∧ s.updater = .request ∧
      s' = { s with session := { s.session with reconnectRequested := true }, updater := .idle }) ∨
    ∃ chance session, l = .worker chance ∧
      s.session.run cfg s.discoveryVersion chance = some session ∧
      s' = { s with session := session } := by
  cases l with
  | call t kind =>
    simp only [step] at h
    split at h
    · rename_i ht
      exact .inl ⟨t, kind, rfl, ht, (Option.some.inj h).symm⟩
    · cases h
  | caller t =>
    simp only [step, callerStep] at h
    split at h
    · cases h
    · rename_i kind ht
      exact .inr (.inl ⟨t, kind, rfl, ht, (Option.some.inj h).symm⟩)
    · rename_i kind pc ht
      obtain ⟨⟨session, next⟩, hstart, hs⟩ := Option.map_eq_some_iff.mp h
      exact .inr (.inr (.inl ⟨t, kind, pc, session, next, rfl, ht, hstart, hs.symm⟩))
    · rename_i ht
      exact .inr (.inr (.inr (.inl ⟨t, rfl, ht, (Option.some.inj h).symm⟩)))
  | update changed =>
    obtain ⟨hidle, hs⟩ := Option.ite_none_right_eq_some.mp h
    exact .inr (.inr (.inr (.inr (.inl ⟨changed, rfl, hidle, (Option.some.inj hs).symm⟩))))
  | updater =>
    simp only [step, updaterStep] at h
    split at h
    · cases h
    · rename_i version changed hu
      exact .inr (.inr (.inr (.inr (.inr (.inl
        ⟨version, changed, rfl, hu, (Option.some.inj h).symm⟩)))))
    · rename_i hu
      exact .inr (.inr (.inr (.inr (.inr (.inr (.inl ⟨rfl, hu, (Option.some.inj h).symm⟩))))))
  | worker chance =>
    obtain ⟨session, hrun, hs⟩ := Option.map_eq_some_iff.mp h
    exact .inr (.inr (.inr (.inr (.inr (.inr (.inr ⟨chance, session, rfl, hrun, hs.symm⟩))))))

/-! ### One call at a time makes a worker -/

/-- **At most one call has set `_started` and not yet made the thread**, and while it has,
there is no worker. -/
structure Exclusive (s : WifiCalls T) : Prop where
  /-- When `_started` is not set, there is no worker. -/
  ended : s.session.started = false → s.session.worker.ended = true
  /-- While a call is about to make the thread, `_started` is set, and there is none. -/
  won : ∀ t, (s.caller t).won = true →
    s.session.started = true ∧ s.session.worker.ended = true
  /-- There is one such call. -/
  one : ∀ t t', (s.caller t).won = true → (s.caller t').won = true → t = t'

omit [DecidableEq T] in
theorem exclusive_init : Exclusive (init : WifiCalls T) where
  ended := fun _ => rfl
  won := fun _ h => by cases h
  one := fun _ _ h => by cases h

/-- A call that goes on, and has not set `_started`. It does not matter where it is. -/
theorem Exclusive.go (h : Exclusive s) (hpc : pc.won = true → (s.caller t).won = true)
    {session : WifiSession} {created : Bool} (hstarted : session.started = s.session.started)
    (hworker : session.worker = s.session.worker) :
    Exclusive { s.go t pc with session := session, created := created } := by
  have hcaller : ∀ u, ((s.go t pc).caller u).won = true → (s.caller u).won = true := by
    intro u hu
    rcases eq_or_ne u t with rfl | hne
    · rw [go_caller_self] at hu
      exact hpc hu
    · rwa [go_caller_of_ne s pc hne] at hu
  refine ⟨?_, ?_, ?_⟩
  · rw [hstarted, hworker]
    exact h.ended
  · rw [hstarted, hworker]
    exact fun u hu => h.won u (hcaller u hu)
  · exact fun u u' hu hu' => h.one u u' (hcaller u hu) (hcaller u' hu')

/-- **A step of `start`**, in which `_started` is exchanged for `true`; who finds it `true` goes
away. -/
theorem Exclusive.startStep (h : Exclusive s) {kind : Kind} {pc : StartPc} {session : WifiSession}
    {next : Option StartPc} (ht : s.caller t = .starting kind pc)
    (hs : s.session.start s.discoveryVersion pc = some (session, next)) :
    Exclusive { s.go t (afterStart kind next) with session := session } := by
  rcases start_worker hs with ⟨hworker, -⟩ | ⟨rfl, hworker, hstarted, rfl⟩
  · rcases start_started hs with ⟨hstarted, hnext⟩ | ⟨rfl, hfree, hset, rfl⟩
    · refine h.go ?_ hstarted hworker
      intro hwon
      rw [ht]
      cases next with
      | none => cases kind <;> cases hwon
      | some pc' => exact (hnext pc' rfl).symm.trans hwon
    · -- the exchange: nobody else has set `_started`, and there is no worker
      have hended := h.ended hfree
      have hnone : ∀ u, ¬(s.caller u).won = true := fun u hu =>
        absurd (hfree.symm.trans (h.won u hu).1) (by simp)
      have honly : ∀ u, ((s.go t (.starting kind .snapshot)).caller u).won = true → u = t := by
        intro u hu
        by_contra hne
        rw [go_caller_of_ne s _ hne] at hu
        exact hnone u hu
      refine ⟨fun hfalse => absurd (hset.symm.trans hfalse) (by simp), ?_, ?_⟩
      · exact fun u _ => ⟨hset, hworker ▸ hended⟩
      · exact fun u u' hu hu' => (honly u hu).trans (honly u' hu').symm
  · -- the thread is made, and no call is about to make one
    have hwon : (s.caller t).won = true := by
      rw [ht]
      rfl
    have hnone : ∀ u, ¬((s.go t (afterStart kind none)).caller u).won = true := by
      intro u hu
      rcases eq_or_ne u t with rfl | hne
      · rw [go_caller_self] at hu
        cases kind <;> cases hu
      · rw [go_caller_of_ne s _ hne] at hu
        exact hne (h.one u t hu hwon)
    refine ⟨?_, fun u hu => absurd hu (hnone u), fun u _ hu => absurd hu (hnone u)⟩
    intro hfalse
    have hfalse : session.started = false := hfalse
    rw [hstarted, (h.won t hwon).1] at hfalse
    cases hfalse

/-- **Every step keeps it so**: there is no second call that makes a thread before the first has
made its own. -/
theorem Exclusive.step (h : Exclusive s) (hs : s.step cfg l = some s') : Exclusive s' := by
  rcases step_cases hs with ⟨t, kind, rfl, ht, rfl⟩ | ⟨t, kind, rfl, ht, rfl⟩ |
    ⟨t, kind, pc, session, next, rfl, ht, hstart, rfl⟩ | ⟨t, rfl, ht, rfl⟩ |
    ⟨changed, rfl, -, rfl⟩ | ⟨version, changed, rfl, -, rfl⟩ | ⟨rfl, -, rfl⟩ |
    ⟨chance, session, rfl, hrun, rfl⟩
  · exact h.go (fun hwon => by cases hwon) rfl rfl
  · exact h.go (fun hwon => by cases hwon) rfl rfl
  · exact h.startStep ht hstart
  · exact h.go (fun hwon => by cases hwon) rfl rfl
  · exact ⟨h.ended, h.won, h.one⟩
  · exact ⟨h.ended, h.won, h.one⟩
  · exact ⟨h.ended, h.won, h.one⟩
  · -- while there is a worker, no call is about to make one
    obtain ⟨hbusy, hrun⟩ := run_started hrun
    have hnone : ∀ u, ¬(s.caller u).won = true := fun u hu =>
      absurd (hbusy.symm.trans (h.won u hu).2) (by simp)
    refine ⟨?_, fun u hu => absurd hu (hnone u), fun u _ hu => absurd hu (hnone u)⟩
    intro hfalse
    rcases hrun with ⟨hstarted, -⟩ | ⟨-, -, hfinished⟩
    · have hended := h.ended (hstarted.symm.trans hfalse)
      exact absurd (hbusy.symm.trans hended) (by simp)
    · rw [hfinished]
      rfl

end WifiCalls

/-- The calls that reach a session, and its worker, as a machine. -/
def wifiCallsMachine (T : Type) [DecidableEq T] (cfg : WifiConfig) :
    Machine (WifiCalls T) (WifiCalls.Label T) :=
  ⟨WifiCalls.step cfg⟩

/-- **In every run** at most one call is about to make the thread, and there is no worker then. -/
theorem WifiCalls.exclusive_of_reachable {T : Type} [DecidableEq T] {cfg : WifiConfig}
    {s : WifiCalls T} (h : (wifiCallsMachine T cfg).Reachable init s) : Exclusive s :=
  h.invariant exclusive_init fun _ _ _ hex _ hs => hex.step hs

end Usbmuxd
