import Mathlib.Data.Fintype.Basic
import Usbmuxd.Wifi.Calls

/-!
# What becomes of a reconnect request

A client that wants the heartbeat of a device to start over calls
`requestSessionReconnectNow`. This starts the session, if it is not started, and sets
`_reconnectRequested`; the worker looks at that when it waits, between two heartbeats, and
before it gives a connection up. When it begins an attempt to connect, it clears it. So a
request should be followed by an attempt: either the worker goes to one by itself, or it
finds the request.

The observer counts the attempts, the tests of `_reconnectRequested`, and the steps of the
worker. A call that has returned is due an attempt later than those that had begun when it
was called.

## What goes wrong

There are exits from the loop of `runloop` at which nobody looks at `_reconnectRequested`:
when retries are disabled, when the device is given up, and by an exception. And between its
exit and its end, while `_started` is still set, the worker is taken by `start` for one that
is at work. Then the request stays behind in a session without worker. Both cases are named
by `Usbmuxd.WifiReconnects.Heeds`; in a run without them no request is lost, and at such an
exit it always is (`Usbmuxd.WifiReconnects.not_kept_of_leaves`).
-/

namespace Usbmuxd

open Interleaving WifiSession WifiCalls

/-- A wifi device with its session, and an observer of the requests, who counts attempts to
connect and notes when a request has been made. -/
structure WifiReconnects (T : Type) where
  /-- The device, the session, and the threads. -/
  host : WifiCalls T
  /-- How many attempts to connect have begun. -/
  attempts : ℕ
  /-- How many times the worker has tested `_reconnectRequested`, or begun an attempt. -/
  tests : ℕ
  /-- How many steps the worker has made. -/
  moves : ℕ
  /-- How many attempts had begun when a thread made its call. -/
  begun : T → ℕ
  /-- How many attempts there have to be for the calls that have returned. -/
  due : ℕ

namespace WifiReconnects

section Defs

variable {T : Type} [DecidableEq T] (cfg : WifiConfig) (s : WifiReconnects T)

/-- A device that has just been found, and nobody has asked for anything. -/
def init : WifiReconnects T := ⟨WifiCalls.init, 0, 0, 0, fun _ => 0, 0⟩

/-- What the observer makes of a step. He has no influence on the session. -/
def observe : WifiCalls.Label T → WifiReconnects T
  | .call t _ => { s with begun := Function.update s.begun t s.attempts }
  | .caller t =>
    { s with due := if s.host.caller t = .requesting then max s.due (s.begun t + 1) else s.due }
  | .worker _ =>
    { s with
      attempts := if s.host.session.worker = .clearReconnect then s.attempts + 1 else s.attempts
      tests := if s.host.session.worker.looks then s.tests + 1 else s.tests
      moves := s.moves + 1 }
  | _ => s

/-- One step of the session and its callers, seen by the observer. -/
def step (l : WifiCalls.Label T) : Option (WifiReconnects T) :=
  (s.host.step cfg l).map fun host => { s.observe l with host := host }

/-- **The runs in question**: the device is not removed, and nothing but calls asks for a
reconnect. -/
def InScope : WifiCalls.Label T → Prop
  | .update _ => False
  | .worker chance => chance.alive = true
  | _ => True

instance : (l : WifiCalls.Label T) → Decidable (InScope l)
  | .update _ => isFalse id
  | .worker chance => inferInstanceAs (Decidable (chance.alive = true))
  | .call _ _ => isTrue trivial
  | .caller _ => isTrue trivial
  | .updater => isTrue trivial

/-- The exits from the loop of a worker that is not stopped: the exception, the removal of
the device, and that retries are disabled. -/
def leaves (chance : Chance) : WorkerPc → Bool
  | .connected => !chance.ok
  | .kill => true
  | .retry => !cfg.retryWifiSession
  | _ => false

/-- The call is about to look at `_started`, and will set `_reconnectRequested` if it finds it
set. -/
def asks : CallerPc → Bool
  | .starting .reconnect .testStarted => true
  | .starting .reconnect .exchangeStarted => true
  | _ => false

/-- **Requests are heeded**: the worker does not leave its loop while a reconnect is
requested, or about to be; and a call does not find `_started` set by a worker that has left
its loop. -/
def Heeds : WifiCalls.Label T → Prop
  | .worker chance => leaves cfg chance s.host.session.worker = true →
      s.host.session.reconnectRequested = false ∧ ∀ t, s.host.caller t ≠ .requesting
  | .caller t => asks (s.host.caller t) = true → s.host.session.started = true →
      s.host.session.worker ≠ .leaving
  | _ => True

instance [Fintype T] : (l : WifiCalls.Label T) → Decidable (Heeds cfg s l)
  | .worker chance => inferInstanceAs (Decidable (leaves cfg chance s.host.session.worker = true →
      s.host.session.reconnectRequested = false ∧ ∀ t, s.host.caller t ≠ .requesting))
  | .caller t => inferInstanceAs (Decidable (asks (s.host.caller t) = true →
      s.host.session.started = true → s.host.session.worker ≠ .leaving))
  | .call _ _ => isTrue trivial
  | .update _ => isTrue trivial
  | .updater => isTrue trivial

/-- **No call is in progress**, so that every request that has been made is there for the
worker. -/
def Quiet : Prop := ∀ t, s.host.caller t = .idle

end Defs

end WifiReconnects

/-- The calls that reach a session, and its worker, observed, as a machine. -/
def wifiReconnectsMachine (T : Type) [DecidableEq T] (cfg : WifiConfig) :
    Machine (WifiReconnects T) (WifiCalls.Label T) :=
  ⟨WifiReconnects.step cfg⟩

namespace WifiReconnects

variable {T : Type} [DecidableEq T] {cfg : WifiConfig} {s s' : WifiReconnects T}
  {l : WifiCalls.Label T} {t : T} {host : WifiCalls T} {session : WifiSession}

/-- A step of a run in question, in which the device stays as it is and nobody stops its
session, and in which requests are heeded. -/
def Ok (cfg : WifiConfig) (s : WifiReconnects T) (l : WifiCalls.Label T) : Prop :=
  InScope l ∧ Heeds cfg s l

instance [Fintype T] (s : WifiReconnects T) (l : WifiCalls.Label T) : Decidable (Ok cfg s l) :=
  inferInstanceAs (Decidable (_ ∧ _))

/-- **No request is lost**: there is a worker for it, which tests it, and which begins an
attempt after a bounded number of steps. -/
structure Kept (cfg : WifiConfig) (s : WifiReconnects T) : Prop where
  /-- A request that is there when no call is in progress has a worker in its loop. -/
  running : s.Quiet → s.host.session.reconnectRequested = true →
    s.host.session.worker.inLoop = true
  /-- The worker tests it before it is out of the loop. -/
  tested : s.Quiet → s.host.session.reconnectRequested = true → ∀ s',
    (wifiReconnectsMachine T cfg).Reaches (Ok cfg) s s' →
      s'.host.session.worker.inLoop = false → s.tests < s'.tests
  /-- If the attempt that a call is due has not begun, there is a worker in its loop, and it
  begins it within 17 steps. -/
  followed : s.Quiet → s.attempts < s.due → s.host.session.worker.inLoop = true ∧ ∀ s',
    (wifiReconnectsMachine T cfg).Reaches (Ok cfg) s s' →
      s.moves + 17 ≤ s'.moves → s.due ≤ s'.attempts

/-! ### The worker -/

section Worker

variable {r r' : WifiSession} {version : ℕ} {chance : Chance}

/-- **A request that the worker will come to**: it is in its loop, and a reconnect is
requested, or it is on its way to an attempt. -/
def Held (r : WifiSession) : Prop :=
  r.worker.inLoop = true ∧ (r.reconnectRequested = true ∨ r.worker.onWay = true)

/-- How many steps there are at most before an attempt, if a reconnect is requested. -/
def distance : WorkerPc → ℕ
  | .connect => 16
  | .connected => 15
  | .receive _ => 14
  | .beatStop _ => 13
  | .beatPending _ => 12
  | .beatReconnect _ => 11
  | .afterBeat _ => 10
  | .exchange _ => 9
  | .comparePending _ => 8
  | .heartless => 7
  | .kill => 6
  | .retry => 6
  | .waiting => 5
  | .head => 4
  | .lock => 3
  | .snapshot => 2
  | .storeApplied _ => 1
  | _ => 0

theorem distance_le (pc : WorkerPc) : distance pc ≤ 16 := by
  cases pc <;> simp [distance]

/-- **A worker that is held** comes nearer to its next attempt with every step, or begins
it. -/
theorem Held.run (h : Held r) (hs : r.run cfg version chance = some r')
    (hstop : r.stopRequested = false) (halive : chance.alive = true)
    (hstay : leaves cfg chance r.worker = false) :
    r.worker = .clearReconnect ∨ Held r' ∧ distance r'.worker + 1 ≤ distance r.worker := by
  obtain ⟨worker, joinable, stopRequested, started, reconnectRequested, pending, applied⟩ := r
  obtain rfl : stopRequested = false := hstop
  obtain ⟨hin, hheld⟩ := h
  cases worker with
  | absent => cases hin
  | leaving => cases hin
  | finished => cases hin
  | clearReconnect => exact .inl rfl
  | head =>
    cases hs
    exact .inr ⟨⟨rfl, .inr rfl⟩, Nat.le_refl _⟩
  | lock =>
    cases hs
    rw [halive]
    exact .inr ⟨⟨rfl, .inr rfl⟩, Nat.le_refl _⟩
  | snapshot =>
    cases hs
    exact .inr ⟨⟨rfl, .inr rfl⟩, Nat.le_refl _⟩
  | storeApplied v =>
    cases hs
    exact .inr ⟨⟨rfl, .inr rfl⟩, Nat.le_refl _⟩
  | waiting =>
    cases hs
    exact .inr ⟨⟨rfl, .inr rfl⟩, Nat.le_refl _⟩
  | kill => cases hstay
  | receive sleepy =>
    obtain rfl : reconnectRequested = true := hheld.resolve_right (by simp [WorkerPc.onWay])
    simp only [WifiSession.run] at hs
    split at hs
    · cases hs
      exact .inr ⟨⟨rfl, .inl rfl⟩, by simp [workerAt, distance]⟩
    · cases hs
      refine .inr ⟨⟨?_, .inl rfl⟩, ?_⟩
      all_goals
        simp only [workerAt]
        split <;> simp [WorkerPc.inLoop, distance]
  | connected =>
    obtain rfl : reconnectRequested = true := hheld.resolve_right (by simp [WorkerPc.onWay])
    have hok : chance.ok = true := by simpa [leaves] using hstay
    cases hs
    rw [hok]
    exact .inr ⟨⟨rfl, .inl rfl⟩, by simp [workerAt, distance]⟩
  | retry =>
    obtain rfl : reconnectRequested = true := hheld.resolve_right (by simp [WorkerPc.onWay])
    have hretry : cfg.retryWifiSession = true := by simpa [leaves] using hstay
    cases hs
    rw [hretry]
    exact .inr ⟨⟨rfl, .inl rfl⟩, by simp [workerAt, distance]⟩
  | exchange sleepy =>
    -- the request is taken as the reason for an attempt
    obtain rfl : reconnectRequested = true := hheld.resolve_right (by simp [WorkerPc.onWay])
    cases hs
    exact .inr ⟨⟨rfl, .inr rfl⟩, by simp [distance]⟩
  | _ =>
    obtain rfl : reconnectRequested = true := hheld.resolve_right (by simp [WorkerPc.onWay])
    cases hs
    refine .inr ⟨⟨?_, .inl rfl⟩, ?_⟩
    all_goals
      simp only [workerAt]
      repeat' split
      all_goals simp_all [WorkerPc.inLoop, distance]

/-- **A worker that does not leave its loop is in it**, if it is not stopped and its device is
there. -/
theorem run_inLoop (hin : r.worker.inLoop = true) (hs : r.run cfg version chance = some r')
    (hstop : r.stopRequested = false) (halive : chance.alive = true)
    (hstay : leaves cfg chance r.worker = false) : r'.worker.inLoop = true := by
  obtain ⟨worker, joinable, stopRequested, started, reconnectRequested, pending, applied⟩ := r
  obtain rfl : stopRequested = false := hstop
  cases worker with
  | absent => cases hin
  | leaving => cases hin
  | finished => cases hin
  | kill => cases hstay
  | lock =>
    cases hs
    rw [halive]
    rfl
  | connected =>
    have hok : chance.ok = true := by simpa [leaves] using hstay
    cases hs
    rw [hok]
    rfl
  | retry =>
    have hretry : cfg.retryWifiSession = true := by simpa [leaves] using hstay
    cases hs
    rw [hretry]
    rfl
  | receive sleepy =>
    simp only [WifiSession.run] at hs
    split at hs
    · cases hs
      rfl
    · cases hs
      simp only [workerAt]
      split <;> rfl
  | _ =>
    cases hs
    simp only [workerAt]
    repeat' split
    all_goals first | rfl | contradiction

/-- **The request stays as it is** in a step that does not look at it. -/
theorem run_flag (hs : r.run cfg version chance = some r') (hlook : r.worker.looks = false) :
    r'.reconnectRequested = r.reconnectRequested := by
  rcases run_cases hs with ⟨pc, rfl, -⟩ | ⟨v, -, rfl⟩ | ⟨hw, -⟩ | ⟨sleepy, hw, -⟩ | ⟨-, rfl⟩
  · rfl
  · rfl
  · rw [hw] at hlook
    cases hlook
  · rw [hw] at hlook
    cases hlook
  · rfl

end Worker

/-! ### The invariant -/

/-- **The session is served**: there is a worker in its loop, or a call is about to make
one. -/
def Served (host : WifiCalls T) : Prop :=
  host.session.worker.inLoop = true ∨ ∃ t, (host.caller t).won = true

/-- **The invariant** of the session and the observer, in which the requests that are due are on
their way to an attempt. -/
structure Inv (s : WifiReconnects T) : Prop where
  /-- One call at a time makes a worker. -/
  exclusive : Exclusive s.host
  /-- Nobody stops the session. -/
  stop : s.host.session.stopRequested = false
  /-- Nobody updates the device. -/
  updater : s.host.updater = .idle
  /-- A session that is started is served, unless the worker is about to end. -/
  started : s.host.session.started = true → Served s.host ∨ s.host.session.worker = .leaving
  /-- A session with a request is served. -/
  flag : s.host.session.reconnectRequested = true → Served s.host
  /-- So is one that is about to get one. -/
  requesting : ∀ t, s.host.caller t = .requesting → Served s.host
  /-- What the observer has noted. -/
  begun : ∀ t, s.begun t ≤ s.attempts
  /-- One more attempt is enough for all calls. -/
  due : s.due ≤ s.attempts + 1
  /-- An attempt that is due will be made. -/
  owed : s.attempts < s.due → (∃ t, (s.host.caller t).won = true) ∨ Held s.host.session

omit [DecidableEq T] in
theorem inv_init : Inv (init : WifiReconnects T) where
  exclusive := exclusive_init
  stop := rfl
  updater := rfl
  started := fun h => by cases h
  flag := fun h => by cases h
  requesting := fun _ h => by cases h
  begun := fun _ => Nat.le_refl _
  due := Nat.zero_le _
  owed := fun h => by cases h

/-- **What other threads do while the worker is in its loop**: they leave it where it is,
and take no request back. -/
theorem Inv.worker_eq (h : Inv s) (hin : s.host.session.worker.inLoop = true)
    (hs : s.host.step cfg l = some host) (hl : ∀ chance, l ≠ .worker chance) :
    host.session.worker = s.host.session.worker ∧
      (s.host.session.reconnectRequested = true → host.session.reconnectRequested = true) := by
  rcases step_cases hs with ⟨t, kind, rfl, ht, rfl⟩ | ⟨t, kind, rfl, ht, rfl⟩ |
    ⟨t, kind, pc, session, next, rfl, ht, hstart, rfl⟩ | ⟨t, rfl, ht, rfl⟩ |
    ⟨changed, rfl, -, rfl⟩ | ⟨version, changed, rfl, hu, rfl⟩ | ⟨rfl, hu, rfl⟩ |
    ⟨chance, session, rfl, hrun, rfl⟩
  · exact ⟨rfl, id⟩
  · exact ⟨rfl, id⟩
  · -- a call that has set `_started` does not see a worker
    have hnot : pc.won ≠ true := by
      intro hwon
      have hended := (h.exclusive.won t (by rw [ht]; exact hwon)).2
      rw [not_ended_of_inLoop hin] at hended
      cases hended
    have hworker : session.worker = s.host.session.worker := by
      rcases start_worker hstart with ⟨hworker, -⟩ | ⟨rfl, -⟩
      · exact hworker
      · exact absurd rfl hnot
    have hflag : session.reconnectRequested = s.host.session.reconnectRequested := by
      rcases (start_reconnect hstart).2 with hflag | rfl
      · exact hflag
      · exact absurd rfl hnot
    exact ⟨hworker, fun hset => hflag.trans hset⟩
  · exact ⟨rfl, fun _ => rfl⟩
  · exact ⟨rfl, id⟩
  · exact ⟨rfl, id⟩
  · exact ⟨rfl, fun _ => rfl⟩
  · exact absurd rfl (hl chance)

/-- **A call that goes on**, and makes no worker. It may leave a request behind. -/
theorem Inv.go (h : Inv s) {pc : CallerPc} {created : Bool} {begun : T → ℕ} {due : ℕ}
    (hex : Exclusive { s.host.go t pc with session := session, created := created })
    (hstop : session.stopRequested = false) (hworker : session.worker = s.host.session.worker)
    (hpc : (s.host.caller t).won = true → pc.won = true)
    (hstarted : session.started = true → s.host.session.started = true ∨ pc.won = true)
    (hflag : session.reconnectRequested = true → Served s.host)
    (hrequesting : pc = .requesting → Served s.host)
    (hbegun : ∀ t, begun t ≤ s.attempts) (hdue : due ≤ s.attempts + 1)
    (howed : s.attempts < due → (∃ u, (s.host.caller u).won = true) ∨ Held session) :
    Inv ⟨{ s.host.go t pc with session := session, created := created },
      s.attempts, s.tests, s.moves, begun, due⟩ := by
  have hwon : (∃ u, (s.host.caller u).won = true) →
      ∃ u, ((s.host.go t pc).caller u).won = true := by
    rintro ⟨u, hu⟩
    rcases eq_or_ne u t with rfl | hne
    · exact ⟨u, by rw [go_caller_self]; exact hpc hu⟩
    · exact ⟨u, by rwa [go_caller_of_ne s.host pc hne]⟩
  have hserved : Served s.host →
      Served { s.host.go t pc with session := session, created := created } :=
    Or.imp (fun hin => by rwa [← hworker] at hin) hwon
  refine ⟨hex, hstop, h.updater, ?_, fun hset => hserved (hflag hset), ?_, hbegun, hdue,
    fun hlt => (howed hlt).imp_left hwon⟩
  · intro hset
    rcases hstarted hset with hset | hnew
    · exact (h.started hset).imp hserved fun hleaving => hworker.trans hleaving
    · exact .inl (.inr ⟨t, by rw [← hnew]; exact congrArg _ (go_caller_self ..)⟩)
  · intro u hu
    rcases eq_or_ne u t with rfl | hne
    · exact hserved (hrequesting (by simpa using hu))
    · exact hserved (h.requesting u (by rwa [← go_caller_of_ne s.host pc hne]))

/-- **A step of `start`**, by which a worker is made that begins with an attempt. -/
theorem Inv.startStep (h : Inv s) {kind : Kind} {pc : StartPc} {next : Option StartPc}
    (ht : s.host.caller t = .starting kind pc)
    (hs : s.host.session.start s.host.discoveryVersion pc = some (session, next))
    (hok : Heeds cfg s (.caller t)) :
    Inv { s with host := { s.host.go t (afterStart kind next) with session := session } } := by
  have hex := h.exclusive.startStep ht hs
  have hstop := (start_reconnect hs).1 h.stop
  rcases start_worker hs with ⟨hworker, hspawn⟩ | ⟨rfl, hworker, -, rfl⟩
  · have hwon : pc.won = true → Served s.host := fun hwon => .inr ⟨t, by rw [ht]; exact hwon⟩
    refine h.go hex hstop hworker ?_ ?_ ?_ ?_ h.begun h.due ?_
    · -- a call that has set `_started` returns only when it has made the thread
      intro hset
      have hset : pc.won = true := by rwa [ht] at hset
      rcases start_started hs with ⟨-, hnext⟩ | ⟨rfl, -⟩
      · cases next with
        | none =>
          rcases start_returns hs with ⟨rfl | rfl, -⟩ | hpc
          · cases hset
          · cases hset
          · exact absurd hpc hspawn
        | some pc' => exact (hnext pc' rfl).trans hset
      · cases hset
    · intro hset
      rcases start_started hs with ⟨heq, -⟩ | ⟨rfl, -, -, rfl⟩
      · exact .inl (heq.symm.trans hset)
      · exact .inr rfl
    · intro hset
      rcases (start_reconnect hs).2 with heq | rfl
      · exact h.flag (heq.symm.trans hset)
      · exact hwon rfl
    · -- the call has found `_started` set
      intro hrequesting
      cases next with
      | some pc' => cases kind <;> cases hrequesting
      | none =>
        cases kind with
        | ensure => cases hrequesting
        | reconnect =>
          rcases start_returns hs with ⟨hpc, hset, -⟩ | hpc
          · refine (h.started hset).resolve_right (hok ?_ hset)
            rw [ht]
            rcases hpc with rfl | rfl <;> rfl
          · exact absurd hpc hspawn
    · intro hlt
      rcases h.owed hlt with hsome | hheld
      · exact .inl hsome
      · rcases (start_reconnect hs).2 with heq | rfl
        · exact .inr ⟨hworker ▸ hheld.1, by rw [heq, hworker]; exact hheld.2⟩
        · exact .inl ⟨t, by rw [ht]; rfl⟩
  · -- the thread is made
    have hin : session.worker.inLoop = true := by rw [hworker]; rfl
    exact ⟨hex, hstop, h.updater, fun _ => .inl (.inl hin), fun _ => .inl hin,
      fun _ _ => .inl hin, h.begun, h.due,
      fun _ => .inr ⟨hin, .inr (by rw [hworker]; rfl)⟩⟩

omit [DecidableEq T] in
/-- While there is a worker, no call has set `_started`, as the worker would have to have come
to its end before. -/
theorem Inv.not_won (h : Inv s) (hbusy : s.host.session.worker.ended = false) (t : T) :
    ¬(s.host.caller t).won = true := fun ht =>
  absurd (hbusy.symm.trans (h.exclusive.won t ht).2) (by simp)

omit [DecidableEq T] in
/-- So if the session is served, then by the worker, which is in its loop. -/
theorem Inv.inLoop_of_served (h : Inv s) (hbusy : s.host.session.worker.ended = false)
    (hserved : Served s.host) : s.host.session.worker.inLoop = true :=
  hserved.resolve_right fun ⟨t, ht⟩ => h.not_won hbusy t ht

/-- **A step of the worker**, which finds the request, or makes the attempt that it is about. -/
theorem Inv.workerStep (h : Inv s) {chance : Chance}
    (hex : Exclusive { s.host with session := session })
    (hs : s.host.session.run cfg s.host.discoveryVersion chance = some session)
    (halive : chance.alive = true) (hok : Heeds cfg s (.worker chance)) :
    Inv { s.observe (.worker chance) with host := { s.host with session := session } } := by
  obtain ⟨hbusy, hstarted⟩ := run_started hs
  obtain ⟨hstop, hflag⟩ := run_requests hs
  -- a worker that was in its loop, and had a reason to stay, has stayed
  have hstay : s.host.session.worker.inLoop = true →
      (s.host.session.reconnectRequested = true ∨ ∃ t, s.host.caller t = .requesting) →
        session.worker.inLoop = true := by
    rintro hin hreason
    refine run_inLoop hin hs h.stop halive (Bool.eq_false_iff.mpr fun hleaves => ?_)
    obtain ⟨hnone, hidle⟩ := hok hleaves
    rcases hreason with hset | ⟨t, ht⟩
    · exact absurd (hnone.symm.trans hset) (by simp)
    · exact hidle t ht
  refine ⟨hex, hstop.trans h.stop, h.updater, ?_, ?_, ?_, ?_, ?_, ?_⟩
  · intro hset
    rcases hstarted with ⟨-, hended⟩ | ⟨-, hfalse, -⟩
    · exact (inLoop_or_leaving_of_not_ended hended).imp_left .inl
    · exact absurd (hfalse.symm.trans hset) (by simp)
  · intro hset
    have hset := hflag hset
    exact .inl (hstay (h.inLoop_of_served hbusy (h.flag hset)) (.inl hset))
  · intro t ht
    exact .inl (hstay (h.inLoop_of_served hbusy (h.requesting t ht)) (.inr ⟨t, ht⟩))
  · intro t
    refine (h.begun t).trans ?_
    simp only [observe]
    split <;> omega
  · refine h.due.trans ?_
    simp only [observe]
    split <;> omega
  · intro hlt
    have hdue := h.due
    simp only [observe] at hlt
    split at hlt
    · -- an attempt has begun, and that is enough
      omega
    · rename_i hclear
      have hheld := (h.owed hlt).resolve_left fun ⟨t, ht⟩ => h.not_won hbusy t ht
      cases hleaves : leaves cfg chance s.host.session.worker with
      | false =>
        rcases hheld.run hs h.stop halive hleaves with heq | ⟨hheld, -⟩
        · exact absurd heq hclear
        · exact .inr hheld
      | true =>
        -- no exit is on the way to an attempt
        rcases hheld.2 with hset | hway
        · exact absurd ((hok hleaves).1.symm.trans hset) (by simp)
        · cases hw : s.host.session.worker <;> simp [hw, WorkerPc.onWay, leaves] at hway hleaves

/-- **Every step keeps the invariant**, if requests are heeded, whichever thread makes it. -/
theorem Inv.step (h : Inv s) (hok : Ok cfg s l) (hs : s.step cfg l = some s') : Inv s' := by
  obtain ⟨host, hhost, rfl⟩ := Option.map_eq_some_iff.mp hs
  obtain ⟨hscope, hheeds⟩ := hok
  have hex := h.exclusive.step hhost
  rcases step_cases hhost with ⟨t, kind, rfl, ht, rfl⟩ | ⟨t, kind, rfl, ht, rfl⟩ |
    ⟨t, kind, pc, session, next, rfl, ht, hstart, rfl⟩ | ⟨t, rfl, ht, rfl⟩ |
    ⟨changed, rfl, -, rfl⟩ | ⟨version, changed, rfl, hu, rfl⟩ | ⟨rfl, hu, rfl⟩ |
    ⟨chance, session, rfl, hrun, rfl⟩
  · refine h.go hex h.stop rfl (fun hwon => ?_) .inl h.flag (by simp) ?_ h.due h.owed
    · rw [ht] at hwon
      cases hwon
    · intro u
      simp only [observe]
      rcases eq_or_ne u t with rfl | hne
      · rw [Function.update_self]
      · rw [Function.update_of_ne hne]
        exact h.begun u
  · have hsame : s.observe (.caller t) = s := by simp [observe, ht]
    rw [hsame]
    refine h.go hex h.stop rfl (fun hwon => ?_) .inl h.flag (by simp) h.begun h.due h.owed
    rw [ht] at hwon
    cases hwon
  · have hsame : s.observe (.caller t) = s := by simp [observe, ht]
    rw [hsame]
    exact h.startStep ht hstart hheeds
  · -- the request is made
    have hserved := h.requesting t ht
    have hdue : (s.observe (.caller t)).due ≤ s.attempts + 1 := by
      simp only [observe, ht, if_true]
      exact max_le h.due (Nat.succ_le_succ (h.begun t))
    refine h.go hex h.stop rfl (fun hwon => ?_) .inl (fun _ => hserved) (by simp) h.begun hdue ?_
    · rw [ht] at hwon
      cases hwon
    · exact fun _ => hserved.symm.imp_right fun hin => ⟨hin, .inl rfl⟩
  · exact hscope.elim
  · exact absurd (hu.symm.trans h.updater) (by simp)
  · exact absurd (hu.symm.trans h.updater) (by simp)
  · exact h.workerStep hex hrun hscope hheeds

/-! ### From a state on -/

/-- **What a worker that is held does in a step of any thread**: it stays so, and has come
nearer to its next attempt if the step was its own, or it has begun it. -/
theorem Inv.held_step (h : Inv s) (hheld : Held s.host.session) (hok : Ok cfg s l)
    (hs : s.step cfg l = some s') : s'.attempts = s.attempts + 1 ∨
      Held s'.host.session ∧ s'.attempts = s.attempts ∧
        s'.moves + distance s'.host.session.worker ≤ s.moves + distance s.host.session.worker := by
  obtain ⟨host, hhost, rfl⟩ := Option.map_eq_some_iff.mp hs
  by_cases hl : ∃ chance, l = .worker chance
  · obtain ⟨chance, rfl⟩ := hl
    obtain ⟨session, hrun, rfl⟩ := Option.map_eq_some_iff.mp hhost
    obtain ⟨halive, hheeds⟩ := hok
    by_cases hclear : s.host.session.worker = .clearReconnect
    · exact .inl (if_pos hclear)
    · have hstay : leaves cfg chance s.host.session.worker = false := by
        refine Bool.eq_false_iff.mpr fun hleaves => ?_
        rcases hheld.2 with hset | hway
        · exact absurd ((hheeds hleaves).1.symm.trans hset) (by simp)
        · cases hw : s.host.session.worker <;> simp [hw, WorkerPc.onWay, leaves] at hway hleaves
      obtain ⟨hheld, hnear⟩ := (hheld.run hrun h.stop halive hstay).resolve_left hclear
      refine .inr ⟨hheld, if_neg hclear, ?_⟩
      simp only [observe]
      omega
  · have hl : ∀ chance, l ≠ .worker chance := fun chance heq => hl ⟨chance, heq⟩
    obtain ⟨hworker, hflag⟩ := h.worker_eq hheld.1 hhost hl
    refine .inr ⟨⟨hworker ▸ hheld.1, hworker ▸ hheld.2.imp_left hflag⟩, ?_⟩
    cases l with
    | worker chance => exact absurd rfl (hl chance)
    | _ => exact ⟨rfl, by simp only [observe, hworker, Nat.le_refl]⟩

/-- **What a worker that is asked does in a step of any thread**: it tests the request, or
it is still in its loop, and still asked. -/
theorem Inv.asked_step (h : Inv s) (hin : s.host.session.worker.inLoop = true)
    (hflag : s.host.session.reconnectRequested = true) (hok : Ok cfg s l)
    (hs : s.step cfg l = some s') : s'.tests = s.tests + 1 ∨
      s'.host.session.worker.inLoop = true ∧ s'.host.session.reconnectRequested = true ∧
        s'.tests = s.tests := by
  obtain ⟨host, hhost, rfl⟩ := Option.map_eq_some_iff.mp hs
  by_cases hl : ∃ chance, l = .worker chance
  · obtain ⟨chance, rfl⟩ := hl
    obtain ⟨session, hrun, rfl⟩ := Option.map_eq_some_iff.mp hhost
    obtain ⟨halive, hheeds⟩ := hok
    cases hlook : s.host.session.worker.looks with
    | true => exact .inl (if_pos hlook)
    | false =>
      have hstay : leaves cfg chance s.host.session.worker = false :=
        Bool.eq_false_iff.mpr fun hleaves =>
          absurd ((hheeds hleaves).1.symm.trans hflag) (by simp)
      exact .inr ⟨run_inLoop hin hrun h.stop halive hstay, (run_flag hrun hlook).trans hflag,
        if_neg (by rw [hlook]; simp)⟩
  · have hl : ∀ chance, l ≠ .worker chance := fun chance heq => hl ⟨chance, heq⟩
    obtain ⟨hworker, hkeep⟩ := h.worker_eq hin hhost hl
    refine .inr ⟨hworker ▸ hin, hkeep hflag, ?_⟩
    cases l with
    | worker chance => exact absurd rfl (hl chance)
    | _ => rfl

/-- The observer counts up, and never down. -/
theorem step_le (hs : s.step cfg l = some s') : s.attempts ≤ s'.attempts ∧ s.tests ≤ s'.tests := by
  obtain ⟨host, -, rfl⟩ := Option.map_eq_some_iff.mp hs
  cases l with
  | worker chance =>
    simp only [observe]
    constructor <;> split <;> omega
  | _ => exact ⟨Nat.le_refl _, Nat.le_refl _⟩

/-- **A worker that is held begins an attempt** before it has made 17 steps. -/
theorem Inv.attempts_lt (h : Inv s) (hheld : Held s.host.session)
    (hr : (wifiReconnectsMachine T cfg).Reaches (Ok cfg) s s') (hmoves : s.moves + 17 ≤ s'.moves) :
    s.attempts < s'.attempts := by
  have hrun := hr.invariant (I := fun r => Inv r ∧ (s.attempts < r.attempts ∨
    Held r.host.session ∧ r.moves + distance r.host.session.worker ≤
      s.moves + distance s.host.session.worker ∧ r.attempts = s.attempts))
    ⟨h, .inr ⟨hheld, Nat.le_refl _, rfl⟩⟩ ?_
  · rcases hrun.2 with hlt | ⟨-, hnear, -⟩
    · exact hlt
    · have hle := distance_le s.host.session.worker
      omega
  · rintro r l r' ⟨hinv, hcases⟩ hok hs
    refine ⟨hinv.step hok hs, ?_⟩
    rcases hcases with hlt | ⟨hheld, hnear, heq⟩
    · exact .inl (hlt.trans_le (step_le hs).1)
    · rcases hinv.held_step hheld hok hs with hbegun | ⟨hheld, hsame, hnearer⟩
      · exact .inl (by omega)
      · exact .inr ⟨hheld, hnearer.trans hnear, hsame.trans heq⟩

/-- **A worker that is asked tests the request** before it is out of its loop. -/
theorem Inv.tests_lt (h : Inv s) (hin : s.host.session.worker.inLoop = true)
    (hflag : s.host.session.reconnectRequested = true)
    (hr : (wifiReconnectsMachine T cfg).Reaches (Ok cfg) s s')
    (hleft : s'.host.session.worker.inLoop = false) : s.tests < s'.tests := by
  have hrun := hr.invariant (I := fun r => Inv r ∧ (s.tests < r.tests ∨
    r.host.session.worker.inLoop = true ∧ r.host.session.reconnectRequested = true ∧
      r.tests = s.tests)) ⟨h, .inr ⟨hin, hflag, rfl⟩⟩ ?_
  · rcases hrun.2 with hlt | ⟨hin, -⟩
    · exact hlt
    · exact absurd (hleft.symm.trans hin) (by simp)
  · rintro r l r' ⟨hinv, hcases⟩ hok hs
    refine ⟨hinv.step hok hs, ?_⟩
    rcases hcases with hlt | ⟨hin, hflag, heq⟩
    · exact .inl (hlt.trans_le (step_le hs).2)
    · rcases hinv.asked_step hin hflag hok hs with htested | ⟨hin, hflag, hsame⟩
      · exact .inl (by omega)
      · exact .inr ⟨hin, hflag, hsame.trans heq⟩

/-- **No request is lost** in a run in which requests are heeded, from the beginning on. -/
theorem kept_of_reaches (h : (wifiReconnectsMachine T cfg).Reaches (Ok cfg) init s) :
    Kept cfg s := by
  have hinv : Inv s := h.invariant inv_init fun _ _ _ hinv hok hs => hinv.step hok hs
  have hnone : s.Quiet → ¬∃ t, (s.host.caller t).won = true := by
    rintro hquiet ⟨t, ht⟩
    rw [hquiet t] at ht
    cases ht
  have hrunning : s.Quiet → s.host.session.reconnectRequested = true →
      s.host.session.worker.inLoop = true := fun hquiet hflag =>
    (hinv.flag hflag).resolve_right (hnone hquiet)
  refine ⟨hrunning, ?_, ?_⟩
  · exact fun hquiet hflag s' hr hleft =>
      hinv.tests_lt (hrunning hquiet hflag) hflag hr hleft
  · intro hquiet hlt
    have hheld := (hinv.owed hlt).resolve_left (hnone hquiet)
    refine ⟨hheld.1, fun s' hr hmoves => ?_⟩
    exact hinv.due.trans (hinv.attempts_lt hheld hr hmoves)

/-- **A worker that leaves its loop with a request** loses it, when no call is in progress. -/
theorem not_kept_of_leaves {chance : Chance} (hquiet : s.Quiet)
    (hflag : s.host.session.reconnectRequested = true)
    (hleaves : leaves cfg chance s.host.session.worker = true)
    (hs : s.step cfg (.worker chance) = some s') : ¬Kept cfg s' := by
  obtain ⟨host, hhost, rfl⟩ := Option.map_eq_some_iff.mp hs
  obtain ⟨session, hrun, rfl⟩ := Option.map_eq_some_iff.mp hhost
  have hleft : session = s.host.session.workerAt .leaving := by
    simp only [WifiSession.run] at hrun
    cases hw : s.host.session.worker <;> simp [hw, leaves] at hleaves hrun
    · simpa [hleaves] using hrun.symm
    · exact hrun.symm
    · simpa [hleaves] using hrun.symm
  intro hkept
  have hin := hkept.running hquiet (by rw [hleft]; exact hflag)
  rw [hleft] at hin
  cases hin

/-! ### Runs -/

omit [DecidableEq T] in
/-- With one calling thread, it is quiet when that one is idle. There is no other that might be
in a call. -/
theorem quiet_of_idle {s : WifiReconnects Unit} (h : s.host.caller () = .idle) : s.Quiet :=
  fun _ => h

/-- A call that starts the session, and asks it to reconnect, without a break. -/
def request : List (WifiCalls.Label Unit) :=
  .call () .reconnect :: List.replicate 10 (.caller ())

/-- A step of the worker in which a connection is made or not. -/
def works (ok : Bool) : WifiCalls.Label Unit := .worker ⟨true, ok, .lost⟩

/-- A request to a session with a worker, which is heeded by the next test. -/
theorem kept_of_reaches_request : ∃ s : WifiReconnects Unit, s.Quiet ∧
    s.host.session.reconnectRequested = true ∧ s.attempts < s.due ∧ Kept ⟨true, true⟩ s := by
  obtain ⟨s, hr, hp⟩ := (wifiReconnectsMachine Unit ⟨true, true⟩).exists_reaches_of_runOk
    (Ok ⟨true, true⟩) init request (fun s => decide (s.host.caller () = .idle ∧
      s.host.session.reconnectRequested = true ∧ s.attempts < s.due)) (by decide)
  obtain ⟨hcaller, hflag, hdue⟩ := of_decide_eq_true hp
  exact ⟨s, quiet_of_idle hcaller, hflag, hdue, kept_of_reaches hr⟩

/-- **A request that is lost**: retries are disabled, and no connection can be made. The
worker is out of its loop when the request finds `_started` set, and ends. -/
theorem request_lost : ∃ s : WifiReconnects Unit,
    (wifiReconnectsMachine Unit ⟨true, false⟩).Reaches (fun _ l => InScope l) init s ∧ s.Quiet ∧
      s.host.session.reconnectRequested = true ∧ s.host.session.worker = .finished ∧
      ¬Kept ⟨true, false⟩ s := by
  obtain ⟨s, hr, hp⟩ := (wifiReconnectsMachine Unit ⟨true, false⟩).exists_reaches_of_runOk
    (fun _ l => InScope l) init
    (request ++ List.replicate 8 (works false) ++
      [.call () .reconnect, .caller (), .caller (), .caller (), .caller (), works false])
    (fun s => decide (s.host.caller () = .idle ∧ s.host.session.reconnectRequested = true ∧
      s.host.session.worker = .finished)) (by decide)
  obtain ⟨hcaller, hflag, hworker⟩ := of_decide_eq_true hp
  have hquiet := quiet_of_idle hcaller
  refine ⟨s, hr, hquiet, hflag, hworker, fun hkept => ?_⟩
  have hin := hkept.running hquiet hflag
  rw [hworker] at hin
  cases hin

end WifiReconnects

end Usbmuxd
