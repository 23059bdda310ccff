import Mathlib.Data.Nat.Basic

/-!
# The session of a wifi device

A `WIFIConnectionSession` keeps a heartbeat going with its device, on a thread of its
own: it connects, answers the heartbeats of the device, and starts over when the
connection is lost or a reconnect is asked for. What other threads want from it, they
write into three atomic variables and two version numbers.

This file has the functions of `WIFIConnectionSession.cpp`, cut into steps between which
other threads may write: `start` and `stop` for whoever calls them, and `runloop` with
`runAttempt` for the worker. Which step a thread is at is part of the state of the thread;
what it does is a function of the session (`Usbmuxd.WifiSession.start`,
`Usbmuxd.WifiSession.stop`, `Usbmuxd.WifiSession.run`). The waits on `_wakeCv` have a
timeout, so the worker may always go on.

## Where the process ends

Nothing keeps two calls from using `_worker` at the same time. A call that joins a thread
which another call has joined since `_worker.joinable()` was tested gets a
`std::system_error`; all that call `start` and `stop` are `noexcept`, or are called by
`add_device`, which is, so that nobody catches it. And `std::thread` calls `std::terminate`
when it is assigned to before the thread it stands for has been joined. In both cases the
daemon is gone. There is no session to say anything about then, and so such a step is not
possible here: a run ends in front of it, in the last state that there was.

That is the same as for a call that waits for the worker to end, but the two are told apart by
`joinable` and `worker`: a joinable thread that has not finished is waited for, everything else
is the end.
-/

namespace Usbmuxd

namespace WifiSession

/-! ### Threads -/

/-- Where the worker is. In the loop over heartbeats it knows whether the last command was
`SleepyTime`. -/
inductive WorkerPc
  /-- No thread has been made. -/
  | absent
  /-- `while (!_stopRequested)`. -/
  | head
  /-- `_device.lock()`. -/
  | lock
  /-- `runAttempt`, before `snapshotDiscoveryInfo`. -/
  | snapshot
  /-- Before `_appliedDiscoveryVersion` is set. -/
  | storeApplied (version : ℕ)
  /-- Before `_reconnectRequested = false`. -/
  | clearReconnect
  /-- Before the connection is made. -/
  | connect
  /-- The connection has been made. -/
  | connected
  /-- The inner `while (!_stopRequested)`. -/
  | beatStop (sleepy : Bool)
  /-- The first test of the versions. -/
  | beatPending (sleepy : Bool)
  /-- The test of `_reconnectRequested`. -/
  | beatReconnect (sleepy : Bool)
  /-- Before a heartbeat is received. -/
  | receive (sleepy : Bool)
  /-- Behind the inner loop. -/
  | afterBeat (sleepy : Bool)
  /-- Before `_reconnectRequested.exchange(false)`. -/
  | exchange (sleepy : Bool)
  /-- The second test of the versions. -/
  | comparePending (sleepy : Bool)
  /-- The test of `allowHeartlessWifi`. -/
  | heartless
  /-- Before `dev->kill()`. -/
  | kill
  /-- The test of `retryWifiSession`. -/
  | retry
  /-- In `_wakeCv.wait_for`. -/
  | waiting
  /-- Out of the loop, before `_started = false`. -/
  | leaving
  /-- At its end. -/
  | finished
  deriving DecidableEq

/-- The worker is in the loop of `runloop`, and will test the requests again. -/
def WorkerPc.inLoop : WorkerPc → Bool
  | absent => false
  | leaving => false
  | finished => false
  | _ => true

/-- There is no worker, or none that does anything. Joining it would not have to wait. -/
def WorkerPc.ended : WorkerPc → Bool
  | absent => true
  | finished => true
  | _ => false

/-- The worker holds a `shared_ptr` to its device, which it makes anew in every turn of its
loop. -/
def WorkerPc.holdsDev : WorkerPc → Bool
  | absent => false
  | head => false
  | lock => false
  | leaving => false
  | finished => false
  | _ => true

/-- The worker is on its way to the next attempt to connect, with no test of a request in
between. -/
def WorkerPc.onWay : WorkerPc → Bool
  | head => true
  | lock => true
  | snapshot => true
  | storeApplied _ => true
  | clearReconnect => true
  | _ => false

/-- The worker tests `_reconnectRequested`, or begins an attempt. A request that is made before
is seen by it. -/
def WorkerPc.looks : WorkerPc → Bool
  | clearReconnect => true
  | beatReconnect _ => true
  | exchange _ => true
  | waiting => true
  | _ => false

/-- Where a call of `start` is. Between its tests of the flags the worker and other calls may
change them. -/
inductive StartPc
  /-- `_worker.joinable()`. -/
  | testJoinable
  /-- `_started.load()`. -/
  | testStarted
  /-- `_worker.join()`. -/
  | join
  /-- `_started.compare_exchange_strong`. -/
  | exchangeStarted
  /-- `dev->snapshotDiscoveryInfo()`. -/
  | snapshot
  /-- Before `_pendingDiscoveryVersion` is set. -/
  | storePending (version : ℕ)
  /-- Before `_appliedDiscoveryVersion` is set. -/
  | storeApplied
  /-- Before `_stopRequested = false`. -/
  | clearStop
  /-- Before `_reconnectRequested = false`. -/
  | clearReconnect
  /-- Before the thread is made. -/
  | spawn
  deriving DecidableEq

/-- The call has set `_started`. Others that come later find it set, and go away. -/
def StartPc.won : StartPc → Bool
  | testJoinable => false
  | testStarted => false
  | join => false
  | exchangeStarted => false
  | _ => true

/-- Where a call of `stop(true)` is. It waits for the worker if there is one to be waited
for. -/
inductive StopPc
  /-- Before `_stopRequested = true`. -/
  | setStop
  /-- Before `_reconnectRequested = false`. -/
  | clearReconnect
  /-- `_worker.joinable()` and `_worker.join()`. -/
  | join
  deriving DecidableEq

end WifiSession

open WifiSession

/-- A `WIFIConnectionSession`, with its flags, its versions and its worker. -/
structure WifiSession where
  /-- The thread of `_worker`. -/
  worker : WorkerPc
  /-- `_worker.joinable()`. -/
  joinable : Bool
  /-- `_stopRequested`. -/
  stopRequested : Bool
  /-- `_started`. -/
  started : Bool
  /-- `_reconnectRequested`. -/
  reconnectRequested : Bool
  /-- `_pendingDiscoveryVersion`. -/
  pendingDiscoveryVersion : ℕ
  /-- `_appliedDiscoveryVersion`. -/
  appliedDiscoveryVersion : ℕ
  deriving DecidableEq

/-- What the muxer has been told about wifi devices. It decides whether a device is given up. -/
structure WifiConfig where
  /-- `_allowHeartlessWifi`. -/
  allowHeartlessWifi : Bool
  /-- `_retryWifiSession`. -/
  retryWifiSession : Bool

namespace WifiSession

/-- A session as it is constructed, without a worker. -/
def new : WifiSession where
  worker := .absent
  joinable := false
  stopRequested := false
  started := false
  reconnectRequested := false
  pendingDiscoveryVersion := 0
  appliedDiscoveryVersion := 0

/-- A turn of the loop over heartbeats. Whether the device is going to sleep is known only from
the last command. -/
inductive Beat
  /-- `heartbeat_receive_with_timeout` fails. -/
  | lost
  /-- A heartbeat is received; whether the last command is `SleepyTime` now, and whether it
  can be answered. -/
  | received (sleepy answered : Bool)

/-- What a step of the worker meets with: whether the device is there, whether a call succeeds,
and what comes of a heartbeat. -/
structure Chance where
  /-- `_device.lock()` succeeds. -/
  alive : Bool
  /-- The step succeeds. -/
  ok : Bool
  /-- The heartbeat. -/
  beat : Beat

variable (s : WifiSession)

/-- The worker goes on, and leaves the flags as they are. -/
def workerAt (pc : WorkerPc) : WifiSession := { s with worker := pc }

/-- One step of `runloop` and `runAttempt`. The `version` is that of the device. -/
def run (cfg : WifiConfig) (version : ℕ) (chance : Chance) : Option WifiSession :=
  match s.worker with
  | .absent => none
  | .head => some (s.workerAt (if s.stopRequested then .leaving else .lock))
  | .lock => some (s.workerAt (if chance.alive then .snapshot else .leaving))
  | .snapshot => some (s.workerAt (.storeApplied version))
  | .storeApplied version =>
    some { s with worker := .clearReconnect, appliedDiscoveryVersion := version }
  | .clearReconnect => some { s with worker := .connect, reconnectRequested := false }
  | .connect => some (s.workerAt (if chance.ok then .connected else .heartless))
  -- `plist_new_dict` may fail, and the exception leaves the loop
  | .connected => some (s.workerAt (if chance.ok then .beatStop false else .leaving))
  | .beatStop sleepy =>
    some (s.workerAt (if s.stopRequested then .afterBeat sleepy else .beatPending sleepy))
  | .beatPending sleepy =>
    some (s.workerAt (if s.pendingDiscoveryVersion ≠ s.appliedDiscoveryVersion then
      .afterBeat sleepy else .beatReconnect sleepy))
  | .beatReconnect sleepy =>
    some (s.workerAt (if s.reconnectRequested then .afterBeat sleepy else .receive sleepy))
  | .receive sleepy =>
    match chance.beat with
    | .lost => some (s.workerAt (.afterBeat sleepy))
    | .received sleepy answered =>
      some (s.workerAt (if answered then .beatStop sleepy else .afterBeat sleepy))
  | .afterBeat sleepy =>
    some (s.workerAt (if s.stopRequested then .leaving else .exchange sleepy))
  | .exchange sleepy =>
    some { s with
      worker := if s.reconnectRequested then .head else .comparePending sleepy
      reconnectRequested := false }
  | .comparePending sleepy =>
    some (s.workerAt (if s.pendingDiscoveryVersion ≠ s.appliedDiscoveryVersion then .head
      else if sleepy then .waiting else .heartless))
  | .heartless => some (s.workerAt (if cfg.allowHeartlessWifi then .retry else .kill))
  | .kill => some (s.workerAt .leaving)
  | .retry => some (s.workerAt (if cfg.retryWifiSession then .waiting else .leaving))
  | .waiting => some (s.workerAt .head)
  | .leaving => some { s with worker := .finished, started := false }
  | .finished => none

/-- One step of `start`, which goes on from there or returns. At `join` it waits for the worker;
if another call has joined the thread, this one would throw, and at `spawn` a thread that is
still joinable would be assigned to. Both end the process, so there is no next state. -/
def start (version : ℕ) : StartPc → Option (WifiSession × Option StartPc)
  | .testJoinable => some (s, some (if s.joinable then .testStarted else .exchangeStarted))
  | .testStarted => some (s, if s.started then none else some .join)
  | .join =>
    if s.joinable = true ∧ s.worker = .finished then
      some ({ s with joinable := false }, some .exchangeStarted)
    else none
  | .exchangeStarted =>
    if s.started then some (s, none) else some ({ s with started := true }, some .snapshot)
  | .snapshot => some (s, some (.storePending version))
  | .storePending version =>
    some ({ s with pendingDiscoveryVersion := version }, some .storeApplied)
  | .storeApplied =>
    some ({ s with appliedDiscoveryVersion := s.pendingDiscoveryVersion }, some .clearStop)
  | .clearStop => some ({ s with stopRequested := false }, some .clearReconnect)
  | .clearReconnect => some ({ s with reconnectRequested := false }, some .spawn)
  | .spawn =>
    -- `std::terminate`, if the thread has not been joined
    if s.joinable = false then some ({ s with worker := .head, joinable := true }, none) else none

/-- One step of `stop(true)`. The test of `joinable` and the call of `join` are one step, which is
made when the worker has ended; a thread that is joined by somebody else in between would end
the process, as in `start`. -/
def stop : StopPc → Option (WifiSession × Option StopPc)
  | .setStop => some ({ s with stopRequested := true }, some .clearReconnect)
  | .clearReconnect => some ({ s with reconnectRequested := false }, some .join)
  | .join =>
    if s.joinable then
      if s.worker = .finished then some ({ s with joinable := false, started := false }, none)
      else none
    else some (s, none)

/-! ### What a step does -/

section Steps

variable {s s' : WifiSession} {cfg : WifiConfig} {version : ℕ} {chance : Chance} {pc pc' : StartPc}
  {next : Option StartPc}

theorem not_ended_of_inLoop {w : WorkerPc} (h : w.inLoop = true) : w.ended = false := by
  cases w <;> first | rfl | cases h

theorem inLoop_or_leaving_of_not_ended {w : WorkerPc} (h : w.ended = false) :
    w.inLoop = true ∨ w = .leaving := by
  cases w <;> first | exact .inl rfl | exact .inr rfl | cases h

/-- **The moves of the worker**: it goes on and leaves the session as it is, or it applies the
version that it has read, clears the request when it begins an attempt or finds it, or comes
to its end. -/
theorem run_cases (h : s.run cfg version chance = some s') :
    (∃ pc, s' = s.workerAt pc ∧ s.worker.ended = false ∧ pc.ended = false ∧
      (∀ v, pc = .storeApplied v → v = version) ∧ ∀ v, s.worker ≠ .storeApplied v) ∨
    (∃ v, s.worker = .storeApplied v ∧
      s' = { s with worker := .clearReconnect, appliedDiscoveryVersion := v }) ∨
    (s.worker = .clearReconnect ∧ s' = { s with worker := .connect, reconnectRequested := false }) ∨
    (∃ sleepy, s.worker = .exchange sleepy ∧ s' = { s with
      worker := if s.reconnectRequested then .head else .comparePending sleepy
      reconnectRequested := false }) ∨
    (s.worker = .leaving ∧ s' = { s with worker := .finished, started := false }) := by
  obtain ⟨worker, joinable, stopRequested, started, reconnectRequested, pending, applied⟩ := s
  cases worker with
  | absent => cases h
  | finished => cases h
  | snapshot =>
    cases h
    refine .inl ⟨_, rfl, rfl, rfl, ?_, by simp⟩
    rintro v hv
    cases hv
    rfl
  | storeApplied v => exact .inr (.inl ⟨v, rfl, (Option.some.inj h).symm⟩)
  | clearReconnect => exact .inr (.inr (.inl ⟨rfl, (Option.some.inj h).symm⟩))
  | exchange sleepy => exact .inr (.inr (.inr (.inl ⟨sleepy, rfl, (Option.some.inj h).symm⟩)))
  | leaving => exact .inr (.inr (.inr (.inr ⟨rfl, (Option.some.inj h).symm⟩)))
  | receive sleepy =>
    simp only [run] at h
    split at h
    · cases h
      exact .inl ⟨_, rfl, rfl, rfl, by simp, by simp⟩
    · cases h
      refine .inl ⟨_, rfl, rfl, ?_, ?_, by simp⟩
      all_goals split <;> simp [WorkerPc.ended]
  | _ =>
    cases h
    refine .inl ⟨_, rfl, rfl, ?_, ?_, by simp⟩
    all_goals
      repeat' split
      all_goals simp [WorkerPc.ended]

/-- **How `_started` is set and cleared**: the worker clears it in its last step, and no
other step of the worker comes to an end. -/
theorem run_started (h : s.run cfg version chance = some s') : s.worker.ended = false ∧
    (s'.started = s.started ∧ s'.worker.ended = false ∨
      s.worker = .leaving ∧ s'.started = false ∧ s'.worker = .finished) := by
  rcases run_cases h with ⟨pc, rfl, hbusy, hended, -⟩ | ⟨v, hw, rfl⟩ | ⟨hw, rfl⟩ |
    ⟨sleepy, hw, rfl⟩ | ⟨hw, rfl⟩
  · exact ⟨hbusy, .inl ⟨rfl, hended⟩⟩
  · exact ⟨by rw [hw]; rfl, .inl ⟨rfl, rfl⟩⟩
  · exact ⟨by rw [hw]; rfl, .inl ⟨rfl, rfl⟩⟩
  · refine ⟨by rw [hw]; rfl, .inl ⟨rfl, ?_⟩⟩
    dsimp only
    split <;> rfl
  · exact ⟨by rw [hw]; rfl, .inr ⟨hw, rfl, rfl⟩⟩

/-- **What the worker does with the versions**: it reads that of the device, and then
applies what it has read. -/
theorem run_versions (h : s.run cfg version chance = some s') :
    s'.pendingDiscoveryVersion = s.pendingDiscoveryVersion ∧
      (∀ v, s'.worker = .storeApplied v → v = version) ∧
      ((∃ v, s.worker = .storeApplied v ∧ s'.appliedDiscoveryVersion = v) ∨
        (∀ v, s.worker ≠ .storeApplied v) ∧
          s'.appliedDiscoveryVersion = s.appliedDiscoveryVersion) := by
  rcases run_cases h with ⟨pc, rfl, -, -, hread, hnot⟩ | ⟨v, hw, rfl⟩ | ⟨hw, rfl⟩ |
    ⟨sleepy, hw, rfl⟩ | ⟨hw, rfl⟩
  · exact ⟨rfl, hread, .inr ⟨hnot, rfl⟩⟩
  · exact ⟨rfl, by simp, .inl ⟨v, hw, rfl⟩⟩
  · exact ⟨rfl, by simp, .inr ⟨by simp [hw], rfl⟩⟩
  · refine ⟨rfl, ?_, .inr ⟨by simp [hw], rfl⟩⟩
    dsimp only
    split <;> simp
  · exact ⟨rfl, by simp, .inr ⟨by simp [hw], rfl⟩⟩

/-- **What the worker does with the requests**: it does not make any, and only takes back those
for a reconnect. -/
theorem run_requests (h : s.run cfg version chance = some s') :
    s'.stopRequested = s.stopRequested ∧
      (s'.reconnectRequested = true → s.reconnectRequested = true) := by
  rcases run_cases h with ⟨pc, rfl, -⟩ | ⟨v, -, rfl⟩ | ⟨-, rfl⟩ | ⟨sleepy, -, rfl⟩ | ⟨-, rfl⟩
  · exact ⟨rfl, id⟩
  · exact ⟨rfl, id⟩
  · exact ⟨rfl, by simp⟩
  · exact ⟨rfl, by simp⟩
  · exact ⟨rfl, id⟩

/-- **What `start` does with `_reconnectRequested`**: it clears it before it makes the
thread. -/
theorem start_reconnect (h : s.start version pc = some (s', next)) :
    (s.stopRequested = false → s'.stopRequested = false) ∧
      (s'.reconnectRequested = s.reconnectRequested ∨ pc = .clearReconnect) := by
  cases pc with
  | clearReconnect => exact ⟨by cases h; exact id, .inr rfl⟩
  | clearStop =>
    cases h
    exact ⟨fun _ => rfl, .inl rfl⟩
  | join =>
    obtain ⟨-, hs⟩ := Option.ite_none_right_eq_some.mp h
    cases hs
    exact ⟨id, .inl rfl⟩
  | exchangeStarted =>
    simp only [start] at h
    split at h
    · cases h
      exact ⟨id, .inl rfl⟩
    · cases h
      exact ⟨id, .inl rfl⟩
  | spawn =>
    obtain ⟨-, hs⟩ := Option.ite_none_right_eq_some.mp h
    cases hs
    exact ⟨id, .inl rfl⟩
  | _ =>
    cases h
    exact ⟨id, .inl rfl⟩

/-- **When `start` returns**: it has found `_started` set, or it has made the thread. -/
theorem start_returns (h : s.start version pc = some (s', none)) :
    (pc = .testStarted ∨ pc = .exchangeStarted) ∧ s.started = true ∧ s' = s ∨ pc = .spawn := by
  cases pc with
  | testStarted =>
    simp only [start, Option.some.injEq, Prod.mk.injEq] at h
    obtain ⟨rfl, hnext⟩ := h
    split at hnext
    · rename_i hstarted
      exact .inl ⟨.inl rfl, hstarted, rfl⟩
    · cases hnext
  | exchangeStarted =>
    simp only [start] at h
    split at h
    · rename_i hstarted
      cases h
      exact .inl ⟨.inr rfl, hstarted, rfl⟩
    · cases h
  | join =>
    obtain ⟨-, hs⟩ := Option.ite_none_right_eq_some.mp h
    cases hs
  | spawn => exact .inr rfl
  | _ => cases h

/-- **How `start` makes a worker**: in its last step, if it has set `_started`. -/
theorem start_worker (h : s.start version pc = some (s', next)) :
    s'.worker = s.worker ∧ pc ≠ .spawn ∨
      pc = .spawn ∧ s'.worker = .head ∧ s'.started = s.started ∧ next = none := by
  cases pc with
  | spawn =>
    obtain ⟨-, hs⟩ := Option.ite_none_right_eq_some.mp h
    cases hs
    exact .inr ⟨rfl, rfl, rfl, rfl⟩
  | join =>
    obtain ⟨-, hs⟩ := Option.ite_none_right_eq_some.mp h
    cases hs
    exact .inl ⟨rfl, by simp⟩
  | exchangeStarted =>
    simp only [start] at h
    split at h
    · cases h
      exact .inl ⟨rfl, by simp⟩
    · cases h
      exact .inl ⟨rfl, by simp⟩
  | _ =>
    cases h
    exact .inl ⟨rfl, by simp⟩

/-- **How `start` sets `_started`**: by the exchange, which only one call wins. This is the one
way in which it becomes true. -/
theorem start_started (h : s.start version pc = some (s', next)) :
    s'.started = s.started ∧ (∀ pc', next = some pc' → pc'.won = pc.won) ∨
      pc = .exchangeStarted ∧ s.started = false ∧ s'.started = true ∧ next = some .snapshot := by
  cases pc with
  | exchangeStarted =>
    simp only [start] at h
    split at h
    · cases h
      exact .inl ⟨rfl, by simp⟩
    · rename_i hstarted
      cases h
      exact .inr ⟨rfl, by simpa using hstarted, rfl, rfl⟩
  | join =>
    obtain ⟨-, hs⟩ := Option.ite_none_right_eq_some.mp h
    cases hs
    exact .inl ⟨rfl, by simp [StartPc.won]⟩
  | spawn =>
    obtain ⟨-, hs⟩ := Option.ite_none_right_eq_some.mp h
    cases hs
    exact .inl ⟨rfl, by simp⟩
  | testJoinable =>
    cases h
    refine .inl ⟨rfl, ?_⟩
    intro pc' hpc
    obtain rfl := Option.some.inj hpc
    split <;> rfl
  | testStarted =>
    cases h
    refine .inl ⟨rfl, ?_⟩
    intro pc' hpc
    split at hpc
    · cases hpc
    · cases hpc
      rfl
  | _ =>
    cases h
    refine .inl ⟨rfl, ?_⟩
    intro pc' hpc
    cases hpc
    rfl

/-! ### A thread and its handle -/

/-- **A thread that has not come to its end can be joined**, so that `stop` cannot miss it. -/
def Joins (s : WifiSession) : Prop := s.joinable = false → s.worker.ended = true

theorem joins_new : Joins new := fun _ => rfl

theorem Joins.run (h : Joins s) (hs : s.run cfg version chance = some s') : Joins s' := by
  have hsame : s'.joinable = s.joinable := by
    rcases run_cases hs with ⟨pc, rfl, -⟩ | ⟨v, -, rfl⟩ | ⟨-, rfl⟩ | ⟨sleepy, -, rfl⟩ | ⟨-, rfl⟩ <;>
      rfl
  intro hjoinable
  exact absurd ((run_started hs).1.symm.trans (h (hsame.symm.trans hjoinable))) (by simp)

theorem Joins.start (h : Joins s) (hs : s.start version pc = some (s', next)) : Joins s' := by
  cases pc with
  | join =>
    obtain ⟨⟨-, hfinished⟩, hs⟩ := Option.ite_none_right_eq_some.mp hs
    cases hs
    intro _
    exact (congrArg WorkerPc.ended hfinished).trans rfl
  | exchangeStarted =>
    simp only [WifiSession.start] at hs
    split at hs <;> cases hs <;> exact h
  | spawn =>
    obtain ⟨-, hs⟩ := Option.ite_none_right_eq_some.mp hs
    cases hs
    exact fun hfalse => absurd hfalse (by simp)
  | _ =>
    cases hs
    exact h

/-- **A call of `stop(true)` leaves the worker where it is**, and when it returns, there is
none that runs. -/
theorem Joins.stop (h : Joins s) {stopPc : StopPc} {stopNext : Option StopPc}
    (hs : s.stop stopPc = some (s', stopNext)) :
    Joins s' ∧ s'.worker = s.worker ∧ (stopNext = none → s.worker.ended = true) := by
  cases stopPc with
  | setStop =>
    cases hs
    exact ⟨h, rfl, by simp⟩
  | clearReconnect =>
    cases hs
    exact ⟨h, rfl, by simp⟩
  | join =>
    simp only [WifiSession.stop] at hs
    split at hs
    · obtain ⟨hfinished, hs⟩ := Option.ite_none_right_eq_some.mp hs
      cases hs
      have hended : s.worker.ended = true := (congrArg WorkerPc.ended hfinished).trans rfl
      exact ⟨fun _ => hended, rfl, fun _ => hended⟩
    · rename_i hjoinable
      cases hs
      exact ⟨h, rfl, fun _ => h (Bool.eq_false_iff.mpr hjoinable)⟩

end Steps

end WifiSession

end Usbmuxd
