import Mathlib.Logic.Function.Basic
import Usbmuxd.Library.Interleaving

/-!
# Stopping the discovery of wifi devices

A `WIFIDeviceManager` learns of wifi devices from avahi. Its thread sits in
`avahi_simple_poll_loop`, on a poll object that is made by `init_avahi`. To have everything
discovered again, other threads call `request_restart`: it sets `_shouldRestart` and lets
the poll loop quit, and the thread frees the poll object and makes another one. When the
program ends, `stopAction` sets `_isStopping` and lets the poll loop quit in the same way.

Once the quit of a poll object has been requested, every poll loop on it returns. So what
matters is whether the thread is in a poll loop on an object that `stopAction` has not seen
(`Usbmuxd.Discovery.Missed`).

## What goes wrong

The thread tests `_isStopping` when a poll loop has returned, and when `init_avahi` has
failed, but not when `init_avahi` has succeeded. If `stopAction` comes between the test and
the new poll object, it finds no poll object, or the old one, and the thread goes to sleep on
the new one. So no poll object must be made any more when `stopAction` has returned
(`Usbmuxd.Discovery.Timely`, and `Usbmuxd.Discovery.missed_of_late` for one that is). By the
tests of `_isStopping` that is the case if `stopAction` does not have its last look at
`_simple_poll` while the thread is about to make one
(`Usbmuxd.Discovery.reaches_timely_of_seen`).
-/

namespace Usbmuxd

open Interleaving

namespace Discovery

/-- Where the thread is in `loopEvent`. It sleeps for some time before `init_avahi`, and when
that has failed. -/
inductive LoopPc
  /-- Not in it. -/
  | outside
  /-- `if (!_simple_poll)`. -/
  | testPoll
  /-- Before `avahi_simple_poll_new`. -/
  | newPoll
  /-- In the rest of `init_avahi`. -/
  | newClient
  /-- In the handler, before `_isStopping` is tested. -/
  | caught
  /-- Before `_shouldRestart = false`. -/
  | clearRestart
  /-- Before `avahi_simple_poll_loop`. -/
  | callPoll
  /-- In `avahi_simple_poll_loop`, on this object. -/
  | polling (poll : ℕ)
  /-- `if (_isStopping)`; `err` tells whether the poll loop has returned an error. -/
  | testStopping (err : Bool)
  /-- `if (!_shouldRestart && err == 0)`. -/
  | testRestart (err : Bool)
  /-- Before `cleanup_avahi`. -/
  | cleanup
  deriving DecidableEq

/-- Where `stopAction` or `request_restart` is. The flag is set first, and then the pointer is
tested and used, without a lock. -/
inductive QuitPc
  /-- Not called yet. -/
  | idle
  /-- Behind the flag, before `_simple_poll` is tested. -/
  | test
  /-- Before `avahi_simple_poll_quit(_simple_poll)`. -/
  | quit
  /-- It has returned. -/
  | returned
  deriving DecidableEq

end Discovery

open Discovery

/-- A `WIFIDeviceManager`, as far as its poll object goes. Poll objects are numbered, since a
new one is made for every restart. -/
structure Discovery (T : Type) where
  /-- Where the thread is in `loopEvent`. -/
  loop : LoopPc
  /-- `_simple_poll`; the poll objects are numbered as they are made. -/
  poll : Option ℕ
  /-- How many poll objects have been made. -/
  made : ℕ
  /-- Whether the quit of a poll object has been requested since it was made. -/
  quit : ℕ → Bool
  /-- `_shouldRestart`. -/
  shouldRestart : Bool
  /-- `_isStopping`. -/
  isStopping : Bool
  /-- Where `stopAction` is. -/
  stop : QuitPc
  /-- Where the threads are in `request_restart`. -/
  caller : T → QuitPc

namespace Discovery

/-- A step of a thread. Whether something that is called there succeeds is given by the
label. -/
inductive Label (T : Type)
  /-- `loopEvent` is called. -/
  | call
  /-- `loopEvent` goes on. What it calls succeeds, or fails. -/
  | loop (ok : Bool)
  /-- `stopAction` is called, or goes on. -/
  | stop
  /-- `request_restart` is called, or goes on. -/
  | restart (t : T)

variable {T : Type} [DecidableEq T] (s : Discovery T)

/-- The manager as it is constructed, with its first poll object, and with a thread that has not
been started. -/
def init : Discovery T where
  loop := .outside
  poll := some 0
  made := 1
  quit := fun _ => false
  shouldRestart := false
  isStopping := false
  stop := .idle
  caller := fun _ => .idle

/-- The thread goes on to another place, and keeps the poll object that it has. -/
def loopAt (pc : LoopPc) : Discovery T := { s with loop := pc }

/-- `loopEvent`, one step of it. After a restart it makes everything anew, the poll object
included. -/
def loopStep (ok : Bool) : Option (Discovery T) :=
  match s.loop with
  | .outside => none
  | .testPoll => some (s.loopAt (if s.poll.isNone then .newPoll else .clearRestart))
  | .newPoll =>
    if ok then
      some { s with
        loop := .newClient
        poll := some s.made
        made := s.made + 1
        quit := Function.update s.quit s.made false }
    else some (s.loopAt .caught)
  | .newClient => some (s.loopAt (if ok then .clearRestart else .caught))
  | .caught => some (s.loopAt (if s.isStopping then .outside else .testPoll))
  | .clearRestart => some { s with loop := .callPoll, shouldRestart := false }
  | .callPoll => s.poll.map fun poll => s.loopAt (.polling poll)
  -- it blocks until the quit has been requested, or something fails
  | .polling poll => if s.quit poll ∨ ok = false then some (s.loopAt (.testStopping !ok)) else none
  | .testStopping err => some (s.loopAt (if s.isStopping then .outside else .testRestart err))
  | .testRestart err =>
    some (s.loopAt (if s.shouldRestart = false ∧ err = false then .outside else .cleanup))
  | .cleanup => some { s with loop := .testPoll, poll := none }

/-- What `stopAction` and `request_restart` have in common: if there is a poll object, its
quit is requested. The pointer is read once to test it and once to use it. When `cleanup_avahi`
has set it to null in between, the source passes the null pointer on to
`avahi_simple_poll_quit`. That is the end of the process, so there is no next state here. -/
def quitStep : QuitPc → Option (Discovery T × QuitPc)
  | .test => some (s, if s.poll.isNone then .returned else .quit)
  | .quit => s.poll.map fun poll => ({ s with quit := Function.update s.quit poll true }, .returned)
  | _ => none

/-- `stopAction`, one step of it. It does not wait for the loop to end. -/
def stopStep : Option (Discovery T) :=
  match s.stop with
  | .idle => some { s with isStopping := true, stop := .test }
  | pc => (s.quitStep pc).map fun (s, pc) => { s with stop := pc }

/-- `request_restart`, which may be called again and again, by any thread. -/
def restartStep (t : T) : Option (Discovery T) :=
  match s.caller t with
  | .idle => some { s with shouldRestart := true, caller := Function.update s.caller t .test }
  | .returned => some { s with shouldRestart := true, caller := Function.update s.caller t .test }
  | pc => (s.quitStep pc).map fun (s, pc) => { s with caller := Function.update s.caller t pc }

/-- One step. What it is depends on where the thread is, and on nothing but the state. -/
def step : Label T → Option (Discovery T)
  | .call => if s.loop = .outside then some (s.loopAt .testPoll) else none
  | .loop ok => s.loopStep ok
  | .stop => s.stopStep
  | .restart t => s.restartStep t

/-- **A stop that is missed**: `stopAction` has returned, and the thread blocks on a poll
object whose quit has not been requested. -/
def Missed (s : Discovery T) : Prop :=
  s.stop = .returned ∧ ∃ poll, s.loop = .polling poll ∧ s.quit poll = false

/-- **The poll objects are made in time**: not when `stopAction` has returned. -/
def Timely (s : Discovery T) : Label T → Prop
  | .loop ok => s.loop = .newPoll → ok = true → s.stop ≠ .returned
  | _ => True

instance (s : Discovery T) : (l : Label T) → Decidable (Timely s l)
  | .loop ok => inferInstanceAs (Decidable (s.loop = .newPoll → ok = true → s.stop ≠ .returned))
  | .call => isTrue trivial
  | .stop => isTrue trivial
  | .restart _ => isTrue trivial

end Discovery

/-- The discovery of wifi devices, with any number of threads that want a restart. -/
def discoveryMachine (T : Type) [DecidableEq T] : Machine (Discovery T) (Discovery.Label T) :=
  ⟨Discovery.step⟩

namespace Discovery

variable {T : Type} [DecidableEq T] {s s' : Discovery T} {l : Label T} {ok : Bool} {t : T}

/-! ### What a step does -/

omit [DecidableEq T] in
/-- **What a look at `_simple_poll` does**: it finds none, or finds one, or lets it quit. -/
theorem quitStep_cases {pc pc' : QuitPc} (h : s.quitStep pc = some (s', pc')) :
    (pc = .test ∧ s.poll = none ∧ s' = s ∧ pc' = .returned) ∨
    (pc = .test ∧ s' = s ∧ pc' = .quit) ∨
    ∃ poll, pc = .quit ∧ s.poll = some poll ∧
      s' = { s with quit := Function.update s.quit poll true } ∧ pc' = .returned := by
  cases pc with
  | idle => cases h
  | returned => cases h
  | test =>
    cases h
    cases hpoll : s.poll with
    | none => exact .inl ⟨rfl, rfl, rfl, rfl⟩
    | some poll => exact .inr (.inl ⟨rfl, rfl, rfl⟩)
  | quit =>
    obtain ⟨poll, hpoll, hs⟩ := Option.map_eq_some_iff.mp h
    cases hs
    exact .inr (.inr ⟨poll, rfl, hpoll, rfl, rfl⟩)

omit [DecidableEq T] in
/-- **The moves of `stopAction`**: the flag, the test of the pointer, and the call. -/
theorem stopStep_cases (h : s.stopStep = some s') :
    (s.stop = .idle ∧ s' = { s with isStopping := true, stop := .test }) ∨
    (s.stop = .test ∧ s.poll = none ∧ s' = { s with stop := .returned }) ∨
    (s.stop = .test ∧ s' = { s with stop := .quit }) ∨
    ∃ poll, s.stop = .quit ∧ s.poll = some poll ∧
      s' = { s with quit := Function.update s.quit poll true, stop := .returned } := by
  simp only [stopStep] at h
  split at h
  · rename_i hidle
    exact .inl ⟨hidle, (Option.some.inj h).symm⟩
  · obtain ⟨⟨next, pc⟩, hquit, rfl⟩ := Option.map_eq_some_iff.mp h
    rcases quitStep_cases hquit with ⟨hpc, hpoll, rfl, rfl⟩ | ⟨hpc, rfl, rfl⟩ |
      ⟨poll, hpc, hpoll, rfl, rfl⟩
    · exact .inr (.inl ⟨hpc, hpoll, rfl⟩)
    · exact .inr (.inr (.inl ⟨hpc, rfl⟩))
    · exact .inr (.inr (.inr ⟨poll, hpc, hpoll, rfl⟩))

/-- **The moves of the other threads**: they touch neither the loop nor its poll object, and
take no request to quit back. -/
theorem restartStep_frame (h : s.restartStep t = some s') : ∃ shouldRestart quit caller,
    s' = { s with shouldRestart := shouldRestart, quit := quit, caller := caller } ∧
      ∀ poll, s.quit poll = true → quit poll = true := by
  simp only [restartStep] at h
  split at h
  · cases h
    exact ⟨_, _, _, rfl, fun _ => id⟩
  · cases h
    exact ⟨_, _, _, rfl, fun _ => id⟩
  · obtain ⟨⟨next, pc⟩, hquit, rfl⟩ := Option.map_eq_some_iff.mp h
    rcases quitStep_cases hquit with ⟨-, -, rfl, -⟩ | ⟨-, rfl, -⟩ | ⟨poll, -, -, rfl, -⟩
    · exact ⟨_, _, _, rfl, fun _ => id⟩
    · exact ⟨_, _, _, rfl, fun _ => id⟩
    · refine ⟨_, _, _, rfl, fun other hset => ?_⟩
      rcases eq_or_ne other poll with rfl | hne
      · exact Function.update_self ..
      · exact (Function.update_of_ne hne _ _).trans hset

/-! ### No stop is missed -/

/-- **The invariant**: the thread waits on the poll object that the pointer leads to, and when
`stopAction` has returned this object has been asked to quit. -/
structure Inv (s : Discovery T) : Prop where
  /-- The thread is in a poll loop on the poll object. -/
  polling : ∀ poll, s.loop = .polling poll → s.poll = some poll
  /-- When `stopAction` has returned, the poll object has been asked to quit. -/
  stopped : s.stop = .returned → ∀ poll, s.poll = some poll → s.quit poll = true

omit [DecidableEq T] in
theorem inv_init : Inv (init : Discovery T) where
  polling := fun _ h => by cases h
  stopped := fun h => by cases h

omit [DecidableEq T] in
theorem Inv.not_missed (h : Inv s) : ¬Missed s := by
  rintro ⟨hstop, poll, hloop, hquit⟩
  rw [h.stopped hstop poll (h.polling poll hloop)] at hquit
  cases hquit

omit [DecidableEq T] in
/-- The thread goes on, and keeps its poll object. -/
theorem Inv.loopAt (h : Inv s) {pc : LoopPc}
    (hpc : ∀ poll, pc = .polling poll → s.poll = some poll) : Inv (s.loopAt pc) :=
  ⟨hpc, h.stopped⟩

omit [DecidableEq T] in
/-- **A step of `loopEvent`**, if no poll object is made too late. -/
theorem Inv.loopStep (h : Inv s) (hok : Timely s (.loop ok)) (hs : s.loopStep ok = some s') :
    Inv s' := by
  simp only [Discovery.loopStep] at hs
  split at hs
  · cases hs
  · cases hs
    exact h.loopAt fun poll hpc => by split at hpc <;> cases hpc
  · -- a poll object is made
    rename_i hloop
    split at hs
    · rename_i hsuccess
      cases hs
      exact ⟨by simp, fun hstop => absurd hstop (hok hloop hsuccess)⟩
    · cases hs
      exact h.loopAt fun poll hpc => by cases hpc
  · cases hs
    exact h.loopAt fun poll hpc => by split at hpc <;> cases hpc
  · cases hs
    exact h.loopAt fun poll hpc => by split at hpc <;> cases hpc
  · cases hs
    exact ⟨by simp, h.stopped⟩
  · obtain ⟨poll, hpoll, rfl⟩ := Option.map_eq_some_iff.mp hs
    refine h.loopAt fun other hpc => ?_
    cases hpc
    exact hpoll
  · obtain ⟨-, hs⟩ := Option.ite_none_right_eq_some.mp hs
    cases hs
    exact h.loopAt fun poll hpc => by cases hpc
  · cases hs
    exact h.loopAt fun poll hpc => by split at hpc <;> cases hpc
  · cases hs
    exact h.loopAt fun poll hpc => by split at hpc <;> cases hpc
  · cases hs
    exact ⟨by simp, fun _ _ => by simp⟩

/-- **Every step keeps the invariant**, if the poll objects are made in time. -/
theorem Inv.step (h : Inv s) (hok : Timely s l) (hs : s.step l = some s') : Inv s' := by
  cases l with
  | call =>
    obtain ⟨-, hs⟩ := Option.ite_none_right_eq_some.mp hs
    cases hs
    exact h.loopAt fun poll hpc => by cases hpc
  | loop ok => exact h.loopStep hok hs
  | stop =>
    rcases stopStep_cases hs with ⟨-, rfl⟩ | ⟨-, hpoll, rfl⟩ | ⟨-, rfl⟩ | ⟨poll, -, hpoll, rfl⟩
    · exact ⟨h.polling, by simp⟩
    · exact ⟨h.polling, fun _ => by simp [hpoll]⟩
    · exact ⟨h.polling, by simp⟩
    · refine ⟨h.polling, fun _ other hother => ?_⟩
      obtain rfl : other = poll := Option.some.inj (hother.symm.trans hpoll)
      exact Function.update_self ..
  | restart t =>
    obtain ⟨shouldRestart, quit, caller, rfl, hquit⟩ := restartStep_frame hs
    exact ⟨h.polling, fun hstop poll hpoll => hquit poll (h.stopped hstop poll hpoll)⟩

/-- **A poll object that is made too late** is one that the thread may block on. -/
theorem missed_of_late (hloop : s.loop = .newPoll) (hstop : s.stop = .returned) :
    ∃ s', (discoveryMachine T).Reachable s s' ∧ Missed s' := by
  have hmake : (discoveryMachine T).step s (.loop true) = some { s with
      loop := .newClient
      poll := some s.made
      made := s.made + 1
      quit := Function.update s.quit s.made false } := by
    simp only [discoveryMachine, Discovery.step, Discovery.loopStep, hloop, if_true]
  have hstart : (discoveryMachine T).Reachable s s := .refl
  have hmade := hstart.tail (.loop true) trivial hmake
  -- nothing else has to happen before the thread is in the poll loop
  have hclear := hmade.tail (.loop true) trivial rfl
  have hcall := hclear.tail (.loop true) trivial rfl
  have hpolling := hcall.tail (.loop true) trivial rfl
  exact ⟨_, hpolling, hstop, s.made, rfl, Function.update_self ..⟩

/-! ### When the poll objects are made in time -/

section Seen

/-- The thread is about to make a poll object, and nothing will keep it from doing so. -/
def rebuilding (s : Discovery T) : Bool :=
  match s.loop with
  | .testPoll => s.poll.isNone
  | .newPoll => true
  | .cleanup => true
  | _ => false

/-- `stopAction` is about to return, and will not look for another poll object. -/
def lastLook (s : Discovery T) : Bool :=
  match s.stop with
  | .test => s.poll.isNone
  | .quit => true
  | _ => false

/-- **`stopAction` sees what it has to stop**: at its last look at `_simple_poll` the thread
is not about to make a poll object, and it does not make up its mind to do so later, on a
test of `_isStopping` that is older. -/
def Seen (s : Discovery T) : Label T → Prop
  | .call => s.poll = none → s.stop ≠ .returned
  | .loop _ => ∀ err, s.loop = .testRestart err → (s.shouldRestart = true ∨ err = true) →
      s.stop ≠ .returned
  | .stop => s.lastLook = true → s.rebuilding = false
  | .restart _ => True

/-- When `stopAction` has returned, no poll object will be made. So the thread cannot begin to
wait where nobody will wake it. -/
structure Settled (s : Discovery T) : Prop where
  /-- `stopAction` begins with the flag. -/
  stopping : s.stop ≠ .idle → s.isStopping = true
  /-- Behind it, nothing is built. -/
  rebuilding : s.stop = .returned → s.rebuilding = false

omit [DecidableEq T] in
theorem Settled.timely (h : Settled s) (l : Label T) : Timely s l := by
  cases l with
  | loop ok =>
    intro hloop _ hstop
    have hnot := h.rebuilding hstop
    simp [Discovery.rebuilding, hloop] at hnot
  | _ => trivial

omit [DecidableEq T] in
/-- The thread goes on to where it makes no poll object. -/
theorem Settled.loopAt (h : Settled s) {pc : LoopPc}
    (hpc : s.stop = .returned → (s.loopAt pc).rebuilding = false) : Settled (s.loopAt pc) :=
  ⟨h.stopping, hpc⟩

omit [DecidableEq T] in
theorem Settled.loopStep (h : Settled s) (hok : Seen s (.loop ok))
    (hs : s.loopStep ok = some s') : Settled s' := by
  have hstopping : s.stop = .returned → s.isStopping = true := fun hstop =>
    h.stopping (by rw [hstop]; simp)
  have hnot : s.stop = .returned → s.rebuilding = false := h.rebuilding
  simp only [Discovery.loopStep] at hs
  split at hs
  · cases hs
  · -- the test of `_simple_poll`
    rename_i hloop
    cases hs
    refine h.loopAt fun hstop => ?_
    have hpoll : s.poll.isNone = false := by simpa [Discovery.rebuilding, hloop] using hnot hstop
    simp [hpoll, Discovery.rebuilding, Discovery.loopAt]
  · rename_i hloop
    split at hs
    · cases hs
      exact ⟨h.stopping, fun _ => rfl⟩
    · cases hs
      exact h.loopAt fun _ => rfl
  · cases hs
    refine h.loopAt fun _ => ?_
    split <;> rfl
  · -- the handler tests `_isStopping`
    cases hs
    refine h.loopAt fun hstop => ?_
    rw [hstopping hstop]
    rfl
  · cases hs
    exact ⟨h.stopping, fun _ => rfl⟩
  · obtain ⟨poll, -, rfl⟩ := Option.map_eq_some_iff.mp hs
    exact h.loopAt fun _ => rfl
  · obtain ⟨-, hs⟩ := Option.ite_none_right_eq_some.mp hs
    cases hs
    exact h.loopAt fun _ => rfl
  · cases hs
    refine h.loopAt fun hstop => ?_
    rw [hstopping hstop]
    rfl
  · -- the thread makes up its mind
    rename_i err hloop
    cases hs
    refine h.loopAt fun hstop => ?_
    have hend : s.shouldRestart = false ∧ err = false := by
      by_contra hcon
      refine hok err hloop ?_ hstop
      cases hrestart : s.shouldRestart <;> cases herr : err <;> simp [hrestart, herr] at hcon ⊢
    rw [if_pos hend]
    rfl
  · rename_i hloop
    cases hs
    refine ⟨h.stopping, fun hstop => ?_⟩
    have hfalse := hnot hstop
    simp [Discovery.rebuilding, hloop] at hfalse

theorem Settled.step (h : Settled s) (hok : Seen s l) (hs : s.step l = some s') :
    Settled s' := by
  cases l with
  | call =>
    obtain ⟨-, hs⟩ := Option.ite_none_right_eq_some.mp hs
    cases hs
    refine h.loopAt fun hstop => ?_
    cases hpoll : s.poll with
    | none => exact absurd hstop (hok hpoll)
    | some poll => simp [Discovery.rebuilding, Discovery.loopAt, hpoll]
  | loop ok => exact h.loopStep hok hs
  | stop =>
    rcases stopStep_cases hs with ⟨-, rfl⟩ | ⟨hstop, hpoll, rfl⟩ | ⟨hstop, rfl⟩ |
      ⟨poll, hstop, -, rfl⟩
    · exact ⟨fun _ => rfl, by simp⟩
    · exact ⟨fun _ => h.stopping (by rw [hstop]; simp),
        fun _ => hok (by simp [lastLook, hstop, hpoll])⟩
    · exact ⟨fun _ => h.stopping (by rw [hstop]; simp), by simp⟩
    · exact ⟨fun _ => h.stopping (by rw [hstop]; simp), fun _ => hok (by simp [lastLook, hstop])⟩
  | restart t =>
    obtain ⟨shouldRestart, quit, caller, rfl, -⟩ := restartStep_frame hs
    exact ⟨h.stopping, h.rebuilding⟩

/-- **If `stopAction` sees what it has to stop, the poll objects are made in time.** -/
theorem reaches_timely_of_seen (h : (discoveryMachine T).Reaches Seen init s) :
    (discoveryMachine T).Reaches Timely init s := by
  have hrun := h.invariant (I := fun s => Settled s ∧ (discoveryMachine T).Reaches Timely init s)
    ⟨⟨fun hstop => absurd rfl hstop, fun hstop => by cases hstop⟩, .refl⟩ ?_
  · exact hrun.2
  · rintro s l s' ⟨hsettled, hreaches⟩ hok hs
    exact ⟨hsettled.step hok hs, hreaches.tail l (hsettled.timely l) hs⟩

end Seen

/-! ### Runs -/

/-- The thread makes `n` steps in which nothing fails, and nobody else moves. -/
def loops (n : ℕ) : List (Label Unit) := List.replicate n (.loop true)

/-- A restart is asked for while the thread is in its poll loop, which returns. -/
def restarted : List (Label Unit) :=
  .call :: loops 3 ++ [.restart (), .restart (), .restart ()] ++ loops 3

end Discovery

end Usbmuxd
