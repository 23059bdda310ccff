import Mathlib.Logic.Function.Basic
import Usbmuxd.Library.Interleaving

/-!
# The loop of the mDNS discovery

The thread of a `WIFIDeviceManager` waits in `poll` for its browsers and for the pipe
`_wakePipe`, which `init_mdns` makes and `cleanup_mdns` closes. To have everything discovered
again, `request_restart` sets `_shouldRestart` and writes a byte into the pipe; the callbacks
do that in the thread itself when there is an error, and other threads do it when a device is
lost or newly paired. `stopAction` does the same with `_isStopping`.

## What goes wrong

When `poll` reports the pipe, the loop reads from it until `read` returns nothing more. But
the pipe is not non-blocking, and its other end stays open as long as the thread is in the
loop. So `read` never returns nothing: once it has all the bytes, it waits for the next one
(`Usbmuxd.MdnsLoop.Trapped`). The flags are only tested behind that. So a restart or a stop
that is asked for while the thread waits in `poll` takes place never
(`Usbmuxd.MdnsLoop.trapped_of_write`). What works is a request of a callback, since the thread
is not in `poll` then and closes the pipe before it gets there
(`Usbmuxd.MdnsLoop.calm_of_inTime`).

`read` could also be interrupted by a signal, but the handler of `main` is set by `signal`,
which lets `read` go on. It does not do so with `poll`, which returns an error then.
-/

namespace Usbmuxd

open Interleaving

namespace MdnsLoop

/-- Where the thread is in `loopEvent`. There is one place for every test of a flag, since the
flags may be set in between. -/
inductive LoopPc
  /-- Not in it. -/
  | outside
  /-- `if (!_client || …)`. -/
  | testInit
  /-- Before `init_mdns`, or in it. -/
  | init
  /-- In `init_mdns`, before `_shouldRestart = false`. -/
  | clearRestart
  /-- In the handler, before `_isStopping` is tested. -/
  | caught
  /-- In `poll`. -/
  | poll
  /-- Before `request_restart`, because `poll` has failed. -/
  | pollFailed
  /-- It handles what `poll` has reported; `wake` tells whether the pipe is still to come. -/
  | handle (wake : Bool)
  /-- In `while (read(…) > 0) {}`. -/
  | drain
  /-- `if (_isStopping)`. -/
  | testStopping
  /-- `if (restartRequested || _shouldRestart)`. -/
  | testRestart
  /-- Before `cleanup_mdns`. -/
  | cleanup
  deriving DecidableEq

/-- Where `stopAction` or `request_restart` is. The flag comes first, and then the pipe. -/
inductive WakePc
  /-- Not called yet. -/
  | idle
  /-- Behind the flag, before `_wakePipe[1]` is tested. -/
  | test
  /-- Before `write`. -/
  | write
  /-- It has returned. -/
  | returned
  deriving DecidableEq

end MdnsLoop

open MdnsLoop

/-- A `WIFIDeviceManager` with mDNS, as far as its loop goes: the flags, the bytes in the pipe,
and the threads. -/
structure MdnsLoop (T : Type) where
  /-- Where the thread is in `loopEvent`. -/
  loop : LoopPc
  /-- `_shouldRestart`. -/
  shouldRestart : Bool
  /-- `_isStopping`. -/
  isStopping : Bool
  /-- The number of bytes in `_wakePipe`, if there is a pipe. -/
  wakePipe : Option ℕ
  /-- How often browsers have been made. -/
  browsers : ℕ
  /-- Where `stopAction` is. -/
  stop : WakePc
  /-- Where the calls of `request_restart` by other threads are. -/
  restart : T → WakePc

namespace MdnsLoop

/-- A step. -/
inductive Label (T : Type)
  /-- `loopEvent` is called. -/
  | call
  /-- A step of the thread. `ok` is false if `init_mdns` or `poll` fails; `more` tells whether
  something besides the pipe is reported, and whether a callback asks for a restart. -/
  | loop (ok more : Bool)
  /-- A step of `stopAction`. -/
  | stop
  /-- A step of a call of `request_restart`. -/
  | restart (t : T)

section Steps

variable {T : Type} (s : MdnsLoop T)

/-- The thread goes on to `pc`, and leaves the pipe and the flags alone. -/
def loopAt (pc : LoopPc) : MdnsLoop T := { s with loop := pc }

/-- `write(_wakePipe[1], &wake, 1)`. If there is no pipe, nothing happens. -/
def writePipe : MdnsLoop T := { s with wakePipe := s.wakePipe.map (· + 1) }

/-- `request_restart`, called by the thread itself: it writes into the pipe from which it
reads. -/
def requestRestart : MdnsLoop T := { s.writePipe with shouldRestart := true }

/-- A step of the thread. Reading from the pipe blocks when there is nothing in it. -/
def loopStep (ok more : Bool) : Option (MdnsLoop T) :=
  match s.loop with
  | .outside => none
  | .testInit => some (s.loopAt (if s.wakePipe.isNone then .init else .poll))
  | .init =>
    some (if ok then
        { s with wakePipe := some 0, browsers := s.browsers + 1, loop := .clearRestart }
      else s.loopAt .caught)
  | .clearRestart => some ({ s with shouldRestart := false }.loopAt .poll)
  | .caught => some (s.loopAt (if s.isStopping then .outside else .testInit))
  | .poll =>
    if ok = false then some (s.loopAt .pollFailed)
    else
      -- `poll` waits until something is ready, and reports everything that is
      match s.wakePipe.getD 0 with
      | 0 => if more then some (s.loopAt (.handle false)) else none
      | _ + 1 => some (s.loopAt (.handle true))
  | .pollFailed => some (s.requestRestart.loopAt .cleanup)
  | .handle wake =>
    some (if more then s.requestRestart else s.loopAt (if wake then .drain else .testStopping))
  | .drain =>
    -- `read` takes up to 32 bytes, and waits if there are none
    match s.wakePipe.getD 0 with
    | 0 => none
    | n + 1 => some { s with wakePipe := some (n + 1 - 32) }
  | .testStopping => some (s.loopAt (if s.isStopping then .outside else .testRestart))
  | .testRestart => some (s.loopAt (if s.shouldRestart then .cleanup else .testInit))
  | .cleanup => some ({ s with wakePipe := none }.loopAt .testInit)

/-- A step of `stopAction`, which sets the flag, looks for the pipe, and writes. -/
def stopStep : Option (MdnsLoop T) :=
  match s.stop with
  | .idle => some { s with isStopping := true, stop := .test }
  | .test => some { s with stop := if s.wakePipe.isSome then .write else .returned }
  | .write => some { s.writePipe with stop := .returned }
  | .returned => none

variable [DecidableEq T]

/-- A call of `request_restart` goes on to `pc`, for the thread that has made it. -/
def restartAt (t : T) (pc : WakePc) : MdnsLoop T :=
  { s with restart := Function.update s.restart t pc }

/-- A step of `request_restart`. The caller has tested `_isStopping` some time before. -/
def restartStep (t : T) : Option (MdnsLoop T) :=
  match s.restart t with
  | .idle => some ({ s with shouldRestart := true }.restartAt t .test)
  | .test => some (s.restartAt t (if s.wakePipe.isSome then .write else .returned))
  | .write => some (s.writePipe.restartAt t .returned)
  | .returned => none

end Steps

variable {T : Type} [DecidableEq T]

/-- One step, of the thread in the loop or of one that wants to wake it. -/
def step (s : MdnsLoop T) : Label T → Option (MdnsLoop T)
  | .call => if s.loop = .outside then some (s.loopAt .testInit) else none
  | .loop ok more => s.loopStep ok more
  | .stop => s.stopStep
  | .restart t => s.restartStep t

/-- The manager has been made, and its loop has not been started. There is no pipe yet. -/
def init : MdnsLoop T where
  loop := .outside
  shouldRestart := false
  isStopping := false
  wakePipe := some 0
  browsers := 1
  stop := .idle
  restart _ := .idle

/-- **The thread is trapped**: it empties the pipe, or it will have to. -/
def Trapped (s : MdnsLoop T) : Prop :=
  s.loop = .drain ∨ s.loop = .handle true ∨ s.loop = .poll ∧ ∃ n, s.wakePipe = some (n + 1)

/-- The next step is a `write` of another thread, which is what can go wrong. -/
def Writes (s : MdnsLoop T) : Label T → Prop
  | .stop => s.stop = .write
  | .restart t => s.restart t = .write
  | _ => False

/-- The next step is not that `poll` fails. If it does, the thread writes into its own pipe, and
begins anew. -/
def PollOk (s : MdnsLoop T) : Label T → Prop
  | .loop false _ => s.loop ≠ .poll
  | _ => True

/-- Where the thread will test one of these flags if it is set, or is about to close the
pipe. -/
def LoopPc.notices (shouldRestart isStopping : Bool) : LoopPc → Bool
  | handle false | testStopping => shouldRestart || isStopping
  | testRestart => shouldRestart
  | cleanup => true
  | _ => false

/-- **A byte in the pipe has been noticed**: the thread will test the flag that has been set
before, or it is about to close the pipe. -/
def Noticed (s : MdnsLoop T) : Prop := s.loop.notices s.shouldRestart s.isStopping = true

/-- **A step in time**: other threads write into the pipe when that is noticed, and `loopEvent`
is not called again when the manager is stopping. -/
def InTime (s : MdnsLoop T) : Label T → Prop
  | .call => s.isStopping = false
  | .stop => s.stop = .write → s.Noticed
  | .restart t => s.restart t = .write → s.Noticed
  | .loop _ _ => True

instance (s : MdnsLoop T) : Decidable s.Noticed :=
  inferInstanceAs (Decidable (s.loop.notices s.shouldRestart s.isStopping = true))

instance (s : MdnsLoop T) : (l : Label T) → Decidable (s.PollOk l)
  | .loop false _ => inferInstanceAs (Decidable (s.loop ≠ .poll))
  | .loop true _ | .call | .stop | .restart _ => isTrue trivial

instance (s : MdnsLoop T) : (l : Label T) → Decidable (s.InTime l)
  | .call => inferInstanceAs (Decidable (s.isStopping = false))
  | .stop => inferInstanceAs (Decidable (s.stop = .write → s.Noticed))
  | .restart t => inferInstanceAs (Decidable (s.restart t = .write → s.Noticed))
  | .loop _ _ => isTrue trivial

end MdnsLoop

/-- The thread of a manager, and the threads that wake it, as a machine. -/
def mdnsLoopMachine (T : Type) [DecidableEq T] : Machine (MdnsLoop T) (MdnsLoop.Label T) :=
  ⟨MdnsLoop.step⟩

namespace MdnsLoop

variable {T : Type} [DecidableEq T] {s s' s₁ : MdnsLoop T} {l : Label T} {t : T}

/-! ### What the other threads do -/

/-- **A step of another thread**: it sets a flag, or it writes a byte. -/
structure Waking (s s' : MdnsLoop T) : Prop where
  /-- The thread stays where it is. -/
  loop : s'.loop = s.loop
  /-- It has made no browsers. -/
  browsers : s'.browsers = s.browsers
  /-- No flag is reset. -/
  shouldRestart : s.shouldRestart = true → s'.shouldRestart = true
  /-- No flag is reset. -/
  isStopping : s.isStopping = true → s'.isStopping = true
  /-- There is at most one more byte. -/
  wakePipe : s'.wakePipe = s.wakePipe ∨ s'.wakePipe = s.wakePipe.map (· + 1)

omit [DecidableEq T] in
theorem stopStep_cases (hs : s.stopStep = some s') :
    Waking s s' ∧ (s.stop = .write ∧ s'.wakePipe = s.wakePipe.map (· + 1) ∨
      s.stop ≠ .write ∧ s'.wakePipe = s.wakePipe) := by
  rw [stopStep] at hs
  cases hstop : s.stop with
  | idle =>
    rw [hstop] at hs
    obtain rfl := Option.some.inj hs
    exact ⟨⟨rfl, rfl, id, fun _ => rfl, .inl rfl⟩, .inr ⟨by simp, rfl⟩⟩
  | test =>
    rw [hstop] at hs
    obtain rfl := Option.some.inj hs
    exact ⟨⟨rfl, rfl, id, id, .inl rfl⟩, .inr ⟨by simp, rfl⟩⟩
  | write =>
    rw [hstop] at hs
    obtain rfl := Option.some.inj hs
    exact ⟨⟨rfl, rfl, id, id, .inr rfl⟩, .inl ⟨rfl, rfl⟩⟩
  | returned =>
    rw [hstop] at hs
    cases hs

theorem restartStep_cases (hs : s.restartStep t = some s') :
    Waking s s' ∧ (s.restart t = .write ∧ s'.wakePipe = s.wakePipe.map (· + 1) ∨
      s.restart t ≠ .write ∧ s'.wakePipe = s.wakePipe) := by
  rw [restartStep] at hs
  cases hrestart : s.restart t with
  | idle =>
    rw [hrestart] at hs
    obtain rfl := Option.some.inj hs
    exact ⟨⟨rfl, rfl, fun _ => rfl, id, .inl rfl⟩, .inr ⟨by simp, rfl⟩⟩
  | test =>
    rw [hrestart] at hs
    obtain rfl := Option.some.inj hs
    exact ⟨⟨rfl, rfl, id, id, .inl rfl⟩, .inr ⟨by simp, rfl⟩⟩
  | write =>
    rw [hrestart] at hs
    obtain rfl := Option.some.inj hs
    exact ⟨⟨rfl, rfl, id, id, .inr rfl⟩, .inl ⟨rfl, rfl⟩⟩
  | returned =>
    rw [hrestart] at hs
    cases hs

/-- A write puts a byte into the pipe, and changes nothing else that the loop looks at. -/
theorem wakePipe_of_writes (hw : s.Writes l) (hs : s.step l = some s') :
    Waking s s' ∧ s'.wakePipe = s.wakePipe.map (· + 1) := by
  cases l with
  | call | loop _ _ => exact hw.elim
  | stop =>
    obtain ⟨hwaking, ⟨-, hpipe⟩ | ⟨hne, -⟩⟩ := stopStep_cases hs
    · exact ⟨hwaking, hpipe⟩
    · exact absurd hw hne
  | restart t =>
    obtain ⟨hwaking, ⟨-, hpipe⟩ | ⟨hne, -⟩⟩ := restartStep_cases hs
    · exact ⟨hwaking, hpipe⟩
    · exact absurd hw hne

/-! ### What the thread does -/

theorem some_of_getD {o : Option ℕ} {n : ℕ} (h : o.getD 0 = n + 1) : o = some (n + 1) := by
  cases o with
  | none => cases h
  | some m => exact congrArg some h

/-- **What a step of the thread can be**, with what has to be true for it. -/
inductive Loops (s : MdnsLoop T) (ok : Bool) : MdnsLoop T → Prop
  /-- There are no browsers. -/
  | noPipe (hloop : s.loop = .testInit) (hpipe : s.wakePipe = none) : Loops s ok (s.loopAt .init)
  /-- There are browsers. -/
  | again (hloop : s.loop = .testInit) (hpipe : s.wakePipe.isSome = true) :
      Loops s ok (s.loopAt .poll)
  /-- Browsers and a pipe are made. -/
  | made (hloop : s.loop = .init) : Loops s ok
      { s with wakePipe := some 0, browsers := s.browsers + 1, loop := .clearRestart }
  /-- They cannot be made. -/
  | notMade (hloop : s.loop = .init) : Loops s ok (s.loopAt .caught)
  /-- The flag is reset. -/
  | cleared (hloop : s.loop = .clearRestart) :
      Loops s ok ({ s with shouldRestart := false }.loopAt .poll)
  /-- The manager is stopping, and so browsers are not missed. -/
  | givenUp (hloop : s.loop = .caught) (hstop : s.isStopping = true) :
      Loops s ok (s.loopAt .outside)
  /-- Another attempt. -/
  | retried (hloop : s.loop = .caught) : Loops s ok (s.loopAt .testInit)
  /-- `poll` fails. -/
  | pollFailed (hloop : s.loop = .poll) (hok : ok = false) : Loops s ok (s.loopAt .pollFailed)
  /-- `poll` does not report the pipe. -/
  | reported (hloop : s.loop = .poll) (hpipe : ∀ n, s.wakePipe ≠ some (n + 1)) :
      Loops s ok (s.loopAt (.handle false))
  /-- `poll` reports the pipe. -/
  | woken (hloop : s.loop = .poll) (n : ℕ) (hpipe : s.wakePipe = some (n + 1)) :
      Loops s ok (s.loopAt (.handle true))
  /-- A restart is asked for because `poll` has failed. -/
  | askedFailed (hloop : s.loop = .pollFailed) : Loops s ok (s.requestRestart.loopAt .cleanup)
  /-- A callback asks for a restart. -/
  | asked (wake : Bool) (hloop : s.loop = .handle wake) : Loops s ok s.requestRestart
  /-- The pipe is to be emptied. -/
  | toDrain (hloop : s.loop = .handle true) : Loops s ok (s.loopAt .drain)
  /-- Everything is handled. -/
  | handled (hloop : s.loop = .handle false) : Loops s ok (s.loopAt .testStopping)
  /-- There is something in the pipe. -/
  | drained (hloop : s.loop = .drain) (n : ℕ) (hpipe : s.wakePipe = some (n + 1)) :
      Loops s ok { s with wakePipe := some (n + 1 - 32) }
  /-- The manager is stopping. -/
  | stopped (hloop : s.loop = .testStopping) (hstop : s.isStopping = true) :
      Loops s ok (s.loopAt .outside)
  /-- It is not. -/
  | notStopped (hloop : s.loop = .testStopping) (hstop : s.isStopping = false) :
      Loops s ok (s.loopAt .testRestart)
  /-- Everything is to be discovered again. -/
  | restarting (hloop : s.loop = .testRestart) : Loops s ok (s.loopAt .cleanup)
  /-- It is not. -/
  | notRestarting (hloop : s.loop = .testRestart) (hrestart : s.shouldRestart = false) :
      Loops s ok (s.loopAt .testInit)
  /-- The pipe is closed. -/
  | closed (hloop : s.loop = .cleanup) : Loops s ok ({ s with wakePipe := none }.loopAt .testInit)

omit [DecidableEq T] in
theorem loops_of_loopStep {ok more : Bool} (hs : s.loopStep ok more = some s') : Loops s ok s' := by
  rw [loopStep] at hs
  cases hloop : s.loop with
  | outside =>
    rw [hloop] at hs
    cases hs
  | testInit =>
    rw [hloop] at hs
    obtain rfl := Option.some.inj hs
    cases hpipe : s.wakePipe with
    | none => exact .noPipe hloop hpipe
    | some n => exact .again hloop (by rw [hpipe]; rfl)
  | init =>
    rw [hloop] at hs
    obtain rfl := Option.some.inj hs
    cases ok with
    | true => exact .made hloop
    | false => exact .notMade hloop
  | clearRestart =>
    rw [hloop] at hs
    obtain rfl := Option.some.inj hs
    exact .cleared hloop
  | caught =>
    rw [hloop] at hs
    obtain rfl := Option.some.inj hs
    cases hstop : s.isStopping with
    | true => exact .givenUp hloop hstop
    | false => exact .retried hloop
  | poll =>
    rw [hloop] at hs
    cases ok with
    | false =>
      obtain rfl := Option.some.inj hs
      exact .pollFailed hloop rfl
    | true =>
      cases hpipe : s.wakePipe.getD 0 with
      | zero =>
        simp only [hpipe, Bool.true_eq_false, if_false, Option.ite_none_right_eq_some] at hs
        obtain ⟨-, hs⟩ := hs
        obtain rfl := Option.some.inj hs
        exact .reported hloop fun n hn => by simp [hn] at hpipe
      | succ n =>
        simp only [hpipe, Bool.true_eq_false, if_false] at hs
        obtain rfl := Option.some.inj hs
        exact .woken hloop n (some_of_getD hpipe)
  | pollFailed =>
    rw [hloop] at hs
    obtain rfl := Option.some.inj hs
    exact .askedFailed hloop
  | handle wake =>
    rw [hloop] at hs
    obtain rfl := Option.some.inj hs
    cases more with
    | true => exact .asked wake hloop
    | false =>
      cases wake with
      | true => exact .toDrain hloop
      | false => exact .handled hloop
  | drain =>
    rw [hloop] at hs
    cases hpipe : s.wakePipe.getD 0 with
    | zero => simp [hpipe] at hs
    | succ n =>
      simp only [hpipe] at hs
      obtain rfl := Option.some.inj hs
      have hdrained : Loops s ok _ := .drained hloop n (some_of_getD hpipe)
      rwa [hloop] at hdrained
  | testStopping =>
    rw [hloop] at hs
    obtain rfl := Option.some.inj hs
    cases hstop : s.isStopping with
    | true => exact .stopped hloop hstop
    | false => exact .notStopped hloop hstop
  | testRestart =>
    rw [hloop] at hs
    obtain rfl := Option.some.inj hs
    cases hrestart : s.shouldRestart with
    | true => exact .restarting hloop
    | false => exact .notRestarting hloop hrestart
  | cleanup =>
    rw [hloop] at hs
    obtain rfl := Option.some.inj hs
    exact .closed hloop

/-! ### The trap -/

omit [DecidableEq T] in
theorem Trapped.waking (h : s.Trapped) (hw : Waking s s') : s'.Trapped := by
  rw [Trapped, hw.loop]
  refine h.imp_right (Or.imp_right ?_)
  rintro ⟨hpoll, n, hn⟩
  refine ⟨hpoll, ?_⟩
  rcases hw.wakePipe with hsame | hmore
  · exact ⟨n, hsame.trans hn⟩
  · exact ⟨n + 1, by rw [hmore, hn]; rfl⟩

omit [DecidableEq T] in
theorem Trapped.loops {ok more : Bool} (h : s.Trapped) (hok : s.PollOk (.loop ok more))
    (hs : Loops s ok s') : s'.Trapped ∧ s'.browsers = s.browsers := by
  rw [Trapped] at h
  cases hs with
  | pollFailed hloop hfails =>
    subst hfails
    exact absurd hloop hok
  | woken hloop n hpipe => exact ⟨.inr (.inl rfl), rfl⟩
  | asked wake hloop =>
    obtain rfl : wake = true := by simpa [hloop] using h
    exact ⟨.inr (.inl hloop), rfl⟩
  | toDrain hloop => exact ⟨.inl rfl, rfl⟩
  | drained hloop n hpipe => exact ⟨.inl hloop, rfl⟩
  | reported hloop hpipe =>
    obtain ⟨n, hn⟩ : ∃ n, s.wakePipe = some (n + 1) := by simpa [hloop] using h
    exact absurd hn (hpipe n)
  | noPipe hloop | again hloop | made hloop | notMade hloop | cleared hloop | givenUp hloop
  | retried hloop | askedFailed hloop | handled hloop | stopped hloop | notStopped hloop
  | restarting hloop | notRestarting hloop | closed hloop => simp [hloop] at h

theorem Trapped.step (h : s.Trapped) (hok : s.PollOk l) (hs : s.step l = some s') :
    s'.Trapped ∧ s'.browsers = s.browsers := by
  cases l with
  | call =>
    obtain ⟨houtside, -⟩ := Option.ite_none_right_eq_some.mp hs
    simp [Trapped, houtside] at h
  | loop ok more => exact h.loops hok (loops_of_loopStep hs)
  | stop =>
    obtain ⟨hwaking, -⟩ := stopStep_cases hs
    exact ⟨h.waking hwaking, hwaking.browsers⟩
  | restart t =>
    obtain ⟨hwaking, -⟩ := restartStep_cases hs
    exact ⟨h.waking hwaking, hwaking.browsers⟩

omit [DecidableEq T] in
/-- A thread that is trapped is in `loopEvent`, and does not come out of it. -/
theorem Trapped.loop_ne_outside (h : s.Trapped) : s.loop ≠ .outside := by
  intro houtside
  simp [Trapped, houtside] at h

/-- In these places there is a pipe, since `init_mdns` has been passed and `cleanup_mdns` has
not. -/
def LoopPc.hasPipe : LoopPc → Bool
  | clearRestart | poll | pollFailed | handle _ | drain | testStopping | testRestart => true
  | _ => false

omit [DecidableEq T] in
theorem Waking.isSome_wakePipe (h : Waking s s') (hpipe : s.wakePipe.isSome = true) :
    s'.wakePipe.isSome = true := by
  rcases h.wakePipe with hsame | hmore
  · rwa [hsame]
  · rwa [hmore, Option.isSome_map]

omit [DecidableEq T] in
theorem hasPipe_loops {ok : Bool} (h : s.loop.hasPipe = true → s.wakePipe.isSome = true)
    (hs : Loops s ok s') : s'.loop.hasPipe = true → s'.wakePipe.isSome = true := by
  cases hs with
  | noPipe _ _ | notMade _ | givenUp _ _ | retried _ | stopped _ _ | restarting _
  | notRestarting _ _ | closed _ => exact fun hfalse => by cases hfalse
  | askedFailed _ => exact fun hfalse => by cases hfalse
  | again _ hpipe => exact fun _ => hpipe
  | made _ | drained _ _ _ => exact fun _ => rfl
  | asked wake hloop =>
    intro _
    rw [requestRestart, writePipe, Option.isSome_map]
    exact h (by rw [hloop]; rfl)
  | cleared hloop | pollFailed hloop | reported hloop | woken hloop | toDrain hloop
  | handled hloop | notStopped hloop => exact fun _ => h (by rw [hloop]; rfl)

theorem hasPipe_of_reachable (h : (mdnsLoopMachine T).Reachable init s) :
    s.loop.hasPipe = true → s.wakePipe.isSome = true := by
  refine h.invariant (I := fun s => s.loop.hasPipe = true → s.wakePipe.isSome = true)
    (fun hfalse => by cases hfalse) fun s l s' hpipe _ hs => ?_
  cases l with
  | call =>
    obtain ⟨-, hs⟩ := Option.ite_none_right_eq_some.mp hs
    obtain rfl := Option.some.inj hs
    exact fun hfalse => by cases hfalse
  | loop ok more => exact hasPipe_loops hpipe (loops_of_loopStep hs)
  | stop =>
    obtain ⟨hwaking, -⟩ := stopStep_cases hs
    exact fun hloop => hwaking.isSome_wakePipe (hpipe (hwaking.loop ▸ hloop))
  | restart t =>
    obtain ⟨hwaking, -⟩ := restartStep_cases hs
    exact fun hloop => hwaking.isSome_wakePipe (hpipe (hwaking.loop ▸ hloop))

/-- **A restart or a stop that is asked for while the thread waits in `poll` never takes
place**, unless `poll` fails: whatever happens from then on, the thread does not leave
`loopEvent`, and it makes no browsers. -/
theorem trapped_of_write (hr : (mdnsLoopMachine T).Reachable init s) (hpoll : s.loop = .poll)
    (hw : s.Writes l) (hs : s.step l = some s₁)
    (h : (mdnsLoopMachine T).Reaches PollOk s₁ s') :
    s'.Trapped ∧ s'.loop ≠ .outside ∧ s'.browsers = s.browsers := by
  obtain ⟨hwaking, hpipe⟩ := wakePipe_of_writes hw hs
  have hsome := hasPipe_of_reachable hr (by rw [hpoll]; rfl)
  obtain ⟨n, hn⟩ := Option.isSome_iff_exists.mp hsome
  have htrapped : s₁.Trapped :=
    .inr (.inr ⟨hwaking.loop.trans hpoll, n, by rw [hpipe, hn]; rfl⟩)
  have hrun := h.invariant (I := fun s' => s'.Trapped ∧ s'.browsers = s.browsers)
    ⟨htrapped, hwaking.browsers⟩ fun s₂ l s₃ hI hok hstep => by
      obtain ⟨htrapped', hbrowsers⟩ := hI.1.step hok hstep
      exact ⟨htrapped', hbrowsers.trans hI.2⟩
  exact ⟨hrun.1, hrun.1.loop_ne_outside, hrun.2⟩

/-! ### Requests in time -/

/-- **Nothing is in the pipe that has not been noticed**: where there is a byte, there is a flag
that the thread will see. -/
structure Calm (s : MdnsLoop T) : Prop where
  /-- The pipe need not be emptied. -/
  loop : s.loop ≠ .drain ∧ s.loop ≠ .handle true
  /-- A byte in the pipe has been noticed, or the thread has returned because of it. -/
  noticed : ∀ n, s.wakePipe = some (n + 1) → s.Noticed ∨ s.loop = .outside ∧ s.isStopping = true

omit [DecidableEq T] in
theorem Noticed.waking (h : s.Noticed) (hw : Waking s s') : s'.Noticed := by
  rw [Noticed, hw.loop]
  rw [Noticed] at h
  revert h
  cases s.loop with
  | handle wake =>
    cases wake with
    | true => exact id
    | false => simpa [LoopPc.notices] using Or.imp hw.shouldRestart hw.isStopping
  | testStopping => simpa [LoopPc.notices] using Or.imp hw.shouldRestart hw.isStopping
  | testRestart => exact hw.shouldRestart
  | _ => exact id

omit [DecidableEq T] in
/-- Another thread sets a flag, or writes when that is noticed. -/
theorem Calm.waking (h : s.Calm) (hw : Waking s s')
    (hpipe : s.Noticed ∨ s'.wakePipe = s.wakePipe) : s'.Calm where
  loop := hw.loop ▸ h.loop
  noticed n hn := by
    rcases hpipe with hnoticed | hsame
    · exact .inl (hnoticed.waking hw)
    · rcases h.noticed n (hsame ▸ hn) with hnoticed | ⟨houtside, hstop⟩
      · exact .inl (hnoticed.waking hw)
      · exact .inr ⟨hw.loop.trans houtside, hw.isStopping hstop⟩

omit [DecidableEq T] in
/-- Where a byte is never noticed there is none, as long as the state is calm and the loop has
not returned. -/
theorem Calm.wakePipe_ne {n : ℕ} (h : s.Calm) (hloop : ¬s.Noticed) (hinside : s.loop ≠ .outside) :
    s.wakePipe ≠ some (n + 1) := fun hn =>
  (h.noticed n hn).elim hloop fun houtside => hinside houtside.1

omit [DecidableEq T] in
theorem Calm.loops {ok : Bool} (h : s.Calm) (hs : Loops s ok s') : s'.Calm := by
  cases hs with
  | noPipe hloop hpipe => exact ⟨by simp [loopAt], fun n hn => by cases hpipe.symm.trans hn⟩
  | made hloop => exact ⟨by simp, fun n hn => by cases hn⟩
  | closed hloop => exact ⟨by simp [loopAt], fun n hn => by cases hn⟩
  | again hloop | notMade hloop | retried hloop | pollFailed hloop | reported hloop
  | cleared hloop =>
    exact ⟨by simp [loopAt], fun n hn =>
      absurd hn (h.wakePipe_ne (by simp [Noticed, LoopPc.notices, hloop]) (by simp [hloop]))⟩
  | woken hloop n hpipe =>
    exact absurd hpipe (h.wakePipe_ne (by simp [Noticed, LoopPc.notices, hloop]) (by simp [hloop]))
  | toDrain hloop => exact absurd hloop h.loop.2
  | drained hloop => exact absurd hloop h.loop.1
  | givenUp hloop hstop | stopped hloop hstop =>
    exact ⟨by simp [loopAt], fun n hn => .inr ⟨rfl, hstop⟩⟩
  | askedFailed hloop | restarting hloop => exact ⟨by simp [loopAt], fun n hn => .inl rfl⟩
  | asked wake hloop =>
    obtain rfl : wake = false := by
      cases wake with
      | true => exact absurd hloop h.loop.2
      | false => rfl
    refine ⟨h.loop, fun n hn => .inl ?_⟩
    simp [Noticed, LoopPc.notices, requestRestart, writePipe, hloop]
  | handled hloop =>
    refine ⟨by simp [loopAt], fun n hn => ?_⟩
    have hflag : s.shouldRestart = true ∨ s.isStopping = true := by
      simpa [Noticed, LoopPc.notices, hloop] using h.noticed n hn
    exact .inl (Bool.or_eq_true_iff.mpr hflag)
  | notStopped hloop hstop =>
    refine ⟨by simp [loopAt], fun n hn => ?_⟩
    have hflag : s.shouldRestart = true := by
      simpa [Noticed, LoopPc.notices, hloop, hstop] using h.noticed n hn
    exact .inl hflag
  | notRestarting hloop hrestart =>
    have hnot : ¬s.Noticed := by simp [Noticed, LoopPc.notices, hloop, hrestart]
    exact ⟨by simp [loopAt], fun n hn => absurd hn (h.wakePipe_ne hnot (by simp [hloop]))⟩

theorem Calm.step (h : s.Calm) (hok : s.InTime l) (hs : s.step l = some s') : s'.Calm := by
  cases l with
  | call =>
    obtain ⟨houtside, hs⟩ := Option.ite_none_right_eq_some.mp hs
    obtain rfl := Option.some.inj hs
    have hstop : s.isStopping = false := hok
    refine ⟨by simp [loopAt], fun n hn => ?_⟩
    have hfalse := h.noticed n hn
    simp [Noticed, LoopPc.notices, houtside, hstop] at hfalse
  | loop ok more => exact h.loops (loops_of_loopStep hs)
  | stop =>
    obtain ⟨hwaking, ⟨hwrite, -⟩ | ⟨-, hsame⟩⟩ := stopStep_cases hs
    · exact h.waking hwaking (.inl (hok hwrite))
    · exact h.waking hwaking (.inr hsame)
  | restart t =>
    obtain ⟨hwaking, ⟨hwrite, -⟩ | ⟨-, hsame⟩⟩ := restartStep_cases hs
    · exact h.waking hwaking (.inl (hok hwrite))
    · exact h.waking hwaking (.inr hsame)

/-- **If every write is noticed, the thread is never trapped**: when it waits in `poll`, the
pipe is empty. -/
theorem calm_of_inTime (h : (mdnsLoopMachine T).Reaches InTime init s) :
    ¬s.Trapped ∧ (s.loop = .poll → s.wakePipe = some 0) := by
  have hcalm : s.Calm := h.invariant
    ⟨by simp [init], fun n hn => by cases hn⟩ fun _ _ _ hI hok hs => hI.step hok hs
  have hpoll : s.loop = .poll → ∀ n, s.wakePipe ≠ some (n + 1) := fun hloop n =>
    hcalm.wakePipe_ne (by simp [Noticed, LoopPc.notices, hloop]) (by simp [hloop])
  refine ⟨?_, fun hloop => ?_⟩
  · rintro (hdrain | hhandle | ⟨hloop, n, hn⟩)
    · exact hcalm.loop.1 hdrain
    · exact hcalm.loop.2 hhandle
    · exact hpoll hloop n hn
  · have hsome := hasPipe_of_reachable (h.mono fun _ _ _ => trivial) (by rw [hloop]; rfl)
    obtain ⟨n, hn⟩ := Option.isSome_iff_exists.mp hsome
    cases n with
    | zero => exact hn
    | succ n => exact absurd hn (hpoll hloop n)

/-! ### Runs -/

/-- The thread makes `n` steps in which nothing fails and nothing else is reported. -/
def loops (n : ℕ) : List (Label Unit) := List.replicate n (.loop true false)

/-- A device is lost while the thread waits: the pipe is emptied, and that takes for ever. -/
theorem trapped_of_write_poll : ∃ s' : MdnsLoop Unit,
    s'.Trapped ∧ s'.loop ≠ .outside ∧ s'.browsers = 1 := by
  have hr := Machine.reaches_of_runOk (show (mdnsLoopMachine Unit).runOk (fun _ _ => True) init
    (.call :: loops 1 ++ [.restart (), .restart ()]) = some _ from rfl)
  exact ⟨_, trapped_of_write (l := .restart ()) hr rfl rfl rfl (Machine.reaches_of_runOk
    (show (mdnsLoopMachine Unit).runOk PollOk _ (loops 3) = some _ from rfl))⟩

/-- A callback and a device ask for a restart while something is handled. -/
theorem calm_of_inTime_restarted : ∃ s : MdnsLoop Unit, s.loop = .poll ∧ s.browsers = 2 ∧
    ¬s.Trapped ∧ (s.loop = .poll → s.wakePipe = some 0) := by
  obtain ⟨s, hr, hp⟩ := (mdnsLoopMachine Unit).exists_reaches_of_runOk InTime init
    (.call :: loops 1 ++ [.loop true true, .loop true true, .restart (), .restart (),
      .restart ()] ++ loops 7)
    (fun s => decide (s.loop = .poll ∧ s.browsers = 2)) (by decide)
  obtain ⟨hloop, hbrowsers⟩ := of_decide_eq_true hp
  exact ⟨s, hloop, hbrowsers, calm_of_inTime hr⟩

end MdnsLoop

end Usbmuxd
