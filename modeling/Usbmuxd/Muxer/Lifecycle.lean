import Usbmuxd.Muxer.Ids

/-!
# From the version packet to the removal

A USB device becomes known to the muxer when it answers the version packet: a receiver
thread is in `device_version_input`, which ends in `Muxer::add_device`. It is forgotten
on two ways. The hot-plug callback calls `Muxer::delete_device(bus, address)`, and every
call of `kill` posts the device to the reaper of the device manager, which runs
`deconstruct`, and this calls `Muxer::delete_device(dev)`.

A removal that comes before the insertion finds nothing to erase, and leaves no mark on
the device: `mux_dev_state` has a `MUXDEV_DEAD`, but nobody ever sets it. So the
insertion that follows makes a *ghost*, a device of the muxer that has been removed
(`Usbmuxd.Lifecycle.NoGhost`). The invariant is that a device in `_devices` whose removal
has been asked for has a removal that is still going to look for it
(`Usbmuxd.Lifecycle.RemovalAhead`).

The steps are those of the muxer (`Usbmuxd.Muxer.threadStep`), where all the other
devices and the clients come and go as they like, and those of the handshake. What
`deconstruct` does after `delete_device` is left out, since it does not touch the muxer.
-/

namespace Usbmuxd

open Interleaving Muxer

/-! ### The handshake -/

/-- `mux_dev_state`. A device is made in the first of these states, and there is no way back. -/
inductive MuxDevState
  | muxdevInit
  | muxdevActive
  | muxdevDead
  deriving DecidableEq

/-- Where a receiver is in `device_version_input`. Whether the version suits is looked at
first. -/
inductive VersionCall
  /-- Not in it, or in `add_device` already. -/
  | away
  /-- Past the checks, before `_muxdev.version` is set and `MUX_PROTO_SETUP` is sent. -/
  | setup (major : ℕ)
  /-- Before `_state` is set. -/
  | activate
  deriving DecidableEq

/-- A USB device, the muxer, and the threads in both. Whether it has been removed is written
down, since the muxer forgets it. -/
structure Lifecycle (T C : Type) where
  /-- The muxer. -/
  mux : Muxer T C
  /-- `_state`. -/
  state : MuxDevState
  /-- `_muxdev.version`. -/
  version : ℕ
  /-- Where each thread is in `device_version_input`. -/
  versionInput : T → VersionCall
  /-- How often the device is in `_reapDevices`. -/
  reapDevices : ℕ
  /-- Whether a removal has been asked for: `kill` has been called, or the hot-plug
  callback has been told that the device has left. -/
  removed : Bool

namespace Lifecycle

variable {S T C : Type} [DecidableEq S] [DecidableEq T] [Fintype T] [DecidableEq C]
  (E : MuxerEnv S C) (dev : ℕ) (s : Lifecycle T C)

/-- A device that has been sent the version packet, and that nobody has removed so far. -/
def init : Lifecycle T C where
  mux := .init
  state := .muxdevInit
  version := 0
  versionInput := fun _ => .away
  reapDevices := 0
  removed := false

/-- The thread is in none of the calls, and so it may be called. -/
def isIdle (t : T) : Bool := s.versionInput t = .away && (s.mux.thread t).isIdle

/-- Thread `t` goes on in `device_version_input`. The muxer does not notice. -/
def goVersion (t : T) (pc : VersionCall) : Lifecycle T C :=
  { s with versionInput := Function.update s.versionInput t pc }

/-- Thread `t` calls the muxer, and what follows are steps of the muxer. -/
def callMux (t : T) (r : Request C) : Lifecycle T C := { s with mux := s.mux.go t r.call }

/-- `USBDevice::kill`. From now on the reaper has a post for the device. -/
def kill : Lifecycle T C := { s with reapDevices := s.reapDevices + 1, removed := true }

/-- The checks of `device_version_input`. When the first fails it throws, and `loopEvent`
calls `kill`. -/
def checkVersion (t : T) (major : ℕ) : Lifecycle T C :=
  if s.state ≠ .muxdevInit then s.kill
  else if major ≠ 2 ∧ major ≠ 1 then s.kill
  else s.goVersion t (.setup major)

/-- `_muxdev.version` is set and, from version 2 on, `MUX_PROTO_SETUP` sent; `ok` is
whether `usb_send` succeeds. -/
def setupStep (t : T) (major : ℕ) (ok : Bool) : Lifecycle T C :=
  if 2 ≤ major ∧ ok = false then
    -- `send_packet` calls `kill` and throws, and `loopEvent` calls it again
    ({ s with version := major }.goVersion t .away).kill.kill
  else { s with version := major }.goVersion t .activate

/-- `_state` is set and `add_device` called. Nobody asks whether the device has gone
meanwhile. -/
def activateStep (t : T) : Lifecycle T C :=
  ({ s with state := .muxdevActive }.goVersion t .away).callMux t (.addDevice dev)

/-! ### The machine -/

/-- What the muxer is called for on behalf of other devices and the clients. -/
def isOther : Request C → Bool
  | .addDevice d | .deleteDevice d => d ≠ dev
  | .unplugDevice location => location ≠ (E.device dev).usbLocation
  | .listen _ => true

/-- A step of a receiver, of the hot-plug callback, of the reaper or of a thread in the
muxer. -/
inductive Label (T C : Type)
  /-- A receiver gets a version packet. -/
  | versionPacket (t : T) (major : ℕ)
  /-- A receiver goes on in `device_version_input`; `ok` is whether `usb_send`
  succeeds. -/
  | handshake (t : T) (ok : Bool)
  /-- `kill` is called elsewhere, as by `rx_callback`. -/
  | kill
  /-- The reaper takes the device from `_reapDevices` and calls `deconstruct`. -/
  | reap (t : T)
  /-- `LIBUSB_HOTPLUG_EVENT_DEVICE_LEFT` for the device. -/
  | left (t : T)
  /-- The muxer is called on behalf of others. -/
  | other (t : T) (r : Request C)
  /-- A thread that is in a call of the muxer makes a step. -/
  | run (t : T) (ok : Bool)

/-- One step. A thread that is in a call goes on in it, and all others may be called. -/
def step : Label T C → Option (Lifecycle T C)
  | .versionPacket t major => if s.isIdle t then some (s.checkVersion t major) else none
  | .handshake t ok =>
      match s.versionInput t with
      | .away => none
      | .setup major => some (s.setupStep t major ok)
      | .activate => some (s.activateStep dev t)
  | .kill => some s.kill
  | .reap t =>
      if s.isIdle t ∧ 0 < s.reapDevices then
        some ({ s with reapDevices := s.reapDevices - 1 }.callMux t (.deleteDevice dev))
      else none
  | .left t =>
      if s.isIdle t then
        some ({ s with removed := true }.callMux t
          (.unplugDevice (E.device dev).usbLocation))
      else none
  | .other t r => if s.isIdle t ∧ isOther E dev r then some (s.callMux t r) else none
  | .run t ok => (s.mux.threadStep E t ok).map fun mux => { s with mux := mux }

/-! ### Ghosts -/

/-- The muxer has been called about the device, and has not done with it. -/
def About : Call C → Prop
  | .lookup d | .scan d | .insert d | .startLoop d | .notifyAdd d | .erase d
  | .notifyRemove d => d = dev
  | .unplug location => location = (E.device dev).usbLocation
  | _ => False

/-- The thread is going to look for the device, to remove it. If the device has been inserted by
then, it is found. -/
def WillLook : Call C → Prop
  | .erase d => d = dev
  | .unplug location => location = (E.device dev).usbLocation
  | _ => False

instance (pc : Call C) : Decidable (About E dev pc) :=
  match pc with
  | .lookup d | .scan d | .insert d | .startLoop d | .notifyAdd d | .erase d
  | .notifyRemove d => inferInstanceAs (Decidable (d = dev))
  | .unplug _ => inferInstanceAs (Decidable (_ = _))
  | .idle | .announcing _ _ | .retracting _ _ | .listen _ | .notifyAlldevices _
  | .dumping _ _ => isFalse id

instance (pc : Call C) : Decidable (WillLook E dev pc) :=
  match pc with
  | .erase d => inferInstanceAs (Decidable (d = dev))
  | .unplug _ => inferInstanceAs (Decidable (_ = _))
  | .idle | .lookup _ | .scan _ | .insert _ | .startLoop _ | .notifyAdd _ | .announcing _ _
  | .notifyRemove _ | .retracting _ _ | .listen _ | .notifyAlldevices _
  | .dumping _ _ => isFalse id

/-- The handshake and all removals that have been asked for are over. What is there now
stays. -/
def Finished : Prop :=
  s.reapDevices = 0 ∧ ∀ t, s.versionInput t = .away ∧ ¬About E dev (s.mux.thread t)

/-- **No ghost**: a removed device is not in `_devices`, once everything is over. -/
def NoGhost : Prop := s.Finished E dev → s.removed = true → dev ∉ s.mux.devices

/-- A removal is still going to look for the device, either the reaper's or one that has
begun. -/
def RemovalAhead : Prop := 0 < s.reapDevices ∨ ∃ t, WillLook E dev (s.mux.thread t)

instance : Decidable (s.Finished E dev) := inferInstanceAs (Decidable (_ ∧ _))

instance : Decidable (s.RemovalAhead E dev) := inferInstanceAs (Decidable (_ ∨ _))

/-- **The device is inserted in time**: not after its removal has been asked for, unless
a removal is still going to look for it. And the hot-plug callback, which looks for the
first device at the location, does not find another one there. -/
def InTime : Label T C → Prop
  | .run t _ =>
      match s.mux.thread t with
      | .insert d => d = dev → s.removed = true → s.RemovalAhead E dev
      | .unplug location => location = (E.device dev).usbLocation →
          ∀ d ∈ s.mux.devices, (E.device d).conntype = .muxconnUsb →
            (E.device d).usbLocation = location → d = dev
      | _ => True
  | _ => True

instance (l : Label T C) : Decidable (s.InTime E dev l) := by
  unfold InTime
  split
  · split <;> infer_instance
  · infer_instance

end Lifecycle

/-- The muxer and the life of a USB device, as a machine. Other devices may come and go
meanwhile. -/
def lifecycleMachine {S T C : Type} [DecidableEq S] [DecidableEq T] [Fintype T]
    [DecidableEq C] (E : MuxerEnv S C) (dev : ℕ) :
    Machine (Lifecycle T C) (Lifecycle.Label T C) :=
  ⟨fun s l => s.step E dev l⟩

/-! ### What a step of the muxer does to a device -/

namespace Muxer

variable {S T C : Type} [DecidableEq S] [DecidableEq T] [Fintype T] [DecidableEq C]
  {E : MuxerEnv S C} {m m' : Muxer T C} {t : T} {ok : Bool} {d dev : ℕ}

/-- The other threads stay where they are, as each step belongs to one. -/
theorem threadStep_others (h : m.threadStep E t ok = some m') {t' : T} (ht : t' ≠ t) :
    m'.thread t' = m.thread t' := by
  have hupdate : ∃ pc, m'.thread = Function.update m.thread t pc := by
    rcases threadStep_cases h with hby | ⟨dev, -, rfl⟩ | ⟨dev, -, hscan⟩ | ⟨dev, -, -, rfl⟩
    · exact hby.thread.imp fun pc hpc => hpc.1
    · rcases lookupId_cases (E := E) m t dev with heq | ⟨odev, -, -, -, heq⟩ <;>
        exact ⟨_, by rw [heq]; rfl⟩
    · obtain ⟨newid, -, rfl⟩ := Option.map_eq_some_iff.mp hscan
      exact ⟨_, rfl⟩
    · obtain ⟨pc, -, heq⟩ := insertStep_eq (E := E) m t dev
      exact ⟨pc, by rw [heq]; rfl⟩
  obtain ⟨pc, hpc⟩ := hupdate
  rw [hpc, Function.update_of_ne ht]

/-- A device that is there afterwards was there before, or has just been inserted. -/
theorem threadStep_mem (h : m.threadStep E t ok = some m') (hd : d ∈ m'.devices) :
    d ∈ m.devices ∨ m.thread t = .insert d := by
  rcases threadStep_cases h with hby | ⟨dev, -, rfl⟩ | ⟨dev, -, hscan⟩ | ⟨dev, hpc, -, rfl⟩
  · exact Or.inl (hby.devices d hd)
  · rcases lookupId_cases (E := E) m t dev with heq | ⟨odev, -, -, -, heq⟩ <;>
      exact Or.inl (by rwa [heq] at hd)
  · obtain ⟨newid, -, rfl⟩ := Option.map_eq_some_iff.mp hscan
    exact Or.inl hd
  · obtain ⟨pc, -, heq⟩ := insertStep_eq (E := E) m t dev
    rw [heq] at hd
    rcases mem_insertDevice.mp hd with rfl | hd
    · exact Or.inr hpc
    · exact Or.inl hd

/-- `delete_device(dev)` erases the device, if it is there, and all of its entries. -/
theorem not_mem_of_erase (h : m.threadStep E t ok = some m') (hpc : m.thread t = .erase dev) :
    dev ∉ m'.devices := by
  simp only [threadStep, hpc, Option.ite_none_right_eq_some, Option.some.injEq] at h
  obtain ⟨-, rfl⟩ := h
  exact fun hmem => (mem_eraseDevice.mp hmem).2 rfl

/-- `delete_device(bus, address)` erases the device at the location, if it is the only one
there. -/
theorem not_mem_of_unplug (h : m.threadStep E t ok = some m')
    (hpc : m.thread t = .unplug (E.device dev).usbLocation)
    (husb : (E.device dev).conntype = .muxconnUsb)
    (halone : ∀ d ∈ m.devices, (E.device d).conntype = .muxconnUsb →
      (E.device d).usbLocation = (E.device dev).usbLocation → d = dev) :
    dev ∉ m'.devices := by
  simp only [threadStep, hpc, Option.ite_none_right_eq_some, Option.some.injEq] at h
  obtain ⟨-, rfl⟩ := h
  unfold unplugStep deviceAt
  split
  · next d hfind =>
    have hat := List.find?_some hfind
    rw [decide_eq_true_eq] at hat
    obtain rfl := halone d (List.mem_of_find?_eq_some hfind) hat.1 hat.2
    exact fun hmem => (mem_eraseDevice.mp hmem).2 rfl
  · next hnone =>
    intro hmem
    have hnot := List.find?_eq_none.mp hnone dev hmem
    exact hnot (decide_eq_true ⟨husb, rfl⟩)

end Muxer

/-! ### The invariant -/

namespace Lifecycle

variable {S T C : Type} [DecidableEq S] [DecidableEq T] [Fintype T] [DecidableEq C]
  {E : MuxerEnv S C} {dev : ℕ} {s s' : Lifecycle T C} {l : Label T C} {t : T} {ok : Bool}

omit [DecidableEq S] [DecidableEq T] [Fintype T] [DecidableEq C] in
theorem versionInput_away (h : s.isIdle t = true) : s.versionInput t = .away :=
  of_decide_eq_true (Bool.and_eq_true_iff.mp h).1

omit [DecidableEq S] [DecidableEq T] [Fintype T] [DecidableEq C] in
theorem mux_isIdle (h : s.isIdle t = true) : (s.mux.thread t).isIdle = true :=
  (Bool.and_eq_true_iff.mp h).2

/-- What a step may do, with what has to be true for it and with the state after it. -/
inductive Move (E : MuxerEnv S C) (dev : ℕ) (s : Lifecycle T C) :
    Label T C → Lifecycle T C → Prop
  /-- The answer does not pass the checks. -/
  | refused {t : T} {major : ℕ} : s.isIdle t = true → Move E dev s (.versionPacket t major) s.kill
  /-- It does. -/
  | taken {t : T} {major : ℕ} : s.isIdle t = true →
    Move E dev s (.versionPacket t major) (s.goVersion t (.setup major))
  /-- The setup packet is not sent. -/
  | setupFailed {t : T} {major : ℕ} : s.versionInput t = .setup major →
    Move E dev s (.handshake t false) ({ s with version := major }.goVersion t .away).kill.kill
  /-- It is sent, or there is none. -/
  | setup {t : T} {major : ℕ} {ok : Bool} : s.versionInput t = .setup major →
    Move E dev s (.handshake t ok) ({ s with version := major }.goVersion t .activate)
  /-- The device is active. -/
  | activate {t : T} {ok : Bool} : s.versionInput t = .activate →
    Move E dev s (.handshake t ok) (s.activateStep dev t)
  /-- It is killed. -/
  | kill : Move E dev s .kill s.kill
  /-- The reaper takes a post. -/
  | reap {t : T} : s.isIdle t = true → 0 < s.reapDevices →
    Move E dev s (.reap t)
      ({ s with reapDevices := s.reapDevices - 1 }.callMux t (.deleteDevice dev))
  /-- The device has left. -/
  | left {t : T} : s.isIdle t = true →
    Move E dev s (.left t)
      ({ s with removed := true }.callMux t (.unplugDevice (E.device dev).usbLocation))
  /-- The muxer is called on behalf of others. -/
  | other {t : T} {r : Request C} : s.isIdle t = true → isOther E dev r = true →
    Move E dev s (.other t r) (s.callMux t r)
  /-- The muxer makes a step. -/
  | run {t : T} {ok : Bool} {mux : Muxer T C} : s.mux.threadStep E t ok = some mux →
    Move E dev s (.run t ok) { s with mux := mux }

/-- **Every step is one of these**, and later proofs go by these cases. -/
theorem step_move (h : s.step E dev l = some s') : Move E dev s l s' := by
  cases l with
  | versionPacket t major =>
    simp only [step, Option.ite_none_right_eq_some, Option.some.injEq] at h
    obtain ⟨hfree, rfl⟩ := h
    unfold checkVersion
    split_ifs
    · -- an answer out of turn
      exact .refused hfree
    · exact .refused hfree
    · exact .taken hfree
  | handshake t ok =>
    simp only [step] at h
    split at h
    · cases h
    · next major hpc =>
      cases h
      unfold setupStep
      split_ifs with hfail
      · obtain ⟨-, rfl⟩ := hfail
        exact .setupFailed hpc
      · exact .setup hpc
    · next hpc =>
      cases h
      exact .activate hpc
  | kill =>
    cases h
    exact .kill
  | reap t =>
    simp only [step, Option.ite_none_right_eq_some, Option.some.injEq] at h
    obtain ⟨⟨hfree, hposts⟩, rfl⟩ := h
    exact .reap hfree hposts
  | left t =>
    simp only [step, Option.ite_none_right_eq_some, Option.some.injEq] at h
    obtain ⟨hfree, rfl⟩ := h
    exact .left hfree
  | other t r =>
    simp only [step, Option.ite_none_right_eq_some, Option.some.injEq] at h
    obtain ⟨⟨hfree, hr⟩, rfl⟩ := h
    exact .other hfree hr
  | run t ok =>
    obtain ⟨m, hm, rfl⟩ := Option.map_eq_some_iff.mp h
    exact .run hm

/-- A thread in the handshake is in no call of the muxer, as it has one stack only. -/
def OneCall (s : Lifecycle T C) : Prop :=
  ∀ t, s.versionInput t ≠ .away → (s.mux.thread t).isIdle = true

namespace OneCall

omit [DecidableEq S] [DecidableEq T] [Fintype T] [DecidableEq C] in
theorem init : (init : Lifecycle T C).OneCall := fun _ _ => rfl

omit [DecidableEq S] [Fintype T] [DecidableEq C] in
/-- A thread that is in no call goes on in the handshake. -/
theorem goVersion (hs : s.OneCall) (hidle : (s.mux.thread t).isIdle = true)
    (pc : VersionCall) : (s.goVersion t pc).OneCall := by
  intro t' hpc
  rcases eq_or_ne t' t with rfl | ht
  · exact hidle
  · refine hs t' fun haway => hpc ?_
    rw [Lifecycle.goVersion]
    exact (Function.update_of_ne ht ..).trans haway

omit [DecidableEq S] [Fintype T] [DecidableEq C] in
/-- A thread that is not in the handshake calls the muxer. -/
theorem callMux (hs : s.OneCall) (haway : s.versionInput t = .away) (r : Request C) :
    (s.callMux t r).OneCall := by
  intro t' hpc
  have ht : t' ≠ t := by
    rintro rfl
    exact hpc haway
  rw [Lifecycle.callMux, go_thread_of_ne _ _ ht]
  exact hs t' hpc

/-- A step of the muxer is made by a thread that is in a call. -/
theorem run (hs : s.OneCall) {m : Muxer T C} (h : s.mux.threadStep E t ok = some m) :
    ({ s with mux := m } : Lifecycle T C).OneCall := by
  intro t' hpc
  have hidle := hs t' hpc
  have ht : t' ≠ t := by
    rintro rfl
    rw [threadStep, Call.eq_idle hidle] at h
    cases h
  rwa [threadStep_others h ht]

/-- **One step keeps the invariant**: a call begins on a thread that is in none. -/
theorem step (hs : s.OneCall) (h : s.step E dev l = some s') : s'.OneCall := by
  cases step_move h with
  | refused | kill => exact hs
  | taken hfree => exact hs.goVersion (mux_isIdle hfree) _
  | @setupFailed t major hpc =>
    have hthread := hs t (by rw [hpc]; exact VersionCall.noConfusion)
    exact goVersion (s := { s with version := major }) hs hthread _
  | @setup t major ok hpc =>
    have hthread := hs t (by rw [hpc]; exact VersionCall.noConfusion)
    exact goVersion (s := { s with version := major }) hs hthread _
  | @activate t ok hpc =>
    have hthread := hs t (by rw [hpc]; exact VersionCall.noConfusion)
    refine callMux (goVersion (s := { s with state := .muxdevActive }) hs hthread .away) ?_ _
    -- the thread leaves the handshake for `add_device`
    exact Function.update_self ..
  | reap hfree =>
    exact callMux (s := { s with reapDevices := s.reapDevices - 1 }) hs (versionInput_away hfree) _
  | left hfree =>
    exact callMux (s := { s with removed := true }) hs (versionInput_away hfree) _
  | other hfree => exact hs.callMux (versionInput_away hfree) _
  | run hm => exact hs.run hm

end OneCall

/-- **A removed device that is still in `_devices` has a removal ahead.** So it is there for a
while only. -/
def Chased (E : MuxerEnv S C) (dev : ℕ) (s : Lifecycle T C) : Prop :=
  dev ∈ s.mux.devices → s.removed = true → s.RemovalAhead E dev

namespace Chased

omit [DecidableEq S] [DecidableEq T] [Fintype T] [DecidableEq C] in
theorem init : Chased E dev (init : Lifecycle T C) := fun hmem => absurd hmem List.not_mem_nil

omit [DecidableEq S] [DecidableEq T] [Fintype T] [DecidableEq C] in
/-- `kill` leaves a post for the reaper. -/
theorem kill (s : Lifecycle T C) : Chased E dev s.kill := fun _ _ => Or.inl (Nat.succ_pos _)

omit [DecidableEq S] [DecidableEq T] [Fintype T] [DecidableEq C] in
/-- Steps of the handshake that leave the muxer alone, and with it what is in `_devices`. -/
theorem of_same (hs : Chased E dev s) (hmux : s'.mux = s.mux)
    (hreap : s'.reapDevices = s.reapDevices) (hremoved : s'.removed = s.removed) :
    Chased E dev s' := by
  rw [Chased, RemovalAhead, hmux, hreap, hremoved]
  exact hs

omit [DecidableEq S] [Fintype T] [DecidableEq C] in
/-- A thread that calls the muxer was not looking for the device. -/
theorem callMux (hs : Chased E dev s) (hidle : (s.mux.thread t).isIdle = true)
    (r : Request C) : Chased E dev (s.callMux t r) := by
  intro hmem hremoved
  rcases hs hmem hremoved with hposts | ⟨t', hlook⟩
  · exact Or.inl hposts
  · refine Or.inr ⟨t', ?_⟩
    have ht : t' ≠ t := by
      rintro rfl
      rw [Call.eq_idle hidle] at hlook
      exact hlook
    rwa [Lifecycle.callMux, go_thread_of_ne _ _ ht]

omit [DecidableEq S] [Fintype T] [DecidableEq C] in
/-- A thread that calls the muxer to look for the device. Then a removal is ahead, whatever
there was before. -/
theorem callMux_look {r : Request C} (hlook : WillLook E dev r.call) :
    Chased E dev (s.callMux t r) := by
  intro _ _
  refine Or.inr ⟨t, ?_⟩
  rwa [Lifecycle.callMux, go_thread_self]

/-- **A step of the muxer**: whoever looks for the device finds it, and the insertion is
in time. -/
theorem run (husb : (E.device dev).conntype = .muxconnUsb) (hs : Chased E dev s)
    (hok : s.InTime E dev (.run t ok)) {m : Muxer T C}
    (h : s.mux.threadStep E t ok = some m) : Chased E dev { s with mux := m } := by
  intro hmem hremoved
  have hahead : s.RemovalAhead E dev := by
    rcases threadStep_mem h hmem with hmem₀ | hpc
    · exact hs hmem₀ hremoved
    · simp only [InTime, hpc] at hok
      exact hok trivial hremoved
  rcases hahead with hposts | ⟨t', hlook⟩
  · exact Or.inl hposts
  · rcases eq_or_ne t' t with rfl | ht
    · -- this thread has looked, and the device is gone
      exfalso
      cases hpc : s.mux.thread t' with
      | erase d =>
        rw [hpc] at hlook
        obtain rfl : d = dev := hlook
        exact not_mem_of_erase h hpc hmem
      | unplug location =>
        rw [hpc] at hlook
        obtain rfl : location = (E.device dev).usbLocation := hlook
        simp only [InTime, hpc] at hok
        exact not_mem_of_unplug h hpc husb (hok trivial) hmem
      | _ =>
        rw [hpc] at hlook
        exact hlook
    · exact Or.inr ⟨t', by rwa [threadStep_others h ht]⟩

/-- **One step keeps the invariant**: what removes the device is posted or called at
once. -/
theorem step (husb : (E.device dev).conntype = .muxconnUsb) (hone : s.OneCall)
    (hs : Chased E dev s) (hok : s.InTime E dev l) (h : s.step E dev l = some s') :
    Chased E dev s' := by
  cases step_move h with
  | refused | setupFailed | kill => exact .kill _
  | taken | setup => exact hs.of_same rfl rfl rfl
  | @activate t ok hpc =>
    have hthread := hone t (by rw [hpc]; exact VersionCall.noConfusion)
    exact callMux (s := { s with state := .muxdevActive }.goVersion t .away)
      (hs.of_same rfl rfl rfl) hthread _
  | reap =>
    -- the post is gone, and the thread that took it looks for the device
    exact callMux_look (r := .deleteDevice dev) rfl
  | left =>
    -- the hot-plug callback looks for the device by its location
    exact callMux_look (r := .unplugDevice (E.device dev).usbLocation) rfl
  | other hfree => exact hs.callMux (mux_isIdle hfree) _
  | run hm => exact hs.run husb hok hm

end Chased

end Lifecycle

/-! ### No ghosts -/

open Lifecycle

/-- **There are no ghosts**, in every run in which the device is inserted in time. -/
theorem no_ghost {S T C : Type} [DecidableEq S] [DecidableEq T] [Fintype T] [DecidableEq C]
    {E : MuxerEnv S C} {dev : ℕ} (husb : (E.device dev).conntype = .muxconnUsb)
    {s : Lifecycle T C}
    (h : (lifecycleMachine E dev).Reaches (fun s l => s.InTime E dev l) init s) :
    s.NoGhost E dev := by
  have hinv := h.invariant (I := fun s => s.OneCall ∧ Chased E dev s) ⟨.init, .init⟩
    fun _ _ _ hi hok hs => ⟨hi.1.step hs, hi.2.step husb hi.1 hok hs⟩
  rintro ⟨hposts, hover⟩ hremoved hmem
  rcases hinv.2 hmem hremoved with hpos | ⟨t, hlook⟩
  · omega
  · -- a removal that is going to look for the device is not over
    refine (hover t).2 ?_
    revert hlook
    cases s.mux.thread t with
    | erase d | unplug location => exact fun h => h
    | _ => exact False.elim

/-- A USB device and no clients, so that nobody has to be told. -/
def Lifecycle.lone : MuxerEnv ℕ (Fin 0) where
  device := fun _ => ⟨.muxconnUsb, 0, 0x10004⟩
  clients := []
  allowHeartlessWifi := false

section

variable {T C : Type} (t : T)

/-- The handshake of a version 2 device on thread `t`, up to the insertion. -/
def Lifecycle.greeted : List (Label T C) :=
  [.versionPacket t 2, .handshake t true, .handshake t true, .run t true, .run t true]

/-- What follows: the insertion and the announcement, up to the end of the call. -/
def Lifecycle.inserted : List (Label T C) := [.run t true, .run t true, .run t true]

/-- The hot-plug callback, and the reaper after a call of `kill`. -/
def Lifecycle.leaves : List (Label T C) :=
  [.left t, .run t true, .kill, .reap t, .run t true, .run t true, .run t true]

end

/-- A device that leaves after the handshake is gone, since it is found in `_devices`. -/
theorem no_ghost_leaves_later :
    ∃ s : Lifecycle (Fin 2) (Fin 0),
      (s.Finished lone 1 ∧ s.removed = true ∧ s.state = .muxdevActive) ∧
        s.NoGhost lone 1 := by
  obtain ⟨s, hr, hp⟩ := (lifecycleMachine (T := Fin 2) lone 1).exists_reaches_of_runOk
    (fun s l => s.InTime lone 1 l) init
    (greeted 0 ++ inserted 0 ++ [.left 1, .run 1 true, .run 1 true, .kill, .reap 1, .run 1 true,
      .run 1 true, .run 1 true])
    (fun s => s.Finished lone 1 ∧ s.removed = true ∧ s.state = .muxdevActive) (by decide)
  exact ⟨s, of_decide_eq_true hp, no_ghost rfl hr⟩

/-- **A ghost**: the device leaves in the middle of the handshake, the hot-plug callback
and the reaper find nothing to erase, and then the device is inserted. Everything is over,
and the device stays. -/
theorem insertion_after_removal :
    ∃ s, (lifecycleMachine (T := Fin 2) lone 1).Reachable init s ∧
      (∀ t, s.isIdle t = true) ∧ s.reapDevices = 0 ∧ ¬s.NoGhost lone 1 := by
  obtain ⟨s, hr, hp⟩ := (lifecycleMachine (T := Fin 2) lone 1).exists_reaches_of_runOk
    (fun _ _ => True) init (greeted 0 ++ leaves 1 ++ inserted 0)
    (fun s => (∀ t, s.isIdle t = true) ∧ s.reapDevices = 0 ∧ s.Finished lone 1 ∧
      s.removed = true ∧ 1 ∈ s.mux.devices) (by decide)
  obtain ⟨hidle, hposts, hfinished, hremoved, hmem⟩ := of_decide_eq_true hp
  exact ⟨s, hr, hidle, hposts, fun hghost => hghost hfinished hremoved hmem⟩

end Usbmuxd
