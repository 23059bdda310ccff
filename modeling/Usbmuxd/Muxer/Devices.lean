import Mathlib.Data.Fintype.Basic
import Mathlib.Data.List.Sort
import Usbmuxd.Library.Feed
import Usbmuxd.Library.Interleaving

/-!
# The devices of the muxer

The `Muxer` keeps the attached devices in `_devices` and tells the listening clients
about them. Devices are added by the threads that receive from them and by the WiFi
manager; they are removed by the hot-plug callback, by their own teardown, and when a
WiFi device fails to start. A client that starts listening is told about all of them.

## What a step is

A section under `_devicesGuard` is one step, and so is the message to one client. What
holds a guard for reading over several messages is the dump to a new listener, and
meanwhile nobody may insert or erase; the announcements hold `_clientsGuard` for
reading, and clients do not come and go here. A listening client is known by
`_isListening`, which is set without any guard and tested for each client when its turn
comes.

A call that is in progress has a thread of its own, and there may be any number of
threads. A device is known by its address, which is what `std::set` orders devices by.
All writes to clients succeed.
-/

namespace Usbmuxd

open Interleaving

/-! ### Devices and clients -/

/-- `Device::mux_conn_type`; no device is `MUXCONN_UNAVAILABLE`. -/
inductive MuxConnType
  | muxconnUsb
  | muxconnWifi
  deriving DecidableEq

/-- The other connection type. A device that is attached over both has one ID, but for its last
bit, and that is how `add_device` finds it: under the serial number and the type that the new
connection does not have. -/
def MuxConnType.other : MuxConnType → MuxConnType
  | .muxconnUsb => .muxconnWifi
  | .muxconnWifi => .muxconnUsb

/-- A `Device`, but for its `_id`, which is the one thing about it that the muxer writes and
that changes between two calls; it is a part of the muxer here. -/
structure Device (S : Type) where
  /-- `_conntype`. -/
  conntype : MuxConnType
  /-- `_serial`. -/
  serial : S
  /-- `usb_location()`, of a USB device. -/
  usbLocation : ℕ

/-- What does not change while the muxer runs: what the devices are, who the clients are, and
the settings. Clients that come and go are the subject of the models of `Client`. -/
structure MuxerEnv (S C : Type) where
  /-- The devices, by address. -/
  device : ℕ → Device S
  /-- `_clients`. -/
  clients : List C
  /-- `_allowHeartlessWifi`. -/
  allowHeartlessWifi : Bool

/-- A message to a listening client, by what it is about. Both kinds of message carry the ID of
the device at the time of sending, and the ID is all that a client can go by. -/
inductive MuxMessage
  | attached (deviceID : ℕ)
  | detached (deviceID : ℕ)
  deriving DecidableEq

/-- What a message says about the set of device IDs. A client that folds its messages into a set
has a view of the muxer, which can be compared with `_devices`. -/
def MuxMessage.update : MuxMessage → Feed.Update ℕ
  | .attached deviceID => .add deviceID
  | .detached deviceID => .remove deviceID

/-- `MAXID`, which is `INT_MAX / 2`: an ID is twice an index and one bit more, and has to fit
into an `int`. -/
def maxid : ℕ := 2147483647 / 2

/-- `INVALID_ID`, which stands for no device in the functions that look for one to remove. It is
the first index that is not used; but an ID is twice an index, so that it is the ID of a device
as well, if there are enough of them. -/
def invalidId : ℕ := maxid + 1

/-! ### The state -/

namespace Muxer

/-- Where a thread of the muxer is. Each place is one at which it is about to take a lock, or to
tell the next client. -/
inductive Call (C : Type)
  /-- In none of the calls. -/
  | idle
  /-- In `add_device`, before `id_for_device`. -/
  | lookup (dev : ℕ)
  /-- In `add_device`, before the scan for a fresh ID. -/
  | scan (dev : ℕ)
  /-- In `add_device`, before the insertion. -/
  | insert (dev : ℕ)
  /-- In `add_device`, before `startLoop`. -/
  | startLoop (dev : ℕ)
  /-- Before `notify_device_add`. -/
  | notifyAdd (dev : ℕ)
  /-- In `notify_device_add`, with the message for ID `id` made, and the clients that
  are left. -/
  | announcing (id : ℕ) (todo : List C)
  /-- In `delete_device(dev)`, before the erasure. -/
  | erase (dev : ℕ)
  /-- In `delete_device(dev)`, before `notify_device_remove`. -/
  | notifyRemove (dev : ℕ)
  /-- In `delete_device(bus, address)`, before the erasure. -/
  | unplug (location : ℕ)
  /-- In `notify_device_remove`, and the clients that are left. -/
  | retracting (id : ℕ) (todo : List C)
  /-- In `Client::processData`, before `_isListening` is set. -/
  | listen (cli : C)
  /-- Before `notify_alldevices`. -/
  | notifyAlldevices (cli : C)
  /-- In `notify_alldevices`, holding `_devicesGuard` for reading, and the devices that
  are left. -/
  | dumping (cli : C) (todo : List ℕ)

/-- A thread in the middle of a section that reads `_devices`. Only the dump to a new listener
is cut into several steps under the guard, since it sends in between. -/
def Call.isDumping {C : Type} : Call C → Bool
  | .dumping _ _ => true
  | _ => false

/-- A thread in none of the calls, which may be called for anything. -/
def Call.isIdle {C : Type} : Call C → Bool
  | .idle => true
  | _ => false

theorem Call.eq_idle {C : Type} {pc : Call C} (h : pc.isIdle = true) : pc = .idle := by
  cases pc <;> first | rfl | cases h

end Muxer

open Muxer

/-- The muxer and the threads in it. Nothing here belongs to one thread but its place in the
code: the IDs of the devices are written without a lock, and read by whoever has found the
device. -/
structure Muxer (T C : Type) where
  /-- `_devices`, in the order of iteration. -/
  devices : List ℕ
  /-- The `_id` of each device. -/
  id : ℕ → ℕ
  /-- `_newid`. -/
  newid : ℕ
  /-- The `_isListening` of each client. -/
  isListening : C → Bool
  /-- What each client has been sent. -/
  inbox : C → List MuxMessage
  /-- Where each thread is. -/
  thread : T → Call C

namespace Muxer

variable {S T C : Type} [DecidableEq S] [DecidableEq T] [Fintype T] [DecidableEq C]
  (E : MuxerEnv S C) (m : Muxer T C)

/-- A muxer without devices, whose counter begins at 1. -/
def init : Muxer T C where
  devices := []
  id := fun _ => 0
  newid := 1
  isListening := fun _ => false
  inbox := fun _ => []
  thread := fun _ => .idle

/-- Thread `t` goes on to `pc`. All steps of a thread are made of this and of a change of what
is shared. -/
def go (t : T) (pc : Call C) : Muxer T C := { m with thread := Function.update m.thread t pc }

/-- `_devicesGuard` may be taken for writing. Readers do not keep each other out, and their
sections are single steps, all but one. -/
def guardFree : Prop := ∀ t, (m.thread t).isDumping = false

instance : Decidable m.guardFree := inferInstanceAs (Decidable (∀ _, _))

/-! ### `Muxer::add_device` -/

/-- `Muxer::id_for_device`: the ID of the first device with this serial number and connection
type, and 0 if there is none. So a device that is attached twice under one type hands on the ID
that comes first. -/
def idForDevice (serial : S) (type : MuxConnType) : ℕ :=
  match m.devices.find? fun odev =>
    (E.device odev).conntype = type ∧ (E.device odev).serial = serial with
  | some odev => m.id odev
  | none => 0

/-- The ID of a device on a connection: `base | (_conntype == MUXCONN_WIFI)`. The last bit is
what tells the two connections of a device apart. -/
def fixupId (base : ℕ) : MuxConnType → ℕ
  | .muxconnUsb => base ||| 0
  | .muxconnWifi => base ||| 1

/-- One pass of the scan for a fresh ID over the devices that are left, given by their
`_id >> 1`; `none` when `_newid` has passed `MAXID`. -/
def scanPass : List ℕ → ℕ → Option ℕ
  | [], newid => some newid
  | i :: rest, newid =>
      if i = newid then if newid + 1 > maxid then none else scanPass rest (newid + 1)
      else scanPass rest newid

/-- The scan for a fresh ID. A pass that gets past `MAXID` is followed by one from `1`,
and if that gets past `MAXID` too it will do so forever. -/
def scanIds (taken : List ℕ) (newid : ℕ) : Option ℕ :=
  match scanPass taken newid with
  | some newid => some newid
  | none => scanPass taken 1

/-- `_devices`, by `_id >> 1`: the indices that the scan compares `_newid` with, in the order in
which it meets them. The order matters, as one pass does not look back. -/
def taken : List ℕ := m.devices.map fun odev => m.id odev >>> 1

/-- `_devices.insert(dev)`. The set is ordered by addresses, which is the order in which all
loops over it go. -/
def insertDevice (dev : ℕ) : List ℕ :=
  if dev ∈ m.devices then m.devices else m.devices.orderedInsert (· ≤ ·) dev

/-- `_devices.erase(dev)`, which does nothing if the device is not there. -/
def eraseDevice (dev : ℕ) : List ℕ := m.devices.filter (· ≠ dev)

/-- `id_for_device` and what follows it. If the other connection has an ID the thread goes
straight to the insertion; what it has read may be out of date by then, as no guard is held in
between. -/
def lookupId (t : T) (dev : ℕ) : Muxer T C :=
  let d := E.device dev
  -- `& ~1`
  let base := m.idForDevice E d.serial d.conntype.other / 2 * 2
  if base = 0 then { m.go t (.scan dev) with id := Function.update m.id dev 0 }
  else
    { m.go t (.insert dev) with id := Function.update m.id dev (fixupId base d.conntype) }

/-- The scan and what follows it. The index that is found is free when the scan ends, and
nothing reserves it: it is taken by the insertion only, which is a step of its own. -/
def scanId (t : T) (dev : ℕ) : Option (Muxer T C) :=
  (scanIds m.taken m.newid).map fun newid =>
    { m.go t (.insert dev) with
      id := Function.update m.id dev (fixupId (newid <<< 1) (E.device dev).conntype)
      newid := newid }

/-- The insertion. From here on the device can be found by other threads, in particular by those
that remove it, before anybody has been told about it. -/
def insertStep (t : T) (dev : ℕ) : Muxer T C :=
  match (E.device dev).conntype with
  | .muxconnUsb => { m.go t (.notifyAdd dev) with devices := m.insertDevice dev }
  | .muxconnWifi => { m.go t (.startLoop dev) with devices := m.insertDevice dev }

/-- `startLoop`, which succeeds or throws. A WiFi device that cannot be started is removed
again, unless such devices are to be listed all the same; then nobody is told about it. -/
def startLoopStep (t : T) (dev : ℕ) (ok : Bool) : Muxer T C :=
  if ok then m.go t (.notifyAdd dev)
  else if E.allowHeartlessWifi then m.go t .idle
  else m.go t (.erase dev)

/-! ### Messages -/

/-- A message for one client. It goes to the end of what the client has been sent, as `_wlock`
keeps two messages from being mixed. -/
def send (cli : C) (msg : MuxMessage) : Muxer T C :=
  { m with inbox := Function.update m.inbox cli (m.inbox cli ++ [msg]) }

/-- A message for one client, if it is listening at the moment its turn comes. -/
def sendIfListening (cli : C) (msg : MuxMessage) : Muxer T C :=
  if m.isListening cli then m.send cli msg else m

/-! ### `Muxer::delete_device` -/

/-- The device at a USB location, which is how the hot-plug callback names it. -/
def deviceAt (location : ℕ) : Option ℕ :=
  m.devices.find? fun dev =>
    (E.device dev).conntype = .muxconnUsb ∧ (E.device dev).usbLocation = location

/-- `delete_device(bus, address)` under `_devicesGuard`. The ID is read in the same section; the
clients are told afterwards. -/
def unplugStep (t : T) (location : ℕ) : Muxer T C :=
  match m.deviceAt E location with
  | some dev =>
      { m.go t (if m.id dev ≠ invalidId then .retracting (m.id dev) E.clients else .idle) with
        devices := m.eraseDevice dev }
  | none => m.go t .idle

/-! ### The machine -/

/-- One step of a thread that is in a call; `ok` is whether `startLoop` succeeds. It is `none`
where the thread has nothing to do, and where it has to wait for a guard. -/
def threadStep (t : T) (ok : Bool) : Option (Muxer T C) :=
  match m.thread t with
  | .idle => none
  | .lookup dev => some (m.lookupId E t dev)
  | .scan dev => m.scanId E t dev
  | .insert dev => if m.guardFree then some (m.insertStep E t dev) else none
  | .startLoop dev => some (m.startLoopStep E t dev ok)
  | .notifyAdd dev => some (m.go t (.announcing (m.id dev) E.clients))
  | .announcing id (cli :: todo) =>
      some ((m.sendIfListening cli (.attached id)).go t (.announcing id todo))
  | .announcing _ [] => some (m.go t .idle)
  | .erase dev =>
      if m.guardFree then
        some { m.go t (.notifyRemove dev) with devices := m.eraseDevice dev }
      else none
  | .notifyRemove dev => some (m.go t (.retracting (m.id dev) E.clients))
  | .unplug location => if m.guardFree then some (m.unplugStep E t location) else none
  | .retracting id (cli :: todo) =>
      some ((m.sendIfListening cli (.detached id)).go t (.retracting id todo))
  | .retracting _ [] => some (m.go t .idle)
  | .listen cli =>
      some { m.go t (.notifyAlldevices cli) with
        isListening := Function.update m.isListening cli true }
  | .notifyAlldevices cli => some (m.go t (.dumping cli m.devices))
  | .dumping cli (dev :: todo) =>
      some ((m.send cli (.attached (m.id dev))).go t (.dumping cli todo))
  | .dumping _ [] => some (m.go t .idle)

/-- What a thread is called to do, by the managers or by a client. -/
inductive Request (C : Type)
  | addDevice (dev : ℕ)
  | deleteDevice (dev : ℕ)
  /-- `delete_device(bus, address)`. -/
  | unplugDevice (location : ℕ)
  | listen (cli : C)

/-- Where a call starts. The muxer may be called by a thread that is not in a call already; this
is the only restriction on who calls what, and when. -/
def Request.call : Request C → Call C
  | .addDevice dev => .lookup dev
  | .deleteDevice dev => .erase dev
  | .unplugDevice location => .unplug location
  | .listen cli => .listen cli

/-- A step on the muxer. `ok` is whether the loop of a device starts, where this is asked. -/
inductive Label (T C : Type)
  /-- A thread is called. -/
  | call (t : T) (r : Request C)
  /-- A thread that is in a call makes a step. -/
  | run (t : T) (ok : Bool)

/-- One step on the muxer. A thread that has returned can be called again. -/
def step : Label T C → Option (Muxer T C)
  | .call t r => if (m.thread t).isIdle then some (m.go t r.call) else none
  | .run t ok => m.threadStep E t ok

/-! ### Small facts -/

section

variable {S T C : Type} {E : MuxerEnv S C} {m : Muxer T C} {d dev : ℕ}

theorem mem_insertDevice : d ∈ m.insertDevice dev ↔ d = dev ∨ d ∈ m.devices := by
  unfold insertDevice
  split_ifs with h
  · exact ⟨Or.inr, fun hd => hd.elim (fun he => he ▸ h) fun hd => hd⟩
  · exact List.mem_orderedInsert ..

theorem mem_eraseDevice : d ∈ m.eraseDevice dev ↔ d ∈ m.devices ∧ d ≠ dev := by
  simp [eraseDevice]

theorem sendIfListening_eq [DecidableEq C] (m : Muxer T C) (cli : C) (msg : MuxMessage) :
    ∃ inbox, m.sendIfListening cli msg = { m with inbox := inbox } := by
  unfold sendIfListening
  split
  · exact ⟨_, rfl⟩
  · exact ⟨_, rfl⟩

@[simp] theorem go_thread_self [DecidableEq T] (m : Muxer T C) (t : T) (pc : Call C) :
    (m.go t pc).thread t = pc := by
  simp [go]

theorem go_thread_of_ne [DecidableEq T] (m : Muxer T C) {t t' : T} (pc : Call C) (h : t' ≠ t) :
    (m.go t pc).thread t' = m.thread t' := by
  simp [go, h]

end

end Muxer

/-- The muxer as a machine, with any number of threads in it. -/
def muxerMachine {S T C : Type} [DecidableEq S] [DecidableEq T] [Fintype T] [DecidableEq C]
    (E : MuxerEnv S C) : Machine (Muxer T C) (Muxer.Label T C) :=
  ⟨fun m l => m.step E l⟩

end Usbmuxd
