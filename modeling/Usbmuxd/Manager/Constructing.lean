import Mathlib.Data.Finset.Basic
import Mathlib.Data.List.Induction
import Usbmuxd.Library.Interleaving

/-!
# Devices under construction

When a device is plugged in, `device_add` makes a `USBDevice` and asks for its language IDs,
the callback of that asks for its serial number, and with the answer the receivers are started.
The muxer learns of the device when it has answered the version packet. A device that is
plugged in is found again whenever the manager registers for events, and `device_add` must not
make another `USBDevice` then: it looks for the bus and the address in the muxer, and in
`_constructing`, which holds what is between the request and the second callback.

Callbacks and `device_add` run in the same thread, so each is one step here. The muxer adds and
removes devices as it likes.

## What goes wrong

The muxer packs bus and address into 32 bits. In `_constructing` there are 16, and the bus is
shifted out of them (`Usbmuxd.Constructing.key_eq`): what is left is the address. A device
whose address is that of a device under construction on another bus is taken for it
(`Usbmuxd.Constructing.NoCollision`), and nobody tries again when that is finished.
-/

namespace Usbmuxd

open Interleaving

namespace Constructing

/-! ### Bus and address -/

/-- Where a device is plugged in: the number of its bus, and its address on this bus. -/
structure Location where
  /-- `_bus`. -/
  bus : BitVec 8
  /-- `_address`. -/
  address : BitVec 8
  deriving DecidableEq

namespace Location

variable (loc : Location)

/-- `(uint16_t)(bus<<16) | addr`. The cast is made before the address is put in, and takes off
all that has been shifted. -/
def key : BitVec 16 :=
  ((loc.bus.setWidth 32) <<< 16).setWidth 16 ||| loc.address.setWidth 16

/-- `USBDevice::usb_location`, by which the muxer looks for a device. Here the shift is made in
32 bits. -/
def usbLocation : BitVec 32 := (loc.bus.setWidth 32) <<< 16 ||| loc.address.setWidth 32

end Location

/-- What a construction waits for. The serial number can only be requested in a language that
the device has. -/
inductive Pending
  /-- `usb_get_langid_callback`. -/
  | langid
  /-- `usb_get_serial_callback`. -/
  | serial
  deriving DecidableEq

/-- A device between `add_constructing` and `del_constructing`. It is known to nobody but the
callbacks of its transfers. -/
structure Construction where
  /-- Its bus and address. -/
  location : Location
  /-- What it waits for. -/
  pending : Pending
  deriving DecidableEq

end Constructing

/-- The manager of the USB devices: its set of keys, and beside it, what the keys are meant to
say. -/
structure Constructing where
  /-- `_constructing`. -/
  constructing : Finset (BitVec 16)
  /-- The constructions in progress: at most one for each location. -/
  constructions : List Constructing.Construction
  /-- All the devices that have been made. -/
  made : List Constructing.Location
  /-- The USB devices in `_devices` of the muxer. -/
  attached : List Constructing.Location

namespace Constructing

section Functions

variable (s : Constructing) (loc : Location)

/-- Nothing is plugged in, and nothing is under construction. -/
def init : Constructing where
  constructing := ∅
  constructions := []
  made := []
  attached := []

/-- `Muxer::have_usb_device`, which looks for a device that is attached already. -/
def haveUsbDevice : Bool :=
  s.attached.any fun usbdev =>
    usbdev.usbLocation == ((loc.bus.setWidth 32) <<< 16 ||| loc.address.setWidth 32)

/-- `USBDeviceManager::is_constructing`. It goes by the key, and cannot tell which location has
put the key there. -/
def isConstructing : Bool := decide (loc.key ∈ s.constructing)

/-- `USBDeviceManager::add_constructing`, which does nothing if the key is there. -/
def addConstructing : Constructing :=
  { s with constructing := insert loc.key s.constructing }

/-- `USBDeviceManager::del_constructing`. If two devices have put the key there, it is gone
after the first of them. -/
def delConstructing : Constructing :=
  { s with constructing := s.constructing.erase loc.key }

/-- How `device_add` ends. That a device is found need not mean that this one has been. -/
inductive Outcome
  /-- It throws. -/
  | threw
  /-- `//device already found`. -/
  | found
  /-- The device is under construction. -/
  | started
  deriving DecidableEq

/-- `USBDeviceManager::device_add`; `ok` is whether all that is checked after the search is as
it should be, up to the request of the language IDs. -/
def deviceAdd (ok : Bool) : Outcome × Constructing :=
  if loc.address = 0 then (.threw, s)
  else if s.haveUsbDevice loc || s.isConstructing loc then (.found, s)
  else if ok then
    (.started, { s with
      constructions := ⟨loc, .langid⟩ :: s.constructions
      made := loc :: s.made }.addConstructing loc)
  else (.threw, s)

/-- The construction for a location is over, because the device has been attached or because
something has failed. -/
def finish : Constructing :=
  { s with constructions := s.constructions.filter (·.location ≠ loc) }.delConstructing loc

/-- What happens. A label says for which location it happens, as the callbacks know their
device. -/
inductive Label
  /-- `device_add` is called. -/
  | deviceAdd (loc : Location) (ok : Bool)
  /-- `usb_get_langid_callback`, which requests the serial number or fails. -/
  | langid (loc : Location) (ok : Bool)
  /-- `usb_get_serial_callback`, whatever comes of it. -/
  | serial (loc : Location)
  /-- `Muxer::add_device`, for a device that has been made. -/
  | attach (loc : Location)
  /-- A device is removed from the muxer. -/
  | detach (place : ℕ)

/-- One step. `device_add` can always be called, a callback only for a construction that waits
for it. -/
def step : Label → Option Constructing
  | .deviceAdd loc ok => some (s.deviceAdd loc ok).2
  | .langid loc ok =>
    if ⟨loc, .langid⟩ ∈ s.constructions then
      if ok then
        some { s with
          constructions := s.constructions.map fun c =>
            if c.location = loc then ⟨loc, .serial⟩ else c }
      else some (s.finish loc)
    else none
  | .serial loc => if ⟨loc, .serial⟩ ∈ s.constructions then some (s.finish loc) else none
  | .attach loc => if loc ∈ s.made then some { s with attached := loc :: s.attached } else none
  | .detach place => some { s with attached := s.attached.eraseIdx place }

/-- A construction for the location is in progress. This is what `_constructing` is asked for,
and what it should answer. -/
def InProgress : Prop := ∃ c ∈ s.constructions, c.location = loc

instance : Decidable (s.InProgress loc) :=
  inferInstanceAs (Decidable (∃ c ∈ s.constructions, c.location = loc))

/-- **A device is skipped for itself**: `device_add` takes it for found exactly if a device at
its location is attached or under construction. -/
def SkipsItself : Prop :=
  ∀ ok, (s.deviceAdd loc ok).1 = .found ↔ loc ∈ s.attached ∨ s.InProgress loc

/-- **No device with the same address is under construction on another bus**, unless the device
is attached anyway. -/
def NoCollision : Prop :=
  ∀ c ∈ s.constructions, c.location.address = loc.address → c.location = loc ∨ loc ∈ s.attached

/-! ### Any calls -/

/-- A call for `_constructing`, either to add a location or to delete one. -/
inductive Call
  /-- `add_constructing`. -/
  | add (loc : Location)
  /-- `del_constructing`. -/
  | del (loc : Location)

/-- What it is called for. Only the key of it is used. -/
def Call.location : Call → Location
  | add loc => loc
  | del loc => loc

/-- It is a call of `add_constructing`. -/
def Call.isAdd : Call → Bool
  | add _ => true
  | del _ => false

/-- A call, with what it makes of the set. The set after several calls is found by folding over
them. -/
def Call.run (s : Constructing) : Call → Constructing
  | add loc => s.addConstructing loc
  | del loc => s.delConstructing loc

/-- The last call of those about something is one of `add_constructing`. -/
def LastIsAdd (about : Location → Bool) (calls : List Call) : Prop :=
  ∃ call, (calls.filter fun call => about call.location).getLast? = some call ∧ call.isAdd = true

end Functions

end Constructing

/-- The manager of the USB devices, as a machine. -/
def constructingMachine : Machine Constructing Constructing.Label := ⟨Constructing.step⟩

namespace Constructing

variable {s s' : Constructing} {loc loc' : Location} {l : Label}

/-! ### Keys -/

/-- **The bus is shifted out** by 16 bits of a number that has 16, so that the key is the
address. -/
theorem Location.key_eq (loc : Location) : loc.key = loc.address.setWidth 16 := by
  have hbus : ((loc.bus.setWidth 32) <<< 16).setWidth 16 = 0#16 := by
    ext i hi
    simp
  rw [key, hbus, BitVec.zero_or]

/-- Two keys are equal if the addresses are, on whatever buses the devices may be. -/
theorem Location.key_inj : loc.key = loc'.key ↔ loc.address = loc'.address := by
  rw [key_eq, key_eq]
  refine ⟨fun h => ?_, fun h => by rw [h]⟩
  have hwidth := congrArg (BitVec.setWidth 8) h
  simpa using hwidth

/-- The address is in the lower bits, where the bus does not reach. -/
theorem Location.address_usbLocation (loc : Location) :
    loc.usbLocation.setWidth 8 = loc.address := by
  rw [usbLocation]
  ext i hi
  simp

/-- The bus is in the upper bits, where the address does not reach. -/
theorem Location.bus_usbLocation (loc : Location) :
    (loc.usbLocation >>> 16).setWidth 8 = loc.bus := by
  rw [usbLocation]
  ext i hi
  have hhigh : loc.address.getLsbD (16 + i) = false := BitVec.getLsbD_of_ge _ _ (by omega)
  have hbit : 16 + i < 32 := by omega
  have hlow : ¬16 + i < 16 := by omega
  simp [BitVec.getLsbD_eq_getElem hi, hhigh, hbit, hlow]

/-- **In the muxer nothing is lost.** The same expression, without the cast, tells all locations
apart. -/
theorem Location.usbLocation_inj : loc.usbLocation = loc'.usbLocation ↔ loc = loc' := by
  refine ⟨fun h => ?_, fun h => by rw [h]⟩
  have hbus := loc.bus_usbLocation
  have haddress := loc.address_usbLocation
  rw [h, bus_usbLocation] at hbus
  rw [h, address_usbLocation] at haddress
  cases loc
  cases loc'
  exact Location.mk.injEq .. |>.mpr ⟨hbus.symm, haddress.symm⟩

theorem haveUsbDevice_iff : s.haveUsbDevice loc = true ↔ loc ∈ s.attached := by
  rw [haveUsbDevice, List.any_eq_true]
  constructor
  · rintro ⟨usbdev, hmem, hloc⟩
    obtain rfl := Location.usbLocation_inj.mp (eq_of_beq hloc)
    exact hmem
  · exact fun hmem => ⟨loc, hmem, beq_self_eq_true _⟩

/-! ### What is in progress -/

/-- **What `_constructing` says**: the addresses of the constructions, of which no two have the
same. -/
structure Inv (s : Constructing) : Prop where
  /-- The keys are those of the constructions. -/
  mem_iff : ∀ k, k ∈ s.constructing ↔ ∃ c ∈ s.constructions, c.location.key = k
  /-- There is one construction for an address. -/
  single : ∀ c ∈ s.constructions, ∀ c' ∈ s.constructions,
    c.location.address = c'.location.address → c.location = c'.location
  /-- No device that is made has the address 0. -/
  address_ne : ∀ loc ∈ s.made, loc.address ≠ 0
  /-- Only devices that are made are attached. -/
  attached_made : ∀ loc ∈ s.attached, loc ∈ s.made
  /-- Only devices that are made are under construction. -/
  constructions_made : ∀ c ∈ s.constructions, c.location ∈ s.made

theorem inv_init : Inv init where
  mem_iff := by simp [init]
  single := nofun
  address_ne := nofun
  attached_made := nofun
  constructions_made := nofun

theorem Inv.isConstructing_iff (h : Inv s) : s.isConstructing loc = true ↔
    ∃ c ∈ s.constructions, c.location.address = loc.address := by
  rw [isConstructing, decide_eq_true_eq, h.mem_iff]
  simp only [Location.key_inj]

/-- A construction is begun. No other can have the same key at this moment, as `is_constructing`
would have found it. -/
theorem inv_started (h : Inv s) (haddress : loc.address ≠ 0) (hnot : s.isConstructing loc = false) :
    Inv ({ s with
      constructions := ⟨loc, .langid⟩ :: s.constructions
      made := loc :: s.made }.addConstructing loc) := by
  -- no construction has the address
  have hnone : ∀ c ∈ s.constructions, c.location.address ≠ loc.address := fun c hc hcon =>
    absurd (h.isConstructing_iff.mpr ⟨c, hc, hcon⟩) (by simp [hnot])
  refine ⟨fun k => ?_, ?_, ?_, ?_, ?_⟩
  · simp [addConstructing, h.mem_iff, eq_comm]
  · intro c hc c' hc' heq
    rcases List.mem_cons.mp hc with rfl | hc <;> rcases List.mem_cons.mp hc' with rfl | hc'
    · rfl
    · exact absurd heq.symm (hnone c' hc')
    · exact absurd heq (hnone c hc)
    · exact h.single c hc c' hc' heq
  · intro loc' hloc'
    rcases List.mem_cons.mp hloc' with rfl | hloc'
    · exact haddress
    · exact h.address_ne loc' hloc'
  · exact fun loc' hloc' => List.mem_cons_of_mem _ (h.attached_made loc' hloc')
  · intro c hc
    rcases List.mem_cons.mp hc with rfl | hc
    · exact List.mem_cons_self
    · exact List.mem_cons_of_mem _ (h.constructions_made c hc)

/-- **A construction is over**, and its key with it, since no other one has the same. -/
theorem inv_finish (h : Inv s) (hin : s.InProgress loc) : Inv (s.finish loc) := by
  obtain ⟨c₀, hc₀, hloc⟩ := hin
  have hmem : ∀ c, c ∈ (s.finish loc).constructions ↔
      c ∈ s.constructions ∧ c.location ≠ loc := by simp [finish, delConstructing]
  refine ⟨fun k => ?_, ?_, h.address_ne, h.attached_made, ?_⟩
  · have hkeys : k ∈ (s.finish loc).constructing ↔ k ≠ loc.key ∧ k ∈ s.constructing := by
      simp [finish, delConstructing]
    rw [hkeys, h.mem_iff]
    constructor
    · rintro ⟨hne, c, hc, rfl⟩
      refine ⟨c, (hmem c).mpr ⟨hc, ?_⟩, rfl⟩
      rintro rfl
      exact hne rfl
    · rintro ⟨c, hc, rfl⟩
      obtain ⟨hc, hne⟩ := (hmem c).mp hc
      refine ⟨fun hkey => hne ?_, c, hc, rfl⟩
      have haddress : c.location.address = c₀.location.address :=
        (Location.key_inj.mp hkey).trans (by rw [hloc])
      exact (h.single c hc c₀ hc₀ haddress).trans hloc
  · exact fun c hc c' hc' => h.single c ((hmem c).mp hc).1 c' ((hmem c').mp hc').1
  · exact fun c hc => h.constructions_made c ((hmem c).mp hc).1

/-- The callback for the language IDs requests the serial number. The construction goes on, and
keeps its key. -/
theorem inv_serial (h : Inv s) : Inv { s with
    constructions := s.constructions.map fun c =>
      if c.location = loc then ⟨loc, .serial⟩ else c } := by
  -- the locations are the same
  have hmem : ∀ c ∈ s.constructions.map fun c => if c.location = loc then ⟨loc, .serial⟩ else c,
      ∃ c₀ ∈ s.constructions, c₀.location = c.location := by
    intro c hc
    obtain ⟨c₀, hc₀, rfl⟩ := List.mem_map.mp hc
    refine ⟨c₀, hc₀, ?_⟩
    split
    · assumption
    · rfl
  refine ⟨fun k => ?_, fun c hc c' hc' heq => ?_, h.address_ne, h.attached_made, fun c hc => ?_⟩
  · rw [h.mem_iff]
    constructor
    · rintro ⟨c, hc, rfl⟩
      refine ⟨_, List.mem_map_of_mem hc, ?_⟩
      split
      · rename_i hloc
        rw [hloc]
      · rfl
    · rintro ⟨c, hc, rfl⟩
      obtain ⟨c₀, hc₀, hloc⟩ := hmem c hc
      exact ⟨c₀, hc₀, by rw [hloc]⟩
  · obtain ⟨c₀, hc₀, hloc⟩ := hmem c hc
    obtain ⟨c₀', hc₀', hloc'⟩ := hmem c' hc'
    rw [← hloc, ← hloc'] at heq ⊢
    exact h.single c₀ hc₀ c₀' hc₀' heq
  · obtain ⟨c₀, hc₀, hloc⟩ := hmem c hc
    rw [← hloc]
    exact h.constructions_made c₀ hc₀

theorem inv_deviceAdd (h : Inv s) (ok : Bool) : Inv (s.deviceAdd loc ok).2 := by
  rw [deviceAdd]
  split
  · exact h
  · rename_i haddress
    split
    · exact h
    · rename_i hfound
      split
      · refine inv_started h haddress ?_
        exact (Bool.or_eq_false_iff.mp (Bool.eq_false_iff.mpr hfound)).2
      · exact h

theorem inv_step (h : Inv s) (hs : s.step l = some s') : Inv s' := by
  cases l with
  | deviceAdd loc ok =>
    cases hs
    exact inv_deviceAdd h ok
  | langid loc ok =>
    obtain ⟨hin, hs⟩ := Option.ite_none_right_eq_some.mp hs
    split at hs
    · cases hs
      exact inv_serial h
    · cases hs
      exact inv_finish h ⟨_, hin, rfl⟩
  | serial loc =>
    obtain ⟨hin, hs⟩ := Option.ite_none_right_eq_some.mp hs
    cases hs
    exact inv_finish h ⟨_, hin, rfl⟩
  | attach loc =>
    obtain ⟨hmade, hs⟩ := Option.ite_none_right_eq_some.mp hs
    cases hs
    refine ⟨h.mem_iff, h.single, h.address_ne, fun loc' hloc' => ?_, h.constructions_made⟩
    rcases List.mem_cons.mp hloc' with rfl | hloc'
    · exact hmade
    · exact h.attached_made loc' hloc'
  | detach place =>
    cases hs
    exact ⟨h.mem_iff, h.single, h.address_ne,
      fun loc' hloc' => h.attached_made loc' (List.mem_of_mem_eraseIdx hloc'),
      h.constructions_made⟩

theorem inv_of_reachable (h : constructingMachine.Reachable init s) : Inv s :=
  h.invariant inv_init fun _ _ _ hinv _ hs => inv_step hinv hs

/-! ### What `device_add` takes for found -/

/-- **What `device_add` takes for found**: a device that is attached, or one with its address
that is under construction. -/
theorem deviceAdd_found_iff (h : Inv s) (ok : Bool) : (s.deviceAdd loc ok).1 = .found ↔
    loc ∈ s.attached ∨ ∃ c ∈ s.constructions, c.location.address = loc.address := by
  rw [← haveUsbDevice_iff, ← h.isConstructing_iff, ← Bool.or_eq_true, deviceAdd]
  split
  · rename_i hzero
    -- no device has the address
    refine iff_of_false nofun fun hcon => ?_
    rw [Bool.or_eq_true, haveUsbDevice_iff, h.isConstructing_iff] at hcon
    rcases hcon with hattached | ⟨c, hc, haddress⟩
    · exact h.address_ne loc (h.attached_made loc hattached) hzero
    · exact h.address_ne _ (h.constructions_made c hc) (haddress.trans hzero)
  · split
    · rename_i hfound
      exact iff_of_true rfl hfound
    · rename_i hnot
      refine iff_of_false ?_ hnot
      split <;> exact Outcome.noConfusion

/-- **A device is skipped for itself exactly if there is no collision.** -/
theorem skipsItself_iff_noCollision (h : Inv s) : s.SkipsItself loc ↔ s.NoCollision loc := by
  constructor
  · intro hskips c hc haddress
    have hfound := (deviceAdd_found_iff h true).mpr (Or.inr ⟨c, hc, haddress⟩)
    rcases (hskips true).mp hfound with hattached | ⟨c', hc', rfl⟩
    · exact Or.inr hattached
    · exact Or.inl (h.single c hc c' hc' haddress)
  · intro hno ok
    rw [deviceAdd_found_iff h]
    constructor
    · rintro (hattached | ⟨c, hc, haddress⟩)
      · exact Or.inl hattached
      · rcases hno c hc haddress with hloc | hattached
        · exact Or.inr ⟨c, hc, hloc⟩
        · exact Or.inl hattached
    · rintro (hattached | ⟨c, hc, rfl⟩)
      · exact Or.inl hattached
      · exact Or.inr ⟨c, hc, rfl⟩

/-! ### Any calls -/

/-- **What `is_constructing` says after any calls**: whether the last one for the address, on
whatever bus, was one of `add_constructing`. -/
theorem isConstructing_foldl_iff (calls : List Call) (loc : Location) :
    (calls.foldl Call.run init).isConstructing loc = true ↔
      LastIsAdd (fun loc' => decide (loc'.address = loc.address)) calls := by
  rw [isConstructing, decide_eq_true_eq]
  induction calls using List.reverseRecOn with
  | nil => simp [init, LastIsAdd]
  | append_singleton calls call ih =>
    rw [List.foldl_append, List.foldl_cons, List.foldl_nil, LastIsAdd, List.filter_append]
    by_cases habout : call.location.address = loc.address
    · have hlast : [call].filter (fun call => decide (call.location.address = loc.address)) =
          [call] := by simp [habout]
      rw [hlast, List.getLast?_concat]
      have hkey : loc.key = call.location.key := Location.key_inj.mpr habout.symm
      cases call with
      | add loc' => simp [Call.run, addConstructing, Call.isAdd, show loc.key = loc'.key from hkey]
      | del loc' => simp [Call.run, delConstructing, Call.isAdd, show loc.key = loc'.key from hkey]
    · have hlast : [call].filter (fun call => decide (call.location.address = loc.address)) =
          [] := by simp [habout]
      rw [hlast, List.append_nil]
      have hkey : loc.key ≠ call.location.key := fun hkey =>
        habout (Location.key_inj.mp hkey).symm
      refine Iff.trans ?_ ih
      cases call with
      | add loc' => simp [Call.run, addConstructing, show loc.key ≠ loc'.key from hkey]
      | del loc' => simp [Call.run, delConstructing, show loc.key ≠ loc'.key from hkey]

/-- **Only a device at the same location blocks a new one exactly if there is no collision**, in
every run; and after any calls for `_constructing`, `is_constructing` speaks of a location
exactly if the last calls for its address and for the location itself are of the same kind. -/
theorem blocked_by_itself_iff (h : constructingMachine.Reachable init s) (loc : Location)
    (calls : List Call) : (s.SkipsItself loc ↔ s.NoCollision loc) ∧
      (((calls.foldl Call.run init).isConstructing loc = true ↔
          LastIsAdd (fun loc' => decide (loc' = loc)) calls) ↔
        (LastIsAdd (fun loc' => decide (loc'.address = loc.address)) calls ↔
          LastIsAdd (fun loc' => decide (loc' = loc)) calls)) := by
  refine ⟨skipsItself_iff_noCollision (inv_of_reachable h), ?_⟩
  rw [isConstructing_foldl_iff]

/-! ### Runs -/

/-- Two devices under construction, of which one is attached then. The other is found in
`_constructing` all the same. -/
theorem blocked_by_itself_attached : ∃ s : Constructing,
    s.attached = [⟨1, 5⟩] ∧ s.SkipsItself ⟨1, 6⟩ := by
  obtain ⟨s, hr, hp⟩ := constructingMachine.exists_reaches_of_runOk (fun _ _ => True) init
    [.deviceAdd ⟨1, 5⟩ true, .deviceAdd ⟨1, 6⟩ true, .langid ⟨1, 5⟩ true, .serial ⟨1, 5⟩,
      .attach ⟨1, 5⟩]
    (fun s => decide (s.attached = [⟨1, 5⟩] ∧ s.constructions = [⟨⟨1, 6⟩, .langid⟩])) (by decide)
  obtain ⟨hattached, hconstructions⟩ := of_decide_eq_true hp
  refine ⟨s, hattached, (blocked_by_itself_iff hr ⟨1, 6⟩ []).1.mpr ?_⟩
  rw [NoCollision, hconstructions, hattached]
  decide

/-- **A device is blocked by one on another bus**, with the same address; and it is not under
construction any more when that one is not. -/
theorem blocked_by_another : ∃ s : Constructing,
    constructingMachine.Reachable init s ∧ ¬s.SkipsItself ⟨2, 5⟩ ∧
      ¬(([.add ⟨1, 5⟩, .add ⟨2, 5⟩, .del ⟨1, 5⟩].foldl Call.run init).isConstructing ⟨2, 5⟩ = true ↔
        LastIsAdd (fun loc => decide (loc = ⟨2, 5⟩)) [.add ⟨1, 5⟩, .add ⟨2, 5⟩, .del ⟨1, 5⟩]) := by
  obtain ⟨s, hr, hp⟩ := constructingMachine.exists_reaches_of_runOk (fun _ _ => True) init
    [.deviceAdd ⟨1, 5⟩ true]
    (fun s => decide ((s.deviceAdd ⟨2, 5⟩ true).1 = .found ∧ s.attached = [] ∧
      s.constructions = [⟨⟨1, 5⟩, .langid⟩])) (by decide)
  obtain ⟨hfound, hattached, hconstructions⟩ := of_decide_eq_true hp
  refine ⟨s, hr, fun hskips => ?_, fun hiff => ?_⟩
  · have hnot : ¬(⟨2, 5⟩ ∈ s.attached ∨ s.InProgress ⟨2, 5⟩) := by
      rw [hattached, InProgress, hconstructions]
      decide
    exact hnot ((hskips true).mp hfound)
  · exact absurd (hiff.mpr ⟨.add ⟨2, 5⟩, rfl, rfl⟩) (by decide)

end Constructing

end Usbmuxd
