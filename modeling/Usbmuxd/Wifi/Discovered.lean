import Mathlib.Data.List.Infix
import Usbmuxd.Library.Interleaving
import Usbmuxd.Library.Keyed

/-!
# The devices that avahi discovers

Avahi reports services of two types. A device that may be paired by hand offers the one
under the type `_remotepairing-manual-pairing._tcp`; what becomes of it is a placeholder,
whose serial is `WIFIPAIR-` with the name of the service. A device that is paired offers the
other, under a name that begins with its MAC address; its serial is the UDID that the pair
records have for that. A service is resolved once for each interface and protocol, with one
address each time, and it is the callbacks of the resolver and of the browser that add
devices to `_devices` and remove them.

This file has the two callbacks and the functions of the muxer that they use. `_devices` is a
set of pointers, which is iterated in the order of the addresses; so a new device may come to
stand anywhere. Devices of any kind also leave by themselves, and USB devices come.

`_serial` has room for 255 characters, and none of the serials is longer: the name of a
service has at most 63, and a UDID is the name of a file.

## What goes wrong

A paired device is looked for by its serial. A placeholder is not: it is left out only if
there is a device with its address. So a pairing service that is resolved with a second
address gets a second device with the same serial, of which its removal takes only one
(`Usbmuxd.Discovered.NewPairing`).
-/

namespace Usbmuxd

open Interleaving Keyed

namespace Discovered

/-! ### Services and devices -/

/-- `"WIFIPAIR"`, with which the serial of every placeholder begins. -/
def wifipair : List Char := ['W', 'I', 'F', 'I', 'P', 'A', 'I', 'R']

/-- `"_remotepairing-manual-pairing._tcp"`, by which a service is known to be one for pairing by
hand. It is looked for anywhere in the name and the type together. -/
def manualPairing : List Char :=
  ['_', 'r', 'e', 'm', 'o', 't', 'e', 'p', 'a', 'i', 'r', 'i', 'n', 'g', '-', 'm', 'a', 'n', 'u',
    'a', 'l', '-', 'p', 'a', 'i', 'r', 'i', 'n', 'g', '.', '_', 't', 'c', 'p']

/-- A `WIFIDevice`: how it was discovered, and the serial, which never changes. All the rest is
replaced when the device is found again. -/
structure WifiDevice where
  /-- `_serial`. -/
  serial : List Char
  /-- `_ipaddr`. -/
  ipaddr : List (List Char)
  /-- `_serviceName`. -/
  serviceName : List Char
  /-- `_interfaceIndex`. -/
  interfaceIndex : ℕ
  deriving DecidableEq

/-- A `Device` in `_devices`. Of a USB device only the serial matters here, since nothing that
avahi reports can remove it or change it. -/
inductive Device
  /-- `MUXCONN_USB`. -/
  | usb (serial : List Char)
  /-- `MUXCONN_WIFI`. -/
  | wifi (dev : WifiDevice)
  deriving DecidableEq

/-- The serial of a wifi device. USB devices may have the same serials and are not in the
way. -/
def Device.wifiSerial : Device → Option (List Char)
  | usb _ => none
  | wifi dev => some dev.serial

/-- A service as the resolver has found it. The same service is found once for each interface
and address. -/
structure Service where
  /-- `name`. -/
  name : List Char
  /-- `type`. -/
  type : List Char
  /-- `interface`. -/
  interface : ℕ
  /-- `addr`. -/
  addr : List Char

namespace Service

variable (svc : Service)

/-- `serviceName`: the name and the type, with a dot between them. The name may have dots of its
own, and then nothing tells where it ends. -/
def serviceName : List Char := svc.name ++ '.' :: svc.type

/-- `strstr(serviceName.c_str(), "_remotepairing-manual-pairing._tcp")`. The text may be
anywhere, also in the name. -/
def isPairing : Bool := decide (manualPairing <:+: svc.serviceName)

/-- The serial of a device that is being paired: the service name up to its first dot. Names
that agree so far give the same serial, however they go on. -/
def pairingUuid : List Char := wifipair ++ '-' :: svc.serviceName.takeWhile (· ≠ '.')

/-- `macAddr`: the name up to the first `@`, and the whole name if there is none, since `find`
then returns `npos`. -/
def macAddr : List Char := svc.name.takeWhile (· ≠ '@')

/-- `addrs`, which has the one address that the resolver has found. -/
def addrs : List (List Char) := [svc.addr]

/-- The device that is made for it, with the serial that has been found out. -/
def device (uuid : List Char) : WifiDevice where
  serial := uuid
  ipaddr := svc.addrs
  serviceName := svc.serviceName
  interfaceIndex := svc.interface

end Service

/-- `WIFIDevice::updateDiscoveryInfo`. All but the serial is replaced, also the addresses, of
which only the one that has been found is left. -/
def WifiDevice.updateDiscoveryInfo (dev : WifiDevice) (svc : Service) : WifiDevice :=
  { dev with
    ipaddr := svc.addrs
    serviceName := svc.serviceName
    interfaceIndex := svc.interface }

/-! ### The functions of the muxer -/

section Muxer

variable (devices : List Device)

/-- The device is a wifi device with this serial. Wherever a wifi device is looked for by its
serial, it is the first one in the order of addresses that is taken. -/
def Device.hasSerial (serial : List Char) : Device → Bool
  | usb _ => false
  | wifi dev => serial == dev.serial

/-- The device is a wifi device with one of these addresses. -/
def Device.hasIp (ipaddrs : List (List Char)) : Device → Bool
  | usb _ => false
  | wifi dev => ipaddrs.any fun nip => dev.ipaddr.contains nip

/-- The device is a placeholder with one of these addresses, going by the beginning of its
serial. -/
def Device.isPairingWithIp (ipaddrs : List (List Char)) : Device → Bool
  | usb _ => false
  | wifi dev => ipaddrs.any fun nip => wifipair.isPrefixOf dev.serial && dev.ipaddr.contains nip

/-- `get_wifi_device_with_serial`, which finds the first such device in the order of the set. -/
def getWifiDeviceWithSerial (serial : List Char) : Option Device :=
  devices.find? (·.hasSerial serial)

/-- `have_wifi_device_with_ip`. USB devices have no addresses. -/
def haveWifiDeviceWithIp (ipaddrs : List (List Char)) : Bool := devices.any (·.hasIp ipaddrs)

/-- `delete_wifi_device_with_serial`. It removes one device, even if there are several with this
serial. -/
def deleteWifiDeviceWithSerial (serial : List Char) : List Device :=
  devices.eraseP (·.hasSerial serial)

/-- `delete_wifi_pairing_device_with_ip`. When a device has been paired, this is what removes
the placeholder that stood for it before. -/
def deleteWifiPairingDeviceWithIp (ipaddrs : List (List Char)) : List Device :=
  devices.eraseP (·.isPairingWithIp ipaddrs)

/-- The device that `get_wifi_device_with_serial` finds is updated, in its place, and stays the
same object. -/
def updateExisting (uuid : List Char) (svc : Service) : List Device :=
  devices.replaceF fun
    | .usb _ => none
    | .wifi dev => if uuid = dev.serial then some (.wifi (dev.updateDiscoveryInfo svc)) else none

/-! ### The callbacks -/

/-- `avahi_resolve_callback`, for `AVAHI_RESOLVER_FOUND`. A device that is added comes to
stand at this `place`. -/
def resolverFound (udidForMacaddr : List Char → Option (List Char)) (svc : Service) (place : ℕ) :
    List Device :=
  if svc.isPairing then
    if haveWifiDeviceWithIp devices svc.addrs then devices
    else insertAt place (.wifi (svc.device svc.pairingUuid)) devices
  else
    match udidForMacaddr svc.macAddr with
    | none => devices
    | some uuid =>
      if (getWifiDeviceWithSerial devices uuid).isSome then updateExisting devices uuid svc
      else insertAt place (.wifi (svc.device uuid))
        (deleteWifiPairingDeviceWithIp devices svc.addrs)

/-- `avahi_browse_callback`, for `AVAHI_BROWSER_REMOVE`. Only placeholders are removed when
their service is gone; a paired device stays until its session ends. The serial is made of the
whole name here, and not of what comes before the first dot. -/
def browserRemove (name type : List Char) : List Device :=
  if manualPairing <:+: type then deleteWifiDeviceWithSerial devices (wifipair ++ '-' :: name)
  else devices

end Muxer

/-- What happens to `_devices`. The events come one after the other, as they do in the thread of
avahi and under the guard of the muxer; devices that leave by themselves may do so between any
two of them. -/
inductive Event
  /-- A service is resolved. -/
  | found (svc : Service) (place : ℕ)
  /-- A service is gone. -/
  | remove (name type : List Char)
  /-- A USB device is added. -/
  | plugged (serial : List Char) (place : ℕ)
  /-- The device at this place leaves by itself. -/
  | left (place : ℕ)

/-- One event. -/
def step (udidForMacaddr : List Char → Option (List Char)) (devices : List Device) :
    Event → Option (List Device)
  | .found svc place => some (resolverFound devices udidForMacaddr svc place)
  | .remove name type => some (browserRemove devices name type)
  | .plugged serial place => some (insertAt place (.usb serial) devices)
  | .left place => some (devices.eraseIdx place)

/-- **A placeholder has a new serial**, when it is added. The source tests whether there is a
device with its address, and the test that is missing is the one for its serial. -/
def NewPairing (devices : List Device) : Event → Prop
  | .found svc _ => svc.isPairing = true → haveWifiDeviceWithIp devices svc.addrs = false →
      getWifiDeviceWithSerial devices svc.pairingUuid = none
  | _ => True

instance (devices : List Device) : (e : Event) → Decidable (NewPairing devices e)
  | .found svc _ => inferInstanceAs (Decidable (svc.isPairing = true →
      haveWifiDeviceWithIp devices svc.addrs = false →
        getWifiDeviceWithSerial devices svc.pairingUuid = none))
  | .remove _ _ => isTrue trivial
  | .plugged _ _ => isTrue trivial
  | .left _ => isTrue trivial

/-- **One wifi device per serial**, so that it is the only one that is found and deleted. The
second field says what the first one is good for. -/
structure OnePerSerial (devices : List Device) : Prop where
  /-- No serial occurs twice. -/
  single : Single Device.wifiSerial devices
  /-- The device with a serial that is found is the only one. -/
  found : ∀ serial dev, getWifiDeviceWithSerial devices serial = some dev →
    ∀ dev' ∈ devices, dev'.wifiSerial = some serial → dev' = dev
  /-- When the device with a serial is deleted, there is none left. -/
  deleted : ∀ serial, ∀ dev ∈ deleteWifiDeviceWithSerial devices serial,
    dev.wifiSerial ≠ some serial

end Discovered

/-- The set of devices, with pair records that have these UDIDs for MAC addresses. -/
def discoveredMachine (udidForMacaddr : List Char → Option (List Char)) :
    Machine (List Discovered.Device) Discovered.Event :=
  ⟨Discovered.step udidForMacaddr⟩

namespace Discovered

variable {udidForMacaddr : List Char → Option (List Char)} {devices devices' : List Device}
  {svc : Service} {serial : List Char} {place : ℕ} {e : Event}

/-! ### What an event does to the serials -/

theorem Device.hasSerial_iff (dev : Device) :
    dev.hasSerial serial = true ↔ dev.wifiSerial = some serial := by
  cases dev with
  | usb _ => simp [hasSerial, wifiSerial]
  | wifi dev =>
    rw [hasSerial, wifiSerial, beq_iff_eq, Option.some.injEq]
    exact eq_comm

theorem getWifiDeviceWithSerial_eq_none_iff : getWifiDeviceWithSerial devices serial = none ↔
    ∀ dev ∈ devices, dev.wifiSerial ≠ some serial := by
  simp [getWifiDeviceWithSerial, ← Device.hasSerial_iff]

/-- **A wifi device that is added** has to have a new serial, and no more is needed. -/
theorem single_insert_wifi_iff {dev : WifiDevice} :
    Single Device.wifiSerial (insertAt place (.wifi dev) devices) ↔
      Single Device.wifiSerial devices ∧ getWifiDeviceWithSerial devices dev.serial = none := by
  rw [single_insert_iff, getWifiDeviceWithSerial_eq_none_iff]
  simp [Device.wifiSerial]

/-- A device that is updated keeps its serial, and so do the others. -/
theorem single_updateExisting (h : Single Device.wifiSerial devices) (uuid : List Char) :
    Single Device.wifiSerial (updateExisting devices uuid svc) := by
  refine h.replaceF fun dev dev' hdev => ?_
  cases dev with
  | usb _ => cases hdev
  | wifi dev =>
    obtain ⟨-, hdev⟩ := Option.ite_none_right_eq_some.mp hdev
    cases hdev
    rfl

/-- **A paired device is added with a new serial**: it has been looked for by that, and what has
been removed in between is a placeholder. -/
theorem single_add_paired (h : Single Device.wifiSerial devices) {uuid : List Char}
    (hnone : getWifiDeviceWithSerial devices uuid = none) :
    Single Device.wifiSerial (insertAt place (.wifi (svc.device uuid))
      (deleteWifiPairingDeviceWithIp devices svc.addrs)) := by
  refine single_insert_wifi_iff.mpr ⟨h.sublist List.eraseP_sublist, ?_⟩
  rw [getWifiDeviceWithSerial_eq_none_iff] at hnone ⊢
  exact fun dev hdev => hnone dev (List.mem_of_mem_eraseP hdev)

/-- **What a service that is found does**: it keeps the serials apart, unless it is a
placeholder with an old serial. -/
theorem single_resolverFound_iff (h : Single Device.wifiSerial devices) :
    Single Device.wifiSerial (resolverFound devices udidForMacaddr svc place) ↔
      NewPairing devices (.found svc place) := by
  rw [resolverFound, NewPairing]
  split
  · rename_i hpairing
    split
    · rename_i hhave
      exact iff_of_true h fun _ hnot => absurd (hhave.symm.trans hnot) (by simp)
    · rename_i hhave
      rw [single_insert_wifi_iff]
      exact ⟨fun hnew _ _ => hnew.2,
        fun hnew => ⟨h, hnew hpairing (Bool.eq_false_iff.mpr hhave)⟩⟩
  · rename_i hpairing
    refine iff_of_true ?_ fun hcon => absurd hcon hpairing
    split
    · exact h
    · rename_i uuid _
      split
      · exact single_updateExisting h uuid
      · rename_i hnone
        exact single_add_paired h (by simpa using hnone)

/-- **The serials stay apart in an event exactly if a placeholder has a new one.** -/
theorem single_step_iff (h : Single Device.wifiSerial devices)
    (hs : step udidForMacaddr devices e = some devices') :
    Single Device.wifiSerial devices' ↔ NewPairing devices e := by
  cases e with
  | found svc place =>
    cases hs
    exact single_resolverFound_iff h
  | remove name type =>
    cases hs
    refine iff_of_true ?_ trivial
    rw [browserRemove]
    split
    · exact h.sublist List.eraseP_sublist
    · exact h
  | plugged serial place =>
    cases hs
    refine iff_of_true (single_insert_iff.mpr ⟨h, ?_⟩) trivial
    simp [Device.wifiSerial]
  | left place =>
    cases hs
    exact iff_of_true (h.sublist (List.eraseIdx_sublist ..)) trivial

theorem onePerSerial_of_single (h : Single Device.wifiSerial devices) : OnePerSerial devices where
  single := h
  found := fun _ _ hfound _ hdev hserial =>
    h.eq_of_find? (fun c => c.hasSerial_iff) hfound hdev hserial
  deleted := fun _ _ hdev => h.ne_of_mem_eraseP (fun c => c.hasSerial_iff) hdev

/-- **There is one wifi device per serial** in every run in which the placeholders have new
serials. It does not matter where in `_devices` a new device comes to stand. -/
theorem onePerSerial_of_reaches
    (h : (discoveredMachine udidForMacaddr).Reaches NewPairing [] devices) :
    OnePerSerial devices :=
  onePerSerial_of_single (h.invariant single_nil fun _ _ _ hsingle hok hs =>
    (single_step_iff hsingle hs).mpr hok)

/-! ### Runs -/

/-- A device that may be paired by hand, at this address. All of these have the same name. -/
def manualService (addr : Char) : Service := ⟨['a'], manualPairing, 2, [addr]⟩

/-- A paired device with the MAC address `m`, at this address. Its type is none of those that
are treated in a special way. -/
def pairedService (addr : Char) : Service := ⟨['m', '@', 'h'], ['_', 't'], 2, [addr]⟩

/-- A placeholder that is found again and becomes a paired device, which moves. -/
theorem onePerSerial_of_reaches_paired : ∃ devices : List Device, devices.length = 2 ∧
    OnePerSerial devices := by
  obtain ⟨devices, hr, hp⟩ :=
    (discoveredMachine fun _ => some ['u']).exists_reaches_of_runOk NewPairing []
      [.found (manualService '4') 0, .found (manualService '4') 0, .plugged ['u'] 0,
        .found (pairedService '4') 1, .found (pairedService '6') 0]
      (fun devices => decide (devices.length = 2)) (by decide)
  exact ⟨devices, of_decide_eq_true hp, onePerSerial_of_reaches hr⟩

/-- **Two devices with one serial**: a service of a device that may be paired by hand, which
is resolved with two addresses. -/
theorem placeholder_twice : ∃ devices : List Device,
    (discoveredMachine fun _ => none).Reachable [] devices ∧ ¬OnePerSerial devices := by
  obtain ⟨devices, hr, hp⟩ :=
    (discoveredMachine fun _ => none).exists_reaches_of_runOk (fun _ _ => True) []
      [.found (manualService '4') 0, .found (manualService '6') 0]
      (fun devices => decide (¬Single Device.wifiSerial devices)) (by decide)
  exact ⟨devices, hr, fun hone => of_decide_eq_true hp hone.single⟩

end Discovered

end Usbmuxd
