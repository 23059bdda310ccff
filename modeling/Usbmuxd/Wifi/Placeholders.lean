import Usbmuxd.Wifi.Discovered

/-!
# Placeholders and the devices that they stand for

A device that may be paired by hand has a placeholder, and once it is paired it has a wifi
device of its own. The two would have the same address, and only one of them is meant to be
attached: a placeholder is left out if there is a wifi device with its address, and a paired
device takes the place of the placeholder that has its address.

That no placeholder has an address in common with another wifi device
(`Usbmuxd.Discovered.Exclusive`) is said of pairs of devices, so that the order of the set
does not matter; and it is what makes it enough to delete the first placeholder with an
address, as no other device has the address then.

## What goes wrong

A paired device that is known already is not added. It is updated, and so it moves to another
address without a look at who has it (`Usbmuxd.Discovered.Clear`).
-/

namespace Usbmuxd

open Interleaving Keyed

namespace Discovered

/-! ### Placeholders -/

/-- The serial is one of those that placeholders have. It is by this that the code tells
placeholders from other devices. -/
def isPairingSerial (serial : List Char) : Bool := (wifipair ++ ['-']).isPrefixOf serial

/-- The device has the serial of a placeholder. A paired device would have to be called like one
to be taken for it. -/
def Device.isPlaceholder : Device → Bool
  | usb _ => false
  | wifi dev => isPairingSerial dev.serial

/-- The addresses of a wifi device; a USB device has none, and is apart from all others. -/
def Device.ips : Device → List (List Char)
  | usb _ => []
  | wifi dev => dev.ipaddr

/-- **Two devices have no address in common**, if one of them is a placeholder. -/
def Apart (dev dev' : Device) : Prop :=
  dev.isPlaceholder = true ∨ dev'.isPlaceholder = true → ∀ ip ∈ dev.ips, ip ∉ dev'.ips

instance (dev dev' : Device) : Decidable (Apart dev dev') :=
  inferInstanceAs (Decidable (dev.isPlaceholder = true ∨ dev'.isPlaceholder = true →
    ∀ ip ∈ dev.ips, ip ∉ dev'.ips))

/-- **No placeholder has an address in common with another wifi device.** Two paired devices may
have the same address. -/
def Exclusive (devices : List Device) : Prop := devices.Pairwise Apart

instance (devices : List Device) : Decidable (Exclusive devices) :=
  inferInstanceAs (Decidable (devices.Pairwise Apart))

/-- The devices that a paired device is put next to: if it is known, all but the one that is
updated, and otherwise those that are left when a placeholder with its address is deleted. -/
def others (devices : List Device) (uuid : List Char) (svc : Service) : List Device :=
  if (getWifiDeviceWithSerial devices uuid).isSome then devices.eraseP (·.hasSerial uuid)
  else deleteWifiPairingDeviceWithIp devices svc.addrs

/-- **The address of a paired device is clear**: if the device is known, no other device with
the address is a placeholder; and there is no other at all if the UDID is like the serial of a
placeholder. -/
def Clear (udidForMacaddr : List Char → Option (List Char)) (devices : List Device) :
    Event → Prop
  | .found svc _ => svc.isPairing = false → ∀ uuid ∈ udidForMacaddr svc.macAddr,
      ∀ dev ∈ others devices uuid svc, dev.hasIp svc.addrs = true →
        ((getWifiDeviceWithSerial devices uuid).isSome = true → dev.isPlaceholder = false) ∧
          isPairingSerial uuid = false
  | _ => True

instance (udidForMacaddr : List Char → Option (List Char)) (devices : List Device) :
    (e : Event) → Decidable (Clear udidForMacaddr devices e)
  | .found svc _ => inferInstanceAs (Decidable (svc.isPairing = false →
      ∀ uuid ∈ udidForMacaddr svc.macAddr, ∀ dev ∈ others devices uuid svc,
        dev.hasIp svc.addrs = true →
          ((getWifiDeviceWithSerial devices uuid).isSome = true → dev.isPlaceholder = false) ∧
            isPairingSerial uuid = false))
  | .remove _ _ => isTrue trivial
  | .plugged _ _ => isTrue trivial
  | .left _ => isTrue trivial

variable {udidForMacaddr : List Char → Option (List Char)} {devices devices' : List Device}
  {svc : Service} {uuid : List Char} {place : ℕ} {dev dev' : Device} {e : Event}

/-! ### Devices that are apart -/

theorem Apart.symm (h : Apart dev dev') : Apart dev' dev :=
  fun hor ip hip hip' => h hor.symm ip hip' hip

theorem apart_usb (serial : List Char) (dev : Device) : Apart (.usb serial) dev :=
  fun _ _ hip => absurd hip (by simp [Device.ips])

theorem Device.hasIp_iff (addrs : List (List Char)) (dev : Device) :
    dev.hasIp addrs = true ↔ ∃ ip ∈ addrs, ip ∈ dev.ips := by
  cases dev with
  | usb _ => simp [hasIp, ips]
  | wifi dev => simp [hasIp, ips]

/-- A wifi device with these addresses is apart from the devices that have none of them, and
from the others as long as neither is a placeholder. -/
theorem apart_wifi_iff {wdev : WifiDevice} : Apart (.wifi wdev) dev ↔
    (dev.hasIp wdev.ipaddr = true → dev.isPlaceholder = false ∧
      isPairingSerial wdev.serial = false) := by
  rw [Device.hasIp_iff, Apart]
  constructor
  · rintro h ⟨ip, hip, hip'⟩
    constructor
    · exact Bool.eq_false_iff.mpr fun hdev => h (Or.inr hdev) ip hip hip'
    · exact Bool.eq_false_iff.mpr fun hserial => h (Or.inl hserial) ip hip hip'
  · rintro h hor ip hip hip'
    obtain ⟨hdev, hserial⟩ := h ⟨ip, hip, hip'⟩
    rcases hor with hor | hor
    · exact absurd (hserial.symm.trans hor) (by simp)
    · exact absurd (hdev.symm.trans hor) (by simp)

theorem exclusive_perm {l l' : List Device} (h : l.Perm l') : Exclusive l ↔ Exclusive l' :=
  h.pairwise_iff Apart.symm

/-- **A device that is added** has to be apart from all others, wherever it comes to stand. -/
theorem exclusive_insert_iff : Exclusive (insertAt place dev devices) ↔
    (∀ dev' ∈ devices, Apart dev dev') ∧ Exclusive devices := by
  rw [exclusive_perm (insertAt_perm place dev devices)]
  exact List.pairwise_cons

/-! ### What an event does -/

/-- **A placeholder is added where there is no other device** with its address, which is tested
before. -/
theorem exclusive_add_placeholder (h : Exclusive devices)
    (hip : haveWifiDeviceWithIp devices svc.addrs = false) :
    Exclusive (insertAt place (.wifi (svc.device svc.pairingUuid)) devices) := by
  refine exclusive_insert_iff.mpr ⟨fun dev hdev => apart_wifi_iff.mpr fun hcon => ?_, h⟩
  exact absurd hcon (List.any_eq_false.mp hip dev hdev)

/-- The device with a serial that is found is a wifi device, and it has this serial. -/
theorem exists_of_getWifiDeviceWithSerial
    (h : (getWifiDeviceWithSerial devices uuid).isSome = true) : ∃ wdev : WifiDevice,
      getWifiDeviceWithSerial devices uuid = some (.wifi wdev) ∧ uuid = wdev.serial := by
  obtain ⟨dev, hdev⟩ := Option.isSome_iff_exists.mp h
  have hserial := dev.hasSerial_iff.mp (List.find?_some hdev)
  cases dev with
  | usb _ => cases hserial
  | wifi wdev => exact ⟨wdev, hdev, (Option.some.inj hserial).symm⟩

/-- **What a paired device does** when it is found: it is there, with its address, next to the
others. -/
theorem resolverFound_perm (devices : List Device) (place : ℕ) (hpairing : svc.isPairing = false)
    (huuid : udidForMacaddr svc.macAddr = some uuid) : ∃ wdev : WifiDevice,
      wdev.serial = uuid ∧ wdev.ipaddr = svc.addrs ∧
        (resolverFound devices udidForMacaddr svc place).Perm
          (.wifi wdev :: others devices uuid svc) := by
  rw [resolverFound, if_neg (by simp [hpairing]), huuid, others]
  by_cases hknown : (getWifiDeviceWithSerial devices uuid).isSome
  · obtain ⟨wdev, hget, hserial⟩ := exists_of_getWifiDeviceWithSerial hknown
    refine ⟨wdev.updateDiscoveryInfo svc, hserial.symm, rfl, ?_⟩
    simp only [if_pos hknown]
    refine replaceF_perm (fun dev => ?_) hget (if_pos hserial)
    -- the one that is updated is the one that was found
    cases dev with
    | usb _ => rfl
    | wifi wdev => by_cases h : uuid = wdev.serial <;> simp [Device.hasSerial, h]
  · simp only [if_neg hknown]
    exact ⟨svc.device uuid, rfl, rfl, insertAt_perm ..⟩

/-- A placeholder with one of these addresses is what is looked for when one is deleted. -/
theorem Device.isPairingWithIp_of_isPlaceholder {addrs : List (List Char)}
    (hplaceholder : dev.isPlaceholder = true) (hip : dev.hasIp addrs = true) :
    dev.isPairingWithIp addrs = true := by
  cases dev with
  | usb _ => cases hplaceholder
  | wifi wdev =>
    rw [isPlaceholder, isPairingSerial, List.isPrefixOf_iff_prefix] at hplaceholder
    have hpre : wifipair.isPrefixOf wdev.serial = true :=
      List.isPrefixOf_iff_prefix.mpr ((List.prefix_append ..).trans hplaceholder)
    simpa [isPairingWithIp, hasIp, hpre] using hip

/-- **The first placeholder with an address is the only one**, so that none is left when it is
deleted. -/
theorem isPlaceholder_eq_false_of_deleted (h : Exclusive devices)
    (hdev : dev ∈ deleteWifiPairingDeviceWithIp devices svc.addrs)
    (hip : dev.hasIp svc.addrs = true) : dev.isPlaceholder = false := by
  refine Bool.eq_false_iff.mpr fun hplaceholder => ?_
  have hfind := Device.isPairingWithIp_of_isPlaceholder hplaceholder hip
  obtain ⟨first, l₁, l₂, hl₁, hfirst, rfl, herase⟩ :=
    List.exists_of_eraseP (List.mem_of_mem_eraseP hdev) hfind
  rw [deleteWifiPairingDeviceWithIp, herase, List.mem_append] at hdev
  rcases hdev with hdev | hdev
  · exact hl₁ dev hdev hfind
  · -- it is behind the one that is deleted, which has the address as well
    have hapart := (List.pairwise_cons.mp (List.pairwise_append.mp h).2.1).1 dev hdev
    have hfirstIp : first.hasIp svc.addrs = true := by
      cases first with
      | usb _ => cases hfirst
      | wifi wdev =>
        simp only [Device.isPairingWithIp, List.any_eq_true, Bool.and_eq_true] at hfirst
        obtain ⟨ip, hmem, -, hhas⟩ := hfirst
        exact List.any_eq_true.mpr ⟨ip, hmem, hhas⟩
    obtain ⟨ip, hmem, hdevIp⟩ := (dev.hasIp_iff _).mp hip
    obtain ⟨ip', hmem', hfirstIp⟩ := (first.hasIp_iff _).mp hfirstIp
    rw [Service.addrs, List.mem_singleton] at hmem hmem'
    rw [hmem] at hdevIp
    rw [hmem'] at hfirstIp
    exact hapart (Or.inr hplaceholder) svc.addr hfirstIp hdevIp

theorem exclusive_others (h : Exclusive devices) : Exclusive (others devices uuid svc) := by
  rw [others]
  split
  · exact h.sublist List.eraseP_sublist
  · exact h.sublist List.eraseP_sublist

/-- A paired device is not put next to a placeholder with its address, if that is clear. -/
theorem isPlaceholder_eq_false_of_clear (h : Exclusive devices) (hpairing : svc.isPairing = false)
    (huuid : udidForMacaddr svc.macAddr = some uuid)
    (hclear : Clear udidForMacaddr devices (.found svc place))
    (hdev : dev ∈ others devices uuid svc) (hip : dev.hasIp svc.addrs = true) :
    dev.isPlaceholder = false := by
  by_cases hknown : (getWifiDeviceWithSerial devices uuid).isSome = true
  · exact (hclear hpairing uuid huuid dev hdev hip).1 hknown
  · rw [others, if_neg hknown] at hdev
    exact isPlaceholder_eq_false_of_deleted h hdev hip

/-- **What a service that is found does**: it keeps the placeholders by themselves exactly if
the address of a paired device is clear. -/
theorem exclusive_resolverFound_iff (h : Exclusive devices) :
    Exclusive (resolverFound devices udidForMacaddr svc place) ↔
      Clear udidForMacaddr devices (.found svc place) := by
  cases hpairing : svc.isPairing with
  | true =>
    refine iff_of_true ?_ fun hcon => absurd (hpairing.symm.trans hcon) (by simp)
    rw [resolverFound, if_pos hpairing]
    split
    · exact h
    · rename_i hip
      exact exclusive_add_placeholder h (Bool.eq_false_iff.mpr hip)
  | false =>
    cases huuid : udidForMacaddr svc.macAddr with
    | none =>
      rw [resolverFound, if_neg (by simp [hpairing]), huuid]
      exact iff_of_true h fun _ uuid hcon => absurd (huuid.symm.trans hcon) (by simp)
    | some uuid =>
      obtain ⟨wdev, hserial, hips, hperm⟩ :=
        resolverFound_perm devices place hpairing huuid
      rw [exclusive_perm hperm, Exclusive, List.pairwise_cons]
      constructor
      · rintro ⟨hapart, -⟩ - uuid' huuid' dev hdev hip
        obtain rfl : uuid = uuid' := Option.some.inj (huuid.symm.trans huuid')
        have hboth := apart_wifi_iff.mp (hapart dev hdev)
        rw [hserial, hips] at hboth
        exact ⟨fun _ => (hboth hip).1, (hboth hip).2⟩
      · intro hclear
        refine ⟨fun dev hdev => apart_wifi_iff.mpr fun hip => ?_, exclusive_others h⟩
        rw [hips] at hip
        rw [hserial]
        exact ⟨isPlaceholder_eq_false_of_clear h hpairing huuid hclear hdev hip,
          (hclear hpairing uuid huuid dev hdev hip).2⟩

/-- **The placeholders stay by themselves in an event exactly if it is clear.** -/
theorem exclusive_step_iff (h : Exclusive devices)
    (hs : step udidForMacaddr devices e = some devices') :
    Exclusive devices' ↔ Clear udidForMacaddr devices e := by
  cases e with
  | found svc place =>
    cases hs
    exact exclusive_resolverFound_iff h
  | remove name type =>
    cases hs
    refine iff_of_true ?_ trivial
    rw [browserRemove]
    split
    · exact h.sublist List.eraseP_sublist
    · exact h
  | plugged serial place =>
    cases hs
    exact iff_of_true (exclusive_insert_iff.mpr ⟨fun dev _ => apart_usb serial dev, h⟩) trivial
  | left place =>
    cases hs
    exact iff_of_true (h.sublist (List.eraseIdx_sublist ..)) trivial

/-- A placeholder with an address of the paired device that has been found can only be this
device itself. -/
theorem serial_eq_of_isPlaceholder (h : Exclusive devices) (hpairing : svc.isPairing = false)
    (huuid : udidForMacaddr svc.macAddr = some uuid)
    (hclear : Clear udidForMacaddr devices (.found svc place))
    (hdev : dev ∈ resolverFound devices udidForMacaddr svc place)
    (hplaceholder : dev.isPlaceholder = true) (hip : dev.hasIp svc.addrs = true) :
    dev.wifiSerial = some uuid := by
  obtain ⟨wdev, hserial, -, hperm⟩ :=
    resolverFound_perm devices place hpairing huuid
  rcases List.mem_cons.mp (hperm.mem_iff.mp hdev) with rfl | hdev
  · exact congrArg some hserial
  · have hnot := isPlaceholder_eq_false_of_clear h hpairing huuid hclear hdev hip
    exact absurd (hnot.symm.trans hplaceholder) (by simp)

/-- **Placeholders are by themselves** in every run in which the addresses of paired devices
are clear, and a paired device that is then found at a clear address is the only one there that
may have the serial of a placeholder. -/
theorem exclusive_of_reaches
    (h : (discoveredMachine udidForMacaddr).Reaches (Clear udidForMacaddr) [] devices) :
    Exclusive devices ∧ ∀ svc place uuid, svc.isPairing = false →
      udidForMacaddr svc.macAddr = some uuid →
        Clear udidForMacaddr devices (.found svc place) →
          ∀ dev ∈ resolverFound devices udidForMacaddr svc place, dev.isPlaceholder = true →
            dev.hasIp svc.addrs = true → dev.wifiSerial = some uuid := by
  have hexclusive : Exclusive devices := h.invariant List.Pairwise.nil
    fun _ _ _ hexcl hok hs => (exclusive_step_iff hexcl hs).mpr hok
  refine ⟨hexclusive, ?_⟩
  intro svc place uuid hpairing huuid hclear dev hdev hplaceholder hip
  exact serial_eq_of_isPlaceholder hexclusive hpairing huuid hclear hdev hplaceholder hip

/-! ### Runs -/

/-- A placeholder, the paired device that takes its place and moves, and a placeholder of
another device at the address that is free then. -/
theorem exclusive_of_reaches_moved : ∃ devices : List Device, devices.length = 2 ∧
    Exclusive devices := by
  obtain ⟨devices, hr, hp⟩ :=
    (discoveredMachine fun _ => some ['u']).exists_reaches_of_runOk (Clear fun _ => some ['u']) []
      [.found (manualService '4') 0, .found (pairedService '4') 0,
        .found (pairedService '6') 0, .found (manualService '4') 1]
      (fun devices => decide (devices.length = 2)) (by decide)
  exact ⟨devices, of_decide_eq_true hp, (exclusive_of_reaches hr).1⟩

/-- **A paired device moves to the address of a placeholder**, which stays: on this way nobody
looks for placeholders. -/
theorem placeholder_kept : ∃ devices : List Device,
    (discoveredMachine fun _ => some ['u']).Reachable [] devices ∧ ¬Exclusive devices := by
  obtain ⟨devices, hr, hp⟩ :=
    (discoveredMachine fun _ => some ['u']).exists_reaches_of_runOk (fun _ _ => True) []
      [.found (pairedService '4') 0, .found (manualService '6') 0, .found (pairedService '6') 0]
      (fun devices => decide ¬Exclusive devices) (by decide)
  exact ⟨devices, hr, of_decide_eq_true hp⟩

end Discovered

end Usbmuxd
