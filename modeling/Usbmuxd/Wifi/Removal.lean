import Mathlib.Data.Finset.Basic
import Usbmuxd.Wifi.Discovered

/-!
# A pairing service that is gone

When a pairing service is resolved, the serial of its placeholder is cut out of the name and
the type of the service, up to the first dot. When the service is gone, the serial is made of
its name, and a wifi device with that serial is removed from `_devices`.

A dot in the name makes these two different. And of the wifi devices that have the serial,
`delete_wifi_device_with_serial` removes the one that comes first, whatever service it was
created for; `_devices` is in the order of addresses, so that may be any of them. The
placeholder of the service is removed, and nothing that belongs to another service, exactly
if there is no such choice to be made (`Usbmuxd.Discovered.removes_own_iff`).

The source does not keep the service that a device was created for, so it is put beside the
device here (`Usbmuxd.Discovered.Created`), together with the one thing that the removal relies
on: that a placeholder has the serial which was made for its service. Nothing else gets into
`_devices`: what `avahi_resolve_callback` inserts is created for the service it has found
(`Usbmuxd.Discovered.resolverFound_cases`), and what `avahi_browse_callback` leaves is what
was there without the device that is removed (`Usbmuxd.Discovered.map_remaining`).
-/

namespace Usbmuxd

namespace Discovered

/-! ### Devices and the services they were created for -/

/-- A wifi device and the service that it was created for. The code does not keep the second. -/
structure Created where
  /-- The service. -/
  service : Service
  /-- The device, as it is now. -/
  device : WifiDevice
  /-- A placeholder keeps the serial it was created with. -/
  serial_eq : service.isPairing = true → device.serial = service.pairingUuid

/-- A device in `_devices`, together with what is not in the code but in question: the service
for which it was created. -/
inductive Attached
  /-- A USB device. -/
  | usb (serial : List Char)
  /-- A wifi device. -/
  | wifi (created : Created)

/-- The `Device`, which is all that the muxer has. -/
def Attached.device : Attached → Device
  | usb serial => .usb serial
  | wifi created => .wifi created.device

/-- It was created for a service with this name, whatever its serial is. -/
def Attached.IsFor (name : List Char) : Attached → Prop
  | usb _ => False
  | wifi created => created.service.name = name

/-- It is the placeholder of the pairing service with this name. -/
def Attached.IsPlaceholder (name : List Char) : Attached → Prop
  | usb _ => False
  | wifi created => created.service.name = name ∧ created.service.type = manualPairing

/-- The serial that the removal of a pairing service looks for, made of the whole name. -/
def removedSerial (name : List Char) : List Char := wifipair ++ '-' :: name

/-- It is a wifi device with the serial that is looked for, and so it may be the one that is
removed. -/
def Attached.IsFound (name : List Char) (dev : Attached) : Prop :=
  dev.device.wifiSerial = some (removedSerial name)

section

variable {D : Type} (attached : D → Attached)

/-- What is left in `_devices` when the pairing service is gone. The first device that is found
goes, in the order of the set. -/
def remaining (order : List D) (name : List Char) : List D :=
  order.eraseP fun d => (attached d).device.hasSerial (removedSerial name)

/-- **The removal of a pairing service takes what is its own**, when `_devices` is in this
order. -/
structure RemovesOwnFrom (order : List D) (name : List Char) : Prop where
  /-- The serial is that of the placeholder, -/
  serial : ∀ d ∈ order, (attached d).IsPlaceholder name → (attached d).IsFound name
  /-- which is removed, -/
  own : ∀ d ∈ order, (attached d).IsPlaceholder name → d ∉ remaining attached order name
  /-- and what was created for a service with another name is not. -/
  others : ∀ d ∈ order, ¬(attached d).IsFor name → d ∈ remaining attached order name

/-- **The removal of a pairing service takes what is its own**, in whatever order `_devices`
is. -/
def RemovesOwn (devices : Finset D) (name : List Char) : Prop :=
  ∀ order : List D, order.Nodup → (∀ d, d ∈ order ↔ d ∈ devices) →
    RemovesOwnFrom attached order name

/-- **There is no choice**: a device with the serial that is looked for was created for a
service with that name; and if the placeholder is there, its name has no dot in it, and it is
the only device with the serial. -/
structure NoChoice (devices : Finset D) (name : List Char) : Prop where
  /-- Devices with the serial. -/
  others : ∀ d ∈ devices, (attached d).IsFound name → (attached d).IsFor name
  /-- The name. -/
  dotless : ∀ d ∈ devices, (attached d).IsPlaceholder name → '.' ∉ name
  /-- The placeholder. -/
  only : ∀ d ∈ devices, (attached d).IsPlaceholder name →
    ∀ d' ∈ devices, (attached d').IsFound name → d' = d

end

/-! ### The serial -/

variable {name u v : List Char} {svc : Service}

/-- What is in front of the first dot, which is the whole name only if it has no dot. -/
theorem takeWhile_ne_dot (h : '.' ∉ u) : (u ++ '.' :: v).takeWhile (· ≠ '.') = u := by
  rw [List.takeWhile_append_of_pos]
  · simp
  · intro c hc
    rw [decide_eq_true_eq]
    rintro rfl
    exact h hc

theorem not_mem_takeWhile_ne_dot (l : List Char) : '.' ∉ l.takeWhile (· ≠ '.') := by
  intro hmem
  have hdot := List.all_eq_true.mp (List.all_takeWhile ..) '.' hmem
  simp at hdot

/-- A service of the type is a pairing service. Its name may be anything. -/
theorem Service.isPairing_of_type (h : svc.type = manualPairing) : svc.isPairing = true := by
  rw [isPairing, decide_eq_true_eq, serviceName, h]
  exact ⟨svc.name ++ ['.'], [], by simp⟩

/-- **The two serials are the same** when the name has no dot in it. -/
theorem pairingUuid_eq_iff : svc.pairingUuid = removedSerial svc.name ↔ '.' ∉ svc.name := by
  rw [Service.pairingUuid, removedSerial, List.append_cancel_left_eq, List.cons.injEq,
    Service.serviceName]
  constructor
  · rintro ⟨-, heq⟩
    rw [← heq]
    exact not_mem_takeWhile_ne_dot _
  · exact fun h => ⟨rfl, takeWhile_ne_dot h⟩

/-- **The placeholder has the serial that is looked for** when the name has no dot in it. -/
theorem Attached.IsPlaceholder.isFound_iff {dev : Attached} (h : dev.IsPlaceholder name) :
    dev.IsFound name ↔ '.' ∉ name := by
  cases dev with
  | usb serial => exact h.elim
  | wifi created =>
    obtain ⟨rfl, htype⟩ := h
    have hserial := created.serial_eq (Service.isPairing_of_type htype)
    rw [IsFound, Attached.device, Device.wifiSerial, hserial, Option.some.injEq, pairingUuid_eq_iff]

/-- **What the resolver adds is created for the service** that it has found. -/
theorem resolverFound_cases (devices : List Device)
    (udidForMacaddr : List Char → Option (List Char)) (svc : Service) (place : ℕ) :
    resolverFound devices udidForMacaddr svc place = devices ∨
    (∃ uuid, resolverFound devices udidForMacaddr svc place = updateExisting devices uuid svc) ∨
    ∃ (created : Created) (devices' : List Device), created.service = svc ∧
      resolverFound devices udidForMacaddr svc place =
        Keyed.insertAt place (.wifi created.device) devices' := by
  unfold resolverFound
  split
  · split
    · exact Or.inl rfl
    · exact Or.inr (Or.inr ⟨⟨svc, svc.device svc.pairingUuid, fun _ => rfl⟩, devices, rfl, rfl⟩)
  · next hpairing =>
    split
    · exact Or.inl rfl
    · next uuid _ =>
      split
      · exact Or.inr (Or.inl ⟨uuid, rfl⟩)
      · exact Or.inr (Or.inr
          ⟨⟨svc, svc.device uuid, fun h => absurd h hpairing⟩, _, rfl, rfl⟩)

/-! ### What is removed -/

variable {D : Type} {attached : D → Attached} {devices : Finset D} {order : List D} {d : D}

/-- `remaining` is what `avahi_browse_callback` leaves. -/
theorem map_remaining (attached : D → Attached) (order : List D) (name : List Char) :
    (remaining attached order name).map (fun d => (attached d).device) =
      browserRemove (order.map fun d => (attached d).device) name manualPairing := by
  rw [browserRemove, if_pos (List.infix_refl _), deleteWifiDeviceWithSerial, List.eraseP_map]
  rfl

/-- A device that comes first and has the serial is the one that is removed. -/
theorem remaining_cons (h : (attached d).IsFound name) (rest : List D) :
    remaining attached (d :: rest) name = rest :=
  List.eraseP_cons_of_pos ((Device.hasSerial_iff _).mpr h)

/-- Any device may come first, as the order of the set depends on addresses. -/
theorem RemovesOwn.first (h : RemovesOwn attached devices name) (hd : d ∈ devices) :
    ∃ rest : List D, d ∉ rest ∧ (∀ d', d' ∈ d :: rest ↔ d' ∈ devices) ∧
      RemovesOwnFrom attached (d :: rest) name := by
  classical
  have hnot : d ∉ (devices.erase d).toList := by simp
  have hmem : ∀ d', d' ∈ d :: (devices.erase d).toList ↔ d' ∈ devices := by
    intro d'
    by_cases heq : d' = d
    · simp [heq, hd]
    · simp [heq]
  exact ⟨_, hnot, hmem, h _ (List.nodup_cons.mpr ⟨hnot, Finset.nodup_toList _⟩) hmem⟩

/-- **The removal of a pairing service takes what is its own** when there is no choice, and
only then. -/
theorem removes_own_iff (attached : D → Attached) (devices : Finset D) (name : List Char) :
    RemovesOwn attached devices name ↔ NoChoice attached devices name := by
  constructor
  · intro h
    constructor
    · intro d hd hfound
      obtain ⟨rest, hnot, hmem, hrest⟩ := h.first hd
      by_contra hother
      have hleft := hrest.others d List.mem_cons_self hother
      rw [remaining_cons hfound] at hleft
      exact hnot hleft
    · intro d hd hplaceholder
      obtain ⟨rest, -, -, hrest⟩ := h.first hd
      exact hplaceholder.isFound_iff.mp (hrest.serial d List.mem_cons_self hplaceholder)
    · intro d hd hplaceholder d' hd' hfound
      -- the other device comes first
      obtain ⟨rest, -, hmem, hrest⟩ := h.first hd'
      by_contra hne
      have hin := (hmem d).mpr hd
      have hgone := hrest.own d hin hplaceholder
      rw [remaining_cons hfound] at hgone
      exact hgone ((List.mem_cons.mp hin).resolve_left (Ne.symm hne))
  · intro h order hnodup hmem
    constructor
    · intro d hd hplaceholder
      exact hplaceholder.isFound_iff.mpr (h.dotless d ((hmem d).mp hd) hplaceholder)
    · intro d hd hplaceholder
      have hdev := (hmem d).mp hd
      have hfound := hplaceholder.isFound_iff.mpr (h.dotless d hdev hplaceholder)
      obtain ⟨d', before, after, -, hd', horder, hleft⟩ :=
        List.exists_of_eraseP (p := fun d => (attached d).device.hasSerial (removedSerial name)) hd
          ((Device.hasSerial_iff _).mpr hfound)
      have hmem' : d' ∈ order := by simp [horder]
      obtain rfl := h.only d hdev hplaceholder d' ((hmem d').mp hmem')
        ((Device.hasSerial_iff _).mp hd')
      rw [remaining, hleft]
      rw [horder] at hnodup
      exact (List.nodup_middle.mp hnodup).notMem
    · intro d hd hother
      refine (List.mem_eraseP_of_neg ?_).mpr hd
      rw [Device.hasSerial_iff]
      exact fun hfound => hother (h.others d ((hmem d).mp hd) hfound)

/-- The placeholder of a service with this name, as the resolver makes it. -/
def placeholder (name : List Char) : Created where
  service := ⟨name, manualPairing, 2, ['4']⟩
  device := (⟨name, manualPairing, 2, ['4']⟩ : Service).device
    (⟨name, manualPairing, 2, ['4']⟩ : Service).pairingUuid
  serial_eq := fun _ => rfl

/-- The only device is a placeholder, so that the order does not matter. -/
def onlyPlaceholder (name : List Char) (_ : Unit) : Attached := .wifi (placeholder name)

/-- **A placeholder is not removed**: the name of its service is `a.b`. And **the placeholder
of another service is**: the name of that is `a.c`, and the service that is gone is `a`. -/
theorem dotted_name :
    ¬RemovesOwn (onlyPlaceholder ['a', '.', 'b']) {()} ['a', '.', 'b'] ∧
    ¬RemovesOwn (onlyPlaceholder ['a', '.', 'c']) {()} ['a'] := by
  have horder : ∀ d : Unit, d ∈ [()] ↔ d ∈ ({()} : Finset Unit) := by simp
  constructor
  · intro h
    have hserial := (h [()] (List.nodup_singleton _) horder).serial () List.mem_cons_self ⟨rfl, rfl⟩
    exact absurd (Option.some.inj hserial) (by decide)
  · intro h
    have hother : ¬(onlyPlaceholder ['a', '.', 'c'] ()).IsFor ['a'] :=
      show ['a', '.', 'c'] ≠ ['a'] by decide
    have hfound : (onlyPlaceholder ['a', '.', 'c'] ()).IsFound ['a'] := rfl
    have hleft := (h [()] (List.nodup_singleton _) horder).others () List.mem_cons_self hother
    rw [remaining_cons hfound] at hleft
    exact absurd hleft List.not_mem_nil

end Discovered

end Usbmuxd
