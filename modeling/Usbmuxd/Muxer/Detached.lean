import Usbmuxd.Muxer.Roster

/-!
# One `Detached` for each removal

Whenever a device leaves `_devices`, the clients that are listening should be sent one
`Detached` with its ID, and otherwise none (`Usbmuxd.Roster.Told`). The functions that remove a
device do not agree on when they send it. `delete_device(dev)` always does, so that removing a
device for the second time is announced again; the others take `INVALID_ID` for no device, and
`INVALID_ID` is an ID that `add_device` may assign.

Whether a call does either of these can be seen before it is made
(`Usbmuxd.Roster.NotifiesOnce`). A call keeps the clients told if it does neither, and only
then (`Usbmuxd.Roster.told_step_iff`); so they stay told in every run of such calls
(`Usbmuxd.detached_once`).

The messages are compared with the departures, and not with the devices that are there. A client
that has listened from the beginning could also compare its view with `_devices`, but that would
not notice a message that is sent twice. The departures are noted in the model when a device is
erased, for each client that listens at this moment, so that the question is whether two lists
are equal. Calls do not overlap here, and what goes wrong can be seen in a single call already.
-/

namespace Usbmuxd

open Interleaving Muxer

namespace Roster

/-- The IDs in the `Detached` messages, in the order in which they have been sent. -/
def detachedIds (msgs : List MuxMessage) : List ℕ :=
  msgs.filterMap fun
    | .detached deviceID => some deviceID
    | .attached _ => none

@[simp] theorem detachedIds_append (msgs msgs' : List MuxMessage) :
    detachedIds (msgs ++ msgs') = detachedIds msgs ++ detachedIds msgs' :=
  List.filterMap_append ..

@[simp] theorem detachedIds_detached (deviceID : ℕ) :
    detachedIds [.detached deviceID] = [deviceID] := rfl

theorem detachedIds_attached {α : Type} (l : List α) (id : α → ℕ) :
    detachedIds (l.map fun d => .attached (id d)) = [] := by
  rw [detachedIds, List.filterMap_map]
  exact List.filterMap_eq_nil_iff.mpr fun _ _ => rfl

variable {S A C : Type} [DecidableEq C] {E : RosterEnv S A C} {r r' : Roster C} {dev : ℕ} {cli : C}

/-- **The listening clients have been told** of each device that has left, once and in order,
and of nothing else. -/
def Told (E : RosterEnv S A C) (r : Roster C) : Prop :=
  ∀ cli ∈ E.clients, detachedIds (r.inbox cli) = r.departed cli

/-- Somebody is listening. If nobody is, nobody has to be told. -/
def Listened (E : RosterEnv S A C) (r : Roster C) : Prop :=
  ∃ cli ∈ E.clients, r.isListening cli = true

/-! ### What a call tells a client -/

theorem detachedIds_notifyDeviceRemove (r : Roster C) (deviceID : ℕ) (hcli : cli ∈ E.clients) :
    detachedIds ((r.notifyDeviceRemove E deviceID).inbox cli) =
      detachedIds (r.inbox cli) ++ if r.isListening cli = true then [deviceID] else [] := by
  rw [notifyDeviceRemove, notify_eq]
  by_cases hlisten : r.isListening cli = true <;> simp [hcli, hlisten, detachedIds]

theorem departed_notify (r : Roster C) (msg : MuxMessage) :
    (r.notify E msg).departed = r.departed := rfl

theorem Told.notifyDeviceAdd (h : r.Told E) (dev : ℕ) : (r.notifyDeviceAdd E dev).Told E := by
  intro cli hcli
  rw [Roster.notifyDeviceAdd, notify_eq]
  simp only [detachedIds_append, h cli hcli]
  split <;> simp [detachedIds]

/-- **A device is erased, and the clients are told so.** This is right if it was there, and
wrong if it was not. -/
theorem told_retract_iff (h : r.Told E) :
    ((r.erase dev).notifyDeviceRemove E (r.id dev)).Told E ↔
      (r.Listened E → dev ∈ r.devices) := by
  have hall : (r.Listened E → dev ∈ r.devices) ↔
      ∀ cli ∈ E.clients, r.isListening cli = true → dev ∈ r.devices := by
    simp only [Listened, forall_exists_index, and_imp]
  rw [hall]
  refine forall₂_congr fun cli hcli => ?_
  rw [detachedIds_notifyDeviceRemove _ _ hcli, notifyDeviceRemove, departed_notify]
  simp only [erase, h cli hcli, List.append_cancel_left_eq]
  by_cases hlisten : r.isListening cli = true <;> by_cases hdev : dev ∈ r.devices <;>
    simp [hlisten, hdev]

omit [DecidableEq C] in
/-- **A device is erased, and the clients are not told.** This is right only if nobody
listens. -/
theorem told_erase_iff (h : r.Told E) (hdev : dev ∈ r.devices) :
    (r.erase dev).Told E ↔ ¬r.Listened E := by
  have hall : ¬r.Listened E ↔ ∀ cli ∈ E.clients, r.isListening cli = false := by
    simp [Listened]
  rw [hall]
  refine forall₂_congr fun cli hcli => ?_
  simp only [erase, h cli hcli]
  by_cases hlisten : r.isListening cli = true <;> simp [hlisten, hdev]

/-- The functions that look for a device first, and tell the clients unless its ID is
`INVALID_ID`. They are right as long as they find no device with this ID while somebody
listens. -/
theorem told_deleteFound_iff (h : r.Told E) {found : Option ℕ}
    (hfound : ∀ dev ∈ found, dev ∈ r.devices) :
    (r.deleteFound E found).Told E ↔
      ∀ dev ∈ found, r.Listened E → r.id dev ≠ invalidId := by
  cases found with
  | none => simpa [deleteFound] using h
  | some dev =>
    have hdev := hfound dev rfl
    unfold deleteFound
    dsimp only
    split
    · next hid => simp [told_retract_iff h, hdev, hid]
    · next hid => simp [told_erase_iff h hdev, not_not.mp hid]

theorem Told.listen (h : r.Told E) (cli : C) : (r.listen cli).Told E := by
  intro cli' hcli'
  rw [listen_eq]
  by_cases heq : cli' = cli
  · subst heq
    simp [detachedIds_attached, h cli' hcli']
  · simp [heq, h cli' hcli']

/-! ### Every run -/

variable [DecidableEq S] [DecidableEq A]

omit [DecidableEq A] in
/-- **`add_device`** tells the clients when it removes the device again, so that it never leaves
them with a device that has gone. -/
theorem Told.addDevice (h : r.Told E) {notify ok : Bool}
    (hs : r.addDevice E dev notify ok = some r') : r'.Told E := by
  obtain ⟨r₁, hassign, rfl⟩ := Option.map_eq_some_iff.mp hs
  have hinsert : (r₁.insert dev).Told E := by
    unfold assignId at hassign
    dsimp only at hassign
    split at hassign
    · obtain ⟨newid, -, rfl⟩ := Option.map_eq_some_iff.mp hassign
      exact h
    · cases hassign
      exact h
  have hdev : dev ∈ (r₁.insert dev).devices := mem_insertDevice.mpr (Or.inl rfl)
  dsimp only
  split
  · split
    · exact hinsert
    · exact (told_retract_iff hinsert).mpr fun _ => hdev
  · split
    · exact hinsert.notifyDeviceAdd dev
    · exact hinsert

/-- What is asked of a call that removes a device while somebody is listening:
`delete_device(dev)` is called for a device that is attached, and what the other functions find
does not have the ID `INVALID_ID`. -/
def NotifiesOnce (E : RosterEnv S A C) (r : Roster C) : Label S A C → Prop
  | .deleteDevice dev => r.Listened E → dev ∈ r.devices
  | .deleteDeviceAt location =>
      ∀ dev ∈ r.deviceAt E.toMuxerEnv location, r.Listened E → r.id dev ≠ invalidId
  | .deleteWifiDeviceWithSerial serial =>
      ∀ dev ∈ r.wifiDeviceWithSerial E serial, r.Listened E → r.id dev ≠ invalidId
  | .deleteWifiPairingDeviceWithIp ipaddrs =>
      ∀ dev ∈ r.wifiPairingDeviceWithIp E ipaddrs, r.Listened E → r.id dev ≠ invalidId
  | .addDevice _ _ _ | .listen _ => True

instance (r : Roster C) : Decidable (r.Listened E) := by
  unfold Listened
  infer_instance

instance (r : Roster C) : ∀ l : Label S A C, Decidable (NotifiesOnce E r l)
  | .deleteDevice dev => inferInstanceAs (Decidable (r.Listened E → dev ∈ r.devices))
  | .deleteDeviceAt location => inferInstanceAs (Decidable
      (∀ dev ∈ r.deviceAt E.toMuxerEnv location, r.Listened E → r.id dev ≠ invalidId))
  | .deleteWifiDeviceWithSerial serial => inferInstanceAs (Decidable
      (∀ dev ∈ r.wifiDeviceWithSerial E serial, r.Listened E → r.id dev ≠ invalidId))
  | .deleteWifiPairingDeviceWithIp ipaddrs => inferInstanceAs (Decidable
      (∀ dev ∈ r.wifiPairingDeviceWithIp E ipaddrs, r.Listened E → r.id dev ≠ invalidId))
  | .addDevice _ _ _ | .listen _ => inferInstanceAs (Decidable True)

/-- **A call keeps the clients told** when it does as is asked, and only then. -/
theorem told_step_iff (h : r.Told E) {l : Label S A C} (hs : r.step E l = some r') :
    r'.Told E ↔ NotifiesOnce E r l := by
  cases l with
  | addDevice dev notify ok => exact iff_of_true (h.addDevice hs) trivial
  | deleteDevice dev =>
    cases hs
    exact told_retract_iff h
  | deleteDeviceAt location =>
    cases hs
    exact told_deleteFound_iff h fun _ hfind => List.mem_of_find?_eq_some hfind
  | deleteWifiDeviceWithSerial serial =>
    cases hs
    exact told_deleteFound_iff h fun _ hfind => List.mem_of_find?_eq_some hfind
  | deleteWifiPairingDeviceWithIp ipaddrs =>
    cases hs
    exact told_deleteFound_iff h fun _ hfind => List.mem_of_find?_eq_some hfind
  | listen cli =>
    cases hs
    exact iff_of_true (h.listen cli) trivial

/-- `INVALID_ID` is the ID of a USB device. -/
example : fixupId (536870912 <<< 1) .muxconnUsb = invalidId := by decide

end Roster

open Roster

variable {S A C : Type} [DecidableEq S] [DecidableEq A] [DecidableEq C]

/-- **One `Detached` for each removal**, in every sequential run whose calls do as is asked. -/
theorem detached_once {E : RosterEnv S A C} {r : Roster C}
    (h : (rosterMachine E).Reaches (NotifiesOnce E) init r) : r.Told E :=
  h.invariant (I := Told E) (fun _ _ => rfl) fun _ _ _ hi hok hs => (told_step_iff hi hs).mpr hok

/-- A client listens, and a device comes and goes. The client is told of both. -/
theorem detached_once_pairs :
    ∃ r : Roster Unit, (r.devices = [] ∧ r.departed () = [2]) ∧ r.Told pairs := by
  obtain ⟨r, hr, hp⟩ := (rosterMachine pairs).exists_reaches_of_runOk (NotifiesOnce pairs) init
    [.listen (), .addDevice 0 true true, .deleteDeviceAt 0, .deleteDeviceAt 0]
    (fun r => r.devices = [] ∧ r.departed () = [2]) (by decide)
  exact ⟨r, of_decide_eq_true hp, detached_once hr⟩

/-- **Two `Detached` for one removal**: a device that is unplugged is removed once more when it
is taken down. -/
theorem detached_twice :
    ∃ r : Roster Unit, (rosterMachine pairs).Reachable init r ∧ ¬r.Told pairs := by
  obtain ⟨r, hr, hp⟩ := (rosterMachine pairs).exists_reaches_of_runOk (fun _ _ => True) init
    [.listen (), .addDevice 0 true true, .deleteDeviceAt 0, .deleteDevice 0]
    (fun r => detachedIds (r.inbox ()) = [2, 2] ∧ r.departed () = [2]) (by decide)
  obtain ⟨hinbox, hdeparted⟩ := of_decide_eq_true hp
  refine ⟨r, hr, ?_⟩
  intro htold
  have heq := htold () (by decide)
  rw [hinbox, hdeparted] at heq
  cases heq

end Usbmuxd
