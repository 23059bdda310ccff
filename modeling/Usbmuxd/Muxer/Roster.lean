import Usbmuxd.Muxer.Scan

/-!
# One call after the other

`add_device` and the functions that remove devices, each run from its beginning to its end
before the next one starts. The sections, the scan and the messages are those of
`Usbmuxd.Muxer`, on a muxer without threads.

Besides `delete_device` there are the functions with which the WiFi manager removes devices.
All of them but `delete_device(dev)` look for a device first and have the same end
(`Usbmuxd.Roster.deleteFound`).

The two connections of a device are tied together by their IDs
(`Usbmuxd.Roster.Tied`): they have one index, which no other device has. Every attached
index is at most `_newid` as long as the counter has not wrapped, and that makes the scan
find a free one.

This is the picture that the code suggests when it is read from top to bottom, and the
interleaved one of `Usbmuxd.Muxer` is what really happens. Both are needed: what goes wrong
between two threads cannot be seen here, but what goes wrong even without any second thread is
much clearer: that an index is found twice when the counter wraps, and that clients are told of
a removal though they have never been told of the device.

The roster keeps one thing that the code does not have: for each client, the IDs of the devices
that have left while it was listening (`Usbmuxd.Roster.departed`). It is written where
`_devices` is, and nothing reads it but the statements about what clients are told.
-/

namespace Usbmuxd

open Interleaving Muxer

/-! ### The calls -/

/-- What does not change: the environment of the muxer, the addresses of the WiFi devices, and
which serial numbers stand for a device that is being paired. -/
structure RosterEnv (S A C : Type) extends MuxerEnv S C where
  /-- `_clients` is a set. -/
  clients_nodup : clients.Nodup
  /-- `_ipaddr`, of a WiFi device. -/
  ipaddr : ℕ → List A
  /-- Whether a serial starts with `WIFIPAIR`. -/
  isPairing : S → Bool

/-- A muxer between two calls. It is a muxer without threads, so that all functions on its parts
can be used as they are. -/
structure Roster (C : Type) extends Muxer Empty C where
  /-- The IDs of the devices that have left `_devices` while the client was listening. -/
  departed : C → List ℕ

namespace Roster

variable {S A C : Type} [DecidableEq S] [DecidableEq A] [DecidableEq C] (E : RosterEnv S A C)
  (r : Roster C)

omit [DecidableEq C] in
/-- A muxer without devices, and no client has been told anything. -/
def init : Roster C where
  devices := []
  id := fun _ => 0
  newid := 1
  isListening := fun _ => false
  inbox := fun _ => []
  thread := fun t => t.elim
  departed := fun _ => []

/-- `_devices.erase(dev)`. For the clients that are listening now, the ID is noted as one that
has left. -/
def erase (dev : ℕ) : Roster C :=
  { r with
    devices := r.eraseDevice dev
    departed := fun cli =>
      r.departed cli ++ if dev ∈ r.devices ∧ r.isListening cli = true then [r.id dev] else [] }

/-- A message for the listening clients, one after the other. No client starts or stops
listening in between. -/
def notify (msg : MuxMessage) : Roster C :=
  { r with toMuxer := E.clients.foldl (fun m cli => m.sendIfListening cli msg) r.toMuxer }

/-- `Muxer::notify_device_add`, with the ID that the device has at this moment. -/
def notifyDeviceAdd (dev : ℕ) : Roster C := r.notify E (.attached (r.id dev))

/-- `Muxer::notify_device_remove`, which is given the ID, as the device has gone by then. -/
def notifyDeviceRemove (deviceID : ℕ) : Roster C := r.notify E (.detached deviceID)

/-- `Muxer::delete_device(dev)`. It tells the clients unconditionally, whether the device was
attached or not, and whether they have been told of it or not. -/
def deleteDevice (dev : ℕ) : Roster C := (r.erase dev).notifyDeviceRemove E (r.id dev)

/-- The end of the other functions that remove a device: if one has been found, it is erased,
and the clients are told, unless it has the very ID that stands for no device. -/
def deleteFound : Option ℕ → Roster C
  | none => r
  | some dev =>
      if r.id dev ≠ invalidId then (r.erase dev).notifyDeviceRemove E (r.id dev) else r.erase dev

/-- `Muxer::delete_device(bus, address)`, which looks for the device by its location. -/
def deleteDeviceAt (location : ℕ) : Roster C := r.deleteFound E (r.deviceAt E.toMuxerEnv location)

/-- The WiFi device with a serial, the first one in the order of addresses. -/
def wifiDeviceWithSerial (serial : S) : Option ℕ :=
  r.devices.find? fun dev =>
    (E.device dev).conntype = .muxconnWifi ∧ serial = (E.device dev).serial

/-- `Muxer::delete_wifi_device_with_serial`. There may be a USB device with the same serial,
which stays. -/
def deleteWifiDeviceWithSerial (serial : S) : Roster C :=
  r.deleteFound E (r.wifiDeviceWithSerial E serial)

/-- The pairing device with one of these addresses. The loops over devices and addresses are
nested, and the outer one is over the devices. -/
def wifiPairingDeviceWithIp (ipaddrs : List A) : Option ℕ :=
  r.devices.find? fun dev =>
    (E.device dev).conntype = .muxconnWifi ∧
      ∃ nip ∈ ipaddrs, E.isPairing (E.device dev).serial = true ∧ nip ∈ E.ipaddr dev

/-- `Muxer::delete_wifi_pairing_device_with_ip`. One address in common is enough. -/
def deleteWifiPairingDeviceWithIp (ipaddrs : List A) : Roster C :=
  r.deleteFound E (r.wifiPairingDeviceWithIp E ipaddrs)

/-- The ID of the other connection of a device, without its last bit; 0 means that there is
none, since no index is 0. -/
def base (dev : ℕ) : ℕ :=
  r.idForDevice E.toMuxerEnv (E.device dev).serial (E.device dev).conntype.other / 2 * 2

/-- `dev->_id = id`, for one device. The IDs of the others are not touched. -/
def setId (dev id : ℕ) : Roster C := { r with id := Function.update r.id dev id }

omit [DecidableEq C] in
theorem setId_setId (dev id id' : ℕ) : (r.setId dev id).setId dev id' = r.setId dev id' := by
  simp only [setId, Function.update_idem]

/-- `add_device`, up to the insertion. The ID is cleared before the scan, so that a device that
is added a second time does not stand in its own way. -/
def assignId (dev : ℕ) : Option (Roster C) :=
  let ty := (E.device dev).conntype
  if r.base E dev = 0 then
    let r := r.setId dev 0
    (scanIds r.taken r.newid).map fun newid =>
      { r.setId dev (fixupId (newid <<< 1) ty) with newid := newid }
  else some (r.setId dev (fixupId (r.base E dev) ty))

/-- `_devices.insert(dev)`. The place in the set depends on the address of the device. -/
def insert (dev : ℕ) : Roster C := { r with devices := r.insertDevice dev }

/-- `Muxer::add_device`. `ok` is whether `startLoop` succeeds, for a WiFi device. It is `none`
where the scan for an index does not come to an end, which is the only way in which a call does
not return. -/
def addDevice (dev : ℕ) (notify ok : Bool) : Option (Roster C) :=
  (r.assignId E dev).map fun r =>
    let r := r.insert dev
    if (E.device dev).conntype = .muxconnWifi ∧ ok = false then
      if E.allowHeartlessWifi then r else r.deleteDevice E dev
    else if notify then r.notifyDeviceAdd E dev
    else r

/-- A client starts listening, and `notify_alldevices` tells it about the devices that are
attached. -/
def listen (cli : C) : Roster C :=
  { r with
    toMuxer := r.devices.foldl (fun m dev => m.send cli (.attached (m.id dev)))
      { r.toMuxer with isListening := Function.update r.isListening cli true } }

/-- A call, with all that decides what comes of it: whether clients are to be told, and whether
the loop of the device starts. -/
inductive Label (S A C : Type)
  | addDevice (dev : ℕ) (notify ok : Bool)
  | deleteDevice (dev : ℕ)
  | deleteDeviceAt (location : ℕ)
  | deleteWifiDeviceWithSerial (serial : S)
  | deleteWifiPairingDeviceWithIp (ipaddrs : List A)
  | listen (cli : C)

/-- One call. It is `none` only if `add_device` does not come to its end. -/
def step : Label S A C → Option (Roster C)
  | .addDevice dev notify ok => r.addDevice E dev notify ok
  | .deleteDevice dev => some (r.deleteDevice E dev)
  | .deleteDeviceAt location => some (r.deleteDeviceAt E location)
  | .deleteWifiDeviceWithSerial serial => some (r.deleteWifiDeviceWithSerial E serial)
  | .deleteWifiPairingDeviceWithIp ipaddrs => some (r.deleteWifiPairingDeviceWithIp E ipaddrs)
  | .listen cli => some (r.listen cli)

end Roster

/-- The muxer, one call after the other, as a machine. -/
def rosterMachine {S A C : Type} [DecidableEq S] [DecidableEq A] [DecidableEq C]
    (E : RosterEnv S A C) : Machine (Roster C) (Roster.Label S A C) :=
  ⟨fun r l => r.step E l⟩

/-! ### What the calls do -/

namespace Muxer

variable {T C : Type} [DecidableEq C]

/-- **What a message to the listening clients does**: each of them gets it at the end of its
inbox, and nothing else changes. A client is sent it once, as `_clients` is a set. -/
theorem foldl_sendIfListening {clis : List C} (hnodup : clis.Nodup) (m : Muxer T C)
    (msg : MuxMessage) :
    clis.foldl (fun m cli => m.sendIfListening cli msg) m =
      { m with
        inbox := fun cli =>
          m.inbox cli ++ if cli ∈ clis ∧ m.isListening cli = true then [msg] else [] } := by
  induction clis generalizing m with
  | nil => simp
  | cons c clis ih =>
    obtain ⟨hc, hnodup⟩ := List.nodup_cons.mp hnodup
    rw [List.foldl_cons, ih hnodup]
    unfold sendIfListening
    split
    · next hlisten =>
      congr 1
      funext cli
      by_cases hcli : cli = c
      · subst hcli
        simp [send, hc, hlisten]
      · by_cases hmem : cli ∈ clis <;> simp [send, hcli, hmem]
    · next hlisten =>
      congr 1
      funext cli
      by_cases hcli : cli = c
      · subst hcli
        simp [hlisten]
      · by_cases hmem : cli ∈ clis <;> simp [hcli, hmem]

/-- The dump to a new listener is for the one client. All others have the messages they had. -/
theorem foldl_send (devs : List ℕ) (cli : C) (m : Muxer T C) :
    devs.foldl (fun m dev => m.send cli (.attached (m.id dev))) m =
      { m with
        inbox := Function.update m.inbox cli
          (m.inbox cli ++ devs.map fun dev => .attached (m.id dev)) } := by
  induction devs generalizing m with
  | nil => simp
  | cons dev devs ih =>
    rw [List.foldl_cons, ih]
    simp [send, Function.update_idem]

end Muxer

namespace Roster

variable {S A C : Type} [DecidableEq S] [DecidableEq A] [DecidableEq C] {E : RosterEnv S A C}
  {r r' : Roster C} {dev d d' : ℕ}

omit [DecidableEq S] [DecidableEq A] in
theorem notify_eq (r : Roster C) (msg : MuxMessage) :
    r.notify E msg =
      { r with
        inbox := fun cli =>
          r.inbox cli ++ if cli ∈ E.clients ∧ r.isListening cli = true then [msg] else [] } := by
  rw [notify, foldl_sendIfListening E.clients_nodup]

theorem listen_eq (r : Roster C) (cli : C) :
    r.listen cli =
      { r with
        isListening := Function.update r.isListening cli true
        inbox := Function.update r.inbox cli
          (r.inbox cli ++ r.devices.map fun dev => .attached (r.id dev)) } := by
  rw [listen, foldl_send]

/-- No device is added, and no ID changes. This is all that the functions which remove
devices can do to the attached ones, so that most invariants have to be checked for
`add_device` only. -/
structure Shrinks (r r' : Roster C) : Prop where
  devices : ∀ d ∈ r'.devices, d ∈ r.devices
  id : r'.id = r.id
  newid : r'.newid = r.newid

omit [DecidableEq C] in
theorem Shrinks.refl (r : Roster C) : r.Shrinks r := ⟨fun _ hd => hd, rfl, rfl⟩

omit [DecidableEq S] [DecidableEq A] in
theorem Shrinks.notify (h : r.Shrinks r') (msg : MuxMessage) : r.Shrinks (r'.notify E msg) := by
  rw [notify_eq]
  exact ⟨h.devices, h.id, h.newid⟩

omit [DecidableEq C] in
theorem shrinks_erase (r : Roster C) (dev : ℕ) : r.Shrinks (r.erase dev) :=
  ⟨fun _ hd => (mem_eraseDevice.mp hd).1, rfl, rfl⟩

omit [DecidableEq S] [DecidableEq A] in
theorem shrinks_deleteFound (r : Roster C) (found : Option ℕ) :
    r.Shrinks (r.deleteFound E found) := by
  unfold deleteFound
  split
  · exact .refl r
  · next dev =>
    split
    · exact (shrinks_erase r dev).notify _
    · exact shrinks_erase r dev

/-- **Calls but `add_device`** do not add a device, and do not change any ID. -/
theorem shrinks_of_step {l : Label S A C} (hadd : ∀ dev notify ok, l ≠ .addDevice dev notify ok)
    (h : r.step E l = some r') : r.Shrinks r' := by
  cases l with
  | addDevice dev notify ok => exact absurd rfl (hadd dev notify ok)
  | deleteDevice dev =>
    cases h
    exact (shrinks_erase r dev).notify _
  | deleteDeviceAt location =>
    cases h
    exact shrinks_deleteFound r _
  | deleteWifiDeviceWithSerial serial =>
    cases h
    exact shrinks_deleteFound r _
  | deleteWifiPairingDeviceWithIp ipaddrs =>
    cases h
    exact shrinks_deleteFound r _
  | listen cli =>
    cases h
    rw [listen_eq]
    exact ⟨fun _ hd => hd, rfl, rfl⟩

omit [DecidableEq A] in
/-- **`add_device`** inserts the device under an ID, and may remove it again if its loop does
not start. -/
theorem addDevice_cases {notify ok : Bool} (h : r.addDevice E dev notify ok = some r') :
    ∃ r₁, r.assignId E dev = some r₁ ∧ (r₁.insert dev).Shrinks r' := by
  obtain ⟨r₁, hassign, rfl⟩ := Option.map_eq_some_iff.mp h
  refine ⟨r₁, hassign, ?_⟩
  dsimp only
  split
  · split
    · exact .refl _
    · exact (shrinks_erase _ dev).notify _
  · split
    · exact (Shrinks.refl _).notify _
    · exact .refl _

/-! ### The IDs of a device -/

/-- What is asked of a call of `add_device`: no other device has the connection, and the scan,
if there is one, does not wrap. The first is what USB and the discovery of WiFi devices are
there to ensure, the second fails after some `2 ^ 30` devices only. -/
def OnePerConnection (E : RosterEnv S A C) (r : Roster C) : Label S A C → Prop
  | .addDevice dev _ _ =>
      (∀ d ∈ r.devices, (E.device d).serial = (E.device dev).serial →
        (E.device d).conntype = (E.device dev).conntype → d = dev) ∧
      (r.base E dev = 0 → scanPass (r.setId dev 0).taken r.newid ≠ none)
  | _ => True

instance (r : Roster C) (l : Label S A C) : Decidable (OnePerConnection E r l) := by
  unfold OnePerConnection
  split <;> infer_instance

/-- **The two connections of a device are tied together by their IDs**, and those of different
devices are not. -/
structure IdsTied (E : RosterEnv S A C) (r : Roster C) : Prop where
  pos : ∀ d ∈ r.devices, 0 < r.id d
  distinct : ∀ d ∈ r.devices, ∀ d' ∈ r.devices, r.id d = r.id d' → d = d'
  parity : ∀ d ∈ r.devices, r.id d % 2 = connBit (E.device d).conntype
  tied : ∀ d ∈ r.devices, ∀ d' ∈ r.devices,
    (index (r.id d) = index (r.id d') ↔ (E.device d).serial = (E.device d').serial)

/-- **The invariant.** What every call keeps: besides, no attached index is above `_newid`. That
is why the scan, which starts there, finds an index that is free in one pass. -/
structure Tied (E : RosterEnv S A C) (r : Roster C) : Prop where
  newid : 1 ≤ r.newid ∧ r.newid ≤ maxid
  pos : ∀ d ∈ r.devices, 1 ≤ index (r.id d)
  le_newid : ∀ d ∈ r.devices, index (r.id d) ≤ r.newid
  parity : ∀ d ∈ r.devices, r.id d % 2 = connBit (E.device d).conntype
  tied : ∀ d ∈ r.devices, ∀ d' ∈ r.devices,
    (index (r.id d) = index (r.id d') ↔ (E.device d).serial = (E.device d').serial)
  single : ∀ d ∈ r.devices, ∀ d' ∈ r.devices, (E.device d).serial = (E.device d').serial →
    (E.device d).conntype = (E.device d').conntype → d = d'

namespace Tied

omit [DecidableEq S] [DecidableEq A] [DecidableEq C]

theorem idsTied (h : r.Tied E) : r.IdsTied E where
  pos := by
    intro d hd
    have hpos := h.pos d hd
    rw [index_eq] at hpos
    omega
  distinct := by
    intro d hd d' hd' heq
    have hserial := (h.tied d hd d' hd').mp (by rw [heq])
    have hbit : connBit (E.device d).conntype = connBit (E.device d').conntype := by
      rw [← h.parity d hd, ← h.parity d' hd', heq]
    exact h.single d hd d' hd' hserial (connBit_injective hbit)
  parity := h.parity
  tied := h.tied

theorem init (E : RosterEnv S A C) : (Roster.init : Roster C).Tied E where
  newid := ⟨Nat.le_refl 1, show 1 ≤ maxid by decide⟩
  pos := nofun
  le_newid := nofun
  parity := nofun
  tied := nofun
  single := nofun

theorem shrinks (h : r.Tied E) (hs : r.Shrinks r') : r'.Tied E where
  newid := hs.newid ▸ h.newid
  pos := by
    intro d hd
    rw [hs.id]
    exact h.pos d (hs.devices d hd)
  le_newid := by
    intro d hd
    rw [hs.id, hs.newid]
    exact h.le_newid d (hs.devices d hd)
  parity := by
    intro d hd
    rw [hs.id]
    exact h.parity d (hs.devices d hd)
  tied := by
    intro d hd d' hd'
    rw [hs.id]
    exact h.tied d (hs.devices d hd) d' (hs.devices d' hd')
  single := fun d hd d' hd' => h.single d (hs.devices d hd) d' (hs.devices d' hd')

/-- **A device is inserted** under an index that its other connection has, if there is one, and
no other device. -/
theorem inserts (h : r.Tied E) {i newid : ℕ} (hpos : 1 ≤ i) (hi : i ≤ newid)
    (hnewid : r.newid ≤ newid) (hmax : newid ≤ maxid)
    (hsingle : ∀ d ∈ r.devices, (E.device d).serial = (E.device dev).serial →
      (E.device d).conntype = (E.device dev).conntype → d = dev)
    (htied : ∀ d ∈ r.devices, d ≠ dev →
      (index (r.id d) = i ↔ (E.device d).serial = (E.device dev).serial)) :
    Tied E { (r.setId dev (fixupId (2 * i) (E.device dev).conntype)).insert dev with
      newid := newid } := by
  have hmem : ∀ d ∈ (r.setId dev (fixupId (2 * i) (E.device dev).conntype)).insertDevice dev,
      d = dev ∨ d ∈ r.devices ∧ d ≠ dev := by
    intro d hd
    by_cases hdev : d = dev
    · exact Or.inl hdev
    · exact Or.inr ⟨(mem_insertDevice.mp hd).resolve_left hdev, hdev⟩
  have hself : Function.update r.id dev (fixupId (2 * i) (E.device dev).conntype) dev =
      fixupId (2 * i) (E.device dev).conntype := Function.update_self ..
  have hother : ∀ d ≠ dev,
      Function.update r.id dev (fixupId (2 * i) (E.device dev).conntype) d = r.id d :=
    fun d hd => Function.update_of_ne hd ..
  constructor
  · exact ⟨Nat.le_trans h.newid.1 hnewid, hmax⟩
  · intro d hd
    simp only [insert, setId]
    rcases hmem d hd with rfl | ⟨hd, hne⟩
    · rwa [hself, index_fixupId]
    · rw [hother d hne]
      exact h.pos d hd
  · intro d hd
    simp only [insert, setId]
    rcases hmem d hd with rfl | ⟨hd, hne⟩
    · rwa [hself, index_fixupId]
    · rw [hother d hne]
      exact Nat.le_trans (h.le_newid d hd) hnewid
  · intro d hd
    simp only [insert, setId]
    rcases hmem d hd with rfl | ⟨hd, hne⟩
    · rw [hself, mod_fixupId]
    · rw [hother d hne]
      exact h.parity d hd
  · intro d hd d' hd'
    simp only [insert, setId]
    rcases hmem d hd with rfl | ⟨hold, hne⟩ <;> rcases hmem d' hd' with rfl | ⟨hold', hne'⟩
    · simp
    · rw [hself, index_fixupId, hother d' hne', eq_comm, htied d' hold' hne', eq_comm]
    · rw [hself, index_fixupId, hother d hne]
      exact htied d hold hne
    · rw [hother d hne, hother d' hne']
      exact h.tied d hold d' hold'
  · intro d hd d' hd' hserial hconn
    rcases hmem d hd with rfl | ⟨hold, hne⟩ <;> rcases hmem d' hd' with rfl | ⟨hold', hne'⟩
    · rfl
    · exact (hsingle d' hold' hserial.symm hconn.symm).symm
    · exact hsingle d hold hserial hconn
    · exact h.single d hold d' hold' hserial hconn

/-- The ID of the other connection, if there is one: it is looked up by serial number and type,
and shifting it right and left again takes its last bit off. -/
theorem base_cases [DecidableEq S] (r : Roster C) (dev : ℕ) :
    (∃ odev ∈ r.devices, (E.device odev).serial = (E.device dev).serial ∧
      (E.device odev).conntype = (E.device dev).conntype.other ∧
      r.base E dev = 2 * index (r.id odev)) ∨
    r.base E dev = 0 ∧ ∀ d ∈ r.devices, (E.device d).serial = (E.device dev).serial →
      (E.device d).conntype ≠ (E.device dev).conntype.other := by
  unfold base idForDevice
  split
  · next odev hfind =>
    have hmem := List.mem_of_find?_eq_some hfind
    have hodev := List.find?_some hfind
    simp only [decide_eq_true_eq] at hodev
    exact Or.inl ⟨odev, hmem, hodev.2, hodev.1, by rw [index_eq]; omega⟩
  · next hfind =>
    refine Or.inr ⟨rfl, ?_⟩
    intro d hd hserial hconn
    have hnot := List.find?_eq_none.mp hfind d hd
    simp only [decide_eq_true_eq] at hnot
    exact hnot ⟨hconn, hserial⟩

/-- **`add_device`** keeps the connections tied together. -/
theorem addDevice [DecidableEq S] (h : r.Tied E) {r₁ : Roster C}
    (hsingle : ∀ d ∈ r.devices, (E.device d).serial = (E.device dev).serial →
      (E.device d).conntype = (E.device dev).conntype → d = dev)
    (hscan : r.base E dev = 0 → scanPass (r.setId dev 0).taken r.newid ≠ none)
    (hassign : r.assignId E dev = some r₁) : (r₁.insert dev).Tied E := by
  have hother : ∀ ty : MuxConnType, ty ≠ ty.other := by rintro ⟨⟩ <;> nofun
  rcases base_cases (E := E) r dev with ⟨odev, hodev, hserial, hconn, hbase⟩ | ⟨hbase, hnone⟩
  · -- the index of the other connection
    have hpos := h.pos odev hodev
    have hne : odev ≠ dev := by
      rintro rfl
      exact hother _ hconn
    rw [Roster.assignId, if_neg (by omega), hbase] at hassign
    cases hassign
    refine h.inserts hpos (h.le_newid odev hodev) (Nat.le_refl _) h.newid.2 hsingle ?_
    intro d hd hdev
    rw [← hserial]
    exact h.tied d hd odev hodev
  · -- a fresh index
    rw [Roster.assignId, if_pos hbase] at hassign
    obtain ⟨newid, hfind, rfl⟩ := Option.map_eq_some_iff.mp hassign
    have hpass : scanPass (r.setId dev 0).taken r.newid = some newid := by
      cases hp : scanPass (r.setId dev 0).taken r.newid with
      | none => exact absurd hp (hscan hbase)
      | some newid' =>
        have hfind' : scanIds (r.setId dev 0).taken r.newid = some newid := hfind
        rw [scanIds, hp] at hfind'
        exact hfind'
    have hid : ∀ d ≠ dev, (r.setId dev 0).id d = r.id d := fun d hd => Function.update_of_ne hd ..
    have hle : ∀ i ∈ (r.setId dev 0).taken, i ≤ r.newid := by
      intro i hi
      obtain ⟨d, hd, rfl⟩ := List.mem_map.mp hi
      by_cases hdev : d = dev
      · subst hdev
        have hzero : (r.setId d 0).id d = 0 := Function.update_self ..
        rw [hzero]
        exact Nat.zero_le _
      · rw [hid d hdev]
        exact h.le_newid d hd
    obtain ⟨hnewid, hmax, -⟩ := sublist_of_scanPass h.newid.2 hpass
    have hfresh := scanPass_fresh h.newid.2 hle hpass
    have htied : ∀ d ∈ r.devices, d ≠ dev →
        (index (r.id d) = newid ↔ (E.device d).serial = (E.device dev).serial) := by
      intro d hd hdev
      constructor
      · intro hindex
        refine absurd (List.mem_map.mpr ⟨d, hd, ?_⟩) hfresh
        rw [hid d hdev]
        exact hindex
      · intro hserial
        by_cases hconn : (E.device d).conntype = (E.device dev).conntype
        · exact absurd (hsingle d hd hserial hconn) hdev
        · refine absurd ?_ (hnone d hd hserial)
          revert hconn
          cases (E.device d).conntype <;> cases (E.device dev).conntype <;> simp [MuxConnType.other]
    have hinsert := h.inserts (Nat.le_trans h.newid.1 hnewid) (Nat.le_refl newid) hnewid hmax
      hsingle htied
    dsimp only
    rw [setId_setId, Nat.shiftLeft_eq, Nat.pow_one, Nat.mul_comm]
    exact hinsert

/-- **Every call.** -/
theorem step [DecidableEq S] [DecidableEq A] [DecidableEq C] (h : r.Tied E) {l : Label S A C}
    (hok : OnePerConnection E r l) (hs : r.step E l = some r') : r'.Tied E := by
  by_cases hadd : ∃ dev notify ok, l = .addDevice dev notify ok
  · obtain ⟨dev, notify, ok, rfl⟩ := hadd
    obtain ⟨r₁, hassign, hshrinks⟩ := addDevice_cases hs
    exact (h.addDevice hok.1 hok.2 hassign).shrinks hshrinks
  · refine h.shrinks (shrinks_of_step ?_ hs)
    exact fun dev notify ok heq => hadd ⟨dev, notify, ok, heq⟩

end Tied

end Roster

open Roster

variable {S A C : Type} [DecidableEq S] [DecidableEq A] [DecidableEq C]

/-- **The connections of a device are tied together by their IDs**, in every sequential run: two
devices with one serial number differ in the last bit, all others in their index. -/
theorem device_ids_tied {E : RosterEnv S A C} {r : Roster C}
    (h : (rosterMachine E).Reaches (OnePerConnection E) init r) : r.IdsTied E :=
  (h.invariant (I := Tied E) (.init E) fun _ _ _ hi hok hs => hi.step hok hs).idsTied

/-- Devices whose addresses are even, with a USB connection, and odd, with a WiFi connection,
and one client. -/
def Roster.pairs : RosterEnv ℕ ℕ Unit where
  device := fun dev =>
    ⟨if dev % 2 = 0 then .muxconnUsb else .muxconnWifi, dev / 2, dev⟩
  clients := [()]
  allowHeartlessWifi := false
  clients_nodup := by decide
  ipaddr := fun _ => []
  isPairing := fun _ => false

/-- A device is attached over both connections, and one of them leaves and comes back. -/
theorem device_ids_tied_pairs :
    ∃ r : Roster Unit, (r.devices = [0, 1, 2] ∧ r.id 0 = 2 ∧ r.id 1 = 3) ∧ r.IdsTied pairs := by
  obtain ⟨r, hr, hp⟩ := (rosterMachine pairs).exists_reaches_of_runOk (OnePerConnection pairs) init
    [.addDevice 0 true true, .addDevice 2 true true, .addDevice 1 true true, .deleteDevice 0,
      .addDevice 0 true true]
    (fun r => r.devices = [0, 1, 2] ∧ r.id 0 = 2 ∧ r.id 1 = 3) (by decide)
  exact ⟨r, of_decide_eq_true hp, device_ids_tied hr⟩

end Usbmuxd
