import Mathlib.Data.List.InsertIdx
import Mathlib.Data.List.TakeWhile
import Usbmuxd.Wifi.Discovered
import Usbmuxd.Wifi.MdnsClients

/-!
# The devices that mDNS discovers

The addresses of a service come in one by one, and `getaddr_reply` collects them in
`_clientAddrs`, behind the name of the service that `resolve_reply` has put there. With the
last address it takes the name off again and makes a device of the rest. In between there may
be replies for other services, and new ones (`Usbmuxd.MdnsClients.service_of_replies`).

What `getaddr_reply` then does with the devices is what `avahi_resolve_callback` does. But it may
have several addresses, and what it takes for the name of the service is its full name, which
`DNSServiceResolve` reports: the name, the type and the domain, in which the characters of the
name that mean something in a domain name are escaped. So the devices have other `_serviceName`s,
and a name with a dot or a space in it makes another serial. With names of which nothing is
escaped the two ways to discover devices lead to the same devices, but for their `_serviceName`s
(`Usbmuxd.MdnsClients.backends_agree`).
-/

namespace Usbmuxd

open Interleaving Keyed

namespace MdnsClients

/-! ### Collecting the addresses -/

section Collecting

variable {s s' s₁ s₂ s₃ : MdnsClients} {ref sdRef : ℕ} {e : Event} {l : List Event}
  {name addr : List Char} {addrs : List (List Char)} {noFd : List ℕ}

/-- The address that an event reports to a client, with more to come. -/
def reported (ref : ℕ) : Event → Option (List Char)
  | .getaddr sdRef address true => if sdRef = ref then address else none
  | _ => none

/-- An event that leaves the addresses of a client alone, unless it adds one. -/
def Collects (ref : ℕ) : Event → Prop
  | .resolve _ _ ref' _ _ => ref' ≠ ref
  | .getaddr sdRef _ more => sdRef = ref → more = true
  | .cleanup => False
  | _ => True

instance (ref : ℕ) : (e : Event) → Decidable (Collects ref e)
  | .browse _ _ => isTrue trivial
  | .resolve _ _ ref' _ _ => inferInstanceAs (Decidable (ref' ≠ ref))
  | .getaddr sdRef _ more => inferInstanceAs (Decidable (sdRef = ref → more = true))
  | .handled _ => isTrue trivial
  | .cleanup => isFalse id

/-- Taking clients out leaves alone what is known of them: their names, their addresses, and
which belongs to which. -/
theorem foldl_removeClient_frame (s : MdnsClients) (l : List ℕ) :
    (l.foldl removeClient s).clientAddrs = s.clientAddrs ∧
      (l.foldl removeClient s).linkedClients = s.linkedClients := by
  induction l generalizing s with
  | nil => exact ⟨rfl, rfl⟩
  | cons rc l ih =>
    obtain ⟨haddrs, hlinked⟩ := ih (s.removeClient rc)
    rw [List.foldl_cons, haddrs, hlinked, removeClient]
    split <;> exact ⟨rfl, rfl⟩

/-- A reply for one client leaves alone what is known of the others. -/
theorem getaddrReply_others (s : MdnsClients) (hne : ref ≠ sdRef) (address : Option (List Char))
    (more : Bool) : (s.getaddrReply sdRef address more).clientAddrs ref = s.clientAddrs ref ∧
      (s.getaddrReply sdRef address more).linkedClients ref = s.linkedClients ref := by
  cases more <;> cases address <;> simp [getaddrReply, hne]

/-- An event that reports no address to a client leaves alone what is known of it. -/
theorem step_others (hs : s.step e = some s') (he : Collects ref e)
    (hnone : reported ref e = none) :
    s'.clientAddrs ref = s.clientAddrs ref ∧ s'.linkedClients ref = s.linkedClients ref := by
  cases e with
  | browse ref' noFd =>
    obtain ⟨-, hs⟩ := Option.ite_none_right_eq_some.mp hs
    obtain rfl := Option.some.inj hs
    exact ⟨rfl, rfl⟩
  | resolve sdRef fullname ref' hasFd noFd =>
    obtain ⟨-, hs⟩ := Option.ite_none_right_eq_some.mp hs
    have hne : ref ≠ ref' := Ne.symm he
    cases hasFd with
    | true =>
      obtain rfl := Option.some.inj hs
      exact ⟨Function.update_of_ne hne .., Function.update_of_ne hne ..⟩
    | false =>
      obtain rfl := Option.some.inj hs
      exact ⟨rfl, rfl⟩
  | getaddr sdRef address more =>
    obtain ⟨-, hs⟩ := Option.ite_none_right_eq_some.mp hs
    obtain rfl := Option.some.inj hs
    rcases eq_or_ne ref sdRef with rfl | hne
    · obtain rfl : more = true := he rfl
      obtain rfl : address = none := by simpa [reported] using hnone
      exact ⟨rfl, rfl⟩
    · exact getaddrReply_others s hne address more
  | handled noFd =>
    obtain rfl := Option.some.inj hs
    obtain ⟨haddrs, hlinked⟩ := foldl_removeClient_frame s s.removeClients
    exact ⟨congrFun haddrs ref, congrFun hlinked ref⟩
  | cleanup => exact he.elim

/-- **An event adds the address that it reports**, to those that the client has, and to no other
client. -/
theorem step_collects (hs : s.step e = some s') (he : Collects ref e)
    (haddrs : s.clientAddrs ref = some addrs) :
    s'.clientAddrs ref = some (addrs ++ (reported ref e).toList) ∧
      s'.linkedClients ref = s.linkedClients ref := by
  cases hrep : reported ref e with
  | none =>
    obtain ⟨hsame, hlinked⟩ := step_others hs he hrep
    exact ⟨by rw [hsame, haddrs, Option.toList_none, List.append_nil], hlinked⟩
  | some addr =>
    -- nothing but a reply for this client reports an address to it
    obtain rfl : e = .getaddr ref (some addr) true := by
      rcases e with _ | _ | ⟨sdRef, address, _ | _⟩ | _ | _ <;>
        simp only [reported, reduceCtorEq, Option.ite_none_right_eq_some] at hrep
      obtain ⟨rfl, rfl⟩ := hrep
      rfl
    obtain ⟨-, hs⟩ := Option.ite_none_right_eq_some.mp hs
    obtain rfl := Option.some.inj hs
    simp [getaddrReply, haddrs]

theorem runOk_collects (hrun : mdnsClientsMachine.runOk (fun _ _ => True) s l = some s')
    (hl : ∀ e ∈ l, Collects ref e) (haddrs : s.clientAddrs ref = some addrs) :
    s'.clientAddrs ref = some (addrs ++ l.filterMap (reported ref)) ∧
      s'.linkedClients ref = s.linkedClients ref := by
  induction l generalizing s addrs with
  | nil =>
    obtain rfl := Option.some.inj hrun
    exact ⟨by rw [haddrs, List.filterMap_nil, List.append_nil], rfl⟩
  | cons e l ih =>
    rw [Machine.runOk, if_pos trivial] at hrun
    obtain ⟨s₁, hs, hrun⟩ := Option.bind_eq_some_iff.mp hrun
    obtain ⟨haddrs₁, hlinked₁⟩ := step_collects hs (hl e (List.mem_cons_self ..)) haddrs
    obtain ⟨haddrs', hlinked'⟩ :=
      ih hrun (fun e' he' => hl e' (List.mem_cons_of_mem _ he')) haddrs₁
    refine ⟨?_, hlinked'.trans hlinked₁⟩
    rw [haddrs', List.append_assoc, List.filterMap_cons]
    cases reported ref e <;> rfl

/-- **A service is found with its name and all its addresses**, in the order in which they
have been reported, whatever else is reported in between; and the two clients that have been
made for it are the ones to be removed. -/
theorem service_of_replies (hmade : s.step (.resolve sdRef name ref true noFd) = some s₁)
    (hrun : mdnsClientsMachine.runOk (fun _ _ => True) s₁ l = some s₂)
    (hl : ∀ e ∈ l, Collects ref e) (hlast : s₂.step (.getaddr ref (some addr) false) = some s₃) :
    s₃.services = (name, l.filterMap (reported ref) ++ [addr]) :: s₂.services ∧
      s₃.removeClients = s₂.removeClients ++ [ref, sdRef] := by
  obtain ⟨-, hmade⟩ := Option.ite_none_right_eq_some.mp hmade
  obtain rfl := Option.some.inj hmade
  have hname : Function.update s.clientAddrs ref (some [name]) ref = some [name] :=
    Function.update_self ..
  obtain ⟨haddrs, hlinked⟩ := runOk_collects hrun hl hname
  have hlink : s₂.linkedClients ref = some sdRef := hlinked.trans (Function.update_self ..)
  obtain ⟨-, hlast⟩ := Option.ite_none_right_eq_some.mp hlast
  obtain rfl := Option.some.inj hlast
  simp [getaddrReply, haddrs, hlink]

/-- There is a client for one service, and no address of it is known. -/
def oneClient : MdnsClients :=
  { start.make 1 .resolve with resolveClients := [1] }

/-- The service gets its second address after another one has been found. It is found once, with
both. -/
theorem service_of_replies_twice : ∃ s₂ s₃ : MdnsClients,
    s₃.services = (['a'], [['x'], ['y']]) :: s₂.services ∧
      s₃.removeClients = s₂.removeClients ++ [2, 1] :=
  ⟨_, _, service_of_replies (show oneClient.step (.resolve 1 ['a'] 2 true []) = some _ from rfl)
    (show mdnsClientsMachine.runOk (fun _ _ => True) _ [.getaddr 2 (some ['x']) true,
      .browse 3 [], .resolve 3 ['b'] 4 true [], .getaddr 4 (some ['z']) false,
      .handled []] = some _ from rfl) (by decide)
    (show _ = some _ from rfl)⟩

end Collecting

/-! ### The devices -/

section Devices

/-- A service as `getaddr_reply` has found it, with all of its addresses at once. -/
structure Found where
  /-- `serviceName`. -/
  serviceName : List Char
  /-- `addrs`. -/
  addrs : List (List Char)
  /-- `interfaceIndex`. -/
  interfaceIndex : ℕ

namespace Found

variable (found : Found)

/-- `strstr(serviceName.c_str(), "_remotepairing-manual-pairing._tcp")`, on the full name that
the library has given. -/
def isPairing : Bool := decide (Discovered.manualPairing <:+: found.serviceName)

/-- The `uuid` of a placeholder, which is made of the full name up to its first dot. -/
def pairingUuid : List Char :=
  Discovered.wifipair ++ '-' :: found.serviceName.takeWhile (· ≠ '.')

/-- `macAddr`, from the full name, in which the part up to the first `@` is as in the short one
unless something is escaped. -/
def macAddr : List Char := found.serviceName.takeWhile (· ≠ '@')

/-- The device that is made for it, in which everything but the name of the service is as with
avahi. -/
def device (uuid : List Char) : Discovered.WifiDevice where
  serial := uuid
  ipaddr := found.addrs
  serviceName := found.serviceName
  interfaceIndex := found.interfaceIndex

/-- `WIFIDevice::updateDiscoveryInfo`. The interface and the name are taken over with the
addresses. -/
def update (dev : Discovered.WifiDevice) : Discovered.WifiDevice :=
  { dev with
    ipaddr := found.addrs
    serviceName := found.serviceName
    interfaceIndex := found.interfaceIndex }

end Found

variable (devices : List Discovered.Device) (udidForMacaddr : List Char → Option (List Char))

/-- `getaddr_reply`, when the last address has come in. A device that is added comes to stand
at this `place`. -/
def getaddrFound (found : Found) (place : ℕ) : List Discovered.Device :=
  if found.isPairing then
    if Discovered.haveWifiDeviceWithIp devices found.addrs then devices
    else insertAt place (.wifi (found.device found.pairingUuid)) devices
  else
    match udidForMacaddr found.macAddr with
    | none => devices
    | some uuid =>
      if (Discovered.getWifiDeviceWithSerial devices uuid).isSome then
        devices.replaceF fun
          | .usb _ => none
          | .wifi dev => if uuid = dev.serial then some (.wifi (found.update dev)) else none
      else insertAt place (.wifi (found.device uuid))
        (Discovered.deleteWifiPairingDeviceWithIp devices found.addrs)

/-- `browse_reply`, for a service that is gone. It is given the short name and the type, and not
the full name. -/
def browseReplyRemove (replyName replyType : List Char) : List Discovered.Device :=
  if Discovered.manualPairing <:+: replyType then
    Discovered.deleteWifiDeviceWithSerial devices (Discovered.wifipair ++ '-' :: replyName)
  else devices

/-- What happens to the devices, when mDNS discovers them. All addresses of a service come in
one event. -/
inductive Change
  /-- A service is found. -/
  | found (found : Found) (place : ℕ)
  /-- A service is gone. -/
  | remove (replyName replyType : List Char)
  /-- A USB device is added. -/
  | plugged (serial : List Char) (place : ℕ)
  /-- The device at this place leaves by itself. -/
  | left (place : ℕ)

/-- One event, by the thread of the manager or by that of the USB devices. -/
def change : Change → Option (List Discovered.Device)
  | .found found place => some (getaddrFound devices udidForMacaddr found place)
  | .remove replyName replyType => some (browseReplyRemove devices replyName replyType)
  | .plugged serial place => some (insertAt place (.usb serial) devices)
  | .left place => some (devices.eraseIdx place)

end Devices

/-- The set of devices, when mDNS discovers them, as a machine. -/
def mdnsDevicesMachine (udidForMacaddr : List Char → Option (List Char)) :
    Machine (List Discovered.Device) Change :=
  ⟨fun devices => change devices udidForMacaddr⟩

/-! ### The two ways to discover devices -/

section Backends

/-- The full name of a service, as `DNSServiceResolve` reports it. How a character of the name is
escaped is its business. -/
def fullname (escape : Char → List Char) (domain : List Char) (svc : Discovered.Service) :
    List Char :=
  svc.name.flatMap escape ++ '.' :: (svc.type ++ '.' :: domain)

/-- **Avahi and mDNS report the same.** A service has one address, nothing in its name is escaped,
and it is one for pairing by hand or has a MAC address in its name. The type may be written
differently, with a dot at its end. -/
inductive Reports (escape : Char → List Char) (domain : List Char) :
    Discovered.Event → Change → Prop
  | found {svc : Discovered.Service} {place : ℕ} (hplain : ∀ c ∈ svc.name, escape c = [c])
    (hsvc : svc.isPairing = true ∨ '@' ∈ svc.name) :
    Reports escape domain (.found svc place)
      (.found ⟨fullname escape domain svc, svc.addrs, svc.interface⟩ place)
  | remove {name type replyType : List Char}
    (htype : Discovered.manualPairing <:+: replyType ↔ Discovered.manualPairing <:+: type) :
    Reports escape domain (.remove name type) (.remove name replyType)
  | plugged {serial : List Char} {place : ℕ} :
    Reports escape domain (.plugged serial place) (.plugged serial place)
  | left {place : ℕ} : Reports escape domain (.left place) (.left place)

/-- The device without the name of its service, which is what the two backends do not agree
on. -/
def unnamed : Discovered.Device → Discovered.Device
  | .usb serial => .usb serial
  | .wifi dev => .wifi { dev with serviceName := [] }

/-- **The same devices**, but for the names of their services, in the same order. -/
def SameDevices (devices devices' : List Discovered.Device) : Prop :=
  devices.map unnamed = devices'.map unnamed

namespace SameDevices

variable {devices devices' : List Discovered.Device} {dev dev' : Discovered.Device} {place : ℕ}

theorem insertAt (h : SameDevices devices devices') (hdev : unnamed dev = unnamed dev') :
    SameDevices (insertAt place dev devices) (Keyed.insertAt place dev' devices') := by
  rw [SameDevices, map_insertAt, map_insertAt, h, hdev]

/-- A test that does not look at the names gives the same for both. -/
theorem any (h : SameDevices devices devices') {p : Discovered.Device → Bool}
    (hp : ∀ dev, p (unnamed dev) = p dev) : devices.any p = devices'.any p := by
  have hcomp : p ∘ unnamed = p := funext hp
  rw [← hcomp, ← List.any_map, ← List.any_map, h]

theorem eraseP (h : SameDevices devices devices') {p : Discovered.Device → Bool}
    (hp : ∀ dev, p (unnamed dev) = p dev) :
    SameDevices (devices.eraseP p) (devices'.eraseP p) := by
  have hcomp : p ∘ unnamed = p := funext hp
  rw [SameDevices, ← hcomp, ← List.eraseP_map, ← List.eraseP_map, h]

theorem eraseIdx (h : SameDevices devices devices') :
    SameDevices (devices.eraseIdx place) (devices'.eraseIdx place) := by
  rw [SameDevices, ← List.eraseIdx_map, ← List.eraseIdx_map, h]

/-- One device is replaced by another one, in both lists at the same place. -/
theorem replaceF {f g : Discovered.Device → Option Discovered.Device}
    (h : SameDevices devices devices')
    (hfg : ∀ dev dev', unnamed dev = unnamed dev' → (f dev).map unnamed = (g dev').map unnamed) :
    SameDevices (devices.replaceF f) (devices'.replaceF g) := by
  induction devices generalizing devices' with
  | nil =>
    obtain rfl : devices' = [] := List.map_eq_nil_iff.mp h.symm
    rfl
  | cons dev devices ih =>
    cases devices' with
    | nil => cases h
    | cons dev' devices' =>
      obtain ⟨hdev, hrest⟩ := List.cons.inj h
      have hhead := hfg dev dev' hdev
      rw [List.replaceF_cons, List.replaceF_cons]
      cases hf : f dev with
      | none =>
        rw [hf, Option.map_none, eq_comm, Option.map_eq_none_iff] at hhead
        rw [hhead]
        exact congrArg₂ List.cons hdev (ih hrest)
      | some new =>
        rw [hf, Option.map_some, eq_comm, Option.map_eq_some_iff] at hhead
        obtain ⟨new', hg, hnew⟩ := hhead
        rw [hg]
        exact congrArg₂ List.cons hnew.symm hrest

end SameDevices

/-! #### The full name -/

variable {escape : Char → List Char} {domain : List Char} {svc : Discovered.Service}

/-- Where a prefix ends for some reason, it does not matter what comes behind. -/
theorem takeWhile_append_of_mem {p : Char → Bool} {c : Char} {l l' : List Char} (hc : c ∈ l)
    (hp : p c = false) : (l ++ l').takeWhile p = l.takeWhile p := by
  have hshort : (l.takeWhile p).length ≠ l.length := by
    intro hlen
    have hall := List.takeWhile_eq_self_iff.mp ((List.takeWhile_prefix _).eq_of_length hlen)
    rw [hall c hc] at hp
    cases hp
  rw [List.takeWhile_append, if_neg hshort]

/-- If nothing is escaped, the name and the type are in front, and the domain comes behind
them. -/
theorem fullname_eq (hplain : ∀ c ∈ svc.name, escape c = [c]) :
    fullname escape domain svc = svc.serviceName ++ '.' :: domain := by
  have hname : svc.name.flatMap escape = svc.name := by
    rw [List.flatMap_congr hplain, List.flatMap_singleton']
  rw [fullname, hname, Discovered.Service.serviceName, List.append_assoc, List.cons_append]

/-- The type for pairing by hand does not reach into the domain, as it has its last underscore
shortly before its end, and no dot behind that. -/
theorem manualPairing_infix_iff (hdomain : '_' ∉ domain) (name : List Char) :
    Discovered.manualPairing <:+: name ++ '.' :: domain ↔ Discovered.manualPairing <:+: name := by
  constructor
  · rintro ⟨front, back, heq⟩
    rcases List.append_eq_append_iff.mp heq with ⟨rest, hname, -⟩ | ⟨middle, hfront, hmiddle⟩
    · exact ⟨front, rest, hname.symm⟩
    cases middle with
    | nil =>
      rw [List.append_nil] at hfront
      exact ⟨front, [], by rw [List.append_nil, hfront]⟩
    | cons c middle =>
      obtain ⟨rfl, hrest⟩ := List.cons.inj hmiddle
      have hlast : ['_', 't', 'c', 'p'] <:+ front ++ Discovered.manualPairing :=
        (by decide : ['_', 't', 'c', 'p'] <:+ Discovered.manualPairing).trans
          (List.suffix_append ..)
      have hdot : '.' :: middle <:+ front ++ Discovered.manualPairing :=
        hfront ▸ List.suffix_append ..
      rcases List.suffix_or_suffix_of_suffix hdot hlast with hsuffix | hsuffix
      · exact absurd (hsuffix.subset List.mem_cons_self) (by decide)
      · have hmem : '_' ∈ '.' :: middle := hsuffix.subset List.mem_cons_self
        rcases List.mem_cons.mp hmem with heq | hmem
        · exact absurd heq (by decide)
        · exact absurd (hrest ▸ List.mem_append_left back hmem) hdomain
  · exact fun hname => hname.trans (List.prefix_append ..).isInfix

/-! #### One event -/

variable {devices devices' : List Discovered.Device}
  {udidForMacaddr : List Char → Option (List Char)} {place : ℕ}

theorem hasSerial_unnamed (serial : List Char) (dev : Discovered.Device) :
    (unnamed dev).hasSerial serial = dev.hasSerial serial := by
  cases dev <;> rfl

theorem hasIp_unnamed (ipaddrs : List (List Char)) (dev : Discovered.Device) :
    (unnamed dev).hasIp ipaddrs = dev.hasIp ipaddrs := by
  cases dev <;> rfl

theorem isPairingWithIp_unnamed (ipaddrs : List (List Char)) (dev : Discovered.Device) :
    (unnamed dev).isPairingWithIp ipaddrs = dev.isPairingWithIp ipaddrs := by
  cases dev <;> rfl

/-- The device that is updated is the same, and gets the same from both backends. -/
theorem sameDevices_update (h : SameDevices devices devices') (uuid name : List Char) :
    SameDevices (Discovered.updateExisting devices uuid svc) (devices'.replaceF fun
      | .usb _ => none
      | .wifi dev => if uuid = dev.serial then
          some (.wifi ((Found.mk name svc.addrs svc.interface).update dev)) else none) := by
  refine h.replaceF fun dev dev' hdev => ?_
  cases dev with
  | usb serial =>
    cases dev' with
    | usb serial' => rfl
    | wifi dev' => cases hdev
  | wifi dev =>
    cases dev' with
    | usb serial' => cases hdev
    | wifi dev' =>
      injection hdev with hdev
      injection hdev with hserial hipaddr _ hinterface
      dsimp only
      rw [hserial]
      split
      · rw [Option.map_some, Option.map_some, unnamed, unnamed,
          Discovered.WifiDevice.updateDiscoveryInfo, Found.update, hserial]
      · rfl

/-- **A service is found**, and leads to the same devices, if its name allows it. -/
theorem sameDevices_found (hdomain : '_' ∉ domain) (h : SameDevices devices devices')
    (hplain : ∀ c ∈ svc.name, escape c = [c]) (hsvc : svc.isPairing = true ∨ '@' ∈ svc.name) :
    SameDevices (Discovered.resolverFound devices udidForMacaddr svc place)
      (getaddrFound devices' udidForMacaddr
        ⟨fullname escape domain svc, svc.addrs, svc.interface⟩ place) := by
  rw [fullname_eq hplain]
  have hpairing : (Found.mk (svc.serviceName ++ '.' :: domain) svc.addrs svc.interface).isPairing =
      svc.isPairing :=
    decide_eq_decide.mpr (manualPairing_infix_iff hdomain _)
  rw [Discovered.resolverFound, getaddrFound, hpairing]
  cases hkind : svc.isPairing with
  | true =>
    have hdot : '.' ∈ svc.serviceName := List.mem_append_right _ List.mem_cons_self
    have huuid : (Found.mk (svc.serviceName ++ '.' :: domain) svc.addrs
        svc.interface).pairingUuid = svc.pairingUuid := by
      rw [Found.pairingUuid, takeWhile_append_of_mem hdot (by decide),
        Discovered.Service.pairingUuid]
    have hip : Discovered.haveWifiDeviceWithIp devices svc.addrs =
        Discovered.haveWifiDeviceWithIp devices' svc.addrs := h.any (hasIp_unnamed _)
    rw [if_pos rfl, if_pos rfl, huuid, hip]
    split
    · exact h
    · exact h.insertAt rfl
  | false =>
    have hat : '@' ∈ svc.name := hsvc.resolve_left (by rw [hkind]; decide)
    have hmac : (Found.mk (svc.serviceName ++ '.' :: domain) svc.addrs svc.interface).macAddr =
        svc.macAddr := by
      rw [Found.macAddr, Discovered.Service.serviceName, List.append_assoc,
        takeWhile_append_of_mem hat (by decide), Discovered.Service.macAddr]
    rw [if_neg (by decide), if_neg (by decide), hmac]
    cases udidForMacaddr svc.macAddr with
    | none => exact h
    | some uuid =>
      have hserial : (Discovered.getWifiDeviceWithSerial devices uuid).isSome =
          (Discovered.getWifiDeviceWithSerial devices' uuid).isSome := by
        rw [Discovered.getWifiDeviceWithSerial, Discovered.getWifiDeviceWithSerial,
          List.isSome_find?, List.isSome_find?]
        exact h.any (hasSerial_unnamed uuid)
      dsimp only
      rw [hserial]
      split
      · exact sameDevices_update h uuid _
      · exact (h.eraseP (isPairingWithIp_unnamed _)).insertAt rfl

/-- **One event** of the one backend, and what it reports as an event of the other. -/
theorem sameDevices_step (hdomain : '_' ∉ domain) {e : Discovered.Event} {e' : Change}
    (he : Reports escape domain e e') (h : SameDevices devices devices') :
    ∃ after after', Discovered.step udidForMacaddr devices e = some after ∧
      change devices' udidForMacaddr e' = some after' ∧ SameDevices after after' := by
  cases he with
  | found hplain hsvc => exact ⟨_, _, rfl, rfl, sameDevices_found hdomain h hplain hsvc⟩
  | @remove name type replyType htype =>
    refine ⟨_, _, rfl, rfl, ?_⟩
    rw [Discovered.browserRemove, browseReplyRemove, if_congr htype rfl rfl]
    split
    · exact h.eraseP (hasSerial_unnamed _)
    · exact h
  | plugged => exact ⟨_, _, rfl, rfl, h.insertAt rfl⟩
  | left => exact ⟨_, _, rfl, rfl, h.eraseIdx⟩

/-- **The two ways to discover devices agree**: if avahi and mDNS report the same, one event after
the other, and there are the same devices before, then there are the same devices after it, but
for the names of their services. -/
theorem backends_agree (hdomain : '_' ∉ domain) {l : List Discovered.Event} {l' : List Change}
    (hl : List.Forall₂ (Reports escape domain) l l') (h : SameDevices devices devices') :
    ∃ after after', (discoveredMachine udidForMacaddr).runOk (fun _ _ => True) devices l =
        some after ∧
      (mdnsDevicesMachine udidForMacaddr).runOk (fun _ _ => True) devices' l' = some after' ∧
      SameDevices after after' := by
  induction hl generalizing devices devices' with
  | nil => exact ⟨_, _, rfl, rfl, h⟩
  | cons he _ ih =>
    obtain ⟨next, next', hs, hs', hnext⟩ := sameDevices_step hdomain he h
    obtain ⟨after, after', hrun, hrun', hafter⟩ := ih hnext
    refine ⟨after, after', ?_, ?_, hafter⟩
    · rw [Machine.runOk, if_pos trivial]
      exact Option.bind_eq_some_iff.mpr ⟨next, hs, hrun⟩
    · rw [Machine.runOk, if_pos trivial]
      exact Option.bind_eq_some_iff.mpr ⟨next', hs', hrun'⟩

/-- Dots and spaces are escaped, as the library does it in a full name; other characters need
not be looked at here. -/
def escapeDots (c : Char) : List Char := if c = '.' ∨ c = ' ' then ['\\', c] else [c]

/-- `local.`, the domain of all services that are found without a server. -/
def localDomain : List Char := ['l', 'o', 'c', 'a', 'l', '.']

/-- A device is paired by hand, and is then found under its MAC address, twice. -/
theorem backends_agree_paired : ∃ after after',
    (discoveredMachine fun _ => some ['u']).runOk (fun _ _ => True) []
      [.found (Discovered.manualService '4') 0, .found (Discovered.pairedService '4') 0,
        .found (Discovered.pairedService '6') 0] = some after ∧
    (mdnsDevicesMachine fun _ => some ['u']).runOk (fun _ _ => True) []
      [.found ⟨fullname escapeDots localDomain (Discovered.manualService '4'), [['4']], 2⟩ 0,
        .found ⟨fullname escapeDots localDomain (Discovered.pairedService '4'), [['4']], 2⟩ 0,
        .found ⟨fullname escapeDots localDomain (Discovered.pairedService '6'), [['6']], 2⟩ 0] =
      some after' ∧
    SameDevices after after' :=
  backends_agree (by decide)
    (.cons (.found (by simp [Discovered.manualService, escapeDots]) (Or.inl (by decide)))
      (.cons (.found (by simp [Discovered.pairedService, escapeDots]) (Or.inr (by decide)))
        (.cons (.found (by simp [Discovered.pairedService, escapeDots]) (Or.inr (by decide)))
          .nil))) rfl

end Backends

end MdnsClients

end Usbmuxd
