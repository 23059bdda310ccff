import Usbmuxd.Library.Ledger
import Usbmuxd.Manager.Constructing

/-!
# `device_add`

`USBDeviceManager::device_add` asks libusb a dozen things about a device that has been
plugged in, and each answer may end it. What it has got by then is kept in five pointers,
which a cleanup frees: the handle of the device, a configuration descriptor, a transfer,
its buffer, and a `shared_ptr` for the transfer. On the way the handle goes over to the
`USBDevice`, which closes it in its destructor, and at the end the transfer, its buffer and
the `shared_ptr` are left to libusb.

The function is given here with all that it asks (`Usbmuxd.DeviceAdd.Answers`), and with
the ledger of what it acquires and releases. What the pointers own at each moment is
`Usbmuxd.DeviceAdd.Owns`. The cleanup frees it, wherever the function ends
(`Usbmuxd.DeviceAdd.Owns.cleanup`). There is one thing that no pointer owns: if the
configuration has to be changed, its descriptor is read before and after, into the same
pointer (`Usbmuxd.DeviceAdd.Answers.leaks`).
-/

namespace Usbmuxd

open Constructing

namespace DeviceAdd

/-! ### What libusb answers -/

/-- `VID_APPLE`, the vendor of all devices that `device_add` goes on with. -/
def vidApple : BitVec 16 := 0x5ac

/-- `PID_RANGE_LOW`, the first of the product numbers that belong to devices with the
service. -/
def pidRangeLow : BitVec 16 := 0x1290

/-- `PID_RANGE_MAX`, the last of these product numbers. -/
def pidRangeMax : BitVec 16 := 0x12af

/-- `libusb_device_descriptor`, as far as it is read. libusb keeps it for every device, so that
reading it cannot fail because of the device. -/
structure DeviceDescriptor where
  idVendor : BitVec 16
  idProduct : BitVec 16
  bNumConfigurations : BitVec 8
  iSerialNumber : BitVec 8
  deriving DecidableEq

/-- `libusb_interface_descriptor`, as far as it is read: that of `altsetting[0]`, with the
addresses of its first two endpoints. -/
structure InterfaceDescriptor where
  bInterfaceNumber : BitVec 8
  bInterfaceClass : BitVec 8
  bInterfaceSubClass : BitVec 8
  bInterfaceProtocol : BitVec 8
  bNumEndpoints : BitVec 8
  endpoint0 : BitVec 8
  endpoint1 : BitVec 8

/-- `libusb_speed`, with one constructor for all values that the `switch` in `device_add` does
not name. -/
inductive LibusbSpeed
  | low
  | full
  | high
  | super
  | unknown
  | other
  deriving DecidableEq

/-- What libusb answers to one call of `device_add`, and whether there is memory. The answers
are given all at once, though most calls end before all of them are asked for. -/
structure Answers where
  /-- `libusb_get_device_descriptor`. -/
  deviceDescriptor : Option DeviceDescriptor
  /-- `libusb_open` succeeds. -/
  opened : Bool
  /-- `libusb_get_configuration`. -/
  configuration : Option ℤ
  /-- The first `libusb_get_active_config_descriptor` succeeds. -/
  oldConfig : Bool
  /-- `libusb_set_configuration` succeeds. -/
  setConfiguration : Bool
  /-- The second `libusb_get_active_config_descriptor`: the interfaces. -/
  config : Option (List InterfaceDescriptor)
  /-- The constructor of `USBDevice` succeeds. -/
  deviceMade : Bool
  /-- `libusb_claim_interface` succeeds. -/
  claimed : Bool
  /-- `libusb_alloc_transfer` succeeds. -/
  transferAllocated : Bool
  /-- `libusb_get_max_packet_size`. -/
  maxPacketSize : ℤ
  /-- `libusb_get_device_speed`. -/
  speed : LibusbSpeed
  /-- There is memory for the buffer. -/
  bufferAllocated : Bool
  /-- `libusb_submit_transfer` succeeds. -/
  submitted : Bool

/-! ### The interface -/

/-- `LIBUSB_ENDPOINT_OUT`, for what goes to the device. -/
def endpointOut : BitVec 8 := 0x00

/-- `LIBUSB_ENDPOINT_IN`, for what comes from it. -/
def endpointIn : BitVec 8 := 0x80

/-- `_interface`, `_ep_out` and `_ep_in`, which come from one interface descriptor. -/
structure Endpoints where
  interface : BitVec 8
  epOut : BitVec 8
  epIn : BitVec 8
  deriving DecidableEq

/-- What one turn of the loop over the interfaces finds. The two endpoints of the interface
may come in either order, and an interface that has them both in the same direction is
passed over. -/
def InterfaceDescriptor.endpoints (intf : InterfaceDescriptor) : Option Endpoints :=
  if intf.bInterfaceClass ≠ 255 ∨ intf.bInterfaceSubClass ≠ 254 ∨ intf.bInterfaceProtocol ≠ 2 then
    none
  else if intf.bNumEndpoints ≠ 2 then none
  else if intf.endpoint0 &&& 0x80 = endpointOut ∧ intf.endpoint1 &&& 0x80 = endpointIn then
    some ⟨intf.bInterfaceNumber, intf.endpoint0, intf.endpoint1⟩
  else if intf.endpoint1 &&& 0x80 = endpointOut ∧ intf.endpoint0 &&& 0x80 = endpointIn then
    some ⟨intf.bInterfaceNumber, intf.endpoint1, intf.endpoint0⟩
  else none

/-- The loop over the interfaces, up to `found_device`. It stops at the first interface that is
right, and the others are not looked at. -/
def findInterface (interfaces : List InterfaceDescriptor) : Option Endpoints :=
  interfaces.findSome? InterfaceDescriptor.endpoints

/-- What a `USBDevice` is told by `device_add`. The serial number is not among it, which is
requested only afterwards. -/
structure UsbInfo where
  /-- `_bus` and `_address`. -/
  location : Location
  /-- `_pid`. -/
  pid : BitVec 16
  /-- `_devdesc.iSerialNumber`. -/
  iSerialNumber : BitVec 8
  /-- The interface and its endpoints. -/
  endpoints : Endpoints
  /-- `_wMaxPacketSize`. -/
  wMaxPacketSize : ℤ
  /-- `_speed`. -/
  speed : ℕ
  deriving DecidableEq

/-- `_speed`, in bits per second. Everything that is not known is taken for high speed. -/
def LibusbSpeed.bits : LibusbSpeed → ℕ
  | .low => 1500000
  | .full => 12000000
  | .super => 5000000000
  | .high | .unknown | .other => 480000000

/-- **The endpoints go in the right directions**, and packets are not empty. The first is what
sending and receiving rely on, the second is needed to divide by the size of a packet. -/
structure UsbInfo.Usable (info : UsbInfo) : Prop where
  epOut : info.endpoints.epOut &&& 0x80 = endpointOut
  epIn : info.endpoints.epIn &&& 0x80 = endpointIn
  wMaxPacketSize : 1 ≤ info.wMaxPacketSize

theorem endpoints_directions {intf : InterfaceDescriptor} {ep : Endpoints}
    (h : intf.endpoints = some ep) : ep.epOut &&& 0x80 = endpointOut ∧
      ep.epIn &&& 0x80 = endpointIn := by
  unfold InterfaceDescriptor.endpoints at h
  split_ifs at h with hclass hcount hdirect hswapped
  · exact Option.some.inj h ▸ hdirect
  · exact Option.some.inj h ▸ hswapped

/-! ### The pointers -/

/-- What `device_add` acquires. As a call acquires one of each kind at most, a kind says which
of its resources is meant. -/
inductive Kind
  /-- The device handle. -/
  | handle
  /-- The descriptor of the configuration before it is changed. -/
  | oldConfig
  /-- The descriptor of the configuration. -/
  | config
  /-- The `shared_ptr` for the transfer. -/
  | transferdevref
  /-- The transfer. -/
  | transfer
  /-- The buffer of the transfer. -/
  | transferBuffer
  deriving DecidableEq

/-- What the call with a number acquires. Calls are numbered, so that what one call has lost is
not taken for what another has acquired. -/
abbrev Item := ℕ × Kind

/-- The pointers of `device_add`, and the ledger. The ledger is part of them, because it is
written whenever they are. -/
structure Locals where
  ledger : Ledger Item
  transferBuffer : Option Item
  transfer : Option Item
  transferdevref : Option Item
  /-- `newDevice->_usbdev`. -/
  usbdev : Option Item
  config : Option Item
  handle : Option Item

namespace Locals

/-- All pointers are null, as at the beginning of every call. -/
def start (ledger : Ledger Item) : Locals := ⟨ledger, none, none, none, none, none, none⟩

variable (v : Locals) (n : ℕ)

/-- `libusb_open`, into the pointer `handle`, which the cleanup closes. -/
def openHandle : Locals :=
  { v with ledger := v.ledger.acquire (n, .handle), handle := some (n, .handle) }

/-- `libusb_get_active_config_descriptor`, into the pointer `config`. What the pointer pointed
to before is not freed, and it cannot be found again afterwards. -/
def getConfig (kind : Kind) : Locals :=
  { v with ledger := v.ledger.acquire (n, kind), config := some (n, kind) }

/-- `newDevice` is made, and a `shared_ptr` for the transfer, which keeps the device as long as
libusb has the transfer. -/
def newDevice : Locals :=
  { v with
    ledger := v.ledger.acquire (n, .transferdevref)
    transferdevref := some (n, .transferdevref) }

/-- `libusb_alloc_transfer`, for the request of the language IDs. -/
def allocTransfer : Locals :=
  { v with ledger := v.ledger.acquire (n, .transfer), transfer := some (n, .transfer) }

/-- `newDevice->_usbdev = handle; handle = NULL;`. From here on the destructor of the device
closes the handle, and the cleanup does not. -/
def giveHandle : Locals := { v with usbdev := v.handle, handle := none }

/-- `transfer_buffer` is allocated, into which the answer of the device is written. -/
def allocBuffer : Locals :=
  { v with
    ledger := v.ledger.acquire (n, .transferBuffer)
    transferBuffer := some (n, .transferBuffer) }

/-- The transfer is submitted, and libusb has what belongs to it: the pointers are set to null,
and nothing of it is freed by this call. -/
def submitted : Locals :=
  { v with transferdevref := none, transfer := none, transferBuffer := none }

/-- What the destructor of the device closes, if the device goes with `transferdevref`.
Nobody else has a pointer to it yet, unless the manager is taken down at that moment. -/
def dying : Option Item := if v.transferdevref.isSome then v.usbdev else none

/-- What the cleanup frees, in this order. It is what the pointers point to that are not null by
then. -/
def owned : List (Option Item) :=
  [v.transferBuffer, v.transfer, v.transferdevref, v.dying, v.config, v.handle]

/-- The cleanup. It runs at the end of every call, and also when an exception is thrown. -/
def cleanup : Ledger Item := v.ledger.freeAll v.owned

end Locals

/-! ### The function -/

/-- How a call of `device_add` ends: whether it has started a construction, the ledger after
it, and what the device has been told. -/
structure Result where
  outcome : Outcome
  ledger : Ledger Item
  info : Option UsbInfo

/-- It throws, or returns before it has done anything. In both cases nothing has been handed
over. -/
def Locals.ends (v : Locals) (outcome : Outcome) : Result := ⟨outcome, v.cleanup, none⟩

/-- `_wMaxPacketSize`. libusb gives a negative number if it does not find the endpoint, which is
why there is a test for it. -/
def Answers.wMaxPacketSize (a : Answers) : ℤ :=
  if a.maxPacketSize ≤ 0 then 64 else a.maxPacketSize

/-- The configuration is changed, and its descriptor is read before and after. These are the
calls that lose a descriptor. -/
def Answers.rereads (a : Answers) (devdesc : DeviceDescriptor) : Bool :=
  match a.configuration with
  | none => false
  | some currentConfig => decide (currentConfig ≠ devdesc.bNumConfigurations.toNat) &&
      a.oldConfig && a.setConfiguration && a.config.isSome

/-- A call for a device that has not been found gets as far as that. -/
def Answers.leaks (a : Answers) (loc : Location) (found : Bool) : Bool :=
  loc.address != 0 && !found &&
    match a.deviceDescriptor with
    | none => false
    | some devdesc => decide (devdesc.idVendor = vidApple ∧ pidRangeLow ≤ devdesc.idProduct ∧
        devdesc.idProduct ≤ pidRangeMax) && a.opened && a.rereads devdesc

section Function

variable (v : Locals) (n : ℕ) (loc : Location) (devdesc : DeviceDescriptor) (a : Answers)

/-- `device_add` from `found_device` on: the device is made, and the language IDs are requested
from it. -/
def request (ep : Endpoints) : Result :=
  if a.claimed = false then v.ends .threw
  else if a.transferAllocated = false then v.ends .threw
  else
    let v := (v.allocTransfer n).giveHandle
    if a.bufferAllocated = false then v.ends .threw
    else
      let v := v.allocBuffer n
      if a.submitted = false then v.ends .threw
      else
        ⟨.started, v.submitted.cleanup, some
          { location := loc
            pid := devdesc.idProduct
            iSerialNumber := devdesc.iSerialNumber
            endpoints := ep
            wMaxPacketSize := a.wMaxPacketSize
            speed := a.speed.bits }⟩

/-- `device_add` from the second `libusb_get_active_config_descriptor` on, with the
configuration that is to be used. -/
def construct : Result :=
  match a.config with
  | none => v.ends .threw
  | some interfaces =>
    let v := v.getConfig n .config
    if a.deviceMade = false then v.ends .threw
    else
      let v := v.newDevice n
      match findInterface interfaces with
      | none => v.ends .threw
      | some ep => request v n loc devdesc a ep

/-- `device_add` from `libusb_get_configuration` on. The configuration is changed if it is not
the last one of the device. -/
def configure : Result :=
  match a.configuration with
  | none => v.ends .threw
  | some currentConfig =>
    if currentConfig ≠ devdesc.bNumConfigurations.toNat then
      let v := if a.oldConfig then v.getConfig n .oldConfig else v
      if a.setConfiguration = false then v.ends .threw else construct v n loc devdesc a
    else construct v n loc devdesc a

/-- `USBDeviceManager::device_add`, the call with number `n`; `found` is whether the device
has been found already. Kernel drivers are detached on the way, which nothing depends on. -/
def deviceAdd (found : Bool) (L : Ledger Item) : Result :=
  let v := Locals.start L
  if loc.address = 0 then v.ends .threw
  else if found then v.ends .found
  else
    match a.deviceDescriptor with
    | none => v.ends .threw
    | some devdesc =>
      if devdesc.idVendor ≠ vidApple then v.ends .threw
      else if ¬(pidRangeLow ≤ devdesc.idProduct ∧ devdesc.idProduct ≤ pidRangeMax) then
        v.ends .threw
      else if a.opened = false then v.ends .threw
      else configure (v.openHandle n) n loc devdesc a

end Function

/-! ### Who owns what -/

/-- What the call `n` has acquired of some kinds. In this form it is said what a call leaves
behind. -/
def itemsOf (n : ℕ) (kinds : List Kind) : Set Item := {r | r.1 = n ∧ r.2 ∈ kinds}

/-- **What is in use while the call `n` runs**: what it has of some kinds, and what is not
its own any more or never was. -/
structure Owns (L : Ledger Item) (n : ℕ) (S : Set Item) (kinds : List Kind) : Prop where
  holds : L.Holds (S ∪ itemsOf n kinds)
  /-- What is not in use has not been acquired. -/
  fresh : ∀ k, k ∉ kinds → (n, k) ∉ S → L.acquired (n, k) = 0
  apart : ∀ k ∈ kinds, (n, k) ∉ S
  nodup : kinds.Nodup
  /-- Later calls have not acquired anything. -/
  later : ∀ m, n < m → ∀ k, L.acquired (m, k) = 0

namespace Owns

variable {L : Ledger Item} {n : ℕ} {S : Set Item} {kinds : List Kind} {k : Kind}

/-- Before the call has acquired anything. -/
theorem start (h : L.Holds S) (hfresh : ∀ m, n ≤ m → ∀ k, L.acquired (m, k) = 0) :
    Owns L n S [] where
  holds := by
    have hnone : S ∪ itemsOf n [] = S := by simp [itemsOf]
    rw [hnone]
    exact h
  fresh := fun k _ _ => hfresh n Nat.le.refl k
  apart := fun _ hk => absurd hk List.not_mem_nil
  nodup := List.nodup_nil
  later := fun m hm => hfresh m hm.le

theorem acquire (h : Owns L n S kinds) (hk : k ∉ kinds) (hS : (n, k) ∉ S) :
    Owns (L.acquire (n, k)) n S (k :: kinds) where
  holds := by
    have hset : S ∪ itemsOf n (k :: kinds) = insert (n, k) (S ∪ itemsOf n kinds) := by
      ext ⟨m, k'⟩
      simp only [itemsOf, Set.mem_union, Set.mem_ofPred_eq, List.mem_cons, Set.mem_insert_iff,
        Prod.mk.injEq]
      tauto
    rw [hset]
    exact h.holds.acquire (h.fresh k hk hS)
  fresh := by
    rintro k' hk' hS'
    rw [List.mem_cons, not_or] at hk'
    rw [Ledger.acquire_of_ne fun heq => hk'.1 (Prod.mk.inj heq).2]
    exact h.fresh k' hk'.2 hS'
  apart := by
    rintro k' hk'
    rcases List.mem_cons.mp hk' with rfl | hk'
    · exact hS
    · exact h.apart k' hk'
  nodup := List.nodup_cons.mpr ⟨hk, h.nodup⟩
  later := by
    rintro m hm k'
    rw [Ledger.acquire_of_ne fun heq => hm.ne' (Prod.mk.inj heq).1]
    exact h.later m hm k'

/-- Something is not its own any more. -/
theorem leave (h : Owns L n S (k :: kinds)) : Owns L n (insert (n, k) S) kinds where
  holds := by
    have hset : insert (n, k) S ∪ itemsOf n kinds = S ∪ itemsOf n (k :: kinds) := by
      ext ⟨m, k'⟩
      simp only [itemsOf, Set.mem_union, Set.mem_ofPred_eq, List.mem_cons, Set.mem_insert_iff,
        Prod.mk.injEq]
      tauto
    rw [hset]
    exact h.holds
  fresh := by
    rintro k' hk' hS'
    rw [Set.mem_insert_iff, not_or] at hS'
    refine h.fresh k' (fun hmem => ?_) hS'.2
    rcases List.mem_cons.mp hmem with rfl | hmem
    · exact hS'.1 rfl
    · exact hk' hmem
  apart := by
    rintro k' hk' (heq | hS')
    · exact (List.nodup_cons.mp h.nodup).1 ((Prod.mk.inj heq).2 ▸ hk')
    · exact h.apart k' (List.mem_cons_of_mem _ hk') hS'
  nodup := (List.nodup_cons.mp h.nodup).2
  later := h.later

theorem perm {kinds' : List Kind} (h : Owns L n S kinds) (hperm : kinds.Perm kinds') :
    Owns L n S kinds' where
  holds := by
    have hset : itemsOf n kinds' = itemsOf n kinds := by
      ext r
      simp only [itemsOf, Set.mem_ofPred_eq, hperm.mem_iff]
    rw [hset]
    exact h.holds
  fresh := fun k hk => h.fresh k fun hmem => hk (hperm.mem_iff.mp hmem)
  apart := fun k hk => h.apart k (hperm.mem_iff.mpr hk)
  nodup := hperm.nodup_iff.mp h.nodup
  later := h.later

/-- **The cleanup frees what is still its own**, and nothing else. In which order it does so
makes no difference. -/
theorem cleanup {v : Locals} (h : Owns v.ledger n S kinds)
    (howned : v.owned.reduceOption.Perm (kinds.map (Prod.mk n))) : v.cleanup.Holds S := by
  have hinj : Function.Injective (Prod.mk n : Kind → Item) := fun _ _ heq => (Prod.mk.inj heq).2
  have hmem : ∀ r, some r ∈ v.owned ↔ r ∈ itemsOf n kinds := by
    rintro ⟨m, k⟩
    rw [← List.reduceOption_mem_iff, howned.mem_iff]
    simp [itemsOf, and_comm, eq_comm]
  have hfreed := h.holds.freeAll (howned.nodup_iff.mpr (h.nodup.map hinj))
    fun r hr => Or.inr ((hmem r).mp hr)
  have hset : {r ∈ S ∪ itemsOf n kinds | some r ∉ v.owned} = S := by
    ext ⟨m, k⟩
    simp only [Set.mem_ofPred_eq, hmem, Set.mem_union]
    constructor
    · rintro ⟨hS | hown, hnot⟩
      · exact hS
      · exact absurd hown hnot
    · rintro hS
      refine ⟨Or.inl hS, ?_⟩
      rintro ⟨rfl, hk⟩
      exact h.apart k hk hS
  rw [hset] at hfreed
  exact hfreed

end Owns

/-! ### What a call leaves -/

/-- What is in use for a device under construction: all that the callbacks need, and that is
freed by them. -/
def inConstruction (n : ℕ) : Set Item :=
  itemsOf n [.transferBuffer, .transfer, .transferdevref, .handle]

/-- **What a call leaves in use**, apart from `S`: nothing, or what a construction needs. -/
structure Result.Meets (r : Result) (n : ℕ) (loc : Location) (S : Set Item) : Prop where
  started : r.outcome = .started → r.ledger.Holds (S ∪ inConstruction n) ∧
    ∃ info, r.info = some info ∧ info.Usable ∧ info.location = loc
  ended : r.outcome ≠ .started → r.ledger.Holds S
  later : ∀ m, n < m → ∀ k, r.ledger.acquired (m, k) = 0

section Spec

variable {L : Ledger Item} {n : ℕ} {S : Set Item} {kinds : List Kind} {loc : Location}
  {devdesc : DeviceDescriptor} {a : Answers}

/-- **Wherever the call ends**, the cleanup leaves nothing of what the call has still got. So it
is enough to know, at each way out, what that is. -/
theorem Owns.ends {v : Locals} (h : Owns v.ledger n S kinds)
    (howned : v.owned.reduceOption.Perm (kinds.map (Prod.mk n))) {outcome : Outcome}
    (hout : outcome ≠ .started) : (v.ends outcome).Meets n loc S where
  started := fun heq => absurd heq hout
  ended := fun _ => h.cleanup howned
  later := by
    rintro m hm k
    exact (congrFun (Ledger.freeAll_acquired ..) _).trans (h.later m hm k)

/-- **The transfer is submitted**: only the descriptor is freed, and all the rest is in use
until the callbacks have been called. -/
theorem Owns.started {v : Locals} {info : UsbInfo}
    (h : Owns v.ledger n S [.transferBuffer, .transfer, .transferdevref, .handle, .config])
    (howned : v.owned.reduceOption = [(n, .config)]) (husable : info.Usable)
    (hloc : info.location = loc) :
    Result.Meets ⟨.started, v.cleanup, some info⟩ n loc S where
  started := by
    rintro -
    refine ⟨?_, info, rfl, husable, hloc⟩
    have hset : insert (n, Kind.handle) (insert (n, Kind.transferdevref)
        (insert (n, Kind.transfer) (insert (n, Kind.transferBuffer) S))) =
          S ∪ inConstruction n := by
      ext ⟨m, k⟩
      simp only [inConstruction, itemsOf, Set.mem_insert_iff, Set.mem_union, Set.mem_ofPred_eq,
        List.mem_cons, List.not_mem_nil, or_false, Prod.mk.injEq]
      tauto
    rw [← hset]
    exact h.leave.leave.leave.leave.cleanup (List.Perm.of_eq howned)
  ended := fun heq => absurd rfl heq
  later := by
    rintro m hm k
    exact (congrFun (Ledger.freeAll_acquired ..) _).trans (h.later m hm k)

/-- From `found_device` on. Whatever fails here leaves nothing behind, since each pointer is set
to null exactly when its resource is handed over. -/
theorem request_meets {ep : Endpoints} {intf : InterfaceDescriptor}
    (h : Owns L n S [.transferdevref, .config, .handle]) (hS : ∀ k, k ≠ .oldConfig → (n, k) ∉ S)
    (hep : intf.endpoints = some ep) :
    (request ⟨L, none, none, some (n, .transferdevref), none, some (n, .config),
      some (n, .handle)⟩ n loc devdesc a ep).Meets n loc S := by
  have htransfer := h.acquire (k := .transfer) (by decide) (hS .transfer nofun)
  have hbuffer := htransfer.acquire (k := .transferBuffer) (by decide) (hS .transferBuffer nofun)
  unfold request
  dsimp only
  split_ifs
  · exact h.ends .rfl nofun
  · exact h.ends .rfl nofun
  · -- the handle is the device's, and goes with it
    refine Owns.ends htransfer ?_ nofun
    exact .cons _ (.cons _ (.swap ..))
  · refine Owns.ends hbuffer ?_ nofun
    exact .cons _ (.cons _ (.cons _ (.swap ..)))
  · have hpacket : 1 ≤ a.wMaxPacketSize := by
      unfold Answers.wMaxPacketSize
      split_ifs <;> omega
    have hdirections := endpoints_directions hep
    refine Owns.started (hbuffer.perm ?_) rfl ⟨hdirections.1, hdirections.2, hpacket⟩ rfl
    exact .cons _ (.cons _ (.cons _ (.swap ..)))

/-- The descriptor of the configuration has been read, whatever the pointer pointed to before.
What it pointed to is none of this call's business any more. -/
theorem construct_of_config {old : Option Item} {interfaces : List InterfaceDescriptor}
    (h : Owns (L.acquire (n, .config)) n S [.config, .handle])
    (hS : ∀ k, k ≠ .oldConfig → (n, k) ∉ S) (hconfig : a.config = some interfaces) :
    (construct ⟨L, none, none, none, none, old, some (n, .handle)⟩ n loc devdesc a).Meets n loc
      S := by
  have hdevice := h.acquire (k := .transferdevref) (by decide) (hS .transferdevref nofun)
  unfold construct
  rw [hconfig]
  dsimp only
  split_ifs
  · exact h.ends .rfl nofun
  · cases hfind : findInterface interfaces with
    | none => exact Owns.ends hdevice .rfl nofun
    | some ep =>
      obtain ⟨intf, -, hep⟩ := List.exists_of_findSome?_eq_some hfind
      exact request_meets hdevice hS hep

/-- The configuration is not changed. Then the pointer is written once, and nothing is lost. -/
theorem construct_meets (h : Owns L n S [.handle]) (hS : ∀ k, (n, k) ∉ S) :
    (construct ⟨L, none, none, none, none, none, some (n, .handle)⟩ n loc devdesc a).Meets n loc
      S := by
  cases hconfig : a.config with
  | none =>
    unfold construct
    rw [hconfig]
    exact h.ends .rfl nofun
  | some interfaces =>
    exact construct_of_config (h.acquire (by decide) (hS .config)) (fun k _ => hS k) hconfig

/-- **The configuration has been changed**: the old descriptor is lost when the new one is
read. -/
theorem construct_meets_old (h : Owns L n S [.oldConfig, .handle]) (hS : ∀ k, (n, k) ∉ S) :
    (construct ⟨L, none, none, none, none, some (n, .oldConfig), some (n, .handle)⟩ n loc devdesc
      a).Meets n loc (if a.config.isSome then insert (n, .oldConfig) S else S) := by
  cases hconfig : a.config with
  | none =>
    unfold construct
    rw [hconfig]
    exact h.ends .rfl nofun
  | some interfaces =>
    have hnot : ∀ k, k ≠ .oldConfig → (n, k) ∉ insert (n, Kind.oldConfig) S := by
      rintro k hk (heq | hmem)
      · exact hk (Prod.mk.inj heq).2
      · exact hS k hmem
    exact construct_of_config (h.leave.acquire (by decide) (hnot .config nofun)) hnot hconfig

/-- The old descriptor that a call loses, if it reads the descriptor a second time. -/
def lost (n : ℕ) (leaks : Bool) : Set Item := {r | r = (n, .oldConfig) ∧ leaks = true}

theorem Result.Meets.congr {r : Result} {T : Set Item} (h : r.Meets n loc S) (hset : S = T) :
    r.Meets n loc T := hset ▸ h

theorem union_lost_false : S ∪ lost n false = S := by
  simp [lost]

theorem union_lost_true : S ∪ lost n true = insert (n, .oldConfig) S := by
  ext r
  simp [lost, or_comm]

/-- From `libusb_get_configuration` on. This is where the two cases part: the pointer is written
twice, or once. -/
theorem configure_meets (h : Owns L n S [.handle]) (hS : ∀ k, (n, k) ∉ S) :
    (configure ⟨L, none, none, none, none, none, some (n, .handle)⟩ n loc devdesc a).Meets n loc
      (S ∪ lost n (a.rereads devdesc)) := by
  have hold := h.acquire (k := .oldConfig) (by decide) (hS .oldConfig)
  unfold configure Answers.rereads
  cases a.configuration with
  | none =>
    rw [union_lost_false]
    exact h.ends .rfl nofun
  | some currentConfig =>
    dsimp only
    by_cases hchange : currentConfig ≠ devdesc.bNumConfigurations.toNat
    · rw [if_pos hchange, decide_eq_true hchange, Bool.true_and]
      cases a.oldConfig with
      | false =>
        rw [Bool.false_and, Bool.false_and, union_lost_false]
        simp only [Bool.false_eq_true, if_false]
        split_ifs
        · exact h.ends .rfl nofun
        · exact construct_meets h hS
      | true =>
        rw [Bool.true_and]
        cases a.setConfiguration with
        | false =>
          rw [Bool.false_and, union_lost_false]
          exact Owns.ends hold .rfl nofun
        | true =>
          refine (construct_meets_old hold hS).congr ?_
          cases a.config.isSome with
          | false => exact union_lost_false.symm
          | true => exact union_lost_true.symm
    · rw [if_neg hchange, decide_eq_false hchange, Bool.false_and, Bool.false_and,
        Bool.false_and, union_lost_false]
      exact construct_meets h hS

/-- **What a call of `device_add` leaves in use**: what a construction needs, if one has
been started, and the old descriptor, if it leaks. -/
theorem deviceAdd_meets {found : Bool} (h : L.Holds S) (hS : ∀ k, (n, k) ∉ S)
    (hfresh : ∀ m, n ≤ m → ∀ k, L.acquired (m, k) = 0) :
    (deviceAdd n loc a found L).Meets n loc (S ∪ lost n (a.leaks loc found)) := by
  have hstart : Owns L n S [] := .start h hfresh
  have hnothing : ∀ {outcome : Outcome}, outcome ≠ .started → a.leaks loc found = false →
      ((Locals.start L).ends outcome).Meets n loc (S ∪ lost n (a.leaks loc found)) := by
    rintro outcome hout hleaks
    rw [hleaks, union_lost_false]
    exact Owns.ends (v := .start L) hstart .rfl hout
  unfold deviceAdd
  dsimp only
  by_cases haddress : loc.address = 0
  · rw [if_pos haddress]
    exact hnothing nofun (by simp [Answers.leaks, haddress])
  rw [if_neg haddress]
  by_cases hfound : found = true
  · rw [if_pos hfound]
    exact hnothing nofun (by simp [Answers.leaks, hfound])
  rw [if_neg hfound]
  cases hdesc : a.deviceDescriptor with
  | none => exact hnothing nofun (by simp [Answers.leaks, hdesc])
  | some devdesc =>
    dsimp only
    split_ifs with hvendor hpid hopened
    · exact hnothing nofun (by simp [Answers.leaks, hdesc, hvendor])
    · refine hnothing nofun ?_
      simp only [Answers.leaks, hdesc, hopened]
      simp
    · have hleaks : a.leaks loc found = a.rereads devdesc := by
        rw [Answers.leaks, bne_iff_ne.mpr haddress, hdesc]
        simp [hfound, not_not.mp hvendor, hpid, hopened]
      rw [hleaks]
      exact configure_meets (hstart.acquire (by decide) (hS .handle)) hS
    · refine hnothing nofun ?_
      simp only [Answers.leaks, hdesc]
      simp [hpid]

end Spec

end DeviceAdd

end Usbmuxd
