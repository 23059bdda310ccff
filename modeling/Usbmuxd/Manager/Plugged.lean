import Usbmuxd.Manager.DeviceAdd

/-!
# From `device_add` to the last pointer

A device that has been plugged in belongs to several parts of the program in turn.
`device_add` leaves it to a transfer, whose callbacks ask for the language IDs and for the
serial number, and which has a pointer to the device of its own. The second callback starts
the receive loops, whose transfers have pointers too, and the muxer gets another one when
the device has answered. When the last pointer goes, the device closes its handle.

All this is one machine here, over the one of `_constructing`
(`Usbmuxd.Plugged.core`). It goes with the ledger of what `device_add` acquires, and the
statement is that the ledger agrees with the pointers (`Usbmuxd.Plugged.inUse`): a handle is
open as long as there is a pointer to its device, and what a construction needs is freed
with it, once, whichever callback it ends in.
-/

namespace Usbmuxd

open Interleaving Constructing DeviceAdd

/-- The manager of the USB devices, with all that `device_add` acquires. The devices go by
the number of the call that has made them. -/
structure Plugged where
  /-- `_constructing`, and what it is compared with. -/
  core : Constructing
  /-- How often `device_add` has been called. -/
  calls : ℕ
  /-- The transfer a call has submitted, as long as libusb has it. -/
  job : ℕ → Option Construction
  /-- `LIBUSB_TRANSFER_FREE_BUFFER` is set in the flags of the transfer. -/
  freeBuffer : ℕ → Bool
  /-- What the device has been told. -/
  info : ℕ → Option UsbInfo
  /-- The USB devices in `_devices` of the muxer. -/
  muxer : List ℕ
  /-- How many other pointers to the device there are. -/
  holders : ℕ → ℕ
  /-- The call has lost a descriptor. -/
  leaked : ℕ → Bool
  ledger : Ledger Item

namespace Plugged

section Functions

variable (s : Plugged) (n : ℕ) (loc : Location)

/-- Nothing is plugged in, and nothing has been acquired. -/
def init : Plugged where
  core := Constructing.init
  calls := 0
  job := fun _ => none
  freeBuffer := fun _ => false
  info := fun _ => none
  muxer := []
  holders := fun _ => 0
  leaked := fun _ => false
  ledger := .empty

/-- There is a pointer to the device: with its transfer, in the muxer, or with somebody who has
been given one. -/
def Alive : Prop := (s.job n).isSome = true ∨ n ∈ s.muxer ∨ 0 < s.holders n

instance : Decidable (s.Alive n) := inferInstanceAs (Decidable (_ ∨ _))

/-- A pointer to the device has gone. If it was the last one, `~USBDevice` closes the
handle. -/
def drop : Plugged :=
  if s.Alive n then s else { s with ledger := s.ledger.release (n, .handle) }

/-- `USBDeviceManager::device_add`, as a whole. What it leaves in use is for the callbacks to
free. -/
def deviceAdd (a : Answers) : Plugged :=
  let found := s.core.haveUsbDevice loc || s.core.isConstructing loc
  let r := DeviceAdd.deviceAdd s.calls loc a found s.ledger
  let called : Plugged :=
    { s with
      calls := s.calls + 1
      leaked := Function.update s.leaked s.calls (a.leaks loc found)
      ledger := r.ledger }
  if r.outcome = .started then
    { called with
      core := { s.core with
        constructions := ⟨loc, .langid⟩ :: s.core.constructions
        made := loc :: s.core.made }.addConstructing loc
      job := Function.update s.job s.calls (some ⟨loc, .langid⟩)
      info := Function.update s.info s.calls r.info }
  else called

/-- The construction is over: `del_constructing`, and the `shared_ptr` and the transfer are
freed. `libusb_free_transfer` frees the buffer as well, if the flag is set. -/
def finish : Plugged :=
  let ledger := (s.ledger.release (n, .transferdevref)).release (n, .transfer)
  { s with
    core := s.core.finish loc
    job := Function.update s.job n none
    ledger := if s.freeBuffer n then ledger.release (n, .transferBuffer) else ledger }.drop n

/-- `usb_get_langid_callback`, which either submits the transfer again or ends the
construction. -/
def langid (completed submitted : Bool) : Option Plugged :=
  match s.job n with
  | some ⟨loc, .langid⟩ =>
    let flagged := { s with freeBuffer := Function.update s.freeBuffer n true }
    if completed && submitted then
      -- the same transfer is used again
      some { flagged with
        core := { s.core with
          constructions := s.core.constructions.map fun c =>
            if c.location = loc then ⟨loc, .serial⟩ else c }
        job := Function.update s.job n (some ⟨loc, .serial⟩) }
    else some (flagged.finish n loc)
  | _ => none

/-- `NUM_RX_LOOPS`, how many receivers a device is meant to get. -/
def numRxLoops : ℕ := 3

/-- The loop that starts the receive loops: `rx_loops` at its end, and how many of them have
been started. -/
def rxLoops (started : Fin numRxLoops → Bool) : ℕ × ℕ :=
  (List.ofFn started).foldl (fun v ok => (v.1 + 1, if ok then v.2 + 1 else v.2)) (0, 0)

/-- The pointers that are made in `usb_get_serial_callback`: one for each receive loop, and
one for the version packet, if it is `sent`. -/
def newPointers (completed : Bool) (started : Fin numRxLoops → Bool) (sent : Bool) : ℕ :=
  if completed = false then 0
  else
    let (rx_loops, receivers) := rxLoops started
    if rx_loops = 0 then receivers
    else if sent then receivers + 1
    else receivers

/-- `usb_get_serial_callback`, with which the construction ends in any case. If all is well, the
device has its receivers by then, and is going to be attached. -/
def serial (completed : Bool) (started : Fin numRxLoops → Bool) (sent : Bool) :
    Option Plugged :=
  match s.job n with
  | some ⟨loc, .serial⟩ =>
    let pointers := s.holders n + newPointers completed started sent
    some ({ s with holders := Function.update s.holders n pointers }.finish n loc)
  | _ => none

/-- Someone takes another pointer to a device: the reaper, a transfer, a client. -/
def hold : Option Plugged :=
  if s.Alive n then some { s with holders := Function.update s.holders n (s.holders n + 1) }
  else none

/-- Someone lets go of it, and the handle is closed if nobody else has a pointer. -/
def letGo : Option Plugged :=
  if 0 < s.holders n then
    some ({ s with holders := Function.update s.holders n (s.holders n - 1) }.drop n)
  else none

/-- `Muxer::add_device`, which takes over the pointer of the callback. -/
def attach : Option Plugged :=
  if s.Alive n then
    (s.info n).map fun info =>
      { s with
        core := { s.core with attached := info.location :: s.core.attached }
        muxer := n :: s.muxer }
  else none

/-- A device is removed from the muxer, by its place there. The same device might be in the list
more than once. -/
def detach (place : ℕ) : Option Plugged :=
  s.muxer[place]?.map fun n =>
    { s with
      core := { s.core with attached := s.core.attached.eraseIdx place }
      muxer := s.muxer.eraseIdx place }.drop n

/-- What happens. The answers of libusb are in the labels, so that they may be anything. -/
inductive Label
  /-- `device_add` is called. -/
  | deviceAdd (loc : Location) (a : Answers)
  /-- `usb_get_langid_callback`. -/
  | langid (n : ℕ) (completed submitted : Bool)
  /-- `usb_get_serial_callback`. -/
  | serial (n : ℕ) (completed : Bool) (started : Fin numRxLoops → Bool) (sent : Bool)
  /-- A pointer is taken. -/
  | hold (n : ℕ)
  /-- A pointer goes. -/
  | letGo (n : ℕ)
  /-- `Muxer::add_device`. -/
  | attach (n : ℕ)
  /-- A device is removed from the muxer. -/
  | detach (place : ℕ)

/-- One step. Only the callbacks and the muxer need something to have happened before. -/
def step : Label → Option Plugged
  | .deviceAdd loc a => some (s.deviceAdd loc a)
  | .langid n completed submitted => s.langid n completed submitted
  | .serial n completed started sent => s.serial n completed started sent
  | .hold n => s.hold n
  | .letGo n => s.letGo n
  | .attach n => s.attach n
  | .detach place => s.detach place

/-- What the device or the call with a number has in use. This is said without the ledger, by
looking at who has a pointer. -/
def Uses : Kind → Prop
  | .handle => s.Alive n
  | .oldConfig => s.leaked n = true
  | .config => False
  | .transferdevref | .transfer | .transferBuffer => (s.job n).isSome = true

/-- **What is in use**: the handles of the devices there are pointers to, what the transfers
of the constructions need, and the descriptors that have been lost. -/
def inUse : Set Item := {r | s.Uses r.1 r.2}

end Functions

end Plugged

/-- The manager of the USB devices with all it acquires, as a machine. -/
def pluggedMachine : Machine Plugged Plugged.Label := ⟨Plugged.step⟩

namespace Plugged

variable {s s' : Plugged} {n m : ℕ} {loc : Location} {a : Answers} {l : Label}

/-- `rx_loops` counts the attempts, so that the check that follows always succeeds, even if all
of them have failed. -/
theorem rxLoops_fst (started : Fin numRxLoops → Bool) : (rxLoops started).1 = numRxLoops := by
  have hcount : ∀ (oks : List Bool) (v : ℕ × ℕ),
      (oks.foldl (fun v ok => (v.1 + 1, if ok then v.2 + 1 else v.2)) v).1 =
        v.1 + oks.length := by
    intro oks
    induction oks with
    | nil => exact fun v => rfl
    | cons ok oks ih =>
      intro v
      rw [List.foldl_cons, ih, List.length_cons, Nat.add_assoc, Nat.add_comm 1]
  rw [rxLoops, hcount, List.length_ofFn]
  exact Nat.zero_add _

/-! ### What a step does -/

/-- The state after the serial number has been requested: the transfer goes on, and what belongs
to it is still in use. -/
def requested (s : Plugged) (n : ℕ) (loc : Location) : Plugged :=
  { s with
    freeBuffer := Function.update s.freeBuffer n true
    core := { s.core with
      constructions := s.core.constructions.map fun c =>
        if c.location = loc then ⟨loc, .serial⟩ else c }
    job := Function.update s.job n (some ⟨loc, .serial⟩) }

/-- **What a step does**, as far as the ledger is concerned. The various ways in which a
construction ends are one case. -/
inductive Moves (s : Plugged) : Plugged → Prop
  | deviceAdd (loc : Location) (a : Answers) : Moves s (s.deviceAdd loc a)
  /-- The language IDs are there, and the serial number is requested. -/
  | requested {n : ℕ} {loc : Location} (hjob : s.job n = some ⟨loc, .langid⟩) :
    Moves s (s.requested n loc)
  /-- The first callback fails. -/
  | failed {n : ℕ} {loc : Location} (hjob : s.job n = some ⟨loc, .langid⟩) :
    Moves s ({ s with freeBuffer := Function.update s.freeBuffer n true }.finish n loc)
  /-- The second callback, with some new pointers. -/
  | serial {n : ℕ} {loc : Location} (pointers : ℕ) (hjob : s.job n = some ⟨loc, .serial⟩) :
    Moves s ({ s with
      holders := Function.update s.holders n (s.holders n + pointers) }.finish n loc)
  | held {n : ℕ} (halive : s.Alive n) :
    Moves s { s with holders := Function.update s.holders n (s.holders n + 1) }
  | letGo {n : ℕ} (hheld : 0 < s.holders n) :
    Moves s ({ s with holders := Function.update s.holders n (s.holders n - 1) }.drop n)
  | attached {n : ℕ} {info : UsbInfo} (halive : s.Alive n) (hinfo : s.info n = some info) :
    Moves s { s with
      core := { s.core with attached := info.location :: s.core.attached }
      muxer := n :: s.muxer }
  | detached {n place : ℕ} (hplace : s.muxer[place]? = some n) :
    Moves s ({ s with
      core := { s.core with attached := s.core.attached.eraseIdx place }
      muxer := s.muxer.eraseIdx place }.drop n)

theorem moves_of_step (h : s.step l = some s') : s.Moves s' := by
  cases l with
  | deviceAdd loc a =>
    obtain rfl := Option.some.inj h
    exact .deviceAdd loc a
  | langid n completed submitted =>
    change s.langid n completed submitted = some s' at h
    unfold langid at h
    split at h
    · rename_i hjob
      dsimp only at h
      split_ifs at h with hok <;> obtain rfl := Option.some.inj h
      · exact .requested hjob
      · exact .failed hjob
    · cases h
  | serial n completed started sent =>
    change s.serial n completed started sent = some s' at h
    unfold serial at h
    split at h
    · rename_i hjob
      obtain rfl := Option.some.inj h
      exact .serial _ hjob
    · cases h
  | hold n =>
    obtain ⟨halive, h⟩ := Option.ite_none_right_eq_some.mp h
    obtain rfl := Option.some.inj h
    exact .held halive
  | letGo n =>
    obtain ⟨hheld, h⟩ := Option.ite_none_right_eq_some.mp h
    obtain rfl := Option.some.inj h
    exact .letGo hheld
  | attach n =>
    obtain ⟨halive, h⟩ := Option.ite_none_right_eq_some.mp h
    obtain ⟨info, hinfo, rfl⟩ := Option.map_eq_some_iff.mp h
    exact .attached halive hinfo
  | detach place =>
    obtain ⟨n, hplace, rfl⟩ := Option.map_eq_some_iff.mp h
    exact .detached hplace

/-! ### The ledger -/

theorem mem_inUse {k : Kind} : (n, k) ∈ s.inUse ↔ s.Uses n k := Iff.rfl

/-- Two states have the same in use, if the pointers are the same and no descriptor has been
lost in between. -/
theorem inUse_congr (halive : ∀ m, s'.Alive m ↔ s.Alive m)
    (hjob : ∀ m, (s'.job m).isSome = (s.job m).isSome) (hleaked : s'.leaked = s.leaked) :
    s.inUse = s'.inUse := by
  ext ⟨m, k⟩
  cases k with
  | handle => exact (halive m).symm
  | oldConfig => simp only [mem_inUse, Uses, hleaked]
  | config => exact Iff.rfl
  | transferdevref | transfer | transferBuffer => simp only [mem_inUse, Uses, hjob m]

/-- **A pointer has gone**, and the handle is still open. If it was the last pointer, the handle
is closed now. -/
theorem drop_books (h : s.ledger.Holds (insert (n, .handle) s.inUse)) :
    (s.drop n).ledger.Holds (s.drop n).inUse := by
  unfold drop
  split_ifs with halive
  · rwa [Set.insert_eq_of_mem (show (n, Kind.handle) ∈ s.inUse from halive)] at h
  · have hclosed := h.release (Set.mem_insert _ _)
    rwa [Set.insert_sdiff_self_of_notMem (show (n, Kind.handle) ∉ s.inUse from halive)] at hclosed

/-- A pointer has gone that is not the transfer's, while all else is as it was. Only the handle
can depend on it. -/
theorem drop_books_of (h : s.ledger.Holds s.inUse) (hledger : s'.ledger = s.ledger)
    (hjob : s'.job = s.job) (hleaked : s'.leaked = s.leaked)
    (halive : ∀ m, s.Alive m ↔ m = n ∨ s'.Alive m) :
    (s'.drop n).ledger.Holds (s'.drop n).inUse := by
  refine drop_books ?_
  have hset : insert (n, Kind.handle) s'.inUse = s.inUse := by
    ext ⟨m, k⟩
    rw [Set.mem_insert_iff, mem_inUse, mem_inUse]
    cases k with
    | handle => simp [Uses, halive m]
    | oldConfig => simp [Uses, hleaked]
    | config => simp [Uses]
    | transferdevref | transfer | transferBuffer => simp [Uses, hjob]
  rw [hset, hledger]
  exact h

/-- **A construction is over**, in either callback. -/
theorem finish_books (h : s.ledger.Holds s.inUse) (hjob : (s.job n).isSome = true)
    (hflag : s.freeBuffer n = true) : (s.finish n loc).ledger.Holds (s.finish n loc).inUse := by
  refine drop_books ?_
  have hshared : (n, Kind.transferdevref) ∈ s.inUse := hjob
  have htransfer : (n, Kind.transfer) ∈ s.inUse := hjob
  have hbuffer : (n, Kind.transferBuffer) ∈ s.inUse := hjob
  have hfreed := ((h.release hshared).release ⟨htransfer, nofun⟩).release
    ⟨⟨hbuffer, nofun⟩, nofun⟩
  rw [if_pos hflag]
  refine hfreed.congr ?_
  ext ⟨m, k⟩
  simp only [Set.mem_sdiff, Set.mem_insert_iff, Set.mem_singleton_iff, mem_inUse, Prod.mk.injEq]
  rcases eq_or_ne m n with rfl | hne
  · cases k <;> simp [Uses, Alive, hjob]
  · cases k <;> simp [Uses, Alive, hne]

/-- What `device_add` leaves in use, for the next call. It has a number of its own, and nothing
of it has been acquired. -/
theorem deviceAdd_leaves (h : s.ledger.Holds s.inUse)
    (hlater : ∀ m, s.calls ≤ m → ∀ k, s.ledger.acquired (m, k) = 0) {found : Bool} :
    (DeviceAdd.deviceAdd s.calls loc a found s.ledger).Meets s.calls loc
      (s.inUse ∪ lost s.calls (a.leaks loc found)) :=
  deviceAdd_meets h (fun k => h.not_mem (hlater _ Nat.le.refl k)) hlater

/-- **`device_add` returns**, in whatever way, and the ledger agrees with the pointers again. -/
theorem deviceAdd_books (h : s.ledger.Holds s.inUse)
    (hlater : ∀ m, s.calls ≤ m → ∀ k, s.ledger.acquired (m, k) = 0) :
    (s.deviceAdd loc a).ledger.Holds (s.deviceAdd loc a).inUse := by
  have hnot : ∀ k, (s.calls, k) ∉ s.inUse := fun k => h.not_mem (hlater _ Nat.le.refl k)
  have hjob : s.job s.calls = none := Option.not_isSome_iff_eq_none.mp (hnot .transfer)
  have hleaked : s.leaked s.calls = false := Bool.eq_false_iff.mpr (hnot .oldConfig)
  unfold deviceAdd
  dsimp only
  split_ifs with hout
  · refine ((deviceAdd_leaves h hlater).started hout).1.congr ?_
    ext ⟨m, k⟩
    simp only [Set.mem_union, mem_inUse, lost, inConstruction, itemsOf, Set.mem_ofPred_eq,
      Prod.mk.injEq]
    rcases eq_or_ne m s.calls with rfl | hne
    · cases k <;> simp [Uses, Alive, hleaked]
    · cases k <;> simp [Uses, Alive, hne]
  · refine ((deviceAdd_leaves h hlater).ended hout).congr ?_
    ext ⟨m, k⟩
    simp only [Set.mem_union, mem_inUse, lost, Set.mem_ofPred_eq, Prod.mk.injEq]
    rcases eq_or_ne m s.calls with rfl | hne
    · cases k <;> simp [Uses, Alive, hleaked]
    · cases k <;> simp [Uses, Alive, hne]

/-! ### Runs -/

/-- The callbacks free the buffer, no later call has acquired anything, and a device there is
a pointer to has been told what it needs. -/
structure Steady (s : Plugged) : Prop where
  later : ∀ m, s.calls ≤ m → ∀ k, s.ledger.acquired (m, k) = 0
  flagged : ∀ n loc, s.job n = some ⟨loc, .serial⟩ → s.freeBuffer n = true
  known : ∀ n, s.Alive n → ∃ info, s.info n = some info ∧ info.Usable ∧
    info.location ∈ s.core.made

theorem Steady.drop (h : s.Steady) : (s.drop n).Steady := by
  unfold Plugged.drop
  split_ifs
  · exact h
  · exact ⟨h.later, h.flagged, h.known⟩

/-- The ledger agrees with the pointers, and what later steps rely on holds: a new call has
acquired nothing, and a device that lives has been told what it is. -/
structure Inv (s : Plugged) : Prop where
  books : s.ledger.Holds s.inUse
  steady : s.Steady

theorem inv_init : Inv init where
  books := by
    have hnothing : init.inUse = ∅ := by
      ext ⟨m, k⟩
      cases k <;> simp [mem_inUse, Uses, Alive, init]
    rw [hnothing]
    exact Ledger.holds_empty
  steady := by
    refine ⟨fun _ _ _ => rfl, nofun, ?_⟩
    rintro n (hjob | hmux | hheld)
    · cases hjob
    · cases hmux
    · cases hheld

theorem Inv.deviceAdd (h : Inv s) : Inv (s.deviceAdd loc a) := by
  refine ⟨deviceAdd_books h.books h.steady.later, ?_⟩
  unfold Plugged.deviceAdd
  dsimp only
  split_ifs with hout
  · obtain ⟨-, info, hinfo, husable, hloc⟩ :=
      (deviceAdd_leaves h.books h.steady.later).started hout
    refine ⟨fun m hm => (deviceAdd_leaves h.books h.steady.later).later m hm, ?_, ?_⟩
    · intro m loc' hjob
      dsimp only at hjob
      rcases eq_or_ne m s.calls with rfl | hne
      · rw [Function.update_self] at hjob
        cases hjob
      · rw [Function.update_of_ne hne] at hjob
        exact h.steady.flagged m loc' hjob
    · intro m halive
      rcases eq_or_ne m s.calls with rfl | hne
      · refine ⟨info, ?_, husable, ?_⟩
        · exact (Function.update_self ..).trans hinfo
        · rw [hloc]
          exact List.mem_cons_self
      · have hbefore : s.Alive m := by
          simpa only [Alive, Function.update_of_ne hne] using halive
        obtain ⟨info', hinfo', husable', hmade⟩ := h.steady.known m hbefore
        refine ⟨info', ?_, husable', List.mem_cons_of_mem _ hmade⟩
        exact (Function.update_of_ne hne ..).trans hinfo'
  · exact ⟨fun m hm => (deviceAdd_leaves h.books h.steady.later).later m hm, h.steady.flagged,
      h.steady.known⟩

/-- **A callback ends a construction**: what the transfer had is freed, and its pointer goes. -/
theorem Inv.finish (h : Inv s) (hjob : (s.job n).isSome = true)
    (hflag : s.freeBuffer n = true) : Inv (s.finish n loc) := by
  refine ⟨finish_books h.books hjob hflag, Steady.drop ⟨?_, ?_, ?_⟩⟩
  · rw [if_pos hflag]
    exact h.steady.later
  · intro m loc' hjob'
    dsimp only at hjob'
    rcases eq_or_ne m n with rfl | hne
    · rw [Function.update_self] at hjob'
      cases hjob'
    · rw [Function.update_of_ne hne] at hjob'
      exact h.steady.flagged m loc' hjob'
  · rintro m halive
    refine h.steady.known m ?_
    rcases halive with hj | hrest
    · dsimp only at hj
      rcases eq_or_ne m n with rfl | hne
      · exact Or.inl hjob
      · rw [Function.update_of_ne hne] at hj
        exact Or.inl hj
    · exact Or.inr hrest

theorem Inv.flag (h : Inv s) :
    Inv { s with freeBuffer := Function.update s.freeBuffer n true } where
  books := h.books
  steady := by
    refine ⟨h.steady.later, ?_, h.steady.known⟩
    intro m loc' hjob
    rcases eq_or_ne m n with rfl | hne
    · exact Function.update_self ..
    · exact (Function.update_of_ne hne ..).trans (h.steady.flagged m loc' hjob)

theorem Inv.requested (h : Inv s) (hjob : s.job n = some ⟨loc, .langid⟩) :
    Inv (s.requested n loc) := by
  have hsome : ∀ m, ((s.requested n loc).job m).isSome = (s.job m).isSome := by
    intro m
    rcases eq_or_ne m n with rfl | hne
    · simp [Plugged.requested, hjob]
    · simp [Plugged.requested, hne]
  have halive : ∀ m, (s.requested n loc).Alive m ↔ s.Alive m := by
    intro m
    rw [Alive, Alive, hsome m]
    exact Iff.rfl
  refine ⟨h.books.congr (inUse_congr halive hsome rfl), h.steady.later, ?_, ?_⟩
  · intro m loc' hjob'
    rcases eq_or_ne m n with rfl | hne
    · exact Function.update_self ..
    · have hbefore : s.job m = some ⟨loc', .serial⟩ :=
        (Function.update_of_ne hne ..).symm.trans hjob'
      exact (Function.update_of_ne hne ..).trans (h.steady.flagged m loc' hbefore)
  · exact fun m hm => h.steady.known m ((halive m).mp hm)

/-- Pointers are taken, by somebody who has been given the device. -/
theorem Inv.held (h : Inv s) (halive : s.Alive n) (pointers : ℕ) :
    Inv { s with holders := Function.update s.holders n (s.holders n + pointers) } := by
  have hsame : ∀ m, Alive { s with
      holders := Function.update s.holders n (s.holders n + pointers) } m → s.Alive m := by
    rintro m (hjob | hmux | hheld)
    · exact Or.inl hjob
    · exact Or.inr (Or.inl hmux)
    · rcases eq_or_ne m n with rfl | hne
      · exact halive
      · exact Or.inr (Or.inr ((Function.update_of_ne hne ..).subst hheld))
  refine ⟨h.books.congr (inUse_congr ?_ (fun _ => rfl) rfl), h.steady.later,
    h.steady.flagged, fun m hm => h.steady.known m (hsame m hm)⟩
  refine fun m => ⟨hsame m, ?_⟩
  rintro (hjob | hmux | hheld)
  · exact Or.inl hjob
  · exact Or.inr (Or.inl hmux)
  · refine Or.inr (Or.inr (hheld.trans_le ?_))
    rcases eq_or_ne m n with rfl | hne
    · simp
    · simp [hne]

/-- **A pointer goes** that is not the transfer's, from the muxer or from elsewhere. -/
theorem Inv.dropped (h : Inv s) (hledger : s'.ledger = s.ledger) (hcalls : s'.calls = s.calls)
    (hjob : s'.job = s.job) (hflags : s'.freeBuffer = s.freeBuffer) (hinfo : s'.info = s.info)
    (hleaked : s'.leaked = s.leaked) (hmade : s'.core.made = s.core.made)
    (halive : ∀ m, s.Alive m ↔ m = n ∨ s'.Alive m) : Inv (s'.drop n) := by
  refine ⟨drop_books_of h.books hledger hjob hleaked halive, Steady.drop ⟨?_, ?_, ?_⟩⟩
  · rw [hledger, hcalls]
    exact h.steady.later
  · rw [hjob, hflags]
    exact h.steady.flagged
  · rw [hinfo, hmade]
    exact fun m hm => h.steady.known m ((halive m).mpr (Or.inr hm))

theorem mem_eraseIdx_or {l : List ℕ} {place : ℕ} (h : l[place]? = some n) :
    m ∈ l ↔ m = n ∨ m ∈ l.eraseIdx place := by
  obtain ⟨hlt, rfl⟩ := List.getElem?_eq_some_iff.mp h
  rw [← (List.getElem_cons_eraseIdx_perm hlt).mem_iff, List.mem_cons]

theorem inv_moves (h : Inv s) (hs : s.Moves s') : Inv s' := by
  cases hs with
  | deviceAdd loc a => exact h.deviceAdd
  | requested hjob => exact h.requested hjob
  | failed hjob => exact h.flag.finish (Option.isSome_of_eq_some hjob) (Function.update_self ..)
  | serial pointers hjob =>
    have hsome := Option.isSome_of_eq_some hjob
    exact (h.held (Or.inl hsome) pointers).finish hsome (h.steady.flagged _ _ hjob)
  | held halive => exact h.held halive 1
  | @letGo n hheld =>
    refine h.dropped rfl rfl rfl rfl rfl rfl rfl fun m => ?_
    rcases eq_or_ne m n with rfl | hne
    · simp [Alive, hheld]
    · simp [Alive, hne]
  | attached halive hinfo =>
    rename_i n info
    have hsame : ∀ m, Alive { s with
        core := { s.core with attached := info.location :: s.core.attached }
        muxer := n :: s.muxer } m ↔ s.Alive m := by
      intro m
      rcases eq_or_ne m n with rfl | hne
      · exact iff_of_true (Or.inr (Or.inl List.mem_cons_self)) halive
      · simp [Alive, hne]
    exact ⟨h.books.congr (inUse_congr hsame (fun _ => rfl) rfl), h.steady.later,
      h.steady.flagged, fun m hm => h.steady.known m ((hsame m).mp hm)⟩
  | @detached n place hplace =>
    refine h.dropped rfl rfl rfl rfl rfl rfl rfl fun m => ?_
    simp only [Alive, mem_eraseIdx_or hplace]
    tauto

theorem inv_of_reachable (h : pluggedMachine.Reachable init s) : Inv s :=
  h.invariant inv_init fun _ _ _ hinv _ hs => inv_moves hinv (moves_of_step hs)

/-- **The ledger agrees with the pointers**, in every run: a handle is open exactly as long
as there is a pointer to its device, a transfer, its buffer and its `shared_ptr` are freed
once, with the construction, and of the descriptors only those are not freed that are lost
when a configuration is changed. And a device there is a pointer to has been told its
endpoints, in the right directions, and a size for its packets. -/
theorem ledger_agrees (h : pluggedMachine.Reachable init s) : s.ledger.Holds s.inUse ∧
    ∀ n, s.Alive n → ∃ info, s.info n = some info ∧ info.Usable := by
  have hinv := inv_of_reachable h
  refine ⟨hinv.books, fun n halive => ?_⟩
  obtain ⟨info, hinfo, husable, -⟩ := hinv.steady.known n halive
  exact ⟨info, hinfo, husable⟩

/-- The answers for a device with the right interface, whose endpoints are swapped; the
configuration has to be changed. -/
def answers : Answers where
  deviceDescriptor := some ⟨vidApple, 0x12a8, 4, 3⟩
  opened := true
  configuration := some 1
  oldConfig := true
  setConfiguration := true
  config := some [⟨0, 6, 1, 1, 3, 0x81, 0x02⟩, ⟨1, 255, 254, 2, 2, 0x85, 0x04⟩]
  deviceMade := true
  claimed := true
  transferAllocated := true
  maxPacketSize := 512
  speed := .high
  bufferAllocated := true
  submitted := true

/-- A device is plugged in twice. The second callback starts two receive loops and sends the
version packet, the other one fails, and when the pointers have gone the handles are closed;
the old descriptors are still there. -/
theorem ledger_agrees_twice : ∃ s : Plugged, s.ledger.Holds s.inUse ∧
    (∀ n, s.Alive n → ∃ info, s.info n = some info ∧ info.Usable) ∧
    ¬s.Alive 0 ∧ ¬s.Alive 2 ∧ s.ledger.released (0, .handle) = 1 ∧
    s.ledger.released (2, .transferBuffer) = 1 ∧ s.ledger.acquired (2, .oldConfig) = 1 ∧
    s.ledger.released (2, .oldConfig) = 0 := by
  obtain ⟨s, hr, hp⟩ := pluggedMachine.exists_reaches_of_runOk (fun _ _ => True) init
    [.deviceAdd ⟨1, 5⟩ answers, .deviceAdd ⟨1, 5⟩ answers, .langid 0 true true,
      .serial 0 true (fun i => i.val != 1) true, .attach 0, .letGo 0, .letGo 0, .letGo 0,
      .detach 0, .deviceAdd ⟨1, 5⟩ answers, .langid 2 true false]
    (fun s => decide (¬s.Alive 0 ∧ ¬s.Alive 2 ∧ s.ledger.released (0, .handle) = 1 ∧
      s.ledger.released (2, .transferBuffer) = 1 ∧ s.ledger.acquired (2, .oldConfig) = 1 ∧
      s.ledger.released (2, .oldConfig) = 0)) (by decide)
  obtain ⟨hfirst, hsecond, hclosed, hbuffer, hold, hlost⟩ := of_decide_eq_true hp
  obtain ⟨hbooks, husable⟩ := ledger_agrees hr
  exact ⟨s, hbooks, husable, hfirst, hsecond, hclosed, hbuffer, hold, hlost⟩

end Plugged

end Usbmuxd
