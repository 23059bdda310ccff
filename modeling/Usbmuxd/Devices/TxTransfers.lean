import Mathlib.Data.Finset.Insert
import Mathlib.Data.Fintype.EquivFin
import Usbmuxd.Devices.Boundaries
import Usbmuxd.Devices.Transfers

/-!
# The transfers that are sent

`usb_send` gets a data buffer, allocates a transfer for it and a reference to the device that
the callback is going to need, and fills both pointers into the transfer. The transfer is put
into `_tx_xfers` and submitted; from then on it belongs to libusb, which calls `tx_callback`
once, and that erases the transfer and releases all three. A frame that fills its packets is
followed by an empty transfer, for which the same is done over again.

Anything may fail on the way. What has not been handed over then is released by a cleanup,
which has nothing to go by but the local pointers: each of them is set to null as soon as
somebody else has got what it points to. Meanwhile the callback runs on a thread of its own,
and an address that it frees may be given to the next transfer.

That everything is released once, and by whom, is said by a ledger of the owners
(`Usbmuxd.TxTransfers.Ledger`), in which the fields of a transfer go where the transfer goes.

Buffers, transfers and references are numbered together in the order in which they are
allocated; transfers have addresses besides, as `_tx_xfers` is a set of addresses.
-/

namespace Usbmuxd

open Interleaving

/-! ### The state -/

namespace TxTransfers

/-- Who releases something. The two do not know of each other, and each goes by pointers that
are not null. -/
inductive Party
  /-- The cleanup of `usb_send`. -/
  | usbSend
  /-- `tx_callback`. -/
  | txCallback
  deriving DecidableEq

/-- A `libusb_transfer`, with the two fields by which the callback finds what it has to
release. -/
structure Xfer where
  /-- Its address. -/
  addr : ℕ
  /-- `buffer`. -/
  buffer : Option ℕ
  /-- `user_data`. -/
  userData : Option ℕ
  deriving DecidableEq

/-- What has become of a transfer. `tx_callback` has two steps, erasing and releasing, since
another thread may look at `_tx_xfers` in between. -/
inductive Progress
  /-- It has not been submitted. -/
  | unsubmitted
  /-- libusb has it. -/
  | submitted
  /-- `tx_callback` has it, and is going to erase it from `_tx_xfers`. -/
  | called
  /-- `tx_callback` has erased it. -/
  | erased
  /-- `tx_callback` has freed it. -/
  | completed
  deriving DecidableEq

/-- Where a thread is in `usb_send`, and its local pointers that are not null. `zlp` is
whether it is the turn of the empty transfer. -/
inductive Send
  /-- In no call. -/
  | idle
  /-- Before `libusb_alloc_transfer`. -/
  | entered (length buf : ℕ) (zlp : Bool)
  /-- Before the `new` of `txcbargref`. -/
  | allocated (length buf xfer : ℕ) (zlp : Bool)
  /-- The transfer is filled, and not in `_tx_xfers` yet. -/
  | filled (length xfer : ℕ) (zlp : Bool)
  /-- Before `libusb_submit_transfer`. -/
  | inserted (length xfer : ℕ) (zlp : Bool)
  /-- The transfer has been submitted. -/
  | sent (length : ℕ) (zlp : Bool)
  /-- In the cleanup. -/
  | cleanup (buf xfer : Option ℕ)
  /-- In the cleanup, with `xfer` erased from `_tx_xfers`. -/
  | discarding (xfer : ℕ)
  deriving DecidableEq

/-- What the local pointers point to. A pointer that has been set to null after a handover is
not among them. -/
def Send.holds : Send → List ℕ
  | .idle | .sent _ _ => []
  | .entered _ buf _ => [buf]
  | .allocated _ buf xfer _ => [buf, xfer]
  | .filled _ xfer _ | .inserted _ xfer _ | .discarding xfer => [xfer]
  | .cleanup buf xfer => buf.toList ++ xfer.toList

/-- The `xfer` that is not null, by which a call can be recognised as long as it has not handed
its transfer over. -/
def Send.xfer : Send → Option ℕ
  | .idle | .sent _ _ | .entered _ _ _ => none
  | .allocated _ _ xfer _ | .filled _ xfer _ | .inserted _ xfer _ | .discarding xfer => some xfer
  | .cleanup _ xfer => xfer

end TxTransfers

open TxTransfers

/-- The transfers of a device that are sent, and the threads in `usb_send`. -/
structure TxTransfers (T : Type) where
  /-- How many buffers, transfers and references have been allocated. -/
  made : ℕ
  /-- The transfers among them. -/
  xfer : ℕ → Option Xfer
  /-- What has become of each transfer. -/
  progress : ℕ → Progress
  /-- `_tx_xfers`. -/
  txXfers : Finset ℕ
  /-- How often each has been released, and by whom. -/
  released : Party → ℕ → ℕ
  /-- The posts of the device in `_reapDevices`. -/
  reapDevices : ℕ
  /-- Where each thread is. -/
  send : T → Send

namespace TxTransfers

variable {T : Type} [DecidableEq T] (s : TxTransfers T)

omit [DecidableEq T] in
/-- A device that has sent nothing. -/
def init : TxTransfers T where
  made := 0
  xfer := fun _ => none
  progress := fun _ => .unsubmitted
  txXfers := ∅
  released := fun _ _ => 0
  reapDevices := 0
  send := fun _ => .idle

/-! ### Small steps -/

/-- The address of a transfer. Two transfers may have the same, if one has been freed before the
other was allocated. -/
def addr (x : ℕ) : ℕ := (s.xfer x).elim 0 Xfer.addr

/-- `buffer` and `user_data` of a transfer, unless they are null. These go where the transfer
goes, as there is no other pointer to them. -/
def fields (x : ℕ) : List ℕ :=
  (s.xfer x).elim [] fun xfer => xfer.buffer.toList ++ xfer.userData.toList

/-- `libusb_alloc_transfer` may return this address: no transfer that has not been freed has
it. -/
def AddrFree (a : ℕ) : Prop :=
  ∀ x < s.made, (s.xfer x).isSome → s.released .usbSend x = 0 → s.released .txCallback x = 0 →
    s.addr x ≠ a

instance (a : ℕ) : Decidable (s.AddrFree a) :=
  inferInstanceAs (Decidable (∀ x < s.made, _))

/-- Thread `t` goes on in `usb_send`, and nothing else changes. -/
def go (t : T) (pc : Send) : TxTransfers T := { s with send := Function.update s.send t pc }

@[simp] theorem go_send_self (t : T) (pc : Send) : (s.go t pc).send t = pc :=
  Function.update_self ..

/-- The last place counts: a step that moves a thread twice moves it to where it is put last. -/
theorem go_go (t : T) (pc pc' : Send) : (s.go t pc).go t pc' = s.go t pc' := by
  simp only [go, Function.update_idem]

/-- Something is allocated: a buffer, a transfer or a reference, which gets the next number. -/
def alloc : TxTransfers T := { s with made := s.made + 1 }

/-- What these pointers point to is released. It is counted how often, so that releasing
something twice does not go unnoticed. -/
def release (p : Party) (os : List ℕ) : TxTransfers T :=
  { s with
    released := Function.update s.released p fun o => s.released p o + os.count o }

/-- A transfer is set, either since it is new or since its fields are filled. -/
def setXfer (x : ℕ) (xfer : Xfer) : TxTransfers T :=
  { s with xfer := Function.update s.xfer x (some xfer) }

/-- A transfer goes on: to libusb, to the callback, and to its end. -/
def setProgress (x : ℕ) (progress : Progress) : TxTransfers T :=
  { s with progress := Function.update s.progress x progress }

/-- `_tx_xfers.erase(xfer)`, which goes by the address. It would erase another transfer that had
got the same address meanwhile. -/
def eraseXfer (x : ℕ) : TxTransfers T := { s with txXfers := s.txXfers.erase (s.addr x) }

/-- `_tx_xfers.insert(xfer)`, which would do nothing if the address were there already. -/
def insertXfer (x : ℕ) : TxTransfers T := { s with txXfers := insert (s.addr x) s.txXfers }

theorem eraseXfer_go (t : T) (pc : Send) (x : ℕ) :
    (s.go t pc).eraseXfer x = (s.eraseXfer x).go t pc := rfl

/-! ### The functions -/

/-- One step of `usb_send`. `ok` is whether the next allocation, insertion or submission
succeeds, and `a` the address of a transfer that is allocated. -/
def sendStep (wMaxPacketSize : ℕ) (t : T) (ok : Bool) (a : ℕ) : Option (TxTransfers T) :=
  match s.send t with
  | .idle => none
  | .entered length buf zlp =>
      -- the sanity check is made for the frame
      if zlp = false ∧ intMax < length then some (s.go t (.cleanup (some buf) none))
      else if ok = false then some (s.go t (.cleanup (some buf) none))
      else if s.AddrFree a then
        some ((s.setXfer s.made ⟨a, none, none⟩).alloc.go t (.allocated length buf s.made zlp))
      else none
  | .allocated length buf x zlp =>
      if ok then
        some ((s.setXfer x ⟨s.addr x, some buf, some s.made⟩).alloc.go t (.filled length x zlp))
      else some (s.go t (.cleanup (some buf) (some x)))
  | .filled length x zlp =>
      if ok then some ((s.insertXfer x).go t (.inserted length x zlp))
      else some (s.go t (.cleanup none (some x)))
  | .inserted length x zlp =>
      if ok then some ((s.setProgress x .submitted).go t (.sent length zlp))
      else some (s.go t (.cleanup none (some x)))
  | .sent length zlp =>
      if zlp = false ∧ length % wMaxPacketSize = 0 ∧ wMaxPacketSize ≤ length ∧ ok = true then
        some (s.alloc.go t (.entered length s.made true))
      else some (s.go t (.cleanup none none))
  | .cleanup buf none => some ((s.release .usbSend buf.toList).go t .idle)
  | .cleanup buf (some x) =>
      some (((s.release .usbSend buf.toList).eraseXfer x).go t (.discarding x))
  | .discarding x => some ((s.release .usbSend (s.fields x ++ [x])).go t .idle)

/-- libusb calls `tx_callback`, which calls `kill` unless the transfer is complete. -/
def txCallback (x : ℕ) (status : TransferStatus) : TxTransfers T :=
  let s := s.setProgress x .called
  if status = .completed then s else { s with reapDevices := s.reapDevices + 1 }

/-- One step of `tx_callback`. The transfer is erased first, and then the buffer, the reference
and the transfer itself are released. -/
def callbackStep (x : ℕ) : Option (TxTransfers T) :=
  match s.progress x with
  | .called => some ((s.eraseXfer x).setProgress x .erased)
  | .erased => some ((s.release .txCallback (s.fields x ++ [x])).setProgress x .completed)
  | .unsubmitted | .submitted | .completed => none

/-- A step, of a thread in `usb_send` or of libusb and its callback. They may come in any order
that the state allows. -/
inductive Label (T : Type)
  /-- `usb_send` is called with a buffer of this length. -/
  | call (t : T) (length : ℕ)
  /-- A thread goes on in `usb_send`. -/
  | send (t : T) (ok : Bool) (a : ℕ)
  /-- libusb calls `tx_callback`. -/
  | txCallback (x : ℕ) (status : TransferStatus)
  /-- `tx_callback` goes on. -/
  | callback (x : ℕ)

/-- One step. A call can be made whenever the thread is in no other, and libusb may call back at
any time after the submission. -/
def step (wMaxPacketSize : ℕ) : Label T → Option (TxTransfers T)
  | .call t length =>
      if s.send t = .idle then some (s.alloc.go t (.entered length s.made false)) else none
  | .send t ok a => s.sendStep wMaxPacketSize t ok a
  | .txCallback x status =>
      if s.progress x = .submitted then some (s.txCallback x status) else none
  | .callback x => s.callbackStep x

end TxTransfers

/-- The transfers that are sent as a machine. -/
def txMachine {T : Type} [DecidableEq T] (wMaxPacketSize : ℕ) :
    Machine (TxTransfers T) (TxTransfers.Label T) :=
  ⟨fun s l => s.step wMaxPacketSize l⟩

namespace TxTransfers

/-! ### Nobody waits

Neither function takes a lock that somebody may keep, and neither has a loop. So whoever is in
one of them comes to its end, whatever the others do meanwhile. -/

section

variable {T : Type} [DecidableEq T] (s : TxTransfers T) (wMaxPacketSize : ℕ)

omit [DecidableEq T] in
/-- There is an address left, as only so many transfers have been allocated. So an allocation
does not wait for anything. -/
theorem exists_addrFree : ∃ a, s.AddrFree a := by
  obtain ⟨a, ha⟩ := Infinite.exists_notMem_finset ((Finset.range s.made).image s.addr)
  refine ⟨a, fun x hx _ _ _ haddr => ha ?_⟩
  exact Finset.mem_image.mpr ⟨x, Finset.mem_range.mpr hx, haddr⟩

/-- **A call of `usb_send` goes on**, whatever is answered to it. There is a way out of every
place, for a success and for a failure. -/
theorem exists_sendStep {t : T} (ok : Bool) (h : s.send t ≠ .idle) :
    ∃ a s', s.sendStep wMaxPacketSize t ok a = some s' := by
  obtain ⟨a, ha⟩ := s.exists_addrFree
  refine ⟨a, Option.isSome_iff_exists.mp ?_⟩
  unfold sendStep
  cases hpc : s.send t with
  | idle => exact absurd hpc h
  | entered length buf zlp =>
    dsimp only
    rw [if_pos ha]
    split
    · rfl
    · split <;> rfl
  | cleanup buf xfer => cases xfer <;> rfl
  | discarding x => rfl
  | _ =>
    dsimp only
    split <;> rfl

/-- The thread is in the cleanup of `usb_send`. Every call comes to it, and after a success all
the pointers are null there. -/
def Send.InCleanup : Send → Prop
  | .cleanup _ _ | .discarding _ => True
  | _ => False

/-- **A cleanup comes to its end.** It has one step to make, or two if there is a transfer. -/
theorem cleanup_ends {t : T} (h : (s.send t).InCleanup) :
    ∃ s', (txMachine wMaxPacketSize).Reaches (fun _ l => l = .send t true 0) s s' ∧
      s'.send t = .idle := by
  have hdiscarding : ∀ (s : TxTransfers T) (x : ℕ), s.send t = .discarding x →
      (txMachine wMaxPacketSize).step s (.send t true 0) =
        some ((s.release .usbSend (s.fields x ++ [x])).go t .idle) := by
    intro s x hpc
    simp only [txMachine, step, sendStep, hpc]
  cases hpc : s.send t with
  | cleanup buf xfer =>
    cases xfer with
    | none => exact ⟨_, .tail _ .refl rfl (by simp only [txMachine, step, sendStep, hpc]; rfl),
        go_send_self ..⟩
    | some x =>
      have hfirst : (txMachine wMaxPacketSize).step s (.send t true 0) =
          some (((s.release .usbSend buf.toList).eraseXfer x).go t (.discarding x)) := by
        simp only [txMachine, step, sendStep, hpc]
      exact ⟨_, .tail _ (.tail _ .refl rfl hfirst) rfl (hdiscarding _ x (go_send_self ..)),
        go_send_self ..⟩
  | discarding x => exact ⟨_, .tail _ .refl rfl (hdiscarding s x hpc), go_send_self ..⟩
  | _ =>
    rw [hpc] at h
    exact h.elim

/-- **A callback comes to its end**, in two steps of its own, or in one if it has erased the
transfer already. -/
theorem callback_ends {x : ℕ} (h : s.progress x = .called ∨ s.progress x = .erased) :
    ∃ s', (txMachine wMaxPacketSize).Reaches (fun _ l => l = .callback x) s s' ∧
      s'.progress x = .completed := by
  have herased : ∀ s : TxTransfers T, s.progress x = .erased →
      (txMachine wMaxPacketSize).step s (.callback x) =
        some ((s.release .txCallback (s.fields x ++ [x])).setProgress x .completed) := by
    intro s hx
    simp only [txMachine, step, callbackStep, hx]
  rcases h with hx | hx
  · have hfirst : (txMachine wMaxPacketSize).step s (.callback x) =
        some ((s.eraseXfer x).setProgress x .erased) := by
      simp only [txMachine, step, callbackStep, hx]
    exact ⟨_, .tail _ (.tail _ .refl rfl hfirst) rfl (herased _ (Function.update_self ..)),
      Function.update_self ..⟩
  · exact ⟨_, .tail _ .refl rfl (herased s hx), Function.update_self ..⟩

end

/-! ### What is accounted for -/

section

variable {T : Type} (s : TxTransfers T)

/-- libusb has been given the transfer, and `tx_callback` has not erased it. These are the
transfers that should be in `_tx_xfers`. -/
def Outstanding (x : ℕ) : Prop := s.progress x = .submitted ∨ s.progress x = .called

/-- It is a transfer that has been submitted, or in the fields of one. From then on
`tx_callback` is responsible for it. -/
def WasSubmitted (o : ℕ) : Prop :=
  s.progress o ≠ .unsubmitted ∨ ∃ x, s.progress x ≠ .unsubmitted ∧ o ∈ s.fields x

/-- No call of `usb_send` is in progress. This is when nothing should be left that has not been
submitted. -/
def Quiet : Prop := ∀ t, s.send t = .idle

/-- What the call that a thread is in has still to hand over or to release: what its local
pointers point to, and what is in the fields of its transfer. -/
def inHand (t : T) : List ℕ := (s.send t).holds ++ (s.send t).xfer.elim [] s.fields

/-- A call that has returned has nothing to release any more, since it has no pointers. -/
theorem inHand_of_idle {t : T} (h : s.send t = .idle) : s.inHand t = [] := by
  rw [inHand, h]
  rfl

/-- **Tx transfers are accounted for.** What `usb_send` allocates is in the hands of that call
until it is submitted or released, so that nothing is left of a call that has returned; and
since nobody waits, every call that is in its cleanup and every callback can release what it
is responsible for. -/
structure Accounted [DecidableEq T] (wMaxPacketSize : ℕ) : Prop where
  /-- Nothing is released twice. -/
  once : ∀ o, s.released .usbSend o + s.released .txCallback o ≤ 1
  /-- What has been submitted is not released by `usb_send`, -/
  byCallback : ∀ o, s.WasSubmitted o → s.released .usbSend o = 0
  /-- and nothing else by the callback. -/
  bySend : ∀ o, ¬s.WasSubmitted o → s.released .txCallback o = 0
  /-- Nothing that libusb may use is released. -/
  pending : ∀ x, s.Outstanding x → ∀ o ∈ x :: s.fields x, ∀ p, s.released p o = 0
  /-- The callback releases all that belongs to a transfer, -/
  completed : ∀ x, s.progress x = .completed → ∀ o ∈ x :: s.fields x, s.released .txCallback o = 1
  /-- and whatever has not been submitted, `usb_send` has released, unless it is still in the
  hands of a call that has not returned. -/
  kept : ∀ o < s.made, ¬s.WasSubmitted o →
    s.released .usbSend o = 1 ∨ ∃ t, s.send t ≠ .idle ∧ o ∈ s.inHand t
  /-- That is one call only, and nobody has released it. -/
  hands : ∀ t, ∀ o ∈ s.inHand t, (∀ p, s.released p o = 0) ∧ ∀ t', o ∈ s.inHand t' → t' = t
  /-- A call of `usb_send` goes on, whatever is answered to it. -/
  sendGoes : ∀ t ok, s.send t ≠ .idle → ∃ a s', s.sendStep wMaxPacketSize t ok a = some s'
  /-- A cleanup that has begun can go on to the end of the call, -/
  cleanupEnds : ∀ t, (s.send t).InCleanup →
    ∃ s', (txMachine wMaxPacketSize).Reaches (fun _ l => l = .send t true 0) s s' ∧
      s'.send t = .idle
  /-- and a callback that has been called can free its transfer. -/
  callbackEnds : ∀ x, s.progress x = .called ∨ s.progress x = .erased →
    ∃ s', (txMachine wMaxPacketSize).Reaches (fun _ l => l = .callback x) s s' ∧
      s'.progress x = .completed
  /-- Between two calls, `_tx_xfers` has the outstanding transfers in it, -/
  tracked : s.Quiet → ∀ a, a ∈ s.txXfers ↔ ∃ x, s.Outstanding x ∧ s.addr x = a
  /-- each at an address of its own. -/
  distinct : ∀ x x', s.Outstanding x → s.Outstanding x' → s.addr x = s.addr x' → x = x'

end

end TxTransfers

end Usbmuxd
