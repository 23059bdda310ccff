import Usbmuxd.Library.Interleaving

/-!
# The transfers of the receive loops

`usb_start_rx_loop` allocates a bulk transfer, puts it into `_rx_xfers` and submits it to
libusb; there is one receiver thread for each. From then on the transfer goes round: when
it completes, `rx_callback` queues it in `_arrived_xfer`, a receiver takes it from there,
hands its data to `device_data_input` and submits it again. Whatever else becomes of a
submitted transfer, `rx_callback` erases and frees it. That is also how the device gets
rid of them: `deconstruct` asks libusb to cancel all of `_rx_xfers`.

So a transfer should always be in one of three places
(`Usbmuxd.Transfers.places`), and somebody should be there to take those that are queued
(`Usbmuxd.Transfers.Owned`). Two things break it. A receiver does not look at the result
of `libusb_submit_transfer`, and lets go of a transfer that has not been submitted. And a
receiver whose `device_data_input` throws ends; when the last one has, a transfer that
completes stays in the queue.

Transfers are numbered. The insertion into `_rx_xfers` and the first submission are one
step: in between, all that others do with the transfer is to ask libusb to cancel it,
which fails. libusb calls the callback once for each successful submission, and never
for a failed one.
-/

namespace Usbmuxd

open Interleaving

/-! ### The state -/

/-- `libusb_transfer_status`. -/
inductive TransferStatus
  | completed
  | error
  | timedOut
  | cancelled
  | stall
  | noDevice
  | overflow
  deriving DecidableEq

/-- Where a receiver is in `loopEvent`. It holds a transfer from the queue until it has
called `libusb_submit_transfer`, in the cleanup of `loopEvent` and so also when an exception
is thrown. -/
inductive Receiver
  /-- Waiting for `_arrived_xfer`. -/
  | waiting
  /-- In `device_data_input`. -/
  | handling (xfer : ℕ)
  /-- In the cleanup, before the transfer is submitted again, and whether
  `device_data_input` has returned. -/
  | cleanup (xfer : ℕ) (returned : Bool)
  /-- `loopEvent` has returned `false`. -/
  | ended
  deriving DecidableEq

/-- The transfer a receiver holds. Nobody else has a pointer to it then but `_rx_xfers`. -/
def Receiver.xfer : Receiver → Option ℕ
  | .handling xfer | .cleanup xfer _ => some xfer
  | .waiting | .ended => none

/-- A device's receive loops. Transfers are numbered in the order in which they are allocated,
and a freed transfer keeps its number, so that one that is freed twice can be told. -/
structure Transfers where
  /-- The number of transfers allocated so far. -/
  made : ℕ
  /-- `_rx_xfers`. -/
  rxXfers : List ℕ
  /-- What is submitted to libusb. -/
  submitted : List ℕ
  /-- What libusb has been asked to cancel, of what is submitted. -/
  cancelled : List ℕ
  /-- `_arrived_xfer`. -/
  arrivedXfer : List ℕ
  /-- `_receivers`. -/
  receivers : List Receiver
  /-- The calls of `usb_start_rx_loop` that are going to call `addReceiver`. -/
  starting : ℕ
  /-- What `deconstruct` has not asked to cancel yet, while it holds `_rx_xfers_Guard`. -/
  cancelling : Option (List ℕ)
  /-- The posts of the device in `_reapDevices`. -/
  reapDevices : ℕ
  /-- How often each transfer has been freed. -/
  freed : ℕ → ℕ

namespace Transfers

variable (s : Transfers)

/-- A device without transfers. -/
def init : Transfers where
  made := 0
  rxXfers := []
  submitted := []
  cancelled := []
  arrivedXfer := []
  receivers := []
  starting := 0
  cancelling := none
  reapDevices := 0
  freed := fun _ => 0

/-! ### Small steps -/

/-- `_rx_xfers_Guard` may be taken for writing: `deconstruct` is not going through the transfers
at this moment. -/
def guardFree : Prop := s.cancelling = none

instance : Decidable s.guardFree := inferInstanceAs (Decidable (_ = _))

/-- `_rx_xfers.erase(xfer)`. -/
def eraseXfer (xfer : ℕ) : List ℕ := s.rxXfers.filter (· ≠ xfer)

/-- `libusb_free_transfer`. -/
def free (xfer : ℕ) : ℕ → ℕ := Function.update s.freed xfer (s.freed xfer + 1)

/-- `USBDevice::kill`. -/
def kill : Transfers := { s with reapDevices := s.reapDevices + 1 }

/-- A successful `libusb_submit_transfer`. From now on libusb has the transfer, until it calls
the callback. -/
def submit (xfer : ℕ) : Transfers := { s with submitted := s.submitted ++ [xfer] }

/-- libusb gives a transfer back, by calling the callback. A request to cancel it that has been
made before is settled by that. -/
def giveBack (xfer : ℕ) : Transfers :=
  { s with
    submitted := s.submitted.erase xfer
    cancelled := s.cancelled.filter (· ≠ xfer) }

/-- Receiver `i` goes on. -/
def go (i : ℕ) (pc : Receiver) : Transfers := { s with receivers := s.receivers.set i pc }

/-! ### The functions -/

/-- `usb_start_rx_loop` up to the submission; `ok` is whether it succeeds. When it does
not, the transfer is erased from `_rx_xfers` again and freed. -/
def startRxLoop (ok : Bool) : Transfers :=
  if ok then
    { s with
      made := s.made + 1
      rxXfers := s.rxXfers ++ [s.made]
      starting := s.starting + 1 }.submit s.made
  else { s with made := s.made + 1, freed := s.free s.made }

/-- `USBDevice::addReceiver`. -/
def addReceiver : Transfers :=
  { s with receivers := s.receivers ++ [.waiting], starting := s.starting - 1 }

/-- `rx_callback` with a completed transfer: it is put into the queue, for the receivers.
Nothing is said about how many of them there are, so it may stay there. -/
def rxCompleted (xfer : ℕ) : Transfers :=
  { s.giveBack xfer with arrivedXfer := s.arrivedXfer ++ [xfer] }

/-- `rx_callback` with any other status. The transfer leaves `_rx_xfers`, it is freed, and the
device is told to go. -/
def rxAborted (xfer : ℕ) : Transfers :=
  { s.giveBack xfer with rxXfers := s.eraseXfer xfer, freed := s.free xfer }.kill

/-- One step of `loopEvent`; `ok` is whether `device_data_input` returns, and whether the
transfer can be submitted again. In the second case nothing is done if it cannot: the result is
not looked at, and the transfer is in nobody's hands. -/
def loopEvent (i : ℕ) (ok : Bool) : Option Transfers :=
  match s.receivers[i]? with
  | some .waiting =>
      match s.arrivedXfer with
      | xfer :: rest => some { s.go i (.handling xfer) with arrivedXfer := rest }
      | [] => none
  | some (.handling xfer) =>
      some (if ok then s.go i (.cleanup xfer true) else (s.go i (.cleanup xfer false)).kill)
  | some (.cleanup xfer returned) =>
      -- the result of `libusb_submit_transfer` is not looked at
      let s := if ok then s.submit xfer else s
      some (s.go i (if returned then .waiting else .ended))
  | some .ended | none => none

/-- `libusb_cancel_transfer`, which fails for a transfer that is not submitted. -/
def cancelTransfer (xfer : ℕ) : List ℕ :=
  if xfer ∈ s.submitted then xfer :: s.cancelled else s.cancelled

/-! ### The machine -/

/-- A step. -/
inductive Label
  /-- `usb_start_rx_loop`. -/
  | startRxLoop (ok : Bool)
  /-- The end of `usb_start_rx_loop`. -/
  | addReceiver
  /-- libusb calls `rx_callback`. -/
  | rxCallback (xfer : ℕ) (status : TransferStatus)
  /-- Receiver `i` goes on in `loopEvent`. -/
  | loopEvent (i : ℕ) (ok : Bool)
  /-- `kill` is called elsewhere. -/
  | kill
  /-- The reaper calls `deconstruct`, which takes `_rx_xfers_Guard`. -/
  | deconstruct
  /-- `deconstruct` goes on with the next transfer, or releases the guard. -/
  | cancel

/-- One step. -/
def step : Label → Option Transfers
  | .startRxLoop ok => if s.guardFree then some (s.startRxLoop ok) else none
  | .addReceiver => if 0 < s.starting then some s.addReceiver else none
  | .rxCallback xfer status =>
      if xfer ∈ s.submitted ∧ (status = .cancelled → xfer ∈ s.cancelled) then
        if status = .completed then some (s.rxCompleted xfer)
        else if s.guardFree then some (s.rxAborted xfer) else none
      else none
  | .loopEvent i ok => s.loopEvent i ok
  | .kill => some s.kill
  | .deconstruct =>
      if s.guardFree ∧ 0 < s.reapDevices then
        some { s with cancelling := some s.rxXfers, reapDevices := s.reapDevices - 1 }
      else none
  | .cancel =>
      match s.cancelling with
      | some (xfer :: rest) =>
          some { s with cancelling := some rest, cancelled := s.cancelTransfer xfer }
      | some [] => some { s with cancelling := none }
      | none => none

end Transfers

/-- The receive loops as a machine. -/
def transfersMachine : Machine Transfers Transfers.Label := ⟨Transfers.step⟩

namespace Transfers

/-! ### Who has a transfer -/

variable (s : Transfers)

/-- **In how many places a transfer is**: submitted to libusb, queued, or held by a
receiver. It should be one, as two would mean that somebody else may free it, and none that
nobody ever will. -/
def places (xfer : ℕ) : ℕ :=
  s.submitted.count xfer + s.arrivedXfer.count xfer +
    s.receivers.countP fun pc => pc.xfer = some xfer

/-- A receiver waits for transfers, or will. Those that are busy count, as they come back for
the next one. -/
def Receiving : Prop := 0 < s.starting ∨ ∃ pc ∈ s.receivers, pc ≠ .ended

/-- A receiver other than `i` does. -/
def ReceivingBut (i : ℕ) : Prop := 0 < s.starting ∨ ∃ pc ∈ s.receivers.eraseIdx i, pc ≠ .ended

instance : Decidable s.Receiving := inferInstanceAs (Decidable (_ ∨ _))

instance (i : ℕ) : Decidable (s.ReceivingBut i) := inferInstanceAs (Decidable (_ ∨ _))

/-- **Every rx transfer has an owner.** Besides that no transfer is lost and none is freed while
in use, this says that those in the queue will be taken from it. -/
structure Owned : Prop where
  /-- A transfer in `_rx_xfers` is in exactly one place. -/
  one : ∀ xfer ∈ s.rxXfers, s.places xfer = 1
  /-- It has not been freed. -/
  live : ∀ xfer ∈ s.rxXfers, s.freed xfer = 0
  /-- Any other transfer is in none. -/
  gone : ∀ xfer, xfer ∉ s.rxXfers → s.places xfer = 0
  /-- It has been freed exactly once. -/
  freed : ∀ xfer < s.made, xfer ∉ s.rxXfers → s.freed xfer = 1
  /-- Somebody takes the transfers that are queued. -/
  served : s.arrivedXfer ≠ [] → s.Receiving

/-- **Transfers are attended to**: a receiver's submissions succeed, the last receiver does not
end while transfers are queued, and no transfer completes after it has. Each of these is tested
in the state before the step. -/
def Attended : Label → Prop
  | .rxCallback _ status => status = .completed → s.Receiving
  | .loopEvent i ok =>
      match s.receivers[i]? with
      | some (.cleanup _ returned) =>
          ok = true ∧ (returned = false → s.arrivedXfer = [] ∨ s.ReceivingBut i)
      | _ => True
  | _ => True

instance (l : Label) : Decidable (s.Attended l) := by
  unfold Attended
  split
  · infer_instance
  · split <;> infer_instance
  · infer_instance

/-! ### Small facts -/

variable {s} {s' : Transfers} {l : Label} {i xfer x : ℕ} {pc pc' : Receiver}

/-- A list after one of its elements has changed. -/
theorem countP_set_add {α : Type} {p : α → Bool} {l : List α} {i : ℕ} {a b : α}
    (h : l[i]? = some a) :
    (l.set i b).countP p + (if p a then 1 else 0) = l.countP p + if p b then 1 else 0 := by
  obtain ⟨hi, rfl⟩ := List.getElem?_eq_some_iff.mp h
  rw [List.countP_set hi]
  have hle : (if p l[i] then 1 else 0) ≤ l.countP p := by
    split
    · next hp => exact List.countP_pos_iff.mpr ⟨_, List.getElem_mem hi, hp⟩
    · exact Nat.zero_le _
  omega

/-- A submitted transfer is given back. -/
theorem count_giveBack (h : xfer ∈ s.submitted) (x : ℕ) :
    (s.giveBack xfer).submitted.count x + (if x = xfer then 1 else 0) = s.submitted.count x := by
  rcases eq_or_ne x xfer with rfl | hne
  · have hpos := List.count_pos_iff.mpr h
    rw [if_pos rfl, giveBack, List.count_erase_self]
    omega
  · rw [if_neg hne, giveBack, List.count_erase_of_ne hne, Nat.add_zero]

/-- A receiver goes on. -/
theorem places_go (pc' : Receiver) (h : s.receivers[i]? = some pc) (x : ℕ) :
    (s.go i pc').places x + (if pc.xfer = some x then 1 else 0) =
      s.places x + if pc'.xfer = some x then 1 else 0 := by
  have hcount := countP_set_add (p := fun pc => pc.xfer = some x) (b := pc') h
  simp only [decide_eq_true_eq] at hcount
  simp only [places, go]
  omega

/-- A receiver that goes on without ending. -/
theorem receiving_go (h : s.receivers[i]? = some pc) (hpc' : pc' ≠ .ended) :
    (s.go i pc').Receiving := by
  obtain ⟨hi, -⟩ := List.getElem?_eq_some_iff.mp h
  exact Or.inr ⟨pc', List.mem_set hi _, hpc'⟩

/-- Any other receiver than the one that ends is still there. -/
theorem ReceivingBut.go (h : s.ReceivingBut i) (pc : Receiver) : (s.go i pc).Receiving := by
  refine h.imp_right fun ⟨pc', hmem, hpc'⟩ => ⟨pc', ?_, hpc'⟩
  obtain ⟨j, hj, hget⟩ := List.mem_eraseIdx_iff_getElem?.mp hmem
  refine List.mem_of_getElem? (i := j) ?_
  rw [Transfers.go, List.getElem?_set_ne hj.symm]
  exact hget

/-! ### The invariant -/

/-- **The ledger of the transfers**: what is in `_rx_xfers` is in one place and has not been
freed, and everything else that has been allocated is in none and has been freed once. -/
structure Ledger (s : Transfers) : Prop where
  places : ∀ x, s.places x = if x ∈ s.rxXfers then 1 else 0
  freed : ∀ x, s.freed x = if x < s.made ∧ x ∉ s.rxXfers then 1 else 0
  made : ∀ x ∈ s.rxXfers, x < s.made
  served : s.arrivedXfer ≠ [] → s.Receiving

namespace Ledger

theorem init : init.Ledger where
  places := fun _ => rfl
  freed := fun _ => rfl
  made := fun _ h => absurd h List.not_mem_nil
  served := fun h => absurd rfl h

theorem owned (h : s.Ledger) : s.Owned where
  one := fun x hx => by rw [h.places, if_pos hx]
  live := fun x hx => by rw [h.freed, if_neg fun hnot => hnot.2 hx]
  gone := fun x hx => by rw [h.places, if_neg hx]
  freed := fun x hlt hx => by rw [h.freed, if_pos ⟨hlt, hx⟩]
  served := h.served

/-- A transfer that is anywhere is in `_rx_xfers`. -/
theorem mem_of_places (h : s.Ledger) (hpos : 0 < s.places x) : x ∈ s.rxXfers := by
  by_contra hx
  rw [h.places, if_neg hx] at hpos
  exact absurd hpos (Nat.lt_irrefl 0)

/-- Steps that move transfers from one place to another keep the ledger, whatever the places
are. -/
theorem moved (h : s.Ledger) (hplaces : ∀ x, s'.places x = s.places x)
    (hrx : s'.rxXfers = s.rxXfers) (hmade : s'.made = s.made) (hfreed : s'.freed = s.freed)
    (hserved : s'.arrivedXfer ≠ [] → s'.Receiving) : s'.Ledger where
  places := fun x => by rw [hplaces, hrx, h.places]
  freed := fun x => by rw [hfreed, hrx, hmade, h.freed]
  made := fun x hx => by
    rw [hrx] at hx
    rw [hmade]
    exact h.made x hx
  served := hserved

theorem startRxLoop (h : s.Ledger) (ok : Bool) : (s.startRxLoop ok).Ledger := by
  have hnew : s.made ∉ s.rxXfers := fun hmem => absurd (h.made _ hmem) (Nat.lt_irrefl _)
  unfold Transfers.startRxLoop
  split_ifs
  · -- the new transfer is in one place, submitted, and its receiver is about to be added
    refine ⟨?_, ?_, ?_, fun _ => Or.inl (Nat.succ_pos _)⟩
    · intro x
      have hx := h.places x
      simp only [Transfers.places, submit, List.count_append, List.count_singleton, List.mem_append,
        List.mem_singleton, beq_iff_eq] at hx ⊢
      rcases eq_or_ne x s.made with rfl | hne
      · rw [if_neg hnew] at hx
        simp only [if_true, or_true]
        omega
      · simp only [hne, hne.symm, if_false, or_false]
        omega
    · intro x
      have hx := h.freed x
      simp only [submit, List.mem_append, List.mem_singleton]
      rw [hx]
      refine if_congr ?_ rfl rfl
      constructor
      · rintro ⟨hlt, hx⟩
        exact ⟨by omega, by simp only [not_or]; exact ⟨hx, by omega⟩⟩
      · rintro ⟨hlt, hx⟩
        rw [not_or] at hx
        exact ⟨by omega, hx.1⟩
    · intro x hx
      rcases List.mem_append.mp hx with hx | hx
      · exact Nat.lt_succ_of_lt (h.made x hx)
      · rw [List.mem_singleton.mp hx]
        exact Nat.lt_succ_self _
  · -- the submission has failed: the transfer is erased and freed on the spot
    refine ⟨h.places, ?_, fun x hx => Nat.lt_succ_of_lt (h.made x hx), h.served⟩
    intro x
    rcases eq_or_ne x s.made with rfl | hne
    · simp only [free, Function.update_self]
      rw [h.freed, if_neg fun hlt => absurd hlt.1 (Nat.lt_irrefl _),
        if_pos ⟨Nat.lt_succ_self _, hnew⟩]
    · simp only [free, Function.update_of_ne hne]
      rw [h.freed]
      refine if_congr (and_congr_left ?_) rfl rfl
      intro _
      omega

theorem addReceiver (h : s.Ledger) : s.addReceiver.Ledger := by
  refine h.moved ?_ rfl rfl rfl fun _ =>
    Or.inr ⟨.waiting, List.mem_append_right _ (List.mem_singleton_self _), Receiver.noConfusion⟩
  intro x
  simp [Transfers.places, Transfers.addReceiver, Receiver.xfer]

/-- A completed transfer goes from libusb into the queue. It stays in `_rx_xfers`, and nothing
but its place changes. -/
theorem rxCompleted (h : s.Ledger) (hsub : xfer ∈ s.submitted) (hrec : s.Receiving) :
    (s.rxCompleted xfer).Ledger := by
  refine h.moved ?_ rfl rfl rfl fun _ => hrec
  intro x
  have hcount := count_giveBack hsub x
  simp only [Transfers.places, Transfers.rxCompleted, List.count_append, List.count_singleton,
    beq_iff_eq, eq_comm (a := xfer)]
  simp only [giveBack] at hcount ⊢
  omega

/-- A transfer that is given back with any other status leaves libusb and `_rx_xfers` together,
and is freed at the same moment. So it is freed once, and it cannot be found by `deconstruct`
later. -/
theorem rxAborted (h : s.Ledger) (hsub : xfer ∈ s.submitted) : (s.rxAborted xfer).Ledger := by
  have hmem : xfer ∈ s.rxXfers := by
    refine h.mem_of_places ?_
    have hpos := List.count_pos_iff.mpr hsub
    unfold Transfers.places
    omega
  have herase : ∀ x, x ∈ s.eraseXfer xfer ↔ x ∈ s.rxXfers ∧ x ≠ xfer := fun x => by
    simp [eraseXfer]
  refine ⟨?_, ?_, fun x hx => h.made x ((herase x).mp hx).1, h.served⟩
  · intro x
    -- the transfer leaves `submitted` and `_rx_xfers` together
    have hcount := count_giveBack hsub x
    have hx := h.places x
    simp only [Transfers.places, Transfers.rxAborted, Transfers.kill, herase] at hx ⊢
    simp only [giveBack] at hcount ⊢
    rcases eq_or_ne x xfer with rfl | hne
    · rw [if_pos hmem] at hx
      rw [if_pos rfl] at hcount
      rw [if_neg fun hnot => hnot.2 rfl]
      omega
    · rw [if_neg hne] at hcount
      simp only [hne, ne_eq, not_false_eq_true, and_true]
      omega
  · intro x
    simp only [Transfers.rxAborted, Transfers.kill, herase, giveBack]
    rcases eq_or_ne x xfer with rfl | hne
    · rw [free, Function.update_self, h.freed, if_neg fun hnot => hnot.2 hmem,
        if_pos ⟨h.made x hmem, fun hnot => hnot.2 rfl⟩]
    · rw [free, Function.update_of_ne hne, h.freed]
      simp only [hne, ne_eq, not_false_eq_true, and_true]

/-- **A receiver hands its transfer on**, as long as it can be submitted again. The transfer is
in one place before and after: the queue, the receiver, libusb. -/
theorem loopEvent {ok : Bool} (h : s.Ledger) (hok : s.Attended (.loopEvent i ok))
    (hs : s.loopEvent i ok = some s') : s'.Ledger := by
  unfold Transfers.loopEvent at hs
  split at hs
  · next hpc =>
    split at hs
    · next xfer rest harrived =>
      cases hs
      refine h.moved ?_ rfl rfl rfl fun _ => receiving_go hpc Receiver.noConfusion
      intro x
      -- from the queue to the receiver
      have hgo := places_go (.handling xfer) hpc x
      rw [Receiver.xfer, Receiver.xfer, if_neg (Option.some_ne_none x).symm] at hgo
      simp only [Transfers.places, go, harrived, List.count_cons, beq_iff_eq,
        Option.some.injEq] at hgo ⊢
      omega
    · cases hs
  · next xfer hpc =>
    cases hs
    -- whether `device_data_input` returns or throws, the receiver holds on to the transfer
    have hsame : ∀ returned x, (s.go i (.cleanup xfer returned)).places x = s.places x :=
      fun returned x => Nat.add_right_cancel (places_go (.cleanup xfer returned) hpc x)
    split_ifs
    · exact h.moved (hsame true) rfl rfl rfl fun _ => receiving_go hpc Receiver.noConfusion
    · exact h.moved (hsame false) rfl rfl rfl fun _ => receiving_go hpc Receiver.noConfusion
  · next xfer returned hpc =>
    simp only [Attended, hpc] at hok
    obtain ⟨rfl, hlast⟩ := hok
    cases hs
    refine h.moved ?_ rfl rfl rfl ?_
    · intro x
      -- from the receiver back to libusb
      have hgo := places_go (if returned then .waiting else .ended) hpc x
      have hnone : (if returned then Receiver.waiting else .ended).xfer = none := by
        cases returned <;> rfl
      rw [hnone, Receiver.xfer, if_neg (Option.some_ne_none x).symm] at hgo
      simp only [Transfers.places, go, submit, if_true, List.count_append, List.count_singleton,
        beq_iff_eq, Option.some.injEq] at hgo ⊢
      omega
    · intro hqueue
      cases returned with
      | true => exact receiving_go (s := s) hpc Receiver.noConfusion
      | false => exact ((hlast rfl).resolve_left hqueue).go .ended
  · cases hs
  · cases hs

theorem step (h : s.Ledger) (hok : s.Attended l) (hs : s.step l = some s') : s'.Ledger := by
  cases l with
  | startRxLoop ok =>
    simp only [Transfers.step, Option.ite_none_right_eq_some, Option.some.injEq] at hs
    obtain ⟨-, rfl⟩ := hs
    exact h.startRxLoop ok
  | addReceiver =>
    simp only [Transfers.step, Option.ite_none_right_eq_some, Option.some.injEq] at hs
    obtain ⟨-, rfl⟩ := hs
    exact h.addReceiver
  | rxCallback xfer status =>
    simp only [Transfers.step] at hs
    split_ifs at hs with hsub hstatus
    · cases hs
      exact h.rxCompleted hsub.1 (hok hstatus)
    · cases hs
      -- the transfer is not submitted again
      exact h.rxAborted hsub.1
  | loopEvent i ok => exact h.loopEvent hok hs
  | kill =>
    cases hs
    exact h.moved (fun _ => rfl) rfl rfl rfl h.served
  | deconstruct =>
    simp only [Transfers.step, Option.ite_none_right_eq_some, Option.some.injEq] at hs
    obtain ⟨-, rfl⟩ := hs
    exact h.moved (fun _ => rfl) rfl rfl rfl h.served
  | cancel =>
    simp only [Transfers.step] at hs
    split at hs
    · cases hs
      exact h.moved (fun _ => rfl) rfl rfl rfl h.served
    · cases hs
      exact h.moved (fun _ => rfl) rfl rfl rfl h.served
    · cases hs

end Ledger

end Transfers

/-! ### Every transfer has an owner -/

open Transfers

/-- **Every rx transfer has an owner**, in every run in which the transfers are attended to,
with any number of receive loops and receivers, and whatever libusb reports. -/
theorem transfers_owned {s : Transfers} (h : transfersMachine.Reaches Attended init s) :
    s.Owned :=
  (h.invariant (I := Ledger) .init fun _ _ _ hi hok hs => hi.step hok hs).owned

/-- A receive loop is started, and its transfer completes. -/
def Transfers.arrived : List Label :=
  [.startRxLoop true, .addReceiver, .rxCallback 0 .completed, .loopEvent 0 true]

/-- A transfer that is submitted again and then cancelled is freed. -/
theorem transfers_owned_cancelled :
    ∃ s : Transfers, (s.rxXfers = [] ∧ s.made = 1) ∧ s.Owned := by
  obtain ⟨s, hr, hp⟩ := transfersMachine.exists_reaches_of_runOk Attended init
    (arrived ++ [.loopEvent 0 true, .loopEvent 0 true, .kill, .deconstruct, .cancel, .cancel,
      .rxCallback 0 .cancelled])
    (fun s => s.rxXfers = [] ∧ s.made = 1) (by decide)
  exact ⟨s, of_decide_eq_true hp, transfers_owned hr⟩

/-- **A transfer is lost**: the receiver cannot submit it again and goes on waiting, and
the transfer stays in `_rx_xfers`. -/
theorem resubmission_fails : ∃ s, transfersMachine.Reachable init s ∧ ¬s.Owned := by
  obtain ⟨s, hr, hp⟩ := transfersMachine.exists_reaches_of_runOk (fun _ _ => True) init
    (arrived ++ [.loopEvent 0 true, .loopEvent 0 false])
    (fun s => 0 ∈ s.rxXfers ∧ s.places 0 = 0) (by decide)
  obtain ⟨hmem, hplaces⟩ := of_decide_eq_true hp
  refine ⟨s, hr, ?_⟩
  intro howned
  have hone := howned.one 0 hmem
  omega

/-- **A transfer is not taken**: `device_data_input` throws, `deconstruct` comes before the
transfer is submitted again, and when it completes the receiver has ended. -/
theorem last_receiver_ends :
    ∃ s, transfersMachine.Reachable init s ∧ s.submitted = [] ∧ ¬s.Owned := by
  obtain ⟨s, hr, hp⟩ := transfersMachine.exists_reaches_of_runOk (fun _ _ => True) init
    (arrived ++ [.loopEvent 0 false, .deconstruct, .cancel, .cancel, .loopEvent 0 true,
      .rxCallback 0 .completed])
    (fun s => s.submitted = [] ∧ s.arrivedXfer ≠ [] ∧ ¬s.Receiving) (by decide)
  obtain ⟨hsub, hqueue, hnot⟩ := of_decide_eq_true hp
  exact ⟨s, hr, hsub, fun howned => hnot (howned.served hqueue)⟩

end Usbmuxd
