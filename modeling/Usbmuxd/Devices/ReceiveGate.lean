import Mathlib.Data.Finset.Card
import Usbmuxd.Library.Interleaving
import Usbmuxd.Library.Serial
import Usbmuxd.Protocol

/-!
# The receive gate of a USB device

Several receivers take transfers off one bulk endpoint, so the mux packets of a
version 2 device arrive at `USBDevice::device_data_input` in any order. The
packets carry a 16-bit sequence number, `tx_seq`, and the locked section at the
head of that function is the gate that puts them back in order: a receiver whose
packet is not next sleeps on `_data_in_event`, and every receiver that leaves the
gate signals the event.

## The wait condition

The condition a sleeper tests again each time it wakes is the interesting part
(`Usbmuxd.mustWait`). It is meant to say “my packet is still to come” modulo
`2 ^ 16`, and is written as a disjunction of two comparisons. The second one
truncates its left side to sixteen bits, but not its right side, where a
`uint16_t` is added to the `size_t` number of transfers. For a packet that is
next in line the two sides are the same number except for that truncation
(`Usbmuxd.mustWait_self_iff`): the receiver goes on sleeping exactly when its
sequence number plus the number of transfers does not fit in sixteen bits.

## Runs

The machine `Usbmuxd.gateMachine` has one receiver per packet in hand. Packets
are delivered in the order the device sent them, `0, 1, 2, …`, at most `n` of
them are in hand at once, and the receivers take the lock in any order. The
invariant of its runs is `Usbmuxd.Gate.Sound`, and it is kept as long as no
packet close to the wrap enters the gate ahead of its turn
(`Usbmuxd.EntersInRange`). Near the wrap the gate does wedge
(`Usbmuxd.gate_wedges_at_wrap`).
-/

namespace Usbmuxd

open Interleaving

/-! ### The locked section -/

/-- The condition of the wait loop in `USBDevice::device_data_input`. The left
sides are truncated to `uint16_t`; the right side of the second comparison is a
`size_t`. -/
def mustWait (rxSeq txseq : BitVec 16) (rxXfers : ℕ) : Bool :=
  (rxSeq + 1).toNat < txseq.toNat ||
    (BitVec.ofNat 16 (rxSeq.toNat + 1 + rxXfers)).toNat < txseq.toNat + rxXfers

/-- What the gate does with a packet. -/
inductive GateOutcome
  /-- Take the number of the next signal, release the lock and sleep. -/
  | sleep
  /-- “Discarding duplicated MUX packet”. -/
  | discard
  /-- Store the sequence number in `rx_seq` and go on with the packet. -/
  | accept
  deriving DecidableEq

/-- The gate once the wait loop is over. -/
def afterWait (rxSeq txseq : BitVec 16) : GateOutcome :=
  if rxSeq + 1 ≠ txseq then .discard else .accept

/-- One evaluation of the wait loop by a receiver that holds the lock. -/
def waitLoop (rxSeq txseq : BitVec 16) (rxXfers : ℕ) : GateOutcome :=
  if mustWait rxSeq txseq rxXfers then .sleep else afterWait rxSeq txseq

/-- The gate as a receiver finds it when it takes the lock for the first time: a
packet that is next in line does not come to the loop at all. -/
def firstVisit (rxSeq txseq : BitVec 16) (rxXfers : ℕ) : GateOutcome :=
  if rxSeq + 1 ≠ txseq then waitLoop rxSeq txseq rxXfers else afterWait rxSeq txseq

section Condition

variable {rxSeq : BitVec 16} {m k n : ℕ}

/-- What the wait condition compares, in terms of the number `m` of the packet
that is next in line. -/
theorem mustWait_iff (h : rxSeq + 1 = BitVec.ofNat 16 m) :
    mustWait rxSeq (BitVec.ofNat 16 k) n = true ↔
      m % 65536 < k % 65536 ∨ (m % 65536 + n) % 65536 < k % 65536 + n := by
  have hnat : (rxSeq.toNat + 1) % 65536 = m % 65536 := by
    simpa [BitVec.toNat_add] using congrArg BitVec.toNat h
  have hsum : (rxSeq.toNat + 1 + n) % 65536 = (m % 65536 + n) % 65536 := by omega
  simp only [mustWait, h, BitVec.toNat_ofNat, Bool.or_eq_true, decide_eq_true_eq]
  rw [show (2 : ℕ) ^ 16 = 65536 from rfl, hsum]

/-- **What goes wrong.** The packet that is next in line is told to wait exactly
when its sequence number and the number of transfers do not fit in sixteen bits
together. -/
theorem mustWait_self_iff (h : rxSeq + 1 = BitVec.ofNat 16 m) :
    mustWait rxSeq (BitVec.ofNat 16 m) n = true ↔ 65536 ≤ m % 65536 + n := by
  rw [mustWait_iff h]
  omega

/-- A packet that is still to come, by no more than the number of transfers, is
told to wait. -/
theorem mustWait_of_lt (h : rxSeq + 1 = BitVec.ofNat 16 m) (hlt : m < k) (hle : k ≤ m + n) :
    mustWait rxSeq (BitVec.ofNat 16 k) n = true := by
  rw [mustWait_iff h]
  omega

/-- A packet that is next in line goes through at once when its receiver takes
the lock for the first time. -/
theorem firstVisit_self (h : rxSeq + 1 = BitVec.ofNat 16 m) :
    firstVisit rxSeq (BitVec.ofNat 16 m) n = .accept := by
  rw [firstVisit, if_neg (not_not.mpr h), afterWait, if_neg (not_not.mpr h)]

/-- A packet that is next in line goes through when its receiver wakes up, away
from the wrap. -/
theorem waitLoop_self (h : rxSeq + 1 = BitVec.ofNat 16 m) (hfit : m % 65536 + n < 65536) :
    waitLoop rxSeq (BitVec.ofNat 16 m) n = .accept := by
  have hwait : ¬mustWait rxSeq (BitVec.ofNat 16 m) n = true := by
    rw [mustWait_self_iff h]
    omega
  rw [waitLoop, if_neg hwait, afterWait, if_neg (not_not.mpr h)]

theorem waitLoop_of_lt (h : rxSeq + 1 = BitVec.ofNat 16 m) (hlt : m < k) (hle : k ≤ m + n) :
    waitLoop rxSeq (BitVec.ofNat 16 k) n = .sleep := by
  rw [waitLoop, if_pos (mustWait_of_lt h hlt hle)]

theorem firstVisit_of_lt (h : rxSeq + 1 = BitVec.ofNat 16 m) (hlt : m < k) (hle : k ≤ m + n)
    (hfit : k % 65536 + n < 65536) : firstVisit rxSeq (BitVec.ofNat 16 k) n = .sleep := by
  have hne : rxSeq + 1 ≠ BitVec.ofNat 16 k := by
    intro heq
    have hmk : m % 65536 = k % 65536 := by
      simpa only [BitVec.toNat_ofNat] using congrArg BitVec.toNat (h.symm.trans heq)
    omega
  rw [firstVisit, if_pos hne, waitLoop_of_lt h hlt hle]

/-- **Which packets are thrown away at the first visit**: those with a number below the
one expected, while that number and the number of transfers fit in sixteen bits. -/
theorem firstVisit_discard_iff {txseq : BitVec 16} :
    firstVisit rxSeq txseq n = .discard ↔
      txseq.toNat < (rxSeq + 1).toNat ∧ (rxSeq + 1).toNat + n < 65536 := by
  have hnext := (rxSeq + 1).isLt
  have hsum : (BitVec.ofNat 16 (rxSeq.toNat + 1 + n)).toNat = ((rxSeq + 1).toNat + n) % 65536 := by
    rw [BitVec.toNat_ofNat, BitVec.toNat_add, show (1 : BitVec 16).toNat = 1 from rfl]
    omega
  have hne : rxSeq + 1 = txseq ↔ (rxSeq + 1).toNat = txseq.toNat := BitVec.toNat_inj.symm
  by_cases hself : rxSeq + 1 = txseq
  · rw [firstVisit, if_neg (not_not.mpr hself), afterWait, if_neg (not_not.mpr hself)]
    have heq := hne.mp hself
    exact iff_of_false nofun fun h => absurd h.1 (by omega)
  · rw [firstVisit, if_pos hself, waitLoop, afterWait, if_pos hself, mustWait, hsum]
    rw [hne] at hself
    simp only [Bool.or_eq_true, decide_eq_true_eq]
    split_ifs with hwait
    · exact iff_of_false nofun (by omega)
    · exact iff_of_true rfl (by omega)

/-- A packet goes through the gate only when it is next in line. -/
theorem waitLoop_accept {txseq : BitVec 16} (h : waitLoop rxSeq txseq n = .accept) :
    rxSeq + 1 = txseq := by
  rw [waitLoop, afterWait] at h
  split at h
  · cases h
  split at h
  · cases h
  · next hnext =>
    exact not_not.mp hnext

theorem firstVisit_accept {txseq : BitVec 16}
    (h : firstVisit rxSeq txseq n = .accept) : rxSeq + 1 = txseq := by
  rw [firstVisit] at h
  split at h
  · exact waitLoop_accept h
  · next hnext =>
    exact not_not.mp hnext

end Condition

/-! ### The gate and its receivers -/

/-- Where the receiver of a packet is. -/
inductive ReceiverPc
  /-- The packet has not been delivered yet. -/
  | absent
  /-- In `device_data_input`, before `_usbLck` is taken. -/
  | arrived
  /-- In `waitForEvent` on `_data_in_event`, the lock released. -/
  | asleep (w : ℕ)
  /-- Past the gate, handling the packet. -/
  | accepted
  /-- Past the gate, the packet thrown away. -/
  | discarded
  /-- The transfer has been submitted again. -/
  | done
  deriving DecidableEq

/-- A receiver holds a packet from its delivery to the end of `loopEvent`. -/
def ReceiverPc.Holds : ReceiverPc → Prop
  | .absent | .done => False
  | _ => True

/-- The state of the gate. Packet `k` is the one the device sent as its `k`-th,
counting from `0`, and `receiver k` is the receiver that got it. -/
structure Gate where
  /-- `_muxdev.rx_seq`. -/
  rxSeq : BitVec 16
  /-- `_data_in_event`. -/
  dataInEvent : EventCount
  /-- How many packets have been delivered. -/
  delivered : ℕ
  /-- How many receivers are through with their packet. -/
  released : ℕ
  /-- Where the receiver of each packet is. -/
  receiver : ℕ → ReceiverPc
  /-- The packets that have left the gate to be handled, in that order. -/
  passed : List ℕ

/-- The `tx_seq` field of packet `k`. -/
abbrev txseq (k : ℕ) : BitVec 16 := BitVec.ofNat 16 k

namespace Gate

/-- The gate after `MUX_PROTO_SETUP`, which sets `rx_seq` to `0xffff`. -/
def init : Gate where
  rxSeq := 0xffff
  dataInEvent := ⟨0⟩
  delivered := 0
  released := 0
  receiver := fun _ => .absent
  passed := []

/-- The receiver of packet `k` goes on to `pc`. -/
def move (g : Gate) (k : ℕ) (pc : ReceiverPc) : Gate :=
  { g with receiver := Function.update g.receiver k pc }

/-- The gate applied to packet `k`. Whoever leaves it signals `_data_in_event`,
in both ways of leaving it. -/
def resolve (g : Gate) (k : ℕ) : GateOutcome → Gate
  | .sleep => g.move k (.asleep g.dataInEvent.next)
  | .discard => { g.move k .discarded with dataInEvent := g.dataInEvent.advance }
  | .accept => { g.move k .accepted with
      dataInEvent := g.dataInEvent.advance
      rxSeq := txseq k
      passed := g.passed ++ [k] }

end Gate

/-- What may happen next at the gate. -/
inductive GateLabel
  /-- The next packet of the device is delivered to a receiver. -/
  | deliver
  /-- The receiver of packet `k` takes the lock for the first time. -/
  | enter (k : ℕ)
  /-- The receiver of packet `k` has woken up and takes the lock again. -/
  | wake (k : ℕ)
  /-- The receiver of packet `k` is through with it. -/
  | release (k : ℕ)

/-- One step at the gate of a device with `n` transfers. -/
def gateStep (n : ℕ) (g : Gate) : GateLabel → Option Gate
  | .deliver =>
      if g.delivered - g.released < n then
        some { g.move g.delivered .arrived with delivered := g.delivered + 1 }
      else none
  | .enter k =>
      if g.receiver k = .arrived then
        some (g.resolve k (firstVisit g.rxSeq (txseq k) n))
      else none
  | .wake k =>
      match g.receiver k with
      | .asleep w =>
          if g.dataInEvent.Reached w then
            some (g.resolve k (waitLoop g.rxSeq (txseq k) n))
          else none
      | _ => none
  | .release k =>
      if g.receiver k = .accepted ∨ g.receiver k = .discarded then
        some { g.move k .done with released := g.released + 1 }
      else none

/-- The gate of a device with `n` transfers, as a machine. -/
def gateMachine (n : ℕ) : Machine Gate GateLabel := ⟨gateStep n⟩

/-! ### What a run keeps -/

/-- What is known of the receiver of packet `k` while `m` packets have left the
gate and `d` have been delivered, `e` being the event. A sleeper is away from the
wrap, waits for a signal already given or for the next one, and has been
signalled once it is its turn. -/
def ReceiverPc.Placed (n m d : ℕ) (e : EventCount) (k : ℕ) : ReceiverPc → Prop
  | .absent => d ≤ k
  | .arrived => m ≤ k ∧ k < d
  | .asleep w => m ≤ k ∧ k < d ∧ k % 65536 + n < 65536 ∧ w ≤ e.next ∧ (k = m → e.Reached w)
  | .accepted | .done => k < m
  | .discarded => False

namespace ReceiverPc

variable {n m d k : ℕ} {e : EventCount} {pc : ReceiverPc}

theorem Placed.deliver (h : pc.Placed n m d e k) (hk : k ≠ d) : pc.Placed n m (d + 1) e k := by
  cases pc with
  | absent => exact Nat.lt_of_le_of_ne h hk.symm
  | arrived => exact ⟨h.1, Nat.lt_succ_of_lt h.2⟩
  | asleep w => exact ⟨h.1, Nat.lt_succ_of_lt h.2.1, h.2.2⟩
  | accepted => exact h
  | discarded => exact h
  | done => exact h

/-- **A packet that leaves the gate wakes everyone**, so whoever is next in line
then has been signalled. -/
theorem Placed.advance (h : pc.Placed n m d e k) (hk : k ≠ m) :
    pc.Placed n (m + 1) d e.advance k := by
  cases pc with
  | absent => exact h
  | arrived => exact ⟨Nat.lt_of_le_of_ne h.1 hk.symm, h.2⟩
  | asleep w =>
    obtain ⟨hm, hd, hfit, hw, -⟩ := h
    exact ⟨Nat.lt_of_le_of_ne hm hk.symm, hd, hfit, EventCount.le_next_advance hw,
      fun _ => EventCount.reached_advance_of_le_next hw⟩
  | accepted => exact Nat.lt_succ_of_lt h
  | discarded => exact h
  | done => exact Nat.lt_succ_of_lt h

end ReceiverPc

namespace Gate

/-- The receivers that are through with their packet. -/
def doneSet (g : Gate) : Finset ℕ :=
  (Finset.range g.delivered).filter fun k => g.receiver k = .done

/-- **The invariant of the gate.** The packets before `passed.length` have gone
through, in order, and the others have not; at most `n` are in hand. -/
structure Sound (n : ℕ) (g : Gate) : Prop where
  /-- The packets have left the gate in order, each once. -/
  passed_eq : g.passed = List.range g.passed.length
  /-- `rx_seq` is the number of the last packet that left. -/
  rxSeq_eq : g.rxSeq + 1 = txseq g.passed.length
  /-- Only packets that were delivered have left the gate. -/
  passed_le : g.passed.length ≤ g.delivered
  /-- Every receiver is where it should be. -/
  placed : ∀ k, (g.receiver k).Placed n g.passed.length g.delivered g.dataInEvent k
  /-- The receivers that are through with their packet have been counted. -/
  released_eq : g.released = g.doneSet.card
  /-- At most `n` packets are in hand. -/
  delivered_le : g.delivered ≤ g.released + n

variable {n k : ℕ} {g g' : Gate} {pc : ReceiverPc}

theorem move_receiver (j : ℕ) :
    (g.move k pc).receiver j = if j = k then pc else g.receiver j :=
  Function.update_apply ..

theorem sound_init (n : ℕ) : init.Sound n where
  passed_eq := rfl
  rxSeq_eq := rfl
  passed_le := le_rfl
  placed := fun k => Nat.zero_le k
  released_eq := rfl
  delivered_le := Nat.zero_le _

/-- Moving a receiver that is not through with its packet, and does not become
so, leaves those that are through. -/
theorem doneSet_move (h : g.receiver k ≠ .done) (hpc : pc ≠ .done) :
    (g.move k pc).doneSet = g.doneSet := by
  refine Finset.filter_congr ?_
  intro j _
  rw [move_receiver]
  split
  · next hj => exact iff_of_false hpc (hj ▸ h)
  · exact Iff.rfl

namespace Sound

/-- Whoever is through with its packet has left the gate, so the packets in hand
reach at most `n` beyond those that have left. -/
theorem delivered_le_passed (h : g.Sound n) : g.delivered ≤ g.passed.length + n := by
  have hsub : g.doneSet ⊆ Finset.range g.passed.length := by
    intro j hj
    have hpl := h.placed j
    rw [(Finset.mem_filter.mp hj).2] at hpl
    exact Finset.mem_range.mpr hpl
  have hcard := Finset.card_le_card hsub
  rw [Finset.card_range] at hcard
  have hrel := h.released_eq
  have hle := h.delivered_le
  omega

/-- Delivering the next packet. -/
theorem deliver (h : g.Sound n) (hroom : g.delivered - g.released < n) :
    Sound n { g.move g.delivered .arrived with delivered := g.delivered + 1 } where
  passed_eq := h.passed_eq
  rxSeq_eq := h.rxSeq_eq
  passed_le := Nat.le_succ_of_le h.passed_le
  placed := by
    intro j
    change ((g.move g.delivered .arrived).receiver j).Placed ..
    rw [move_receiver]
    split
    · next hj => exact ⟨hj ▸ h.passed_le, hj ▸ Nat.lt_succ_self _⟩
    · next hj => exact (h.placed j).deliver hj
  released_eq := by
    have hnew : g.receiver g.delivered ≠ .done := by
      intro hd
      have hpl := h.placed g.delivered
      rw [hd] at hpl
      exact absurd hpl (Nat.not_lt.mpr h.passed_le)
    refine h.released_eq.trans ?_
    -- a packet that arrives is not done, and the others stay as they are
    have hmove : (g.move g.delivered .arrived).doneSet = g.doneSet :=
      doneSet_move hnew (by decide)
    rw [← hmove]
    refine congrArg Finset.card ?_
    change _ = Finset.filter _ (Finset.range (g.delivered + 1))
    rw [Finset.range_add_one, Finset.filter_insert, if_neg (by simp [move_receiver])]
    rfl
  delivered_le := by
    have hle := h.delivered_le
    change g.delivered + 1 ≤ g.released + n
    omega

/-- Going to sleep, ahead of one's turn and away from the wrap. -/
theorem sleep (h : g.Sound n) (hk : k < g.delivered) (hlt : g.passed.length < k)
    (hnd : g.receiver k ≠ .done) (hfit : k % 65536 + n < 65536) :
    Sound n (g.move k (.asleep g.dataInEvent.next)) where
  passed_eq := h.passed_eq
  rxSeq_eq := h.rxSeq_eq
  passed_le := h.passed_le
  placed := by
    intro j
    rw [move_receiver]
    split
    · next hj =>
      subst hj
      exact ⟨hlt.le, hk, hfit, le_rfl, fun he => absurd he hlt.ne'⟩
    · exact h.placed j
  released_eq := by rw [doneSet_move hnd (by simp)]; exact h.released_eq
  delivered_le := h.delivered_le

/-- Leaving the gate in one's turn. -/
theorem accept (h : g.Sound n) (hk : g.passed.length < g.delivered)
    (hnd : g.receiver g.passed.length ≠ .done) :
    Sound n (g.resolve g.passed.length .accept) where
  passed_eq := by
    change g.passed ++ [g.passed.length] = List.range (g.passed ++ [g.passed.length]).length
    rw [List.length_append, List.length_singleton, List.range_succ, ← h.passed_eq]
  rxSeq_eq := by
    change txseq g.passed.length + 1 = txseq (g.passed ++ [g.passed.length]).length
    rw [List.length_append, List.length_singleton]
    exact (BitVec.ofNat_add ..).symm
  passed_le := by
    change (g.passed ++ [g.passed.length]).length ≤ g.delivered
    rw [List.length_append, List.length_singleton]
    exact hk
  placed := by
    intro j
    change ((g.move g.passed.length .accepted).receiver j).Placed n
      (g.passed ++ [g.passed.length]).length g.delivered g.dataInEvent.advance j
    rw [move_receiver, List.length_append, List.length_singleton]
    split
    · next hj => exact hj ▸ Nat.lt_succ_self _
    · next hj => exact (h.placed j).advance hj
  released_eq := (h.released_eq.trans (congrArg _ (doneSet_move hnd (by decide)).symm))
  delivered_le := h.delivered_le

/-- Being through with a packet. -/
theorem release (h : g.Sound n) (hk : g.receiver k = .accepted) :
    Sound n { g.move k .done with released := g.released + 1 } where
  passed_eq := h.passed_eq
  rxSeq_eq := h.rxSeq_eq
  passed_le := h.passed_le
  placed := by
    intro j
    change ((g.move k .done).receiver j).Placed ..
    rw [move_receiver]
    split
    · next hj =>
      have hpl := h.placed k
      rw [hk] at hpl
      exact hj ▸ hpl
    · exact h.placed j
  released_eq := by
    have hlt : k < g.delivered := by
      have hpl := h.placed k
      rw [hk] at hpl
      exact lt_of_lt_of_le hpl h.passed_le
    have hnew : k ∉ g.doneSet := by simp [doneSet, hk]
    -- one more packet is done
    have hset : (g.move k .done).doneSet = insert k g.doneSet := by
      ext j
      simp only [doneSet, Finset.mem_insert, Finset.mem_filter, Finset.mem_range, move_receiver]
      change j < g.delivered ∧ _ ↔ _
      split
      · next hj => simp [hj, hlt]
      · next hj => simp [hj]
    change g.released + 1 = (g.move k .done).doneSet.card
    rw [hset, Finset.card_insert_of_notMem hnew, ← h.released_eq]
  delivered_le := by
    have hle := h.delivered_le
    change g.delivered ≤ g.released + 1 + n
    omega

end Sound

end Gate

/-! ### The gate away from the wrap -/

/-- The condition on a step: a receiver takes the lock for the first time with
the packet that is next in line, or with one whose sequence number and the number
of transfers fit in sixteen bits together. -/
def EntersInRange (n : ℕ) (g : Gate) : GateLabel → Prop
  | .enter k => k = g.passed.length ∨ k % 65536 + n < 65536
  | _ => True

instance (n : ℕ) (g : Gate) (l : GateLabel) : Decidable (EntersInRange n g l) := by
  cases l <;> unfold EntersInRange <;> infer_instance

/-- **What the receive gate is for.** In every state: a receiver that wakes up
with the packet that is next in line finds the wait condition false; the next
packet is not held by a receiver while all receivers that hold one sleep with no
signal on its way; and the packets leave in order, each once, none thrown away. -/
structure NeverWedges (n : ℕ) (g : Gate) : Prop where
  turn_passes : ∀ k w, g.receiver k = .asleep w → g.dataInEvent.Reached w →
    g.rxSeq + 1 = txseq k → mustWait g.rxSeq (txseq k) n = false
  not_wedged : ¬((∃ k, (g.receiver k).Holds ∧ g.rxSeq + 1 = txseq k) ∧
    ∀ k, (g.receiver k).Holds → ∃ w, g.receiver k = .asleep w ∧ ¬g.dataInEvent.Reached w)
  in_order : g.passed = List.range g.passed.length
  none_discarded : ∀ k, g.receiver k ≠ .discarded

namespace Gate.Sound

variable {n k w : ℕ} {g g' : Gate}

/-- A sleeper that reads its own number in `rx_seq` is next in line. -/
theorem eq_of_txseq_eq (h : g.Sound n) (hk : g.receiver k = .asleep w)
    (heq : g.rxSeq + 1 = txseq k) : k = g.passed.length := by
  have hpl := h.placed k
  rw [hk] at hpl
  obtain ⟨hle, hlt, hfit, -⟩ := hpl
  have hd := h.delivered_le_passed
  have hmod : g.passed.length % 65536 = k % 65536 := by
    simpa only [BitVec.toNat_ofNat] using congrArg BitVec.toNat (h.rxSeq_eq.symm.trans heq)
  omega

theorem neverWedges (h : g.Sound n) : NeverWedges n g where
  turn_passes := by
    intro k w hk _ heq
    have hpl := h.placed k
    rw [hk] at hpl
    rw [← Bool.not_eq_true, mustWait_self_iff heq]
    have hfit := hpl.2.2.1
    omega
  not_wedged := by
    rintro ⟨⟨k, hhold, heq⟩, hall⟩
    obtain ⟨w, hw, hnot⟩ := hall k hhold
    have hpl := h.placed k
    rw [hw] at hpl
    exact hnot (hpl.2.2.2.2 (h.eq_of_txseq_eq hw heq))
  in_order := h.passed_eq
  none_discarded := by
    intro k hk
    have hpl := h.placed k
    rw [hk] at hpl
    exact hpl

/-- The first visit of a receiver to the gate. -/
theorem enter (h : g.Sound n) (hk : g.receiver k = .arrived)
    (hok : k = g.passed.length ∨ k % 65536 + n < 65536) :
    Sound n (g.resolve k (firstVisit g.rxSeq (txseq k) n)) := by
  obtain ⟨hle, hlt⟩ : g.passed.length ≤ k ∧ k < g.delivered := by
    have hpl := h.placed k
    rw [hk] at hpl
    exact hpl
  rcases hle.eq_or_lt with rfl | hgt
  · rw [firstVisit_self h.rxSeq_eq]
    exact h.accept hlt (by rw [hk]; decide)
  · have hfit := hok.resolve_left hgt.ne'
    have hd := h.delivered_le_passed
    rw [firstVisit_of_lt h.rxSeq_eq hgt (by omega) hfit]
    exact h.sleep hlt hgt (by rw [hk]; decide) hfit

/-- A further visit, after waking up. -/
theorem wake (h : g.Sound n) (hk : g.receiver k = .asleep w) :
    Sound n (g.resolve k (waitLoop g.rxSeq (txseq k) n)) := by
  obtain ⟨hle, hlt, hfit, -⟩ : g.passed.length ≤ k ∧ k < g.delivered ∧ k % 65536 + n < 65536 ∧
      _ ∧ _ := by
    have hpl := h.placed k
    rw [hk] at hpl
    exact hpl
  rcases hle.eq_or_lt with rfl | hgt
  · rw [waitLoop_self h.rxSeq_eq hfit]
    exact h.accept hlt (by rw [hk]; simp)
  · have hd := h.delivered_le_passed
    rw [waitLoop_of_lt h.rxSeq_eq hgt (by omega)]
    exact h.sleep hlt hgt (by rw [hk]; simp) hfit

/-- **One step keeps the invariant.** -/
theorem step (h : g.Sound n) {l : GateLabel} (hok : EntersInRange n g l)
    (hs : gateStep n g l = some g') : g'.Sound n := by
  cases l with
  | deliver =>
    simp only [gateStep, Option.ite_none_right_eq_some, Option.some.injEq] at hs
    obtain ⟨hroom, rfl⟩ := hs
    exact h.deliver hroom
  | enter k =>
    simp only [gateStep, Option.ite_none_right_eq_some, Option.some.injEq] at hs
    obtain ⟨hk, rfl⟩ := hs
    exact h.enter hk hok
  | wake k =>
    simp only [gateStep] at hs
    split at hs
    · next w hk =>
      simp only [Option.ite_none_right_eq_some, Option.some.injEq] at hs
      obtain ⟨-, rfl⟩ := hs
      exact h.wake hk
    · cases hs
  | release k =>
    simp only [gateStep, Option.ite_none_right_eq_some, Option.some.injEq] at hs
    obtain ⟨hk | hk, rfl⟩ := hs
    · exact h.release hk
    · exact absurd hk (h.neverWedges.none_discarded k)

end Gate.Sound

/-- **The receive gate works away from the wrap**: in every run in which no packet
enters the gate ahead of its turn with a sequence number within `n` of `2 ^ 16`,
every state is as it should be. -/
theorem gate_never_wedges {n : ℕ} {g : Gate}
    (h : (gateMachine n).Reaches (EntersInRange n) Gate.init g) : NeverWedges n g :=
  (h.invariant (I := Gate.Sound n) (Gate.sound_init n)
    fun _ _ _ hi hok hs => hi.step hok hs).neverWedges

/-- Two packets that arrive the wrong way round, with three transfers. -/
theorem gate_never_wedges_swapped :
    ∃ g, g.passed = [0, 1] ∧ NeverWedges numRxLoops g := by
  obtain ⟨g, hr, hp⟩ := (gateMachine numRxLoops).exists_reaches_of_runOk
    (EntersInRange numRxLoops) Gate.init [.deliver, .deliver, .enter 1, .enter 0, .wake 1]
    (fun g => g.passed = [0, 1]) (by decide)
  exact ⟨g, by simpa using hp, gate_never_wedges hr⟩

/-! ### The gate at the wrap -/

/-- The gate after `m` packets that arrived one at a time. -/
def Gate.afterInOrder (m : ℕ) : Gate where
  rxSeq := BitVec.ofNat 16 (m + 65535)
  dataInEvent := ⟨m⟩
  delivered := m
  released := m
  receiver := fun k => if k < m then .done else .absent
  passed := List.range m

theorem Gate.afterInOrder_rxSeq (m : ℕ) : (afterInOrder m).rxSeq + 1 = txseq m := by
  change BitVec.ofNat 16 (m + 65535) + 1 = BitVec.ofNat 16 m
  rw [BitVec.ofNat_add, BitVec.add_assoc]
  exact BitVec.add_zero _

theorem Gate.afterInOrder_zero : afterInOrder 0 = init := by
  simp [afterInOrder, init]

/-- The next packet arrives, goes through the gate and is released, whatever the number of
transfers. -/
theorem Gate.afterInOrder_steps {n : ℕ} (hn : 1 ≤ n) (m : ℕ) :
    ∃ g₁ g₂, gateStep n (afterInOrder m) .deliver = some g₁ ∧
      gateStep n g₁ (.enter m) = some g₂ ∧
      gateStep n g₂ (.release m) = some (afterInOrder (m + 1)) := by
  refine ⟨{ (afterInOrder m).move m .arrived with delivered := m + 1 },
    resolve { (afterInOrder m).move m .arrived with delivered := m + 1 } m .accept, ?_, ?_, ?_⟩
  · rw [gateStep, if_pos (by simp [afterInOrder]; omega)]
    rfl
  · rw [gateStep, if_pos (by simp [move])]
    exact congrArg (fun o => some (resolve _ m o)) (firstVisit_self (afterInOrder_rxSeq m))
  · rw [gateStep, if_pos (by simp [move, resolve])]
    simp only [resolve, move, afterInOrder, EventCount.advance, Function.update_idem,
      List.range_succ, Option.some.injEq, Gate.mk.injEq, and_true, true_and]
    constructor
    · exact (congrArg (BitVec.ofNat 16) (by omega)).trans
        ((BitVec.ofNat_add m 65536).trans (BitVec.add_zero _)) |>.symm
    · funext k
      simp only [Function.update_apply]
      split_ifs <;> grind

/-- Packets that arrive one at a time go through, so every point of the wrap is reached. -/
theorem reaches_afterInOrder {n : ℕ} (hn : 1 ≤ n) (m : ℕ) :
    (gateMachine n).Reachable Gate.init (Gate.afterInOrder m) := by
  induction m with
  | zero => exact Gate.afterInOrder_zero ▸ .refl
  | succ m ih =>
    obtain ⟨g₁, g₂, hdeliver, henter, hrelease⟩ := Gate.afterInOrder_steps hn m
    exact ((ih.tail GateLabel.deliver trivial hdeliver).tail (GateLabel.enter m) trivial
      henter).tail (GateLabel.release m) trivial hrelease

/-- The receivers after the run of `gate_wedges_at_wrap`, step by step. -/
def Gate.wedgedReceiver : ℕ → ReceiverPc :=
  let upd := fun (f : ℕ → ReceiverPc) k pc => Function.update f k pc
  upd (upd (upd (upd (upd (upd (upd (upd (upd (upd (fun k => if k < 65532 then .done else .absent)
    65532 .arrived) 65533 .arrived) 65533 (.asleep 65533)) 65532 .accepted)
    65533 (.asleep 65534)) 65532 .done) 65534 .arrived) 65535 .arrived)
    65534 (.asleep 65534)) 65535 (.asleep 65534)

/-- **The gate wedges at the wrap.** With three transfers, after 65532 packets:
packet 65533 enters ahead of packet 65532 and goes to sleep; when packet 65532 has
gone through, `65533 + 3` no longer fits in sixteen bits, so the receiver of packet
65533 goes back to sleep although its packet is next; packets 65534 and 65535 then
fill the other two transfers, and nobody is left to signal anything. -/
theorem gate_wedges_at_wrap :
    ∃ g, (gateMachine numRxLoops).Reachable Gate.init g ∧ ¬NeverWedges numRxLoops g := by
  have hrun : ∃ g, (gateMachine numRxLoops).runOk (fun _ _ => True) (Gate.afterInOrder 65532)
      [.deliver, .deliver, .enter 65533, .enter 65532, .wake 65533, .release 65532,
        .deliver, .deliver, .enter 65534, .enter 65535] = some g ∧
      g.rxSeq = 65532 ∧ g.dataInEvent = ⟨65533⟩ ∧
      g.receiver = Gate.wedgedReceiver :=
    ⟨_, rfl, rfl, rfl, rfl⟩
  obtain ⟨g, hg, hseq, hev, hrec⟩ := hrun
  refine ⟨g, (reaches_afterInOrder (by decide) _).trans (Machine.reaches_of_runOk hg),
    fun hnw => hnw.not_wedged ⟨⟨65533, ?_, ?_⟩, fun k hk => ⟨65534, ?_, ?_⟩⟩⟩
  · rw [hrec]
    simp [Gate.wedgedReceiver, ReceiverPc.Holds]
  · rw [hseq]
    rfl
  · rw [hrec] at hk ⊢
    by_contra hne
    simp only [Gate.wedgedReceiver, Function.update_apply] at hk hne
    split_ifs at hk hne <;> simp_all [ReceiverPc.Holds]
  · rw [hev]
    decide

end Usbmuxd
