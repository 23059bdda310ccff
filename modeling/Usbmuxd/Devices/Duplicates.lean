import Usbmuxd.Devices.ReceiveGate

/-!
# Packets that are delivered twice

The receive gate of `Usbmuxd.Devices.ReceiveGate` is written for packets that are all
different. Here the device may deliver whatever it likes, and the question is what
becomes of a packet that has been accepted before. A *copy* is an arrived packet with
the number of one that has been accepted (`Usbmuxd.Gate.Copy`), and it is to be thrown
away at once (`Usbmuxd.Gate.DroppedAtOnce`).

Two things stand against that, and both are in the wait condition. A copy from before
the wrap has a number above the one that is expected, so the first comparison takes it
for a packet to come. And when the number expected is close to the wrap, the second
comparison does not hold for any packet at all, so every copy is told to wait. Nothing
else goes wrong (`Usbmuxd.duplicate_dropped_iff`).

The runs are those of the gate with one change: the number of the `k`-th packet to be
delivered is `tx k`, whatever the device makes it. With the numbers `0, 1, 2, …` they
are the runs of the gate (`Usbmuxd.deliveryMachine_txseq`).
-/

namespace Usbmuxd

open Interleaving

/-! ### The gate with any packets -/

section Step

variable (tx : ℕ → BitVec 16) (n : ℕ)

/-- The gate applied to the `k`-th packet to be delivered, whose number is `txseq`. -/
def Gate.resolveAs (g : Gate) (k : ℕ) (txseq : BitVec 16) : GateOutcome → Gate
  | .accept => { g.resolve k .accept with rxSeq := txseq }
  | o => g.resolve k o

/-- One step at the gate of a device with `n` transfers that delivers packets with the
numbers `tx`. -/
def deliveryStep (g : Gate) : GateLabel → Option Gate
  | .enter k =>
      if g.receiver k = .arrived then
        some (g.resolveAs k (tx k) (firstVisit g.rxSeq (tx k) n))
      else none
  | .wake k =>
      match g.receiver k with
      | .asleep w =>
          if g.dataInEvent.Reached w then
            some (g.resolveAs k (tx k) (waitLoop g.rxSeq (tx k) n))
          else none
      | _ => none
  | l => gateStep n g l

/-- The gate of a device that delivers packets with the numbers `tx`, in which a number may
occur several times. -/
def deliveryMachine : Machine Gate GateLabel := ⟨deliveryStep tx n⟩

theorem Gate.resolveAs_txseq (g : Gate) (k : ℕ) (o : GateOutcome) :
    g.resolveAs k (txseq k) o = g.resolve k o := by
  cases o <;> rfl

/-- **Without copies it is the gate** of a device that numbers its packets one after the
other. -/
theorem deliveryMachine_txseq : deliveryMachine txseq n = gateMachine n := by
  refine congrArg Machine.mk ?_
  funext g l
  cases l with
  | deliver => rfl
  | enter k => simp only [deliveryStep, gateStep, Gate.resolveAs_txseq]
  | wake k =>
    cases hk : g.receiver k <;> simp only [deliveryStep, gateStep, hk, Gate.resolveAs_txseq]
  | release k => rfl

end Step

namespace Gate

variable {tx : ℕ → BitVec 16} {n k : ℕ} {g g' : Gate}

/-- **What a step at the gate does**: a delivery, a visit with one of its three outcomes, or a
release. -/
inductive DeliveryMove (tx : ℕ → BitVec 16) (g : Gate) : Gate → Prop
  /-- The next packet is delivered. -/
  | deliver : DeliveryMove tx g { g.move g.delivered .arrived with delivered := g.delivered + 1 }
  /-- The receiver of a packet tests the gate, and passes it in its turn only. -/
  | visit (k : ℕ) (o : GateOutcome) : g.receiver k = .arrived ∨ (∃ w, g.receiver k = .asleep w) →
    (o = .accept → g.rxSeq + 1 = tx k) → DeliveryMove tx g (g.resolveAs k (tx k) o)
  /-- The receiver of a packet is through with it. -/
  | release (k : ℕ) : g.receiver k = .accepted ∨ g.receiver k = .discarded →
    DeliveryMove tx g { g.move k .done with released := g.released + 1 }

theorem deliveryStep_move {l : GateLabel} (hs : deliveryStep tx n g l = some g') :
    DeliveryMove tx g g' := by
  cases l with
  | deliver =>
    simp only [deliveryStep, gateStep, Option.ite_none_right_eq_some, Option.some.injEq] at hs
    obtain ⟨-, rfl⟩ := hs
    exact .deliver
  | enter k =>
    simp only [deliveryStep, Option.ite_none_right_eq_some, Option.some.injEq] at hs
    obtain ⟨hk, rfl⟩ := hs
    exact .visit k _ (Or.inl hk) firstVisit_accept
  | wake k =>
    simp only [deliveryStep] at hs
    split at hs
    · next w hk =>
      simp only [Option.ite_none_right_eq_some, Option.some.injEq] at hs
      obtain ⟨-, rfl⟩ := hs
      exact .visit k _ (Or.inr ⟨w, hk⟩) waitLoop_accept
    · cases hs
  | release k =>
    simp only [deliveryStep, gateStep, Option.ite_none_right_eq_some, Option.some.injEq] at hs
    obtain ⟨hk, rfl⟩ := hs
    exact .release k hk

/-! ### What the accepted packets are numbered -/

/-- **The invariant**: whatever is delivered, the packets are accepted with the numbers
`0, 1, 2, …`, and `rx_seq` is the number of the last of them. -/
structure Numbered (tx : ℕ → BitVec 16) (g : Gate) : Prop where
  /-- `rx_seq` is one less than the number of packets accepted. -/
  rxSeq_eq : g.rxSeq + 1 = txseq g.passed.length
  /-- The packets accepted are numbered from zero. -/
  passed_eq : ∀ p k, g.passed[p]? = some k → tx k = txseq p
  /-- What has not been delivered has no receiver. -/
  absent : ∀ k, g.delivered ≤ k → g.receiver k = .absent
  /-- Whoever has passed the gate is handling its packet, or through with it. -/
  past : ∀ k ∈ g.passed, g.receiver k = .accepted ∨ g.receiver k = .done

theorem numbered_init (tx : ℕ → BitVec 16) : init.Numbered tx where
  rxSeq_eq := rfl
  passed_eq := fun _ _ h => absurd h (by simp [init])
  absent := fun _ _ => rfl
  past := fun _ h => absurd h List.not_mem_nil

namespace Numbered

/-- Whoever has a receiver has been delivered, since there are no others. -/
theorem lt_delivered (h : g.Numbered tx) (hk : g.receiver k ≠ .absent) : k < g.delivered :=
  Nat.lt_of_not_le fun hle => hk (h.absent k hle)

/-- A receiver that goes on leaves those of packets to come alone, of which there are none
yet. -/
theorem absent_move (h : g.Numbered tx) (hk : g.receiver k ≠ .absent) (pc : ReceiverPc) (j : ℕ)
    (hj : g.delivered ≤ j) : (g.move k pc).receiver j = .absent := by
  have hlt := h.lt_delivered hk
  rw [move_receiver, if_neg (by omega)]
  exact h.absent j hj

/-- A receiver that has not passed the gate leaves those that have alone. -/
theorem past_move (h : g.Numbered tx) (hk : k ∉ g.passed) (pc : ReceiverPc) (j : ℕ)
    (hj : j ∈ g.passed) :
    (g.move k pc).receiver j = .accepted ∨ (g.move k pc).receiver j = .done := by
  have hne : j ≠ k := by
    rintro rfl
    exact hk hj
  rw [move_receiver, if_neg hne]
  exact h.past j hj

/-- A receiver before the gate has not passed it, and will not be found among those that
have. -/
theorem notMem_passed (h : g.Numbered tx)
    (hk : g.receiver k = .arrived ∨ ∃ w, g.receiver k = .asleep w) : k ∉ g.passed := by
  intro hmem
  rcases hk with hk | ⟨w, hk⟩ <;> rcases h.past k hmem with he | he <;> rw [hk] at he <;> cases he

/-- **Leaving the gate in one's turn**, with which the number becomes the last that has been
seen. -/
theorem accept (h : g.Numbered tx) (hk : g.receiver k ≠ .absent) (hnew : k ∉ g.passed)
    (hturn : g.rxSeq + 1 = tx k) :
    (g.resolveAs k (tx k) .accept).Numbered tx where
  rxSeq_eq := by
    change tx k + 1 = txseq (g.passed ++ [k]).length
    rw [← hturn, h.rxSeq_eq, List.length_append, List.length_singleton]
    exact (BitVec.ofNat_add ..).symm
  passed_eq := by
    intro p j hp
    change (g.passed ++ [k])[p]? = some j at hp
    rcases Nat.lt_trichotomy p g.passed.length with hlt | rfl | hgt
    · rw [List.getElem?_append_left hlt] at hp
      exact h.passed_eq p j hp
    · rw [List.getElem?_append_right le_rfl, Nat.sub_self] at hp
      cases hp
      exact hturn.symm.trans h.rxSeq_eq
    · rw [List.getElem?_eq_none (by simp; omega)] at hp
      cases hp
  absent := fun j hj => h.absent_move hk .accepted j hj
  past := by
    intro j hj
    rcases List.mem_append.mp hj with hj | hj
    · exact h.past_move hnew .accepted j hj
    · obtain rfl := List.mem_singleton.mp hj
      exact Or.inl (Function.update_self ..)

/-- **One step keeps the invariant**, with any numbers on the packets. -/
theorem step (h : g.Numbered tx) (hm : DeliveryMove tx g g') : g'.Numbered tx := by
  cases hm with
  | deliver =>
    have hnew : g.delivered ∉ g.passed := by
      intro hmem
      rcases h.past _ hmem with he | he <;> rw [h.absent _ le_rfl] at he <;> cases he
    refine ⟨h.rxSeq_eq, h.passed_eq, fun j hj => ?_, h.past_move hnew .arrived⟩
    change g.delivered + 1 ≤ j at hj
    change (g.move g.delivered .arrived).receiver j = _
    rw [move_receiver, if_neg (by omega)]
    exact h.absent j (by omega)
  | visit k o hk hturn =>
    have hne : g.receiver k ≠ .absent := by rcases hk with hk | ⟨w, hk⟩ <;> rw [hk] <;> nofun
    have hnew := h.notMem_passed hk
    cases o with
    | sleep => exact ⟨h.rxSeq_eq, h.passed_eq, h.absent_move hne _, h.past_move hnew _⟩
    | discard => exact ⟨h.rxSeq_eq, h.passed_eq, h.absent_move hne _, h.past_move hnew _⟩
    | accept => exact h.accept hne hnew (hturn rfl)
  | release k hk =>
    have hne : g.receiver k ≠ .absent := by rcases hk with hk | hk <;> rw [hk] <;> nofun
    refine ⟨h.rxSeq_eq, h.passed_eq, h.absent_move hne _, fun j hj => ?_⟩
    change (g.move k .done).receiver j = _ ∨ (g.move k .done).receiver j = _
    rw [move_receiver]
    split
    · exact Or.inr rfl
    · exact h.past j hj

end Numbered

theorem numbered_of_reachable (h : (deliveryMachine tx n).Reachable init g) : g.Numbered tx :=
  h.invariant (numbered_init tx) fun _ _ _ hi _ hs => hi.step (deliveryStep_move hs)

/-! ### Thrown away is thrown away -/

/-- The packet has been thrown away, and its receiver is through with it or soon will be. -/
structure Gone (k : ℕ) (g : Gate) : Prop where
  delivered : k < g.delivered
  receiver : g.receiver k = .discarded ∨ g.receiver k = .done
  notMem : k ∉ g.passed

/-- Another receiver goes on, and this one stays where it has come to its end. -/
theorem Gone.move_of_ne (h : g.Gone k) {j : ℕ} (hj : k ≠ j) (pc : ReceiverPc) :
    (g.move j pc).receiver k = .discarded ∨ (g.move j pc).receiver k = .done := by
  rw [move_receiver, if_neg hj]
  exact h.receiver

theorem Gone.step (h : g.Gone k) (hm : DeliveryMove tx g g') : g'.Gone k := by
  cases hm with
  | deliver =>
    exact ⟨Nat.lt_succ_of_lt h.delivered, h.move_of_ne h.delivered.ne _, h.notMem⟩
  | visit j o hj hturn =>
    have hne : k ≠ j := by
      rintro rfl
      rcases hj with hj | ⟨w, hj⟩ <;> rcases h.receiver with hk | hk <;> rw [hk] at hj <;> cases hj
    cases o with
    | sleep => exact ⟨h.delivered, h.move_of_ne hne _, h.notMem⟩
    | discard => exact ⟨h.delivered, h.move_of_ne hne _, h.notMem⟩
    | accept =>
      refine ⟨h.delivered, h.move_of_ne hne _, ?_⟩
      change k ∉ g.passed ++ [j]
      simp [h.notMem, hne]
  | release j hj =>
    refine ⟨h.delivered, ?_, h.notMem⟩
    change (g.move j .done).receiver k = _ ∨ (g.move j .done).receiver k = _
    rw [move_receiver]
    split
    · exact Or.inr rfl
    · exact h.receiver

theorem Gone.of_reachable (h : g.Gone k) (hr : (deliveryMachine tx n).Reachable g g') :
    g'.Gone k :=
  hr.invariant h fun _ _ _ hi _ hs => hi.step (deliveryStep_move hs)

end Gate

/-! ### Copies -/

section Copies

variable {tx : ℕ → BitVec 16} {n i p : ℕ} {g : Gate}

/-- **A copy**: packet `i` has arrived with the number of the packet that was accepted
after `p` others. -/
structure Gate.Copy (tx : ℕ → BitVec 16) (g : Gate) (i p : ℕ) : Prop where
  arrived : g.receiver i = .arrived
  original : ∃ k, g.passed[p]? = some k ∧ tx i = tx k

/-- **Thrown away at once**: when the receiver of the packet takes the lock, it discards
the packet without sleeping; `rx_seq` and the packets handled stay as they are, and the
packet is not among those handled in any state reached from there. -/
def Gate.DroppedAtOnce (tx : ℕ → BitVec 16) (n : ℕ) (g : Gate) (i : ℕ) : Prop :=
  ∃ g', deliveryStep tx n g (.enter i) = some g' ∧ g'.receiver i = .discarded ∧
    g'.rxSeq = g.rxSeq ∧ g'.passed = g.passed ∧
    ∀ g'', (deliveryMachine tx n).Reachable g' g'' → i ∉ g''.passed

theorem deliveryStep_enter (hi : g.receiver i = .arrived) :
    deliveryStep tx n g (.enter i) = some (g.resolveAs i (tx i) (firstVisit g.rxSeq (tx i) n)) :=
  if_pos hi

/-- A packet that is thrown away has not been accepted, and never is. -/
theorem Gate.Numbered.dropped_of_discard (h : g.Numbered tx) (hi : g.receiver i = .arrived)
    (hd : firstVisit g.rxSeq (tx i) n = .discard) : g.DroppedAtOnce tx n i := by
  refine ⟨g.resolveAs i (tx i) .discard, by rw [deliveryStep_enter hi, hd], ?_, rfl, rfl, ?_⟩
  · exact Function.update_self ..
  · intro g'' hr
    have hgone : (g.resolveAs i (tx i) .discard).Gone i :=
      ⟨h.lt_delivered (by rw [hi]; nofun), Or.inl (Function.update_self ..),
        h.notMem_passed (Or.inl hi)⟩
    exact (hgone.of_reachable hr).notMem

/-- Only `discard` leaves the receiver where a discarded packet has it, so that the visit must
have come out so. -/
theorem Gate.DroppedAtOnce.discard (h : g.DroppedAtOnce tx n i) (hi : g.receiver i = .arrived) :
    firstVisit g.rxSeq (tx i) n = .discard := by
  obtain ⟨g', hs, hrec, -⟩ := h
  rw [deliveryStep_enter hi, Option.some.injEq] at hs
  rw [← hs] at hrec
  cases hv : firstVisit g.rxSeq (tx i) n with
  | sleep =>
    rw [hv] at hrec
    exact absurd ((Function.update_self ..).symm.trans hrec) nofun
  | discard => rfl
  | accept =>
    rw [hv] at hrec
    exact absurd ((Function.update_self ..).symm.trans hrec) nofun

/-- **Which copies are thrown away at once.** In every run, with any number of
transfers and whatever is delivered: the copy of the packet accepted after `p` others is
dropped at once exactly when its number is below the one expected, and that number, with
the number of transfers, fits in sixteen bits. -/
theorem duplicate_dropped_iff (h : (deliveryMachine tx n).Reachable Gate.init g)
    (hcopy : g.Copy tx i p) :
    g.DroppedAtOnce tx n i ↔
      p % 65536 < g.passed.length % 65536 ∧ g.passed.length % 65536 + n < 65536 := by
  have hnum := Gate.numbered_of_reachable h
  obtain ⟨hi, k, hp, heq⟩ := hcopy
  have hdiscard : g.DroppedAtOnce tx n i ↔ firstVisit g.rxSeq (tx i) n = .discard :=
    ⟨fun hd => hd.discard hi, fun hd => hnum.dropped_of_discard hi hd⟩
  rw [hdiscard, firstVisit_discard_iff, hnum.rxSeq_eq, heq, hnum.passed_eq p k hp,
    BitVec.toNat_ofNat, BitVec.toNat_ofNat]

/-- The first packet of a device with three transfers, delivered twice. The copy is dropped. -/
theorem duplicate_dropped_iff_first :
    ∃ g : Gate, g.passed = [0] ∧ g.DroppedAtOnce (fun _ => 0) numRxLoops 1 := by
  obtain ⟨g, hr, hp⟩ := (deliveryMachine (fun _ => 0) numRxLoops).exists_reaches_of_runOk
    (fun _ _ => True) Gate.init [.deliver, .enter 0, .deliver]
    (fun g => g.passed = [0] ∧ g.receiver 1 = .arrived) (by decide)
  obtain ⟨hpassed, harrived⟩ := of_decide_eq_true hp
  have hcopy : g.Copy (fun _ => 0) 1 0 := ⟨harrived, 0, by rw [hpassed]; rfl, rfl⟩
  refine ⟨g, hpassed, (duplicate_dropped_iff hr hcopy).mpr ?_⟩
  rw [hpassed]
  decide

/-! ### A copy close to the wrap -/

/-- The packets of a device that delivers packet `m` twice in a row. -/
def lastTwice (m k : ℕ) : BitVec 16 := if k = m + 1 then txseq m else txseq k

/-- Packets that arrive one at a time go through, up to the copy. -/
theorem reaches_lastTwice (hn : 1 ≤ n) {m k : ℕ} (hk : k ≤ m + 1) :
    (deliveryMachine (lastTwice m) n).Reachable Gate.init (Gate.afterInOrder k) := by
  induction k with
  | zero => exact Gate.afterInOrder_zero ▸ .refl
  | succ k ih =>
    obtain ⟨g₁, g₂, hdeliver, henter, hrelease⟩ := Gate.afterInOrder_steps hn k
    have htx : lastTwice m k = txseq k := if_neg (by omega)
    have henter' : deliveryStep (lastTwice m) n g₁ (.enter k) = some g₂ := by
      rw [← henter]
      simp only [deliveryStep, gateStep, htx, Gate.resolveAs_txseq]
    exact (((ih (by omega)).tail GateLabel.deliver trivial hdeliver).tail (GateLabel.enter k)
      trivial henter').tail (GateLabel.release k) trivial hrelease

/-- Packet `m` has gone through, the last of all, and has arrived again. -/
theorem exists_copy_of_last (hn : 1 ≤ n) (m : ℕ) :
    ∃ g, (deliveryMachine (lastTwice m) n).Reachable Gate.init g ∧
      g.Copy (lastTwice m) (m + 1) m ∧ g.passed = List.range (m + 1) := by
  obtain ⟨g₁, -, hdeliver, -⟩ := Gate.afterInOrder_steps hn (m + 1)
  have hg : g₁ = { (Gate.afterInOrder (m + 1)).move (m + 1) .arrived with
      delivered := m + 2 } := by
    simp only [gateStep, Option.ite_none_right_eq_some, Option.some.injEq] at hdeliver
    exact hdeliver.2.symm
  refine ⟨g₁, (reaches_lastTwice hn le_rfl).tail GateLabel.deliver trivial hdeliver,
    ⟨?_, m, ?_, ?_⟩, by rw [hg]; rfl⟩
  · rw [hg]
    exact Function.update_self ..
  · rw [hg]
    exact List.getElem?_range (Nat.lt_succ_self m)
  · exact (if_pos rfl).trans (if_neg (by omega)).symm

/-- **A copy that is told to wait.** Three transfers and 65533 packets, one after the
other; the last of them is delivered again. Its number is below the one expected, and its
receiver goes to sleep. -/
theorem duplicate_sleeps_at_wrap :
    ∃ g, (deliveryMachine (lastTwice 65532) numRxLoops).Reachable Gate.init g ∧
      g.Copy (lastTwice 65532) 65533 65532 ∧ g.passed.length ≤ 65532 + 1 + 2 ^ 15 ∧
      ¬g.DroppedAtOnce (lastTwice 65532) numRxLoops 65533 := by
  obtain ⟨g, hr, hcopy, hpassed⟩ := exists_copy_of_last (n := numRxLoops) (by decide) 65532
  have hlength : g.passed.length = 65533 := by rw [hpassed, List.length_range]
  refine ⟨g, hr, hcopy, by omega, fun hd => ?_⟩
  have hdiscard := firstVisit_discard_iff.mp (hd.discard hcopy.arrived)
  rw [(Gate.numbered_of_reachable hr).rxSeq_eq, hlength] at hdiscard
  exact absurd hdiscard.2 (by decide)

end Copies

end Usbmuxd
