import Usbmuxd.Library.Serial
import Usbmuxd.Tcp.Acknowledged

/-!
# The window of the newest acknowledgement

A receiver that counts its segment takes over its acknowledgement and its window, whatever
they were before. The gate on `_stx.ack` lets segments pass in the order of the stream, but
pure acknowledgements between two payloads all start at the same position, and pass in
any order. The last one to pass wins, and it may be an old one.

The segments before the newest one counted that have not been counted themselves must
therefore say the same as it (`Usbmuxd.Tcp.Newest`). That is the case if no segment is
counted before an earlier one that says something else (`Usbmuxd.Tcp.CountsInOrder`).

What is asked for is modest: when all calls have returned, the window should be the one of the
newest segment. It is not asked that the window never goes back in between. The condition is
accordingly weak: acknowledgements that say the same may pass in any order, and for segments
with payload nothing has to be asked, since the gate keeps these in order by itself. Only an
older acknowledgement that says something else must not come after a newer one.
-/

namespace Usbmuxd

open Interleaving

namespace Tcp

/-! ### What the device has said -/

/-- The acknowledgement of the last of the first `n` segments, or `a₀` before the first. -/
def ackBefore (a₀ : BitVec 32) (segs : List Segment) : ℕ → BitVec 32
  | 0 => a₀
  | n + 1 => (segs[n]?).elim a₀ fun s => s.hdr.thAck

/-- The window of the last of the first `n` segments, or `w₀` before the first. -/
def windowBefore (w₀ : BitVec 32) (segs : List Segment) : ℕ → BitVec 32
  | 0 => w₀
  | n + 1 => (segs[n]?).elim w₀ Segment.window

/-- **`th_ack` does not go backwards** from `a` to `b`, in the serial order. -/
def NotBackwards (a b : BitVec 32) : Prop := SerialNumber.distance a b < 2 ^ 31

instance (a b : BitVec 32) : Decidable (NotBackwards a b) :=
  inferInstanceAs (Decidable (_ < _))

theorem NotBackwards.rfl {a : BitVec 32} : NotBackwards a a := by
  rw [NotBackwards, SerialNumber.distance, BitVec.sub_self]
  decide

/-- **The acknowledgements of the device do not go backwards**, starting from `a₀`. This is said
of the order in which the segments arrive, not of that in which they are counted. -/
def AcksForward (a₀ : BitVec 32) (c : Tcp) : Label → Prop
  | .input (.call s) => NotBackwards (ackBefore a₀ c.segs c.segs.length) s.hdr.thAck
  | _ => True

instance (a₀ : BitVec 32) (c : Tcp) (l : Label) : Decidable (AcksForward a₀ c l) :=
  match l with
  | .input (.call _) => inferInstanceAs (Decidable (NotBackwards _ _))
  | .input (.lockStx _ _) | .input (.ackWake _) | .input (.lockClientSend _)
  | .input (.fwdWake _) | .input (.fwdTest _) | .input (.send _ _) | .loop _ | .connect _
  | .deconstruct | .notify _ => isTrue trivial

/-- **No segment is counted before an earlier one that says something else**: when a call
counts its segment, every earlier call that has not counted its own has the same
acknowledgement and the same window. -/
def CountsInOrder (c : Tcp) : Label → Prop
  | .input (.lockStx i _) => ∀ s ∈ c.segs[i]?, c.core.stx.ack = s.hdr.thSeq →
      ∀ j < i, ¬(c.handler j).Counted → ∀ t ∈ c.segs[j]?,
        t.hdr.thAck = s.hdr.thAck ∧ t.hdr.thWin = s.hdr.thWin
  | _ => True

instance (c : Tcp) (l : Label) : Decidable (CountsInOrder c l) :=
  match l with
  | .input (.lockStx i _) => inferInstanceAs (Decidable (∀ s ∈ c.segs[i]?, _))
  | .input (.call _) | .input (.ackWake _) | .input (.lockClientSend _) | .input (.fwdWake _)
  | .input (.fwdTest _) | .input (.send _ _) | .loop _ | .connect _ | .deconstruct
  | .notify _ => isTrue trivial

variable {c c' : Tcp} {i n : ℕ} {s : Segment} {l : Label} {a₀ w₀ : BitVec 32}

theorem ackBefore_succ (hs : c.segs[i]? = some s) :
    ackBefore a₀ c.segs (i + 1) = s.hdr.thAck := by
  rw [ackBefore, hs, Option.elim_some]

theorem windowBefore_succ (hs : c.segs[i]? = some s) :
    windowBefore w₀ c.segs (i + 1) = s.window := by
  rw [windowBefore, hs, Option.elim_some]

theorem ackBefore_append (hn : n ≤ c.segs.length) (s : Segment) :
    ackBefore a₀ (c.segs ++ [s]) n = ackBefore a₀ c.segs n := by
  cases n with
  | zero => rfl
  | succ n => rw [ackBefore, ackBefore, List.getElem?_append_left hn]

theorem windowBefore_append (hn : n ≤ c.segs.length) (s : Segment) :
    windowBefore w₀ (c.segs ++ [s]) n = windowBefore w₀ c.segs n := by
  cases n with
  | zero => rfl
  | succ n => rw [windowBefore, windowBefore, List.getElem?_append_left hn]

/-! ### The invariant -/

/-- **The window is that of the newest segment counted**, the last of the first `n`, and
those before it that have not been counted say the same. -/
structure Newest (a₀ w₀ : BitVec 32) (n : ℕ) (c : Tcp) : Prop where
  le_length : n ≤ c.segs.length
  seqAcked : c.core.stx.seqAcked = ackBefore a₀ c.segs n
  inWin : c.core.stx.inWin = windowBefore w₀ c.segs n
  newest : ∀ j, n ≤ j → ¬(c.handler j).Counted
  same : ∀ j < n, ¬(c.handler j).Counted → ∀ s ∈ c.segs[j]?,
    s.hdr.thAck = c.core.stx.seqAcked ∧ s.window = c.core.stx.inWin

/-- The acknowledgements got so far do not go backwards, which is what the condition comes to in
a state. -/
def Forward (a₀ : BitVec 32) (c : Tcp) : Prop :=
  ∀ i s, c.segs[i]? = some s → NotBackwards (ackBefore a₀ c.segs i) s.hdr.thAck

theorem Forward.step (h : c.Forward a₀) (hplain : c.PlainAcks) (hok : c.AcksForward a₀ l)
    (hs : c.step l = some c') : c'.Forward a₀ := by
  rcases step_moves hplain.absent hs with ⟨s, rfl, rfl⟩ | ⟨i, pc, hm⟩ | ⟨hsegs, -⟩
  · intro i t ht
    rw [enter_segs] at ht ⊢
    rcases Nat.lt_or_ge i c.segs.length with hlt | hge
    · rw [List.getElem?_append_left hlt] at ht
      rw [ackBefore_append hlt.le]
      exact h i t ht
    · have hlt := (List.getElem?_eq_some_iff.mp ht).1
      rw [List.length_append, List.length_singleton] at hlt
      obtain rfl : i = c.segs.length := by omega
      obtain rfl : s = t := by simpa using ht
      rw [ackBefore_append le_rfl]
      exact hok
  · rw [Forward, hm.segs]
    exact h
  · rw [Forward, hsegs]
    exact h

namespace Newest

/-- Steps that count no segment leave the window as it is. -/
theorem of_same (h : c.Newest a₀ w₀ n) (hseq : c'.core.stx.seqAcked = c.core.stx.seqAcked)
    (hwin : c'.core.stx.inWin = c.core.stx.inWin)
    (hcounted : ∀ j, (c'.handler j).Counted ↔ (c.handler j).Counted)
    (hsegs : c'.segs = c.segs ∨ ∃ s, c'.segs = c.segs ++ [s]) : c'.Newest a₀ w₀ n := by
  have hlen : c.segs.length ≤ c'.segs.length := by
    rcases hsegs with he | ⟨s, he⟩ <;> simp [he]
  -- a segment that is handed over meanwhile comes behind the first `n`
  have hget : ∀ j < n, c'.segs[j]? = c.segs[j]? := by
    intro j hj
    rcases hsegs with he | ⟨s, he⟩
    · rw [he]
    · rw [he, List.getElem?_append_left (by have := h.le_length; omega)]
  refine ⟨h.le_length.trans hlen, ?_, ?_, ?_, ?_⟩
  · rw [hseq, h.seqAcked]
    rcases hsegs with he | ⟨s, he⟩
    · rw [he]
    · rw [he, ackBefore_append h.le_length]
  · rw [hwin, h.inWin]
    rcases hsegs with he | ⟨s, he⟩
    · rw [he]
    · rw [he, windowBefore_append h.le_length]
  · intro j hj
    rw [hcounted]
    exact h.newest j hj
  · intro j hj hnot t ht
    rw [hcounted] at hnot
    rw [hget j hj] at ht
    rw [hseq, hwin]
    exact h.same j hj hnot t ht

/-- **A call that counts its segment** finds nothing newer that has been counted and says
something else. -/
theorem count (h : c.Newest a₀ w₀ n) (hfor : c.Forward a₀) (hi : c.segs[i]? = some s)
    (hfirst : ¬(c.handler i).Counted) (members : Bool)
    (hok : ∀ j < i, ¬(c.handler j).Counted → ∀ t ∈ c.segs[j]?,
      t.hdr.thAck = s.hdr.thAck ∧ t.hdr.thWin = s.hdr.thWin) :
    (∃ n', ({ c.moveHandler i (secondHalf s) with
        core := c.core.countSegment s members } : Tcp).Newest a₀ w₀ n') ∧
      NotBackwards c.core.stx.seqAcked s.hdr.thAck := by
  have hlt := lt_of_getElem? hi
  -- who has not been counted afterwards
  have hnot : ∀ j, ¬((c.moveHandler i (secondHalf s)).handler j).Counted →
      j ≠ i ∧ ¬(c.handler j).Counted := by
    intro j hj
    rcases eq_or_ne j i with rfl | hne
    · rw [moveHandler_handler, if_pos rfl] at hj
      exact absurd (counted_secondHalf s) hj
    · rw [moveHandler_handler, if_neg hne] at hj
      exact ⟨hne, hj⟩
  have hother : ∀ j, j ≠ i → ¬(c.handler j).Counted →
      ¬((c.moveHandler i (secondHalf s)).handler j).Counted := by
    intro j hne hj
    rwa [moveHandler_handler, if_neg hne]
  rcases Nat.lt_or_ge i n with hold | hnew
  · -- the segment is not the newest, and says what is known already
    obtain ⟨hack, hwin⟩ := h.same i hold hfirst s hi
    refine ⟨⟨n, h.le_length, ?_, ?_, ?_, ?_⟩, ?_⟩
    · rw [Core.countSegment_seqAcked, hack]
      exact h.seqAcked
    · rw [Core.countSegment_inWin, hwin]
      exact h.inWin
    · intro j hj
      exact hother j (by omega) (h.newest j hj)
    · intro j hj hcounted t ht
      rw [Core.countSegment_seqAcked, Core.countSegment_inWin, hack, hwin]
      exact h.same j hj (hnot j hcounted).2 t ht
    · rw [hack]
      exact .rfl
  · refine ⟨⟨i + 1, hlt, ?_, ?_, ?_, ?_⟩, ?_⟩
    · rw [Core.countSegment_seqAcked]
      exact (ackBefore_succ hi).symm
    · rw [Core.countSegment_inWin]
      exact (windowBefore_succ hi).symm
    · intro j hj
      exact hother j (by omega) (h.newest j (by omega))
    · intro j hj hcounted t ht
      obtain ⟨hne, hj'⟩ := hnot j hcounted
      obtain ⟨hack, hwin⟩ := hok j (by omega) hj' t ht
      rw [Core.countSegment_seqAcked, Core.countSegment_inWin, Segment.window, hwin]
      exact ⟨hack, rfl⟩
    · rw [h.seqAcked]
      rcases eq_or_lt_of_le hnew with rfl | hgap
      · exact hfor n s hi
      · -- the segment after the newest one counted says the same as this one
        have hn : n < c.segs.length := by omega
        have hget : c.segs[n]? = some c.segs[n] := List.getElem?_eq_getElem hn
        have hsame := hok n hgap (h.newest n le_rfl) _ hget
        rw [← hsame.1]
        exact hfor n _ hget

/-- **One step keeps the invariant**, and does not go back. It goes on by one segment, or it
stays. -/
theorem step (h : c.Newest a₀ w₀ n) (hfor : c.Forward a₀) (hplain : c.PlainAcks)
    (hok : OnlyAcks l) (horder : c.CountsInOrder l) (hs : c.step l = some c') :
    (∃ n', c'.Newest a₀ w₀ n') ∧
      NotBackwards c.core.stx.seqAcked c'.core.stx.seqAcked := by
  by_cases hpass : ∃ i, c.Passes l i
  · obtain ⟨i, hpass⟩ := hpass
    have hfirst : ¬(c.handler i).Counted := by
      obtain ⟨-, -, -, -, hfirst, -⟩ := hpass
      exact fun hcounted => hcounted.not_inFirstHalf hfirst
    obtain ⟨members, s, rfl, hi, hack, rfl⟩ := hplain.eq_of_passes hpass hs
    rw [Core.countSegment_seqAcked]
    exact h.count hfor hi hfirst members (horder s hi hack)
  · rw [not_exists] at hpass
    -- no segment is counted: what the sender knows stays as it is
    have hsame : c'.core.stx.seqAcked = c.core.stx.seqAcked ∧
        c'.core.stx.inWin = c.core.stx.inWin := by
      cases step_window (by simp [hplain.connState]) hs with
      | count members hi hpc hack => exact absurd ⟨members, _, rfl, hi, hpc, hack⟩ (hpass _)
      | transmit | sleep => exact ⟨rfl, rfl⟩
      | deconstruct => exact hok.elim
      | aside ha => exact ⟨ha.seqAcked, ha.inWin⟩
    have hcounted : ∀ j, (c'.handler j).Counted ↔ (c.handler j).Counted := by
      intro j
      rcases hplain.handler_step hs j with ⟨hj, -⟩ | ⟨-, hlingers⟩
      · exact absurd hj (hpass j)
      · exact hlingers.counted
    have hsegs : c'.segs = c.segs ∨ ∃ s, c'.segs = c.segs ++ [s] := by
      rcases step_moves hplain.absent hs with ⟨s, rfl, rfl⟩ | ⟨i, pc, hm⟩ | ⟨hsegs, -⟩
      · exact Or.inr ⟨s, rfl⟩
      · exact Or.inl hm.segs
      · exact Or.inl hsegs
    refine ⟨⟨n, h.of_same hsame.1 hsame.2 hcounted hsegs⟩, ?_⟩
    rw [hsame.1]
    exact .rfl

end Newest

/-- A connection in `CONN_CONNECTED` before the first segment: no call of `handle_input` has
been made. -/
structure NoSegmentYet (c : Tcp) : Prop where
  connState : c.core.connState = .connConnected
  segs : c.segs = []
  handler : ∀ i, c.handler i = .absent

end Tcp

/-! ### The newest acknowledgement wins -/

open Tcp

/-- **The send window reflects the newest acknowledgement**, after a step from `c` to
`c'`: `_stx.seqAcked` has not gone backwards, and if all calls have returned,
`_stx.seqAcked` and `_stx.inWin` are those of the last segment. -/
structure Tcp.NewestAck (c c' : Tcp) : Prop where
  forward : NotBackwards c.core.stx.seqAcked c'.core.stx.seqAcked
  last : (∀ i < c'.segs.length, c'.handler i = .returned) → ∀ s ∈ c'.segs.getLast?,
    c'.core.stx.seqAcked = s.hdr.thAck ∧ c'.core.stx.inWin = s.window

/-- **The newest acknowledgement wins**, at every step of every run on a connection that
stays `CONN_CONNECTED` and gets plain acknowledgements that do not go backwards, in which
no segment is counted before an earlier one that says something else. -/
theorem newest_ack_wins {c₀ c c' : Tcp} {l : Label} (h₀ : c₀.NoSegmentYet)
    (h : tcpMachine.Reaches (fun c l => OnlyAcks l ∧ c.AcksForward c₀.core.stx.seqAcked l ∧
      c.CountsInOrder l) c₀ c)
    (hl : OnlyAcks l ∧ c.AcksForward c₀.core.stx.seqAcked l ∧ c.CountsInOrder l)
    (hs : c.step l = some c') : c.NewestAck c' := by
  have hinv := h.invariant (I := fun c => c.PlainAcks ∧ c.Forward c₀.core.stx.seqAcked ∧
      ∃ n, c.Newest c₀.core.stx.seqAcked c₀.core.stx.inWin n)
    ⟨⟨h₀.connState, by simp [h₀.segs], fun j _ => h₀.handler j⟩,
      fun i s hi => by simp [h₀.segs] at hi,
      0, Nat.zero_le _, rfl, rfl, fun j _ => by simp [h₀.handler j, HandlerPc.Counted],
      fun j hj => absurd hj (Nat.not_lt_zero j)⟩
    fun c l c' ⟨hplain, hfor, n, hn⟩ ⟨hok, hacks, horder⟩ hs =>
      ⟨hplain.step hok hs, hfor.step hplain hacks hs, (hn.step hfor hplain hok horder hs).1⟩
  obtain ⟨hplain, hfor, n, hn⟩ := hinv
  obtain ⟨⟨n', hn'⟩, hforward⟩ := hn.step hfor hplain hl.1 hl.2.2 hs
  refine ⟨hforward, ?_⟩
  intro hall s hlast
  -- all segments have been counted, so the newest one is the last
  have hlen : n' = c'.segs.length := by
    refine le_antisymm hn'.le_length (Nat.le_of_not_lt ?_)
    intro hlt
    refine hn'.newest n' le_rfl ?_
    rw [hall n' hlt]
    trivial
  rw [Option.mem_def, List.getLast?_eq_getElem?] at hlast
  have hpos : c'.segs.length = c'.segs.length - 1 + 1 := by
    have hlt := lt_of_getElem? hlast
    omega
  rw [hn'.seqAcked, hn'.inWin, hlen, hpos]
  exact ⟨ackBefore_succ hlast, windowBefore_succ hlast⟩

theorem Tcp.established_noSegmentYet (seq S0 : BitVec 32) :
    (established seq S0).NoSegmentYet where
  connState := rfl
  segs := rfl
  handler := fun _ => rfl

/-- Two acknowledgements without payload. They start at the same position, so that neither has
to wait for the other. -/
def Tcp.twoAcks : List Label :=
  [.input (.call (segmentWith 0 [] 5 3)), .input (.call (segmentWith 0 [] 7 2))]

/-- Two acknowledgements handled in their order, after which the newer one counts. -/
theorem newest_ack_wins_in_order :
    ∃ c c' : Tcp, (c'.core.stx.seqAcked = 7 ∧ ∀ i < 2, c'.handler i = .returned) ∧
      c.NewestAck c' := by
  obtain ⟨c, hr, hp⟩ := tcpMachine.exists_reaches_of_runOk
    (fun c l => OnlyAcks l ∧ c.AcksForward 0 l ∧ c.CountsInOrder l) (established 0 0)
    (twoAcks ++ [.input (.lockStx 0 false)])
    (fun c => decide (OnlyAcks (.input (.lockStx 1 false)) ∧
        c.AcksForward 0 (.input (.lockStx 1 false)) ∧
          c.CountsInOrder (.input (.lockStx 1 false))) &&
      (c.step (.input (.lockStx 1 false))).any fun c' =>
        c'.core.stx.seqAcked = 7 ∧ ∀ i < 2, c'.handler i = .returned) (by decide)
  rw [Bool.and_eq_true, decide_eq_true_eq, Option.any_eq_true] at hp
  obtain ⟨hl, c', hs, hc'⟩ := hp
  exact ⟨c, c', of_decide_eq_true hc', newest_ack_wins (established_noSegmentYet 0 0) hr hl hs⟩

/-- **An old acknowledgement wins**: of two acknowledgements without payload the newer one
passes first, and the older one takes the window back. -/
theorem old_ack_wins :
    ∃ c c' l, tcpMachine.Reaches
        (fun c l => c.InStream 0 l ∧ NotTornDown l ∧ c.AcksForward 0 l) (established 0 0) c ∧
      c.step l = some c' ∧ (c.InStream 0 l ∧ NotTornDown l ∧ c.AcksForward 0 l) ∧
        ¬NotBackwards c.core.stx.seqAcked c'.core.stx.seqAcked ∧ ¬c.NewestAck c' := by
  obtain ⟨c, hr, hp⟩ := tcpMachine.exists_reaches_of_runOk
    (fun c l => c.InStream 0 l ∧ NotTornDown l ∧ c.AcksForward 0 l) (established 0 0)
    (twoAcks ++ [.input (.lockStx 1 false)])
    (fun c => (c.step (.input (.lockStx 0 false))).any fun c' =>
      ¬NotBackwards c.core.stx.seqAcked c'.core.stx.seqAcked) (by decide)
  rw [Option.any_eq_true] at hp
  obtain ⟨c', hs, hback⟩ := hp
  have hback := of_decide_eq_true hback
  exact ⟨c, c', _, hr, hs, ⟨trivial, trivial, trivial⟩, hback, fun hnew => hback hnew.forward⟩

end Usbmuxd
